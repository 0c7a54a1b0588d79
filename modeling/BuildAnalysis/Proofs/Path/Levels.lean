import BuildAnalysis.Proofs.Path.Relative

/-!
# Levels above a directory

One level above a directory its last name is missing. There is nothing above the root; a relative
path without a name to take back goes up by one more name. A path that goes up and then down again
leads to names below a directory some levels above.

* `IsAbove.foldl_push`: names that lead up are taken back level by level.
* `leadsUpAndDown_iff`: where a path leads that goes up and down again.
-/

namespace BuildAnalysis.Path

variable {absolute : Bool} {levels : Nat} {base name p q : String} {ns parent above down : List String}

/-- Whether names are those of the directory one level above that of others. -/
inductive IsParent : Bool → List String → List String → Prop
  | plain {absolute : Bool} {ns : List String} {name : String} (h : IsPlainName name) :
    IsParent absolute (ns ++ [name]) ns
  | root : IsParent true [] []
  | up (ups : Nat) : IsParent false (List.replicate ups "..") (List.replicate (ups + 1) "..")

/-- Whether names are those of the directory some levels above that of others. -/
inductive IsAbove (absolute : Bool) : Nat → List String → List String → Prop
  | here (ns : List String) : IsAbove absolute 0 ns ns
  | up {levels : Nat} {ns parent above : List String} (h : IsParent absolute ns parent)
    (habove : IsAbove absolute levels parent above) : IsAbove absolute (levels + 1) ns above

/-- Whether a path leads from a directory some levels up, and from there down along names. -/
def LeadsUpAndDown (base : String) (levels : Nat) (down : List String) (p : String) : Prop :=
  ∃ above, IsAbove (isAbsolute base) levels (normalNames base) above ∧
    p = root base ++ ofNames (above ++ down)

/-! ## Going up -/

/-- The directory above is what a name that leads up leaves. -/
theorem IsParent.push_up (h : IsParent absolute ns parent) :
    push absolute ns.reverse ".." = parent.reverse := by
  cases h with
  | plain hname =>
    rw [List.reverse_append, List.reverse_singleton, List.singleton_append,
      push_up_plain absolute _ hname]
  | root => rfl
  | up ups => rw [List.reverse_replicate, List.reverse_replicate, push_up_ups]

/-- Every directory has one above it, or is the root. -/
theorem IsReduced.exists_isParent (h : IsReduced absolute ns) :
    ∃ parent, IsParent absolute ns parent := by
  obtain ⟨ups, plain, rfl, hplain, hups⟩ := h
  rcases List.eq_nil_or_concat plain with rfl | ⟨front, last, rfl⟩
  · rw [List.append_nil]
    cases absolute with
    | true =>
      rw [hups rfl]
      exact ⟨_, .root⟩
    | false => exact ⟨_, .up ups⟩
  · rw [List.concat_eq_append, ← List.append_assoc]
    exact ⟨_, .plain (hplain last (by simp))⟩

theorem IsParent.isReduced (h : IsParent absolute ns parent) (hreduced : IsReduced absolute ns) :
    IsReduced absolute parent := by
  rw [← List.reverse_reverse ns] at hreduced
  have hpush := hreduced.push ".."
  rwa [h.push_up, List.reverse_reverse] at hpush

/-- The names some levels above are what as many names that lead up leave. -/
theorem IsAbove.foldl_push (h : IsAbove absolute levels ns above) :
    (List.replicate levels "..").foldl (push absolute) ns.reverse = above.reverse := by
  induction h with
  | here ns => rfl
  | up hparent _ ih => rw [List.replicate_succ, List.foldl_cons, hparent.push_up, ih]

theorem IsReduced.exists_isAbove (h : IsReduced absolute ns) (levels : Nat) :
    ∃ above, IsAbove absolute levels ns above := by
  induction levels generalizing ns with
  | zero => exact ⟨ns, .here ns⟩
  | succ levels ih =>
    obtain ⟨parent, hparent⟩ := h.exists_isParent
    obtain ⟨above, habove⟩ := ih (hparent.isReduced h)
    exact ⟨above, .up hparent habove⟩

/-- Only one directory is that many levels above. -/
theorem IsAbove.unique {other : List String} (h : IsAbove absolute levels ns above)
    (hother : IsAbove absolute levels ns other) : other = above := by
  rw [← List.reverse_inj, ← hother.foldl_push, h.foldl_push]

/-! ## Going up and down -/

/-- A relative path that is taken relative to another path begins with the slashes of that one. -/
theorem root_join_eq_root (base : String) (hp : isAbsolute p = false) :
    root (join base p) = root base := by
  cases hbase : isAbsolute base with
  | true => exact root_join hbase hp
  | false =>
    have hjoin : isAbsolute (join base p) = false := by
      by_cases hempty : base = ""
      · subst hempty
        rwa [join_eq_append hp]
      · rw [isAbsolute_join hempty hp, hbase]
    have hroot {q : String} (hq : isAbsolute q = false) : root q = "" := by
      rw [← String.empty_append (s := q), root_append (by simp) hq]
      rfl
    rw [hroot hbase, hroot hjoin]

/-- The normal form of a path of which some name remains. -/
theorem normalize_of_mem (h : name ∈ normalNames p) (hname : name ≠ "") :
    normalize p = root p ++ ofNames (normalNames p) := by
  have hne : ofNames (normalNames p) ≠ "" := by
    intro hempty
    have hnames := names_ofNames (List.ne_nil_of_mem h) fun other hother =>
      slash_not_mem_normalNames hother
    rw [hempty] at hnames
    rw [← hnames] at h
    exact hname (List.mem_singleton.1 h)
  rw [normalize]
  simp [hne]

/-- A path that goes up and down again, relative to a directory, leads to the names below the
directory that many levels above. -/
theorem leadsUpAndDown_iff (hp : isAbsolute p = false)
    (hnames : names p = List.replicate levels ".." ++ down)
    (hdown : ∀ name ∈ down, IsPlainName name) (hne : down ≠ []) :
    LeadsUpAndDown base levels down q ↔ q = normalize (join base p) := by
  obtain ⟨above, habove⟩ := (normalNames_isReduced base).exists_isAbove levels
  have hjoin : normalNames (join base p) = above ++ down := by
    rw [normalNames_join_eq_foldl base hp, hnames, List.foldl_append, habove.foldl_push,
      foldl_push_plain _ _ hdown, List.reverse_append, List.reverse_reverse, List.reverse_reverse]
  have hnormalize : normalize (join base p) = root base ++ ofNames (above ++ down) := by
    obtain ⟨last, hlast⟩ := List.exists_mem_of_ne_nil down hne
    have hmem : last ∈ normalNames (join base p) := hjoin ▸ List.mem_append_right above hlast
    rw [normalize_of_mem hmem (hdown last hlast).1, root_join_eq_root base hp, hjoin]
  rw [hnormalize]
  constructor
  · rintro ⟨other, hother, rfl⟩
    rw [habove.unique hother]
  · rintro rfl
    exact ⟨above, habove, rfl⟩

end BuildAnalysis.Path
