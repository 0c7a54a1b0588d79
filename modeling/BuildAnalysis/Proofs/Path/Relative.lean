import BuildAnalysis.Proofs.Path.Normalizing
import Mathlib.Data.List.DropRight

/-!
# Paths relative to a directory

Taken relative to a directory, a relative path takes back as many names of the directory as lead up
in it, and puts its plain names behind the rest.

* `normalNames_join`: the names of a relative path that is taken relative to a directory.
* `absolute_eq_iff`: when a path is the same from two directories.
-/

namespace BuildAnalysis.Path

variable {p base name : String}

theorem join_of_isAbsolute (base : String) (hp : isAbsolute p = true) : join base p = p := by
  rw [join, if_pos hp]

/-- A path that is taken relative to a directory from the root begins at the root itself. -/
theorem isAbsolute_join_of_base (hbase : isAbsolute base = true) (p : String) :
    isAbsolute (join base p) = true := by
  cases hp : isAbsolute p with
  | true => rw [join_of_isAbsolute base hp, hp]
  | false =>
    refine (isAbsolute_join ?_ hp).trans hbase
    rintro rfl
    cases hbase

/-- A path taken relative to a directory from the root is normal. -/
theorem isNormal_absolute (hbase : isAbsolute base = true) (p : String) :
    IsNormal (Path.absolute base p) :=
  isNormal_normalize (isAbsolute_join_of_base hbase p)

/-- How many names of a path lead up when all others are taken together. -/
def ups (p : String) : Nat :=
  (normalNames p).count ".."

/-- The plain names that remain of a path. -/
def plainNames (p : String) : List String :=
  (normalNames p).filter (· != "..")

/-- What names keep in a relative path, and what they keep from names that were there before: as many
of those are taken back as lead up, and the plain names are put before the rest. -/
inductive KeepsOver (stack : List String) : List String → List String → Prop
  | mk (ups : Nat) {plain : List String} (hplain : ∀ name ∈ plain, IsPlainName name) :
    KeepsOver stack (plain ++ List.replicate ups "..") (plain ++ stack.drop ups)

variable {stack relative above : List String}

theorem KeepsOver.push (hstack : ∀ name ∈ stack, IsPlainName name)
    (h : KeepsOver stack relative above) (name : String) :
    KeepsOver stack (push false relative name) (push true above name) := by
  cases h with
  | @mk ups plain hplain =>
    rcases skipped_or_up_or_plain name with hskip | rfl | hname
    · rw [hskip, hskip]
      exact .mk ups hplain
    · cases plain with
      | cons top below =>
        obtain ⟨htop, hbelow⟩ := List.forall_mem_cons.1 hplain
        rw [List.cons_append, List.cons_append, push_up_plain _ _ htop, push_up_plain _ _ htop]
        exact .mk ups hbelow
      | nil =>
        rw [List.nil_append, List.nil_append, push_up_ups]
        have hdrop : push true (stack.drop ups) ".." = stack.drop (ups + 1) := by
          cases hrest : stack.drop ups with
          | nil =>
            rw [List.drop_eq_nil_of_le (Nat.le_succ_of_le (List.drop_eq_nil_iff.1 hrest))]
            rfl
          | cons top below =>
            have htop : IsPlainName top :=
              hstack top (List.mem_of_mem_drop (hrest ▸ List.mem_cons_self))
            rw [push_up_plain _ _ htop, ← List.drop_drop, hrest]
            rfl
        rw [hdrop]
        exact .mk (ups + 1) hplain
    · rw [push_plain _ _ hname, push_plain _ _ hname]
      exact .mk ups (List.forall_mem_cons.2 ⟨hname, hplain⟩)

theorem KeepsOver.foldl_push (hstack : ∀ name ∈ stack, IsPlainName name)
    (h : KeepsOver stack relative above) (ns : List String) :
    KeepsOver stack (ns.foldl (Path.push false) relative) (ns.foldl (Path.push true) above) := by
  induction ns generalizing relative above with
  | nil => exact h
  | cons name rest ih => exact ih (h.push hstack name)

/-- The names of a relative path take back names that were there before, and put plain ones in
their place. -/
theorem foldl_push_names (hstack : ∀ name ∈ stack, IsPlainName name)
    (hp : isAbsolute p = false) :
    (names p).foldl (push true) stack = (plainNames p).reverse ++ stack.drop (ups p) := by
  have hfirst : KeepsOver stack [] stack := @KeepsOver.mk stack 0 [] (List.forall_mem_nil _)
  have hkeeps := hfirst.foldl_push hstack (names p)
  have hnormal : normalNames p = ((names p).foldl (push false) []).reverse := by
    rw [normalNames, hp]
  generalize (names p).foldl (push false) [] = relative at hkeeps hnormal
  generalize (names p).foldl (push true) stack = above at hkeeps
  cases hkeeps with
  | @mk n plain hplain =>
    have hcount : plain.reverse.count ".." = 0 :=
      List.count_eq_zero.2 fun hmem => (hplain ".." (List.mem_reverse.1 hmem)).2.2 rfl
    have hfilter : plain.reverse.filter (· != "..") = plain.reverse :=
      List.filter_eq_self.2 fun name hname =>
        bne_iff_ne.2 (hplain name (List.mem_reverse.1 hname)).2.2
    have hups : ups p = n := by
      rw [ups, hnormal, List.reverse_append, List.reverse_replicate, List.count_append, hcount,
        List.count_replicate_self]
      rfl
    have hnames : plainNames p = plain.reverse := by
      rw [plainNames, hnormal, List.reverse_append, List.reverse_replicate, List.filter_append,
        hfilter, List.filter_eq_nil_iff.2 (by simp), List.nil_append]
    rw [hups, hnames, List.reverse_reverse]

/-- A relative path is followed from where a directory leads. -/
theorem normalNames_join_eq_foldl (base : String) (hp : isAbsolute p = false) :
    normalNames (join base p) =
      ((names p).foldl (push (isAbsolute base)) (normalNames base).reverse).reverse := by
  by_cases hbase : base = ""
  · subst hbase
    have hjoin : join "" p = p := by
      rw [join_eq_append hp]
      rfl
    rw [hjoin, normalNames, hp]
    rfl
  · obtain ⟨parents, hnames, hparents⟩ := names_join hbase hp
    have hfold : parents.foldl (push (isAbsolute base)) [] = (normalNames base).reverse := by
      rw [normalNames, List.reverse_reverse]
      rcases hparents with hparents | hparents
      · rw [hparents]
      · rw [hparents, List.foldl_append]
        rfl
    rw [normalNames, isAbsolute_join hbase hp, hnames, List.foldl_append, hfold]

/-- The names of a relative path that is taken relative to a directory: those of the directory, but
for as many as lead up, and then the plain ones of the path. -/
theorem normalNames_join (hbase : isAbsolute base = true) (hp : isAbsolute p = false) :
    normalNames (join base p) = (normalNames base).rdrop (ups p) ++ plainNames p := by
  have hplain : ∀ name ∈ (normalNames base).reverse, IsPlainName name := fun name hname =>
    isPlainName_of_mem_normalNames hbase name (List.mem_reverse.1 hname)
  rw [normalNames_join_eq_foldl base hp, hbase, foldl_push_names hplain hp, List.reverse_append,
    List.rdrop_eq_reverse_drop_reverse, List.reverse_reverse]

/-- A relative path that is taken relative to a directory begins with the slashes of it. -/
theorem root_join (hbase : isAbsolute base = true) (hp : isAbsolute p = false) :
    root (join base p) = root base := by
  obtain ⟨cs, hcs⟩ := isAbsolute_iff.1 hbase
  by_cases hall : ∀ c ∈ base.toList, c = '/'
  · -- no slash is put behind a directory that ends in one
    have hlast : base.toList.getLast? = some '/' := by
      have hne : base.toList ≠ [] := by simp [hcs]
      rw [List.getLast?_eq_some_getLast hne, hall _ (List.getLast_mem hne)]
    rw [join_eq_append hp, hlast, beq_self_eq_true, Bool.or_true, if_pos rfl,
      root_append hall hp]
  · have hstops : (base.toList.takeWhile (· == '/')).length ≠ base.toList.length := by
      intro hlength
      refine hall fun c hc => ?_
      rw [← (List.takeWhile_prefix _).eq_of_length hlength] at hc
      simpa using List.mem_takeWhile_imp hc
    have htake (q : String) : root (base ++ q) = root base := by
      rw [root, root, String.toList_append, List.takeWhile_append, if_neg hstops]
    rw [join_eq_append hp]
    split
    · exact htake p
    · rw [String.append_assoc, htake]

/-- When a path is the same from two directories: it begins at the root, or the directories have the
same slashes and the same names, but for those that it takes back. -/
theorem absolute_eq_iff {other : String} (hbase : isAbsolute base = true)
    (hother : isAbsolute other = true) :
    Path.absolute base p = Path.absolute other p ↔ isAbsolute p = true ∨
      (root base = root other ∧
        (normalNames base).rdrop (ups p) = (normalNames other).rdrop (ups p)) := by
  cases hp : isAbsolute p with
  | true => simp [Path.absolute, join_of_isAbsolute _ hp]
  | false =>
    rw [Path.absolute, Path.absolute, normalize_eq_iff (isAbsolute_join_of_base hbase p)
      (isAbsolute_join_of_base hother p), root_join hbase hp, root_join hother hp,
      normalNames_join hbase hp, normalNames_join hother hp, List.append_left_inj]
    simp

/-- Names are put behind as many as remain of others, and as many are taken back again: the rest is
the same exactly if just the new names are taken back, or everything is. -/
theorem rdrop_append_rdrop_eq_iff {α : Type} (l m : List α) (n : Nat) :
    (l.rdrop n ++ m).rdrop n = l.rdrop n ↔ m.length = n ∨ (m.length ≤ n ∧ l.length ≤ n) := by
  have hfront : (l.rdrop n).length = l.length - n := by
    rw [List.rdrop, List.length_take]
    omega
  constructor
  · intro h
    have hlength := congrArg List.length h
    rw [List.rdrop, List.length_take, List.length_append, hfront] at hlength
    omega
  · rintro (hm | ⟨hm, hl⟩)
    · rw [← hm, List.rdrop_append_length]
    · have hnone : l.rdrop n = [] := by
        rw [← List.length_eq_zero_iff, hfront]
        omega
      rw [hnone, List.nil_append, ← List.length_eq_zero_iff, List.rdrop, List.length_take]
      omega

/-- When a path that was taken relative to a directory is the same from where it leads: it begins at
the root, or goes down as many names as it goes up, or does not leave the root. -/
theorem absolute_absolute_eq_iff (h : isAbsolute base = true) :
    Path.absolute (Path.absolute base p) p = Path.absolute base p ↔
      isAbsolute p = true ∨ (plainNames p).length = ups p ∨
        ((plainNames p).length ≤ ups p ∧ (normalNames base).length ≤ ups p) := by
  have hbuilt := isBuilt_normalize (isAbsolute_join_of_base h p)
  have habsolute : isAbsolute (Path.absolute base p) = true := hbuilt.isAbsolute
  rw [absolute_eq_iff habsolute h]
  cases hp : isAbsolute p with
  | true => simp
  | false =>
    have hroot : root (Path.absolute base p) = root base := hbuilt.root.trans (root_join h hp)
    have hnames : normalNames (Path.absolute base p) =
        (normalNames base).rdrop (ups p) ++ plainNames p :=
      hbuilt.normalNames.trans (normalNames_join h hp)
    rw [hroot, hnames, rdrop_append_rdrop_eq_iff]
    simp

end BuildAnalysis.Path
