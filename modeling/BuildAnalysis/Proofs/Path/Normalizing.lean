import BuildAnalysis.Path.Normal
import BuildAnalysis.Proofs.Path.Joining
import Mathlib.Data.List.TakeWhile

/-!
# The normal form of a path

In the normal form of a path some names may lead up first, unless the path begins at the root, and all
others are plain. A path from the root is told by the slashes that it begins with and by these names.

* `foldl_push_isReduced`: what remains when names are normalized.
* `isBuilt_normalize`: the normal form of a path from the root has its slashes and its names.
* `normalize_eq_iff`: when paths from the root have the same normal form.
-/

namespace BuildAnalysis.Path

variable {p q base name : String} {kept plain : List String} {absolute : Bool}

/-! ## Names and their text -/

/-- No name of a path holds a slash. -/
theorem slash_not_mem_of_mem_names (h : name ∈ names p) : '/' ∉ name.toList := by
  obtain ⟨part, hpart, rfl⟩ := List.mem_map.1 h
  rw [String.toList_ofList]
  exact Text.not_mem_of_mem_split hpart

/-- Names without slashes are the names of their text. -/
theorem names_ofNames {ns : List String} (hne : ns ≠ []) (h : ∀ name ∈ ns, '/' ∉ name.toList) :
    names (ofNames ns) = ns := by
  have hparts : ∀ part ∈ ns.map String.toList, '/' ∉ part := by
    intro part hpart
    obtain ⟨name, hname, rfl⟩ := List.mem_map.1 hpart
    exact h name hname
  have hback : String.ofList ∘ String.toList = id := funext fun s => String.ofList_toList
  rw [names, ofNames, String.toList_ofList, Text.split_unsplit (by simpa using hne) hparts,
    List.map_map, hback, List.map_id]

/-- A slash before a path puts an empty name before its names. -/
theorem names_slash_append (p : String) : names ("/" ++ p) = "" :: names p := by
  rw [names, String.toList_append]
  exact congrArg (List.map String.ofList) (Text.split_append_cons '/' [] p.toList)

/-- The slashes that a path from the root begins with put empty names before its names. -/
theorem exists_names_append {slashes : String} (hslashes : slashes ∈ ["/", "//"]) (p : String) :
    ∃ n, names (slashes ++ p) = List.replicate n "" ++ names p := by
  rcases List.mem_cons.1 hslashes with rfl | hslashes
  · exact ⟨1, names_slash_append p⟩
  · obtain rfl := List.mem_singleton.1 hslashes
    have htwo : "//" ++ p = "/" ++ ("/" ++ p) := by
      rw [← String.append_assoc]
      rfl
    rw [htwo, names_slash_append, names_slash_append]
    exact ⟨2, rfl⟩

/-- A character that is in none of the names, and is no slash, is not in their text. -/
theorem notMem_ofNames {ns : List String} {c : Char} (hslash : c ≠ '/')
    (h : ∀ name ∈ ns, c ∉ name.toList) : c ∉ (ofNames ns).toList := by
  induction ns with
  | nil => exact List.not_mem_nil
  | cons name rest ih =>
    obtain ⟨hname, hrest⟩ := List.forall_mem_cons.1 h
    by_cases hne : rest = []
    · rw [hne, ofNames_singleton]
      exact hname
    · rw [ofNames_cons hne, String.toList_append, String.toList_append, List.mem_append,
        List.mem_append, not_or, not_or]
      exact ⟨⟨hname, by simpa using hslash⟩, ih hrest⟩

/-! ## Pushing names -/

/-- Empty names change nothing. -/
theorem foldl_push_empties (absolute : Bool) (kept : List String) (n : Nat) :
    (List.replicate n "").foldl (push absolute) kept = kept := by
  induction n with
  | zero => rfl
  | succ n ih => exact ih

theorem push_plain (absolute : Bool) (kept : List String) (h : IsPlainName name) :
    push absolute kept name = name :: kept := by
  unfold push
  rw [if_neg (by simp [h.1, h.2.1]), if_neg (by simp [h.2.2])]

/-- A name that leads up takes back the plain name before it. -/
theorem push_up_plain (absolute : Bool) (kept : List String) (h : IsPlainName name) :
    push absolute (name :: kept) ".." = kept := by
  have hname : (name == "..") = false := by simp [h.2.2]
  change (if name == ".." then ".." :: name :: kept else kept) = kept
  rw [hname]
  rfl

/-- Where no plain name is before it, a name that leads up is kept in a relative path. -/
theorem push_up_ups (ups : Nat) :
    push false (List.replicate ups "..") ".." = List.replicate (ups + 1) ".." := by
  cases ups with
  | zero => rfl
  | succ n => rfl

/-- Every name is skipped, leads up or is plain. -/
theorem skipped_or_up_or_plain (name : String) :
    (∀ absolute kept, push absolute kept name = kept) ∨ name = ".." ∨ IsPlainName name := by
  by_cases hskip : name = "" ∨ name = "."
  · refine Or.inl fun absolute kept => ?_
    unfold push
    rw [if_pos (by simpa using hskip)]
  · obtain ⟨hempty, hdot⟩ := not_or.1 hskip
    by_cases hup : name = ".."
    · exact Or.inr (Or.inl hup)
    · exact Or.inr (Or.inr ⟨hempty, hdot, hup⟩)

/-- Plain names are kept. -/
theorem foldl_push_plain (absolute : Bool) (kept : List String)
    (h : ∀ name ∈ plain, IsPlainName name) :
    plain.foldl (push absolute) kept = plain.reverse ++ kept := by
  induction plain generalizing kept with
  | nil => rfl
  | cons name rest ih =>
    obtain ⟨hname, hrest⟩ := List.forall_mem_cons.1 h
    rw [List.foldl_cons, push_plain absolute kept hname, ih _ hrest, List.reverse_cons,
      List.append_assoc, List.singleton_append]

/-- Names that lead up are kept in a relative path, where no plain name is before them. -/
theorem foldl_push_ups (ups before : Nat) :
    (List.replicate ups "..").foldl (push false) (List.replicate before "..") =
      List.replicate (ups + before) ".." := by
  induction ups generalizing before with
  | zero => rw [Nat.zero_add]; rfl
  | succ n ih =>
    rw [List.replicate_succ, List.foldl_cons, push_up_ups, ih, Nat.add_assoc, Nat.add_comm 1]

/-- Whether names are kept when they are normalized: some of them lead up, but none in a path from
the root, and all others are plain. -/
def IsReduced (absolute : Bool) (names : List String) : Prop :=
  ∃ ups plain, names = List.replicate ups ".." ++ plain ∧ (∀ name ∈ plain, IsPlainName name) ∧
    (absolute = true → ups = 0)

theorem isReduced_of_plain (h : ∀ name ∈ plain, IsPlainName name) : IsReduced absolute plain :=
  ⟨0, plain, rfl, h, fun _ => rfl⟩

/-- In a path from the root all names that are kept are plain. -/
theorem IsReduced.isPlain {ns : List String} (h : IsReduced true ns) :
    ∀ name ∈ ns, IsPlainName name := by
  obtain ⟨ups, plain, rfl, hplain, hups⟩ := h
  rw [hups rfl]
  exact hplain

/-- Reduced names stay so with one more name. -/
theorem IsReduced.push (h : IsReduced absolute kept.reverse) (name : String) :
    IsReduced absolute (push absolute kept name).reverse := by
  obtain ⟨ups, plain, hkept, hplain, hups⟩ := h
  obtain rfl : kept = plain.reverse ++ List.replicate ups ".." := by
    rw [← List.reverse_reverse kept, hkept, List.reverse_append, List.reverse_replicate]
  rcases skipped_or_up_or_plain name with hskip | rfl | hname
  · rw [hskip]
    exact ⟨ups, plain, hkept, hplain, hups⟩
  · rcases List.eq_nil_or_concat plain with rfl | ⟨below, top, rfl⟩
    · -- without a plain name before it, the name is kept in a relative path only
      cases absolute with
      | true =>
        obtain rfl := hups rfl
        exact ⟨0, [], rfl, hplain, hups⟩
      | false =>
        refine ⟨ups + 1, [], ?_, hplain, fun h => absurd h (by simp)⟩
        rw [List.reverse_nil, List.nil_append, push_up_ups, List.reverse_replicate,
          List.append_nil]
    · have htop : IsPlainName top := hplain top (by simp)
      rw [List.concat_eq_append, List.reverse_append, List.reverse_singleton, List.append_assoc,
        List.singleton_append, push_up_plain absolute _ htop]
      refine ⟨ups, below, by simp, fun name hname => hplain name ?_, hups⟩
      rw [List.concat_eq_append]
      exact List.mem_append_left _ hname
  · rw [push_plain absolute _ hname]
    refine ⟨ups, plain ++ [name], by simp, fun other hother => ?_, hups⟩
    rcases List.mem_append.1 hother with hother | hother
    · exact hplain other hother
    · rwa [List.mem_singleton.1 hother]

/-- Names that are pushed leave reduced names. -/
theorem foldl_push_isReduced (ns : List String) (h : IsReduced absolute kept.reverse) :
    IsReduced absolute (ns.foldl (push absolute) kept).reverse := by
  induction ns generalizing kept with
  | nil => exact h
  | cons name rest ih => exact ih (h.push name)

/-- Reduced names are left as they are. -/
theorem foldl_push_of_isReduced {ns : List String} (h : IsReduced absolute ns) :
    (ns.foldl (push absolute) []).reverse = ns := by
  obtain ⟨ups, plain, rfl, hplain, hups⟩ := h
  have hfirst : (List.replicate ups "..").foldl (push absolute) [] =
      List.replicate ups ".." := by
    cases absolute with
    | true => rw [hups rfl]; rfl
    | false => exact foldl_push_ups ups 0
  rw [List.foldl_append, hfirst, foldl_push_plain absolute _ hplain, List.reverse_append,
    List.reverse_reverse, List.reverse_replicate]

/-! ## The normal form -/

theorem normalNames_isReduced (p : String) : IsReduced (isAbsolute p) (normalNames p) :=
  foldl_push_isReduced (names p) (isReduced_of_plain (by simp))

/-- The names that remain of a path from the root are plain. -/
theorem isPlainName_of_mem_normalNames (h : isAbsolute p = true) :
    ∀ name ∈ normalNames p, IsPlainName name := by
  have hreduced := normalNames_isReduced p
  rw [h] at hreduced
  exact hreduced.isPlain

/-- The names that a path from the root keeps, last first. -/
theorem foldl_push_absolute (h : isAbsolute p = true) :
    (names p).foldl (push true) [] = (normalNames p).reverse := by
  rw [normalNames, h, List.reverse_reverse]

/-- A name is kept, or takes one back, or changes nothing. -/
theorem mem_push {other : String} (h : other ∈ push absolute kept name) :
    other ∈ kept ∨ other = name := by
  rcases skipped_or_up_or_plain name with hskip | rfl | hname
  · rw [hskip] at h
    exact Or.inl h
  · cases kept with
    | nil =>
      cases absolute with
      | true => exact absurd h List.not_mem_nil
      | false => exact Or.inr (List.mem_singleton.1 h)
    | cons top below =>
      change other ∈ if top == ".." then ".." :: top :: below else below at h
      split at h
      · exact (List.mem_cons.1 h).symm
      · exact Or.inl (List.mem_cons_of_mem top h)
  · rw [push_plain absolute kept hname] at h
    exact (List.mem_cons.1 h).symm

/-- What is kept was there before, or is one of the names that are pushed. -/
theorem mem_foldl_push {ns : List String} (h : name ∈ ns.foldl (push absolute) kept) :
    name ∈ kept ∨ name ∈ ns := by
  induction ns generalizing kept with
  | nil => exact Or.inl h
  | cons first rest ih =>
    rcases ih h with hpush | hrest
    · rcases mem_push hpush with hkept | rfl
      · exact Or.inl hkept
      · exact Or.inr List.mem_cons_self
    · exact Or.inr (List.mem_cons_of_mem _ hrest)

/-- The names of the normal form are names of the path. -/
theorem mem_names_of_mem_normalNames (h : name ∈ normalNames p) : name ∈ names p :=
  (mem_foldl_push (List.mem_reverse.1 h)).resolve_left List.not_mem_nil

theorem slash_not_mem_normalNames (h : name ∈ normalNames p) : '/' ∉ name.toList :=
  slash_not_mem_of_mem_names (mem_names_of_mem_normalNames h)

/-- A path begins at the root exactly if it begins with a slash. -/
theorem isAbsolute_iff : isAbsolute p = true ↔ ∃ cs, p.toList = '/' :: cs := by
  rw [isAbsolute]
  cases p.toList with
  | nil => simp
  | cons c rest => simp

/-- A path from the root begins with one slash or with two that count. -/
theorem root_mem_of_isAbsolute (h : isAbsolute p = true) : root p ∈ ["/", "//"] := by
  obtain ⟨cs, hcs⟩ := isAbsolute_iff.1 h
  rw [root, hcs]
  split
  · rename_i hnil
    simp at hnil
  · exact List.mem_cons_of_mem _ List.mem_cons_self
  · exact List.mem_cons_self

/-- The root is told by the slashes up to the first other character. -/
theorem root_append {slashes q : String} (hslashes : ∀ c ∈ slashes.toList, c = '/')
    (hq : isAbsolute q = false) : root (slashes ++ q) = root slashes := by
  have htake : (slashes ++ q).toList.takeWhile (· == '/') =
      slashes.toList.takeWhile (· == '/') := by
    have hall : ∀ c ∈ slashes.toList, (c == '/') = true := by simpa using hslashes
    have hnone : q.toList.takeWhile (· == '/') = [] := by
      rw [isAbsolute] at hq
      cases hcs : q.toList with
      | nil => rfl
      | cons c rest =>
        have hc : (c == '/') = false := by simpa [hcs] using hq
        rw [List.takeWhile_cons, hc]
        rfl
    rw [String.toList_append, List.takeWhile_append_of_pos hall, hnone, List.append_nil,
      List.takeWhile_eq_self_iff.2 hall]
  rw [root, root, htake]

/-- The text of reduced names is a relative path. -/
theorem isAbsolute_ofNames {ns : List String} (h : IsReduced absolute ns)
    (hslash : ∀ name ∈ ns, '/' ∉ name.toList) : isAbsolute (ofNames ns) = false := by
  cases ns with
  | nil => rfl
  | cons name rest =>
    have hname : name ≠ "" := by
      rintro rfl
      obtain ⟨ups, plain, heq, hplain, -⟩ := h
      have hmem : "" ∈ List.replicate ups ".." ++ plain := heq ▸ List.mem_cons_self
      rcases List.mem_append.1 hmem with hup | hmem
      · exact absurd (List.eq_of_mem_replicate hup) (by decide)
      · exact (hplain "" hmem).1 rfl
    obtain ⟨more, hmore⟩ := prefix_ofNames_cons name rest
    rw [isAbsolute, ← hmore]
    cases hcs : name.toList with
    | nil => exact absurd (String.toList_inj.1 hcs) hname
    | cons c cs =>
      have hc : c ≠ '/' := by
        rintro rfl
        exact hslash name List.mem_cons_self (by simp [hcs])
      simpa using hc

/-- The normal form of a path from the root. -/
theorem normalize_of_isAbsolute (h : isAbsolute p = true) :
    normalize p = root p ++ ofNames (normalNames p) := by
  have hroot : root p ≠ "" := by
    intro hempty
    have hmem := root_mem_of_isAbsolute h
    rw [hempty] at hmem
    exact absurd hmem (by decide)
  rw [normalize]
  simp [hroot]

/-- The slashes and the names of a path from the root that is put together from them. -/
structure IsBuilt (slashes : String) (ns : List String) (p : String) : Prop where
  isAbsolute : isAbsolute p = true
  root : root p = slashes
  normalNames : normalNames p = ns

/-- The slashes of a path from the root are slashes, and count as they are. -/
theorem slashes_cases {slashes : String} (h : slashes ∈ ["/", "//"]) :
    slashes ≠ "" ∧ (∀ c ∈ slashes.toList, c = '/') ∧ root slashes = slashes ∧
      isAbsolute slashes = true := by
  rcases List.mem_cons.1 h with rfl | h
  · exact ⟨by decide, by simp, rfl, rfl⟩
  · obtain rfl := List.mem_singleton.1 h
    exact ⟨by decide, by simp, rfl, rfl⟩

/-- A path from the root has the slashes and the plain names that it was put together from. -/
theorem isBuilt_append {slashes : String} {ns : List String} (hslashes : slashes ∈ ["/", "//"])
    (hplain : ∀ name ∈ ns, IsPlainName name ∧ '/' ∉ name.toList) :
    IsBuilt slashes ns (slashes ++ ofNames ns) := by
  have hreduced : IsReduced true ns := isReduced_of_plain fun name hname => (hplain name hname).1
  have hslash : ∀ name ∈ ns, '/' ∉ name.toList := fun name hname => (hplain name hname).2
  have hrelative : isAbsolute (ofNames ns) = false := isAbsolute_ofNames hreduced hslash
  obtain ⟨hne, hall, hroot, hfirst⟩ := slashes_cases hslashes
  have habsolute : isAbsolute (slashes ++ ofNames ns) = true := by
    rw [isAbsolute_append _ hne, hfirst]
  -- the empty names of the slashes and of the text of no names are skipped
  have hfold : ((names (ofNames ns)).foldl (push true) []).reverse = ns := by
    by_cases hne : ns = []
    · subst hne
      rfl
    · rw [names_ofNames hne hslash]
      exact foldl_push_of_isReduced hreduced
  obtain ⟨n, hnames⟩ := exists_names_append hslashes (ofNames ns)
  refine ⟨habsolute, by rw [root_append hall hrelative, hroot], ?_⟩
  rw [normalNames, habsolute, hnames, List.foldl_append, foldl_push_empties, hfold]

/-- The normal form of a path from the root keeps its slashes and its names. -/
theorem isBuilt_normalize (h : isAbsolute p = true) :
    IsBuilt (root p) (normalNames p) (normalize p) := by
  rw [normalize_of_isAbsolute h]
  exact isBuilt_append (root_mem_of_isAbsolute h) fun name hname =>
    ⟨isPlainName_of_mem_normalNames h name hname, slash_not_mem_normalNames hname⟩

/-- The normal form of a path from the root is normal. -/
theorem isNormal_normalize (h : isAbsolute p = true) : IsNormal (normalize p) :=
  ⟨root p, root_mem_of_isAbsolute h, normalNames p, fun name hname =>
    ⟨isPlainName_of_mem_normalNames h name hname, slash_not_mem_normalNames hname⟩,
    normalize_of_isAbsolute h⟩

theorem IsNormal.isAbsolute (h : IsNormal p) : Path.isAbsolute p = true := by
  obtain ⟨slashes, hslashes, plain, hplain, rfl⟩ := h
  exact (isBuilt_append hslashes hplain).isAbsolute

/-- A normal path is its own normal form. -/
theorem IsNormal.normalize_eq (h : IsNormal p) : normalize p = p := by
  obtain ⟨slashes, hslashes, plain, hplain, rfl⟩ := h
  have hbuilt := isBuilt_append hslashes hplain
  rw [normalize_of_isAbsolute hbuilt.isAbsolute, hbuilt.root, hbuilt.normalNames]

/-- Paths from the root have the same normal form exactly if their slashes and their names are the
same. -/
theorem normalize_eq_iff (hp : isAbsolute p = true) (hq : isAbsolute q = true) :
    normalize p = normalize q ↔ root p = root q ∧ normalNames p = normalNames q := by
  constructor
  · intro h
    have hbuilt := isBuilt_normalize hp
    rw [h] at hbuilt
    exact ⟨hbuilt.root.symm.trans (isBuilt_normalize hq).root,
      hbuilt.normalNames.symm.trans (isBuilt_normalize hq).normalNames⟩
  · rintro ⟨hroot, hnames⟩
    rw [normalize_of_isAbsolute hp, normalize_of_isAbsolute hq, hroot, hnames]

/-- The characters of the normal form are those of the path, but for slashes and dots. -/
theorem notMem_normalize {c : Char} (hslash : c ≠ '/') (hdot : c ≠ '.') (h : c ∉ p.toList) :
    c ∉ (normalize p).toList := by
  have hroot : c ∉ (root p).toList := by
    rw [root]
    split
    · simp
    · simpa using hslash
    · simpa using hslash
  have hnames : c ∉ (ofNames (normalNames p)).toList := by
    refine notMem_ofNames hslash fun name hname => ?_
    obtain ⟨part, hpart, rfl⟩ := List.mem_map.1 (mem_names_of_mem_normalNames hname)
    rw [String.toList_ofList]
    exact fun hc => h (Text.mem_of_mem_split hpart hc)
  unfold normalize
  simp only
  split
  · simpa using hdot
  · rw [String.toList_append, List.mem_append, not_or]
    exact ⟨hroot, hnames⟩

end BuildAnalysis.Path
