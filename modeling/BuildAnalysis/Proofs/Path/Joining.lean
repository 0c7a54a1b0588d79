import BuildAnalysis.Path.Basic

/-!
# The names of joined paths

Joining two paths joins their names: those of the directory come first, but for the empty name with
which a directory may end, and then those of the relative path. The directory of a path is a beginning
of it.
-/

namespace BuildAnalysis.Path

/-- A relative path stays one before more characters, unless it is empty. -/
theorem isAbsolute_append {p : String} (q : String) (h : p ≠ "") :
    isAbsolute (p ++ q) = isAbsolute p := by
  rw [isAbsolute, isAbsolute, String.toList_append, List.head?_append]
  cases hp : p.toList with
  | nil => exact absurd (String.toList_inj.1 hp) h
  | cons c rest => rfl

/-- Joining begins with the directory, and ends with the relative path. -/
theorem join_eq_append {base p : String} (hp : isAbsolute p = false) :
    join base p = (if base.isEmpty || base.toList.getLast? == some '/' then base
      else base ++ "/") ++ p := by
  rw [join, if_neg (by simp [hp])]
  split
  · rfl
  · rfl

theorem isAbsolute_join {base p : String} (hbase : base ≠ "") (hp : isAbsolute p = false) :
    isAbsolute (join base p) = isAbsolute base := by
  rw [join_eq_append hp]
  split
  · exact isAbsolute_append p hbase
  · rw [String.append_assoc, isAbsolute_append _ hbase]

/-- A character that is in neither path, and is no slash, is not in the joined one. -/
theorem notMem_join {base p : String} {c : Char} (hp : isAbsolute p = false) (hslash : c ≠ '/')
    (hbase : c ∉ base.toList) (h : c ∉ p.toList) : c ∉ (join base p).toList := by
  rw [join_eq_append hp, String.toList_append, List.mem_append, not_or]
  refine ⟨?_, h⟩
  split
  · exact hbase
  · rw [String.toList_append, List.mem_append, not_or]
    exact ⟨hbase, by simpa using hslash⟩

/-- The same whether or not the second path begins at the root. -/
theorem notMem_join_of_notMem {base p : String} {c : Char} (hslash : c ≠ '/')
    (hbase : c ∉ base.toList) (h : c ∉ p.toList) : c ∉ (join base p).toList := by
  cases hp : isAbsolute p with
  | true => rwa [join, if_pos hp]
  | false => exact notMem_join hp hslash hbase h

/-- The directory of a path is a beginning of it. -/
theorem dirname_prefix (p : String) : (dirname p).toList <+: p.toList := by
  have hhead : (p.toList.reverse.dropWhile (· != '/')).reverse <+: p.toList :=
    List.reverse_suffix.1 (by simpa using List.dropWhile_suffix _)
  unfold dirname
  simp only
  split
  · rw [String.toList_ofList]
    exact hhead
  · rw [String.toList_ofList]
    refine List.IsPrefix.trans ?_ hhead
    exact List.reverse_suffix.1 (by simpa using List.dropWhile_suffix _)

/-- Relative paths may be joined in any order. -/
theorem join_assoc {base p q : String} (hne : p ≠ "") (hp : isAbsolute p = false)
    (hq : isAbsolute q = false) : join (join base p) q = join base (join p q) := by
  have hjoin : isAbsolute (join p q) = false := by rw [isAbsolute_join hne hq, hp]
  rw [join_eq_append hjoin, join_eq_append hq, join_eq_append hq, join_eq_append hp,
    ← String.append_assoc]
  -- whether a slash is put before `q` depends on the end of `p` in both orders
  have hpl : p.toList ≠ [] := fun e => hne (String.toList_inj.1 e)
  have hlast (r : String) : (r ++ p).toList.getLast? = p.toList.getLast? := by
    rw [String.toList_append, List.getLast?_append, List.getLast?_eq_some_getLast hpl,
      Option.some_or]
  have hempty (r : String) : (r ++ p).isEmpty = false := by simp [hne]
  have hp' : p.isEmpty = false := by simp [hne]
  rw [hlast, hempty, hp']
  split
  · rfl
  · simp only [String.append_assoc]

/-- The names of a path below a directory. -/
theorem names_join {base p : String} (hbase : base ≠ "") (hp : isAbsolute p = false) :
    ∃ parents, names (join base p) = parents ++ names p ∧
      (names base = parents ∨ names base = parents ++ [""]) := by
  have hne : base.isEmpty = false := by simp [hbase]
  cases hlast : base.toList.getLast? == some '/' with
  | true =>
    -- no slash is put in between; the last name of the directory is the empty one after its own
    obtain ⟨cs, hcs⟩ := List.getLast?_eq_some_iff.1 (beq_iff_eq.1 hlast)
    refine ⟨(Text.split '/' cs).map String.ofList, ?_, Or.inr ?_⟩
    · rw [join_eq_append hp, hlast, Bool.or_true, if_pos rfl, names, String.toList_append, hcs,
        List.append_assoc, List.singleton_append, Text.split_append_cons, List.map_append]
      rfl
    · rw [names, hcs, Text.split_append_cons, List.map_append]
      rfl
  | false =>
    refine ⟨names base, ?_, Or.inl rfl⟩
    rw [join_eq_append hp, hlast, hne, Bool.or_false, if_neg (by decide), names,
      String.toList_append, String.toList_append]
    change (Text.split '/' (base.toList ++ ['/'] ++ p.toList)).map String.ofList = _
    rw [List.append_assoc, List.singleton_append, Text.split_append_cons, List.map_append]
    rfl

/-! ## The text of names -/

/-- The names of a path make the path again. -/
theorem ofNames_names (p : String) : ofNames (names p) = p := by
  have hmap : ((Text.split '/' p.toList).map String.ofList).map String.toList =
      Text.split '/' p.toList := by
    simp
  rw [ofNames, names, hmap, Text.unsplit_split, String.ofList_toList]

theorem ofNames_singleton (name : String) : ofNames [name] = name :=
  String.ofList_toList

theorem ofNames_cons {name : String} {rest : List String} (h : rest ≠ []) :
    ofNames (name :: rest) = name ++ "/" ++ ofNames rest := by
  cases rest with
  | nil => exact absurd rfl h
  | cons next others =>
    refine String.toList_inj.1 ?_
    simp only [ofNames, String.toList_append, String.toList_ofList, List.append_assoc]
    rfl

theorem prefix_ofNames_cons (name : String) (rest : List String) :
    name.toList <+: (ofNames (name :: rest)).toList := by
  cases rest with
  | nil => exact ⟨[], by rw [ofNames_singleton, List.append_nil]⟩
  | cons next others =>
    rw [ofNames_cons (List.cons_ne_nil _ _), String.append_assoc, String.toList_append]
    exact List.prefix_append _ _

/-- The text of names begins with that of the first ones. -/
theorem prefix_ofNames_append (front back : List String) :
    (ofNames front).toList <+: (ofNames (front ++ back)).toList := by
  induction front with
  | nil => exact List.nil_prefix
  | cons name rest ih =>
    cases rest with
    | nil =>
      rw [ofNames_singleton]
      exact prefix_ofNames_cons name back
    | cons next others =>
      have hne : next :: others ++ back ≠ [] := by simp
      rw [List.cons_append, ofNames_cons (List.cons_ne_nil next others), ofNames_cons hne]
      simp only [String.toList_append]
      exact (List.prefix_append_right_inj _).2 ih

/-- A text has at least the size of what it begins with. -/
theorem utf8ByteSize_le_of_prefix {p q : String} (h : p.toList <+: q.toList) :
    p.utf8ByteSize ≤ q.utf8ByteSize := by
  obtain ⟨rest, hrest⟩ := h
  have hq : q = p ++ String.ofList rest := by
    refine String.toList_inj.1 ?_
    rw [String.toList_append, String.toList_ofList, hrest]
  rw [hq, String.utf8ByteSize_append]
  exact Nat.le_add_right _ _

end BuildAnalysis.Path
