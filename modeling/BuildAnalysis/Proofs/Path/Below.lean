import BuildAnalysis.Proofs.Path.Relative

/-!
# Paths below a directory

A normal path and the names of files and directories below it make a normal path again. Its last name
can be taken off, and as many names that lead up as there are below the directory lead back to it,
whether or not the directory is the root.

* `below_eq`: the path of names below a directory.
* `dirname_join`, `basename_join`: the last name, and the path without it.
* `normalize_join_below`: where a path leads that goes up as many names as there are.
-/

namespace BuildAnalysis.Path

variable {p q directory name : String} {ns : List String}

/-- The path of names below a directory, each in the one before. -/
def below (directory : String) (ns : List String) : String :=
  ns.foldl join directory

/-- Whether a text is the name of a file or a directory. -/
def IsName (name : String) : Prop :=
  IsPlainName name ∧ '/' ∉ name.toList

instance (name : String) : Decidable (IsName name) :=
  inferInstanceAs (Decidable (_ ∧ _))

/-! ## Normal paths and their names -/

/-- A normal path is told by its slashes and its names. -/
theorem IsNormal.eq (h : IsNormal p) : p = root p ++ ofNames (normalNames p) := by
  rw [← normalize_of_isAbsolute h.isAbsolute, h.normalize_eq]

theorem IsNormal.ext (hp : IsNormal p) (hq : IsNormal q) (hroot : root p = root q)
    (hnames : normalNames p = normalNames q) : p = q := by
  rw [hp.eq, hq.eq, hroot, hnames]

theorem IsNormal.isName (h : IsNormal p) : ∀ name ∈ normalNames p, IsName name := fun name hname =>
  ⟨isPlainName_of_mem_normalNames h.isAbsolute name hname, slash_not_mem_normalNames hname⟩

theorem isNormal_append {slashes : String} (hslashes : slashes ∈ ["/", "//"])
    (hns : ∀ name ∈ ns, IsName name) : IsNormal (slashes ++ ofNames ns) :=
  ⟨slashes, hslashes, ns, hns, rfl⟩

/-- What is left of the names of a path when those that lead up are taken off is names. -/
theorem isName_of_mem_plainNames (h : name ∈ plainNames p) : IsName name := by
  obtain ⟨hmem, hne⟩ := List.mem_filter.1 h
  obtain ⟨ups, plain, hnames, hplain, -⟩ := normalNames_isReduced p
  refine ⟨?_, slash_not_mem_normalNames hmem⟩
  rw [hnames, List.mem_append] at hmem
  rcases hmem with hup | hmem
  · exact absurd (List.eq_of_mem_replicate hup) (bne_iff_ne.1 hne)
  · exact hplain name hmem

/-! ## A name in a directory -/

theorem IsName.isAbsolute (h : IsName name) : isAbsolute name = false := by
  rw [Path.isAbsolute, beq_eq_false_iff_ne]
  exact fun hhead => h.2 (List.mem_of_mem_head? hhead)

theorem ofNames_concat (hne : ns ≠ []) (name : String) :
    ofNames (ns ++ [name]) = ofNames ns ++ "/" ++ name := by
  induction ns with
  | nil => exact absurd rfl hne
  | cons first rest ih =>
    cases rest with
    | nil =>
      rw [List.singleton_append, ofNames_cons (List.cons_ne_nil _ _), ofNames_singleton,
        ofNames_singleton]
    | cons next more =>
      rw [List.cons_append, ofNames_cons (by simp), ih (List.cons_ne_nil _ _),
        ofNames_cons (List.cons_ne_nil _ _)]
      simp only [String.append_assoc]

theorem IsNormal.eq_root (h : IsNormal directory) (hnil : normalNames directory = []) :
    directory = root directory := by
  have heq := h.eq
  rw [hnil] at heq
  simpa [ofNames, Text.unsplit] using heq

/-- A normal path without names consists of slashes. -/
theorem IsNormal.getLast?_eq_slash (h : IsNormal directory) (hnil : normalNames directory = []) :
    directory.toList.getLast? = some '/' := by
  have hroot := root_mem_of_isAbsolute h.isAbsolute
  rw [← h.eq_root hnil] at hroot
  rcases List.mem_cons.1 hroot with rfl | hroot
  · rfl
  · rw [List.mem_singleton.1 hroot]
    rfl

/-- A normal path with names ends in the last of them. -/
theorem IsNormal.getLast?_ne_slash (h : IsNormal directory) (hne : normalNames directory ≠ []) :
    directory.toList.getLast? ≠ some '/' := by
  obtain ⟨above, last, hnames⟩ := List.eq_nil_or_concat' (normalNames directory) |>.resolve_left hne
  obtain ⟨hplain, hslash⟩ := h.isName last (by simp [hnames])
  have hlast : last.toList ≠ [] := fun hnil => hplain.1 (String.toList_inj.1 hnil)
  have hfront : ∃ front, ofNames (normalNames directory) = front ++ last := by
    by_cases habove : above = []
    · exact ⟨"", by simp [hnames, habove, ofNames_singleton]⟩
    · exact ⟨_, by rw [hnames, ofNames_concat habove]⟩
  obtain ⟨front, hfront⟩ := hfront
  intro hend
  rw [h.eq, hfront, ← String.append_assoc, String.toList_append,
    List.getLast?_append_of_ne_nil _ hlast] at hend
  exact hslash (List.mem_of_getLast? hend)

/-- A slash stands before a name in a directory, unless the directory is the root and has it already. -/
theorem IsNormal.join_eq_ite (h : IsNormal directory) (hname : IsName name) :
    join directory name =
      (if normalNames directory = [] then directory else directory ++ "/") ++ name := by
  rw [join_eq_append hname.isAbsolute]
  by_cases hnil : normalNames directory = []
  · rw [if_pos hnil, h.getLast?_eq_slash hnil, beq_self_eq_true, Bool.or_true, if_pos rfl]
  · have hempty : directory.isEmpty = false := by
      have habsolute := h.isAbsolute
      simp only [String.isEmpty_eq_false_iff]
      rintro rfl
      cases habsolute
    have hlast : (directory.toList.getLast? == some '/') = false :=
      beq_eq_false_iff_ne.2 (h.getLast?_ne_slash hnil)
    rw [if_neg hnil, hempty, hlast, Bool.or_false, if_neg (by decide)]

/-- A name in a directory is put behind its names. -/
theorem IsNormal.join_eq (h : IsNormal directory) (hname : IsName name) :
    join directory name = root directory ++ ofNames (normalNames directory ++ [name]) := by
  rw [h.join_eq_ite hname]
  by_cases hnil : normalNames directory = []
  · rw [if_pos hnil, hnil, List.nil_append, ofNames_singleton, ← h.eq_root hnil]
  · rw [if_neg hnil, ofNames_concat hnil]
    conv_lhs => rw [h.eq]
    simp only [String.append_assoc]

/-- The directory of a name that stands behind a slash. -/
theorem dirname_append {front : String} (hfront : front.toList.getLast? = some '/')
    (hname : '/' ∉ name.toList) :
    dirname (front ++ name) = if front.toList.all (· == '/') then front
      else String.ofList (front.toList.reverse.dropWhile (· == '/')).reverse := by
  have hback : ∀ c ∈ name.toList.reverse, (c != '/') = true := by
    intro c hc
    rw [bne_iff_ne]
    rintro rfl
    exact hname (List.mem_reverse.1 hc)
  have hhead : ((front ++ name).toList.reverse.dropWhile (· != '/')).reverse = front.toList := by
    obtain ⟨before, hbefore⟩ := List.getLast?_eq_some_iff.1 hfront
    rw [String.toList_append, List.reverse_append, List.dropWhile_append_of_pos hback, hbefore]
    simp
  unfold dirname
  simp only [hhead, String.ofList_toList]

/-- A name in a directory is taken off again. -/
theorem IsNormal.dirname_join (h : IsNormal directory) (hname : IsName name) :
    dirname (join directory name) = directory := by
  rw [h.join_eq_ite hname]
  by_cases hnil : normalNames directory = []
  · -- the directory consists of slashes, which are all kept
    have hslashes := (slashes_cases (root_mem_of_isAbsolute h.isAbsolute)).2.1
    rw [← h.eq_root hnil] at hslashes
    rw [if_pos hnil, dirname_append (h.getLast?_eq_slash hnil) hname.2,
      if_pos (by simpa using hslashes)]
  · -- the slash that was put behind the directory is dropped, and no other one
    obtain ⟨front, last, hfront⟩ := List.eq_nil_or_concat' directory.toList |>.resolve_left (by
      obtain ⟨cs, hcs⟩ := isAbsolute_iff.1 h.isAbsolute
      simp [hcs])
    have hlast : last ≠ '/' := by
      have hne := h.getLast?_ne_slash hnil
      rw [hfront] at hne
      simpa using hne
    have hchars : (directory ++ "/").toList = front ++ [last] ++ ['/'] := by
      rw [String.toList_append, hfront]
      rfl
    rw [if_neg hnil, dirname_append (by simp [hchars]) hname.2, hchars,
      if_neg (by simp [hlast])]
    refine String.toList_inj.1 ?_
    simp [hlast, hfront]

theorem IsNormal.basename_join (h : IsNormal directory) (hname : IsName name) :
    basename (join directory name) = name := by
  have hne : directory ≠ "" := by
    rintro rfl
    cases h.isAbsolute
  obtain ⟨parents, hnames, -⟩ := names_join hne hname.isAbsolute
  have hself : names name = [name] := by
    rw [names, Text.split_of_not_mem hname.2]
    simp
  rw [basename, hnames, hself]
  simp

/-! ## Names below a directory -/

theorem below_singleton (directory name : String) : below directory [name] = join directory name :=
  rfl

theorem IsNormal.isName_append (h : IsNormal directory) (hns : ∀ name ∈ ns, IsName name) :
    ∀ name ∈ normalNames directory ++ ns, IsName name := fun name hname =>
  (List.mem_append.1 hname).elim (h.isName name) (hns name)

/-- The path of names below a directory has the slashes and the names of the directory, and then these
names. -/
theorem IsNormal.below_eq (h : IsNormal directory) (hns : ∀ name ∈ ns, IsName name) :
    below directory ns = root directory ++ ofNames (normalNames directory ++ ns) := by
  induction ns generalizing directory with
  | nil => rw [List.append_nil, ← h.eq]; rfl
  | cons name rest ih =>
    obtain ⟨hname, hrest⟩ := List.forall_mem_cons.1 hns
    have hjoin := h.join_eq hname
    have hnames := h.isName_append (by simpa using hname : ∀ other ∈ [name], IsName other)
    have hbuilt := isBuilt_append (root_mem_of_isAbsolute h.isAbsolute) hnames
    have hnormal := isNormal_append (root_mem_of_isAbsolute h.isAbsolute) hnames
    rw [← hjoin] at hbuilt hnormal
    have hbelow : below directory (name :: rest) = below (join directory name) rest := rfl
    rw [hbelow, ih hnormal hrest, hbuilt.root, hbuilt.normalNames, List.append_assoc,
      List.singleton_append]

theorem IsNormal.isNormal_below (h : IsNormal directory) (hns : ∀ name ∈ ns, IsName name) :
    IsNormal (below directory ns) := by
  rw [h.below_eq hns]
  exact isNormal_append (root_mem_of_isAbsolute h.isAbsolute) (h.isName_append hns)

theorem IsNormal.isNormal_join (h : IsNormal directory) (hname : IsName name) :
    IsNormal (join directory name) :=
  h.isNormal_below (List.forall_mem_singleton.2 hname)

theorem IsNormal.isBuilt_below (h : IsNormal directory) (hns : ∀ name ∈ ns, IsName name) :
    IsBuilt (root directory) (normalNames directory ++ ns) (below directory ns) := by
  rw [h.below_eq hns]
  exact isBuilt_append (root_mem_of_isAbsolute h.isAbsolute) (h.isName_append hns)

/-- A relative path that goes up as many names as there are below a directory leads to where its other
names lead below the directory. -/
theorem IsNormal.normalize_join_below (h : IsNormal directory) (hns : ∀ name ∈ ns, IsName name)
    (hp : Path.isAbsolute p = false) (hups : ups p = ns.length) :
    normalize (join (below directory ns) p) = below directory (plainNames p) := by
  have hplain : ∀ name ∈ plainNames p, IsName name := fun name hname =>
    isName_of_mem_plainNames hname
  have hbase := (h.isNormal_below hns).isAbsolute
  have hjoined := isBuilt_normalize (isAbsolute_join_of_base hbase p)
  have hbuilt := h.isBuilt_below hns
  have hresult := h.isBuilt_below hplain
  refine (isNormal_absolute hbase p).ext (h.isNormal_below hplain) ?_ ?_
  · rw [hresult.root, Path.absolute, hjoined.root, root_join hbase hp, hbuilt.root]
  · rw [hresult.normalNames, Path.absolute, hjoined.normalNames, normalNames_join hbase hp,
      hbuilt.normalNames, hups, List.rdrop_append_length]

end BuildAnalysis.Path
