import BuildAnalysis.Analysis.ReportNames
import BuildAnalysis.Path.Normal
import BuildAnalysis.Proofs.Path.Joining
import BuildAnalysis.Proofs.Text.Lowercase
import Mathlib.Data.List.Nodup
import Mathlib.Data.List.Perm.Subperm

/-!
# The names of the reports are different

A name with a number is the same name with the same number in lower case, so that the candidates for
one source are pairwise different in lower case. Of one more candidates than there are names in use
one is free; the search for it therefore ends, and every name that is given out is a new one. The name
is a single component of a path, so that different names are different files of the directory.

* `firstFree_endsAt`: the search for a free name ends.
* `allocateAll_endsAt`: how the name of a source is found, after any others.
* `nodup_lower_allocateAll`: the names that are given out are different.
* `nodup_paths`: the paths of the reports are different.
-/

namespace BuildAnalysis.Analysis.ReportNames

/-! ## Names with numbers -/

/-- A number stays as it is in lower case. -/
theorem lower_numbered (name : String) (n : Nat) :
    Text.lower (numbered name n) = numbered (Text.lower name) n := by
  unfold numbered
  split
  · rfl
  · exact Text.lower_append_number name n

/-- Different numbers make different names. -/
theorem numbered_injective {name : String} {m n : Nat} (h : numbered name m = numbered name n) :
    m = n := by
  have hchars := congrArg String.toList h
  unfold numbered at hchars
  by_cases hm : m = 0
  · by_cases hn : n = 0
    · rw [hm, hn]
    · -- only one of the two names has a hyphen behind it
      have hlength := congrArg List.length hchars
      simp [hm, hn] at hlength
  · by_cases hn : n = 0
    · have hlength := congrArg List.length hchars
      simp [hm, hn] at hlength
    · simp only [beq_iff_eq, hm, hn, if_false, String.toList_append] at hchars
      have hdigits := List.append_cancel_left hchars
      rw [Nat.toString_eq_repr, Nat.toString_eq_repr, Nat.toList_repr, Nat.toList_repr] at hdigits
      have hvalue := congrArg (fun digits => Nat.ofDigitChars 10 digits 0) hdigits
      rwa [Nat.ofDigitChars_toDigits (by decide) (by decide),
        Nat.ofDigitChars_toDigits (by decide) (by decide)] at hvalue

/-! ## The search for a free name -/

/-- Whether the search for a free name that begins at a number ends at another one: that number is
free, and all those before it are taken. -/
structure EndsAt (used : List String) (name : String) (start n : Nat) : Prop where
  le : start ≤ n
  free : Text.lower (numbered name n) ∉ used
  taken : ∀ m, start ≤ m → m < n → Text.lower (numbered name m) ∈ used

variable {used : List String} {name : String} {start n : Nat}

/-- No more numbers in a row are taken than names are used. -/
theorem length_le_of_taken {tries : Nat}
    (h : ∀ m, start ≤ m → m < start + tries → Text.lower (numbered name m) ∈ used) :
    tries ≤ used.length := by
  let candidates := (List.range tries).map fun i => Text.lower (numbered name (start + i))
  have hnodup : candidates.Nodup := by
    refine List.nodup_range.map_on ?_
    intro i _ j _ hsame
    rw [lower_numbered, lower_numbered] at hsame
    have hnumber := numbered_injective hsame
    omega
  have hsubset : candidates ⊆ used := by
    intro candidate hcandidate
    obtain ⟨i, hi, rfl⟩ := List.mem_map.1 hcandidate
    have hlt := List.mem_range.1 hi
    exact h (start + i) (by omega) (by omega)
  have hlength := (List.subperm_of_subset hnodup hsubset).length_le
  simpa [candidates] using hlength

/-- A search tries no more numbers than names are used, and one more. -/
theorem EndsAt.le_add (h : EndsAt used name start n) : n ≤ start + used.length := by
  have hle := h.le
  have htries : n - start ≤ used.length := by
    have htaken (m : Nat) (hm : start ≤ m) (hlt : m < start + (n - start)) :
        Text.lower (numbered name m) ∈ used := h.taken m hm (by omega)
    exact length_le_of_taken htaken
  omega

/-- A search does not depend on the order in which names were used. -/
theorem EndsAt.of_mem_iff {other : List String} (h : EndsAt used name start n)
    (hmem : ∀ taken, taken ∈ used ↔ taken ∈ other) : EndsAt other name start n where
  le := h.le
  free := fun hother => h.free ((hmem _).2 hother)
  taken := fun m hm hlt => (hmem _).1 (h.taken m hm hlt)

/-- With a limit the search ends, or all the numbers are taken that it may try. -/
theorem firstFree_endsAt_or (used : List String) (name : String) (tries start : Nat) :
    EndsAt used name start (firstFree used name tries start) ∨
      ∀ m, start ≤ m → m < start + tries → Text.lower (numbered name m) ∈ used := by
  induction tries generalizing start with
  | zero =>
    right
    intro m hm hlt
    omega
  | succ tries ih =>
    rw [firstFree]
    split
    · rename_i hused
      have hstart : Text.lower (numbered name start) ∈ used := by simpa using hused
      have hm_or (m : Nat) (hm : start ≤ m) : m = start ∨ start + 1 ≤ m := by omega
      rcases ih (start + 1) with hends | hall
      · left
        refine ⟨Nat.le_of_succ_le hends.le, hends.free, fun m hm hlt => ?_⟩
        rcases hm_or m hm with rfl | hm
        · exact hstart
        · exact hends.taken m hm hlt
      · right
        intro m hm hlt
        rcases hm_or m hm with rfl | hm
        · exact hstart
        · exact hall m hm (by omega)
    · rename_i hfree
      left
      refine ⟨Nat.le_refl start, by simpa using hfree, fun m hm hlt => ?_⟩
      omega

/-- As many tries as names are used, and one more, are enough for the search to end. -/
theorem firstFree_endsAt (used : List String) (name : String) (start : Nat) :
    EndsAt used name start (firstFree used name (used.length + 1) start) := by
  rcases firstFree_endsAt_or used name (used.length + 1) start with hends | hall
  · exact hends
  · have hlength := length_le_of_taken hall
    omega

/-! ## One name after the other -/

/-- What is known of the names after sources were given theirs. -/
def afterAll (names : ReportNames) (sources : List String) : ReportNames :=
  sources.foldl (fun names source => (names.allocate source).2) names

theorem afterAll_cons (names : ReportNames) (source : String) (rest : List String) :
    names.afterAll (source :: rest) = (names.allocate source).2.afterAll rest := rfl

theorem allocateAll_cons (names : ReportNames) (source : String) (rest : List String) :
    names.allocateAll (source :: rest) =
      (names.allocate source).1 :: (names.allocate source).2.allocateAll rest := rfl

theorem length_allocateAll (names : ReportNames) (sources : List String) :
    (names.allocateAll sources).length = sources.length := by
  induction sources generalizing names with
  | nil => rfl
  | cons source rest ih => rw [allocateAll_cons, List.length_cons, ih, List.length_cons]

/-- The names of the sources that come first do not depend on those that come after them. -/
theorem allocateAll_append (names : ReportNames) (before rest : List String) :
    names.allocateAll (before ++ rest) =
      names.allocateAll before ++ (names.afterAll before).allocateAll rest := by
  induction before generalizing names with
  | nil => rfl
  | cons source more ih =>
    rw [List.cons_append, allocateAll_cons, ih, allocateAll_cons, afterAll_cons,
      List.cons_append]

/-- A name that is given out was found by a search that has ended. -/
theorem allocate_eq (names : ReportNames) (source : String) :
    ∃ n, EndsAt names.used (Path.basename source)
        (names.start (Text.lower (Path.basename source))) n ∧
      (names.allocate source).1 = numbered (Path.basename source) n ∧
      (names.allocate source).2.used =
        Text.lower (numbered (Path.basename source) n) :: names.used :=
  ⟨_, firstFree_endsAt _ _ _, rfl, rfl⟩

/-- The names in use are those that were given out. -/
theorem used_afterAll (names : ReportNames) (sources : List String) :
    (names.afterAll sources).used =
      ((names.allocateAll sources).map Text.lower).reverse ++ names.used := by
  induction sources generalizing names with
  | nil => rfl
  | cons source rest ih =>
    obtain ⟨n, -, hreport, hused⟩ := names.allocate_eq source
    rw [afterAll_cons, ih, allocateAll_cons, hreport, hused, List.map_cons, List.reverse_cons,
      List.append_assoc, List.singleton_append]

/-- One more name is given out that is not in use. -/
theorem nodup_used_allocate {names : ReportNames} (h : names.used.Nodup) (source : String) :
    (names.allocate source).2.used.Nodup := by
  obtain ⟨n, hends, -, hused⟩ := names.allocate_eq source
  rw [hused, List.nodup_cons]
  exact ⟨hends.free, h⟩

theorem nodup_used_afterAll {names : ReportNames} (h : names.used.Nodup) (sources : List String) :
    (names.afterAll sources).used.Nodup := by
  induction sources generalizing names with
  | nil => exact h
  | cons source rest ih =>
    rw [afterAll_cons]
    exact ih (nodup_used_allocate h source)

/-- The names that are given out are pairwise different in lower case. -/
theorem nodup_lower_allocateAll (sources : List String) :
    ((({} : ReportNames).allocateAll sources).map Text.lower).Nodup := by
  have hnone : ({} : ReportNames).used.Nodup := List.nodup_nil
  have hnodup := nodup_used_afterAll hnone sources
  rw [used_afterAll, List.append_nil, List.nodup_reverse] at hnodup
  exact hnodup

theorem length_used_afterAll (sources : List String) :
    (({} : ReportNames).afterAll sources).used.length = sources.length := by
  rw [used_afterAll, List.append_nil, List.length_reverse, List.length_map, length_allocateAll]

/-- The number that is tried first for a source after others. -/
def startAfter (before : List String) (source : String) : Nat :=
  (({} : ReportNames).afterAll before).start (Text.lower (Path.basename source))

/-- A source that comes after others gets the number at which the search ends, among the names that
they were given; no more candidates are tried than names were given out, and one more. -/
theorem allocateAll_endsAt (before : List String) (source : String) :
    ∃ n, EndsAt ((({} : ReportNames).allocateAll before).map Text.lower) (Path.basename source)
        (startAfter before source) n ∧
      n ≤ startAfter before source + before.length ∧
      ({} : ReportNames).allocateAll (before ++ [source]) =
        ({} : ReportNames).allocateAll before ++ [numbered (Path.basename source) n] := by
  obtain ⟨n, hends, hreport, -⟩ := (({} : ReportNames).afterAll before).allocate_eq source
  have hle := hends.le_add
  rw [length_used_afterAll] at hle
  refine ⟨n, hends.of_mem_iff fun taken => ?_, hle, ?_⟩
  · rw [used_afterAll, List.append_nil, List.mem_reverse]
  · rw [allocateAll_append, allocateAll_cons, hreport]
    rfl

/-- Every name is that of a source with a number. -/
theorem mem_allocateAll {names : ReportNames} {sources : List String} {report : String}
    (h : report ∈ names.allocateAll sources) :
    ∃ source ∈ sources, ∃ n, report = numbered (Path.basename source) n := by
  induction sources generalizing names with
  | nil => cases h
  | cons source rest ih =>
    rw [allocateAll_cons] at h
    rcases List.mem_cons.1 h with rfl | hrest
    · obtain ⟨n, -, hreport, -⟩ := names.allocate_eq source
      exact ⟨source, List.mem_cons_self, n, hreport⟩
    · obtain ⟨other, hother, n, hreport⟩ := ih hrest
      exact ⟨other, List.mem_cons_of_mem _ hother, n, hreport⟩

/-! ## The files of the reports -/

/-- The last name of a path is one of its names, or empty. -/
theorem mem_split_of_mem_basename {p : String} {c : Char} (h : c ∈ (Path.basename p).toList) :
    ∃ part ∈ Text.split '/' p.toList, c ∈ part := by
  unfold Path.basename at h
  rw [List.getLastD_eq_getLast?] at h
  cases hlast : (Path.names p).getLast? with
  | none =>
    rw [hlast] at h
    simp at h
  | some last =>
    rw [hlast, Option.getD_some] at h
    obtain ⟨part, hpart, rfl⟩ := List.mem_map.1 (List.mem_of_getLast? hlast)
    rw [String.toList_ofList] at h
    exact ⟨part, hpart, h⟩

theorem slash_not_mem_basename (p : String) : '/' ∉ (Path.basename p).toList := by
  intro hslash
  obtain ⟨part, hpart, hmem⟩ := mem_split_of_mem_basename hslash
  exact Text.not_mem_of_mem_split hpart hmem

/-- A number brings nothing into a name but digits and a hyphen. -/
theorem not_mem_numbered {c : Char} (hc : c ≠ '-') (hdigit : c.isDigit = false)
    (h : c ∉ name.toList) (n : Nat) : c ∉ (numbered name n).toList := by
  unfold numbered
  split
  · exact h
  · rw [String.toList_append, String.toList_append]
    intro hmem
    rcases List.mem_append.1 hmem with hmem | hnumber
    · rcases List.mem_append.1 hmem with hmem | hhyphen
      · exact h hmem
      · exact hc (List.mem_singleton.1 hhyphen)
    · have hnumber := Text.isDigit_of_mem_toString hnumber
      rw [hdigit] at hnumber
      contradiction

/-- So the path of a report has the characters of the directory and of the source, and few others. -/
theorem not_mem_path {directory source : String} {c : Char} (hc : c ≠ '-')
    (hdigit : c.isDigit = false) (hslash : c ≠ '/') (hending : c ∉ ".sarif".toList)
    (hdirectory : c ∉ directory.toList) (hsource : c ∉ source.toList) (n : Nat) :
    c ∉ (path directory (numbered (Path.basename source) n)).toList := by
  have hbasename : c ∉ (Path.basename source).toList := by
    intro hmem
    obtain ⟨part, hpart, hmem⟩ := mem_split_of_mem_basename hmem
    exact hsource (Text.mem_of_mem_split hpart hmem)
  have hreport := not_mem_numbered hc hdigit hbasename n
  refine Path.notMem_join_of_notMem hslash hdirectory ?_
  rw [String.toList_append, List.mem_append, not_or]
  exact ⟨hreport, hending⟩

/-- The last component of the path of a report. -/
def fileName (report : String) : String :=
  report ++ ".sarif"

/-- The file of a report is named by a single component of its path. -/
theorem fileName_component {report : String} {sources : List String}
    (h : report ∈ ({} : ReportNames).allocateAll sources) :
    Path.IsPlainName (fileName report) ∧ '/' ∉ (fileName report).toList := by
  have hslash : '/' ∉ report.toList := by
    obtain ⟨source, -, n, rfl⟩ := mem_allocateAll h
    exact not_mem_numbered (by decide) (by decide) (slash_not_mem_basename source) n
  have hlong : 6 ≤ (fileName report).toList.length := by
    rw [fileName, String.toList_append, List.length_append]
    have hending : ".sarif".toList.length = 6 := rfl
    omega
  refine ⟨⟨?_, ?_, ?_⟩, ?_⟩
  · intro hempty
    rw [hempty] at hlong
    simp at hlong
  · intro hdot
    rw [hdot] at hlong
    revert hlong
    decide
  · intro hdots
    rw [hdots] at hlong
    revert hlong
    decide
  · rw [fileName, String.toList_append]
    intro hmem
    rcases List.mem_append.1 hmem with hmem | hending
    · exact hslash hmem
    · revert hending
      decide

/-- A component that holds no slash is a relative path. -/
theorem isAbsolute_eq_false {p : String} (h : '/' ∉ p.toList) : Path.isAbsolute p = false := by
  unfold Path.isAbsolute
  cases hchars : p.toList with
  | nil => rfl
  | cons c rest =>
    rw [hchars] at h
    have hc : c ≠ '/' := fun e => h (by simp [e])
    simp [hc]

/-- Different names are different files of a directory. -/
theorem path_injective (directory : String) {report other : String}
    (hreport : '/' ∉ (fileName report).toList) (hother : '/' ∉ (fileName other).toList)
    (h : path directory report = path directory other) : report = other := by
  have hjoin : Path.join directory (fileName report) = Path.join directory (fileName other) := h
  rw [Path.join_eq_append (isAbsolute_eq_false hreport),
    Path.join_eq_append (isAbsolute_eq_false hother)] at hjoin
  have hchars := congrArg String.toList hjoin
  rw [String.toList_append, String.toList_append] at hchars
  have hnames := List.append_cancel_left hchars
  rw [fileName, fileName, String.toList_append, String.toList_append] at hnames
  exact String.toList_inj.1 (List.append_cancel_right hnames)

/-- The paths of the reports are pairwise different. -/
theorem nodup_paths (directory : String) (sources : List String) :
    ((({} : ReportNames).allocateAll sources).map (path directory)).Nodup := by
  have hnodup : (({} : ReportNames).allocateAll sources).Nodup :=
    List.Nodup.of_map Text.lower (nodup_lower_allocateAll sources)
  refine hnodup.map_on fun report hreport other hother h => ?_
  exact path_injective directory (fileName_component hreport).2 (fileName_component hother).2 h

end BuildAnalysis.Analysis.ReportNames
