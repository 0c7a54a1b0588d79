import BuildAnalysis.Analysis.Results
import BuildAnalysis.Proofs.Analysis.ReportNames
import BuildAnalysis.Proofs.Host.Logging
import BuildAnalysis.Proofs.Host.Making
import BuildAnalysis.Proofs.Host.Places

/-!
# What becomes of the reports of earlier runs

Preparing the directory of the results makes it, and nothing that was there is changed by that. On
request the files in it are taken away that end like a report in any case of their letters, but for
those whose names begin with a dot: the report of a source whose name begins with a dot stays, and so
does the one of a source without a name.

* `isStaleName_iff`: which names are taken away.
* `get?_clean`: what stands at a place when the reports were taken away.
* `prepareResults_isPrepared`: what preparing the directory of the results changes.
-/

namespace BuildAnalysis

/-! ## Endings of names -/

namespace Path

variable {name : String}

theorem basename_of_not_mem (h : '/' ∉ name.toList) : basename name = name := by
  rw [basename, names, Text.split_of_not_mem h]
  exact String.ofList_toList

/-- The ending of a name that does not begin with a dot is what follows its last dot. -/
theorem extension_of_append {base rest : List Char} (hname : name.toList = base ++ '.' :: rest)
    (hslash : '/' ∉ name.toList) (hhead : name.toList.head? ≠ some '.') (hrest : '.' ∉ rest) :
    extension name = String.ofList ('.' :: rest) := by
  have hdrop : name.toList.dropWhile (· == '.') = base ++ '.' :: rest := by
    rw [hname] at hhead ⊢
    cases base with
    | nil => exact absurd rfl hhead
    | cons c more =>
      have hc : (c == '.') = false := by simpa using hhead
      rw [List.cons_append, List.dropWhile_cons_of_neg (by simp [hc])]
  have hback : ∀ c ∈ rest.reverse, (c != '.') = true := by
    intro c hc
    rw [bne_iff_ne]
    rintro rfl
    exact hrest (List.mem_reverse.1 hc)
  unfold extension
  simp only [basename_of_not_mem hslash, hdrop]
  rw [if_pos (by simp), List.reverse_append, List.reverse_cons, List.append_assoc,
    List.takeWhile_append_of_pos hback]
  simp

/-- A name without a dot has no ending. -/
theorem extension_of_not_mem (hdot : '.' ∉ name.toList) (hslash : '/' ∉ name.toList) :
    extension name = "" := by
  unfold extension
  simp only [basename_of_not_mem hslash]
  rw [if_neg]
  intro hmem
  exact hdot ((List.dropWhile_suffix _).subset (List.contains_iff_mem.1 hmem))

/-- A name that does not begin with a dot is told apart by its ending: it has none, or ends with its
last dot and what follows. -/
theorem extension_cases (hslash : '/' ∉ name.toList) (hhead : name.toList.head? ≠ some '.') :
    extension name = "" ∨ ∃ base rest, name.toList = base ++ '.' :: rest ∧ '.' ∉ rest ∧
      extension name = String.ofList ('.' :: rest) := by
  by_cases hdot : '.' ∈ name.toList
  · obtain ⟨after, before, hname, hafter⟩ :=
      List.eq_append_cons_of_mem (List.mem_reverse.2 hdot)
    have hsplit : name.toList = before.reverse ++ '.' :: after.reverse := by
      rw [← List.reverse_reverse name.toList, hname]
      simp
    have hrest : '.' ∉ after.reverse := fun hmem => hafter (List.mem_reverse.1 hmem)
    exact Or.inr ⟨_, _, hsplit, hrest, extension_of_append hsplit hslash hhead hrest⟩
  · exact Or.inl (extension_of_not_mem hdot hslash)

end Path

namespace Analysis

open Host (FileTree Place Entry)
open Host.FileTree (checkPath)

variable {tree : FileTree} {results name : String} {directory place : Place}

/-! ## Names of reports -/

/-- Whether a name ends like that of a report, in any case of its letters. -/
def HasReportEnding (name : String) : Prop :=
  ∃ base ending, name = base ++ ending ∧ Text.lower ending = ".sarif"

/-- Whether a name begins with a dot. -/
def IsHidden (name : String) : Prop :=
  name.toList.head? = some '.'

instance (name : String) : Decidable (IsHidden name) :=
  inferInstanceAs (Decidable (_ = _))

/-- The ending of a report begins with the only dot in it. -/
theorem exists_cons_of_lower {ending : String} (h : Text.lower ending = ".sarif") :
    ∃ rest, ending.toList = '.' :: rest ∧ '.' ∉ rest := by
  have hchars : Text.lowerFrom [] ending.toList = '.' :: "sarif".toList := by
    have hlower := congrArg String.toList h
    rw [Text.lower, String.toList_ofList] at hlower
    exact hlower
  exact Text.eq_dot_cons_of_lowerFrom hchars (by decide)

/-- The names that are taken away end like a report and do not begin with a dot. -/
theorem isStaleName_iff (hslash : '/' ∉ name.toList) :
    isStaleName name = true ↔ HasReportEnding name ∧ ¬ IsHidden name := by
  rw [isStaleName, Bool.and_eq_true, bne_iff_ne, beq_iff_eq, and_comm, IsHidden]
  refine and_congr_left fun hhead => ?_
  constructor
  · intro hlower
    rcases Path.extension_cases hslash hhead with hnone | ⟨base, rest, hname, -, hextension⟩
    · rw [hnone] at hlower
      exact absurd hlower (by decide)
    · refine ⟨String.ofList base, _, ?_, hlower⟩
      rw [← String.toList_inj, hname, hextension, String.toList_append, String.toList_ofList,
        String.toList_ofList]
  · rintro ⟨base, ending, hname, hending⟩
    obtain ⟨rest, hrest, hdot⟩ := exists_cons_of_lower hending
    have hchars : name.toList = base.toList ++ '.' :: rest := by
      rw [hname, String.toList_append, hrest]
    rw [Path.extension_of_append hchars hslash hhead hdot, ← hrest, String.ofList_toList, hending]

/-! ## Taking files away -/

/-- Whether a name in a directory, to which `results` leads, is that of a report which is taken away
if it is a file: it ends like a report, it does not begin with a dot, and its path may be asked for. -/
structure IsTakenAway (results name : String) : Prop where
  ending : HasReportEnding name
  visible : ¬ IsHidden name
  checked : checkPath (Path.join results name) = .ok ()

/-- A file is taken away by its name. -/
theorem isStale_append {content : List UInt8} {executable : Bool} (hslash : '/' ∉ name.toList)
    (hfile : tree.get? (directory ++ [name]) = some (.file content executable)) :
    isStale tree results directory (directory ++ [name]) = true ↔ IsTakenAway results name := by
  have hlast : (directory ++ [name]).getLastD "" = name := by simp
  have hfront : (directory ++ [name]).dropLast = directory := List.dropLast_concat
  unfold isStale
  simp only [hfile, hlast, hfront, beq_self_eq_true, Bool.true_and]
  cases hcheck : checkPath (Path.join results name) with
  | error e =>
    refine iff_of_false (by simp) fun h => ?_
    rw [h.checked] at hcheck
    cases hcheck
  | ok u =>
    simp only [isStaleName_iff hslash]
    exact ⟨fun h => ⟨h.1, h.2, hcheck⟩, fun h => ⟨h.ending, h.visible⟩⟩

/-- Only files that are in the directory are taken away. -/
theorem eq_append_of_isStale (h : isStale tree results directory place = true) :
    ∃ name content executable, place = directory ++ [name] ∧
      tree.get? place = some (.file content executable) := by
  unfold isStale at h
  simp only at h
  split at h
  · rename_i content executable hfile _
    rw [Bool.and_eq_true, beq_iff_eq] at h
    have hne : place ≠ [] := by
      rintro rfl
      rw [FileTree.get?_nil] at hfile
      cases hfile
    exact ⟨place.getLast hne, content, executable, by rw [← h.1, List.dropLast_concat_getLast], hfile⟩
  · cases h

/-- The entries of the places that are left. -/
theorem get?_clean (tree : FileTree) (results : String) (directory place : Place) :
    (clean tree results directory).get? place =
      if isStale tree results directory place then none else tree.get? place := by
  by_cases hroot : place = []
  · subst hroot
    rfl
  rw [FileTree.get?_of_ne_nil _ hroot, FileTree.get?_of_ne_nil tree hroot, clean,
    List.find?_filter]
  split
  · rename_i hstale
    rw [Option.map_eq_none_iff, List.find?_eq_none]
    intro entry _ hentry
    obtain ⟨hkept, hplace⟩ := of_decide_eq_true hentry
    rw [beq_iff_eq.1 hplace, hstale] at hkept
    cases hkept
  · rename_i hstale
    -- the entries of the place itself are all left
    have hsame : ∀ entry : Place × Entry,
        decide ((!isStale tree results directory entry.1) = true ∧ (entry.1 == place) = true) =
          (entry.1 == place) := by
      intro entry
      by_cases hentry : entry.1 = place
      · simp [hentry, hstale]
      · simp [hentry]
    simp only [hsame]

/-- Directories are left where they are. -/
theorem clean_keeps (h : tree.get? place = some .directory) :
    (clean tree results directory).get? place = some .directory := by
  rw [get?_clean, if_neg, h]
  intro hstale
  obtain ⟨name, content, executable, -, hfile⟩ := eq_append_of_isStale hstale
  rw [h] at hfile
  cases hfile

/-! ## The directory of the results -/

theorem hasReportEnding_fileName (report : String) :
    HasReportEnding (ReportNames.fileName report) :=
  ⟨report, ".sarif", rfl, by decide⟩

/-- What preparing the directory of the results changes, where `place` is that of the directory. The
directory is there afterwards. Files are taken away on request only, and of those in the directory just
the ones with a name that is taken away; everything else stays as it was, but for directories that are
made where nothing was. Of the reports that a run can have written those stay whose names begin with a
dot. -/
structure IsPreparedDirectory (host : Host) (path : String) (cleanReports : Bool) (results : String)
    (after : Host) : Prop where
  results_eq : results = host.absolute path
  files_only : after = { host with files := after.files }
  located : after.files.locate host.place results = .ok (Place.ofPath results)
  isDirectory : after.files.get? (Place.ofPath results) = some .directory
  removed : cleanReports = true → ∀ name, '/' ∉ name.toList → IsTakenAway results name →
    ∀ content executable,
      after.files.get? (Place.ofPath results ++ [name]) ≠ some (.file content executable)
  kept : ∀ place, (∀ name ∈ place, '/' ∉ name.toList) →
    (cleanReports = true → ∀ name content executable, place = Place.ofPath results ++ [name] →
      host.files.get? place = some (.file content executable) → ¬ IsTakenAway results name) →
    after.files.get? place = host.files.get? place ∨
      (host.files.get? place = none ∧ after.files.get? place = some .directory)
  reports : cleanReports = true → ∀ sources,
    ∀ report ∈ ({} : ReportNames).allocateAll sources, ∀ content executable,
      host.files.get? (Place.ofPath results ++ [ReportNames.fileName report]) =
        some (.file content executable) →
      checkPath (ReportNames.path results report) = .ok () →
      (after.files.get? (Place.ofPath results ++ [ReportNames.fileName report]) =
        some (.file content executable) ↔ report = "" ∨ IsHidden report)

/-- The path of a directory that was made may be asked for. -/
theorem checkPath_of_makeNames_normal {after : FileTree} (hresults : Path.IsNormal results)
    (h : tree.makeNames [] "" (Path.names results) = (none, after)) :
    checkPath results = .ok () := by
  obtain ⟨slashes, hslashes, plain, hplain, rfl⟩ := hresults
  by_cases hne : plain = []
  · -- nothing is made for the root, but its path is short
    subst hne
    have hroot : ∀ slashes ∈ ["/", "//"], checkPath (slashes ++ Path.ofNames []) = .ok () := by
      intro slashes hslashes
      rcases List.mem_cons.1 hslashes with rfl | hslashes
      · rfl
      · obtain rfl := List.mem_singleton.1 hslashes
        rfl
    exact hroot slashes hslashes
  · obtain ⟨n, hnames⟩ := Path.exists_names_append hslashes (Path.ofNames plain)
    rw [Path.names_ofNames hne fun name hname => (hplain name hname).2] at hnames
    have hnone : Path.names (slashes ++ Path.ofNames plain) ≠ [] := by
      rw [hnames]
      exact List.append_ne_nil_of_right_ne_nil _ hne
    have hlast : (Path.names (slashes ++ Path.ofNames plain)).getLast hnone ≠ "" := by
      simp only [hnames, List.getLast_append_of_ne_nil _ hne]
      exact (hplain _ (List.getLast_mem hne)).1.1
    have hcheck := FileTree.checkPath_of_makeNames hnone hlast h
    rwa [Path.ofNames_names, String.empty_append] at hcheck

/-- The directory that a normal path from the root names is made where it leads to. -/
theorem locate_of_makePath {after : FileTree} {current : Place} (hresults : Path.IsNormal results)
    (h : tree.makePath current results = (none, after)) :
    after.locate current results = .ok (Place.ofPath results) ∧
      after.get? (Place.ofPath results) = some .directory := by
  have hstart : FileTree.start current results = [] := by
    rw [FileTree.start, if_pos hresults.isAbsolute]
  rw [FileTree.makePath, hstart] at h
  obtain ⟨last, hreach, hlast⟩ := FileTree.reaches_of_makeNames (FileTree.get?_nil tree) h
  have hplace : last = Place.ofPath results := by
    rw [Host.place_of_isNormal hresults, hreach.eq_normalNames hresults.isAbsolute]
  subst hplace
  exact ⟨FileTree.locate_eq_ok.2 ⟨checkPath_of_makeNames_normal hresults h, by rwa [hstart],
    by rw [hlast]; rfl⟩, hlast⟩

/-- What stands at a place when the directory was made: what stood there before, or a directory where
nothing was. -/
theorem get?_of_makePath {made : FileTree} {current : Place}
    (h : tree.makePath current results = (none, made)) (place : Place) :
    made.get? place = tree.get? place ∨
      (tree.get? place = none ∧ made.get? place = some .directory) := by
  have hplace := FileTree.makeNames_get? tree (FileTree.start current results) ""
    (Path.names results) place
  rw [FileTree.makePath] at h
  rw [h] at hplace
  exact hplace.imp_right fun ⟨hnone, hmade, _⟩ => ⟨hnone, hmade⟩

/-- How the directory of the results was prepared: it was made, and then the reports in it were taken
away if that was asked for. -/
theorem prepareResults_ok {host after : Host} {path : String} {cleanReports : Bool}
    (hdirectory : Path.IsNormal host.directory)
    (h : (prepareResults path cleanReports).on host = (.ok results, after)) :
    results = host.absolute path ∧ Path.IsNormal results ∧ ∃ made,
      host.files.makePath host.place results = (none, made) ∧
      after = { host with
        files := if cleanReports then clean made results (Place.ofPath results) else made } := by
  have hnormal : Path.IsNormal (host.absolute path) := by
    rw [Host.absolute_eq]
    exact Path.isNormal_absolute hdirectory.isAbsolute path
  simp only [prepareResults, Action.on_bind, Action.on_ask, Action.on_change] at h
  cases hmake : host.files.makePath host.place (host.absolute path) with
  | mk refusal made =>
    rw [hmake] at h
    cases refusal with
    | some e => cases h
    | none =>
      obtain ⟨hlocate, -⟩ := locate_of_makePath hnormal hmake
      cases cleanReports with
      | false =>
        simp only [Bool.false_eq_true, if_false, Action.on_pure, Prod.mk.injEq,
          Except.ok.injEq] at h
        obtain ⟨rfl, rfl⟩ := h
        exact ⟨rfl, hnormal, made, hmake, rfl⟩
      | true =>
        have hplace : Host.place { host with files := made } = host.place := rfl
        simp only [if_true, Action.on_bind, Action.on_modify, hplace, hlocate, Action.on_pure,
          Prod.mk.injEq, Except.ok.injEq] at h
        obtain ⟨rfl, rfl⟩ := h
        exact ⟨rfl, hnormal, made, hmake, rfl⟩

/-- The directory is the one of its path on the host, whatever that host is. -/
theorem prepareResults_result {host after : Host} {path : String} {cleanReports : Bool}
    (h : (prepareResults path cleanReports).on host = (.ok results, after)) :
    results = host.absolute path := by
  obtain ⟨asked, between, hasked, h⟩ := Action.on_bind_eq_ok.1 h
  cases hasked
  obtain ⟨-, made, -, h⟩ := Action.on_bind_eq_ok.1 h
  cases cleanReports with
  | false =>
    cases h
    rfl
  | true =>
    obtain ⟨-, cleaned, -, h⟩ := Action.on_bind_eq_ok.1 h
    cases h
    rfl

/-- The file of a report begins with a dot exactly if the report has no name or its name does. -/
theorem isHidden_fileName {report : String} :
    IsHidden (ReportNames.fileName report) ↔ report = "" ∨ IsHidden report := by
  rw [IsHidden, IsHidden, ReportNames.fileName, String.toList_append, List.head?_append]
  by_cases hempty : report = ""
  · subst hempty
    exact iff_of_true rfl (Or.inl rfl)
  · cases hchars : report.toList with
    | nil => exact absurd (String.toList_inj.1 hchars) hempty
    | cons c rest => simp [hempty]

/-- Without cleaning, preparing the directory of the results makes directories and nothing else. -/
theorem isPrepared_of_made {host : Host} {path : String} {made : FileTree}
    (hresults : results = host.absolute path) (hnormal : Path.IsNormal results)
    (hmake : host.files.makePath host.place results = (none, made)) :
    IsPreparedDirectory host path false results { host with files := made } where
  results_eq := hresults
  files_only := rfl
  located := (locate_of_makePath hnormal hmake).1
  isDirectory := (locate_of_makePath hnormal hmake).2
  removed h := by cases h
  kept place _ _ := get?_of_makePath hmake place
  reports h := by cases h

/-- With cleaning, the reports are taken away from what was made. -/
theorem isPrepared_of_cleaned {host : Host} {path : String} {made : FileTree}
    (hresults : results = host.absolute path) (hnormal : Path.IsNormal results)
    (hmake : host.files.makePath host.place results = (none, made)) :
    IsPreparedDirectory host path true results
      { host with files := clean made results (Place.ofPath results) } where
  results_eq := hresults
  files_only := rfl
  located := by
    obtain ⟨hlocate, hthere⟩ := locate_of_makePath hnormal hmake
    obtain ⟨hcheck, hreach, -⟩ := FileTree.locate_eq_ok.1 hlocate
    exact FileTree.locate_eq_ok.2 ⟨hcheck, hreach.mono fun _ => clean_keeps,
      by rw [clean_keeps hthere]; rfl⟩
  isDirectory := clean_keeps (locate_of_makePath hnormal hmake).2
  removed _ name hslash haway content executable hfile := by
    simp only [get?_clean] at hfile
    split at hfile
    · cases hfile
    · rename_i hleft
      exact hleft ((isStale_append hslash hfile).2 haway)
  kept place hplain hother := by
    simp only [get?_clean]
    split
    · -- what was taken away was there before, and is excepted
      rename_i hstale
      obtain ⟨name, content, executable, rfl, hfile⟩ := eq_append_of_isStale hstale
      have hbefore : host.files.get? (Place.ofPath results ++ [name]) =
          some (.file content executable) := by
        rcases get?_of_makePath hmake (Place.ofPath results ++ [name]) with hsame | ⟨-, hmade⟩
        · rw [← hsame, hfile]
        · rw [hfile] at hmade
          cases hmade
      have haway := (isStale_append (hplain name (by simp)) hfile).1 hstale
      exact absurd haway (hother rfl name content executable rfl hbefore)
    · exact get?_of_makePath hmake place
  reports _ sources report hreport content executable hbefore hcheck := by
    have hslash := (ReportNames.fileName_component hreport).2
    have hfile : made.get? (Place.ofPath results ++ [ReportNames.fileName report]) =
        some (.file content executable) := by
      have hkept := FileTree.makePath_keeps host.place results hbefore
      rwa [hmake] at hkept
    simp only [get?_clean, hfile]
    rw [← isHidden_fileName, Option.ite_none_left_eq_some, isStale_append hslash hfile]
    constructor
    · rintro ⟨hstays, -⟩
      exact by_contra fun hvisible => hstays ⟨hasReportEnding_fileName report, hvisible, hcheck⟩
    · intro hhidden
      exact ⟨fun haway => haway.visible hhidden, rfl⟩

/-- What preparing the directory of the results changes: nothing but files, of which those go, on
request, that end like a report and do not begin with a dot. -/
theorem prepareResults_isPrepared {host after : Host} {path : String} {cleanReports : Bool}
    (hdirectory : Path.IsNormal host.directory)
    (h : (prepareResults path cleanReports).on host = (.ok results, after)) :
    IsPreparedDirectory host path cleanReports results after := by
  obtain ⟨hresults, hnormal, made, hmake, rfl⟩ := prepareResults_ok hdirectory h
  cases cleanReports with
  | false => exact isPrepared_of_made hresults hnormal hmake
  | true => exact isPrepared_of_cleaned hresults hnormal hmake

/-- A host with reports of an earlier run, one of them of a source whose name begins with a dot, and
with a directory that is named like a report. -/
def reportsHost : Host where
  files := ⟨[(["out"], .directory), (["out", "a.c.sarif"], .file [] false),
    (["out", "B.SARIF"], .file [] false), (["out", ".a.c.sarif"], .file [] false),
    (["out", "d.sarif"], .directory), (["out", "d.sarif", "e.sarif"], .file [] false)]⟩
  directory := "/"
  environment := []
  children := []
  console := .ofCommand ""

/-- That host after its reports were taken away. -/
def cleanedHost : Host :=
  { reportsHost with
    files := ⟨[(["out"], .directory), (["out", ".a.c.sarif"], .file [] false),
      (["out", "d.sarif"], .directory), (["out", "d.sarif", "e.sarif"], .file [] false)]⟩ }

theorem prepareResults_isPrepared_sample :
    Path.IsNormal reportsHost.directory ∧
      (prepareResults "out" true).on reportsHost = (.ok "/out", cleanedHost) ∧
      IsPreparedDirectory reportsHost "out" true "/out" cleanedHost := by
  have hcleaned : (prepareResults "out" true).on reportsHost = (.ok "/out", cleanedHost) := rfl
  exact ⟨Path.isNormal_root, hcleaned, prepareResults_isPrepared Path.isNormal_root hcleaned⟩

/-- The report of a source whose name begins with a dot is still there after the reports were taken
away. -/
theorem prepareResults_keeps_hidden :
    ({} : ReportNames).allocateAll ["/src/.a.c"] = [".a.c"] ∧
      (prepareResults "out" true).on reportsHost = (.ok "/out", cleanedHost) ∧
      HasReportEnding (ReportNames.fileName ".a.c") ∧
      cleanedHost.files.get? (Place.ofPath "/out" ++ [ReportNames.fileName ".a.c"]) =
        some (.file [] false) := by
  refine ⟨by decide +kernel, rfl, ⟨".a.c", ".sarif", rfl, by decide⟩, by decide +kernel⟩

end Analysis

end BuildAnalysis
