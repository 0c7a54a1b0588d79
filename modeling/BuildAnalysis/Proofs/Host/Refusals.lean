import BuildAnalysis.Proofs.Host.Making
import BuildAnalysis.Proofs.Host.Processes
import BuildAnalysis.Proofs.Path.Joining

/-!
# Refusals of the system

A request about files is refused by the system, unless it is never made: its path holds a character
that no path may hold, or too many directories would have to be made. Below a directory that is there
neither is the case.

* `isAnswer_of_write`: writing a file is refused by the system.
* `isAnswer_of_makePath`: so is making directories below one that is there.
* `isFile_iff`: what is a file can be read.
-/

namespace BuildAnalysis.Host.FileTree

variable {tree after : FileTree} {place base last directory : Place} {path name root p text : String}
  {names : List String} {e : SystemError}

/-! ## Requests that are made -/

/-- A path may be asked for if it holds no forbidden character, is not empty and is not too long. -/
theorem checkPath_eq_ok : checkPath path = .ok () ↔
    '\x00' ∉ path.toList ∧ path ≠ "" ∧ path.utf8ByteSize ≤ maxPathSize := by
  rw [checkPath]
  split
  · rename_i hnul
    simp only [List.contains_iff_mem] at hnul
    simp [hnul]
  · rename_i hnul
    simp only [List.contains_iff_mem] at hnul
    split
    · rename_i hempty
      simp_all
    · rename_i hempty
      split
      · rename_i hsize
        simp [Nat.not_le.2 hsize]
      · rename_i hsize
        simp only [true_iff]
        exact ⟨hnul, by simpa using hempty, Nat.not_lt.1 hsize⟩

theorem isAnswer_of_checkPath (hnul : '\x00' ∉ path.toList) (h : checkPath path = .error e) :
    e.IsAnswer := by
  rw [checkPath, if_neg (by simpa using hnul)] at h
  split at h
  · cases h
    exact ⟨by simp, by simp⟩
  · split at h
    · cases h
      exact ⟨by simp, by simp⟩
    · cases h

theorem isAnswer_of_step (h : tree.step path place name = .error e) : e.IsAnswer := by
  rw [step] at h
  split at h
  · cases h
    exact ⟨by simp, by simp⟩
  · cases h
    exact ⟨by simp, by simp⟩
  · split at h
    · cases h
    · split at h
      · cases h
      · split at h
        · cases h
          exact ⟨by simp, by simp⟩
        · cases h

theorem isAnswer_of_walk (h : tree.walk path place names = .error e) : e.IsAnswer := by
  induction names generalizing place with
  | nil =>
    rw [walk] at h
    split at h
    · cases h
    · cases h
      exact ⟨by simp, by simp⟩
  | cons name rest ih =>
    rw [walk] at h
    cases hstep : tree.step path place name with
    | error other =>
      rw [hstep] at h
      cases h
      exact isAnswer_of_step hstep
    | ok next =>
      rw [hstep] at h
      exact ih h

/-- Writing a file is refused by the system, unless the path holds the character that none may. -/
theorem isAnswer_of_write {content : List UInt8} {executable : Option Bool}
    (hnul : '\x00' ∉ path.toList)
    (h : tree.write directory path content executable = .error e) : e.IsAnswer := by
  rw [write] at h
  cases hcheck : checkPath path with
  | error other =>
    rw [hcheck] at h
    cases h
    exact isAnswer_of_checkPath hnul hcheck
  | ok u =>
    rw [hcheck] at h
    cases hwalk : tree.walk path (start directory path) (Path.names path).dropLast with
    | error other =>
      simp only [hwalk] at h
      cases h
      exact isAnswer_of_walk hwalk
    | ok parent =>
      simp only [hwalk] at h
      cases hstep : tree.step path parent (Path.basename path) with
      | error other =>
        simp only [bind, Except.bind, hstep] at h
        cases h
        exact isAnswer_of_step hstep
      | ok place =>
        simp only [bind, Except.bind, hstep] at h
        split at h
        · cases h
          exact ⟨by simp, by simp⟩
        · cases h
        · cases h

/-! ## Making directories -/

/-- Making directories that are not too many is refused by the system. -/
theorem isAnswer_of_makeNames (hpath : '\x00' ∉ path.toList)
    (hnames : ∀ name ∈ names, '\x00' ∉ name.toList)
    (hcount : names.countP (· != "") ≤ maxMissing)
    (h : tree.makeNames place path names = (some e, after)) : e.IsAnswer := by
  have hslash {path : String} (hpath : '\x00' ∉ path.toList) : '\x00' ∉ (path ++ "/").toList := by
    simpa using hpath
  induction names generalizing tree place path with
  | nil => cases h
  | cons name rest ih =>
    have hrest : ∀ name ∈ rest, '\x00' ∉ name.toList :=
      fun name hname => hnames name (List.mem_cons_of_mem _ hname)
    have hle : rest.countP (· != "") ≤ maxMissing :=
      Nat.le_trans (List.sublist_cons_self name rest).countP_le hcount
    by_cases hname : name = ""
    · subst hname
      exact ih (hslash hpath) hrest hle h
    -- the name counts, so that there are fewer directories below it
    have hbelow : ¬ maxMissing ≤ rest.countP (· != "") := by
      rw [List.countP_cons_of_pos (by simpa using hname)] at hcount
      omega
    have hlonger : '\x00' ∉ (path ++ name).toList := by
      rw [String.toList_append, List.mem_append, not_or]
      exact ⟨hpath, hnames name List.mem_cons_self⟩
    rw [makeNames] at h
    · simp only [if_neg hbelow] at h
      split at h
      · rename_i other hother
        cases h
        cases hcheck : checkPath (path ++ name) with
        | error refusal =>
          rw [hcheck] at hother
          cases hother
          exact isAnswer_of_checkPath hlonger hcheck
        | ok u =>
          rw [hcheck] at hother
          exact isAnswer_of_step hother
      · split at h
        · exact ih (hslash hlonger) hrest hle h
        · split at h
          · cases h
            exact ⟨by simp, by simp⟩
          · exact ih (hslash hlonger) hrest hle h
        · exact ih (hslash hlonger) hrest hle h
    · exact fun h => hname h

/-- Directories that are there are passed through without a refusal, if the paths that lead to them may
be asked for. These paths are the beginnings of a text. -/
theorem makeNames_of_checked {text : String}
    (htext : ∀ p : String, p ≠ "" → p.toList <+: text.toList → checkPath p = .ok ())
    (h : Reaches tree place names last) (hlast : tree.get? last = some .directory)
    (hpath : '\x00' ∉ path.toList)
    (hbegins : names ≠ [] → (path ++ Path.ofNames names).toList <+: text.toList)
    (others : List String) :
    ∃ path', '\x00' ∉ path'.toList ∧
      tree.makeNames place path (names ++ others) = tree.makeNames last path' others := by
  induction h generalizing path with
  | nil => exact ⟨path, hpath, rfl⟩
  | @cons place next last name rest hplace hname hrest ih =>
    have htotal := hbegins (List.cons_ne_nil name rest)
    -- the path up to this name is a beginning of the text, and with the slash it goes on
    have hsoFar : (path ++ name).toList <+: text.toList := by
      refine List.IsPrefix.trans ?_ htotal
      rw [String.toList_append, String.toList_append]
      exact (List.prefix_append_right_inj _).2 (Path.prefix_ofNames_cons name rest)
    have hrestPrefix : rest ≠ [] →
        (path ++ name ++ "/" ++ Path.ofNames rest).toList <+: text.toList := by
      intro hne
      rw [Path.ofNames_cons hne, ← String.append_assoc, ← String.append_assoc] at htotal
      exact htotal
    rw [List.cons_append]
    by_cases hempty : name = ""
    · subst hempty
      rw [descend_empty] at hname
      cases hname
      rw [String.append_empty] at hrestPrefix
      rw [makeNames]
      exact ih hlast (by simpa using hpath) hrestPrefix
    have hchecked : checkPath (path ++ name) = .ok () :=
      htext _ (by simp [hempty]) hsoFar
    have hstep : (checkPath (path ++ name) *> tree.step (path ++ name) place name) = .ok next := by
      rw [hchecked]
      exact step_eq_ok.2 ⟨hplace, hname⟩
    have hdirectory : tree.get? next = some .directory := by
      cases hrest with
      | nil => exact hlast
      | cons hplace' _ _ => exact hplace'
    have hnul : '\x00' ∉ (path ++ name ++ "/").toList := by
      simpa using (checkPath_eq_ok.1 hchecked).1
    rw [makeNames]
    · simp only [hstep, hdirectory]
      exact ih hlast hnul hrestPrefix
    · exact fun h => hempty h

/-- Making directories below one that is there is refused by the system. -/
theorem isAnswer_of_makePath (hroot : root ≠ "") (hp : Path.isAbsolute p = false)
    (hnul : '\x00' ∉ p.toList) (hcount : (Path.names p).countP (· != "") ≤ maxMissing)
    (hbase : tree.locate directory root = .ok base) (hdirectory : tree.get? base = some .directory)
    (h : tree.makePath directory (Path.join root p) = (some e, after)) : e.IsAnswer := by
  obtain ⟨hcheck, hreach, -⟩ := locate_eq_ok.1 hbase
  obtain ⟨hrootNul, -, hsize⟩ := checkPath_eq_ok.1 hcheck
  obtain ⟨parents, hnames, hparents, hbegins⟩ := reaches_parents hroot hp hreach
  have htext : ∀ q : String, q ≠ "" → q.toList <+: root.toList → checkPath q = .ok () := by
    intro q hq hqroot
    refine checkPath_eq_ok.2 ⟨fun hmem => hrootNul (hqroot.subset hmem), hq, ?_⟩
    exact Nat.le_trans (Path.utf8ByteSize_le_of_prefix hqroot) hsize
  have hempty : "".toList = [] := rfl
  rw [makePath, hnames] at h
  obtain ⟨path', hpath', hmake⟩ := makeNames_of_checked htext hparents hdirectory
    (by rw [hempty]; exact List.not_mem_nil)
    (fun _ => by rw [String.toList_append, hempty]; exact hbegins) (Path.names p)
  rw [hmake] at h
  refine isAnswer_of_makeNames hpath' (fun name hname hmem => ?_) hcount h
  obtain ⟨part, hpart, rfl⟩ := List.mem_map.1 hname
  rw [String.toList_ofList] at hmem
  exact hnul (Text.mem_of_mem_split hpart hmem)

/-! ## Files that are there -/

/-- What is a file can be read, and nothing else can. -/
theorem isFile_iff : tree.isFile directory path = true ↔
    ∃ content, tree.read directory path = .ok content := by
  rw [isFile, find?, read]
  cases tree.locate directory path with
  | error e => simp
  | ok place =>
    simp only
    cases tree.get? place with
    | none => simp
    | some entry =>
      cases entry with
      | directory => simp
      | file content executable => simp

end BuildAnalysis.Host.FileTree
