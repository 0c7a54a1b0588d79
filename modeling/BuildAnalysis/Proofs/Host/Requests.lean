import BuildAnalysis.Host.Basic
import BuildAnalysis.Proofs.Host.Walking
import BuildAnalysis.Proofs.Path.Normalizing

/-!
# Requests to start a process

A process is started if all of its texts can be handed to the system. A path that leads somewhere can
be, and so can the path of it that begins at the root.

* `request_of_isPassable`, `request_of_not_isPassable`: when a process is started.
* `isPassable_of_locate`, `isPassable_of_which`: paths that lead somewhere, programs that are found.
* `isPassable_absolute`: paths from the root.
-/

namespace BuildAnalysis.Host

variable {host : Host} {invocation : Invocation} {path program name : String} {place : Place}

/-- A process is started if its texts can be handed to the system. -/
theorem request_of_isPassable (host : Host) (h : invocation.isPassable = true) :
    host.request invocation = host.start invocation := if_pos h

/-- Otherwise the system is not asked, and nothing changes. -/
theorem request_of_not_isPassable (host : Host) (h : ¬ invocation.isPassable = true) :
    host.request invocation = (.notStarted .invalidPath, host) := if_neg h

/-- A text can be handed to the system if it holds no null character. -/
theorem isPassable_iff {text : String} : isPassable text = true ↔ '\x00' ∉ text.toList := by
  simp [isPassable]

/-- What a path leads to was asked for by that path. -/
theorem isPassable_of_locate {tree : FileTree} {directory : Place}
    (h : tree.locate directory path = .ok place) : isPassable path = true := by
  obtain ⟨hcheck, -, -⟩ := FileTree.locate_eq_ok.1 h
  rw [FileTree.checkPath] at hcheck
  split at hcheck
  · cases hcheck
  · rename_i hnull
    simpa [isPassable] using hnull

/-- A program that is found is at some place. -/
theorem exists_locate_of_which (h : host.which name = some program) :
    ∃ place, host.files.locate host.place program = .ok place := by
  have hruns : host.files.isExecutable host.place program = true := by
    unfold Host.which at h
    simp only at h
    split at h
    · split at h
      · rename_i hruns
        cases h
        exact hruns
      · cases h
    · exact List.find?_some h
  rw [FileTree.isExecutable, FileTree.find?] at hruns
  cases hlocate : host.files.locate host.place program with
  | error e =>
    rw [hlocate] at hruns
    cases hruns
  | ok place => exact ⟨place, rfl⟩

theorem isPassable_of_which (h : host.which name = some program) : isPassable program = true := by
  obtain ⟨place, hlocate⟩ := exists_locate_of_which h
  exact isPassable_of_locate hlocate

/-- The path from the root can be handed to the system if the path can. -/
theorem isPassable_absolute (host : Host) (h : isPassable path = true) :
    isPassable (host.absolute path) = true := by
  rw [isPassable_iff] at h ⊢
  have hdirectory := isPassable_iff.1 host.passable_directory
  exact Path.notMem_normalize (by decide) (by decide)
    (Path.notMem_join_of_notMem (by decide) hdirectory h)

end BuildAnalysis.Host
