import BuildAnalysis.Proofs.Analysis.Cleaning
import BuildAnalysis.Proofs.Answers
import BuildAnalysis.Proofs.Path.Resolving
import BuildAnalysis.Settings
import BuildAnalysis.Target.Basic

/-!
# The directories of a run

The directories that a command line names are resolved before any of them is looked for. Resolving them
again changes nothing, so that the directory of the results is still the same one when it is made.

* `map_directories_ofValues`: the settings have the resolved directories.
* `areResolved_of_ofValues`: all of them are normal.
* `resolvesPaths`: what the paths of a run are resolved to.
-/

namespace BuildAnalysis

open BuildAnalysis.Path (isAbsolute IsResolved)

variable {host : Host} {values : CommandLine.Values}

/-- The directories of a run. -/
structure Directories where
  workspace : String
  build : String
  results : String

namespace Directories

variable {directories : Directories}

/-- The directories that the values of the switches name on a host. -/
def ofValues (host : Host) (values : CommandLine.Values) :
    Except CommandLine.Refusal Directories := do
  let workspace := Settings.workspaceOf host values.workspace.text?
  let some build := Path.resolve? values.buildDirectory.text? workspace
    | throw (.emptyPath "build-dir")
  let some results := Path.resolve? values.resultsDirectory.text? workspace
    | throw (.emptyPath "results-dir")
  return { workspace, build, results }

theorem ofValues_eq_ok : ofValues host values = .ok directories ↔
    directories.workspace = Settings.workspaceOf host values.workspace.text? ∧
      Path.resolve? values.buildDirectory.text? directories.workspace = some directories.build ∧
      Path.resolve? values.resultsDirectory.text? directories.workspace =
        some directories.results := by
  obtain ⟨workspace, build, results⟩ := directories
  rw [ofValues]
  generalize Settings.workspaceOf host values.workspace.text? = other
  constructor
  · intro h
    cases hbuild : Path.resolve? values.buildDirectory.text? other with
    | none =>
      rw [hbuild] at h
      cases h
    | some _ =>
      cases hresults : Path.resolve? values.resultsDirectory.text? other with
      | none =>
        rw [hbuild, hresults] at h
        cases h
      | some _ =>
        rw [hbuild, hresults] at h
        cases h
        exact ⟨rfl, hbuild, hresults⟩
  · rintro ⟨rfl, hbuild, hresults⟩
    simp only [hbuild, hresults]
    rfl

/-- Whether all directories are resolved. -/
structure AreResolved (directories : Directories) : Prop where
  workspace : IsResolved directories.workspace
  build : IsResolved directories.build
  results : IsResolved directories.results

/-- The directories of a run are resolved, as the current directory begins at the root. -/
theorem areResolved_of_ofValues (hdirectory : isAbsolute host.directory = true)
    (h : ofValues host values = .ok directories) : directories.AreResolved := by
  obtain ⟨hworkspace, hbuild, hresults⟩ := ofValues_eq_ok.1 h
  have hresolved : IsResolved directories.workspace := by
    rw [hworkspace, Settings.workspaceOf, Host.absolute_eq]
    exact (Path.isNormal_absolute hdirectory _).isResolved
  have habsolute := hresolved.isNormal.isAbsolute
  exact ⟨hresolved, Path.isResolved_of_resolve? habsolute hbuild,
    Path.isResolved_of_resolve? habsolute hresults⟩

end Directories

/-- The source of a target is the one that it lists, taken relative to the source directory. -/
theorem Target.source_of_sourceAt {target : Target} {index : Int} {text : String}
    (h : target.sourceAt index = .ok (.string text)) (root : String) :
    target.source (.string root) index = .ok (Path.absolute root text) := by
  rw [source, h]
  rfl

namespace Settings

/-- The directories of settings. -/
def directories (settings : Settings) : Directories where
  workspace := settings.workspace
  build := settings.buildDirectory
  results := settings.resultsDirectory

/-- The settings have the directories that the values name, once that of the build was looked for. -/
theorem map_directories_ofValues (host : Host) (values : CommandLine.Values) :
    (ofValues host values).map directories = (do
      let directories ← Directories.ofValues host values
      if host.isDirectory directories.build then return directories
      else throw .buildDirectoryNotFound) := by
  rw [ofValues, Directories.ofValues]
  generalize workspaceOf host values.workspace.text? = workspace
  cases hbuild : Path.resolve? values.buildDirectory.text? workspace with
  | none => rfl
  | some build =>
    cases hresults : Path.resolve? values.resultsDirectory.text? workspace with
    | none => rfl
    | some results =>
      cases hfound : host.isDirectory build with
      | true => simp [hfound, bind, Except.bind, Except.map, pure, Except.pure, directories]
      | false =>
        simp [hfound, bind, Except.bind, Except.map, pure, Except.pure, throw, throwThe,
          MonadExceptOf.throw]

/-- So settings that are there have the directories that the values name. -/
theorem directories_of_ofValues {settings : Settings} (h : ofValues host values = .ok settings) :
    Directories.ofValues host values = .ok settings.directories := by
  have hmap := map_directories_ofValues host values
  rw [h] at hmap
  obtain ⟨directories, hdirectories, hchecked⟩ := bind_eq_ok.1 hmap.symm
  split at hchecked
  · cases hchecked
    exact hdirectories
  · cases hchecked

/-- What the paths of a run are resolved to, on a host and in a workspace, for a source directory: to
normal paths, of which each is the same when it is resolved again. -/
structure ResolvesPaths (host : Host) (workspace sourceRoot : String) : Prop where
  none_iff : ∀ p, Path.resolve? (some p) workspace = none ↔ p = ""
  resolved : ∀ p resolved, Path.resolve? (some p) workspace = some resolved → IsResolved resolved
  absolute : ∀ p, isAbsolute p = true → ∀ other,
    Path.resolve? (some p) workspace = Path.resolve? (some p) other
  directories : ∀ values directories, Directories.ofValues host values = .ok directories →
    directories.AreResolved
  settings : ∀ values settings, ofValues host values = .ok settings →
    settings.directories.AreResolved
  results : ∀ values directories, Directories.ofValues host values = .ok directories →
    ∀ cleanReports before after results,
      (Analysis.prepareResults directories.results cleanReports).on before = (.ok results, after) →
      results = directories.results
  source : ∀ (target : Target) index text, target.sourceAt index = .ok (.string text) →
    ∃ p, target.source (.string sourceRoot) index = .ok p ∧ IsResolved p

/-- In a workspace that begins at the root, as the current directory and the source directory do, the
paths of a run are resolved to normal ones. -/
theorem resolvesPaths {workspace sourceRoot : String} (hworkspace : isAbsolute workspace = true)
    (hdirectory : isAbsolute host.directory = true) (hroot : isAbsolute sourceRoot = true) :
    ResolvesPaths host workspace sourceRoot where
  none_iff _ := Path.resolve?_eq_none_iff
  resolved _ _ := Path.isResolved_of_resolve? hworkspace
  absolute _ h other := Path.resolve?_of_isAbsolute h workspace other
  directories _ _ h := Directories.areResolved_of_ofValues hdirectory h
  settings _ _ h := Directories.areResolved_of_ofValues hdirectory (directories_of_ofValues h)
  results _ _ h _ before _ _ hprepared := by
    have hresolved := (Directories.areResolved_of_ofValues hdirectory h).results
    rw [Analysis.prepareResults_result hprepared, Host.absolute_eq,
      hresolved.isNormal.absolute_eq before.directory]
  source _ _ text h :=
    ⟨_, Target.source_of_sourceAt h sourceRoot, (Path.isNormal_absolute hroot text).isResolved⟩

theorem resolvesPaths_reportsHost : isAbsolute "/w//../v/" = true ∧
    isAbsolute Analysis.reportsHost.directory = true ∧ isAbsolute "//src/." = true ∧
    ResolvesPaths Analysis.reportsHost "/w//../v/" "//src/." :=
  ⟨by decide, by decide, by decide, resolvesPaths (by decide) (by decide) (by decide)⟩

end Settings

end BuildAnalysis
