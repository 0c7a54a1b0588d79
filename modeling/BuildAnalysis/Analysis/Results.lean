import BuildAnalysis.Host.Basic
import BuildAnalysis.Text.Lowercase

/-!
# The directory of the results

The directory is made if it is missing. Reports of an earlier run are taken away on request; files
whose names begin with a dot, or whose paths are too long to lead anywhere, are left alone.
-/

namespace BuildAnalysis.Analysis

/-- Whether a name is that of a report that is taken away. -/
def isStaleName (name : String) : Bool :=
  name.toList.head? != some '.' && Text.lower (Path.extension name) == ".sarif"

/-- Whether a report is taken away by its path: it is a file of a directory, which `results` leads
to, and its name and its path are those of a report that can be found. -/
def isStale (tree : Host.FileTree) (results : String) (directory place : Host.Place) : Bool :=
  let name := place.getLastD ""
  match tree.get? place, Host.FileTree.checkPath (Path.join results name) with
  | some (.file ..), .ok () => place.dropLast == directory && isStaleName name
  | _, _ => false

/-- A file tree without the reports in a directory, which `results` leads to. -/
def clean (tree : Host.FileTree) (results : String) (directory : Host.Place) : Host.FileTree :=
  ⟨tree.entries.filter fun entry => !isStale tree results directory entry.1⟩

/-- The directory of the results as a path that begins at the root, once it is there. -/
def prepareResults (path : String) (cleanReports : Bool) : Action String := do
  let results ← Action.ask (·.absolute path)
  Action.change (.resultsNotCreated results) fun host => host.files.makePath host.place results
  if cleanReports then
    modify fun host =>
      match host.files.locate host.place results with
      | .ok place => { host with files := clean host.files results place }
      | .error _ => host
  return results

end BuildAnalysis.Analysis
