import BuildAnalysis.Host.FileTree

/-!
# Edits

An edit is a change to the files that is asked for by a path. Edits are made in their order, and the
first one that the system refuses ends them; those before it stay made.
-/

namespace BuildAnalysis.Host

/-- A change to the files. -/
inductive Edit where
  /-- Writes a file, and makes the directories that are missing on the way to it. -/
  | file (path : String) (content : List UInt8) (executable : Bool)
  /-- Makes a directory, and those that are missing on the way to it. -/
  | directory (path : String)
  /-- Takes away a file, or a directory with everything in it. -/
  | removal (path : String)
  deriving DecidableEq, Repr

/-- The files after an edit whose path is taken relative to a directory. -/
def Edit.apply (directory : Place) (tree : FileTree) : Edit → Option SystemError × FileTree
  | .file path content executable =>
    match tree.makePath directory (Path.dirname path) with
    | (none, tree) => tree.attempt (·.write directory path content (some executable))
    | refused => refused
  | .directory path => tree.makePath directory path
  | .removal path => tree.attempt (·.delete directory path)

/-- The files after edits, up to the first one that is refused. -/
def FileTree.edit (directory : Place) : List Edit → FileTree → Option SystemError × FileTree
  | [], tree => (none, tree)
  | edit :: rest, tree =>
    match edit.apply directory tree with
    | (none, tree) => FileTree.edit directory rest tree
    | refused => refused

end BuildAnalysis.Host
