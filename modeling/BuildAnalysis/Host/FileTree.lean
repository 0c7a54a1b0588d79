import BuildAnalysis.Host.SystemError
import BuildAnalysis.Path.Basic

/-!
# The file system

A file tree maps places to files and directories. A place lists the names on the way from the root.
A path is followed name by name: each name before the last has to be a directory, and `..` leads
back to the directory above. Names and paths that are too long lead nowhere.

Links are not followed, since there are none: each file and each directory has one place. Permissions
are left out too, but for the right to run a file: whatever is there may be read, changed and taken
away.
-/

namespace BuildAnalysis.Host

/-- The names on the way from the root. -/
abbrev Place := List String

/-- The place that a path in normal form leads to from the root. -/
def Place.ofPath (path : String) : Place :=
  (Path.names path).filter (· != "")

/-- What stands at a place. -/
inductive Entry where
  | directory
  | file (content : List UInt8) (executable : Bool)
  deriving DecidableEq, Repr

/-- The files and directories below the root. -/
structure FileTree where
  entries : List (Place × Entry)
  deriving Repr

namespace FileTree

/-- The tree with nothing but the root. -/
def empty : FileTree := ⟨[]⟩

/-- What stands at a place; the root is a directory. -/
def get? (tree : FileTree) (place : Place) : Option Entry :=
  if place.isEmpty then some .directory else (tree.entries.find? (·.1 == place)).map (·.2)

/-- Puts an entry at a place. -/
def put (tree : FileTree) (place : Place) (entry : Entry) : FileTree :=
  ⟨tree.entries.filter (·.1 != place) ++ [(place, entry)]⟩

/-- Takes away what stands at a place, and everything below it. -/
def remove (tree : FileTree) (place : Place) : FileTree :=
  ⟨tree.entries.filter fun e => !place.isPrefixOf e.1⟩

/-- The names of the entries of a directory. -/
def children (tree : FileTree) (place : Place) : List String :=
  tree.entries.filterMap fun e =>
    if e.1.dropLast == place then e.1.getLast? else none

/-! ## Following paths -/

/-- The most bytes that a name may have. -/
def maxNameSize : Nat := 255

/-- The most bytes that a path may have. -/
def maxPathSize : Nat := 4095

/-- Refuses a path that leads nowhere, whatever the files are. -/
def checkPath (path : String) : Except SystemError Unit :=
  if path.toList.contains '\x00' then .error .invalidPath
  else if path.isEmpty then .error (.notFound path)
  else if maxPathSize < path.utf8ByteSize then .error (.nameTooLong path)
  else .ok ()

/-- The place that a name leads to from a place, where there may be nothing yet. -/
def step (tree : FileTree) (path : String) (place : Place) (name : String) :
    Except SystemError Place :=
  match tree.get? place with
  | none => .error (.notFound path)
  | some (.file ..) => .error (.notDirectory path)
  | some .directory =>
    if name == "" || name == "." then .ok place
    else if name == ".." then .ok place.dropLast
    else if maxNameSize < name.utf8ByteSize then .error (.nameTooLong path)
    else .ok (place ++ [name])

/-- Follows names from a place. -/
def walk (tree : FileTree) (path : String) (place : Place) : List String → Except SystemError Place
  | [] => if (tree.get? place).isSome then .ok place else .error (.notFound path)
  | name :: rest => do walk tree path (← tree.step path place name) rest

/-- The place that a path begins at, taken relative to a directory. -/
def start (directory : Place) (path : String) : Place :=
  if Path.isAbsolute path then [] else directory

/-- The place that a path leads to from a directory. -/
def locate (tree : FileTree) (directory : Place) (path : String) : Except SystemError Place := do
  checkPath path
  tree.walk path (start directory path) (Path.names path)

/-- What a path leads to. -/
def find? (tree : FileTree) (directory : Place) (path : String) : Option Entry :=
  match tree.locate directory path with
  | .ok place => tree.get? place
  | .error _ => none

/-- Whether a path leads to a file or a directory. -/
def pathExists (tree : FileTree) (directory : Place) (path : String) : Bool :=
  (tree.find? directory path).isSome

/-- Whether a path leads to a file. -/
def isFile (tree : FileTree) (directory : Place) (path : String) : Bool :=
  match tree.find? directory path with
  | some (.file ..) => true
  | _ => false

/-- Whether a path leads to a directory. -/
def isDirectory (tree : FileTree) (directory : Place) (path : String) : Bool :=
  match tree.find? directory path with
  | some .directory => true
  | _ => false

/-- Whether a path leads to a file that can be run. -/
def isExecutable (tree : FileTree) (directory : Place) (path : String) : Bool :=
  match tree.find? directory path with
  | some (.file _ executable) => executable
  | _ => false

/-- The names in the directory that a path leads to. -/
def list (tree : FileTree) (directory : Place) (path : String) : List String :=
  match tree.locate directory path with
  | .ok place => tree.children place
  | .error _ => []

/-- The bytes of the file that a path leads to. -/
def read (tree : FileTree) (directory : Place) (path : String) : Except SystemError (List UInt8) :=
  match tree.locate directory path with
  | .error e => .error e
  | .ok place =>
    match tree.get? place with
    | some (.file content _) => .ok content
    | some .directory => .error (.isDirectory path)
    | none => .error (.notFound path)

/-! ## Changing files -/

/-- Writes a file; what was in it is lost. Unless it is told whether the file can be run, that stays
as it was. -/
def write (tree : FileTree) (directory : Place) (path : String) (content : List UInt8)
    (executable : Option Bool := none) : Except SystemError FileTree := do
  checkPath path
  let parent ← tree.walk path (start directory path) (Path.names path).dropLast
  let place ← tree.step path parent (Path.basename path)
  match tree.get? place with
  | some .directory => throw (.isDirectory path)
  | some (.file _ before) => return tree.put place (.file content (executable.getD before))
  | none => return tree.put place (.file content (executable.getD false))

/-- Takes away the file or the directory that a path leads to. -/
def delete (tree : FileTree) (directory : Place) (path : String) : Except SystemError FileTree :=
  (tree.locate directory path).map tree.remove

/-- The files after an attempt to change them, which a refusal leaves as they were. -/
def attempt (tree : FileTree) (change : FileTree → Except SystemError FileTree) :
    Option SystemError × FileTree :=
  match change tree with
  | .ok tree => (none, tree)
  | .error e => (some e, tree)

/-- The most directories that are made for one path, as deep as the calls of a command are when it
makes them. -/
def maxMissing : Nat := 985

/-- Makes the directories with the given names, each in the one before, from a place that `path`
leads to. Directories that exist are left as they are. What was made before a refusal stays, but too
many directories are refused before the first of them is made. -/
def makeNames (tree : FileTree) (place : Place) (path : String) :
    List String → Option SystemError × FileTree
  | [] => (none, tree)
  | "" :: rest => makeNames tree place (path ++ "/") rest
  | name :: rest =>
    let path := path ++ name
    let below := rest.countP (· != "")
    match checkPath path *> tree.step path place name with
    | .error e => (some (if maxMissing ≤ below then .tooDeep else e), tree)
    | .ok next =>
      match tree.get? next with
      | some .directory => makeNames tree next (path ++ "/") rest
      | some (.file ..) =>
        if below == 0 then (some (.alreadyExists path), tree)
        else makeNames tree next (path ++ "/") rest
      | none =>
        if maxMissing ≤ below then (some .tooDeep, tree)
        else makeNames (tree.put next .directory) next (path ++ "/") rest

/-- Makes the directory that a path names, and those above it that are missing. -/
def makePath (tree : FileTree) (directory : Place) (path : String) :
    Option SystemError × FileTree :=
  tree.makeNames (start directory path) "" (Path.names path)

end FileTree

end BuildAnalysis.Host
