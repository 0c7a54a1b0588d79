import BuildAnalysis.Host.Basic

/-!
# Reply files

CMake writes its replies as JSON files into one directory. The newest index, which is the one with
the greatest name, refers to the others.
-/

namespace BuildAnalysis.Reply

/-- The failure of a file whose bytes cannot be read as JSON. -/
def unreadable (path : String) : Json.ReadFault → Failure
  | .tooDeep => .tooDeep
  | fault => .analysis (.replyUnreadable path fault)

/-- The value that a reply file holds. -/
def load (host : Host) (path : String) : Except Failure Json :=
  if path.isEmpty then .error (.analysis .replyFileMissing)
  else if !host.isFile path then .error (.analysis (.replyFileNotFound path))
  else
    match host.files.read host.place path with
    | .error e => .error (.ofSystem .system e)
    | .ok bytes => (Json.readBytes bytes host.maxDepth).mapError (unreadable path)

/-- Whether a name is that of an index. -/
def isIndexName (name : String) : Bool :=
  "index-".toList.isPrefixOf name.toList && ".json".toList.isSuffixOf name.toList

/-- The greatest of names in the order of their characters. -/
def greatest? : List String → Option String
  | [] => none
  | name :: rest => some (rest.foldl (fun best name => if best < name then name else best) name)

/-- The directory of the replies. -/
def directory (apiDirectory : String) : String :=
  Path.join apiDirectory "reply"

/-- The value that the newest index holds. -/
def readIndex (host : Host) (apiDirectory : String) : Except Failure Json :=
  let replies := directory apiDirectory
  if !host.isDirectory replies then .error (.analysis (.replyDirectoryNotFound replies))
  else
    match greatest? ((host.list replies).filter isIndexName) with
    | none => .error (.analysis (.replyIndexNotFound replies))
    | some name => load host (Path.join replies name)

end BuildAnalysis.Reply
