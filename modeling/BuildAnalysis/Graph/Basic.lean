import BuildAnalysis.Reply.File
import BuildAnalysis.Reply.Index
import BuildAnalysis.Toolchain.Resolution
import BuildAnalysis.Version

/-!
# The build graph

The build graph is what the replies tell about a project: its compilers, its source directory, its
cache variables and the files that describe its targets. It comes into being as a whole or not at
all.
-/

namespace BuildAnalysis

/-- What the replies tell about a project. -/
structure BuildGraph where
  toolchains : Toolchains
  sourceRoot : Json
  cache : Cache
  targetFiles : List String

namespace BuildGraph

/-- The client under whose name queries are made. -/
def client : String := "client-msvc-code-analysis"

/-- The directory of queries and replies below the build directory. -/
def apiDirectory : String := ".cmake/api/v1"

/-- The oldest CMake that writes the replies. -/
def minimumVersion : String := "3.13.7"

/-- The kinds of replies that a query asks for, with their versions. -/
def queryKinds : List (String × Nat) :=
  [("cache", 2), ("codemodel", 2), ("toolchains", 1)]

/-- The query of the client. -/
def query : Json :=
  .array (queryKinds.map fun (kind, version) =>
    .object [("kind", .string kind), ("version", .integer version)])

/-- Refuses an index of a CMake that is too old. -/
def checkVersion (index : Json) : Except Failure Unit := do
  let version ← (Reply.version index).mapError .analysis
  if ← Version.atLeast version minimumVersion then return
  throw (.analysis (.unsupportedVersion version minimumVersion))

/-- The cache variable that an entry of the cache reply describes, after those in `cache`. -/
def addCacheEntry (cache : Cache) (entry : Json) : Except Json.Fault Cache := do
  let value ← entry.member "value"
  let name ← entry.member "name"
  return cache.put (← name.key) value

/-- The cache that the cache reply describes. -/
def cacheOfReply (data : Json) : Except Json.Fault Cache := do
  let entries ← (← data.memberD "entries" (.array [])).items
  entries.foldlM addCacheEntry []

/-- The source directory and the target files of the first configuration of the codemodel reply. -/
def codemodelOfReply (directory : String) (data : Json) :
    Except Json.Fault (Json × List String) := do
  let configurations ← data.member "configurations"
  let sourceRoot ← (← data.member "paths").member "source"
  let configuration ← configurations.first
  let targets ← (← configuration.memberD "targets" (.array [])).items
  let files ← targets.mapM fun target => do
    return Path.join directory (← (← target.member "jsonFile").path)
  return (sourceRoot, files)

/-- The outcome of reading a reply file and asking its value. -/
def readReply {α : Type} (host : Host) (file : ReplyFile) (path : String)
    (ask : Json → Except Json.Fault α) : Except Failure α := do
  let data ← Reply.load host path
  (file.check (ask data)).mapError .analysis

/-- The build graph that an index describes, with the reply files in `directory` that it refers to.
The kinds that have to be there are asked for before any of these files is read. -/
def ofIndex (host : Host) (directory : String) (index : Json) : Except Failure BuildGraph := do
  let responses ← (Reply.responses index client).mapError .fault
  let files ← (Reply.files directory responses).mapError .fault
  let some cacheFile := Reply.path? files "cache"
    | throw (.analysis (.responseMissing "cache"))
  let some codemodelFile := Reply.path? files "codemodel"
    | throw (.analysis (.responseMissing "codemodel"))
  let cache ← readReply host (.cache cacheFile) cacheFile cacheOfReply
  let (sourceRoot, targetFiles) ←
    readReply host (.codemodel codemodelFile) codemodelFile (codemodelOfReply directory)
  let toolchains ←
    match Reply.path? files "toolchains" with
    | some file => do (Toolchains.ofReply (← Reply.load host file)).mapError .analysis
    | none => Toolchains.ofCache cache
  return { toolchains, sourceRoot, cache, targetFiles }

/-- The build graph that the newest index of a host describes. -/
def ofReplies (host : Host) (api : String) : Except Failure BuildGraph := do
  let index ← Reply.readIndex host api
  checkVersion index
  ofIndex host (Reply.directory api) index

end BuildGraph

end BuildAnalysis
