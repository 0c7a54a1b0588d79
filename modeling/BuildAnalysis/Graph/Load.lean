import BuildAnalysis.Graph.Basic

/-!
# Loading the build graph

The build directory has to be configured already. Its index tells whether CMake is new enough; only
then the query is written and CMake is run again, which writes the replies that the graph is made
from. Each step is taken only if the one before it succeeded.
-/

namespace BuildAnalysis.BuildGraph

/-- The program that configures the project: the one given, or `cmake`. -/
def programName (cmake : Option String) : String :=
  match cmake with
  | some name => if name.isEmpty then "cmake" else name
  | none => "cmake"

/-- The path of the program that configures the project, if the build directory can be used. -/
def preflight (buildRoot : String) (cmake : Option String) (host : Host) :
    Except Failure String :=
  if buildRoot.isEmpty then .error (.analysis .emptyBuildRoot)
  else if !host.isDirectory buildRoot then .error (.analysis (.buildRootNotFound buildRoot))
  else if (host.list buildRoot).isEmpty then .error (.analysis .buildRootEmpty)
  else
    match host.which (programName cmake) with
    | some path => .ok path
    | none => .error (.analysis (.toolNotFound (programName cmake)))

/-- The directory of the client's query. -/
def queryDirectory (api : String) : String :=
  Path.join (Path.join api "query") client

/-- The file of the client's query. -/
def queryFile (api : String) : String :=
  Path.join (queryDirectory api) "query.json"

/-- Writes the client's query, and makes the directories for it. -/
def writeQuery (api : String) : Action Unit := do
  Action.change .queryNotWritten fun host =>
    host.files.makePath host.place (queryDirectory api)
  Action.change .queryNotWritten fun host =>
    host.files.attempt (·.write host.place (queryFile api) (Text.Utf8.encode query.document))

/-- The error to report when the program that configures the project fails. -/
def configureFailure : Failure → Failure
  | .system e => .analysis (.configureNotStarted e)
  | .exited code _ => .analysis (.configureFailed code)
  | failure => failure

/-- Configures the project again. -/
def configure (program buildRoot : String) : Action Unit :=
  tryCatch (do discard <| Action.execute (.words [program, buildRoot]) buildRoot none)
    fun failure => throw (configureFailure failure)

/-- Loads the build graph of a build directory, unless one is loaded already. -/
def load (loaded : Option BuildGraph) (buildRoot : String) (cmake : Option String) :
    Action BuildGraph := do
  if loaded.isSome then Action.report .alreadyLoaded
  let program ← Action.ofExcept (← Action.ask (preflight buildRoot cmake))
  let api := Path.join buildRoot apiDirectory
  Action.ofExcept (← Action.ask fun host => do checkVersion (← Reply.readIndex host api))
  writeQuery api
  configure program buildRoot
  Action.ofExcept (← Action.ask fun host => ofReplies host api)

end BuildAnalysis.BuildGraph
