import BuildAnalysis.Error
import BuildAnalysis.Path.Basic

/-!
# The index of the replies

An index tells the version of the CMake that wrote it, and for each client the responses to its
query. A response names a kind and the reply file of that kind; the last one of a kind counts.
-/

namespace BuildAnalysis.Reply

/-- The text of the version that an object has as its member. -/
def versionOf? (owner : Json) : Option String := do
  let version ← owner.find "version"
  let text ← version.find "string"
  text.string?

/-- The text of the CMake version. The index itself or its member `cmake` may tell it. -/
def version (index : Json) : Except AnalysisError String :=
  match (versionOf? index).or ((index.find "cmake").bind versionOf?) with
  | some text => .ok text
  | none => .error .versionMissing

/-- The value that holds the responses to a client's query. -/
def responsesValue? (index : Json) (client : String) : Option Json := do
  let reply ← index.find "reply"
  let own ← reply.find client
  let query ← own.find "query.json"
  query.find "responses"

/-- Whether a value names a kind and a reply file. -/
def isResponse (value : Json) : Bool :=
  (value.find "kind").isSome && (value.find "jsonFile").isSome

/-- The responses to a client's query. Everything else among them is dropped. -/
def responses (index : Json) (client : String) : Except Json.Fault (List Json) := do
  match responsesValue? index client with
  | none => return []
  | some value =>
    if !value.truthy then return []
    return (← value.items).filter isResponse

/-- The kind and the path of the reply file that a response names. -/
def fileOf (directory : String) (response : Json) : Except Json.Fault (Json × String) := do
  let kind ← response.member "kind"
  let file ← (← response.member "jsonFile").path
  return (← kind.key, Path.join directory file)

/-- The kinds and the paths of the reply files that the responses name. -/
def files (directory : String) (responses : List Json) :
    Except Json.Fault (List (Json × String)) :=
  responses.mapM (fileOf directory)

/-- The path of the reply file of a kind: the one that was named last. -/
def path? (files : List (Json × String)) (kind : String) : Option String :=
  (files.reverse.find? fun file => Json.sameKey file.1 (.string kind)).map (·.2)

end BuildAnalysis.Reply
