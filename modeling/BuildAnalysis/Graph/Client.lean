import BuildAnalysis.Graph.Commands
import BuildAnalysis.Graph.Load

/-!
# Clients of the file API

A client loads the build graph of one project, once. It may open any number of streams of compile
commands, before or after that, and ask each of them for commands at any time. What it finds out is
kept in attributes, which are set one after the other when everything was read.
-/

namespace BuildAnalysis

/-- What a client has found out about a project, which is nothing at first, and the streams that were
opened, in their order. -/
structure Client where
  /-- Whether a load has succeeded. -/
  loaded : Bool := false
  toolchains : Toolchains := {}
  sourceRoot : Json := .null
  cache : Cache := []
  targetFiles : List String := []
  streams : List CommandStream := []

namespace Client

/-- The graph that a client has loaded. -/
def graph (client : Client) : Option BuildGraph :=
  if client.loaded then
    some ⟨client.toolchains, client.sourceRoot, client.cache, client.targetFiles⟩
  else none

/-! ## Methods -/

/-- A computation of a client on a host, which may fail. What it has changed of the two stays changed
when it fails. -/
abbrev Method := ExceptT Failure (StateM (Client × Host))

/-- Runs an action on the host of a client. -/
def onHost {α : Type} (action : Action α) : Method α :=
  ExceptT.mk fun (client, host) =>
    let (answer, host) := action.run.run host
    (answer, client, host)

/-- Sets an attribute of a client. -/
def assign (change : Client → Client) : Method Unit :=
  modify fun (client, host) => (change client, host)

/-- Sets the attributes that the replies tell. -/
def setReplies (graph : BuildGraph) : Method Unit := do
  assign fun client => { client with cache := graph.cache }
  assign fun client => { client with sourceRoot := graph.sourceRoot }
  assign fun client => { client with targetFiles := graph.targetFiles }
  assign fun client => { client with toolchains.c := graph.toolchains.c }
  assign fun client => { client with toolchains.cxx := graph.toolchains.cxx }

/-- Loads the graph of a build directory, and sets the attributes when every reply was read. -/
def loadGraph (buildRoot : String) (cmake : Option String) : Method Unit := do
  let (client, _) ← get
  let graph ← onHost (BuildGraph.load client.graph buildRoot cmake)
  setReplies graph
  assign fun client => { client with loaded := true }

/-! ## What a client is asked for -/

/-- Loads the graph of a build directory. -/
def load (client : Client) (buildRoot : String) (cmake : Option String) (host : Host) :
    Except Failure Unit × Client × Host :=
  (loadGraph buildRoot cmake).run.run (client, host)

/-- Opens a stream of commands, without asking it for any. -/
def openStream (client : Client) (options : CommandOptions) : Client :=
  { client with streams := client.streams ++ [.fresh options] }

/-- The commands that the stream at an index gives up to a limit; `none` without such a stream. -/
def pull (client : Client) (host : Host) (index : Nat) (limit : Option Nat) :
    Option Pull × Client :=
  match client.streams[index]? with
  | none => (none, client)
  | some stream =>
    let (pull, stream) := stream.pull host client.graph limit
    (some pull, { client with streams := client.streams.set index stream })

end Client

end BuildAnalysis
