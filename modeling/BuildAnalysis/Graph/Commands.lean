import BuildAnalysis.Graph.Basic
import BuildAnalysis.Target.Feed

/-!
# The commands of a build graph

The commands of a project are those of its targets in the order of the replies. Whether a graph is
loaded is asked when the first command is, not when the stream of commands is made.
-/

namespace BuildAnalysis

/-- A stream of commands: not begun yet, or giving the commands of a graph. -/
inductive CommandStream where
  | fresh (options : CommandOptions)
  | begun (graph : BuildGraph) (options : CommandOptions) (feed : Feed String)
  | finished

namespace BuildGraph

/-- The commands of the target that a file describes. -/
def targetCommands (graph : BuildGraph) (options : CommandOptions) (host : Host) (file : String) :
    Stretch :=
  match Reply.load host file with
  | .error failure => .failed failure
  | .ok data =>
    match Target.ofReply file data with
    | .error e => .failed (.analysis e)
    | .ok target => target.commands graph.sourceRoot graph.toolchains.compiler? options

end BuildGraph

namespace CommandStream

/-- What a stream gives that ends with a failure at once. -/
def refuse (failure : Failure) : Pull × CommandStream :=
  (⟨[], false, some failure⟩, .finished)

/-- The commands that a stream gives up to a limit, and the stream after them, when it has begun. -/
def pullBegun (host : Host) (limit : Option Nat) (graph : BuildGraph) (options : CommandOptions)
    (feed : Feed String) : Pull × CommandStream :=
  let (pull, feed) := feed.pull (graph.targetCommands options host) limit
  (pull, .begun graph options feed)

/-- The commands that a stream gives up to a limit, and the stream after them. A stream begins when
a command is asked for; the graph loaded at that time is the one whose commands it gives. -/
def pull (host : Host) (loaded : Option BuildGraph) (limit : Option Nat) :
    CommandStream → Pull × CommandStream
  | .fresh options =>
    if limit == some 0 then (⟨[], false, none⟩, .fresh options)
    else
      match loaded with
      | none => refuse (.analysis .notLoaded)
      | some graph =>
        match graph.sourceRoot with
        | .null => refuse .noSourceRoot
        | _ => pullBegun host limit graph options { pending := graph.targetFiles }
  | .begun graph options feed => pullBegun host limit graph options feed
  | .finished => (⟨[], limit != some 0, none⟩, .finished)

end CommandStream

namespace BuildGraph

/-- All commands of a graph, which has to be loaded. -/
def commands (loaded : Option BuildGraph) (options : CommandOptions) :
    Action (List CompileCommand) := do
  let (pull, _) ← Action.ask fun host => (CommandStream.fresh options).pull host loaded none
  match pull.failure with
  | some failure => throw failure
  | none => return pull.commands

end BuildGraph

end BuildAnalysis
