import BuildAnalysis.CommandLine.Quoting
import BuildAnalysis.Target.Basic
import BuildAnalysis.Toolchain.Basic

/-!
# Compile commands

Each source of a group is compiled with the arguments of the group: its fragments as they are, then
its include directories and its defines, quoted. Groups of a language without a compiler are left
out. The commands of a target are a stretch, which a failure may end early.
-/

namespace BuildAnalysis

/-- What may be changed about the commands. -/
structure CommandOptions where
  /-- Include directories of the system are marked as external. -/
  ignoreSystemHeaders : Bool := false
  /-- Has no effect yet. -/
  usePrecompiledHeaders : Bool := false
  deriving DecidableEq, Repr

/-- The compilation of one source. -/
structure CompileCommand where
  source : String
  args : String
  compiler : Compiler

/-- The option for an include directory. -/
def Include.argument (options : CommandOptions) (entry : Include) : String :=
  CommandLine.quote
    ((if options.ignoreSystemHeaders && entry.isSystem then "/external:I" else "/I") ++
      entry.path.display)

/-- The option for a define. -/
def defineArgument (define : Json) : String :=
  CommandLine.quote ("/D" ++ define.display)

/-- Fragments as texts, `position` parts after the first one. -/
def fragmentTexts (position : Nat) : List Json → Except Json.Fault (List String)
  | [] => .ok []
  | .string s :: rest => (fragmentTexts (position + 1) rest).map (s :: ·)
  | fragment :: _ => .error (.noArgument position fragment.kind)

/-- The arguments of a group. Fragments that count as false are left out. -/
def CompileGroup.arguments (options : CommandOptions) (group : CompileGroup) :
    Except Json.Fault String := do
  let fragments ← fragmentTexts 0 (group.fragments.filter (·.truthy))
  return CommandLine.join
    (fragments ++ group.includes.map (·.argument options) ++ group.defines.map defineArgument)

/-- Commands in order, and the failure that ended them early. -/
structure Stretch where
  commands : List CompileCommand := []
  failure : Option Failure := none

namespace Stretch

/-- A stretch of nothing but a failure. -/
def failed (failure : Failure) : Stretch := { failure := some failure }

/-- A command before the commands of a stretch. -/
def cons (command : CompileCommand) (stretch : Stretch) : Stretch :=
  { stretch with commands := command :: stretch.commands }

/-- A stretch after another one, unless that one failed. -/
def append (first second : Stretch) : Stretch :=
  match first.failure with
  | some _ => first
  | none => { second with commands := first.commands ++ second.commands }

end Stretch

/-- The compilers of languages by their names. -/
abbrev Compilers := String → Option Compiler

/-- The compiler of a group's language. -/
def CompileGroup.compiler? (compilers : Compilers) (group : CompileGroup) :
    Except Json.Fault (Option Compiler) := do
  match ← group.language.key with
  | .string name => return compilers name
  | _ => return none

namespace Target

/-- The commands of the sources with the given indexes, which were checked when the target was
read. -/
def commandsAt (target : Target) (sourceRoot : Json) (args : String) (compiler : Compiler) :
    List Json → Stretch
  | [] => {}
  | index :: rest =>
    match target.source sourceRoot (index.integer?.getD 0) with
    | .error fault => .failed (.fault fault)
    | .ok source =>
      (target.commandsAt sourceRoot args compiler rest).cons { source, args, compiler }

/-- The commands of a group. -/
def groupCommands (target : Target) (sourceRoot : Json) (compilers : Compilers)
    (options : CommandOptions) (group : CompileGroup) : Stretch :=
  match group.compiler? compilers with
  | .error fault => .failed (.fault fault)
  | .ok none => {}
  | .ok (some compiler) =>
    match group.arguments options with
    | .error fault => .failed (.fault fault)
    | .ok args => target.commandsAt sourceRoot args compiler group.sourceIndexes

/-- The commands of a target, group by group. -/
def commands (target : Target) (sourceRoot : Json) (compilers : Compilers)
    (options : CommandOptions) : Stretch :=
  target.groups.foldr
    (fun group stretch => (target.groupCommands sourceRoot compilers options group).append stretch)
    {}

end Target

end BuildAnalysis
