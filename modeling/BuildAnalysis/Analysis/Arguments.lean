import BuildAnalysis.Analysis.Engine
import BuildAnalysis.Analysis.Ruleset
import BuildAnalysis.Target.Commands

/-!
# Arguments of the analysis

Some arguments are the same for all sources of a compiler. They are found for every compiler before
any of them is run.
-/

namespace BuildAnalysis.Analysis

/-- The arguments for an engine, a ruleset and the directory of the other rulesets. -/
def argumentsFor (engine : String) (ruleset directory : Option String)
    (options : CommandOptions) : String :=
  CommandLine.join
    (["/analyze:quiet", "/analyze:log:format:sarif",
        CommandLine.quote ("/analyze:plugin" ++ engine)] ++
      (match ruleset with
        | none => []
        | some ruleset =>
          CommandLine.quote ("/analyze:ruleset" ++ ruleset) ::
            directory.toList.map fun d => CommandLine.quote ("/analyze:rulesetdirectory" ++ d)) ++
      (if options.ignoreSystemHeaders then ["/analyze:external-"] else []))

/-- The arguments that all sources of a compiler share. -/
def commonArguments (compiler : String) (ruleset : Option String) (workspace : String)
    (options : CommandOptions) : Action String := do
  let engine ← Action.ofExcept ((← Action.ask (engine · compiler)).mapError .analysis)
  let directory ← Action.ask (rulesetDirectory? · compiler)
  let ruleset ← findRuleset ruleset directory workspace
  if ruleset.isNone then
    Action.log .warning "common_analyze_arguments"
      "Ruleset is not being used, all warnings will be enabled."
  return argumentsFor engine ruleset directory options

/-- Arguments by the path of their compiler. -/
abbrev ArgumentTable := List (String × String)

/-- The arguments for a compiler. -/
def ArgumentTable.get? (table : ArgumentTable) (compiler : String) : Option String :=
  (table.find? (·.1 == compiler)).map (·.2)

/-- Finds the arguments for the compiler of a command, unless the table has them. -/
def addArguments (ruleset : Option String) (workspace : String) (options : CommandOptions)
    (table : ArgumentTable) (command : CompileCommand) : Action ArgumentTable := do
  let compiler := command.compiler.path
  if (table.get? compiler).isSome then return table
  return table ++ [(compiler, ← commonArguments compiler ruleset workspace options)]

/-- The arguments for the compilers of commands. -/
def argumentTable (commands : List CompileCommand) (ruleset : Option String) (workspace : String)
    (options : CommandOptions) : Action ArgumentTable :=
  commands.foldlM (addArguments ruleset workspace options) []

end BuildAnalysis.Analysis
