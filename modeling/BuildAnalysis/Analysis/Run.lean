import BuildAnalysis.Analysis.Arguments
import BuildAnalysis.Analysis.ReportNames
import BuildAnalysis.Analysis.Results
import BuildAnalysis.Graph.Commands
import BuildAnalysis.Graph.Load
import BuildAnalysis.Settings

/-!
# Running the analysis

The analyzer is run for one source after the other, whatever becomes of the runs before. Everything
that can be refused is refused before the first of them.
-/

namespace BuildAnalysis.Analysis

/-- The command line that analyzes a source. -/
def analyzerLine (command : CompileCommand) (common report : String) : String :=
  CommandLine.join
    [CommandLine.quote command.compiler.path, command.args, common,
      CommandLine.quote ("/analyze:log" ++ report), CommandLine.quote command.source]

/-- How a run of the analyzer ended. -/
structure RunResult where
  output : List String
  code : Int
  deriving DecidableEq, Repr

/-- The environment of the analyzer: that of the host, with the request for reports. -/
def analyzerEnvironment (environment : Host.Environment) : Host.Environment :=
  environment.set "CAEmitSarifLog" "1"

/-- The result of a run that failed; failures that are none of the run's are passed on. -/
def RunResult.ofFailure (line : String) : Failure → Action RunResult
  | .system _ => return ⟨["failed to execute " ++ line], 127⟩
  | .exited code output => return ⟨output, code⟩
  | failure => throw failure

/-- Runs the analyzer with a command line in a directory. The words of the line are handed over one by
one, as the system has it. -/
def runAnalyzer (line directory : String) : Action RunResult := do
  let environment ← Action.ask fun host => analyzerEnvironment host.environment
  tryCatch
    (do return ⟨← Action.execute (.words (CommandLine.split line)) directory environment, 0⟩)
    (RunResult.ofFailure line)

/-- Logs what the analyzer printed. -/
def logOutput (result : RunResult) : Action Unit :=
  result.output.forM (Action.log .info "logging_analyzer_output")

/-- Analyzes the sources of commands in their order, and counts the runs that fail. -/
def runFrom (table : ArgumentTable) (results : String) (names : ReportNames) (failures : Nat) :
    List CompileCommand → Action Nat
  | [] => return failures
  | command :: rest => do
    let some common := table.get? command.compiler.path
      | throw (.fault (.noMember command.compiler.path))
    let (report, names) := names.allocate command.source
    let line := analyzerLine command common (ReportNames.path results report)
    let result ← runAnalyzer line (Path.dirname command.source)
    logOutput result
    if result.code == 0 then runFrom table results names failures rest
    else
      Action.log .warning "run_analyzer_sequential" ("analysis failed: " ++ command.source)
      runFrom table results names (failures + 1) rest

/-- Analyzes the sources of commands, and counts the runs that fail. -/
def runAll (commands : List CompileCommand) (table : ArgumentTable) (results : String) :
    Action Nat :=
  runFrom table results {} 0 commands

/-- Analyzes a project: its build graph is loaded, the results and the arguments are prepared, and
the analyzer is run for each source. The answer is the exit code. -/
def analyze (words : List String) : Action Int := do
  let settings ← Settings.ofCommandLine words
  let graph ← BuildGraph.load none settings.buildDirectory settings.cmake.text?
  let results ← prepareResults settings.resultsDirectory settings.cleanSarif
  let commands ← BuildGraph.commands (some graph) settings.commandOptions
  if commands.isEmpty then Action.report .nothingToAnalyze
  let table ←
    argumentTable commands settings.ruleset.text? settings.workspace settings.commandOptions
  let failures ← runAll commands table results
  return if failures == 0 then 0 else 1

end BuildAnalysis.Analysis
