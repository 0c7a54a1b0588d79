import BuildAnalysis.CommandLine.Parse
import BuildAnalysis.Host.Basic
import BuildAnalysis.Target.Commands

/-!
# Settings

The settings of a run come from the command line. Relative paths are taken relative to the
workspace, which is given on the command line or by the environment, or is the current directory.
-/

namespace BuildAnalysis

/-- The settings of a run. Its directories are paths in normal form that begin at the root. -/
structure Settings where
  verbosity : Nat
  workspace : String
  buildDirectory : String
  resultsDirectory : String
  ruleset : CommandLine.Value
  cmake : CommandLine.Value
  cleanSarif : Bool
  ignoreSystemHeaders : Bool
  usePrecompiledHeaders : Bool
  deriving DecidableEq, Repr

namespace Settings

/-- The environment variable that names the workspace. -/
def workspaceVariable : String := "GITHUB_WORKSPACE"

/-- The first text that is given and not empty. -/
def firstGiven (texts : List (Option String)) : Option String :=
  (texts.filterMap id).find? (!·.isEmpty)

/-- The workspace on a host, when the command line may name one. -/
def workspaceOf (host : Host) (given : Option String) : String :=
  host.absolute
    ((firstGiven [given, host.environment.get? workspaceVariable]).getD host.directory)

/-- The settings that the values of the switches make on a host. -/
def ofValues (host : Host) (values : CommandLine.Values) :
    Except CommandLine.Refusal Settings := do
  let workspace := workspaceOf host values.workspace.text?
  let some buildDirectory := Path.resolve? values.buildDirectory.text? workspace
    | throw (.emptyPath "build-dir")
  let some resultsDirectory := Path.resolve? values.resultsDirectory.text? workspace
    | throw (.emptyPath "results-dir")
  if !host.isDirectory buildDirectory then throw .buildDirectoryNotFound
  return {
    verbosity := values.verbosity
    workspace
    buildDirectory
    resultsDirectory
    ruleset := values.ruleset
    cmake := values.cmake
    cleanSarif := values.cleanSarif
    ignoreSystemHeaders := values.ignoreSystemHeaders
    usePrecompiledHeaders := values.usePrecompiledHeaders }

/-- An answer that may be a refusal of the command line. -/
def orRefuse {α : Type} (answer : Except CommandLine.Refusal α) : Action α :=
  match answer with
  | .ok a => pure a
  | .error refusal => throw (.usage refusal.message?)

/-- The settings of a command line. The verbosity takes effect before anything is logged. -/
def ofCommandLine (words : List String) : Action Settings := do
  let values ← orRefuse (CommandLine.parse words)
  modify fun host => { host with console := host.console.setVerbosity values.verbosity }
  let settings ← orRefuse (← Action.ask fun host => ofValues host values)
  if settings.usePrecompiledHeaders then
    Action.log .warning "validate_args"
      "Precompiled headers are not supported yet, the option is ignored."
  return settings

/-- The options for the compile commands. -/
def commandOptions (settings : Settings) : CommandOptions where
  ignoreSystemHeaders := settings.ignoreSystemHeaders
  usePrecompiledHeaders := settings.usePrecompiledHeaders

end Settings

end BuildAnalysis
