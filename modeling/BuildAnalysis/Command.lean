import BuildAnalysis.Analysis.Run

/-!
# The command

A command logs under its own name, and turns every failure that it can explain into a message and an
exit code. Defects are passed on.
-/

namespace BuildAnalysis.Command

/-- The exit code of an interrupted command. -/
def interruptedCode : Int := 130

/-- The exit code of a command that failed with a message. -/
def failedCode : Int := 1

/-- The exit code of a command that failed for a reason of the system. -/
def internalCode : Int := 64

/-- The origin of the messages about failures. -/
def origin : String := "wrapper"

/-- Reports a failure for a reason of the system, `word` being its class, and advises what to do. -/
def reportInternal (word : String) : Action Int := do
  Action.log .error origin "Internal error."
  if ← Action.ask (·.console.shows .error) then
    modify fun host => { host with console := host.console.print ("<traceback " ++ word ++ ">") }
  if ← Action.ask fun host => decide (host.console.threshold ≤ Host.Console.debugRank) then
    Action.log .error origin "Please report this bug and attach the output to the bug report"
  else
    Action.log .error origin
      "Please run this command again and turn on verbose mode (add '-vvvv' as argument)."
  return internalCode

/-- The exit code after a failure, once it is reported. -/
def handle : Failure → Action Int
  | .interrupted => do
    Action.log .warning origin "Keyboard interrupt"
    return interruptedCode
  | .analysis e => do
    Action.log .error origin e.message
    return failedCode
  | .system e => reportInternal e.word
  | .exited .. => reportInternal "CalledProcessError"
  | failure => throw failure

/-- Runs the body of a command under the name of its program. -/
def guarded (program : String) (body : Action Int) : Action Int := do
  modify fun host =>
    { host with
      console := { Host.Console.ofCommand (Path.basename program) with
        printed := host.console.printed } }
  tryCatch body handle

/-- The name that the analysis has as a program. -/
def programName : String := "msvc-code-analysis"

/-- The analysis as a command. -/
def analyze (program : String) (words : List String) : Action Int :=
  guarded program (Analysis.analyze words)

/-! ## The end of a program -/

/-- The exit code of a program whose command line is refused. -/
def refusedCode : Int := 2

/-- The exit code of a program that fails without reporting it. -/
def defectCode : Int := 1

/-- How a program ends whose command fails: the complaint, if there is one, and the exit code. -/
def lastWords (program : String) : Failure → Option String × Int
  | .usage none => (none, 0)
  | .usage (some message) => (some (program ++ ": error: " ++ message), refusedCode)
  | .fault fault => (some fault.text, defectCode)
  | .badValue => (some "a value is no number or no path", defectCode)
  | .tooDeep => (some "values or directories stand in each other, too many", defectCode)
  | .noSourceRoot => (some "the project has no source directory", defectCode)
  | .analysis e => (some e.message, defectCode)
  | .system e => (some e.text, defectCode)
  | .exited code _ => (some s!"a child process exited with code {code}", defectCode)
  | .interrupted => (none, interruptedCode)

/-- How a program ends: the complaint, if there is one, and the exit code. -/
def ending (program : String) : Except Failure Int → Option String × Int
  | .ok code => (none, code)
  | .error failure => lastWords program failure

end BuildAnalysis.Command
