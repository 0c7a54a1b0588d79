import BuildAnalysis.Command
import BuildAnalysis.Host.Description

/-!
# The program

The arguments are those of the analysis. The host that it runs on is described on standard input, so
that an analysis can be rehearsed. Messages are printed, and a complaint goes to standard error.
-/

namespace BuildAnalysis

/-- The rest of an input, after the text that was read. -/
partial def readRest (input : IO.FS.Stream) (text : String) : IO String := do
  let line ← input.getLine
  if line.isEmpty then return text
  readRest input (text ++ line)

/-- Analyzes a project on a host. The answer is the exit code. -/
def rehearse (host : Host) (words : List String) : IO UInt32 := do
  let (answer, host) := (Command.analyze Command.programName words).run.run host
  host.console.printed.forM fun line => IO.println line
  let (complaint, code) := Command.ending Command.programName answer
  complaint.forM fun line => IO.eprintln line
  return UInt32.ofNat code.toNat

end BuildAnalysis

open BuildAnalysis in
/-- Analyzes a project on the host that standard input describes. -/
def main (words : List String) : IO UInt32 := do
  match Json.read (← readRest (← IO.getStdin) "") with
  | .error fault =>
    IO.eprintln fault.text
    return 2
  | .ok description =>
    match Host.ofDescription description with
    | .error refusal =>
      IO.eprintln refusal.text
      return 2
    | .ok host => rehearse host words
