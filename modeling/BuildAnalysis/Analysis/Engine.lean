import BuildAnalysis.Host.Basic
import BuildAnalysis.Text.Lowercase

/-!
# The analyzer engine

The engine is a library that lies next to the compiler. For a cross compiler it lies next to the
compiler whose target is the host, in a directory beside that of the cross compiler.
-/

namespace BuildAnalysis.Analysis

/-- The name of the engine. -/
def engineName : String := "EspXEngine.dll"

/-- The directory of the compiler whose target is the host, by the name of the host directory in
lower case. -/
def hostTarget? (name : String) : Option String :=
  if name == "hostx86" then some "x86" else if name == "hostx64" then some "x64" else none

/-- The path of the engine for a compiler. -/
def engine (host : Host) (compiler : String) : Except AnalysisError String :=
  let directory := Path.dirname compiler
  let own := Path.join directory engineName
  if host.pathExists own then .ok own
  else
    let hostDirectory := Path.dirname directory
    match hostTarget? (Text.lower (Path.basename hostDirectory)) with
    | none => .error .unknownLayout
    | some target =>
      let other := Path.join (Path.join hostDirectory target) engineName
      if host.pathExists other then .ok other else .error (.engineNotFound engineName)

end BuildAnalysis.Analysis
