import BuildAnalysis.Path.Basic
import BuildAnalysis.Text.Lowercase

/-!
# Names of the reports

The report of a source is named after the source. Where several sources share a name the later ones
get a number, so that no two reports have the same name in lower case.
-/

namespace BuildAnalysis.Analysis

/-- The names given out, in lower case, and the number to try next for each name of a source. -/
structure ReportNames where
  next : List (String × Nat) := []
  used : List String := []
  deriving Repr

namespace ReportNames

/-- A name with a number; the first one has none. -/
def numbered (name : String) (n : Nat) : String :=
  if n == 0 then name else name ++ "-" ++ toString n

/-- The first number from `n` on with which a name is not used, among `tries` numbers. -/
def firstFree (used : List String) (name : String) : Nat → Nat → Nat
  | 0, n => n
  | tries + 1, n =>
    if used.contains (Text.lower (numbered name n)) then firstFree used name tries (n + 1) else n

/-- The number to try first for a name. -/
def start (names : ReportNames) (key : String) : Nat :=
  ((names.next.find? (·.1 == key)).map (·.2)).getD 0

/-- The name of the report of a source, without its ending. As many numbers are tried as names are
used, and one more. -/
def allocate (names : ReportNames) (source : String) : String × ReportNames :=
  let name := Path.basename source
  let key := Text.lower name
  let n := firstFree names.used name (names.used.length + 1) (names.start key)
  let report := numbered name n
  (report, {
    next := (key, n + 1) :: names.next.filter (·.1 != key)
    used := Text.lower report :: names.used })

/-- The names of the reports of sources in their order. -/
def allocateAll (names : ReportNames) : List String → List String
  | [] => []
  | source :: rest =>
    let (report, names) := names.allocate source
    report :: names.allocateAll rest

/-- The path of a report in the directory of the results. -/
def path (directory report : String) : String :=
  Path.join directory (report ++ ".sarif")

end ReportNames

end BuildAnalysis.Analysis
