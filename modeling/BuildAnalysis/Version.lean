import BuildAnalysis.Error
import BuildAnalysis.Text.Digit
import BuildAnalysis.Text.Split

/-!
# Version numbers

A version is read from the components of a dotted text. Of each component the digits that it begins
with count, and reading ends at the first component without any.
-/

namespace BuildAnalysis

/-- The numbers of a version, the most significant one first. -/
abbrev Version := List Nat

namespace Version

/-- The numbers of the components up to the first one without digits. -/
def numbers : List (List Char) → Except Failure Version
  | [] => .ok []
  | component :: rest =>
    match component.takeWhile Text.isDigit with
    | [] => .ok []
    | digits =>
      match Text.numeral? digits with
      | none => .error .badValue
      | some n => (numbers rest).map (n :: ·)

/-- The version that a text denotes. -/
def parse (s : String) : Except Failure Version :=
  match numbers (Text.split '.' s.toList) with
  | .error failure => .error failure
  | .ok [] => .error (.analysis (.unrecognizedVersion s))
  | .ok version => .ok version

/-- Whether a version comes before another: at the first difference its number is smaller, or it
ends there. -/
def before : Version → Version → Bool
  | _, [] => false
  | [], _ :: _ => true
  | m :: rest, n :: others => m < n || (m == n && before rest others)

/-- Whether the version of the first text is at least that of the second. -/
def atLeast (version minimum : String) : Except Failure Bool := do
  let v ← parse version
  let m ← parse minimum
  return !before v m

end Version

end BuildAnalysis
