import BuildAnalysis.Text.PrintableTable
import BuildAnalysis.Text.Range

/-!
# Texts written as literals

A literal stands between single quotes, or between double quotes when it holds a single quote and
no double one. Backslashes and the enclosing quote are escaped, as are characters that do not print.
-/

namespace BuildAnalysis.Text

/-- Whether a character is written as it is. -/
def isPrintable (c : Char) : Bool :=
  0x20 ≤ c.toNat && (c.toNat < 0x7F || (0x80 ≤ c.toNat && !inRanges unprintableRanges c.toNat))

/-- The last `width` digits of a number to the base 16. -/
def hexDigits (width n : Nat) : List Char :=
  let digits := Nat.toDigits 16 n
  List.replicate (width - digits.length) '0' ++ digits

/-- A character inside a literal that stands between the quotes `quote`. -/
def literalChar (quote c : Char) : List Char :=
  if c == quote || c == '\\' then ['\\', c]
  else if c == '\n' then ['\\', 'n']
  else if c == '\r' then ['\\', 'r']
  else if c == '\t' then ['\\', 't']
  else if isPrintable c then [c]
  else if c.toNat < 0x100 then '\\' :: 'x' :: hexDigits 2 c.toNat
  else if c.toNat < 0x10000 then '\\' :: 'u' :: hexDigits 4 c.toNat
  else '\\' :: 'U' :: hexDigits 8 c.toNat

/-- The quote that a literal stands between. -/
def literalQuote (cs : List Char) : Char :=
  if cs.contains '\'' && !cs.contains '"' then '"' else '\''

/-- A text as a literal. -/
def literal (s : String) : String :=
  let quote := literalQuote s.toList
  String.ofList (quote :: s.toList.flatMap (literalChar quote) ++ [quote])

end BuildAnalysis.Text
