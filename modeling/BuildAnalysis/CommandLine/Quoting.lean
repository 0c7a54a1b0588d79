import BuildAnalysis.Text.Blank

/-!
# Command lines

A command line holds words between blanks. Double quotes switch between text in which blanks
separate words and text in which they do not. Backslashes stand for themselves, except before a
quote: there two of them stand for one, and an odd one makes the quote a character of the word.
-/

namespace BuildAnalysis.CommandLine

/-- How many backslashes a text ends with. -/
def trailingBackslashes (cs : List Char) : Nat :=
  (cs.reverse.takeWhile (· == '\\')).length

/-- The characters of a quoted word. The backslashes at its end are doubled, since the last of them
would otherwise take the closing quote for the word. -/
def quoteChars (cs : List Char) : List Char :=
  '"' :: cs ++ List.replicate (trailingBackslashes cs) '\\' ++ ['"']

/-- A word between quotes. -/
def quote (word : String) : String :=
  String.ofList (quoteChars word.toList)

/-- Parts of a command line with a space between each two; empty parts are left out. -/
def join (parts : List String) : String :=
  " ".intercalate (parts.filter (!·.isEmpty))

/-- Where the reading of a command line stands: the characters of the word begun, last first,
whether there is one, whether a quote is open, and how many backslashes stand before the next
character. -/
structure Scan where
  word : List Char := []
  begun : Bool := false
  quoted : Bool := false
  backslashes : Nat := 0
  deriving DecidableEq, Repr

namespace Scan

/-- The characters of the word begun, with `n` backslashes after them, last first. -/
def withBackslashes (scan : Scan) (n : Nat) : List Char :=
  List.replicate n '\\' ++ scan.word

/-- Reads a backslash. -/
def backslash (scan : Scan) : Scan :=
  { scan with begun := true, backslashes := scan.backslashes + 1 }

/-- Reads a quote. -/
def quote (scan : Scan) : Scan :=
  let word := scan.withBackslashes (scan.backslashes / 2)
  if scan.backslashes % 2 == 1 then
    { scan with word := '"' :: word, begun := true, backslashes := 0 }
  else { word, begun := true, quoted := !scan.quoted, backslashes := 0 }

/-- Reads a character that belongs to the word and stands for itself. -/
def plain (scan : Scan) (c : Char) : Scan :=
  { scan with
    word := c :: scan.withBackslashes scan.backslashes, begun := true, backslashes := 0 }

/-- The word that ends here, if one was begun. -/
def words (scan : Scan) : List (List Char) :=
  if scan.begun then [(scan.withBackslashes scan.backslashes).reverse] else []

end Scan

/-- The words of a command line whose beginning was read as far as `scan`. -/
def splitFrom (scan : Scan) : List Char → List (List Char)
  | [] => scan.words
  | c :: rest =>
    if c == '\\' then splitFrom scan.backslash rest
    else if c == '"' then splitFrom scan.quote rest
    else if Text.isBlank c && !scan.quoted then scan.words ++ splitFrom {} rest
    else splitFrom (scan.plain c) rest

/-- The words of a command line. -/
def split (line : String) : List String :=
  (splitFrom {} line.toList).map String.ofList

end BuildAnalysis.CommandLine
