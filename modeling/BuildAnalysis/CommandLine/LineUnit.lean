import BuildAnalysis.Text.Blank

/-!
# Units of a command line

A text is cut into units in one way only: backslashes with the quote that follows them, backslashes
that no quote follows, and every other character for itself. What a command line means is told unit
by unit: `meaning` gives its words without looking at single backslashes.

* `text_units`: the units of a text are a cut of it.
* `isCut_units`: the units are as long as they can be.
-/

namespace BuildAnalysis.CommandLine

/-- A part of a text that is read at once. -/
inductive LineUnit where
  /-- A quote and the backslashes before it. -/
  | quote (backslashes : Nat)
  /-- Backslashes that no quote follows. -/
  | backslashes (count : Nat)
  /-- A character that is neither a backslash nor a quote. -/
  | char (c : Char)
  deriving DecidableEq, Repr

namespace LineUnit

/-- The characters of a unit. -/
def text : LineUnit → List Char
  | .quote n => List.replicate n '\\' ++ ['"']
  | .backslashes n => List.replicate n '\\'
  | .char c => [c]

/-- Whether a unit may stand after backslashes that no quote follows. -/
def IsChar : LineUnit → Prop
  | .char _ => True
  | _ => False

/-- Whether units are as long as they can be, and each is of the kind that it seems to be. -/
def IsCut : List LineUnit → Prop
  | [] => True
  | .quote _ :: rest => IsCut rest
  | .backslashes n :: rest => 0 < n ∧ (∀ unit ∈ rest.head?, unit.IsChar) ∧ IsCut rest
  | .char c :: rest => c ≠ '\\' ∧ c ≠ '"' ∧ IsCut rest

/-- The unit of `n` backslashes that no quote follows, if there is one. -/
def run (n : Nat) : List LineUnit :=
  if n == 0 then [] else [.backslashes n]

/-- The units of a text that follows `n` backslashes. -/
def unitsFrom (n : Nat) : List Char → List LineUnit
  | [] => run n
  | c :: rest =>
    if c = '\\' then unitsFrom (n + 1) rest
    else if c = '"' then .quote n :: unitsFrom 0 rest
    else run n ++ .char c :: unitsFrom 0 rest

/-- The units of a text. -/
def units (cs : List Char) : List LineUnit :=
  unitsFrom 0 cs

/-- The words that units mean, when `word` was begun before them and a quote is open or not. A quote
after an even number of backslashes opens or closes; after an odd number it belongs to the word, and
two backslashes before a quote are one. Blanks end a word unless a quote is open. -/
def meaning (quoted : Bool) (word : Option (List Char)) : List LineUnit → List (List Char)
  | [] => word.toList
  | .quote n :: rest =>
    let begun := word.getD [] ++ List.replicate (n / 2) '\\'
    if n % 2 = 0 then meaning (!quoted) (some begun) rest
    else meaning quoted (some (begun ++ ['"'])) rest
  | .backslashes n :: rest => meaning quoted (some (word.getD [] ++ List.replicate n '\\')) rest
  | .char c :: rest =>
    if Text.isBlank c && !quoted then word.toList ++ meaning false none rest
    else meaning quoted (some (word.getD [] ++ [c])) rest

theorem flatMap_text_run (n : Nat) : (run n).flatMap text = List.replicate n '\\' := by
  cases n <;> simp [run, text]

theorem flatMap_text_unitsFrom (n : Nat) (cs : List Char) :
    (unitsFrom n cs).flatMap text = List.replicate n '\\' ++ cs := by
  induction cs generalizing n with
  | nil => simp [unitsFrom, flatMap_text_run]
  | cons c rest ih =>
    rw [unitsFrom]
    split
    · next h => simp [ih, h, List.replicate_succ']
    · split
      · next h => simp [ih, h, text]
      · simp [ih, flatMap_text_run, text]

theorem text_units (cs : List Char) : (units cs).flatMap text = cs := by
  simp [units, flatMap_text_unitsFrom]

theorem isCut_run_append (n : Nat) (rest : List LineUnit) (h : IsCut rest)
    (hrest : ∀ unit ∈ rest.head?, unit.IsChar) : IsCut (run n ++ rest) := by
  cases n with
  | zero => simpa [run] using h
  | succ n => exact ⟨Nat.succ_pos n, hrest, h⟩

theorem isCut_unitsFrom (n : Nat) (cs : List Char) : IsCut (unitsFrom n cs) := by
  induction cs generalizing n with
  | nil => simpa [unitsFrom] using isCut_run_append n [] trivial (by simp)
  | cons c rest ih =>
    rw [unitsFrom]
    split
    · exact ih (n + 1)
    · split
      · exact ih 0
      · next h h' => exact isCut_run_append n _ ⟨h, h', ih 0⟩ (by simp [IsChar])

theorem isCut_units (cs : List Char) : IsCut (units cs) :=
  isCut_unitsFrom 0 cs

end LineUnit

end BuildAnalysis.CommandLine
