import BuildAnalysis.Json.Basic
import BuildAnalysis.Text.Digit
import BuildAnalysis.Text.Lines
import BuildAnalysis.Text.Utf8

/-!
# Reading JSON

The text holds one value between blanks. Beyond the standard the words `NaN`, `Infinity` and
`-Infinity` are numbers. Of several members with one name the last value counts. Reading stops at
the first character that cannot belong to a value, and tells where it stands. It also stops where a
value would begin that stands in too many others, whatever comes after.
-/

namespace BuildAnalysis.Json

/-- Why a text is not JSON. -/
inductive SyntaxReason where
  | value
  | memberName
  | colon
  | comma
  | extraData
  | unterminatedString
  | controlCharacter
  | escape
  | unicodeEscape
  | byteOrderMark
  deriving DecidableEq, Repr

/-- The wording of a reason. -/
def SyntaxReason.text : SyntaxReason → String
  | .value => "Expecting value"
  | .memberName => "Expecting property name enclosed in double quotes"
  | .colon => "Expecting ':' delimiter"
  | .comma => "Expecting ',' delimiter"
  | .extraData => "Extra data"
  | .unterminatedString => "Unterminated string starting at"
  | .controlCharacter => "Invalid control character at"
  | .escape => "Invalid \\escape"
  | .unicodeEscape => "Invalid \\uXXXX escape"
  | .byteOrderMark => "Unexpected UTF-8 BOM (decode using utf-8-sig)"

/-- Why reading stopped; `remaining` counts the characters from the faulty one on. -/
inductive Stop where
  | syntaxError (reason : SyntaxReason) (remaining : Nat)
  | longInteger (digits : Nat)
  | tooDeep
  deriving DecidableEq, Repr

/-- A value that was read, and the characters after it. -/
abbrev Reading (α : Type) := Except Stop (α × List Char)

/-- Whether a character may stand between values. -/
def isGap (c : Char) : Bool :=
  c == ' ' || c == '\t' || c == '\n' || c == '\r'

/-- The characters from the first one on that is no gap. -/
def skipGaps (cs : List Char) : List Char :=
  cs.dropWhile isGap

/-- The number that a digit to the base 16 denotes. -/
def hexValue? (c : Char) : Option Nat :=
  if '0' ≤ c && c ≤ '9' then some (c.toNat - '0'.toNat)
  else if 'a' ≤ c && c ≤ 'f' then some (c.toNat - 'a'.toNat + 10)
  else if 'A' ≤ c && c ≤ 'F' then some (c.toNat - 'A'.toNat + 10)
  else none

/-- The number that four digits to the base 16 denote. -/
def hexUnit? (a b c d : Char) : Option Nat :=
  match hexValue? a, hexValue? b, hexValue? c, hexValue? d with
  | some a, some b, some c, some d => some (((a * 16 + b) * 16 + c) * 16 + d)
  | _, _, _, _ => none

/-- The character of a pair of surrogates. -/
def joinSurrogates (high low : Nat) : Char :=
  Char.ofNat (0x10000 + (high - 0xD800) * 0x400 + (low - 0xDC00))

/-- The character of an escaped unit. A surrogate that stands alone is no character, and every one of
them is replaced by the same character: texts that differ in nothing but such surrogates become one
text when they are read. -/
def unitChar (unit : Nat) : Char :=
  if 0xD800 ≤ unit && unit ≤ 0xDFFF then '\ufffd' else Char.ofNat unit

/-- The character that a backslash and the given character stand for. -/
def simpleEscape? : Char → Option Char
  | '"' => some '"'
  | '\\' => some '\\'
  | '/' => some '/'
  | 'b' => some '\x08'
  | 'f' => some '\x0c'
  | 'n' => some '\n'
  | 'r' => some '\r'
  | 't' => some '\t'
  | _ => none

/-- The character of the escaped unit `unit` before `cs`, and the characters after it. A high
surrogate takes an escaped low surrogate after it along. -/
def readUnit (unit : Nat) (cs : List Char) : Reading Char :=
  match cs with
  | '\\' :: 'u' :: a :: b :: c :: d :: e :: rest =>
    if 0xD800 ≤ unit && unit ≤ 0xDBFF then
      match hexUnit? a b c d with
      | none => .error (.syntaxError .unicodeEscape (rest.length + 6))
      | some low =>
        if 0xDC00 ≤ low && low ≤ 0xDFFF then .ok (joinSurrogates unit low, e :: rest)
        else .ok (unitChar unit, cs)
    else .ok (unitChar unit, cs)
  | _ => .ok (unitChar unit, cs)

/-- Reads an escape after its backslash. The escape of a unit needs a character behind it. -/
def readEscape (cs : List Char) : Reading Char :=
  match cs with
  | 'u' :: a :: b :: c :: d :: e :: rest =>
    match hexUnit? a b c d with
    | none => .error (.syntaxError .unicodeEscape cs.length)
    | some unit => readUnit unit (e :: rest)
  | 'u' :: _ => .error (.syntaxError .unicodeEscape cs.length)
  | c :: rest =>
    match simpleEscape? c with
    | some c' => .ok (c', rest)
    | none => .error (.syntaxError .escape (cs.length + 1))
  | [] => .error (.syntaxError .unterminatedString 0)

theorem readUnit_length_le {unit : Nat} {cs rest : List Char} {c : Char}
    (h : readUnit unit cs = .ok (c, rest)) : rest.length ≤ cs.length := by
  unfold readUnit at h
  repeat' split at h
  all_goals simp at h
  all_goals obtain ⟨_, rfl⟩ := h
  all_goals simp

theorem readEscape_length_lt {cs rest : List Char} {c : Char}
    (h : readEscape cs = .ok (c, rest)) : rest.length < cs.length := by
  unfold readEscape at h
  split at h
  · split at h
    · simp at h
    · have := readUnit_length_le h
      simp at this ⊢
      omega
  · simp at h
  · split at h
    · simp at h
      obtain ⟨_, rfl⟩ := h
      simp
    · simp at h
  · simp at h

/-- Reads the rest of a string up to its closing quote. The characters read so far are in `read`,
last first; `start` counts the characters from the opening quote on. -/
def readString (start : Nat) (read : List Char) : List Char → Reading String
  | [] => .error (.syntaxError .unterminatedString start)
  | '"' :: rest => .ok (String.ofList read.reverse, rest)
  | ['\\'] => .error (.syntaxError .unterminatedString start)
  | '\\' :: rest =>
    match h : readEscape rest with
    | .error stop => .error stop
    | .ok (c, after) =>
      have := readEscape_length_lt h
      readString start (c :: read) after
  | c :: rest =>
    if c.toNat < 0x20 then .error (.syntaxError .controlCharacter (rest.length + 1))
    else readString start (c :: read) rest
termination_by cs => cs.length

/-- The integer digits at the beginning of a number: a zero alone, or digits that do not begin with
one. -/
def integerDigits : List Char → List Char × List Char
  | '0' :: rest => (['0'], rest)
  | cs => (cs.takeWhile Char.isDigit, cs.dropWhile Char.isDigit)

/-- The digits after a decimal point, if there is one with a digit behind it. -/
def fractionDigits : List Char → List Char × List Char
  | '.' :: c :: rest =>
    if c.isDigit then ((c :: rest).takeWhile Char.isDigit, (c :: rest).dropWhile Char.isDigit)
    else ([], '.' :: c :: rest)
  | cs => ([], cs)

/-- The sign of an exponent and the characters after it. -/
def exponentSign : List Char → Bool × List Char
  | '-' :: rest => (true, rest)
  | '+' :: rest => (false, rest)
  | cs => (false, cs)

/-- The exponent of a number, if there is one with a digit in it. -/
def exponentPart (cs : List Char) : Option Int × List Char :=
  match cs with
  | e :: rest =>
    let (negative, digits) := exponentSign rest
    let n : Nat := Nat.ofDigitChars 10 (digits.takeWhile Char.isDigit) 0
    if (e == 'e' || e == 'E') && (digits.head?.any Char.isDigit) then
      (some (if negative then -(n : Int) else n), digits.dropWhile Char.isDigit)
    else (none, cs)
  | [] => (none, cs)

/-- Reads a number without its sign; `start` counts the characters from its sign on. -/
def readNumber (start : Nat) (negative : Bool) (cs : List Char) : Reading Json :=
  let (whole, afterWhole) := integerDigits cs
  let (fraction, afterFraction) := fractionDigits afterWhole
  let (exponent, rest) := exponentPart afterFraction
  if whole.isEmpty then .error (.syntaxError .value start)
  else if fraction.isEmpty && exponent.isNone then
    if whole.length ≤ Text.maxNumeralLength then
      let n : Nat := Nat.ofDigitChars 10 whole 0
      .ok (.integer (if negative then -(n : Int) else n), rest)
    else .error (.longInteger whole.length)
  else
    let digits := Nat.ofDigitChars 10 (whole ++ fraction) 0
    .ok (.float (.ofDecimal negative digits (exponent.getD 0 - fraction.length)), rest)

/-- Reads one of the words, or a number. -/
def readScalar (cs : List Char) : Reading Json :=
  match cs with
  | 'n' :: 'u' :: 'l' :: 'l' :: rest => .ok (.null, rest)
  | 't' :: 'r' :: 'u' :: 'e' :: rest => .ok (.bool true, rest)
  | 'f' :: 'a' :: 'l' :: 's' :: 'e' :: rest => .ok (.bool false, rest)
  | 'N' :: 'a' :: 'N' :: rest => .ok (.float .nan, rest)
  | 'I' :: 'n' :: 'f' :: 'i' :: 'n' :: 'i' :: 't' :: 'y' :: rest =>
    .ok (.float (.infinity false), rest)
  | '-' :: 'I' :: 'n' :: 'f' :: 'i' :: 'n' :: 'i' :: 't' :: 'y' :: rest =>
    .ok (.float (.infinity true), rest)
  | '-' :: rest => readNumber cs.length true rest
  | _ => readNumber cs.length false cs

/-- The most arrays and objects that may stand in each other, as far as nothing else is known of the
depth of the calls. -/
def maxDepth : Nat := 985

mutual

/-- Reads a value; `fuel` bounds the number of steps, and `room` tells how many arrays and objects
may still stand in each other. -/
def readValue (room fuel : Nat) (cs : List Char) : Reading Json :=
  match fuel with
  | 0 => .error (.syntaxError .value cs.length)
  | fuel + 1 =>
    match cs with
    | '"' :: rest => (readString cs.length [] rest).map fun (s, rest) => (.string s, rest)
    | '[' :: rest =>
      match room, skipGaps rest with
      | 0, _ => .error .tooDeep
      | _ + 1, ']' :: rest => .ok (.array [], rest)
      | room + 1, rest => readItems room fuel [] rest
    | '{' :: rest =>
      match room, skipGaps rest with
      | 0, _ => .error .tooDeep
      | _ + 1, '}' :: rest => .ok (.object [], rest)
      | room + 1, rest => readMembers room fuel [] rest
    | _ => readScalar cs

/-- Reads the items of an array up to its end; `items` holds those before, last first. -/
def readItems (room fuel : Nat) (items : List Json) (cs : List Char) :
    Except Stop (Json × List Char) :=
  match fuel with
  | 0 => .error (.syntaxError .value cs.length)
  | fuel + 1 => do
    let (item, rest) ← readValue room fuel cs
    match skipGaps rest with
    | ']' :: rest => .ok (.array (item :: items).reverse, rest)
    | ',' :: rest => readItems room fuel (item :: items) (skipGaps rest)
    | rest => .error (.syntaxError .comma rest.length)

/-- Reads the members of an object up to its end, after those in `members`. -/
def readMembers (room fuel : Nat) (members : List (String × Json)) (cs : List Char) :
    Except Stop (Json × List Char) :=
  match fuel with
  | 0 => .error (.syntaxError .value cs.length)
  | fuel + 1 =>
    match cs with
    | '"' :: rest => do
      let (name, rest) ← readString cs.length [] rest
      match skipGaps rest with
      | ':' :: rest => do
        let (value, rest) ← readValue room fuel (skipGaps rest)
        let members := insert members name value
        match skipGaps rest with
        | '}' :: rest => .ok (.object members, rest)
        | ',' :: rest => readMembers room fuel members (skipGaps rest)
        | rest => .error (.syntaxError .comma rest.length)
      | rest => .error (.syntaxError .colon rest.length)
    | _ => .error (.syntaxError .memberName cs.length)

end

/-- Reads a text that holds one value, in which at most `room` arrays and objects stand in each other.
Each step but the last of a value reads a character, so that twice the length of the text bounds
their number. -/
def readAll (room : Nat) (cs : List Char) : Except Stop Json := do
  if cs.head? == some '\ufeff' then throw (.syntaxError .byteOrderMark cs.length)
  let (value, rest) ← readValue room (2 * cs.length + 2) (skipGaps cs)
  match skipGaps rest with
  | [] => return value
  | rest => throw (.syntaxError .extraData rest.length)

/-- Why bytes are not JSON. -/
inductive ReadFault where
  /-- The bytes are not UTF-8. -/
  | encoding (fault : Text.Utf8.Fault)
  /-- The text is not JSON from the character at `offset` on. -/
  | syntaxError (reason : SyntaxReason) (line column offset : Nat)
  /-- An integer has too many digits. -/
  | longInteger (digits : Nat)
  /-- Too many arrays and objects stand in each other. -/
  | tooDeep
  deriving DecidableEq, Repr

/-- The fault of a text at which reading stopped. -/
def ReadFault.ofStop (cs : List Char) : Stop → ReadFault
  | .syntaxError reason remaining =>
    let offset := cs.length - remaining
    let before := cs.take offset
    .syntaxError reason (before.count '\n' + 1)
      ((before.reverse.takeWhile (· != '\n')).length + 1) offset
  | .longInteger digits => .longInteger digits
  | .tooDeep => .tooDeep

/-- The JSON value of a text. -/
def read (s : String) : Except ReadFault Json :=
  (readAll maxDepth s.toList).mapError (ReadFault.ofStop s.toList)

/-- The JSON value of a file with the given bytes. -/
def readBytes (bytes : List UInt8) (room : Nat := maxDepth) : Except ReadFault Json :=
  match Text.Utf8.decode bytes with
  | .error fault => .error (.encoding fault)
  | .ok cs =>
    let cs := Text.unifyNewlines cs
    (readAll room cs).mapError (ReadFault.ofStop cs)

/-- A number of bytes as two digits to the base 16. -/
def byteText (b : UInt8) : String :=
  let digits := Nat.toDigits 16 b.toNat
  "0x" ++ String.ofList (List.replicate (2 - digits.length) '0' ++ digits)

/-- The wording of an encoding fault. -/
def encodingText (fault : Text.Utf8.Fault) : String :=
  let reason :=
    match fault.reason with
    | .invalidStart => "invalid start byte"
    | .invalidContinuation => "invalid continuation byte"
    | .unexpectedEnd => "unexpected end of data"
  let place :=
    match fault.bytes with
    | [b] => "byte " ++ byteText b ++ s!" in position {fault.position}"
    | bytes => s!"bytes in position {fault.position}-{fault.position + bytes.length - 1}"
  "'utf-8' codec can't decode " ++ place ++ ": " ++ reason

/-- The wording of a fault. -/
def ReadFault.text : ReadFault → String
  | .encoding fault => encodingText fault
  | .syntaxError reason line column offset =>
    reason.text ++ s!": line {line} column {column} (char {offset})"
  | .longInteger digits =>
    s!"Exceeds the limit ({Text.maxNumeralLength} digits) for integer string conversion: " ++
      s!"value has {digits} digits; use sys.set_int_max_str_digits() to increase the limit"
  | .tooDeep => "too many arrays and objects stand in each other"

end BuildAnalysis.Json
