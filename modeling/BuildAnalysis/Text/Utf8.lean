/-!
# UTF-8

Bytes are read one character at a time. A sequence that is no character is cut off where it first
fails: its valid beginning, or its first byte alone. Reading strictly stops there; reading leniently
puts one replacement character for each such sequence.
-/

namespace BuildAnalysis.Text.Utf8

/-- Why bytes are no character. -/
inductive Reason where
  /-- The byte begins no character. -/
  | invalidStart
  /-- A byte that had to continue the character does not. -/
  | invalidContinuation
  /-- The bytes end inside the character. -/
  | unexpectedEnd
  deriving DecidableEq, Repr

/-- What a first byte asks of the bytes after it: the range of the second one, and how many
follow in all. -/
structure Lead where
  bits : Nat
  low : UInt8
  high : UInt8
  count : Nat

/-- The demand of a first byte above the ASCII ones; `none` if it begins no character. -/
def lead? (b : UInt8) : Option Lead :=
  if b < 0xC2 then none
  else if b < 0xE0 then some ⟨b.toNat - 0xC0, 0x80, 0xBF, 1⟩
  else if b < 0xF0 then
    some ⟨b.toNat - 0xE0, if b == 0xE0 then 0xA0 else 0x80, if b == 0xED then 0x9F else 0xBF, 2⟩
  else if b < 0xF5 then
    some ⟨b.toNat - 0xF0, if b == 0xF0 then 0x90 else 0x80, if b == 0xF4 then 0x8F else 0xBF, 3⟩
  else none

/-- One step of reading: a character, or a sequence of `length` bytes that is none. -/
inductive Piece where
  | char (c : Char)
  | invalid (reason : Reason) (length : Nat)
  deriving Repr

/-- Reads `count` further bytes, the first of them between `low` and `high`, onto the bits `n` of
the `length` bytes read. -/
def continueChar (n : Nat) (length : Nat) (low high : UInt8) :
    Nat → List UInt8 → Piece × List UInt8
  | 0, bytes => (.char (Char.ofNat n), bytes)
  | _ + 1, [] => (.invalid .unexpectedEnd length, [])
  | count + 1, b :: rest =>
    if low ≤ b && b ≤ high then
      continueChar (64 * n + (b.toNat - 0x80)) (length + 1) 0x80 0xBF count rest
    else (.invalid .invalidContinuation length, b :: rest)

/-- Reads the first character of the bytes `b :: rest`. -/
def readChar (b : UInt8) (rest : List UInt8) : Piece × List UInt8 :=
  if b < 0x80 then (.char (Char.ofNat b.toNat), rest)
  else
    match lead? b with
    | none => (.invalid .invalidStart 1, rest)
    | some l => continueChar l.bits 1 l.low l.high l.count rest

theorem length_continueChar_le (count : Nat) (bytes : List UInt8) (n length : Nat)
    (low high : UInt8) : (continueChar n length low high count bytes).2.length ≤ bytes.length := by
  induction count generalizing bytes n length low high with
  | zero => simp [continueChar]
  | succ count ih =>
    cases bytes with
    | nil => simp [continueChar]
    | cons b rest =>
      rw [continueChar]
      split
      · exact Nat.le_trans (ih ..) (Nat.le_succ _)
      · exact Nat.le_refl _

theorem length_readChar_le (b : UInt8) (rest : List UInt8) :
    (readChar b rest).2.length ≤ rest.length := by
  unfold readChar
  split
  · exact Nat.le_refl _
  · split
    · exact Nat.le_refl _
    · exact length_continueChar_le ..

/-- The characters of bytes, with the sequences that are none between them. -/
def pieces : List UInt8 → List Piece
  | [] => []
  | b :: rest => (readChar b rest).1 :: pieces (readChar b rest).2
termination_by bytes => bytes.length
decreasing_by exact Nat.lt_succ_of_le (length_readChar_le b rest)

/-- The bytes that are no character, where they stand and why. -/
structure Fault where
  position : Nat
  bytes : List UInt8
  reason : Reason
  deriving DecidableEq, Repr

/-- The strict reading of pieces of `bytes`, `position` bytes after their beginning. -/
def strictFrom (position : Nat) : List Piece → List UInt8 → Except Fault (List Char)
  | [], _ => .ok []
  | .char c :: rest, bytes =>
    (strictFrom (position + c.utf8Size) rest (bytes.drop c.utf8Size)).map (c :: ·)
  | .invalid reason length :: _, bytes => .error ⟨position, bytes.take length, reason⟩

/-- The text that bytes encode. -/
def decode (bytes : List UInt8) : Except Fault (List Char) :=
  strictFrom 0 (pieces bytes) bytes

/-- The text that bytes encode, with a replacement character for each sequence that is none. -/
def decodeLenient (bytes : List UInt8) : List Char :=
  (pieces bytes).map fun
    | .char c => c
    | .invalid .. => '\ufffd'

/-- The bytes that encode a text. -/
def encode (s : String) : List UInt8 :=
  s.toUTF8.toList

end BuildAnalysis.Text.Utf8
