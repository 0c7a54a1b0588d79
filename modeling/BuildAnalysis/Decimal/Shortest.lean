import BuildAnalysis.Decimal.Binary64

/-!
# The shortest decimal numeral of a number

A number is written with the fewest digits that read back as the number, and with the digits
nearest to it among those, in a tie the even ones. Powers of ten from `10 ^ -4` up to, and without,
`10 ^ 16` are written positionally, the others with an exponent of at least two digits.
-/

namespace BuildAnalysis.Binary64

/-- The most digits that a shortest numeral needs. -/
def maxDigits : Nat := 17

/-- The greatest `e` with `10 ^ e ≤ num / den`, for a positive quotient. -/
def decimalExponent (num den : Nat) : Int :=
  if den ≤ num then (Nat.toDigits 10 (num / den)).length - 1
  else
    let steps := (Nat.toDigits 10 (den / num)).length
    if den ≤ Nat.pow 10 (steps - 1) * num then 1 - (steps : Int) else -(steps : Int)

/-- Of the two multiples of `10 ^ k` around the number `4 * m * 2 ^ q`, the nearest one that reads
back as the number: it lies between `(4 * m - below) * 2 ^ q` and `(4 * m + 2) * 2 ^ q`. -/
def nearestOnGrid? (m below : Nat) (q k : Int) : Option Nat :=
  let scale := Nat.pow 2 q.toNat * Nat.pow 10 (-k).toNat
  let unit := Nat.pow 10 k.toNat * Nat.pow 2 (-q).toNat
  let value := 4 * m * scale
  let low := (4 * m - below) * scale
  let high := (4 * m + 2) * scale
  let readsBack (d : Nat) : Bool :=
    if m % 2 == 0 then low ≤ d * unit && d * unit ≤ high else low < d * unit && d * unit < high
  let down := value / unit
  let up := down + 1
  match readsBack down && 0 < down, readsBack up with
  | true, true => some (roundQuotient value unit)
  | true, false => some down
  | false, true => some up
  | false, false => none

/-- Tries numerals of `n` digits and more; the number lies above `10 ^ top`. -/
def shortestFrom (m below : Nat) (q top : Int) : Nat → Nat → Nat × Int
  | 0, n => (0, top - n)
  | fuel + 1, n =>
    let k := top - (n - 1 : Nat)
    match nearestOnGrid? m below q k with
    | some d => (d, k)
    | none => shortestFrom m below q top fuel (n + 1)

/-- The shortest digits of the positive number `significand * 2 ^ exponent`, as an integer and the
power of ten that it is multiplied by. -/
def shortest (significand : Nat) (exponent : Int) : Nat × Int :=
  let below := if significand == Nat.pow 2 (precision - 1) && minExponent < exponent then 1 else 2
  let top := decimalExponent (significand * Nat.pow 2 exponent.toNat) (Nat.pow 2 (-exponent).toNat)
  shortestFrom significand below (exponent - 2) top maxDigits 1

/-- Digits without the zeros at their end. -/
def trimZeros (digits : List Char) : List Char :=
  (digits.reverse.dropWhile (· == '0')).reverse

/-- The decimal exponents below which a number is written with an exponent. -/
def positionalLow : Int := -4

/-- The decimal exponent from which on a number is written with an exponent. -/
def positionalHigh : Int := 16

/-- A power of ten after the mark `e`, with its sign and at least two digits. -/
def exponentText (e : Int) : List Char :=
  let digits := Nat.toDigits 10 e.natAbs
  'e' :: (if e < 0 then '-' else '+') :: (if digits.length < 2 then '0' :: digits else digits)

/-- The numeral of digits of which the first stands for multiples of `10 ^ top`. -/
def numeralText (digits : List Char) (top : Int) : List Char :=
  if top < positionalLow || positionalHigh ≤ top then
    match digits with
    | [] => []
    | [d] => d :: exponentText top
    | d :: rest => d :: '.' :: rest ++ exponentText top
  else if top < 0 then '0' :: '.' :: List.replicate (-top - 1).toNat '0' ++ digits
  else
    let whole := top.toNat + 1
    let shown := digits ++ List.replicate (whole - digits.length) '0'
    let fraction := shown.drop whole
    shown.take whole ++ '.' :: (if fraction.isEmpty then ['0'] else fraction)

/-- The numeral of a finite number without its sign. -/
def magnitudeText (significand : Nat) (exponent : Int) : List Char :=
  if significand == 0 then ['0', '.', '0']
  else
    let (d, k) := shortest significand exponent
    let digits := Nat.toDigits 10 d
    numeralText (trimZeros digits) (k + digits.length - 1)

/-- The shortest numeral of a number. -/
def text : Binary64 → String
  | .nan => "nan"
  | .infinity negative => if negative then "-inf" else "inf"
  | .finite negative significand exponent =>
    (if negative then "-" else "") ++ String.ofList (magnitudeText significand exponent)

end BuildAnalysis.Binary64
