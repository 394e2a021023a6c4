import CheckDoc.Numeric.Binary64

/-!
# Decimal text of binary numbers

A decimal is a sign, a coefficient and a power of ten, and `round` reads it as the nearest binary
number. `shortest` goes the other way: of the decimals that read back as the number it takes one
with the fewest digits, and of those the nearest. The exact decimal stands behind the search, so
that what `shortest` gives always reads back.

Two layouts are written from it. `positional` has a point and at least one digit on both sides of
it. `text` is positional while the decimal exponent is from -4 to 15 and scientific outside; its
exponent has a sign and at least two digits. `general` rounds to six digits instead and drops the
zeros at the end.
-/

namespace CheckDoc

/-- The decimal `coefficient * 10^exponent` with a sign. -/
structure Decimal where
  /-- Whether the sign is minus. -/
  neg : Bool
  /-- The digits, read as a natural number. -/
  coefficient : Nat
  /-- The power of ten. -/
  exponent : Int
  deriving DecidableEq

namespace Decimal

/-- The binary number nearest to a decimal. -/
def round (d : Decimal) : Binary64 :=
  match d.exponent with
  | .ofNat e => .ofRatio d.neg (d.coefficient * Nat.pow 10 e) 1
  | .negSucc e => .ofRatio d.neg d.coefficient (Nat.pow 10 (e + 1))

/-- The digits of the coefficient. -/
def digits (d : Decimal) : List Char := Nat.toDigits 10 d.coefficient

/-- As `round`, for an exponent of any size: a magnitude of `10^400` or more is infinite and one
below `10^-400` is zero, which is decided without writing out the power. -/
def roundBounded (d : Decimal) : Binary64 :=
  if d.coefficient = 0 then .zero d.neg
  else
    let size := (d.digits.length : Int) + d.exponent
    if size > 400 then .infinite d.neg
    else if size < -400 then .zero d.neg
    else d.round

/-- The number of digits of `n`. -/
def width (n : Nat) : Nat := (Nat.toDigits 10 n).length

/-- The power of ten of the first digit of `num / den`, for a positive quotient. -/
def leadingExponent (num den : Nat) : Int :=
  if den ≤ num then (width (num / den) : Int) - 1
  else -(width ((den + num - 1) / num - 1) : Int)

/-- The quotient of `num / den` by `10^e`, as a numerator and a denominator. -/
def scaled (num den : Nat) : Int → Nat × Nat
  | .ofNat e => (num, den * Nat.pow 10 e)
  | .negSucc e => (num * Nat.pow 10 (e + 1), den)

/-- The decimal with coefficient `c` of `n` digits at most, or the next power of ten. -/
def onGrid (neg : Bool) (n : Nat) (c : Nat) (e : Int) : Decimal :=
  if c = Nat.pow 10 n then ⟨neg, 1, e + n⟩ else ⟨neg, c, e⟩

/-- The decimal of `n` digits that is nearest to the `num / den` units of `x` among the two
neighbours of that quotient which read back as `x`. -/
def candidate? (x : Binary64) (neg : Bool) (num den : Nat) (lead : Int) (n : Nat) :
    Option Decimal :=
  let e := lead - n + 1
  let (a, b) := scaled num den e
  let c := a / b
  let below := onGrid neg n c e
  let above := onGrid neg n (c + 1) e
  let lowFits := below.round = x
  let highFits := above.round = x
  if lowFits ∧ highFits then
    if 2 * a < (2 * c + 1) * b ∨ (2 * a = (2 * c + 1) * b ∧ c % 2 = 0) then some below
    else some above
  else if lowFits then some below
  else if highFits then some above
  else none

/-- A decimal with the fewest digits that reads back as the number at `place`. -/
def shortest (neg : Bool) (place : Fin Binary64.places) : Decimal :=
  let u := Binary64.units place
  if u = 0 then ⟨neg, 0, 0⟩
  else
    let lead := leadingExponent u Binary64.unitsOfOne
    let found := (List.range 17).findSome? fun i =>
      candidate? (.finite neg place) neg u Binary64.unitsOfOne lead (i + 1)
    found.getD ⟨neg, u * Nat.pow 5 1074, -1074⟩

/-- The power of ten of the first digit. -/
def lead (d : Decimal) : Int := (d.digits.length : Int) - 1 + d.exponent

/-- The sign in front of a number: a minus or nothing. -/
def sign (neg : Bool) : List Char := if neg then ['-'] else []

/-- The decimal with a point and at least one digit before and after it. -/
def positional (d : Decimal) : List Char :=
  sign d.neg ++
  match d.exponent with
  | .ofNat 0 => d.digits ++ ['.', '0']
  | .ofNat (e + 1) => Nat.toDigits 10 (d.coefficient * Nat.pow 10 (e + 1)) ++ ['.', '0']
  | .negSucc e =>
    let places := e + 1
    let whole := d.coefficient / Nat.pow 10 places
    let part := Nat.toDigits 10 (d.coefficient % Nat.pow 10 places)
    Nat.toDigits 10 whole ++ '.' :: (List.replicate (places - part.length) '0' ++ part)

/-- The exponent of scientific notation: its sign and at least two digits. -/
def exponentText (e : Int) : List Char :=
  let digits := Nat.toDigits 10 e.natAbs
  (if e < 0 then '-' else '+') :: (List.replicate (2 - digits.length) '0' ++ digits)

/-- The decimal with one digit before the point and an exponent. -/
def scientific (d : Decimal) : List Char :=
  sign d.neg ++
  (match d.digits with
    | [] => []
    | [c] => [c]
    | c :: cs => c :: '.' :: cs) ++
  'e' :: exponentText d.lead

/-- The decimal as numbers are displayed: positional for exponents from -4 to 15. -/
def text (d : Decimal) : List Char :=
  if -4 ≤ d.lead ∧ d.lead < 16 then d.positional else d.scientific

/-- The quotient `num / den` rounded to a natural number; a tie goes to the even one. -/
def roundDiv (num den : Nat) : Nat :=
  let q := num / den
  let r := num % den
  if den < 2 * r ∨ (den = 2 * r ∧ q % 2 = 1) then q + 1 else q

/-- Cuts `fuel` zeros at most from the end of a coefficient. -/
def dropZeros : Nat → Decimal → Decimal
  | 0, d => d
  | fuel + 1, d =>
    if d.coefficient ≠ 0 ∧ d.coefficient % 10 = 0 then
      dropZeros fuel ⟨d.neg, d.coefficient / 10, d.exponent + 1⟩
    else d

/-- The number at `place` rounded to six digits, without zeros at the end. -/
def sixDigits (neg : Bool) (place : Fin Binary64.places) : Decimal :=
  let u := Binary64.units place
  if u = 0 then ⟨neg, 0, 0⟩
  else
    let e := leadingExponent u Binary64.unitsOfOne - 5
    let (a, b) := scaled u Binary64.unitsOfOne e
    dropZeros 6 ⟨neg, roundDiv a b, e⟩

/-- The decimal with a point only where digits follow it. -/
def plain (d : Decimal) : List Char :=
  match d.exponent with
  | .ofNat e => sign d.neg ++ Nat.toDigits 10 (d.coefficient * Nat.pow 10 e)
  | .negSucc _ => d.positional

/-- The decimal in six-digit notation: positional for exponents from -4 to 5. -/
def general (d : Decimal) : List Char :=
  if -4 ≤ d.lead ∧ d.lead < 6 then d.plain else d.scientific

end Decimal

namespace Binary64

/-- The shortest text that reads back as the number. -/
def text : Binary64 → String
  | .nan => "nan"
  | .infinite neg => if neg then "-inf" else "inf"
  | .finite neg place => String.ofList (Decimal.shortest neg place).text

/-- The shortest text without an exponent that reads back as a finite number. -/
def positional : Binary64 → String
  | .nan => "NaN.0"
  | .infinite neg => if neg then "-Infinity.0" else "Infinity.0"
  | .finite neg place => String.ofList (Decimal.shortest neg place).positional

/-- The number with six significant digits. -/
def general : Binary64 → String
  | .nan => "nan"
  | .infinite neg => if neg then "-inf" else "inf"
  | .finite neg place => String.ofList (Decimal.sixDigits neg place).general

end Binary64

end CheckDoc
