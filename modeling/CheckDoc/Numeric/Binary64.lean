/-!
# Binary floating point numbers

A finite number of the 64-bit binary format is a sign and a place: the magnitudes are counted
upwards from zero, so that each has one place and the order of the places is the order of the
magnitudes. `units` gives the magnitude at a place as a multiple of the least positive one,
`2^-1074`, and `nearest` finds the place closest to a quotient of natural numbers, where a tie goes
to the even place. All arithmetic is exact until that one rounding.
-/

namespace CheckDoc

/-- The number of magnitudes of one exponent, which has 52 bits of fraction. -/
def Binary64.binade : Nat := Nat.pow 2 52

/-- The number of finite magnitudes: there are 2047 exponents. -/
def Binary64.places : Nat := 2047 * Binary64.binade

/-- A number of the 64-bit binary floating point format. -/
inductive Binary64 where
  /-- The result that is no number. -/
  | nan
  /-- The infinity of the given sign. -/
  | infinite (neg : Bool)
  /-- The number of the given sign whose magnitude stands at `place`. -/
  | finite (neg : Bool) (place : Fin Binary64.places)
  deriving DecidableEq

namespace Binary64

/-- The number of units of `2^-1074` in one. -/
def unitsOfOne : Nat := Nat.pow 2 1074

/-- The magnitude at a place, in units of `2^-1074`. -/
def units (place : Nat) : Nat :=
  if place < binade then place
  else (binade + place % binade) * Nat.pow 2 (place / binade - 1)

/-- The last place whose magnitude is at most `q` units. -/
def floorPlace (q : Nat) : Nat :=
  if q < 2 * binade then q
  else
    let shift := q.log2 - 52
    shift * binade + q / Nat.pow 2 shift

/-- The place nearest to `num / den` units; of two equally near ones, the even one. -/
def nearest (num den : Nat) : Nat :=
  let p := floorPlace (num / den)
  let below := (units p + units (p + 1)) * den
  if below < 2 * num ∨ (below = 2 * num ∧ p % 2 = 1) then p + 1 else p

/-- The number of `num / den` units, rounded; a magnitude past the last place is infinite. -/
def ofUnits (neg : Bool) (num den : Nat) : Binary64 :=
  if h : nearest num den < places then .finite neg ⟨nearest num den, h⟩ else .infinite neg

/-- The quotient `num / den`, rounded. -/
def ofRatio (neg : Bool) (num den : Nat) : Binary64 := ofUnits neg (num * unitsOfOne) den

/-- Zero with its sign. -/
def zero (neg : Bool) : Binary64 := .finite neg ⟨0, by decide⟩

/-- An integer, rounded; `none` where the rounded magnitude is infinite. -/
def ofInt? (n : Int) : Option Binary64 :=
  match ofRatio (decide (n < 0)) n.natAbs 1 with
  | .infinite _ => none
  | x => some x

/-- A natural number small enough to be finite, such as a number of seconds. -/
def ofNat (n : Nat) : Binary64 := ofRatio false n 1

/-- Whether the number is neither infinite nor `nan`. -/
def isFinite : Binary64 → Bool
  | .finite _ _ => true
  | _ => false

/-- Whether the number is an infinity. -/
def isInfinite : Binary64 → Bool
  | .infinite _ => true
  | _ => false

/-- The signed number of units of a finite number. -/
def signedUnits (neg : Bool) (place : Nat) : Int :=
  if neg then -(units place : Int) else units place

/-- `x < y` as numbers: `nan` is below and above nothing, and both zeros are equal. -/
def lt : Binary64 → Binary64 → Bool
  | .nan, _ => false
  | _, .nan => false
  | .infinite s, .infinite t => s && !t
  | .infinite s, .finite _ _ => s
  | .finite _ _, .infinite t => !t
  | .finite s p, .finite t q => decide (signedUnits s p < signedUnits t q)

/-- `x ≤ y` as numbers. -/
def le : Binary64 → Binary64 → Bool
  | .nan, _ => false
  | _, .nan => false
  | x, y => !lt y x

/-- `x = y` as numbers: `nan` equals nothing, and both zeros are equal. -/
def numEq (x y : Binary64) : Bool := le x y && le y x

/-- The exact comparison of an integer with a number: `n < x`. -/
def intLt (n : Int) : Binary64 → Bool
  | .nan => false
  | .infinite t => !t
  | .finite t q => decide (n * unitsOfOne < signedUnits t q)

/-- The exact comparison of a number with an integer: `x < n`. -/
def ltInt : Binary64 → Int → Bool
  | .nan, _ => false
  | .infinite s, _ => s
  | .finite s p, n => decide (signedUnits s p < n * unitsOfOne)

/-- Whether a number equals an integer exactly. -/
def eqInt : Binary64 → Int → Bool
  | .finite s p, n => decide (signedUnits s p = n * unitsOfOne)
  | _, _ => false

/-- The sum, rounded. -/
def add : Binary64 → Binary64 → Binary64
  | .nan, _ => .nan
  | _, .nan => .nan
  | .infinite s, .infinite t => if s = t then .infinite s else .nan
  | .infinite s, .finite _ _ => .infinite s
  | .finite _ _, .infinite t => .infinite t
  | .finite s p, .finite t q =>
    let sum := signedUnits s p + signedUnits t q
    if sum = 0 then zero (s && t) else ofUnits (decide (sum < 0)) sum.natAbs 1

/-- The product, rounded. -/
def mul : Binary64 → Binary64 → Binary64
  | .nan, _ => .nan
  | _, .nan => .nan
  | .infinite s, .infinite t => .infinite (s != t)
  | .infinite s, .finite t q => if q.val = 0 then .nan else .infinite (s != t)
  | .finite s p, .infinite t => if p.val = 0 then .nan else .infinite (s != t)
  | .finite s p, .finite t q => ofUnits (s != t) (units p * units q) unitsOfOne

/-- The number with its fraction cut off; `none` where there is no such integer. -/
def truncate? : Binary64 → Option Int
  | .finite neg p =>
    let n : Int := (units p / unitsOfOne : Nat)
    some (if neg then -n else n)
  | _ => none

end Binary64

end CheckDoc
