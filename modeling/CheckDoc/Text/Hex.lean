/-!
# Hexadecimal digits

The digits of base sixteen, with letters of either case when they are read and small letters when
they are written.
-/

namespace CheckDoc.Text

/-- The value of a digit in bases up to sixteen. -/
def digitValue? (c : Char) : Option Nat :=
  if c.isDigit then some (c.toNat - '0'.toNat)
  else if 'a' ≤ c.toLower ∧ c.toLower ≤ 'f' then some (c.toLower.toNat - 'a'.toNat + 10)
  else none

/-- Whether a character is a hexadecimal digit. -/
def isHexDigit (c : Char) : Bool := (digitValue? c).isSome

/-- The number of some digits in a base. -/
def digitsValue (base : Nat) (s : List Char) : Nat :=
  s.foldl (fun n c => base * n + (digitValue? c).getD 0) 0

/-- The number of some hexadecimal digits. -/
def hexValue (s : List Char) : Nat := digitsValue 16 s

/-- The lowest `width` hexadecimal digits of `n`. -/
def hexDigits : Nat → Nat → List Char
  | 0, _ => []
  | width + 1, n => hexDigits width (n / 16) ++ [Nat.digitChar (n % 16)]

end CheckDoc.Text
