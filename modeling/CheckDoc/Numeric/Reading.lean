import CheckDoc.Numeric.Decimal
import CheckDoc.Text.Blank
import CheckDoc.Text.Hex
import CheckDoc.Text.Letter

/-!
# Reading numbers

Numbers as they stand in data: white space around them is ignored other than the separators of
ASCII, the digits may be those of any script, and a sign may stand in front. An integer is read in a
given base; underscores may set its digits in groups, and in base ten it may have 4300 digits at
most, which also bounds the integers that are written. A number with a point may have an exponent,
and there are words for the infinities and for no number.
-/

namespace CheckDoc.Numeric

/-- Why a text is no integer. -/
inductive IntegerFault where
  /-- It has other characters than digits, or no digits. -/
  | malformed
  /-- It has too many digits. -/
  | tooLong (digits : Nat)
  deriving DecidableEq

/-- The most digits of an integer in base ten. -/
def maxDigits : Nat := 4300

/-- The wording for an integer of too many digits; `read` is their number, where they were read. -/
def lengthMessage (read : Option Nat) : String :=
  "Exceeds the limit (" ++ toString maxDigits ++ " digits) for integer string conversion" ++
    (read.elim "" fun digits => ": value has " ++ toString digits ++ " digits") ++
    "; use sys.set_int_max_str_digits() to increase the limit"

/-- Whether an integer has too many digits to be written in base ten. -/
def isTooLong (n : Int) : Bool := Nat.pow 10 maxDigits ≤ n.natAbs

/-- A character with the decimal digits of all scripts brought to ASCII. -/
def plainDigit (c : Char) : Char :=
  match Text.decimalValue? c with
  | some n => Nat.digitChar n
  | none => c

/-- A number without the white space around it, and with its digits in ASCII. -/
def plainText (s : List Char) : List Char :=
  (Text.stripOf (fun c => Text.isSpace c && !Text.isSeparator c) s).map plainDigit

/-- A text after an optional sign, and whether the sign is minus. -/
def splitSign : List Char → Bool × List Char
  | '+' :: s => (false, s)
  | '-' :: s => (true, s)
  | s => (false, s)

/-- Whether a character is a digit in a base. -/
def isDigitIn (base : Nat) (c : Char) : Bool := (Text.digitValue? c).any (· < base)

/-- The letter that may follow a zero in front of a number in a base. -/
def baseLetter? (base : Nat) : Option Char :=
  if base = 16 then some 'x' else if base = 8 then some 'o' else if base = 2 then some 'b' else none

/-- A text without the sign of its base. -/
def dropBase (base : Nat) (s : List Char) : List Char :=
  match s with
  | '0' :: c :: rest => if baseLetter? base = some c.toLower then rest else s
  | _ => s

/-- A text without the single underscores between digits; `afterDigit` says whether a digit stands
in front of it. -/
def ungrouped (base : Nat) (afterDigit : Bool) : List Char → List Char
  | [] => []
  | c :: rest =>
    if afterDigit && c = '_' && rest.head?.any (isDigitIn base) then ungrouped base false rest
    else c :: ungrouped base (isDigitIn base c) rest

/-- Reads an integer. -/
def readInt (base : Nat) (s : List Char) : Except IntegerFault Int :=
  let (neg, body) := splitSign (plainText s)
  let body := ungrouped base false (dropBase base body)
  let digits := body.takeWhile (isDigitIn base)
  if base = 10 ∧ maxDigits < digits.length then .error (.tooLong digits.length)
  else if digits.isEmpty ∨ digits.length < body.length then .error .malformed
  else
    let n : Int := Text.digitsValue base digits
    .ok (if neg then -n else n)

/-- Reads the exponent at the end of a number. -/
def readExponent? : List Char → Option Int
  | [] => some 0
  | e :: s =>
    if e.toLower = 'e' then
      let (neg, digits) := splitSign s
      if digits.isEmpty || digits.any (!·.isDigit) then none
      else
        let n : Int := Nat.ofDigitChars 10 digits 0
        some (if neg then -n else n)
    else none

/-- Reads a floating point number. -/
def readFloat? (s : List Char) : Option Binary64 :=
  let (neg, body) := splitSign (plainText s)
  let word := String.ofList (body.map Char.toLower)
  if word = "inf" ∨ word = "infinity" then some (.infinite neg)
  else if word = "nan" then some .nan
  else
    let whole := body.takeWhile Char.isDigit
    let rest := body.dropWhile Char.isDigit
    let (part, rest) := match rest with
      | '.' :: more => (more.takeWhile Char.isDigit, more.dropWhile Char.isDigit)
      | _ => ([], rest)
    if whole.isEmpty && part.isEmpty then none
    else do
      let e ← readExponent? rest
      some (Decimal.roundBounded
        ⟨neg, Nat.ofDigitChars 10 (whole ++ part) 0, e - (part.length : Int)⟩)

end CheckDoc.Numeric
