import CheckDoc.Text.Half
import CheckDoc.Text.Hex
import CheckDoc.Text.Printable

/-!
# Quoted text

How a text is shown inside a message: between single quotes, or between double quotes where it
holds a single quote and no double one. The quote and the backslash are written after a backslash,
line ends and tabs by their letters, and every other character that is not printable by its code
point in two, four or eight hexadecimal digits.
-/

namespace CheckDoc.Text

/-- The digits of a code point after the letter that says how many there are. -/
def codeDigits (n : Nat) : List Char :=
  if n < 0x100 then 'x' :: hexDigits 2 n
  else if n < 0x10000 then 'u' :: hexDigits 4 n
  else 'U' :: hexDigits 8 n

/-- One character inside the quote `q`. -/
def quoteChar (q c : Char) : List Char :=
  if c = q ∨ c = '\\' then ['\\', c]
  else if c = '\n' then ['\\', 'n']
  else if c = '\r' then ['\\', 'r']
  else if c = '\t' then ['\\', 't']
  else if isPrintable c then [c]
  else '\\' :: codeDigits (codeOf c)

/-- The quote that a text is shown in. -/
def quoteFor (s : List Char) : Char := if '\'' ∈ s ∧ '"' ∉ s then '"' else '\''

/-- A text in quotes. -/
def quoted (s : String) : String :=
  let q := quoteFor s.toList
  String.ofList (q :: (s.toList.flatMap (quoteChar q) ++ [q]))

end CheckDoc.Text
