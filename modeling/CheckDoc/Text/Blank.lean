import CheckDoc.Text.Ranges

/-!
# White space

The white space of running text: the ASCII blanks and line ends, the four separators that follow
them in ASCII, and the spaces and line separators of Unicode. Zero-width characters are not among
them.
-/

namespace CheckDoc.Text

/-- The white space characters. -/
def spaceRanges : List (Nat × Nat) :=
  [(9, 13), (28, 32), (133, 133), (160, 160), (5760, 5760), (8192, 8202), (8232, 8233),
   (8239, 8239), (8287, 8287), (12288, 12288)]

/-- Whether a character is white space. -/
def isSpace (c : Char) : Bool := inRanges spaceRanges c.toNat

/-- A text without the characters of a kind at both ends. -/
def stripOf (p : Char → Bool) (s : List Char) : List Char :=
  ((s.dropWhile p).reverse.dropWhile p).reverse

/-- A text without the white space at both ends. -/
def strip (s : List Char) : List Char := stripOf isSpace s

/-- Whether a character is one of the four separators that end the controls of ASCII. -/
def isSeparator (c : Char) : Bool := 28 ≤ c.toNat && c.toNat < 32

end CheckDoc.Text
