import CheckDoc.Text.Mark
import CheckDoc.Text.Printable

/-!
# Directions

The direction in which a character is written, for the characters that the label of a host name may
hold. A character that Unicode 14 does not assign has none.
-/

namespace CheckDoc.Text

/-- A direction. -/
inductive Direction where
  /-- From left to right. -/
  | left
  /-- From right to left. -/
  | right
  /-- From right to left, as an Arabic letter. -/
  | arabic
  /-- An Arabic number. -/
  | arabicNumber
  /-- A European number. -/
  | number
  /-- A sign between European numbers. -/
  | separator
  /-- No direction of its own. -/
  | neutral
  /-- A control without a shape. -/
  | boundary
  /-- That of the character before. -/
  | nonspacing
  deriving DecidableEq

/-- The letters of Hebrew and other scripts that run to the left. -/
def rightRanges : List (Nat × Nat) :=
  [(1488, 1514), (1519, 1524), (1984, 2026), (2036, 2037), (2048, 2069), (2074, 2074),
   (2084, 2084), (2088, 2088), (2112, 2136), (67584, 67589), (67592, 67592), (67594, 67637),
   (67639, 67640), (67644, 67644), (67647, 67669), (67680, 67702), (67712, 67742), (67808, 67826),
   (67828, 67829), (67840, 67861), (67872, 67897), (67968, 68023), (68030, 68031), (68096, 68096),
   (68112, 68115), (68117, 68119), (68121, 68149), (68192, 68220), (68224, 68252), (68288, 68295),
   (68297, 68324), (68352, 68405), (68416, 68437), (68448, 68466), (68480, 68497), (68608, 68680),
   (68800, 68850), (69248, 69289), (69296, 69297), (69376, 69404), (69415, 69415), (69488, 69505),
   (69552, 69572), (69600, 69622), (124928, 125124), (125218, 125251), (125259, 125259),
   (125264, 125273)]

/-- The letters of Arabic and related scripts. -/
def arabicRanges : List (Nat × Nat) :=
  [(1568, 1599), (1601, 1610), (1646, 1647), (1649, 1652), (1657, 1747), (1749, 1749),
   (1765, 1766), (1774, 1775), (1786, 1791), (1808, 1808), (1810, 1839), (1869, 1957),
   (1969, 1969), (2144, 2154), (2160, 2183), (2185, 2190), (2208, 2249), (65139, 65139),
   (68864, 68899), (69424, 69445)]

/-- The Arabic numbers. -/
def arabicNumberRanges : List (Nat × Nat) :=
  [(1632, 1641), (68912, 68921)]

/-- The European numbers. -/
def numberRanges : List (Nat × Nat) :=
  [(48, 57), (1776, 1785)]

/-- The characters without a direction. -/
def neutralRanges : List (Nat × Nat) :=
  [(183, 183), (697, 698), (710, 719), (748, 748), (885, 885), (11823, 11823), (12539, 12539),
   (42623, 42623), (42775, 42783), (42888, 42888)]

/-- The nonspacing marks that run to the right on their own. -/
def leftMarks : List (Nat × Nat) :=
  [(3263, 3263), (3270, 3270), (72199, 72200), (72767, 72767)]

/-- The direction of a character. -/
def direction? (c : Char) : Option Direction :=
  let n := c.toNat
  if c = '-' then some .separator
  else if n = 0x200C || n = 0x200D then some .boundary
  else if !isPrintable c then none
  else if inRanges rightRanges n then some .right
  else if inRanges arabicRanges n then some .arabic
  else if inRanges arabicNumberRanges n then some .arabicNumber
  else if inRanges numberRanges n then some .number
  else if inRanges neutralRanges n then some .neutral
  else if isNonspacing c && !inRanges leftMarks n then some .nonspacing
  else some .left

end CheckDoc.Text
