/-!
# Halves of pairs

A code point from D800 to DFFF is half of a pair and no character, but an escape can name it. A
text holds a stand-in for it, a character of a plane in which none is assigned. Where the two halves
of a pair stand together, `joinPairs` puts the character of the pair in their place.
-/

namespace CheckDoc.Text

/-- Whether a code point is half of a pair. -/
def isHalf (n : Nat) : Bool := 0xD800 ≤ n && n < 0xE000

/-- The distance of the stand-ins from the halves. -/
def standInShift : Nat := 0xD0000

/-- The character of a code point, or the stand-in of a half. -/
def ofCode (n : Nat) : Char := Char.ofNat (if isHalf n then standInShift + n else n)

/-- The code point that a character stands for. -/
def codeOf (c : Char) : Nat :=
  if standInShift ≤ c.toNat && isHalf (c.toNat - standInShift) then c.toNat - standInShift
  else c.toNat

/-- The character of a pair, if two characters stand for its halves. -/
def pair? (a b : Char) : Option Char :=
  let high := codeOf a
  let low := codeOf b
  if 0xD800 ≤ high && high < 0xDC00 && 0xDC00 ≤ low && low < 0xE000 then
    some (Char.ofNat (0x10000 + (high - 0xD800) * 0x400 + (low - 0xDC00)))
  else none

/-- A text with the characters of its pairs. -/
def joinPairs : List Char → List Char
  | [] => []
  | [c] => [c]
  | a :: b :: rest =>
    match pair? a b with
    | some c => c :: joinPairs rest
    | none => a :: joinPairs (b :: rest)

end CheckDoc.Text
