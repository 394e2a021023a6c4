import CheckDoc.Text.Half

/-!
# Punycode

The ASCII form of a label with other characters, as internet host names need it. The ASCII
characters come first. The others follow in the order of their code points, each as the number of
positions that were passed since the last one, in digits of base 36 whose thresholds adapt to the
numbers before. `decode?` reads such a form.
-/

namespace CheckDoc.Link.Punycode

/-- A digit of base 36. -/
def digit (n : Nat) : Char := Char.ofNat (if n < 26 then 97 + n else 22 + n)

/-- The threshold of the digit at a weight. -/
def threshold (bias weight : Nat) : Nat := min 26 (max 1 (weight - bias))

/-- The digits of a number from a weight on. The number gets smaller with each digit, so that
`fuel` digits are enough for a number up to `fuel`. -/
def digitsFrom (bias : Nat) : Nat → Nat → Nat → List Char
  | 0, _, _ => []
  | fuel + 1, weight, n =>
    let t := threshold bias weight
    if n < t then [digit n]
    else digit (t + (n - t) % (36 - t)) :: digitsFrom bias fuel (weight + 36) ((n - t) / (36 - t))

/-- The digits of a number. -/
def digits (bias n : Nat) : List Char := digitsFrom bias (n + 1) 36 n

/-- Divides by 35 while the number is large, and counts 36 for each time. -/
def adaptFrom : Nat → Nat → Nat → Nat
  | 0, weight, n => weight + 36 * n / (n + 38)
  | fuel + 1, weight, n =>
    if 455 < n then adaptFrom fuel (weight + 36) (n / 35) else weight + 36 * n / (n + 38)

/-- The bias after a number, where `count` characters are written. -/
def adapt (n count : Nat) (first : Bool) : Nat :=
  let n := if first then n / 700 else n / 2
  adaptFrom n 0 (n + n / count)

/-- What is known between two characters. -/
structure Progress where
  /-- What was written. -/
  written : List Char
  /-- The positions that were passed since the last character. -/
  passed : Nat
  /-- The bias of the thresholds. -/
  bias : Nat
  /-- The number of characters that are written. -/
  count : Nat

/-- Passes a position of the label while the code point `point` is written. -/
def pass (basic point : Nat) (p : Progress) (c : Char) : Progress :=
  if c.toNat < point then { p with passed := p.passed + 1 }
  else if c.toNat = point then
    ⟨p.written ++ digits p.bias p.passed, 0, adapt p.passed (p.count + 1) (p.count = basic),
      p.count + 1⟩
  else p

/-- Writes the code points of a list in order, from the code point `last` on. -/
def writePoints (label : List Char) (basic : Nat) : Nat → List Nat → Progress → Progress
  | _, [], p => p
  | last, point :: more, p =>
    let p := { p with passed := p.passed + (point - last) * (p.count + 1) }
    let p := label.foldl (pass basic point) p
    writePoints label basic (point + 1) more { p with passed := p.passed + 1 }

/-- The ASCII form of a label. -/
def encode (label : List Char) : List Char :=
  let ascii := label.filter fun c => c.toNat < 128
  let points := ((label.map Char.toNat).filter fun n => 128 ≤ n).eraseDups.mergeSort
  let start := ascii ++ if ascii.isEmpty then [] else ['-']
  (writePoints label ascii.length 128 points ⟨start, 0, 72, ascii.length⟩).written

/-- The value of a digit of base 36. -/
def digitValue? (c : Char) : Option Nat :=
  if 'a' ≤ c && c ≤ 'z' then some (c.toNat - 'a'.toNat)
  else if 'A' ≤ c && c ≤ 'Z' then some (c.toNat - 'A'.toNat)
  else if c.isDigit then some (c.toNat - '0'.toNat + 26)
  else none

/-- Reads the number at the start of a text, from the digit of a weight on: `factor` is what the
digit counts, and `sum` the number so far. -/
def readNumber (bias weight factor sum : Nat) : List Char → Option (Nat × List Char)
  | [] => none
  | c :: rest => do
    let d ← digitValue? c
    let t := threshold bias weight
    let sum := sum + d * factor
    if d < t then some (sum, rest)
    else readNumber bias (weight + 36) (factor * (36 - t)) sum rest

/-- What is known between two numbers. -/
structure Reading where
  /-- The characters so far. -/
  text : List Char
  /-- The code point that comes next at the earliest. -/
  point : Nat
  /-- The place in the text from which positions are passed. -/
  place : Nat
  /-- The bias of the thresholds. -/
  bias : Nat

/-- Reads the numbers of a text, of which there are `fuel` at most. -/
def readNumbers : Nat → Bool → Reading → List Char → Option (List Char)
  | _, _, r, [] => some r.text
  | 0, _, _, _ => none
  | fuel + 1, first, r, s => do
    let (n, rest) ← readNumber r.bias 36 1 0 s
    let slots := r.text.length + 1
    let place := r.place + n
    let point := r.point + place / slots
    if 0x10FFFF < point then none
    else
      let at_ := place % slots
      readNumbers fuel false
        ⟨r.text.take at_ ++ Text.ofCode point :: r.text.drop at_, point, at_ + 1,
          adapt n slots first⟩ rest

/-- The label of an ASCII form: what stands before the last hyphen is in the label as it is. -/
def decode? (form : List Char) : Option (List Char) :=
  let numbers := (form.reverse.takeWhile (· ≠ '-')).reverse
  let ascii := form.take (form.length - numbers.length - 1)
  readNumbers numbers.length true ⟨ascii, 128, 0, 72⟩ numbers

end CheckDoc.Link.Punycode
