/-!
# Places in a YAML text

Lines end with a line feed, a carriage return, the next-line control or a line or paragraph
separator; a carriage return with the line feed after it is one end. `Mark.snippet` shows the line
of a mark with a caret under its column; of a long line only the surroundings of the caret.
-/

namespace CheckDoc.Yaml

/-- Whether a character ends a line. -/
def isBreak (c : Char) : Bool :=
  c = '\n' || c = '\r' || c = '\x85' || c = '\u2028' || c = '\u2029'

/-- A place in a text. -/
structure Mark where
  /-- The number of characters before it. -/
  index : Nat
  /-- The line, counted from zero. -/
  line : Nat
  /-- The column, counted from zero. -/
  column : Nat
  deriving DecidableEq

namespace Mark

/-- The place after the character `c`, before which it stands and which `next` follows. -/
def step (m : Mark) (c next : Char) : Mark :=
  if isBreak c && !(c = '\r' && next = '\n') then ⟨m.index + 1, m.line + 1, 0⟩
  else if c = '\ufeff' then ⟨m.index + 1, m.line, m.column⟩
  else ⟨m.index + 1, m.line, m.column + 1⟩

/-- How many characters of a line are shown on either side of a mark. -/
def reach : Nat := 36

/-- The line of a mark, cut to the surroundings of the mark, and a caret below. -/
def snippet (m : Mark) (text : List Char) : String :=
  let before := (text.take m.index).reverse.takeWhile fun c => !isBreak c
  let after := (text.drop m.index).takeWhile fun c => !isBreak c
  let cutLeft := reach < before.length
  let cutRight := reach < after.length
  let left := if cutLeft then (before.take (reach + 1 - 5)).reverse else before.reverse
  let right := if cutRight then after.take (reach + 1 - 5) else after
  let head := if cutLeft then " ... " else ""
  let tail := if cutRight then " ... " else ""
  "    " ++ head ++ String.ofList (left ++ right) ++ tail ++ "\n" ++
    String.ofList (List.replicate (4 + left.length + head.length) ' ') ++ "^"

/-- The place and the snippet of a mark, as they stand in a report. -/
def report (m : Mark) (text : List Char) : String :=
  "  in \"<unicode string>\", line " ++ toString (m.line + 1) ++ ", column " ++
    toString (m.column + 1) ++ ":\n" ++ m.snippet text

end Mark

end CheckDoc.Yaml
