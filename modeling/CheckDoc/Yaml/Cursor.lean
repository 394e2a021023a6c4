import CheckDoc.Yaml.Fault

/-!
# Moving through a text

A cursor is the text ahead and its mark. A YAML text holds no NUL, so NUL stands for the end of the
text wherever the character ahead is asked for.
-/

namespace CheckDoc.Yaml

/-- Whether a character ends a line or the text. -/
def endsLine (c : Char) : Bool := c = '\x00' || isBreak c

/-- Whether a character is a space or ends a line or the text. -/
def endsWord (c : Char) : Bool := c = ' ' || endsLine c

/-- Whether a character is a space or a tab or ends a line or the text. -/
def isGap (c : Char) : Bool := c = '\t' || endsWord c

/-- Whether a character may stand in the name of an anchor or a handle. -/
def isNameChar (c : Char) : Bool := c.isAlphanum || c = '-' || c = '_'

/-- The text ahead and where it begins. -/
structure Cursor where
  /-- The text ahead. -/
  rest : List Char
  /-- Its place. -/
  mark : Mark
  /-- The number of characters ahead. -/
  remaining : Nat
  /-- It is that of the text ahead. -/
  remaining_eq : remaining = rest.length

namespace Cursor

/-- The cursor before a text. -/
def ofText (text : List Char) : Cursor := ⟨text, ⟨0, 0, 0⟩, text.length, rfl⟩

/-- The character ahead. -/
def peek (c : Cursor) : Char := c.rest.headD '\x00'

/-- The character `n` places ahead. -/
def peekAt (c : Cursor) (n : Nat) : Char := c.rest.getD n '\x00'

/-- Moves over `n` characters. -/
def skip : Nat → Cursor → Cursor
  | 0, c => c
  | _ + 1, ⟨[], m, k, h⟩ => ⟨[], m, k, h⟩
  | n + 1, ⟨x :: xs, m, k, h⟩ => skip n ⟨xs, m.step x (xs.headD '\x00'), k - 1, by simp [h]⟩

/-- Moves over the characters of a kind. -/
def skipWhile (p : Char → Bool) : Cursor → Cursor
  | ⟨[], m, k, h⟩ => ⟨[], m, k, h⟩
  | ⟨x :: xs, m, k, h⟩ =>
    if p x then skipWhile p ⟨xs, m.step x (xs.headD '\x00'), k - 1, by simp [h]⟩
    else ⟨x :: xs, m, k, h⟩
termination_by c => c.rest.length

/-- Moves over the spaces. -/
def skipSpaces (c : Cursor) : Cursor := c.skipWhile (· = ' ')

/-- Moves over a comment. -/
def skipComment (c : Cursor) : Cursor :=
  if c.peek = '#' then c.skipWhile fun x => !endsLine x else c

/-- Moves over a line end; gives what it stands for, which is a line feed unless it is a line or
paragraph separator. -/
def lineBreak? (c : Cursor) : Option (Char × Cursor) :=
  match c.rest with
  | '\r' :: '\n' :: _ => some ('\n', c.skip 2)
  | x :: _ =>
    if x = '\r' ∨ x = '\n' ∨ x = '\x85' then some ('\n', c.skip 1)
    else if x = '\u2028' ∨ x = '\u2029' then some (x, c.skip 1)
    else none
  | [] => none

/-- Moves over a line end, if there is one. -/
def skipBreak (c : Cursor) : Cursor := (c.lineBreak?.map (·.2)).getD c

/-- Whether a document marker made of `x` is ahead. -/
def atMarker (c : Cursor) (x : Char) : Bool := c.rest.take 3 = [x, x, x] && isGap (c.peekAt 3)

/-- Whether a document marker is ahead. -/
def atDocumentMarker (c : Cursor) : Bool := c.atMarker '-' || c.atMarker '.'

/-- Fails at the cursor. -/
def fail {α : Type} (c : Cursor) (during : Activity) (since : Mark) (problem : Problem) :
    Except Fault α :=
  .error ⟨some (during, since), problem, c.mark⟩

/-- Moves over spaces, comments and line ends; says whether there was a line end. -/
def toNextToken (c : Cursor) (crossed : Bool) : Cursor × Bool :=
  let here := c.skipSpaces.skipComment
  match here.lineBreak? with
  | some (_, next) =>
    if next.remaining < c.remaining then toNextToken next true else (next, true)
  | none => (here, crossed)
termination_by c.remaining

end Cursor

end CheckDoc.Yaml
