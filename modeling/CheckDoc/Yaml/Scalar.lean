import CheckDoc.Yaml.Cursor

/-!
# Scalars in a text

The three forms of a scalar: plain, in quotes, and as a block. Line ends inside the first two fold:
a single one becomes a space, and of several the first is dropped. A folded block folds the same
way, but only between lines that begin with no blank.
-/

namespace CheckDoc.Yaml

namespace Plain

/-- Whether a plain scalar may start ahead. Inside flow collections it may not start with `?` or
`:`. -/
def startsAt (inFlow : Bool) (c : Cursor) : Bool :=
  let x := c.peek
  let indicators :=
    ['-', '?', ':', ',', '[', ']', '\x7b', '\x7d', '#', '&', '*', '!', '|', '>', '\'', '"', '%',
      '@', '`']
  (!isGap x && !indicators.contains x) ||
    (!isGap (c.peekAt 1) && (x = '-' || (!inFlow && (x = '?' || x = ':'))))

/-- Whether a plain scalar ends before `x`, which `next` follows. -/
def endsBefore (inFlow : Bool) (x next : Char) : Bool :=
  isGap x ||
    (x = ':' && (isGap next || (inFlow && [',', '[', ']', '\x7b', '\x7d'].contains next))) ||
    (inFlow && [',', '?', '[', ']', '\x7b', '\x7d'].contains x)

/-- The part of a plain scalar up to the next gap. -/
def word (inFlow : Bool) : List Char → List Char
  | [] => []
  | x :: xs => if endsBefore inFlow x (xs.headD '\x00') then [] else x :: word inFlow xs

/-- The line ends after the first one, over the spaces between them; `none` where a document marker
begins a line. -/
def breaks (c : Cursor) : Option (List Char) × Cursor :=
  let here := c.skipSpaces
  match here.lineBreak? with
  | none => (some [], here)
  | some (b, next) =>
    if next.atDocumentMarker then (none, next)
    else if next.remaining < c.remaining then
      let (more, stop) := breaks next
      (more.map (b :: ·), stop)
    else (some [b], next)
termination_by c.remaining

/-- A gap inside a plain scalar: what it stands for, whether it crosses a line end, and the cursor
after it. A gap that stands for nothing ends the scalar. -/
def gap (c : Cursor) : List Char × Bool × Cursor :=
  let spaces := c.rest.takeWhile (· = ' ')
  let here := c.skipSpaces
  match here.lineBreak? with
  | none => (spaces, false, here)
  | some (b, next) =>
    if next.atDocumentMarker then ([], true, next)
    else
      match breaks next with
      | (none, stop) => ([], true, stop)
      | (some bs, stop) =>
        let first := if b ≠ '\n' then [b] else if bs.isEmpty then [' '] else []
        (first ++ bs, true, stop)

/-- What is read of a plain scalar. -/
structure Result where
  /-- The content. -/
  value : List Char
  /-- Whether the last gap crossed a line end. -/
  crossed : Bool
  /-- The cursor after it. -/
  next : Cursor

/-- Reads a plain scalar from a word on; `between` is the gap before it, and lines in block style
are indented by `indent` at least. -/
def scan (inFlow : Bool) (indent : Nat) (between : List Char) (crossed : Bool) (c : Cursor) :
    Result :=
  let w := if c.peek = '#' then [] else word inFlow c.rest
  if w.isEmpty then ⟨[], crossed, c⟩
  else
    let (space, line, next) := gap (c.skip w.length)
    if space.isEmpty || next.peek = '#' || (!inFlow && next.mark.column < indent) then
      ⟨between ++ w, line, next⟩
    else if next.remaining < c.remaining then
      let more := scan inFlow indent space line next
      ⟨between ++ w ++ more.value, more.crossed, more.next⟩
    else ⟨between ++ w, line, next⟩
termination_by c.remaining

end Plain

namespace Quoted

/-- The character that a letter after a backslash stands for. -/
def escape? (c : Char) : Option Char :=
  match c with
  | '0' => some '\x00'
  | 'a' => some '\x07'
  | 'b' => some '\x08'
  | 't' => some '\t'
  | '\t' => some '\t'
  | 'n' => some '\n'
  | 'v' => some '\x0b'
  | 'f' => some '\x0c'
  | 'r' => some '\r'
  | 'e' => some '\x1b'
  | ' ' => some ' '
  | '"' => some '"'
  | '\\' => some '\\'
  | '/' => some '/'
  | 'N' => some '\x85'
  | '_' => some '\xa0'
  | 'L' => some '\u2028'
  | 'P' => some '\u2029'
  | _ => none

/-- The number of hexadecimal digits after a letter. -/
def escapeWidth? (c : Char) : Option Nat :=
  if c = 'x' then some 2 else if c = 'u' then some 4 else if c = 'U' then some 8 else none

/-- The line ends after the first one, over the blanks between them. -/
def breaks (since : Mark) (c : Cursor) : Except Fault (List Char × Cursor) :=
  if c.atDocumentMarker then c.fail .quotedScalar since .markerInQuotes
  else
    let here := c.skipWhile fun x => x = ' ' || x = '\t'
    match here.lineBreak? with
    | none => .ok ([], here)
    | some (b, next) =>
      if next.remaining < c.remaining then do
        let (more, stop) ← breaks since next
        pure (b :: more, stop)
      else .ok ([b], next)
termination_by c.remaining

/-- A gap inside quotes: blanks, or the line ends that fold. -/
def gap (since : Mark) (c : Cursor) : Except Fault (List Char × Cursor) :=
  let blanks := c.rest.takeWhile fun x => x = ' ' || x = '\t'
  let here := c.skipWhile fun x => x = ' ' || x = '\t'
  match here.lineBreak? with
  | some (b, next) => do
    let (bs, stop) ← breaks since next
    let first := if b ≠ '\n' then [b] else if bs.isEmpty then [' '] else []
    pure (first ++ bs, stop)
  | none =>
    if here.rest.isEmpty then here.fail .quotedScalar since .openQuote
    else .ok (blanks, here)

/-- The character or line end that a backslash ahead escapes. -/
def escape (since : Mark) (c : Cursor) : Except Fault (List Char × Cursor) :=
  let here := c.skip 1
  let x := here.peek
  match escape? x with
  | some y => .ok ([y], here.skip 1)
  | none =>
    match escapeWidth? x with
    | some width =>
      let digits := here.skip 1
      let valid := (digits.rest.take width).takeWhile Text.isHexDigit
      if valid.length = width then
        match NumberFault.ofCode? (Text.hexValue valid) with
        | none => .ok ([Text.ofCode (Text.hexValue valid)], digits.skip width)
        | some f => digits.fail .doubleQuoted since (.number f)
      else digits.fail .doubleQuoted since (.escapeDigits width (digits.peekAt valid.length))
    | none =>
      match here.lineBreak? with
      | some (_, next) => breaks since next
      | none => here.fail .doubleQuoted since (.unknownEscape x)

/-- Reads the content of a scalar in quotes up to the closing quote. -/
def scan (double : Bool) (since : Mark) (c : Cursor) : Except Fault (List Char × Cursor) := do
  let x := c.peek
  let (piece, next) ←
    if double && x = '"' then pure ([], c)
    else if !double && x = '\'' then
      if c.peekAt 1 = '\'' then pure (['\''], c.skip 2) else pure ([], c)
    else if double && x = '\\' then escape since c
    else if isGap x then gap since c
    else
      let run := c.rest.takeWhile fun y => !(isGap y || y = '\'' || y = '"' || y = '\\')
      if run.isEmpty then pure ([x], c.skip 1) else pure (run, c.skip run.length)
  if next.remaining < c.remaining then
    let (more, stop) ← scan double since next
    pure (piece ++ more, stop)
  else pure (piece, next)
termination_by c.remaining

end Quoted

namespace Block

/-- What a block scalar does with the line ends at its end. -/
inductive Chomping where
  /-- One is kept. -/
  | clip
  /-- None is kept. -/
  | strip
  /-- All are kept. -/
  | keep
  deriving DecidableEq

/-- The chomping that a sign ahead asks for. -/
def chomping? (c : Cursor) : Option Chomping :=
  if c.peek = '+' then some .keep else if c.peek = '-' then some .strip else none

/-- The indentation that a digit ahead asks for. -/
def indicator? (since : Mark) (c : Cursor) : Except Fault (Option Nat) :=
  if c.peek.isDigit then
    if c.peek = '0' then c.fail .blockScalar since .zeroIndicator
    else .ok (some (c.peek.toNat - '0'.toNat))
  else .ok none

/-- Reads the indicators of a block scalar, in either order. -/
def header (since : Mark) (c : Cursor) : Except Fault (Chomping × Option Nat × Cursor) := do
  let (chomping, increment, next) ← (do
    match chomping? c with
    | some chomping =>
      let here := c.skip 1
      match ← indicator? since here with
      | some n => pure (chomping, some n, here.skip 1)
      | none => pure (chomping, none, here)
    | none =>
      match ← indicator? since c with
      | some n =>
        let here := c.skip 1
        match chomping? here with
        | some chomping => pure (chomping, some n, here.skip 1)
        | none => pure (.clip, some n, here)
      | none => pure (.clip, none, c))
  if endsWord next.peek then pure (chomping, increment, next)
  else next.fail .blockScalar since (.indicatorDue next.peek)

/-- Moves over the rest of the line of the indicators. -/
def headerEnd (since : Mark) (c : Cursor) : Except Fault Cursor :=
  let here := c.skipSpaces.skipComment
  if endsLine here.peek then .ok here.skipBreak
  else here.fail .blockScalar since (.lineEndDue here.peek)

/-- The line ends before the first line with content, and the greatest column that spaces reach. -/
def leading (width : Nat) (c : Cursor) : List Char × Nat × Cursor :=
  let here := c.skipSpaces
  let width := if here.remaining < c.remaining then max width here.mark.column else width
  match here.lineBreak? with
  | none => ([], width, here)
  | some (b, next) =>
    if next.remaining < c.remaining then
      let (more, widest, stop) := leading width next
      (b :: more, widest, stop)
    else ([b], width, next)
termination_by c.remaining

/-- Moves over the spaces before column `indent`. -/
def skipIndent (indent : Nat) (c : Cursor) : Cursor :=
  c.skip ((c.rest.takeWhile (· = ' ')).take (indent - c.mark.column)).length

/-- The line ends ahead, over the indentation after each. -/
def breaks (indent : Nat) (c : Cursor) : List Char × Cursor :=
  let here := skipIndent indent c
  match here.lineBreak? with
  | none => ([], here)
  | some (b, next) =>
    if next.remaining < c.remaining then
      let (more, stop) := breaks indent next
      (b :: more, stop)
    else ([b], next)
termination_by c.remaining

/-- Reads the lines of a block scalar, of which `before` are the line ends ahead of the next one. -/
def lines (folded : Bool) (chomping : Chomping) (indent : Nat) (before : List Char) (c : Cursor) :
    List Char × Cursor :=
  let spaced (x : Char) : Bool := x = ' ' || x = '\t'
  let line := c.rest.takeWhile fun x => !endsLine x
  let here := c.skip line.length
  let (ended, next) := match here.lineBreak? with
    | some (b, next) => ([b], next)
    | none => ([], here)
  let (bs, stop) := breaks indent next
  let goesOn := stop.mark.column = indent && !stop.rest.isEmpty
  if goesOn ∧ stop.remaining < c.remaining then
    let joint :=
      if folded && ended = ['\n'] && !spaced c.peek && !spaced stop.peek then
        if bs.isEmpty then [' '] else []
      else ended
    let (more, last) := lines folded chomping indent bs stop
    (before ++ line ++ joint ++ more, last)
  else
    let tail := match chomping with
      | .clip => ended
      | .strip => []
      | .keep => ended ++ bs
    (before ++ line ++ tail, stop)
termination_by c.remaining
decreasing_by exact And.right (by assumption)

/-- Reads a block scalar after its sign; `parent` is the indentation of the collection around it,
counted from one. -/
def scan (folded : Bool) (parent : Nat) (since : Mark) (c : Cursor) :
    Except Fault (List Char × Cursor) := do
  let (chomping, increment, next) ← header since c
  let start ← headerEnd since next
  let least := max parent 1
  let (before, indent, first) := match increment with
    | none =>
      let (bs, width, first) := leading 0 start
      (bs, max least width, first)
    | some n =>
      let indent := least + n - 1
      let (bs, first) := breaks indent start
      (bs, indent, first)
  if first.mark.column = indent && !first.rest.isEmpty then
    pure (lines folded chomping indent before first)
  else pure (if chomping = .keep then before else [], first)

end Block

end CheckDoc.Yaml
