import CheckDoc.Yaml.Scalar

/-!
# Tokens of YAML

`Token.scan` cuts a text into tokens. Block collections have no brackets in the text: their start
and end tokens come from the indentation. A mapping key is noticed only at its colon, so the place
of each token that may turn out to begin a key is kept, and the key token is put in front of it
then. A key must stand on one line and within 1024 characters.

Where the text is faulty, the scan gives the fault with the tokens before it. A token that may
still turn out to begin a key is not among them, nor any token after it.
-/

namespace CheckDoc.Yaml

/-- How a scalar is written. -/
inductive Style where
  /-- Without quotes. -/
  | plain
  /-- In quotes or as a block. -/
  | marked
  deriving DecidableEq

/-- A directive. -/
inductive Directive where
  /-- The version of the format. -/
  | version (major : Nat)
  /-- A handle for tags. -/
  | handle (name pre : String)
  /-- Any other. -/
  | other
  deriving DecidableEq

/-- The kinds of tokens. -/
inductive TokenKind where
  /-- The start of the text. -/
  | streamStart
  /-- The end of the text. -/
  | streamEnd
  /-- A directive. -/
  | directive (d : Directive)
  /-- The marker `---`. -/
  | documentStart
  /-- The marker `...`. -/
  | documentEnd
  /-- The start of an indented sequence. -/
  | blockSequenceStart
  /-- The start of an indented mapping. -/
  | blockMappingStart
  /-- The end of an indented collection. -/
  | blockEnd
  /-- An opening bracket. -/
  | flowSequenceStart
  /-- An opening brace. -/
  | flowMappingStart
  /-- A closing bracket. -/
  | flowSequenceEnd
  /-- A closing brace. -/
  | flowMappingEnd
  /-- The start of a key. -/
  | key
  /-- The start of a value. -/
  | value
  /-- The dash of an entry. -/
  | blockEntry
  /-- The comma of an entry. -/
  | flowEntry
  /-- An alias. -/
  | alias (name : String)
  /-- An anchor. -/
  | anchor (name : String)
  /-- A tag: its handle, unless it is verbatim, and the rest. -/
  | tag (handle : Option String) (suffix : String)
  /-- A scalar. -/
  | scalar (value : String) (style : Style)
  deriving DecidableEq

/-- The sign of a kind in reports. -/
def TokenKind.sign : TokenKind → String
  | .streamStart => "<stream start>"
  | .streamEnd => "<stream end>"
  | .directive _ => "<directive>"
  | .documentStart => "<document start>"
  | .documentEnd => "<document end>"
  | .blockSequenceStart => "<block sequence start>"
  | .blockMappingStart => "<block mapping start>"
  | .blockEnd => "<block end>"
  | .flowSequenceStart => "["
  | .flowMappingStart => "\x7b"
  | .flowSequenceEnd => "]"
  | .flowMappingEnd => "\x7d"
  | .key => "?"
  | .value => ":"
  | .blockEntry => "-"
  | .flowEntry => ","
  | .alias _ => "<alias>"
  | .anchor _ => "<anchor>"
  | .tag _ _ => "<tag>"
  | .scalar _ _ => "<scalar>"

/-- A token with its place. -/
structure Token where
  /-- The kind. -/
  kind : TokenKind
  /-- Where it starts. -/
  start : Mark
  /-- Where it ends. -/
  stop : Mark
  deriving DecidableEq

namespace Token

/-! ## Names, tags and directives -/

/-- Reads the name of an alias or anchor after its sign. -/
def name (during : Activity) (since : Mark) (c : Cursor) : Except Fault (String × Cursor) :=
  let n := c.rest.takeWhile isNameChar
  let next := c.skip n.length
  let closers := ['?', ':', ',', ']', '\x7d', '%', '@', '`']
  if n.isEmpty then c.fail during since (.nameCharacter c.peek)
  else if isGap next.peek || closers.contains next.peek then .ok (String.ofList n, next)
  else next.fail during since (.nameCharacter next.peek)

/-- Whether a character may stand in the address of a tag. -/
def isAddressChar (c : Char) : Bool :=
  c.isAlphanum || "-;/?:@&=+$,_.!~*'()[]%".toList.contains c

/-- Reads escaped octets of an address: a percent sign and two digits for each. -/
def octets (during : Activity) (since : Mark) (c : Cursor) :
    Except Fault (List UInt8 × Cursor) :=
  if c.peek = '%' then
    let digits := c.skip 1
    let valid := (digits.rest.take 2).takeWhile Text.isHexDigit
    let next := digits.skip 2
    if valid.length = 2 then
      if next.remaining < c.remaining then do
        let (more, stop) ← octets during since next
        pure ((Text.hexValue valid).toUInt8 :: more, stop)
      else .ok ([], next)
    else digits.fail during since (.addressEscape (digits.peekAt valid.length))
  else .ok ([], c)
termination_by c.remaining

/-- Reads the address of a tag; `parts` is the activity that a missing address is reported
under. -/
def addressFrom (during : Activity) (since : Mark) (c : Cursor) :
    Except Fault (List Char × Cursor) :=
  let run := c.rest.takeWhile fun x => isAddressChar x && x ≠ '%'
  let here := c.skip run.length
  if here.peek = '%' then do
    let (bytes, next) ← octets during since here
    match Text.decodeUtf8 bytes with
    | .error fault => here.fail during since (.addressOctets fault.message)
    | .ok piece =>
      if next.remaining < c.remaining then
        let (more, stop) ← addressFrom during since next
        pure (run ++ piece.toList ++ more, stop)
      else pure (run ++ piece.toList, next)
  else .ok (run, here)
termination_by c.remaining

/-- Reads an address, which may not be empty. -/
def address (during parts : Activity) (since : Mark) (c : Cursor) :
    Except Fault (String × Cursor) := do
  let (s, next) ← addressFrom during since c
  if next.mark.index = c.mark.index then next.fail parts since (.addressDue next.peek)
  else pure (String.ofList s, next)

/-- Reads the handle of a tag: an exclamation mark, or a name between two. -/
def handle (during : Activity) (since : Mark) (c : Cursor) : Except Fault (String × Cursor) :=
  if c.peek ≠ '!' then c.fail during since (.handleMark c.peek)
  else if c.peekAt 1 = ' ' then .ok ("!", c.skip 1)
  else
    let n := (c.rest.drop 1).takeWhile isNameChar
    let next := c.skip (n.length + 1)
    if next.peek = '!' then .ok (String.ofList ('!' :: n ++ ['!']), next.skip 1)
    else next.fail during since (.handleMark next.peek)

/-- Reads a tag. -/
def tag (c : Cursor) : Except Fault (TokenKind × Cursor) := do
  let since := c.mark
  let next := c.peekAt 1
  let (kind, stop) ← (do
    if next = '<' then
      let (suffix, here) ← address .tag .tagParts since (c.skip 2)
      if here.peek = '>' then pure (TokenKind.tag none suffix, here.skip 1)
      else here.fail .tagParts since (.verbatimEnd here.peek)
    else if isGap next then pure (TokenKind.tag none "!", c.skip 1)
    else
      let ahead := (c.rest.drop 1).takeWhile fun x => !endsWord x
      if ahead.contains '!' then
        let (h, here) ← handle .tag since c
        let (suffix, here) ← address .tag .tagParts since here
        pure (TokenKind.tag (some h) suffix, here)
      else
        let (suffix, here) ← address .tag .tagParts since (c.skip 1)
        pure (TokenKind.tag (some "!") suffix, here))
  if endsWord stop.peek then pure (kind, stop)
  else stop.fail .tag since (.blankDue stop.peek)

/-- Reads a number of a version. -/
def versionNumber (since : Mark) (c : Cursor) : Except Fault (Nat × Cursor) :=
  let digits := c.rest.takeWhile Char.isDigit
  if digits.isEmpty then c.fail .directive since (.versionDigit c.peek)
  else
    match NumberFault.ofVersion? digits with
    | some f => c.fail .directive since (.number f)
    | none => .ok (Nat.ofDigitChars 10 digits 0, c.skip digits.length)

/-- Reads a directive from its percent sign to the end of its line. -/
def directive (c : Cursor) : Except Fault (Directive × Cursor) := do
  let since := c.mark
  let start := c.skip 1
  let word := start.rest.takeWhile isNameChar
  let here := start.skip word.length
  if word.isEmpty then start.fail .directive since (.nameCharacter start.peek)
  if !endsWord here.peek then here.fail .directive since (.nameCharacter here.peek)
  let (d, next) ← (do
    if word = ['Y', 'A', 'M', 'L'] then
      let (major, point) ← versionNumber since here.skipSpaces
      if point.peek ≠ '.' then point.fail .directive since (.versionPoint point.peek)
      let (_, stop) ← versionNumber since (point.skip 1)
      if !endsWord stop.peek then stop.fail .directive since (.versionEnd stop.peek)
      pure (Directive.version major, stop)
    else if word = ['T', 'A', 'G'] then
      let (h, gap) ← handle .directive since here.skipSpaces
      if gap.peek ≠ ' ' then gap.fail .directive since (.blankDue gap.peek)
      let (p, stop) ← address .directive .directiveParts since gap.skipSpaces
      if !endsWord stop.peek then stop.fail .directive since (.blankDue stop.peek)
      pure (Directive.handle h p, stop)
    else pure (Directive.other, here.skipWhile fun x => !endsLine x))
  let rest := next.skipSpaces.skipComment
  if endsLine rest.peek then pure (d, rest.skipBreak)
  else rest.fail .directive since (.lineEndDue rest.peek)

/-! ## The scan -/

/-- A place where a key may have begun. -/
structure KeyPlace where
  /-- The number of tokens before it. -/
  before : Nat
  /-- Whether a key has to begin there. -/
  due : Bool
  /-- The place in the text. -/
  mark : Mark

/-- The state of a scan. -/
structure State where
  /-- The text ahead. -/
  cursor : Cursor
  /-- The tokens so far, the last one first. -/
  tokens : List Token
  /-- The number of them. -/
  count : Nat
  /-- Whether the end of the text is among them. -/
  finished : Bool
  /-- How many flow collections are open. -/
  depth : Nat
  /-- The column of the open block collection, counted from one; zero where there is none. -/
  indent : Nat
  /-- The columns of the block collections around it. -/
  outer : List Nat
  /-- Whether a key may begin here. -/
  keyAllowed : Bool
  /-- Where keys may have begun, by the number of flow collections open there. -/
  keys : List (Nat × KeyPlace)

namespace State

/-- The state before a text. -/
def ofText (text : List Char) : State :=
  let c := Cursor.ofText text
  ⟨c, [⟨.streamStart, c.mark, c.mark⟩], 1, false, 0, 0, [], true, []⟩

/-- Adds a token that ends before `next`. -/
def push (s : State) (kind : TokenKind) (next : Cursor) : State :=
  { s with
    cursor := next
    tokens := ⟨kind, s.cursor.mark, next.mark⟩ :: s.tokens
    count := s.count + 1 }

/-- Adds a token that takes `n` characters. -/
def pushSign (s : State) (kind : TokenKind) (n : Nat) : State := s.push kind (s.cursor.skip n)

/-- Puts a token without characters at a key place. -/
def insert (s : State) (kind : TokenKind) (k : KeyPlace) : State :=
  let after := s.count - k.before
  { s with
    tokens := s.tokens.take after ++ ⟨kind, k.mark, k.mark⟩ :: s.tokens.drop after
    count := s.count + 1 }

/-- Drops a key place; fails where a key had to begin. -/
def dropKey (s : State) (level : Nat) : Except Fault State :=
  match s.keys.find? fun k => k.1 = level with
  | some (_, k) =>
    if k.due then s.cursor.fail .simpleKey k.mark .missingColon
    else .ok { s with keys := s.keys.filter fun k => k.1 ≠ level }
  | none => .ok s

/-- Whether a key that began at `k` can no longer end here. -/
def isPast (s : State) (k : KeyPlace) : Bool :=
  k.mark.line ≠ s.cursor.mark.line || 1024 < s.cursor.mark.index - k.mark.index

/-- Drops the key places that lie too far back; fails where a key had to begin at one of them. -/
def dropPast (s : State) : Except Fault State :=
  match s.keys.find? fun k => s.isPast k.2 && k.2.due with
  | some (_, k) => s.cursor.fail .simpleKey k.mark .missingColon
  | none => .ok { s with keys := s.keys.filter fun k => !s.isPast k.2 }

/-- Notes that a key may begin here. -/
def markKey (s : State) : Except Fault State :=
  if s.keyAllowed then do
    let due := s.depth = 0 && s.indent = s.cursor.mark.column + 1
    let t ← s.dropKey s.depth
    pure { t with keys := t.keys ++ [(t.depth, ⟨t.count, due, t.cursor.mark⟩)] }
  else .ok s

/-- Closes the block collections that are indented further than `column`, counted from one. -/
def closeBlocks (column : Nat) : List Nat → State → State
  | [], s => s
  | outer :: more, s =>
    if column < s.indent then
      closeBlocks column more ({ s with indent := outer, outer := more }.pushSign .blockEnd 0)
    else s

/-- Closes the block collections that are indented further than `column`, unless a flow collection
is open. -/
def unwind (s : State) (column : Nat) : State :=
  if s.depth = 0 then closeBlocks column s.outer s else s

/-- Whether a block collection at `column`, counted from one, would be further in. -/
def opensBlock (s : State) (column : Nat) : Bool := s.depth = 0 && s.indent < column

/-- Enters a block collection at `column`. -/
def enter (s : State) (column : Nat) : State :=
  { s with indent := column, outer := s.indent :: s.outer }

/-- The start of a flow collection. -/
def openFlow (s : State) (kind : TokenKind) : Except Fault State := do
  let t ← s.markKey
  pure { t.pushSign kind 1 with depth := t.depth + 1, keyAllowed := true }

/-- The end of a flow collection. -/
def closeFlow (s : State) (kind : TokenKind) : Except Fault State := do
  let t ← s.dropKey s.depth
  pure { t.pushSign kind 1 with depth := t.depth - 1, keyAllowed := false }

/-- The dash of an entry or the sign of an explicit key. -/
def openEntry (s : State) (start sign : TokenKind) (refused : Problem) (keyAllowed : Bool) :
    Except Fault State := do
  if s.depth = 0 && !s.keyAllowed then throw ⟨none, refused, s.cursor.mark⟩
  let column := s.cursor.mark.column + 1
  let t := if s.opensBlock column then (s.enter column).pushSign start 0 else s
  let t ← t.dropKey t.depth
  pure { t.pushSign sign 1 with keyAllowed }

/-- The colon of a value. -/
def openValue (s : State) : Except Fault State :=
  match s.keys.find? fun k => k.1 = s.depth with
  | some (_, k) =>
    let t := { s with keys := s.keys.filter fun k => k.1 ≠ s.depth }.insert .key k
    let column := k.mark.column + 1
    let t := if t.opensBlock column then (t.enter column).insert .blockMappingStart k else t
    .ok { t.pushSign .value 1 with keyAllowed := false }
  | none => s.openEntry .blockMappingStart .value .valueNotAllowed (s.depth = 0)

/-- A token that may begin a key, and after which none begins. -/
def pushNode (s : State) (read : Cursor → Except Fault (TokenKind × Cursor)) :
    Except Fault State := do
  let t ← s.markKey
  let (kind, next) ← read t.cursor
  pure { t.push kind next with keyAllowed := false }

/-- A marker or directive, which closes all block collections. -/
def pushTop (s : State) (read : Cursor → Except Fault (TokenKind × Cursor)) :
    Except Fault State := do
  let t ← (s.unwind 0).dropKey s.depth
  let (kind, next) ← read t.cursor
  pure { t.push kind next with keyAllowed := false }

/-- A plain scalar. -/
def pushPlain (s : State) : Except Fault State := do
  let t ← s.markKey
  let r := Plain.scan (t.depth ≠ 0) t.indent [] false t.cursor
  pure { t.push (.scalar (String.ofList r.value) .plain) r.next with keyAllowed := r.crossed }

/-- A block scalar. -/
def pushBlock (s : State) (folded : Bool) : Except Fault State := do
  let t ← s.dropKey s.depth
  let (value, next) ← Block.scan folded t.indent t.cursor.mark (t.cursor.skip 1)
  pure { t.push (.scalar (String.ofList value) .marked) next with keyAllowed := true }

/-- Reads a scalar in quotes. -/
def quotedScalar (double : Bool) (c : Cursor) : Except Fault (TokenKind × Cursor) := do
  let (value, next) ← Quoted.scan double c.mark (c.skip 1)
  pure (.scalar (String.ofList value) .marked, next.skip 1)

/-- Moves over what stands before the next token. -/
def toToken (s : State) : State :=
  let c := if s.cursor.mark.index = 0 && s.cursor.peek = '\ufeff' then s.cursor.skip 1 else s.cursor
  let (next, crossed) := c.toNextToken false
  { s with cursor := next, keyAllowed := s.keyAllowed || (crossed && s.depth = 0) }

/-- The tokens that the next characters of the text make. -/
def next (s : State) : Except Fault State := do
  let s ← s.toToken.dropPast
  let s := s.unwind (s.cursor.mark.column + 1)
  let c := s.cursor
  let x := c.peek
  let inFlow := s.depth ≠ 0
  let gapNext := isGap (c.peekAt 1)
  if c.rest.isEmpty then
    let t ← (s.unwind 0).dropKey s.depth
    pure { t.pushSign .streamEnd 0 with keyAllowed := false, keys := [], finished := true }
  else if x = '%' && c.mark.column = 0 then
    s.pushTop fun c => do
      let (d, next) ← directive c
      pure (.directive d, next)
  else if c.mark.column = 0 && c.atMarker '-' then
    s.pushTop fun c => pure (.documentStart, c.skip 3)
  else if c.mark.column = 0 && c.atMarker '.' then
    s.pushTop fun c => pure (.documentEnd, c.skip 3)
  else if x = '[' then s.openFlow .flowSequenceStart
  else if x = '\x7b' then s.openFlow .flowMappingStart
  else if x = ']' then s.closeFlow .flowSequenceEnd
  else if x = '\x7d' then s.closeFlow .flowMappingEnd
  else if x = ',' then
    let t ← { s with keyAllowed := true }.dropKey s.depth
    pure (t.pushSign .flowEntry 1)
  else if x = '-' && gapNext then
    s.openEntry .blockSequenceStart .blockEntry .entryNotAllowed true
  else if x = '?' && (inFlow || gapNext) then
    s.openEntry .blockMappingStart .key .keyNotAllowed (!inFlow)
  else if x = ':' && (inFlow || gapNext) then s.openValue
  else if x = '*' then
    s.pushNode fun c => do
      let (n, next) ← name .alias c.mark (c.skip 1)
      pure (.alias n, next)
  else if x = '&' then
    s.pushNode fun c => do
      let (n, next) ← name .anchor c.mark (c.skip 1)
      pure (.anchor n, next)
  else if x = '!' then s.pushNode tag
  else if x = '|' && !inFlow then s.pushBlock false
  else if x = '>' && !inFlow then s.pushBlock true
  else if x = '\'' then s.pushNode (quotedScalar false)
  else if x = '"' then s.pushNode (quotedScalar true)
  else if Plain.startsAt inFlow c then s.pushPlain
  else c.fail .nextToken c.mark (.noToken x)

/-- As `next`, with the key places that lie too far back dropped right away. -/
def step (s : State) : Except Fault State := do
  let t ← s.next
  if t.finished then pure t else t.dropPast

/-- The number of tokens that no later character can change. -/
def settled (s : State) : Nat :=
  s.keys.foldl (fun n k => min n k.2.before) s.count

/-- Goes on to the end of the text or to a fault. -/
def run (s : State) : List Token × Option Fault :=
  match s.step with
  | .error fault => ((s.tokens.drop (s.count - s.settled)).reverse, some fault)
  | .ok t =>
    if t.finished then (t.tokens.reverse, none)
    else if t.cursor.remaining < s.cursor.remaining then run t
    else (t.tokens.reverse, none)
termination_by s.cursor.remaining

end State

/-- The tokens of a text up to its end or to a fault. -/
def scan (text : List Char) : List Token × Option Fault := (State.ofText text).run

end Token

end CheckDoc.Yaml
