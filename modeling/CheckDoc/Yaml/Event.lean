import CheckDoc.Yaml.Token

/-!
# The structure of a YAML text

`Event.ofTokens` turns tokens into the events of a walk over the documents: nodes in order, each
collection between its start and its end. The walk is a machine whose state says what may come
next, with a stack of the collections around. Where the tokens are faulty, or break off because the
text is, the events before the fault are given with it: no token is looked at before an event needs
it.
-/

namespace CheckDoc.Yaml

/-- What may stand before the content of a node. -/
structure Properties where
  /-- The anchor. -/
  anchor : Option String
  /-- The tag, unless it leaves the kind to the content. -/
  tag : Option String

/-- The kinds of events. -/
inductive EventKind where
  /-- The start of a document. -/
  | documentStart
  /-- The end of a document. -/
  | documentEnd
  /-- An alias. -/
  | alias (name : String)
  /-- A scalar; where `open_` is set and there is no tag, its content decides on its kind. -/
  | scalar (properties : Properties) (value : String) (open_ : Bool)
  /-- The start of a sequence. -/
  | sequenceStart (properties : Properties)
  /-- The start of a mapping. -/
  | mappingStart (properties : Properties)
  /-- The end of a sequence or mapping. -/
  | collectionEnd

/-- An event with its place. -/
structure Event where
  /-- The kind. -/
  kind : EventKind
  /-- Where it starts. -/
  start : Mark

namespace Event

/-- What may come next. The mark is where the collection began. -/
inductive Place where
  /-- A document that may begin without a marker. -/
  | firstDocument
  /-- A further document, or the end. -/
  | nextDocument
  /-- The end of a document. -/
  | documentEnd
  /-- The root of a document after its marker. -/
  | documentContent
  /-- The root of a document without a marker. -/
  | documentRoot
  /-- An entry of an indented sequence. -/
  | blockEntry (since : Mark)
  /-- An entry of a sequence that is not indented further than its key. -/
  | looseEntry
  /-- A key of an indented mapping. -/
  | blockKey (since : Mark)
  /-- A value of an indented mapping. -/
  | blockValue (since : Mark)
  /-- An entry of a sequence in brackets. -/
  | flowEntry (since : Mark) (first : Bool)
  /-- The key of a pair in brackets. -/
  | pairKey (since : Mark)
  /-- The value of a pair in brackets. -/
  | pairValue (since : Mark)
  /-- The end of a pair in brackets. -/
  | pairEnd (since : Mark)
  /-- A key of a mapping in braces. -/
  | flowKey (since : Mark) (first : Bool)
  /-- A value of a mapping in braces. -/
  | flowValue (since : Mark)
  /-- The missing value of a key without a colon. -/
  | flowNoValue (since : Mark)

/-- The state of the machine. -/
structure Machine where
  /-- The tokens ahead. -/
  tokens : List Token
  /-- The fault at which the tokens break off. -/
  fault : Option Fault
  /-- The tag handles in force. -/
  handles : List (String × String)
  /-- What may come next; `none` after the end. -/
  place : Option Place
  /-- What may come after the collection in progress, and so on outwards. -/
  stack : List Place

namespace Machine

/-- The handles that need no declaration. -/
def defaultHandles : List (String × String) := [("!", "!"), ("!!", "tag:yaml.org,2002:")]

/-- The state before the tokens of a text. -/
def start (tokens : List Token) (fault : Option Fault) : Machine :=
  ⟨tokens.drop 1, fault, [], some .firstDocument, []⟩

/-- The token ahead. -/
def head (m : Machine) : Except Fault Token :=
  match m.tokens, m.fault with
  | t :: _, _ => .ok t
  | [], some fault => .error fault
  | [], none => .ok ⟨.streamEnd, ⟨0, 0, 0⟩, ⟨0, 0, 0⟩⟩

/-- Moves over the token ahead. -/
def drop (m : Machine) : Machine := { m with tokens := m.tokens.drop 1 }

/-- Goes on to the given place. -/
def goto (m : Machine) (place : Place) : Machine := { m with place := some place }

/-- Enters a collection after which comes `next`. -/
def enter (m : Machine) (next place : Place) : Machine :=
  { m with place := some place, stack := next :: m.stack }

/-- Leaves a collection. -/
def leave (m : Machine) : Machine := { m with place := m.stack.head?, stack := m.stack.drop 1 }

/-- A missing node at `mark`, after which comes `next`. -/
def missing (m : Machine) (mark : Mark) (next : Place) : Except Fault (Event × Machine) :=
  .ok (⟨.scalar ⟨none, none⟩ "" true, mark⟩, m.goto next)

/-- The anchor and the tag of a node, in either order, with their places. -/
structure Preamble where
  /-- The anchor. -/
  anchor : Option String
  /-- The handle and the suffix of the tag, and its place. -/
  tag : Option (Option String × String × Mark)
  /-- Where the first of the two stands. -/
  start : Option Mark

/-- Reads the properties of a node. -/
def preamble (m : Machine) : Except Fault (Preamble × Machine) := do
  let t ← m.head
  match t.kind with
  | .anchor a =>
    let m := m.drop
    let u ← m.head
    match u.kind with
    | .tag h s => pure (⟨some a, some (h, s, u.start), some t.start⟩, m.drop)
    | _ => pure (⟨some a, none, some t.start⟩, m)
  | .tag h s =>
    let m := m.drop
    let u ← m.head
    match u.kind with
    | .anchor a => pure (⟨some a, some (h, s, t.start), some t.start⟩, m.drop)
    | _ => pure (⟨none, some (h, s, t.start), some t.start⟩, m)
  | _ => pure (⟨none, none, none⟩, m)

/-- The tag that a handle and a suffix stand for. -/
def tagName (m : Machine) (p : Preamble) : Except Fault (Option String) :=
  match p.tag with
  | none => .ok none
  | some (none, suffix, _) => .ok (some suffix)
  | some (some handle, suffix, mark) =>
    match m.handles.find? fun h => h.1 = handle with
    | some (_, pre) => .ok (some (pre ++ suffix))
    | none => .error ⟨p.start.map fun s => (.node, s), .unknownHandle handle, mark⟩

/-- Reads a node, after which comes `next`. Inside indented collections `block` is set, and `loose`
where a sequence need not be indented further. -/
def node (block loose : Bool) (next : Place) (m : Machine) : Except Fault (Event × Machine) := do
  let t ← m.head
  if let .alias name := t.kind then return (⟨.alias name, t.start⟩, m.drop.goto next)
  let (p, m) ← m.preamble
  let name ← m.tagName p
  let t ← m.head
  let start := p.start.getD t.start
  let properties : Properties := ⟨p.anchor, if name = some "!" then none else name⟩
  let isOpen := name.isNone || name = some "!"
  match t.kind, block, loose with
  | .blockEntry, _, true =>
    pure (⟨.sequenceStart properties, start⟩, m.enter next .looseEntry)
  | .scalar value style, _, _ =>
    let isOpen := (style = .plain && name.isNone) || name = some "!"
    pure (⟨.scalar properties value isOpen, start⟩, m.drop.goto next)
  | .flowSequenceStart, _, _ =>
    pure (⟨.sequenceStart properties, start⟩, m.drop.enter next (.flowEntry t.start true))
  | .flowMappingStart, _, _ =>
    pure (⟨.mappingStart properties, start⟩, m.drop.enter next (.flowKey t.start true))
  | .blockSequenceStart, true, _ =>
    pure (⟨.sequenceStart properties, start⟩, m.drop.enter next (.blockEntry t.start))
  | .blockMappingStart, true, _ =>
    pure (⟨.mappingStart properties, start⟩, m.drop.enter next (.blockKey t.start))
  | kind, _, _ =>
    if p.anchor.isSome || name.isSome then
      pure (⟨.scalar properties "" isOpen, start⟩, m.goto next)
    else
      throw ⟨some (if block then .blockNode else .flowNode, start), .contentDue kind.sign, t.start⟩

/-- Reads the directives before a document: the handles and whether there was a version. -/
def directives (m : Machine) (seen : Bool) (handles : List (String × String)) :
    List Token → Except Fault (List (String × String) × Machine)
  | [] => do
    let _ ← m.head
    pure (handles, m)
  | t :: ts =>
    match t.kind with
    | .directive (.version major) =>
      if seen then .error ⟨none, .secondVersion, t.start⟩
      else if major ≠ 1 then .error ⟨none, .otherVersion, t.start⟩
      else directives m.drop true handles ts
    | .directive (.handle name pre) =>
      if handles.any fun h => h.1 = name then .error ⟨none, .secondHandle name, t.start⟩
      else directives m.drop seen (handles ++ [(name, pre)]) ts
    | .directive .other => directives m.drop seen handles ts
    | _ => .ok (handles, m)

/-- Moves over document end markers. -/
def dropEnds (m : Machine) : Machine :=
  { m with tokens := m.tokens.dropWhile fun t => t.kind matches .documentEnd }

/-- The start of a document with a marker; `none` at the end of the text. -/
def nextDocument (m : Machine) : Except Fault (Option Event × Machine) := do
  let m := m.dropEnds
  let t ← m.head
  if let .streamEnd := t.kind then return (none, { m with place := none })
  let (declared, m) ← m.directives false [] m.tokens
  let u ← m.head
  match u.kind with
  | .documentStart =>
    let handles := declared ++ defaultHandles.filter fun h => !declared.any fun d => d.1 = h.1
    pure (some ⟨.documentStart, t.start⟩,
      { m.drop.goto .documentContent with handles })
  | kind => throw ⟨none, .documentStartDue kind.sign, u.start⟩

/-- An entry of a collection, or its end: after the token ahead, if it is a `sign`, comes a node
unless a token of `absent` does. -/
def afterSign (m : Machine) (t : Token) (absent : TokenKind → Bool) (block loose : Bool)
    (next : Place) : Except Fault (Event × Machine) := do
  let m := m.drop
  let u ← m.head
  if absent u.kind then m.missing t.stop next else m.node block loose next

/-- The end of a collection at the token ahead. -/
def close (m : Machine) (t : Token) : Except Fault (Event × Machine) :=
  .ok (⟨.collectionEnd, t.start⟩, m.drop.leave)

/-- The tokens after which a node of an indented mapping is missing. -/
def noBlockNode : TokenKind → Bool
  | .key | .value | .blockEnd => true
  | _ => false

/-- The next event; `none` at the end of the text. -/
def step (m : Machine) (place : Place) : Except Fault (Option Event × Machine) := do
  let one (r : Except Fault (Event × Machine)) : Except Fault (Option Event × Machine) := do
    let (e, m) ← r
    pure (some e, m)
  let t ← m.head
  match place with
  | .firstDocument =>
    match t.kind with
    | .directive _ | .documentStart | .streamEnd => m.nextDocument
    | _ =>
      pure (some ⟨.documentStart, t.start⟩,
        { m.goto .documentRoot with handles := defaultHandles })
  | .nextDocument => m.nextDocument
  | .documentEnd =>
    let m := match t.kind with
      | .documentEnd => m.drop
      | _ => m
    pure (some ⟨.documentEnd, t.start⟩, m.goto .nextDocument)
  | .documentContent =>
    match t.kind with
    | .directive _ | .documentStart | .documentEnd | .streamEnd =>
      one (m.missing t.start .documentEnd)
    | _ => one (m.node true false .documentEnd)
  | .documentRoot => one (m.node true false .documentEnd)
  | .blockEntry since =>
    match t.kind with
    | .blockEntry =>
      one (m.afterSign t (fun | .blockEntry | .blockEnd => true | _ => false) true false place)
    | .blockEnd => one (m.close t)
    | kind => throw ⟨some (.blockSequence, since), .blockEndDue kind.sign, t.start⟩
  | .looseEntry =>
    match t.kind with
    | .blockEntry =>
      one (m.afterSign t (fun k => k matches .blockEntry || noBlockNode k) true false place)
    | _ => pure (some ⟨.collectionEnd, t.start⟩, m.leave)
  | .blockKey since =>
    match t.kind with
    | .key => one (m.afterSign t noBlockNode true true (.blockValue since))
    | .blockEnd => one (m.close t)
    | kind => throw ⟨some (.blockMapping, since), .blockEndDue kind.sign, t.start⟩
  | .blockValue since =>
    match t.kind with
    | .value => one (m.afterSign t noBlockNode true true (.blockKey since))
    | _ => one (m.missing t.start (.blockKey since))
  | .flowEntry since first =>
    let entry (m : Machine) : Except Fault (Option Event × Machine) := do
      let t ← m.head
      match t.kind with
      | .flowSequenceEnd => one (m.close t)
      | .key => pure (some ⟨.mappingStart ⟨none, none⟩, t.start⟩,
          m.enter (.flowEntry since false) (.pairKey since))
      | _ => one (m.node false false (.flowEntry since false))
    match t.kind with
    | .flowSequenceEnd => one (m.close t)
    | .flowEntry => if first then entry m else entry m.drop
    | kind =>
      if first then entry m
      else throw ⟨some (.flowSequence, since), .sequenceDelimiter kind.sign, t.start⟩
  | .pairKey since =>
    one (m.afterSign t (fun | .value | .flowEntry | .flowSequenceEnd => true | _ => false)
      false false (.pairValue since))
  | .pairValue since =>
    match t.kind with
    | .value =>
      one (m.afterSign t (fun | .flowEntry | .flowSequenceEnd => true | _ => false)
        false false (.pairEnd since))
    | _ => one (m.missing t.start (.pairEnd since))
  | .pairEnd _ => pure (some ⟨.collectionEnd, t.start⟩, m.leave)
  | .flowKey since first =>
    let key (m : Machine) : Except Fault (Option Event × Machine) := do
      let t ← m.head
      match t.kind with
      | .flowMappingEnd => one (m.close t)
      | .key =>
        one (m.afterSign t (fun | .value | .flowEntry | .flowMappingEnd => true | _ => false)
          false false (.flowValue since))
      | _ => one (m.node false false (.flowNoValue since))
    match t.kind with
    | .flowMappingEnd => one (m.close t)
    | .flowEntry => if first then key m else key m.drop
    | kind =>
      if first then key m
      else throw ⟨some (.flowMapping, since), .mappingDelimiter kind.sign, t.start⟩
  | .flowValue since =>
    match t.kind with
    | .value =>
      one (m.afterSign t (fun | .flowEntry | .flowMappingEnd => true | _ => false)
        false false (.flowKey since false))
    | _ => one (m.missing t.start (.flowKey since false))
  | .flowNoValue since => one (m.missing t.start (.flowKey since false))

/-- The events of `fuel` steps at most. -/
def run : Nat → Machine → List Event × Option Fault
  | 0, _ => ([], none)
  | fuel + 1, m =>
    match m.place with
    | none => ([], none)
    | some place =>
      match m.step place with
      | .error fault => ([], some fault)
      | .ok (none, _) => ([], none)
      | .ok (some e, next) =>
        let (es, fault) := run fuel next
        (e :: es, fault)

end Machine

/-- The events of tokens that break off with a fault or not. A token gives four events at most. -/
def ofTokens (tokens : List Token) (fault : Option Fault) : List Event × Option Fault :=
  (Machine.start tokens fault).run (4 * tokens.length + 8)

end Event

end CheckDoc.Yaml
