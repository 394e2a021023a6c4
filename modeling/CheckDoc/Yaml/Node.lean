import CheckDoc.Yaml.Event
import CheckDoc.Yaml.Tag

/-!
# Nodes

The tree of a document, each node with its tag and its place. An alias is the node with its anchor,
at the place of that node. A collection may hold an alias of itself; the tree is then unrolled a
few levels, further than any reader of this library goes down.
-/

namespace CheckDoc.Yaml

/-- A node of a document. -/
inductive Node where
  /-- A scalar with its content. -/
  | scalar (tag : Tag) (value : String) (mark : Mark)
  /-- A sequence. -/
  | sequence (tag : Tag) (items : List Node) (mark : Mark)
  /-- A mapping with its keys and values in order. -/
  | mapping (tag : Tag) (entries : List (Node × Node)) (mark : Mark)

/-- A document: its root, and the nodes in it with anchors, each after those that it holds. -/
structure Document where
  /-- The root. -/
  root : Node
  /-- The nodes with anchors. -/
  anchored : List Node

namespace Node

/-- Where a node starts. -/
def mark : Node → Mark
  | scalar _ _ m => m
  | sequence _ _ m => m
  | mapping _ _ m => m

/-- The tag of a node. -/
def tag : Node → Tag
  | scalar t _ _ => t
  | sequence t _ _ => t
  | mapping t _ _ => t

/-- The name of the kind of a node. -/
def kindName : Node → String
  | scalar _ _ _ => "scalar"
  | sequence _ _ _ => "sequence"
  | mapping _ _ _ => "mapping"

/-- A collection in progress. -/
structure Frame where
  /-- Whether it is a mapping. -/
  isMapping : Bool
  /-- Its tag, if the text gives one. -/
  tag : Option String
  /-- Its anchor. -/
  anchor : Option String
  /-- Its place. -/
  mark : Mark
  /-- The nodes in it, the last one first. -/
  children : List Node

/-- Nodes in pairs. -/
def pairUp : List Node → List (Node × Node)
  | k :: v :: more => (k, v) :: pairUp more
  | _ => []

/-- The node of a collection. -/
def Frame.node (f : Frame) : Node :=
  if f.isMapping then .mapping ((f.tag.map Tag.ofName).getD .map) (pairUp f.children.reverse) f.mark
  else .sequence ((f.tag.map Tag.ofName).getD .seq) f.children.reverse f.mark

/-- The state of reading nodes from events. -/
structure Builder where
  /-- The collections in progress, the innermost first. -/
  frames : List Frame
  /-- The nodes with anchors so far. -/
  anchors : List (String × Node)
  /-- The root of the document, once it is complete. -/
  root : Option Node

namespace Builder

/-- Adds a node to the innermost collection, or as the root. -/
def add (b : Builder) (n : Node) : Builder :=
  match b.frames with
  | [] => { b with root := some n }
  | f :: fs => { b with frames := { f with children := n :: f.children } :: fs }

/-- Notes the anchor of a node. -/
def note (b : Builder) (anchor : Option String) (n : Node) : Builder :=
  match anchor with
  | none => b
  | some a => { b with anchors := b.anchors ++ [(a, n)] }

/-- The place of the node that has an anchor already. -/
def anchored? (b : Builder) (a : String) : Option Mark :=
  match b.anchors.find? fun e => e.1 = a with
  | some (_, n) => some n.mark
  | none => (b.frames.find? fun f => f.anchor = some a).map (·.mark)

/-- Fails where an anchor is taken. -/
def checkAnchor (b : Builder) (anchor : Option String) (m : Mark) : Except Fault Unit :=
  match anchor with
  | none => .ok ()
  | some a =>
    match b.anchored? a with
    | some first => .error ⟨some (.anchored a, first), .secondAnchor, m⟩
    | none => .ok ()

/-- The node that an alias stands for; `known` has the collections that an earlier reading of the
same events completed. -/
def lookup? (b : Builder) (known : List (String × Node)) (a : String) : Option Node :=
  match b.anchors.find? fun e => e.1 = a with
  | some (_, n) => some n
  | none =>
    match b.frames.find? fun f => f.anchor = some a with
    | none => none
    | some f =>
      match known.find? fun e => e.1 = a with
      | some (_, n) => some n
      | none => some { f with children := [] }.node

/-- The state after one more event. -/
def step (known : List (String × Node)) (b : Builder) (e : Event) : Except Fault Builder :=
  match e.kind with
  | .documentStart =>
    match b.root with
    | some root => .error ⟨some (.document, root.mark), .secondDocument, e.start⟩
    | none => .ok b
  | .documentEnd => .ok b
  | .alias a =>
    match b.lookup? known a with
    | some n => .ok (b.add n)
    | none => .error ⟨none, .unknownAlias a, e.start⟩
  | .scalar p value isOpen => do
    b.checkAnchor p.anchor e.start
    let tag := match p.tag with
      | some name => Tag.ofName name
      | none => if isOpen then Content.tagOf value else .str
    let n := Node.scalar tag value e.start
    pure ((b.note p.anchor n).add n)
  | .sequenceStart p => do
    b.checkAnchor p.anchor e.start
    pure { b with frames := ⟨false, p.tag, p.anchor, e.start, []⟩ :: b.frames }
  | .mappingStart p => do
    b.checkAnchor p.anchor e.start
    pure { b with frames := ⟨true, p.tag, p.anchor, e.start, []⟩ :: b.frames }
  | .collectionEnd =>
    match b.frames with
    | [] => .ok b
    | f :: fs => .ok (({ b with frames := fs }.note f.anchor f.node).add f.node)

/-- The state after the events. -/
def run (known : List (String × Node)) (events : List Event) : Except Fault Builder :=
  events.foldlM (step known) ⟨[], [], none⟩

/-- Reads the events again, `n` times, with the collections that the reading before completed. -/
def unroll (events : List Event) : Nat → Builder → Except Fault Builder
  | 0, b => .ok b
  | n + 1, b => do unroll events n (← run b.anchors events)

end Builder

end Node

/-- The document of a text that holds one; `none` where it holds none. A fault of the events comes
after those that the events before it show. -/
def Document.ofEvents (events : List Event) (fault : Option Fault) :
    Except Fault (Option Document) := do
  let b ← Node.Builder.run [] events
  match fault with
  | some f => throw f
  | none =>
    let b ← if b.anchors.isEmpty then pure b else b.unroll events 4
    pure (b.root.map fun root => ⟨root, b.anchors.map (·.2)⟩)

/-- Why a text is not read. -/
inductive ReadError where
  /-- A character that may not stand in it. -/
  | character (c : Char) (index : Nat)
  /-- A fault of its structure. -/
  | fault (f : Fault)

/-- Reads the document of a text. -/
def readDocument (text : List Char) : Except ReadError (Option Document) :=
  match unacceptable? text with
  | some (c, index) => .error (.character c index)
  | none =>
    let (tokens, scanFault) := Token.scan text
    let (events, fault) := Event.ofTokens tokens scanFault
    match Document.ofEvents events fault with
    | .ok d => .ok d
    | .error f => .error (.fault f)

/-- Reads the root of the document of a text. -/
def readNode (text : List Char) : Except ReadError (Option Node) :=
  (readDocument text).map fun d => d.map (·.root)

end CheckDoc.Yaml
