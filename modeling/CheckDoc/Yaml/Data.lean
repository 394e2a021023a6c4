import CheckDoc.Yaml.Datum

/-!
# The data of a document

`Data.ofDocument` builds the data of a whole document. Mappings may be merged into others: the
entries of a merged mapping come before the entries of its own, so that its own win. A key may be
any scalar, and of two equal keys the first stands with the value of the last.

A collection is built after the collection that it stands in, so that of two errors the one in the
outer collection is reported; of two on the same level it is the first. An error is therefore kept
with its level.

What an anchor stands on is built once, however many aliases it has.
-/

namespace CheckDoc.Yaml

/-- The data of a node. -/
inductive Data where
  /-- Nothing. -/
  | null
  /-- A text, a number or a truth value. -/
  | scalar (v : Scalar)
  /-- Octets, as they are encoded. -/
  | octets (code : String)
  /-- A date, as it is written. -/
  | moment (kind : MomentKind) (text : String)
  /-- A list. -/
  | list (items : List Data)
  /-- A mapping. -/
  | mapping (entries : List (Data × Data))
  /-- A set. -/
  | set (members : List Data)
  /-- A pair of an ordered map. -/
  | pair (key value : Data)

namespace Data

/-- The name of the type of data in reports. -/
def typeName : Data → String
  | .null => "NoneType"
  | .scalar (.str _) => "str"
  | .scalar (.int _) => "int"
  | .scalar (.float _) => "float"
  | .scalar (.bool _) => "bool"
  | .octets _ => "bytes"
  | .moment .date _ => "datetime.date"
  | .moment _ _ => "datetime.datetime"
  | .list _ => "list"
  | .mapping _ => "dict"
  | .set _ => "set"
  | .pair _ _ => "tuple"

/-- Whether two keys are equal. -/
def sameKey : Data → Data → Bool
  | .null, .null => true
  | .scalar v, .scalar w => v.alike w
  | .octets a, .octets b => a = b
  | .moment s a, .moment t b => s = t && a = b
  | _, _ => false

/-- Puts an entry into a mapping: under an equal key it replaces the value. -/
def put (entries : List (Data × Data)) (key value : Data) : List (Data × Data) :=
  if entries.any fun e => e.1.sameKey key then
    entries.map fun e => if e.1.sameKey key then (e.1, value) else e
  else entries ++ [(key, value)]

/-- An error with the level of the collection it arises in. -/
structure Raised where
  /-- The level, counted from the root. -/
  level : Nat
  /-- The error. -/
  error : BuildError

/-- What is built at a level. -/
abbrev Build (α : Type) := Except Raised α

/-- Both results, or of two errors the one that counts. -/
def both {α β : Type} (x : Build α) (y : Build β) : Build (α × β) :=
  match x, y with
  | .ok a, .ok b => .ok (a, b)
  | .error e, .ok _ => .error e
  | .ok _, .error e => .error e
  | .error e, .error f => if f.level < e.level then .error f else .error e

/-- All results, or the error that counts. -/
def all {α : Type} : List (Build α) → Build (List α)
  | [] => .ok []
  | x :: xs => (fun p => p.1 :: p.2) <$> both x (all xs)

/-- Fails at a level. -/
def raise {α : Type} (level : Nat) (f : Fault) : Build α := .error ⟨level, .fault f⟩

/-- The text of a scalar; of a mapping, that of its default value. -/
def textOf : Nat → Node → Except BuildError String
  | _, .scalar _ value _ => .ok value
  | _, .sequence _ _ m => .error (.fault ⟨none, .otherKind "a scalar node" "sequence", m⟩)
  | 0, .mapping _ _ m => .error (.fault ⟨none, .otherKind "a scalar node" "mapping", m⟩)
  | fuel + 1, .mapping _ entries m =>
    match entries.find? fun e => e.1.tag = .value with
    | some (_, v) => textOf fuel v
    | none => .error (.fault ⟨none, .otherKind "a scalar node" "mapping", m⟩)

/-- A key of a merged mapping: the sign of a default value is a text there. -/
def plainKey : Node → Node
  | .scalar .value v m => .scalar .str v m
  | .sequence .value ns m => .sequence .str ns m
  | .mapping .value es m => .mapping .str es m
  | n => n

mutual

/-- The entries of a mapping at `m` with the mappings merged into it in front. -/
def merged (fuel : Nat) (m : Mark) (entries : List (Node × Node)) :
    Except BuildError (List (Node × Node)) :=
  match fuel with
  | 0 => .ok entries
  | fuel + 1 => do
    let own := (entries.filter fun e => e.1.tag ≠ .merge).map fun e => (plainKey e.1, e.2)
    let sources ← (entries.filter fun e => e.1.tag = .merge).mapM fun e => mergeSource fuel m e.2
    pure (sources.flatten ++ own)

/-- The entries that are merged from a node: a mapping, or a list of which the first counts most. -/
def mergeSource (fuel : Nat) (m : Mark) (n : Node) : Except BuildError (List (Node × Node)) :=
  match fuel with
  | 0 => .ok []
  | fuel + 1 =>
    match n with
    | .mapping _ es at_ => merged fuel at_ es
    | .sequence _ ns _ => do
      let parts ← ns.mapM fun sub =>
        match sub with
        | .mapping _ es at_ => merged fuel at_ es
        | sub => .error (.fault ⟨some (.mapping, m), .mergeKind "a mapping" sub.kindName, sub.mark⟩)
      pure parts.reverse.flatten
    | .scalar _ _ at_ =>
      .error (.fault ⟨some (.mapping, m), .mergeKind "a mapping or list of mappings" "scalar", at_⟩)

end

/-- Whether the data of a tag is a collection, which is built after the collection around it. -/
def isLater : Tag → Bool
  | .seq | .map | .set | .omap | .pairs => true
  | _ => false

/-- Moves the error of a node that is built right away to the level of the collection around it. -/
def at_ {α : Type} (level : Nat) (n : Node) (x : Build α) : Build α :=
  if isLater n.tag then x else x.mapError fun r => ⟨level, r.error⟩

/-- Nodes whose data is known, with levels that are counted from the node. -/
abbrev Known := List (Node × Build Data)

/-- Whether a node may have an anchor, which stands in front of what a collection holds. -/
def mayHaveAnchor : Node → Bool
  | .scalar _ _ _ => false
  | .sequence _ _ _ => true
  | .mapping _ [] _ => true
  | .mapping _ (e :: _) m => e.1.mark ≠ m

/-- The data of a node at a level, where it is known. -/
def Known.data? (known : Known) (level : Nat) (n : Node) : Option (Build Data) :=
  if mayHaveAnchor n then
    (known.find? fun e => e.1.mark = n.mark).map fun e =>
      e.2.mapError fun r => ⟨level + r.level, r.error⟩
  else none

/-- The data of a node at a level; `fuel` bounds the depth. -/
def build (known : Known) : Nat → Nat → Node → Build Data
  | 0, _, _ => .ok .null
  | fuel + 1, level, n =>
    let item (n : Node) : Build Data :=
      at_ level n ((known.data? (level + 1) n).getD (build known fuel (level + 1) n))
    let lift {α : Type} (x : Except BuildError α) : Build α := x.mapError fun e => ⟨level, e⟩
    let kind (due : String) : Build Data :=
      raise level ⟨none, .otherKind due n.kindName, n.mark⟩
    let entry (m : Mark) (e : Node × Node) : Build (Data × Data) :=
      if isLater e.1.tag then raise level ⟨some (.mapping, m), .unhashableKey, e.1.mark⟩
      else do
        let key ← item e.1
        let value ← item e.2
        pure (key, value)
    let entries (m : Mark) (es : List (Node × Node)) : Build (List (Data × Data)) := do
      let es ← lift (merged (fuel + 1) m es)
      let kvs ← all (es.map (entry m))
      pure (kvs.foldl (fun acc e => put acc e.1 e.2) [])
    let pairs (activity : Activity) (due : String) : Build Data :=
      match n with
      | .sequence _ ns m => do
        let ps ← all <| ns.map fun sub =>
          match sub with
          | .mapping _ [(k, v)] _ => (fun p => Data.pair p.1 p.2) <$> both (item k) (item v)
          | .mapping _ es at_ => raise level ⟨some (activity, m), .pairCount es.length, at_⟩
          | sub => raise level
              ⟨some (activity, m), .otherKind "a mapping of length 1" sub.kindName, sub.mark⟩
        pure (.list ps)
      | n => raise level ⟨some (activity, n.mark), .otherKind due n.kindName, n.mark⟩
    match n.tag with
    | .seq =>
      match n with
      | .sequence _ ns _ => .list <$> all (ns.map item)
      | _ => kind "a sequence node"
    | .map =>
      match n with
      | .mapping _ es m => .mapping <$> entries m es
      | _ => kind "a mapping node"
    | .set =>
      match n with
      | .mapping _ es m => (fun kvs => .set (kvs.map (·.1))) <$> entries m es
      | _ => kind "a mapping node"
    | .omap => pairs .orderedMap "a sequence"
    | .pairs => pairs .pairs "a sequence"
    | tag => do
      if tag matches .merge | .value | .other _ then
        raise level ⟨none, .unknownTag tag.name, n.mark⟩
      else
        let s ← lift (textOf fuel n)
        if tag = .timestamp && n matches .mapping .. then
          throw ⟨level, .dateKind "list"⟩
        match ← lift (Datum.ofScalar tag s n.mark) with
        | .null => pure .null
        | .scalar v => pure (.scalar v)
        | .octets c => pure (.octets c)
        | .moment t s => pure (.moment t s)
        | .collection => pure .null

/-- The data of a document of which no node is deeper than `depth`. -/
def ofDocument (depth : Nat) (d : Document) : Except BuildError Data :=
  let known : Known := d.anchored.foldl (fun known n => known ++ [(n, build known depth 0 n)]) []
  ((known.data? 0 d.root).getD (build known depth 0 d.root)).mapError (·.error)

end Data

/-- Why no data is read from a text. -/
inductive DataError where
  /-- The text is not YAML. -/
  | read (e : ReadError)
  /-- Nothing can be built for a node. -/
  | build (e : BuildError)

/-- The data of a text, nothing where it holds no document. -/
def readData (text : List Char) : Except DataError Data :=
  match readDocument text with
  | .error e => .error (.read e)
  | .ok none => .ok .null
  | .ok (some d) => (Data.ofDocument (5 * text.length + 8) d).mapError .build

end CheckDoc.Yaml
