import CheckDoc.Document.Basic
import CheckDoc.Text.Position
import CheckDoc.Text.Utf8
import CheckDoc.Yaml.Datum

/-!
# Reading Checks

`Check.ofNode` reads a Check from the root node of a document. Reading stops at the first defect
and says where it is: at the node of a wrong kind or type, at a key that is repeated or unknown, or
at the mapping that lacks a field. What the texts of expressions hold is left to the rules.

Keys are compared by their text, so a key needs no quotes to be the same key. Unknown keys are
refused when reading is strict and passed over when it is not.
-/

namespace CheckDoc

open Yaml (Node Datum BuildError ReadError)

/-- The parts of a document, as they are named in reports. -/
inductive Location where
  /-- The document. -/
  | check
  /-- The document, once its identifier is known. -/
  | checkNamed (id : String)
  /-- The classification. -/
  | metadata
  /-- A fact by its index. -/
  | fact (index : Nat)
  /-- A value by its index. -/
  | value (index : Nat)
  /-- An expectation by its index. -/
  | expectation (index : Nat)
  /-- The default of a value by its name. -/
  | default (value : String)
  /-- A condition of a value. -/
  | condition (value : String) (index : Nat)
  /-- The payload of a condition. -/
  | payload (value : String) (index : Nat)
  /-- The deprecated field. -/
  | premium
  /-- The providers. -/
  | provider
  /-- An item of a list. -/
  | item (list : Location) (index : Nat)
  /-- A field of a mapping. -/
  | field (mapping : Location) (key : String)

/-- An index in brackets. -/
def Location.bracket (index : Nat) : String := "[" ++ toString index ++ "]"

/-- The name of a part. -/
def Location.text : Location → String
  | .check => "check"
  | .checkNamed id => "check '" ++ id ++ "'"
  | .metadata => "metadata"
  | .fact i => "facts" ++ bracket i
  | .value i => "values" ++ bracket i
  | .expectation i => "expectations" ++ bracket i
  | .default v => "values." ++ v ++ ".default"
  | .condition v i => "values." ++ v ++ ".conditions" ++ bracket i
  | .payload v i => "values." ++ v ++ ".conditions" ++ bracket i ++ ".value"
  | .premium => "premium"
  | .provider => "metadata.provider"
  | .item l i => l.text ++ bracket i
  | .field m k => m.text ++ ": '" ++ k ++ "'"

/-- The kinds of nodes. -/
inductive NodeKind where
  /-- A scalar. -/
  | scalar
  /-- A sequence. -/
  | list
  /-- A mapping. -/
  | mapping
  deriving DecidableEq

/-- The kind of a node in reports. -/
def NodeKind.text : NodeKind → String
  | .scalar => "a scalar"
  | .list => "a list"
  | .mapping => "a mapping"

/-- The kind of a node. -/
def NodeKind.of : Node → NodeKind
  | .scalar _ _ _ => .scalar
  | .sequence _ _ _ => .list
  | .mapping _ _ _ => .mapping

/-- Why a document is no Check. -/
inductive DefectCause where
  /-- Its octets are not UTF-8. -/
  | notUtf8 (cause : Text.Utf8Cause)
  /-- It is not YAML. -/
  | notYaml (reason : String)
  /-- It holds no node. -/
  | empty
  /-- A part is no mapping. -/
  | notMapping (l : Location) (found : NodeKind)
  /-- A key is a collection. -/
  | keyKind (l : Location)
  /-- A key is repeated. -/
  | duplicateKey (l : Location) (key : String)
  /-- A key is unknown. -/
  | unknownField (l : Location) (key : String)
  /-- A required field is missing. -/
  | missingField (l : Location) (key : String)
  /-- A part is no scalar. -/
  | notScalar (l : Location) (found : NodeKind)
  /-- A part is a scalar, but no text, number or truth value. -/
  | notPlain (l : Location)
  /-- A part is no text, but of the named type. -/
  | notString (l : Location) (found : String)
  /-- A part is no truth value. -/
  | notBoolean (l : Location)
  /-- A field is no list. -/
  | notList (l : Location) (key : String) (found : NodeKind)

/-- The wording of a cause. -/
def DefectCause.message : DefectCause → String
  | .notUtf8 cause => "Document is not valid UTF-8: " ++ cause.message
  | .notYaml reason => "Invalid YAML: " ++ reason
  | .empty => "Document is empty"
  | .notMapping l found => l.text ++ " must be a mapping, got " ++ found.text
  | .keyKind l => l.text ++ ": keys must be scalars"
  | .duplicateKey l key => l.text ++ ": duplicate key '" ++ key ++ "'"
  | .unknownField l key => l.text ++ ": unknown field '" ++ key ++ "'"
  | .missingField l key => l.text ++ ": missing required field '" ++ key ++ "'"
  | .notScalar l found => l.text ++ " must be a scalar, got " ++ found.text
  | .notPlain l => l.text ++ " must be a string, number, or boolean"
  | .notString l found => l.text ++ " must be a string, got " ++ found
  | .notBoolean l => l.text ++ " must be a boolean"
  | .notList l key found => l.text ++ ": '" ++ key ++ "' must be a list, got " ++ found.text

/-- A defect of a document. -/
structure Defect where
  /-- What is wrong. -/
  cause : DefectCause
  /-- Where. -/
  position : Position

/-- The report of a defect. -/
def Defect.message (d : Defect) : String :=
  "Line " ++ toString d.position.line ++ ", column " ++ toString d.position.column ++ ": " ++
    d.cause.message

/-- Why no Check is read. -/
inductive LoadError where
  /-- The document has a defect. -/
  | defect (d : Defect)
  /-- A scalar does not fit its tag. -/
  | build (e : BuildError)
  /-- A number in the text, in an escape or a version, is out of range. -/
  | number (f : Yaml.NumberFault)

/-- The position of a mark. -/
def positionOf (m : Yaml.Mark) : Position := ⟨m.line + 1, m.column + 1⟩

namespace Schema

/-- What is read, or why nothing is. -/
abbrev Read (α : Type) := Except LoadError α

/-- Fails at a node. -/
def fail {α : Type} (n : Node) (cause : DefectCause) : Read α :=
  .error (.defect ⟨cause, positionOf n.mark⟩)

/-- The fields of a mapping. -/
abbrev Fields := List (String × Node)

/-- The node of a field. -/
def field? (fields : Fields) (key : String) : Option Node :=
  (fields.find? fun f => f.1 = key).map (·.2)

/-- The fields of the entries of a mapping after the fields `seen`. -/
def fieldsFrom (strict : Bool) (l : Location) (allowed : List String) (seen : Fields) :
    List (Node × Node) → Read Fields
  | [] => .ok seen
  | (k, v) :: more =>
    match k with
    | .scalar _ key _ =>
      if seen.any fun f => f.1 = key then fail k (.duplicateKey l key)
      else if strict && !allowed.contains key then fail k (.unknownField l key)
      else fieldsFrom strict l allowed (seen ++ [(key, v)]) more
    | _ => fail k (.keyKind l)

/-- The fields of a mapping. -/
def fields (strict : Bool) (n : Node) (l : Location) (allowed : List String) : Read Fields :=
  match n with
  | .mapping _ entries _ => fieldsFrom strict l allowed [] entries
  | n => fail n (.notMapping l (.of n))

/-- The constant of a scalar node. -/
def scalar (n : Node) (l : Location) : Read Scalar :=
  match n with
  | .scalar tag value m =>
    match Datum.ofScalar tag value m with
    | .ok (.scalar v) => .ok v
    | .ok _ => fail n (.notPlain l)
    | .error e => .error (.build e)
  | n => fail n (.notScalar l (.of n))

/-- The text of a scalar node. -/
def string (n : Node) (l : Location) : Read String := do
  match ← scalar n l with
  | .str s => pure s
  | .int _ => fail n (.notString l "int")
  | .float _ => fail n (.notString l "float")
  | .bool _ => fail n (.notString l "bool")

/-- The truth value of a scalar node. -/
def boolean (n : Node) (l : Location) : Read Bool := do
  match ← scalar n l with
  | .bool b => pure b
  | _ => fail n (.notBoolean l)

/-- The text of a field of the mapping `n`, which has to be there. -/
def required (fields : Fields) (n : Node) (key : String) (l : Location) : Read String :=
  match field? fields key with
  | none => fail n (.missingField l key)
  | some v => string v (.field l key)

/-- The text of a field that may be missing. -/
def optional (fields : Fields) (key : String) (l : Location) : Read (Option String) :=
  match field? fields key with
  | none => .ok none
  | some v => some <$> string v (.field l key)

/-- The items of a list. -/
def items (n : Node) (key : String) (l : Location) : Read (List Node) :=
  match n with
  | .sequence _ ns _ => .ok ns
  | n => fail n (.notList l key (.of n))

/-- The items of a list field of the mapping `n`, which has to be there. -/
def requiredItems (fields : Fields) (n : Node) (key : String) (l : Location) :
    Read (List Node) :=
  match field? fields key with
  | none => fail n (.missingField l key)
  | some v => items v key l

/-- The items of a list field that may be missing or null. -/
def optionalItems (fields : Fields) (key : String) (l : Location) : Read (List Node) :=
  match field? fields key with
  | none => .ok []
  | some (.scalar .null _ _) => .ok []
  | some v => items v key l

/-- Reads each node with its index, in order. -/
def each {α : Type} (read : Nat → Node → Read α) : Nat → List Node → Read (List α)
  | _, [] => .ok []
  | i, n :: ns => do
    let x ← read i n
    let xs ← each read (i + 1) ns
    pure (x :: xs)

/-- Reads a payload: a sequence is a list. -/
def payload (n : Node) (l : Location) : Read Payload :=
  match n with
  | .sequence _ ns _ => .list <$> each (fun i item => scalar item (.item l i)) 0 ns
  | n => .scalar <$> scalar n l

/-- The payload of a field of the mapping `n`, which has to be there. -/
def requiredPayload (fields : Fields) (n : Node) (key : String) (l at_ : Location) :
    Read Payload :=
  match field? fields key with
  | none => fail n (.missingField l key)
  | some v => payload v at_

/-- Reads a fact. -/
def fact (strict : Bool) (i : Nat) (n : Node) : Read Fact := do
  let l := Location.fact i
  let fs ← fields strict n l ["name", "gatherer", "argument"]
  let name ← required fs n "name" l
  let gatherer ← required fs n "gatherer" l
  let argument ← required fs n "argument" l
  pure ⟨name, gatherer, argument⟩

/-- Reads a condition of the value `v`. -/
def condition (strict : Bool) (v : String) (i : Nat) (n : Node) : Read Condition := do
  let l := Location.condition v i
  let fs ← fields strict n l ["value", "when"]
  let p ← requiredPayload fs n "value" l (.payload v i)
  let w ← required fs n "when" l
  pure ⟨p, w⟩

/-- Reads a value. -/
def value (strict : Bool) (i : Nat) (n : Node) : Read Value := do
  let l := Location.value i
  let fs ← fields strict n l ["name", "default", "conditions"]
  let name ← required fs n "name" l
  let d ← requiredPayload fs n "default" l (.default name)
  let cs ← each (condition strict name) 0 (← optionalItems fs "conditions" l)
  pure ⟨name, d, cs⟩

/-- Reads an expectation. -/
def expectation (strict : Bool) (i : Nat) (n : Node) : Read Expectation := do
  let l := Location.expectation i
  let fs ← fields strict n l
    ("name" :: (ExprField.all.map ExprField.name ++ MessageField.all.map MessageField.name))
  let name ← required fs n "name" l
  let expect ← optional fs ExprField.expect.name l
  let same ← optional fs ExprField.expectSame.name l
  let choice ← optional fs ExprField.expectEnum.name l
  let failure ← optional fs MessageField.failure.name l
  let warning ← optional fs MessageField.warning.name l
  pure ⟨name, expect, same, choice, failure, warning⟩

/-- Reads the providers: one may stand without a list around it. -/
def providers (fs : Fields) : Read (List String) :=
  match field? fs "provider" with
  | none => .ok []
  | some (.scalar tag v m) => do
    let p ← string (.scalar tag v m) (.field .metadata "provider")
    pure [p]
  | some n => do
    each (fun i item => string item (.item .provider i)) 0 (← items n "provider" .metadata)

/-- Reads the classification. -/
def metadata (strict : Bool) (n : Node) : Read Metadata := do
  let fs ← fields strict n .metadata ["target_type", "provider"]
  let targetType ← optional fs "target_type" .metadata
  let ps ← providers fs
  pure ⟨targetType, ps⟩

/-- Reads a field, if it is there. -/
def ifPresent {α : Type} (fs : Fields) (key : String) (read : Node → Read α) : Read (Option α) :=
  match field? fs key with
  | none => .ok none
  | some n => some <$> read n

/-- The fields of a Check. -/
def checkFields : List String :=
  ["id", "name", "group", "description", "remediation", "metadata", "facts", "values",
   "expectations", "premium"]

end Schema

namespace Check

open Schema in
/-- Reads a Check from the root of a document. -/
def ofNode (strict : Bool) (root : Node) : Read Check := do
  let fs ← fields strict root .check checkFields
  let id ← required fs root "id" .check
  let l := Location.checkNamed id
  let name ← required fs root "name" l
  let group ← required fs root "group" l
  let description ← required fs root "description" l
  let remediation ← required fs root "remediation" l
  let facts ← each (Schema.fact strict) 0 (← requiredItems fs root "facts" l)
  let values ← each (Schema.value strict) 0 (← optionalItems fs "values" l)
  let expectations ← each (Schema.expectation strict) 0 (← optionalItems fs "expectations" l)
  let metadata ← ifPresent fs "metadata" (Schema.metadata strict)
  let premium ← ifPresent fs "premium" (boolean · .premium)
  pure ⟨id, name, group, description, remediation, metadata, facts, values, expectations, premium⟩

/-- Reads a Check from a text. -/
def ofText (strict : Bool) (text : String) : Except LoadError Check :=
  match Yaml.readNode text.toList with
  | .error (.character c index) =>
    .error (.defect ⟨.notYaml (Yaml.unacceptableReport c index), .start⟩)
  | .error (.fault f) =>
    match f.problem with
    | .number n => .error (.number n)
    | problem => .error (.defect ⟨.notYaml problem.message, positionOf f.mark⟩)
  | .ok none => .error (.defect ⟨.empty, .start⟩)
  | .ok (some root) => ofNode strict root

end Check

/-- A document as it comes: as text or as octets. -/
inductive Source where
  /-- A text. -/
  | text (s : String)
  /-- Octets, which have to be UTF-8. -/
  | octets (bytes : List UInt8)

/-- The text of a source. -/
def Source.decode : Source → Except LoadError String
  | .text s => .ok s
  | .octets bytes =>
    match Text.decodeUtf8 bytes with
    | .ok s => .ok s
    | .error fault => .error (.defect ⟨.notUtf8 fault.cause, .start⟩)

/-- Reads a Check from a source. -/
def Check.load (strict : Bool) (source : Source) : Except LoadError Check := do
  Check.ofText strict (← source.decode)

end CheckDoc
