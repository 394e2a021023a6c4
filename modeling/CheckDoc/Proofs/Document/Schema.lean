import CheckDoc.Document.Schema
import CheckDoc.Proofs.Outcome
import Mathlib.Data.List.Forall2
import Mathlib.Data.List.Nodup

/-!
# The schema of Checks

Which documents are Checks, said of their nodes alone (`Schema.IsCheck`), and what the Check of a
document holds (`Schema.DescribesCheck`). A Check is read from exactly the documents of the schema,
and it is the one that the document describes (`Check.ofNode_eq_ok_iff`).

Both are put together from the same few parts: an entry that a mapping has to have or may have, a
scalar that stands for a constant, a sequence of nodes of one sort. A reader of each part gives what
the node describes and nothing else, wherever in the document the part is said to be.
-/

namespace CheckDoc

open Yaml (Node Datum)

namespace Yaml.Node

/-- The entries of a mapping. -/
def entries : Node → List (Node × Node)
  | .mapping _ es _ => es
  | _ => []

/-- The items of a sequence. -/
def items : Node → List Node
  | .sequence _ ns _ => ns
  | _ => []

/-- The text of a scalar. -/
def text? : Node → Option String
  | .scalar _ text _ => some text
  | _ => none

end Yaml.Node

namespace Schema

variable {α : Type} {strict : Bool} {allowed : List String} {n v : Node} {key : String}
  {l : Location}

/-! ## Parts of a document -/

/-- A mapping has an entry. -/
def Entry (n : Node) (key : String) (v : Node) : Prop :=
  ∃ k, (k, v) ∈ n.entries ∧ k.text? = some key

/-- A node is a mapping whose keys are scalars of different texts, all of them known where reading
is strict. -/
structure IsRecord (strict : Bool) (allowed : List String) (n : Node) : Prop where
  /-- It is a mapping. -/
  mapping : NodeKind.of n = .mapping
  /-- Its keys are scalars. -/
  scalar : ∀ e ∈ n.entries, e.1.text?.isSome = true
  /-- The texts of its keys differ. -/
  nodup : (n.entries.map (·.1.text?)).Nodup
  /-- The texts of its keys are known. -/
  allowed : strict = true → ∀ e ∈ n.entries, ∀ key, e.1.text? = some key → key ∈ allowed

/-- A scalar stands for a constant. -/
def StandsFor (n : Node) (c : Scalar) : Prop :=
  ∃ tag text m, n = .scalar tag text m ∧ Datum.ofScalar tag text m = .ok (.scalar c)

/-- A scalar stands for a text. -/
def Text (n : Node) (s : String) : Prop := StandsFor n (.str s)

/-- A scalar stands for a truth value. -/
def Truth (n : Node) (b : Bool) : Prop := StandsFor n (.bool b)

/-- A node is a scalar with the tag of null. -/
def IsNull (n : Node) : Prop := NodeKind.of n = .scalar ∧ n.tag = .null

/-- The items of a sequence describe some things, in order. -/
def ListOf (describes : Node → α → Prop) (n : Node) (xs : List α) : Prop :=
  NodeKind.of n = .list ∧ List.Forall₂ describes n.items xs

/-- The items of a sequence are of a sort. -/
def SequenceOf (sort : Node → Prop) (n : Node) : Prop :=
  NodeKind.of n = .list ∧ ∀ item ∈ n.items, sort item

/-- A field describes a thing. -/
def Field (n : Node) (key : String) (describes : Node → α → Prop) (x : α) : Prop :=
  ∃ v, Entry n key v ∧ describes v x

/-- A field describes a thing, which is a given one where the field is missing. -/
def FieldOr (n : Node) (key : String) (absent : α) (describes : Node → α → Prop) (x : α) : Prop :=
  ((∀ v, ¬Entry n key v) ∧ x = absent) ∨ Field n key describes x

/-- A field may be missing. -/
def FieldOf (n : Node) (key : String) (describes : Node → α → Prop) : Option α → Prop :=
  FieldOr n key none fun v o => ∃ x, describes v x ∧ o = some x

/-- A list of things in a field, which is empty where the field is missing or null. -/
def ListField (n : Node) (key : String) (describes : Node → α → Prop) : List α → Prop :=
  FieldOr n key [] fun v xs => (IsNull v ∧ xs = []) ∨ ListOf describes v xs

/-- A field of a sort is there. -/
def HasField (n : Node) (key : String) (sort : Node → Prop) : Prop := ∃ v, Entry n key v ∧ sort v

/-- A field is of a sort if it is there. -/
def MayField (n : Node) (key : String) (sort : Node → Prop) : Prop := ∀ v, Entry n key v → sort v

/-! ## The schema -/

/-- The mappings of a Check. -/
inductive Section where
  /-- The Check. -/
  | check
  /-- The classification. -/
  | metadata
  /-- A fact. -/
  | fact
  /-- A value. -/
  | value
  /-- A condition of a value. -/
  | condition
  /-- An expectation. -/
  | expectation

/-- The keys that are known in a mapping. -/
def Section.known : Section → List String
  | .check => ["id", "name", "group", "description", "remediation", "metadata", "facts", "values",
    "expectations", "premium"]
  | .metadata => ["target_type", "provider"]
  | .fact => ["name", "gatherer", "argument"]
  | .value => ["name", "default", "conditions"]
  | .condition => ["value", "when"]
  | .expectation => ["name", "expect", "expect_same", "expect_enum", "failure_message",
    "warning_message"]

/-- A scalar that stands for a constant. -/
def IsConstant (n : Node) : Prop := ∃ c, StandsFor n c

/-- A scalar that stands for a text. -/
def IsText (n : Node) : Prop := ∃ s, Text n s

/-- A constant or a list of constants. -/
def IsPayload (n : Node) : Prop := IsConstant n ∨ SequenceOf IsConstant n

/-- A node of a fact. -/
structure IsFact (strict : Bool) (n : Node) : Prop where
  record : IsRecord strict Section.fact.known n
  name : HasField n "name" IsText
  gatherer : HasField n "gatherer" IsText
  argument : HasField n "argument" IsText

/-- A node of a condition. -/
structure IsCondition (strict : Bool) (n : Node) : Prop where
  record : IsRecord strict Section.condition.known n
  payload : HasField n "value" IsPayload
  when : HasField n "when" IsText

/-- A node of a value. -/
structure IsValue (strict : Bool) (n : Node) : Prop where
  record : IsRecord strict Section.value.known n
  name : HasField n "name" IsText
  default : HasField n "default" IsPayload
  conditions : MayField n "conditions" fun v => IsNull v ∨ SequenceOf (IsCondition strict) v

/-- A node of an expectation. -/
structure IsExpectation (strict : Bool) (n : Node) : Prop where
  record : IsRecord strict Section.expectation.known n
  name : HasField n "name" IsText
  expr : ∀ f : ExprField, MayField n f.name IsText
  message : ∀ f : MessageField, MayField n f.name IsText

/-- A node of a classification. -/
structure IsMetadata (strict : Bool) (n : Node) : Prop where
  record : IsRecord strict Section.metadata.known n
  targetType : MayField n "target_type" IsText
  providers : MayField n "provider" fun v => IsText v ∨ SequenceOf IsText v

/-- A root of a Check. -/
structure IsCheck (strict : Bool) (n : Node) : Prop where
  record : IsRecord strict Section.check.known n
  id : HasField n "id" IsText
  name : HasField n "name" IsText
  group : HasField n "group" IsText
  description : HasField n "description" IsText
  remediation : HasField n "remediation" IsText
  metadata : MayField n "metadata" (IsMetadata strict)
  facts : HasField n "facts" (SequenceOf (IsFact strict))
  values : MayField n "values" fun v => IsNull v ∨ SequenceOf (IsValue strict) v
  expectations :
    MayField n "expectations" fun v => IsNull v ∨ SequenceOf (IsExpectation strict) v
  premium : MayField n "premium" fun v => ∃ b, Truth v b

/-! ## What a document describes -/

/-- A node describes a payload: a sequence is a list. -/
inductive DescribesPayload (n : Node) : Payload → Prop
  | scalar {c : Scalar} (h : StandsFor n c) : DescribesPayload n (.scalar c)
  | list {cs : List Scalar} (h : ListOf StandsFor n cs) : DescribesPayload n (.list cs)

/-- A node describes a fact. -/
structure DescribesFact (strict : Bool) (n : Node) (f : Fact) : Prop where
  record : IsRecord strict Section.fact.known n
  name : Field n "name" Text f.name
  gatherer : Field n "gatherer" Text f.gatherer
  argument : Field n "argument" Text f.argument

/-- A node describes a condition. -/
structure DescribesCondition (strict : Bool) (n : Node) (c : Condition) : Prop where
  record : IsRecord strict Section.condition.known n
  payload : Field n "value" DescribesPayload c.payload
  when : Field n "when" Text c.when

/-- A node describes a value. -/
structure DescribesValue (strict : Bool) (n : Node) (v : Value) : Prop where
  record : IsRecord strict Section.value.known n
  name : Field n "name" Text v.name
  default : Field n "default" DescribesPayload v.default
  conditions : ListField n "conditions" (DescribesCondition strict) v.conditions

/-- A node describes an expectation. -/
structure DescribesExpectation (strict : Bool) (n : Node) (e : Expectation) : Prop where
  record : IsRecord strict Section.expectation.known n
  name : Field n "name" Text e.name
  expr : ∀ f : ExprField, FieldOf n f.name Text (e.expr? f)
  message : ∀ f : MessageField, FieldOf n f.name Text (e.message? f)

/-- A node describes providers: one may stand without a list around it. -/
inductive DescribesProviders (n : Node) : List String → Prop
  | one {p : String} (h : Text n p) : DescribesProviders n [p]
  | list {ps : List String} (h : ListOf Text n ps) : DescribesProviders n ps

/-- A node describes a classification. -/
structure DescribesMetadata (strict : Bool) (n : Node) (m : Metadata) : Prop where
  record : IsRecord strict Section.metadata.known n
  targetType : FieldOf n "target_type" Text m.targetType
  providers : FieldOr n "provider" [] DescribesProviders m.providers

/-- A root describes a Check. -/
structure DescribesCheck (strict : Bool) (n : Node) (c : Check) : Prop where
  record : IsRecord strict Section.check.known n
  id : Field n "id" Text c.id
  name : Field n "name" Text c.name
  group : Field n "group" Text c.group
  description : Field n "description" Text c.description
  remediation : Field n "remediation" Text c.remediation
  metadata : FieldOf n "metadata" (DescribesMetadata strict) c.metadata
  facts : Field n "facts" (ListOf (DescribesFact strict)) c.facts
  values : ListField n "values" (DescribesValue strict) c.values
  expectations : ListField n "expectations" (DescribesExpectation strict) c.expectations
  premium : FieldOf n "premium" Truth c.premium

/-! ## Readers of scalars and lists -/

/-- The constant that is read is what the scalar stands for. -/
theorem scalar_eq_ok_iff {c : Scalar} : scalar n l = .ok c ↔ StandsFor n c := by
  cases n with
  | scalar tag text m =>
    simp only [scalar]
    constructor
    · intro h
      split at h
      · rename_i c' hdatum
        cases h
        exact ⟨tag, text, m, rfl, hdatum⟩
      · cases h
      · cases h
    · rintro ⟨_, _, _, ⟨⟩, hdatum⟩
      rw [hdatum]
  | sequence _ _ _ => exact ⟨nofun, by rintro ⟨_, _, _, ⟨⟩, _⟩⟩
  | mapping _ _ _ => exact ⟨nofun, by rintro ⟨_, _, _, ⟨⟩, _⟩⟩

/-- The text that is read is what the scalar stands for. -/
theorem string_eq_ok_iff {s : String} : string n l = .ok s ↔ Text n s := by
  rw [string, bind_eq_ok_iff]
  constructor
  · rintro ⟨c, hc, hs⟩
    cases c <;> cases hs
    exact scalar_eq_ok_iff.1 hc
  · exact fun h => ⟨.str s, scalar_eq_ok_iff.2 h, rfl⟩

/-- The truth value that is read is what the scalar stands for. -/
theorem boolean_eq_ok_iff {b : Bool} : boolean n l = .ok b ↔ Truth n b := by
  rw [boolean, bind_eq_ok_iff]
  constructor
  · rintro ⟨c, hc, hb⟩
    cases c <;> cases hb
    exact scalar_eq_ok_iff.1 hc
  · exact fun h => ⟨.bool b, scalar_eq_ok_iff.2 h, rfl⟩

/-- The items of a sequence are read, and of no other node. -/
theorem items_eq_ok_iff {ns : List Node} :
    items n key l = .ok ns ↔ NodeKind.of n = .list ∧ ns = n.items := by
  cases n with
  | sequence tag ms m =>
    show Except.ok ms = .ok ns ↔ NodeKind.list = .list ∧ ns = ms
    simp [eq_comm]
  | scalar _ _ _ => exact ⟨nofun, nofun⟩
  | mapping _ _ _ => exact ⟨nofun, nofun⟩

/-- Reading node after node gives what they describe, if reading one of them does. -/
theorem each_eq_ok_iff {read : Nat → Node → Read α} {describes : Node → α → Prop}
    (i : Nat) (ns : List Node) (xs : List α) (h : ∀ i n x, read i n = .ok x ↔ describes n x) :
    each read i ns = .ok xs ↔ List.Forall₂ describes ns xs := by
  induction ns generalizing i xs with
  | nil =>
    show Except.ok [] = .ok xs ↔ _
    simp [eq_comm]
  | cons n ns ih =>
    simp only [each, bind_eq_ok_iff, h, ih, List.forall₂_cons_left_iff]
    constructor
    · rintro ⟨x, hx, ys, hys, ⟨⟩⟩
      exact ⟨x, ys, hx, hys, rfl⟩
    · rintro ⟨x, ys, hx, hys, rfl⟩
      exact ⟨x, hx, ys, hys, rfl⟩

/-- The payload that is read is what the node describes. -/
theorem payload_eq_ok_iff {p : Payload} : payload n l = .ok p ↔ DescribesPayload n p := by
  have hother : NodeKind.of n ≠ .list →
      ((.scalar <$> scalar n l : Read Payload) = .ok p ↔ DescribesPayload n p) := fun hkind => by
    simp only [map_eq_ok_iff, scalar_eq_ok_iff]
    constructor
    · rintro ⟨c, hc, rfl⟩
      exact .scalar hc
    · rintro (hc | hcs)
      · exact ⟨_, hc, rfl⟩
      · exact absurd hcs.1 hkind
  cases n with
  | sequence tag ns m =>
    have hitems : ∀ cs, each (fun i item => scalar item (.item l i)) 0 ns = .ok cs ↔
        List.Forall₂ StandsFor ns cs := fun cs =>
      each_eq_ok_iff 0 ns cs fun _ _ _ => scalar_eq_ok_iff
    simp only [payload, map_eq_ok_iff, hitems]
    constructor
    · rintro ⟨cs, hcs, rfl⟩
      exact .list ⟨rfl, hcs⟩
    · rintro (⟨⟨_, _, _, ⟨⟩, _⟩⟩ | ⟨⟨-, hcs⟩⟩)
      exact ⟨_, hcs, rfl⟩
  | scalar _ _ _ => exact hother nofun
  | mapping _ _ _ => exact hother nofun

/-! ## Readers of mappings -/

/-- The fields of a mapping by the texts of their keys. -/
def named (es : List (Node × Node)) : Fields :=
  es.filterMap fun e => e.1.text?.map fun key => (key, e.2)

/-- The fields that are read after some others: the keys are as they have to be, and new. -/
theorem fieldsFrom_eq_ok_iff {es : List (Node × Node)} {seen fs : Fields} :
    fieldsFrom strict l allowed seen es = .ok fs ↔
      (∀ e ∈ es, e.1.text?.isSome = true) ∧ (es.map (·.1.text?)).Nodup ∧
        (strict = true → ∀ e ∈ es, ∀ key, e.1.text? = some key → key ∈ allowed) ∧
        (∀ e ∈ es, ∀ f ∈ seen, e.1.text? ≠ some f.1) ∧ fs = seen ++ named es := by
  -- An entry that is read joins the fields that later keys have to differ from.
  induction es generalizing seen with
  | nil =>
    rw [fieldsFrom, Except.ok.injEq, @eq_comm _ seen]
    simp [named]
  | cons e es ih =>
    obtain ⟨k, v⟩ := e
    cases k with
    | sequence _ _ _ => exact ⟨nofun, fun h => nomatch h.1 _ List.mem_cons_self⟩
    | mapping _ _ _ => exact ⟨nofun, fun h => nomatch h.1 _ List.mem_cons_self⟩
    | scalar tag key m =>
      simp only [fieldsFrom, List.forall_mem_cons, List.map_cons, List.nodup_cons]
      split
      · rename_i hseen
        obtain ⟨f, hf, hkey⟩ := List.any_eq_true.1 hseen
        refine ⟨nofun, fun ⟨_, _, _, hnew, _⟩ => absurd ?_ (hnew.1 f hf)⟩
        rw [of_decide_eq_true hkey]
        rfl
      · rename_i hseen
        split
        · rename_i hunknown
          obtain ⟨hstrict, hunknown⟩ := Bool.and_eq_true_iff.1 hunknown
          refine ⟨nofun, fun ⟨_, _, hknown, _⟩ => ?_⟩
          have hmem := (hknown hstrict).1 key rfl
          simp [hmem] at hunknown
        · rename_i hknown
          have hfresh : ∀ f ∈ seen, some key ≠ some f.1 := fun f hf heq =>
            hseen (List.any_eq_true.2 ⟨f, hf, decide_eq_true (Option.some.inj heq).symm⟩)
          have hallowed : strict = true → key ∈ allowed := fun hstrict => by
            simpa [hstrict] using hknown
          have hnew : (∀ e ∈ es, ∀ f ∈ seen ++ [(key, v)], e.1.text? ≠ some f.1) ↔
              (∀ e ∈ es, ∀ f ∈ seen, e.1.text? ≠ some f.1) ∧
                some key ∉ es.map (·.1.text?) := by
            simp only [List.forall_mem_append, List.forall_mem_singleton, List.mem_map, not_exists,
              not_and]
            exact forall₂_and
          have hnamed : seen ++ [(key, v)] ++ named es =
              seen ++ named ((.scalar tag key m, v) :: es) := List.append_assoc _ _ _
          rw [ih, hnew, hnamed]
          constructor
          · rintro ⟨hs, hn, hk, ⟨ho, hkey⟩, hfs⟩
            refine ⟨⟨rfl, hs⟩, ⟨hkey, hn⟩, fun hstrict => ⟨?_, hk hstrict⟩, ⟨hfresh, ho⟩, hfs⟩
            rintro _ ⟨⟩
            exact hallowed hstrict
          · rintro ⟨⟨-, hs⟩, ⟨hkey, hn⟩, hk, ⟨-, ho⟩, hfs⟩
            exact ⟨hs, hn, fun hstrict => (hk hstrict).2, ⟨ho, hkey⟩, hfs⟩

/-- The fields that are read are those of a record. -/
theorem fields_eq_ok_iff {fs : Fields} :
    fields strict n l allowed = .ok fs ↔ IsRecord strict allowed n ∧ fs = named n.entries := by
  cases n with
  | mapping tag es m =>
    rw [fields, fieldsFrom_eq_ok_iff]
    constructor
    · rintro ⟨hs, hn, hk, -, rfl⟩
      exact ⟨⟨rfl, hs, hn, hk⟩, rfl⟩
    · rintro ⟨⟨-, hs, hn, hk⟩, rfl⟩
      exact ⟨hs, hn, hk, fun _ _ _ => nofun, rfl⟩
  | scalar _ _ _ => exact ⟨nofun, nofun⟩
  | sequence _ _ _ => exact ⟨nofun, nofun⟩

/-- The entries of a mapping, as a list of fields has them. -/
theorem mem_named : (key, v) ∈ named n.entries ↔ Entry n key v := by
  simp only [named, List.mem_filterMap, Option.map_eq_some_iff, Entry]
  constructor
  · rintro ⟨⟨k, w⟩, hmem, text, htext, ⟨⟩⟩
    exact ⟨k, hmem, htext⟩
  · rintro ⟨k, hmem, htext⟩
    exact ⟨(k, v), hmem, key, htext, rfl⟩

/-- A record has one entry for a key. -/
theorem IsRecord.entry_unique {w : Node} (h : IsRecord strict allowed n) (hv : Entry n key v)
    (hw : Entry n key w) : v = w := by
  obtain ⟨k, hk, hkey⟩ := hv
  obtain ⟨k', hk', hkey'⟩ := hw
  have heq := List.inj_on_of_nodup_map h.nodup hk hk' (hkey.trans hkey'.symm)
  exact congrArg Prod.snd heq

/-- The node of a field is the one that the entry of the record has. -/
theorem IsRecord.field?_eq_some_iff (h : IsRecord strict allowed n) :
    field? (named n.entries) key = some v ↔ Entry n key v := by
  rw [field?, Option.map_eq_some_iff]
  constructor
  · rintro ⟨⟨text, w⟩, hfind, rfl⟩
    obtain rfl : text = key := by simpa using List.find?_some hfind
    exact mem_named.1 (List.mem_of_find?_eq_some hfind)
  · intro hv
    have hsome : ((named n.entries).find? fun f => f.1 = key).isSome = true :=
      List.find?_isSome.2 ⟨_, mem_named.2 hv, decide_eq_true rfl⟩
    obtain ⟨⟨text, w⟩, hfind⟩ := Option.isSome_iff_exists.1 hsome
    obtain rfl : text = key := by simpa using List.find?_some hfind
    exact ⟨_, hfind, h.entry_unique (mem_named.1 (List.mem_of_find?_eq_some hfind)) hv⟩

/-- A field is missing where the mapping has no entry. -/
theorem field?_eq_none_iff : field? (named n.entries) key = none ↔ ∀ v, ¬Entry n key v := by
  rw [field?, Option.map_eq_none_iff, List.find?_eq_none]
  constructor
  · exact fun hnone v hv => hnone _ (mem_named.2 hv) (decide_eq_true rfl)
  · rintro hnone ⟨text, w⟩ hmem htext
    obtain rfl := of_decide_eq_true htext
    exact hnone w (mem_named.1 hmem)

/-! ## Readers of fields -/

/-- What a field describes that is missing. -/
theorem fieldOr_iff_of_missing {describes : Node → α → Prop} {absent x : α}
    (h : ∀ v, ¬Entry n key v) : FieldOr n key absent describes x ↔ x = absent := by
  constructor
  · rintro (⟨-, hx⟩ | ⟨v, hv, -⟩)
    · exact hx
    · exact absurd hv (h v)
  · exact fun hx => .inl ⟨h, hx⟩

section Fields

variable {describes : Node → α → Prop} (h : IsRecord strict allowed n)

include h

/-- What is read from a field is what the node in it gives, or what a missing field gives. -/
theorem IsRecord.read_eq_ok_iff {absent : Read α} {read : Node → Read α} {x : α} :
    (match field? (named n.entries) key with
      | none => absent
      | some v => read v) = .ok x ↔
    ((∀ v, ¬Entry n key v) ∧ absent = .ok x) ∨ ∃ v, Entry n key v ∧ read v = .ok x := by
  rw [← field?_eq_none_iff]
  simp only [← h.field?_eq_some_iff]
  cases hfield : field? (named n.entries) key <;> simp

/-- The text of a field that has to be there. -/
theorem IsRecord.required_eq_ok_iff {s : String} :
    required (named n.entries) n key l = .ok s ↔ Field n key Text s := by
  refine h.read_eq_ok_iff.trans ?_
  simp [fail, string_eq_ok_iff, Field]

/-- The payload of a field that has to be there. -/
theorem IsRecord.requiredPayload_eq_ok_iff {place : Location} {p : Payload} :
    requiredPayload (named n.entries) n key l place = .ok p ↔ Field n key DescribesPayload p := by
  refine h.read_eq_ok_iff.trans ?_
  simp [fail, payload_eq_ok_iff, Field]

/-- What is read from a field that may be missing. -/
theorem IsRecord.ifPresent_eq_ok_iff {read : Node → Read α} {o : Option α}
    (hread : ∀ v x, read v = .ok x ↔ describes v x) :
    ifPresent (named n.entries) key read = .ok o ↔ FieldOf n key describes o := by
  refine h.read_eq_ok_iff.trans ?_
  simp only [map_eq_ok_iff, hread, FieldOf, FieldOr, Field, Except.ok.injEq, @eq_comm _ o]

/-- The text of a field that may be missing. -/
theorem IsRecord.optional_eq_ok_iff {o : Option String} :
    optional (named n.entries) key l = .ok o ↔ FieldOf n key Text o :=
  h.ifPresent_eq_ok_iff fun _ _ => string_eq_ok_iff

/-- The things that the items of a list describe, in a field that has to be there. -/
theorem IsRecord.requiredItems_iff {xs : List α} :
    (∃ ns, requiredItems (named n.entries) n key l = .ok ns ∧ List.Forall₂ describes ns xs) ↔
      Field n key (ListOf describes) xs := by
  have hitems : ∀ ns, requiredItems (named n.entries) n key l = .ok ns ↔
      ∃ v, Entry n key v ∧ NodeKind.of v = .list ∧ ns = v.items := fun ns => by
    refine h.read_eq_ok_iff.trans ?_
    simp [fail, items_eq_ok_iff]
  simp only [hitems]
  constructor
  · rintro ⟨_, ⟨v, hv, hlist, rfl⟩, hxs⟩
    exact ⟨v, hv, hlist, hxs⟩
  · rintro ⟨v, hv, hlist, hxs⟩
    exact ⟨_, ⟨v, hv, hlist, rfl⟩, hxs⟩

/-- What a field describes that is there. -/
theorem IsRecord.fieldOr_iff {absent x : α} (hv : Entry n key v) :
    FieldOr n key absent describes x ↔ describes v x := by
  constructor
  · rintro (⟨hnone, -⟩ | ⟨w, hw, hx⟩)
    · exact absurd hv (hnone v)
    · rwa [h.entry_unique hv hw]
  · exact fun hx => .inr ⟨v, hv, hx⟩

/-- The items of a list in a field that may be missing or null. -/
theorem IsRecord.optionalItems_eq_ok_iff {ns : List Node} :
    optionalItems (named n.entries) key l = .ok ns ↔ FieldOr n key []
      (fun v ms => (IsNull v ∧ ms = []) ∨ (NodeKind.of v = .list ∧ ms = v.items)) ns := by
  unfold optionalItems
  split
  · rename_i hfield
    rw [fieldOr_iff_of_missing (field?_eq_none_iff.1 hfield), Except.ok.injEq, eq_comm]
  · rename_i hfield
    rw [h.fieldOr_iff (h.field?_eq_some_iff.1 hfield)]
    simp [IsNull, NodeKind.of, Node.tag, eq_comm]
  · rename_i v hnull hfield
    rw [h.fieldOr_iff (h.field?_eq_some_iff.1 hfield), items_eq_ok_iff, or_iff_right]
    rintro ⟨⟨hkind, htag⟩, -⟩
    cases v <;> cases hkind
    cases htag
    exact hnull _ _ rfl

/-- The things that the items of a list describe, in a field that may be missing or null. -/
theorem IsRecord.optionalItems_iff {xs : List α} :
    (∃ ns, optionalItems (named n.entries) key l = .ok ns ∧ List.Forall₂ describes ns xs) ↔
      ListField n key describes xs := by
  simp only [h.optionalItems_eq_ok_iff, ListField, FieldOr, Field]
  constructor
  · rintro ⟨ns, ⟨hnone, rfl⟩ | ⟨v, hv, ⟨hnull, rfl⟩ | ⟨hlist, rfl⟩⟩, hxs⟩
    · exact .inl ⟨hnone, List.forall₂_nil_left_iff.1 hxs⟩
    · exact .inr ⟨v, hv, .inl ⟨hnull, List.forall₂_nil_left_iff.1 hxs⟩⟩
    · exact .inr ⟨v, hv, .inr ⟨hlist, hxs⟩⟩
  · rintro (⟨hnone, rfl⟩ | ⟨v, hv, ⟨hnull, rfl⟩ | ⟨hlist, hxs⟩⟩)
    · exact ⟨[], .inl ⟨hnone, rfl⟩, .nil⟩
    · exact ⟨[], .inr ⟨v, hv, .inl ⟨hnull, rfl⟩⟩, .nil⟩
    · exact ⟨v.items, .inr ⟨v, hv, .inr ⟨hlist, rfl⟩⟩, hxs⟩

/-- Reading the providers of a classification gives those that are described. -/
theorem IsRecord.providers_eq_ok_iff {ps : List String} :
    providers (named n.entries) = .ok ps ↔ FieldOr n "provider" [] DescribesProviders ps := by
  unfold providers
  split
  · rename_i hfield
    rw [fieldOr_iff_of_missing (field?_eq_none_iff.1 hfield), Except.ok.injEq, eq_comm]
  · rename_i tag text m hfield
    rw [h.fieldOr_iff (h.field?_eq_some_iff.1 hfield), bind_eq_ok_iff]
    constructor
    · rintro ⟨p, hp, ⟨⟩⟩
      exact .one (string_eq_ok_iff.1 hp)
    · rintro (⟨hp⟩ | ⟨⟨⟨⟩, _⟩⟩)
      exact ⟨_, string_eq_ok_iff.2 hp, rfl⟩
  · rename_i v hscalar hfield
    have hitems : ∀ ns ps, each (fun i item => string item (.item .provider i)) 0 ns = .ok ps ↔
        List.Forall₂ Text ns ps := fun ns ps =>
      each_eq_ok_iff 0 ns ps fun _ _ _ => string_eq_ok_iff
    rw [h.fieldOr_iff (h.field?_eq_some_iff.1 hfield), bind_eq_ok_iff]
    simp only [hitems, items_eq_ok_iff]
    constructor
    · rintro ⟨_, ⟨hlist, rfl⟩, hps⟩
      exact .list ⟨hlist, hps⟩
    · rintro (⟨_, _, _, rfl, _⟩ | ⟨hlist, hps⟩)
      · exact (hscalar _ _ _ rfl).elim
      · exact ⟨_, ⟨hlist, rfl⟩, hps⟩

end Fields

/-! ## Readers of the sections -/

/-- The fact that is read is the one that the node describes. -/
theorem fact_eq_ok_iff {i : Nat} {f : Fact} :
    fact strict i n = .ok f ↔ DescribesFact strict n f := by
  simp only [fact, bind_eq_ok_iff, fields_eq_ok_iff]
  constructor
  · rintro ⟨_, ⟨h, rfl⟩, name, hname, gatherer, hgatherer, argument, hargument, ⟨⟩⟩
    exact ⟨h, h.required_eq_ok_iff.1 hname, h.required_eq_ok_iff.1 hgatherer,
      h.required_eq_ok_iff.1 hargument⟩
  · rintro ⟨h, hname, hgatherer, hargument⟩
    exact ⟨_, ⟨h, rfl⟩, _, h.required_eq_ok_iff.2 hname, _, h.required_eq_ok_iff.2 hgatherer, _,
      h.required_eq_ok_iff.2 hargument, rfl⟩

/-- The condition that is read is the one that the node describes. -/
theorem condition_eq_ok_iff {name : String} {i : Nat} {c : Condition} :
    condition strict name i n = .ok c ↔ DescribesCondition strict n c := by
  simp only [condition, bind_eq_ok_iff, fields_eq_ok_iff]
  constructor
  · rintro ⟨_, ⟨h, rfl⟩, p, hp, w, hw, ⟨⟩⟩
    exact ⟨h, h.requiredPayload_eq_ok_iff.1 hp, h.required_eq_ok_iff.1 hw⟩
  · rintro ⟨h, hp, hw⟩
    exact ⟨_, ⟨h, rfl⟩, _, h.requiredPayload_eq_ok_iff.2 hp, _, h.required_eq_ok_iff.2 hw, rfl⟩

/-- The value that is read is the one that the node describes. -/
theorem value_eq_ok_iff {i : Nat} {v : Value} :
    value strict i n = .ok v ↔ DescribesValue strict n v := by
  have hconditions : ∀ name ns cs, each (condition strict name) 0 ns = .ok cs ↔
      List.Forall₂ (DescribesCondition strict) ns cs := fun name ns cs =>
    each_eq_ok_iff 0 ns cs fun _ _ _ => condition_eq_ok_iff
  simp only [value, bind_eq_ok_iff, fields_eq_ok_iff]
  constructor
  · rintro ⟨_, ⟨h, rfl⟩, name, hname, d, hd, ns, hns, cs, hcs, ⟨⟩⟩
    exact ⟨h, h.required_eq_ok_iff.1 hname, h.requiredPayload_eq_ok_iff.1 hd,
      h.optionalItems_iff.1 ⟨ns, hns, (hconditions name _ _).1 hcs⟩⟩
  · rintro ⟨h, hname, hd, hconds⟩
    obtain ⟨ns, hns, hcs⟩ := h.optionalItems_iff.2 hconds
    exact ⟨_, ⟨h, rfl⟩, _, h.required_eq_ok_iff.2 hname, _, h.requiredPayload_eq_ok_iff.2 hd, ns,
      hns, _, (hconditions _ _ _).2 hcs, rfl⟩

/-- The expectation that is read is the one that the node describes. -/
theorem expectation_eq_ok_iff {i : Nat} {e : Expectation} :
    expectation strict i n = .ok e ↔ DescribesExpectation strict n e := by
  simp only [expectation, bind_eq_ok_iff, fields_eq_ok_iff]
  constructor
  · rintro ⟨_, ⟨h, rfl⟩, name, hname, expect, hexpect, same, hsame, choice, hchoice, failure,
      hfailure, warning, hwarning, ⟨⟩⟩
    refine ⟨h, h.required_eq_ok_iff.1 hname, fun f => ?_, fun f => ?_⟩
    · cases f with
      | expect => exact h.optional_eq_ok_iff.1 hexpect
      | expectSame => exact h.optional_eq_ok_iff.1 hsame
      | expectEnum => exact h.optional_eq_ok_iff.1 hchoice
    · cases f with
      | failure => exact h.optional_eq_ok_iff.1 hfailure
      | warning => exact h.optional_eq_ok_iff.1 hwarning
  · rintro ⟨h, hname, hexpr, hmessage⟩
    exact ⟨_, ⟨h, rfl⟩, _, h.required_eq_ok_iff.2 hname,
      _, h.optional_eq_ok_iff.2 (hexpr .expect), _, h.optional_eq_ok_iff.2 (hexpr .expectSame),
      _, h.optional_eq_ok_iff.2 (hexpr .expectEnum),
      _, h.optional_eq_ok_iff.2 (hmessage .failure), _, h.optional_eq_ok_iff.2 (hmessage .warning),
      rfl⟩

/-- The classification that is read is the one that the node describes. -/
theorem metadata_eq_ok_iff {m : Metadata} :
    metadata strict n = .ok m ↔ DescribesMetadata strict n m := by
  simp only [metadata, bind_eq_ok_iff, fields_eq_ok_iff]
  constructor
  · rintro ⟨_, ⟨h, rfl⟩, t, ht, ps, hps, ⟨⟩⟩
    exact ⟨h, h.optional_eq_ok_iff.1 ht, h.providers_eq_ok_iff.1 hps⟩
  · rintro ⟨h, ht, hps⟩
    exact ⟨_, ⟨h, rfl⟩, _, h.optional_eq_ok_iff.2 ht, _, h.providers_eq_ok_iff.2 hps, rfl⟩

/-- The Check that is read is the one that the root describes. -/
theorem check_eq_ok_iff {c : Check} :
    Check.ofNode strict n = .ok c ↔ DescribesCheck strict n c := by
  have hfacts : ∀ ns fs, each (fact strict) 0 ns = .ok fs ↔
      List.Forall₂ (DescribesFact strict) ns fs := fun ns fs =>
    each_eq_ok_iff 0 ns fs fun _ _ _ => fact_eq_ok_iff
  have hvalues : ∀ ns vs, each (value strict) 0 ns = .ok vs ↔
      List.Forall₂ (DescribesValue strict) ns vs := fun ns vs =>
    each_eq_ok_iff 0 ns vs fun _ _ _ => value_eq_ok_iff
  have hexpectations : ∀ ns es, each (expectation strict) 0 ns = .ok es ↔
      List.Forall₂ (DescribesExpectation strict) ns es := fun ns es =>
    each_eq_ok_iff 0 ns es fun _ _ _ => expectation_eq_ok_iff
  simp only [Check.ofNode, bind_eq_ok_iff, fields_eq_ok_iff]
  constructor
  · rintro ⟨_, ⟨h, rfl⟩, id, hid, name, hname, group, hgroup, description, hdescription,
      remediation, hremediation, fns, hfns, fs, hfs, vns, hvns, vs, hvs, ens, hens, es, hes, m, hm,
      p, hp, ⟨⟩⟩
    exact ⟨h, h.required_eq_ok_iff.1 hid, h.required_eq_ok_iff.1 hname,
      h.required_eq_ok_iff.1 hgroup, h.required_eq_ok_iff.1 hdescription,
      h.required_eq_ok_iff.1 hremediation,
      (h.ifPresent_eq_ok_iff fun _ _ => metadata_eq_ok_iff).1 hm,
      h.requiredItems_iff.1 ⟨fns, hfns, (hfacts _ _).1 hfs⟩,
      h.optionalItems_iff.1 ⟨vns, hvns, (hvalues _ _).1 hvs⟩,
      h.optionalItems_iff.1 ⟨ens, hens, (hexpectations _ _).1 hes⟩,
      (h.ifPresent_eq_ok_iff fun _ _ => boolean_eq_ok_iff).1 hp⟩
  · intro hc
    have h := hc.record
    obtain ⟨fns, hfns, hfs⟩ := h.requiredItems_iff.2 hc.facts
    obtain ⟨vns, hvns, hvs⟩ := h.optionalItems_iff.2 hc.values
    obtain ⟨ens, hens, hes⟩ := h.optionalItems_iff.2 hc.expectations
    exact ⟨_, ⟨h, rfl⟩, _, h.required_eq_ok_iff.2 hc.id, _, h.required_eq_ok_iff.2 hc.name,
      _, h.required_eq_ok_iff.2 hc.group, _, h.required_eq_ok_iff.2 hc.description,
      _, h.required_eq_ok_iff.2 hc.remediation, _, hfns, _, (hfacts _ _).2 hfs,
      _, hvns, _, (hvalues _ _).2 hvs, _, hens, _, (hexpectations _ _).2 hes,
      _, (h.ifPresent_eq_ok_iff fun _ _ => metadata_eq_ok_iff).2 hc.metadata,
      _, (h.ifPresent_eq_ok_iff fun _ _ => boolean_eq_ok_iff).2 hc.premium, rfl⟩

/-! ## What has a description -/

section Sorts

variable {describes : Node → α → Prop} {sort : Node → Prop}
  (hsort : ∀ v, (∃ x, describes v x) ↔ sort v)

include hsort

/-- A list of things is described by a sequence of nodes that describe one each. -/
theorem exists_listOf_iff : (∃ xs, ListOf describes n xs) ↔ SequenceOf sort n := by
  have hforall : ∀ ns : List Node,
      (∃ xs, List.Forall₂ describes ns xs) ↔ ∀ item ∈ ns, sort item := fun ns => by
    induction ns with
    | nil => simp
    | cons n ns ih =>
      rw [List.forall_mem_cons, ← ih, ← hsort]
      constructor
      · rintro ⟨_, _ | ⟨hx, hxs⟩⟩
        exact ⟨⟨_, hx⟩, _, hxs⟩
      · rintro ⟨⟨x, hx⟩, xs, hxs⟩
        exact ⟨x :: xs, .cons hx hxs⟩
  rw [SequenceOf, ← hforall]
  exact exists_and_left

/-- A thing is described by a field of its sort. -/
theorem exists_field_iff : (∃ x, Field n key describes x) ↔ HasField n key sort := by
  simp only [HasField, ← hsort]
  constructor
  · rintro ⟨x, v, hv, hx⟩
    exact ⟨v, hv, x, hx⟩
  · rintro ⟨v, hv, x, hx⟩
    exact ⟨x, v, hv, hx⟩

/-- A thing is described by a field that is of its sort if it is there. -/
theorem IsRecord.exists_fieldOr_iff (h : IsRecord strict allowed n) {absent : α} :
    (∃ x, FieldOr n key absent describes x) ↔ MayField n key sort := by
  by_cases hfield : ∃ v, Entry n key v
  · obtain ⟨v, hv⟩ := hfield
    simp only [h.fieldOr_iff hv, hsort]
    constructor
    · intro hx w hw
      rwa [← h.entry_unique hv hw]
    · exact fun hmay => hmay v hv
  · rw [not_exists] at hfield
    simp only [fieldOr_iff_of_missing hfield, exists_eq, true_iff]
    exact fun v hv => absurd hv (hfield v)

/-- What may be missing is described by a field that is of its sort if it is there. -/
theorem IsRecord.exists_fieldOf_iff (h : IsRecord strict allowed n) :
    (∃ o, FieldOf n key describes o) ↔ MayField n key sort :=
  h.exists_fieldOr_iff fun v => by
    rw [← hsort]
    constructor
    · rintro ⟨o, x, hx, -⟩
      exact ⟨x, hx⟩
    · rintro ⟨x, hx⟩
      exact ⟨some x, x, hx, rfl⟩

/-- A list that may be missing is described by a field that is null or a list if it is there. -/
theorem IsRecord.exists_listField_iff (h : IsRecord strict allowed n) :
    (∃ xs, ListField n key describes xs) ↔
      MayField n key fun v => IsNull v ∨ SequenceOf sort v :=
  h.exists_fieldOr_iff fun v => by
    rw [← exists_listOf_iff hsort]
    constructor
    · rintro ⟨xs, ⟨hnull, -⟩ | hxs⟩
      · exact .inl hnull
      · exact .inr ⟨xs, hxs⟩
    · rintro (hnull | ⟨xs, hxs⟩)
      · exact ⟨[], .inl ⟨hnull, rfl⟩⟩
      · exact ⟨xs, .inr hxs⟩

end Sorts

/-- A node that stands for a text describes one. -/
theorem exists_text_iff (v : Node) : (∃ s, Text v s) ↔ IsText v := .rfl

/-- Payloads are described by constants and lists of them. -/
theorem exists_describesPayload_iff (v : Node) : (∃ p, DescribesPayload v p) ↔ IsPayload v := by
  have hconstant : ∀ v, (∃ c, StandsFor v c) ↔ IsConstant v := fun _ => .rfl
  rw [IsPayload, ← exists_listOf_iff hconstant]
  constructor
  · rintro ⟨_, hc | hcs⟩
    · exact .inl ⟨_, hc⟩
    · exact .inr ⟨_, hcs⟩
  · rintro (⟨c, hc⟩ | ⟨cs, hcs⟩)
    · exact ⟨_, .scalar hc⟩
    · exact ⟨_, .list hcs⟩

/-- Providers are described by texts and lists of them. -/
theorem exists_describesProviders_iff (v : Node) :
    (∃ ps, DescribesProviders v ps) ↔ IsText v ∨ SequenceOf IsText v := by
  rw [← exists_listOf_iff exists_text_iff]
  constructor
  · rintro ⟨_, hp | hps⟩
    · exact .inl ⟨_, hp⟩
    · exact .inr ⟨_, hps⟩
  · rintro (⟨p, hp⟩ | ⟨ps, hps⟩)
    · exact ⟨_, .one hp⟩
    · exact ⟨_, .list hps⟩

/-- The nodes of facts describe facts. -/
theorem exists_describesFact_iff (v : Node) :
    (∃ f, DescribesFact strict v f) ↔ IsFact strict v := by
  have htext : ∀ key, (∃ s, Field v key Text s) ↔ HasField v key IsText := fun _ =>
    exists_field_iff exists_text_iff
  constructor
  · rintro ⟨f, h, hname, hgatherer, hargument⟩
    exact ⟨h, (htext _).1 ⟨_, hname⟩, (htext _).1 ⟨_, hgatherer⟩, (htext _).1 ⟨_, hargument⟩⟩
  · rintro ⟨h, hname, hgatherer, hargument⟩
    obtain ⟨name, hname⟩ := (htext _).2 hname
    obtain ⟨gatherer, hgatherer⟩ := (htext _).2 hgatherer
    obtain ⟨argument, hargument⟩ := (htext _).2 hargument
    exact ⟨⟨name, gatherer, argument⟩, h, hname, hgatherer, hargument⟩

/-- The nodes of conditions describe conditions. -/
theorem exists_describesCondition_iff (v : Node) :
    (∃ c, DescribesCondition strict v c) ↔ IsCondition strict v := by
  constructor
  · rintro ⟨c, h, hp, hw⟩
    exact ⟨h, (exists_field_iff exists_describesPayload_iff).1 ⟨_, hp⟩,
      (exists_field_iff exists_text_iff).1 ⟨_, hw⟩⟩
  · rintro ⟨h, hp, hw⟩
    obtain ⟨p, hp⟩ := (exists_field_iff exists_describesPayload_iff).2 hp
    obtain ⟨w, hw⟩ := (exists_field_iff exists_text_iff).2 hw
    exact ⟨⟨p, w⟩, h, hp, hw⟩

/-- The nodes of values describe values. -/
theorem exists_describesValue_iff (v : Node) :
    (∃ x, DescribesValue strict v x) ↔ IsValue strict v := by
  constructor
  · rintro ⟨x, h, hname, hd, hcs⟩
    exact ⟨h, (exists_field_iff exists_text_iff).1 ⟨_, hname⟩,
      (exists_field_iff exists_describesPayload_iff).1 ⟨_, hd⟩,
      (h.exists_listField_iff exists_describesCondition_iff).1 ⟨_, hcs⟩⟩
  · rintro ⟨h, hname, hd, hcs⟩
    obtain ⟨name, hname⟩ := (exists_field_iff exists_text_iff).2 hname
    obtain ⟨d, hd⟩ := (exists_field_iff exists_describesPayload_iff).2 hd
    obtain ⟨cs, hcs⟩ := (h.exists_listField_iff exists_describesCondition_iff).2 hcs
    exact ⟨⟨name, d, cs⟩, h, hname, hd, hcs⟩

/-- The nodes of expectations describe expectations. -/
theorem exists_describesExpectation_iff (v : Node) :
    (∃ e, DescribesExpectation strict v e) ↔ IsExpectation strict v := by
  constructor
  · rintro ⟨e, h, hname, hexpr, hmessage⟩
    exact ⟨h, (exists_field_iff exists_text_iff).1 ⟨_, hname⟩,
      fun f => (h.exists_fieldOf_iff exists_text_iff).1 ⟨_, hexpr f⟩,
      fun f => (h.exists_fieldOf_iff exists_text_iff).1 ⟨_, hmessage f⟩⟩
  · rintro ⟨h, hname, hexpr, hmessage⟩
    obtain ⟨name, hname⟩ := (exists_field_iff exists_text_iff).2 hname
    choose expr hexpr using fun f => (h.exists_fieldOf_iff exists_text_iff).2 (hexpr f)
    choose message hmessage using fun f => (h.exists_fieldOf_iff exists_text_iff).2 (hmessage f)
    refine ⟨⟨name, expr .expect, expr .expectSame, expr .expectEnum, message .failure,
      message .warning⟩, h, hname, fun f => ?_, fun f => ?_⟩
    · cases f with
      | expect => exact hexpr .expect
      | expectSame => exact hexpr .expectSame
      | expectEnum => exact hexpr .expectEnum
    · cases f with
      | failure => exact hmessage .failure
      | warning => exact hmessage .warning

/-- The nodes of classifications describe classifications. -/
theorem exists_describesMetadata_iff (v : Node) :
    (∃ m, DescribesMetadata strict v m) ↔ IsMetadata strict v := by
  constructor
  · rintro ⟨m, h, ht, hps⟩
    exact ⟨h, (h.exists_fieldOf_iff exists_text_iff).1 ⟨_, ht⟩,
      (h.exists_fieldOr_iff exists_describesProviders_iff).1 ⟨_, hps⟩⟩
  · rintro ⟨h, ht, hps⟩
    obtain ⟨t, ht⟩ := (h.exists_fieldOf_iff exists_text_iff).2 ht
    obtain ⟨ps, hps⟩ := (h.exists_fieldOr_iff exists_describesProviders_iff).2 hps
    exact ⟨⟨t, ps⟩, h, ht, hps⟩

/-- The roots of Checks describe Checks. -/
theorem exists_describesCheck_iff (v : Node) :
    (∃ c, DescribesCheck strict v c) ↔ IsCheck strict v := by
  have htext : ∀ key, (∃ s, Field v key Text s) ↔ HasField v key IsText := fun _ =>
    exists_field_iff exists_text_iff
  have hfacts : (∃ fs, Field v "facts" (ListOf (DescribesFact strict)) fs) ↔
      HasField v "facts" (SequenceOf (IsFact strict)) :=
    exists_field_iff fun _ => exists_listOf_iff exists_describesFact_iff
  constructor
  · rintro ⟨c, hc⟩
    have h := hc.record
    exact ⟨h, (htext _).1 ⟨_, hc.id⟩, (htext _).1 ⟨_, hc.name⟩, (htext _).1 ⟨_, hc.group⟩,
      (htext _).1 ⟨_, hc.description⟩, (htext _).1 ⟨_, hc.remediation⟩,
      (h.exists_fieldOf_iff exists_describesMetadata_iff).1 ⟨_, hc.metadata⟩,
      hfacts.1 ⟨_, hc.facts⟩,
      (h.exists_listField_iff exists_describesValue_iff).1 ⟨_, hc.values⟩,
      (h.exists_listField_iff exists_describesExpectation_iff).1 ⟨_, hc.expectations⟩,
      (h.exists_fieldOf_iff fun _ => Iff.rfl).1 ⟨_, hc.premium⟩⟩
  · intro hc
    have h := hc.record
    obtain ⟨id, hid⟩ := (htext _).2 hc.id
    obtain ⟨name, hname⟩ := (htext _).2 hc.name
    obtain ⟨group, hgroup⟩ := (htext _).2 hc.group
    obtain ⟨description, hdescription⟩ := (htext _).2 hc.description
    obtain ⟨remediation, hremediation⟩ := (htext _).2 hc.remediation
    obtain ⟨m, hm⟩ := (h.exists_fieldOf_iff exists_describesMetadata_iff).2 hc.metadata
    obtain ⟨fs, hfs⟩ := hfacts.2 hc.facts
    obtain ⟨vs, hvs⟩ := (h.exists_listField_iff exists_describesValue_iff).2 hc.values
    obtain ⟨es, hes⟩ :=
      (h.exists_listField_iff exists_describesExpectation_iff).2 hc.expectations
    obtain ⟨p, hp⟩ := (h.exists_fieldOf_iff fun _ => Iff.rfl).2 hc.premium
    exact ⟨⟨id, name, group, description, remediation, m, fs, vs, es, p⟩, h, hid, hname, hgroup,
      hdescription, hremediation, hm, hfs, hvs, hes, hp⟩

end Schema

/-- A Check is read from the documents of the schema and from no others, and the Check that is read
is the one that the document describes, section by section and in order. -/
theorem Check.ofNode_eq_ok_iff (strict : Bool) (root : Node) :
    ((∃ c, Check.ofNode strict root = .ok c) ↔ Schema.IsCheck strict root) ∧
      ∀ c, Check.ofNode strict root = .ok c ↔ Schema.DescribesCheck strict root c := by
  refine ⟨?_, fun c => Schema.check_eq_ok_iff⟩
  rw [← Schema.exists_describesCheck_iff]
  exact exists_congr fun c => Schema.check_eq_ok_iff

end CheckDoc
