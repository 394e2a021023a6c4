import CheckDoc.Proofs.Document.Schema

/-!
# What comes of a document

A source gives a Check or a defect with a place, unless one of two things goes wrong in it: a
scalar does not fit its tag, or a number in an escape or a version is out of range
(`Check.meets_load`). The readers of the schema build a scalar only where it stands as a value, so
a key may have any tag.
-/

namespace CheckDoc

open Yaml (Node Datum)

/-- The nodes that stand in a document as values: its root, the items of their sequences and the
values of their mappings. -/
inductive Yaml.Node.Holds (root : Node) : Node → Prop
  /-- The root. -/
  | root : Holds root root
  /-- An item of a sequence. -/
  | item {n x : Node} (hn : Holds root n) (hx : x ∈ n.items) : Holds root x
  /-- A value of a mapping. -/
  | value {n k v : Node} (hn : Holds root n) (hv : (k, v) ∈ n.entries) : Holds root v

/-- The places of a node and of its keys. -/
inductive Yaml.Node.Marks (n : Node) : Yaml.Mark → Prop
  /-- The place of the node. -/
  | node : Marks n n.mark
  /-- The place of a key. -/
  | key {k v : Node} (hk : (k, v) ∈ n.entries) : Marks n k.mark

namespace Schema

/-- Why the reading of a document fails: for a defect at one of its nodes or keys, or for a scalar
that does not fit its tag. -/
inductive Failure (root : Node) : LoadError → Prop
  /-- A defect. -/
  | defect {n : Node} {cause : DefectCause} {m : Yaml.Mark} (hn : root.Holds n) (hm : n.Marks m) :
    Failure root (.defect ⟨cause, positionOf m⟩)
  /-- A scalar. -/
  | scalar {tag : Yaml.Tag} {value : String} {m : Yaml.Mark} {e : Yaml.BuildError}
    (hn : root.Holds (.scalar tag value m)) (he : Datum.ofScalar tag value m = .error e) :
    Failure root (.build e)

variable {α : Type} {root n : Node} {l : Location} {key : String} {strict : Bool} {q : α → Prop}

/-! ## Nodes -/

section Nodes

variable (hn : root.Holds n)

include hn

/-- A node that is refused is a node of the document. -/
theorem meets_fail (cause : DefectCause) : Meets (Failure root) q (fail n cause) :=
  .error (.defect hn .node)

/-- Reading a constant. -/
theorem meets_scalar : Meets (Failure root) (fun _ => True) (scalar n l) := by
  cases n with
  | scalar tag value m =>
    unfold scalar
    dsimp only
    split
    · exact .ok trivial
    · exact meets_fail hn _
    · rename_i e he
      exact .error (.scalar hn he)
  | sequence _ _ _ => exact meets_fail hn _
  | mapping _ _ _ => exact meets_fail hn _

/-- Reading a text. -/
theorem meets_string : Meets (Failure root) (fun _ => True) (string n l) := by
  refine (meets_scalar hn).bind fun c _ => ?_
  cases c with
  | str s => exact .ok trivial
  | int _ => exact meets_fail hn _
  | float _ => exact meets_fail hn _
  | bool _ => exact meets_fail hn _

/-- Reading a truth value. -/
theorem meets_boolean : Meets (Failure root) (fun _ => True) (boolean n l) := by
  refine (meets_scalar hn).bind fun c _ => ?_
  cases c with
  | bool b => exact .ok trivial
  | str _ => exact meets_fail hn _
  | int _ => exact meets_fail hn _
  | float _ => exact meets_fail hn _

/-- The items of a list stand in the document. -/
theorem meets_items :
    Meets (Failure root) (fun ns => ∀ x ∈ ns, root.Holds x) (items n key l) := by
  cases n with
  | sequence tag ns m => exact .ok fun x hx => hn.item hx
  | scalar _ _ _ => exact meets_fail hn _
  | mapping _ _ _ => exact meets_fail hn _

omit hn in
/-- Reading nodes one by one. -/
theorem meets_each {read : Nat → Node → Read α} {ns : List Node}
    (hread : ∀ i, ∀ x ∈ ns, Meets (Failure root) (fun _ => True) (read i x)) (k : Nat) :
    Meets (Failure root) (fun _ => True) (each read k ns) := by
  induction ns generalizing k with
  | nil => exact .ok trivial
  | cons n ns ih =>
    refine (hread k n List.mem_cons_self).bind fun x _ => ?_
    refine (ih (fun i y hy => hread i y (List.mem_cons_of_mem n hy)) (k + 1)).bind fun xs _ => ?_
    exact .ok trivial

/-- Reading a payload. -/
theorem meets_payload : Meets (Failure root) (fun _ => True) (payload n l) := by
  cases n with
  | sequence tag ns m =>
    exact (meets_each (fun i x hx => meets_scalar (hn.item hx)) 0).map fun _ _ => trivial
  | scalar _ _ _ => exact (meets_scalar hn).map fun _ _ => trivial
  | mapping _ _ _ => exact (meets_scalar hn).map fun _ _ => trivial

/-- The entries of a mapping are refused at their keys. -/
theorem meets_fieldsFrom {allowed : List String} {es : List (Node × Node)}
    (hes : es ⊆ n.entries) {seen : Fields} (hseen : ∀ f ∈ seen, root.Holds f.2) :
    Meets (Failure root) (fun fs => ∀ f ∈ fs, root.Holds f.2)
      (fieldsFrom strict l allowed seen es) := by
  induction es generalizing seen with
  | nil => exact .ok hseen
  | cons e es ih =>
    obtain ⟨k, v⟩ := e
    obtain ⟨he, hmore⟩ := List.cons_subset.1 hes
    have hkey : ∀ cause, Meets (Failure root) (fun fs : Fields => ∀ f ∈ fs, root.Holds f.2)
        (fail k cause) := fun cause => .error (.defect hn (.key he))
    cases k with
    | scalar tag key m =>
      rw [fieldsFrom]
      split_ifs
      · exact hkey _
      · exact hkey _
      · refine ih hmore fun f hf => ?_
        rcases List.mem_append.1 hf with hf | hf
        · exact hseen f hf
        · rw [List.mem_singleton.1 hf]
          exact hn.value he
    | sequence _ _ _ => exact hkey _
    | mapping _ _ _ => exact hkey _

/-- The fields of a mapping stand in the document. -/
theorem meets_fields {allowed : List String} :
    Meets (Failure root) (fun fs => ∀ f ∈ fs, root.Holds f.2) (fields strict n l allowed) := by
  cases n with
  | mapping tag es m => exact meets_fieldsFrom hn (List.Subset.refl es) fun _ hf => nomatch hf
  | scalar _ _ _ => exact meets_fail hn _
  | sequence _ _ _ => exact meets_fail hn _

end Nodes

/-! ## Fields -/

section Fields

variable {fs : Fields} (hfs : ∀ f ∈ fs, root.Holds f.2)

include hfs

/-- A field that is looked up stands in the document. -/
theorem holds_of_field? {v : Node} (hv : field? fs key = some v) : root.Holds v := by
  obtain ⟨f, hf, rfl⟩ := Option.map_eq_some_iff.1 hv
  exact hfs f (List.mem_of_find?_eq_some hf)

/-- Reading a text that may be missing. -/
theorem meets_optional : Meets (Failure root) (fun _ => True) (optional fs key l) := by
  unfold optional
  cases hfield : field? fs key with
  | none => exact .ok trivial
  | some v => exact (meets_string (holds_of_field? hfs hfield)).map fun _ _ => trivial

/-- The items of a list that may be missing. -/
theorem meets_optionalItems :
    Meets (Failure root) (fun ns => ∀ x ∈ ns, root.Holds x) (optionalItems fs key l) := by
  unfold optionalItems
  split
  · exact .ok fun _ hx => nomatch hx
  · exact .ok fun _ hx => nomatch hx
  · rename_i v _ hfield
    exact meets_items (holds_of_field? hfs hfield)

/-- Reading a field that may be missing. -/
theorem meets_ifPresent {read : Node → Read α}
    (hread : ∀ v, root.Holds v → Meets (Failure root) (fun _ => True) (read v)) :
    Meets (Failure root) (fun _ => True) (ifPresent fs key read) := by
  unfold ifPresent
  cases hfield : field? fs key with
  | none => exact .ok trivial
  | some v => exact (hread v (holds_of_field? hfs hfield)).map fun _ _ => trivial

/-- Reading the providers. -/
theorem meets_providers : Meets (Failure root) (fun _ => True) (providers fs) := by
  unfold providers
  split
  · exact .ok trivial
  · rename_i hfield
    exact (meets_string (holds_of_field? hfs hfield)).bind fun _ _ => .ok trivial
  · rename_i v _ hfield
    refine (meets_items (holds_of_field? hfs hfield)).bind fun ns hns => ?_
    exact meets_each (fun _ x hx => meets_string (hns x hx)) 0

variable (hn : root.Holds n)

include hn

/-- Reading a text that has to be there. -/
theorem meets_required : Meets (Failure root) (fun _ => True) (required fs n key l) := by
  unfold required
  cases hfield : field? fs key with
  | none => exact meets_fail hn _
  | some v => exact meets_string (holds_of_field? hfs hfield)

/-- Reading a payload that has to be there. -/
theorem meets_requiredPayload {place : Location} :
    Meets (Failure root) (fun _ => True) (requiredPayload fs n key l place) := by
  unfold requiredPayload
  cases hfield : field? fs key with
  | none => exact meets_fail hn _
  | some v => exact meets_payload (holds_of_field? hfs hfield)

/-- The items of a list that has to be there. -/
theorem meets_requiredItems :
    Meets (Failure root) (fun ns => ∀ x ∈ ns, root.Holds x) (requiredItems fs n key l) := by
  unfold requiredItems
  cases hfield : field? fs key with
  | none => exact meets_fail hn _
  | some v => exact meets_items (holds_of_field? hfs hfield)

end Fields

/-! ## Mappings -/

section Mappings

variable (hn : root.Holds n)

include hn

/-- Reading a fact. -/
theorem meets_fact (i : Nat) : Meets (Failure root) (fun _ => True) (fact strict i n) := by
  refine (meets_fields hn).bind fun fs hfs => ?_
  refine (meets_required hfs hn).bind fun name _ => ?_
  refine (meets_required hfs hn).bind fun gatherer _ => ?_
  exact (meets_required hfs hn).bind fun argument _ => .ok trivial

/-- Reading a condition. -/
theorem meets_condition (v : String) (i : Nat) :
    Meets (Failure root) (fun _ => True) (condition strict v i n) := by
  refine (meets_fields hn).bind fun fs hfs => ?_
  refine (meets_requiredPayload hfs hn).bind fun p _ => ?_
  exact (meets_required hfs hn).bind fun w _ => .ok trivial

/-- Reading a value. -/
theorem meets_value (i : Nat) : Meets (Failure root) (fun _ => True) (value strict i n) := by
  refine (meets_fields hn).bind fun fs hfs => ?_
  refine (meets_required hfs hn).bind fun name _ => ?_
  refine (meets_requiredPayload hfs hn).bind fun d _ => ?_
  refine (meets_optionalItems hfs).bind fun ns hns => ?_
  exact (meets_each (fun j x hx => meets_condition (hns x hx) name j) 0).bind
    fun cs _ => .ok trivial

/-- Reading an expectation. -/
theorem meets_expectation (i : Nat) :
    Meets (Failure root) (fun _ => True) (expectation strict i n) := by
  refine (meets_fields hn).bind fun fs hfs => ?_
  refine (meets_required hfs hn).bind fun name _ => ?_
  refine (meets_optional hfs).bind fun expect _ => ?_
  refine (meets_optional hfs).bind fun same _ => ?_
  refine (meets_optional hfs).bind fun choice _ => ?_
  refine (meets_optional hfs).bind fun failure _ => ?_
  exact (meets_optional hfs).bind fun warning _ => .ok trivial

/-- Reading the classification. -/
theorem meets_metadata : Meets (Failure root) (fun _ => True) (metadata strict n) := by
  refine (meets_fields hn).bind fun fs hfs => ?_
  refine (meets_optional hfs).bind fun targetType _ => ?_
  exact (meets_providers hfs).bind fun ps _ => .ok trivial

end Mappings

end Schema

open Schema in
/-- Reading a Check fails for a defect at a node or key of the document, or for a scalar in it that
does not fit its tag. -/
theorem Check.meets_ofNode (strict : Bool) (root : Node) :
    Meets (Failure root) (fun _ => True) (Check.ofNode strict root) := by
  have hroot : root.Holds root := .root
  refine (meets_fields hroot).bind fun fs hfs => ?_
  refine (meets_required hfs hroot).bind fun id _ => ?_
  refine (meets_required hfs hroot).bind fun name _ => ?_
  refine (meets_required hfs hroot).bind fun group _ => ?_
  refine (meets_required hfs hroot).bind fun description _ => ?_
  refine (meets_required hfs hroot).bind fun remediation _ => ?_
  refine (meets_requiredItems hfs hroot).bind fun ns hns => ?_
  refine (meets_each (fun i x hx => meets_fact (hns x hx) i) 0).bind fun facts _ => ?_
  refine (meets_optionalItems hfs).bind fun ns hns => ?_
  refine (meets_each (fun i x hx => meets_value (hns x hx) i) 0).bind fun values _ => ?_
  refine (meets_optionalItems hfs).bind fun ns hns => ?_
  refine (meets_each (fun i x hx => meets_expectation (hns x hx) i) 0).bind fun xs _ => ?_
  refine (meets_ifPresent hfs fun v hv => meets_metadata hv).bind fun m _ => ?_
  exact (meets_ifPresent hfs fun v hv => meets_boolean hv).bind fun premium _ => .ok trivial

/-! ## Sources -/

/-- The places where a defect of a document can be. -/
inductive Source.Locates (source : Source) : Position → Prop
  /-- The start, for a document that has no text or no node, or a character that may not stand in
  it. -/
  | start : Locates source .start
  /-- The place of a fault in the structure of the text. -/
  | fault {text : String} {f : Yaml.Fault} (htext : source.decode = .ok text)
    (hf : Yaml.readNode text.toList = .error (.fault f)) : Locates source (positionOf f.mark)
  /-- The place of a node or of a key. -/
  | node {text : String} {root n : Node} {m : Yaml.Mark} (htext : source.decode = .ok text)
    (hroot : Yaml.readNode text.toList = .ok (some root)) (hn : root.Holds n) (hm : n.Marks m) :
    Locates source (positionOf m)

/-- Lines and columns are counted from one. -/
theorem Source.Locates.pos {source : Source} {p : Position} (h : source.Locates p) :
    0 < p.line ∧ 0 < p.column := by
  cases h with
  | start => exact ⟨Nat.one_pos, Nat.one_pos⟩
  | fault _ _ => exact ⟨Nat.succ_pos _, Nat.succ_pos _⟩
  | node _ _ _ _ => exact ⟨Nat.succ_pos _, Nat.succ_pos _⟩

/-- What no place is told for: a scalar of the document that does not fit its tag, or a number in
its text that is out of range. -/
inductive Source.Escapes (source : Source) : LoadError → Prop
  /-- A scalar that stands as a value. -/
  | scalar {text : String} {root : Node} {tag : Yaml.Tag} {value : String} {m : Yaml.Mark}
    {e : Yaml.BuildError} (htext : source.decode = .ok text)
    (hroot : Yaml.readNode text.toList = .ok (some root))
    (hn : root.Holds (.scalar tag value m)) (he : Datum.ofScalar tag value m = .error e) :
    Escapes source (.build e)
  /-- A number in an escape or a version. -/
  | number {text : String} {f : Yaml.Fault} {n : Yaml.NumberFault}
    (htext : source.decode = .ok text) (hf : Yaml.readNode text.toList = .error (.fault f))
    (hn : f.problem = .number n) : Escapes source (.number n)

/-- Loading fails for a defect at a place of the document, or for something that escapes. -/
theorem Check.meets_load (strict : Bool) (source : Source) :
    Meets (fun e => (∃ d, e = .defect d ∧ source.Locates d.position) ∨ source.Escapes e)
      (fun _ => True) (Check.load strict source) := by
  rw [Check.load]
  cases htext : source.decode with
  | error e =>
    -- A text is always decoded, and octets fail with a defect at the start.
    unfold Source.decode at htext
    split at htext
    · cases htext
    · split at htext
      · cases htext
      · cases htext
        exact .error (.inl ⟨_, rfl, .start⟩)
  | ok text =>
    change Meets _ _ (Check.ofText strict text)
    unfold Check.ofText
    split
    · exact .error (.inl ⟨_, rfl, .start⟩)
    · rename_i f hf
      split
      · rename_i n hn
        exact .error (.inr (.number htext hf hn))
      · exact .error (.inl ⟨_, rfl, .fault htext hf⟩)
    · exact .error (.inl ⟨_, rfl, .start⟩)
    · rename_i root hroot
      refine (Check.meets_ofNode strict root).mono fun e he => ?_
      cases he with
      | defect hn hm => exact .inl ⟨_, rfl, .node htext hroot hn hm⟩
      | scalar hn he => exact .inr (.scalar htext hroot hn he)

end CheckDoc
