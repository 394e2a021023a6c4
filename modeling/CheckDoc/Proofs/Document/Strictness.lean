import CheckDoc.Proofs.Document.Schema

/-!
# Unknown keys

A strict reading refuses unknown keys and a lenient one passes over them, and there is no other
difference: the lenient reading of a document is the strict reading of what is left of it without
its unknown keys (`Check.ofNode_strict_lenient`). Only the repetition of a key is refused whether
or not the key is known.

Both comparisons are of one kind. Two readings go through two documents in step, where the second
document is the first with each mapping changed in some way; they agree on the Check if they agree
on the fields of each mapping (`Schema.agree_ofNode`).
-/

namespace CheckDoc

open Yaml (Node)

namespace Schema

/-! ## The mappings of a document -/

/-- The mappings that are read in a document, and how they are named in reports. -/
inductive Place (root : Node) : Section → Location → Node → Prop
  /-- The root. -/
  | check : Place root .check .check root
  /-- The classification. -/
  | metadata {v : Node} (hv : Entry root "metadata" v) : Place root .metadata .metadata v
  /-- The facts. -/
  | fact {v n : Node} {i : Nat} (hv : Entry root "facts" v) (hn : v.items[i]? = some n) :
    Place root .fact (.fact i) n
  /-- The values. -/
  | value {v n : Node} {i : Nat} (hv : Entry root "values" v) (hn : v.items[i]? = some n) :
    Place root .value (.value i) n
  /-- The conditions of a value. -/
  | condition {w v n : Node} {j i : Nat} {name : String} (hw : Place root .value (.value j) w)
    (hname : Field w "name" Text name) (hv : Entry w "conditions" v)
    (hn : v.items[i]? = some n) : Place root .condition (.condition name i) n
  /-- The expectations. -/
  | expectation {v n : Node} {i : Nat} (hv : Entry root "expectations" v)
    (hn : v.items[i]? = some n) : Place root .expectation (.expectation i) n

/-- Changes the items of a sequence. -/
def mapItems (f : Node → Node) : Node → Node
  | .sequence tag ns m => .sequence tag (ns.map f) m
  | n => n

/-- How the node of a field is changed where each mapping is changed in some way. -/
def Section.inner (change : Section → Node → Node) : Section → String → Node → Node
  | .check, "metadata" => change .metadata
  | .check, "facts" => mapItems (change .fact)
  | .check, "values" => mapItems (change .value)
  | .check, "expectations" => mapItems (change .expectation)
  | .value, "conditions" => mapItems (change .condition)
  | _, _ => id

/-- An entry whose key is allowed, with its node changed; a key that is a collection stays. -/
def keepEntry (allowed : List String) (inner : String → Node → Node) (e : Node × Node) :
    Option (Node × Node) :=
  match e.1.text? with
  | none => some e
  | some key => if key ∈ allowed then some (e.1, inner key e.2) else none

/-- Deletes the entries of a mapping whose keys are not allowed, and changes the nodes of the
others. -/
def deleteUnknown (allowed : List String) (inner : String → Node → Node) : Node → Node
  | .mapping tag es m => .mapping tag (es.filterMap (keepEntry allowed inner)) m
  | n => n

/-- Deletes the unknown entries of a mapping after a change of the mappings in it. -/
def pruneWith (change : Section → Node → Node) (sec : Section) : Node → Node :=
  deleteUnknown sec.known (sec.inner change)

/-- Deletes the unknown entries of a mapping and of all mappings in it that are read. They are at
most three deep: the conditions of the values of a Check. -/
def prune : Section → Node → Node := pruneWith (pruneWith (pruneWith fun _ => id))

/-- How many mappings can lie in each other below a mapping that is read. -/
def Section.height : Section → Nat
  | .check => 2
  | .value => 1
  | .metadata | .fact | .condition | .expectation => 0

/-- A change of a field depends on how the lower mappings are changed. -/
theorem inner_congr {change change' : Section → Node → Node} {sec : Section}
    (h : ∀ lower : Section, lower.height < sec.height → change lower = change' lower) :
    sec.inner change = sec.inner change' := by
  funext key
  unfold Section.inner
  split
  · rw [h .metadata (by decide)]
  · rw [h .fact (by decide)]
  · rw [h .value (by decide)]
  · rw [h .expectation (by decide)]
  · rw [h .condition (by decide)]
  · rfl

/-- All mappings in a mapping are pruned as it is. -/
theorem prune_eq (sec : Section) : prune sec = deleteUnknown sec.known (sec.inner prune) := by
  -- Each step goes down one mapping, and there is no fourth step.
  have hheight : sec.height ≤ 2 := by cases sec <;> decide
  refine congrArg (deleteUnknown sec.known) (inner_congr fun a ha => ?_)
  refine congrArg (deleteUnknown a.known) (inner_congr fun b hb => ?_)
  refine congrArg (deleteUnknown b.known) (inner_congr fun c hc => ?_)
  omega

/-- A change of nothing changes nothing in a field. -/
theorem inner_id (sec : Section) (key : String) : sec.inner (fun _ n => n) key = id := by
  have hitems : mapItems (fun n => n) = id := funext fun n => by cases n <;> simp [mapItems]
  unfold Section.inner
  split
  · rfl
  · exact hitems
  · exact hitems
  · exact hitems
  · exact hitems
  · rfl

/-- A pruned node is where it was. -/
theorem mark_prune (sec : Section) (n : Node) : (prune sec n).mark = n.mark := by
  rw [prune_eq]
  cases n <;> rfl

/-! ## Two readings in step -/

/-- The fields of a changed mapping are the changed fields of the mapping, as far as their keys are
known. -/
def Mirrors (change : Section → Node → Node) (sec : Section) (fs fs' : Fields) : Prop :=
  ∀ key ∈ sec.known, field? fs' key = (field? fs key).map (sec.inner change key)

/-- The nodes of a list field are changed one by one. -/
def Listed (n : Node) (key : String) (change : Node → Node) (ns ns' : List Node) : Prop :=
  ns' = ns.map change ∧ ∀ (i : Nat) (x : Node), ns[i]? = some x →
    ∃ v, Entry n key v ∧ v.items[i]? = some x

variable {α : Type} {excused : LoadError → Prop} {change : Section → Node → Node} {sec : Section}
  {n n' : Node} {fs fs' : Fields} {key : String} {l : Location}

/-- The fields that are read are entries of the mapping. -/
theorem entry_of_fields {strict : Bool} {allowed : List String} {v : Node}
    (h : fields strict n l allowed = .ok fs) (hv : field? fs key = some v) : Entry n key v := by
  obtain ⟨hrecord, rfl⟩ := fields_eq_ok_iff.1 h
  exact hrecord.field?_eq_some_iff.1 hv

namespace Mirrors

variable (h : Mirrors change sec fs fs')

include h

/-- A field whose node is not changed is the same field. -/
theorem field?_eq (hkey : key ∈ sec.known) (hid : sec.inner change key = id) :
    field? fs' key = field? fs key := by
  rw [h key hkey, hid, Option.map_id_fun, id]

/-- A text that has to be there is read alike. -/
theorem required_eq (hmark : n'.mark = n.mark) (hkey : key ∈ sec.known)
    (hid : sec.inner change key = id) : required fs' n' key l = required fs n key l := by
  rw [required, required, h.field?_eq hkey hid, fail, fail, hmark]

/-- A payload that has to be there is read alike. -/
theorem requiredPayload_eq (hmark : n'.mark = n.mark) {place : Location} (hkey : key ∈ sec.known)
    (hid : sec.inner change key = id) :
    requiredPayload fs' n' key l place = requiredPayload fs n key l place := by
  rw [requiredPayload, requiredPayload, h.field?_eq hkey hid, fail, fail, hmark]

/-- A text that may be missing is read alike. -/
theorem optional_eq (hkey : key ∈ sec.known) (hid : sec.inner change key = id) :
    optional fs' key l = optional fs key l := by
  rw [optional, optional, h.field?_eq hkey hid]

/-- A field that may be missing is read in agreement if its node is. -/
theorem agree_ifPresent {read read' : Node → Read α} {f : Node → Node} (hkey : key ∈ sec.known)
    (hf : sec.inner change key = f)
    (hread : ∀ v, field? fs key = some v → Agree excused Eq (read v) (read' (f v))) :
    Agree excused Eq (ifPresent fs key read) (ifPresent fs' key read') := by
  unfold ifPresent
  rw [h key hkey, hf]
  cases hfield : field? fs key with
  | none => exact .refl _
  | some v => exact Agree.bind_eq (hread v hfield) fun _ _ => .refl _

/-- The items of a list that has to be there are changed one by one. -/
theorem agree_requiredItems (hmark : n'.mark = n.mark) {f : Node → Node} (hkey : key ∈ sec.known)
    (hf : sec.inner change key = mapItems f)
    (hentry : ∀ v, field? fs key = some v → Entry n key v) :
    Agree excused (Listed n key f) (requiredItems fs n key l) (requiredItems fs' n' key l) := by
  unfold requiredItems
  rw [h key hkey, hf]
  cases hfield : field? fs key with
  | none =>
    rw [fail, fail, hmark]
    exact .error _
  | some v =>
    cases v with
    | scalar _ _ _ => exact .error _
    | mapping _ _ _ => exact .error _
    | sequence tag ns m => exact .ok ⟨rfl, fun i x hx => ⟨_, hentry _ hfield, hx⟩⟩

/-- The items of a list that may be missing are changed one by one. -/
theorem agree_optionalItems {f : Node → Node} (hkey : key ∈ sec.known)
    (hf : sec.inner change key = mapItems f)
    (hentry : ∀ v, field? fs key = some v → Entry n key v) :
    Agree excused (Listed n key f) (optionalItems fs key l) (optionalItems fs' key l) := by
  unfold optionalItems
  rw [h key hkey, hf]
  cases hfield : field? fs key with
  | none => exact .ok ⟨rfl, nofun⟩
  | some v =>
    cases v with
    | scalar tag _ _ =>
      cases tag with
      | null => exact .ok ⟨rfl, nofun⟩
      | _ => exact .error _
    | mapping _ _ _ => exact .error _
    | sequence tag ns m => exact .ok ⟨rfl, fun i x hx => ⟨_, hentry _ hfield, hx⟩⟩

end Mirrors

/-- Two readings of nodes that are changed one by one agree if those of each node do. -/
theorem agree_each {read read' : Nat → Node → Read α} {f : Node → Node} {k : Nat}
    {ns : List Node} (h : ∀ (i : Nat) (x : Node), ns[i]? = some x →
      Agree excused Eq (read (k + i) x) (read' (k + i) (f x))) :
    Agree excused Eq (each read k ns) (each read' k (ns.map f)) := by
  induction ns generalizing k with
  | nil => exact .refl _
  | cons n ns ih =>
    refine (h 0 n rfl).bind_eq fun x _ => Agree.bind_eq (ih fun i y hy => ?_) fun xs _ => .refl _
    rw [Nat.add_assoc, Nat.add_comm 1 i]
    exact h (i + 1) y hy

/-- Two readings of a list field agree if those of its items do. -/
theorem Listed.agree_each {read read' : Nat → Node → Read α} {f : Node → Node}
    {ns ns' : List Node} (h : Listed n key f ns ns')
    (hread : ∀ {v x i}, Entry n key v → v.items[i]? = some x →
      Agree excused Eq (read i x) (read' i (f x))) :
    Agree excused Eq (each read 0 ns) (each read' 0 ns') := by
  obtain ⟨rfl, hns⟩ := h
  refine Schema.agree_each fun i x hx => ?_
  obtain ⟨v, hv, hx⟩ := hns i x hx
  rw [Nat.zero_add]
  exact hread hv hx

/-- A name that is read is that of the mapping. -/
theorem field_of_required {s : String} (h : required fs n key l = .ok s)
    (hentry : ∀ v, field? fs key = some v → Entry n key v) : Field n key Text s := by
  unfold required at h
  split at h
  · cases h
  · rename_i v hfield
    exact ⟨v, hentry v hfield, string_eq_ok_iff.1 h⟩

section Readings

variable {strict strict' : Bool} {root : Node} {i : Nat}
  (hmark : ∀ sec n, (change sec n).mark = n.mark)
  (hfields : ∀ {sec l n}, Place root sec l n → Agree excused (Mirrors change sec)
    (fields strict n l sec.known) (fields strict' (change sec n) l sec.known))

include hfields

/-- The readings of a mapping agree if they go on in agreement from fields that mirror each
other. -/
theorem agree_bind_fields {f g : Fields → Read α} (hplace : Place root sec l n)
    (hf : ∀ fs fs', Mirrors change sec fs fs' →
      (∀ key v, field? fs key = some v → Entry n key v) → Agree excused Eq (f fs) (g fs')) :
    Agree excused Eq (fields strict n l sec.known >>= f)
      (fields strict' (change sec n) l sec.known >>= g) :=
  (hfields hplace).bind fun fs fs' hok h => hf fs fs' h fun _ _ hv => entry_of_fields hok hv

include hmark

/-- The readings of a fact agree. -/
theorem agree_fact (hplace : Place root .fact (.fact i) n) :
    Agree excused Eq (fact strict i n) (fact strict' i (change .fact n)) := by
  refine agree_bind_fields hfields hplace fun fs fs' h _ => ?_
  have hmark := hmark .fact n
  rw [h.required_eq hmark (by decide) rfl, h.required_eq hmark (by decide) rfl,
    h.required_eq hmark (by decide) rfl]
  exact .refl _

/-- The readings of a condition agree. -/
theorem agree_condition {name : String}
    (hplace : Place root .condition (.condition name i) n) :
    Agree excused Eq (condition strict name i n)
      (condition strict' name i (change .condition n)) := by
  refine agree_bind_fields hfields hplace fun fs fs' h _ => ?_
  have hmark := hmark .condition n
  rw [h.requiredPayload_eq hmark (by decide) rfl, h.required_eq hmark (by decide) rfl]
  exact .refl _

/-- The readings of a value agree. -/
theorem agree_value (hplace : Place root .value (.value i) n) :
    Agree excused Eq (value strict i n) (value strict' i (change .value n)) := by
  refine agree_bind_fields hfields hplace fun fs fs' h hentry => ?_
  have hmark' := hmark .value n
  rw [h.required_eq hmark' (by decide) rfl]
  refine .bind_same fun name hname => ?_
  rw [h.requiredPayload_eq hmark' (by decide) rfl]
  refine .bind_same fun d _ => ?_
  refine (h.agree_optionalItems (by decide) rfl (hentry _)).bind fun ns ns' _ hns => ?_
  exact Agree.bind_eq (hns.agree_each fun hv hx => agree_condition hmark hfields
    (.condition hplace (field_of_required hname (hentry _)) hv hx)) fun _ _ => .refl _

/-- The readings of an expectation agree. -/
theorem agree_expectation (hplace : Place root .expectation (.expectation i) n) :
    Agree excused Eq (expectation strict i n) (expectation strict' i (change .expectation n)) := by
  refine agree_bind_fields hfields hplace fun fs fs' h _ => ?_
  rw [h.required_eq (hmark .expectation n) (by decide) rfl, h.optional_eq (by decide) rfl,
    h.optional_eq (by decide) rfl, h.optional_eq (by decide) rfl, h.optional_eq (by decide) rfl,
    h.optional_eq (by decide) rfl]
  exact .refl _

omit hmark in
/-- The readings of a classification agree. -/
theorem agree_metadata (hplace : Place root .metadata .metadata n) :
    Agree excused Eq (metadata strict n) (metadata strict' (change .metadata n)) := by
  refine agree_bind_fields hfields hplace fun fs fs' h _ => ?_
  have hproviders : providers fs' = providers fs := by
    rw [providers, providers, h.field?_eq (by decide) rfl]
  rw [h.optional_eq (by decide) rfl, hproviders]
  exact .refl _

/-- Two readings agree on the Check of a document if they agree on the fields of each mapping. -/
theorem agree_ofNode :
    Agree excused Eq (Check.ofNode strict root) (Check.ofNode strict' (change .check root)) := by
  refine agree_bind_fields hfields .check fun fs fs' h hentry => ?_
  have hmark' := hmark .check root
  rw [h.required_eq hmark' (by decide) rfl]
  refine .bind_same fun id _ => ?_
  dsimp only
  rw [h.required_eq hmark' (by decide) rfl]
  refine .bind_same fun name _ => ?_
  rw [h.required_eq hmark' (by decide) rfl]
  refine .bind_same fun group _ => ?_
  rw [h.required_eq hmark' (by decide) rfl]
  refine .bind_same fun description _ => ?_
  rw [h.required_eq hmark' (by decide) rfl]
  refine .bind_same fun remediation _ => ?_
  -- From here on the nodes of the fields differ, and the readings of their items agree.
  refine (h.agree_requiredItems hmark' (by decide) rfl (hentry _)).bind fun ns ns' _ hns => ?_
  refine Agree.bind_eq (hns.agree_each fun hv hx =>
    agree_fact hmark hfields (.fact hv hx)) fun facts _ => ?_
  refine (h.agree_optionalItems (by decide) rfl (hentry _)).bind fun ns ns' _ hns => ?_
  refine Agree.bind_eq (hns.agree_each fun hv hx =>
    agree_value hmark hfields (.value hv hx)) fun values _ => ?_
  refine (h.agree_optionalItems (by decide) rfl (hentry _)).bind fun ns ns' _ hns => ?_
  refine Agree.bind_eq (hns.agree_each fun hv hx =>
    agree_expectation hmark hfields (.expectation hv hx)) fun expectations _ => ?_
  refine Agree.bind_eq (h.agree_ifPresent (by decide) rfl fun v hv =>
    agree_metadata hfields (.metadata (hentry _ v hv))) fun m _ => ?_
  exact Agree.bind_eq (h.agree_ifPresent (by decide) rfl fun _ _ => .refl _) fun _ _ => .refl _

end Readings

/-! ## Strict and lenient fields -/

variable {allowed : List String}

/-- A key is refused because it is unknown. -/
def IsUnknownField (e : LoadError) : Prop := ∃ l key p, e = .defect ⟨.unknownField l key, p⟩

/-- Strictness makes no difference to fields but that unknown keys are refused. -/
theorem agree_fields_lenient : Agree IsUnknownField Eq (fields true n l allowed)
    (fields false n l allowed) := by
  have hfrom : ∀ (es : List (Node × Node)) (seen : Fields), Agree IsUnknownField Eq
      (fieldsFrom true l allowed seen es) (fieldsFrom false l allowed seen es) := fun es => by
    induction es with
    | nil => exact fun seen => .refl _
    | cons e es ih =>
      intro seen
      obtain ⟨k, v⟩ := e
      cases k with
      | sequence _ _ _ => exact .error _
      | mapping _ _ _ => exact .error _
      | scalar tag key m =>
        simp only [fieldsFrom]
        split
        · exact .error _
        · split
          · exact .excused ⟨l, key, _, rfl⟩
          · exact ih _
  cases n with
  | mapping tag es m => exact hfrom es []
  | scalar _ _ _ => exact .error _
  | sequence _ _ _ => exact .error _

/-- A mapping has two entries for a key. -/
def Repeats (n : Node) (key : String) : Prop := 1 < (n.entries.map (·.1.text?)).count (some key)

/-- The fields with allowed keys, with their nodes changed. -/
def kept (allowed : List String) (inner : String → Node → Node) (fs : Fields) : Fields :=
  fs.filterMap fun f => if f.1 ∈ allowed then some (f.1, inner f.1 f.2) else none

/-- The first field of a key is its field. -/
theorem field?_cons (f : String × Node) (fs : Fields) (key : String) :
    field? (f :: fs) key = if f.1 = key then some f.2 else field? fs key := by
  by_cases hkey : f.1 = key <;> simp [field?, hkey]

/-- A field is kept under an allowed key. -/
theorem field?_kept {inner : String → Node → Node} (hkey : key ∈ allowed) :
    field? (kept allowed inner fs) key = (field? fs key).map (inner key) := by
  induction fs with
  | nil => rfl
  | cons f fs ih =>
    by_cases hf : f.1 ∈ allowed
    · have hkept : kept allowed inner (f :: fs) =
          (f.1, inner f.1 f.2) :: kept allowed inner fs := by simp [kept, hf]
      rw [hkept, field?_cons, field?_cons, ih]
      split
      · rename_i heq
        rw [heq, Option.map_some]
      · rfl
    · have hkept : kept allowed inner (f :: fs) = kept allowed inner fs := by simp [kept, hf]
      have hne : f.1 ≠ key := fun heq => hf (heq ▸ hkey)
      rw [hkept, field?_cons, if_neg hne, ih]

/-- A field is there exactly where one of its key is. -/
theorem any_eq_isSome_field? (fs : Fields) (key : String) :
    (fs.any fun f => f.1 = key) = (field? fs key).isSome := by
  rw [field?, Option.isSome_map, Bool.eq_iff_iff, List.any_eq_true, List.find?_isSome]

/-- The lenient fields of a mapping are the strict ones that are left without the unknown entries,
unless an unknown key is repeated. -/
theorem agree_fields_deleteUnknown {inner : String → Node → Node} :
    Agree (fun e => ∃ key p, key ∉ allowed ∧ Repeats n key ∧ e = .defect ⟨.duplicateKey l key, p⟩)
      (fun fs fs' => fs' = kept allowed inner fs) (fields false n l allowed)
      (fields true (deleteUnknown allowed inner n) l allowed) := by
  -- The entries that were read so far stand before those that are left.
  have hfrom : ∀ (es before : List (Node × Node)), n.entries = before ++ es →
      Agree (fun e => ∃ key p, key ∉ allowed ∧ Repeats n key ∧
          e = .defect ⟨.duplicateKey l key, p⟩)
        (fun fs fs' => fs' = kept allowed inner fs) (fieldsFrom false l allowed (named before) es)
        (fieldsFrom true l allowed (kept allowed inner (named before))
          (es.filterMap (keepEntry allowed inner))) := fun es => by
    induction es with
    | nil => exact fun before _ => .ok rfl
    | cons e es ih =>
      intro before hentries
      obtain ⟨k, v⟩ := e
      cases k with
      | sequence _ _ _ => exact .error _
      | mapping _ _ _ => exact .error _
      | scalar tag key m =>
        have hbefore : named (before ++ [(.scalar tag key m, v)]) = named before ++ [(key, v)] :=
          List.filterMap_append
        have hih := ih (before ++ [(.scalar tag key m, v)]) (by simp [hentries])
        rw [hbefore] at hih
        by_cases hkey : key ∈ allowed
        · have hkeep : keepEntry allowed inner (.scalar tag key m, v) =
              some (.scalar tag key m, inner key v) := if_pos hkey
          have hkept : kept allowed inner (named before ++ [(key, v)]) =
              kept allowed inner (named before) ++ [(key, inner key v)] := by simp [kept, hkey]
          rw [List.filterMap_cons_some hkeep]
          simp only [fieldsFrom, any_eq_isSome_field?, field?_kept hkey, Option.isSome_map]
          split
          · exact .error _
          · simpa [hkey, hkept] using hih
        · have hkeep : keepEntry allowed inner (.scalar tag key m, v) = none := if_neg hkey
          have hkept : kept allowed inner (named before ++ [(key, v)]) =
              kept allowed inner (named before) := by simp [kept, hkey]
          rw [List.filterMap_cons_none hkeep]
          simp only [fieldsFrom]
          split
          · rename_i hseen
            refine .excused ⟨key, _, hkey, ?_, rfl⟩
            have hmem : some key ∈ before.map (·.1.text?) := by
              obtain ⟨f, hf, hfkey⟩ := List.any_eq_true.1 hseen
              obtain rfl : f.1 = key := of_decide_eq_true hfkey
              obtain ⟨e, he, htext⟩ := List.mem_filterMap.1 hf
              obtain ⟨text, hetext, rfl⟩ := Option.map_eq_some_iff.1 htext
              exact List.mem_map.2 ⟨e, he, hetext⟩
            have hcount := List.count_pos_iff.2 hmem
            rw [Repeats, hentries, List.map_append, List.count_append, List.map_cons,
              Node.text?, List.count_cons_self]
            omega
          · simpa [hkept] using hih
  cases n with
  | mapping tag es m => exact hfrom es [] rfl
  | scalar _ _ _ => exact .error _
  | sequence _ _ _ => exact .error _

/-! ## Strict and lenient Checks -/

/-- Strictness makes no difference to a Check but that unknown keys are refused. -/
theorem agree_lenient (root : Node) :
    Agree IsUnknownField Eq (Check.ofNode true root) (Check.ofNode false root) := by
  refine agree_ofNode (fun _ _ => rfl) fun {sec l n} _ => ?_
  refine agree_fields_lenient.mono (fun _ he => he) fun fs fs' _ heq key _ => ?_
  rw [inner_id, heq, Option.map_id_fun, id]

/-- A lenient reading stops at a mapping of a document that repeats an unknown key. -/
def StopsAtRepetition (root : Node) (e : LoadError) : Prop :=
  ∃ sec l n key p, Place root sec l n ∧ key ∉ sec.known ∧ Repeats n key ∧
    e = .defect ⟨.duplicateKey l key, p⟩

/-- The lenient Check is the strict one of what is left without the unknown entries, unless an
unknown key is repeated. -/
theorem agree_prune (root : Node) : Agree (StopsAtRepetition root) Eq (Check.ofNode false root)
    (Check.ofNode true (prune .check root)) := by
  refine agree_ofNode mark_prune fun {sec l n} hplace => ?_
  rw [prune_eq]
  refine agree_fields_deleteUnknown.mono ?_ fun fs fs' _ hkept key hkey => ?_
  · rintro e ⟨key, p, hkey, hrepeats, rfl⟩
    exact ⟨sec, l, n, key, p, hplace, hkey, hrepeats, rfl⟩
  · rw [hkept, field?_kept hkey]

end Schema

open Schema in
/-- Strictness makes a difference for unknown keys only. A Check that is read strictly is read as
the same one leniently, and what a strict reading complains about, but for an unknown key, a
lenient one complains about in the same words. What a lenient reading gives is what a strict one
gives without the entries with unknown keys, unless it stops at a mapping of the document that
repeats an unknown key. -/
theorem Check.ofNode_strict_lenient (root : Node) :
    (∀ c, Check.ofNode true root = .ok c → Check.ofNode false root = .ok c) ∧
      (∀ e, Check.ofNode true root = .error e → ¬IsUnknownField e →
        Check.ofNode false root = .error e) ∧
      (Check.ofNode false root = Check.ofNode true (prune .check root) ∨
        ∃ e, StopsAtRepetition root e ∧ Check.ofNode false root = .error e) := by
  refine ⟨fun c hc => ?_, fun e he hknown => ?_, (agree_prune root).eq_or⟩
  · obtain heq | ⟨e, -, he⟩ := (agree_lenient root).eq_or
    · rw [← heq, hc]
    · rw [hc] at he
      cases he
  · obtain heq | ⟨e', hunknown, he'⟩ := (agree_lenient root).eq_or
    · rw [← heq, he]
    · rw [he] at he'
      cases he'
      exact absurd hunknown hknown

open Schema in
/-- A Check with its required fields only, and the same with a field of a wrong type. -/
theorem Check.ofNode_strict_lenient_required :
    let m : Yaml.Mark := ⟨0, 0, 0⟩
    let text (s : String) : Node := .scalar .str s m
    let root (more : List (Node × Node)) : Node := .mapping .map ([(text "id", text "1.1"),
      (text "name", text "clock"), (text "group", text "base"), (text "description", text ""),
      (text "remediation", text ""), (text "facts", .sequence .seq [] m)] ++ more) m
    let c : Check := ⟨"1.1", "clock", "base", "", "", none, [], [], [], none⟩
    let premium : Node × Node := (text "premium", text "yes")
    let e : LoadError := .defect ⟨.notBoolean .premium, ⟨1, 1⟩⟩
    (Check.ofNode true (root []) = .ok c ∧ Check.ofNode false (root []) = .ok c) ∧
      Check.ofNode true (root [premium]) = .error e ∧ ¬IsUnknownField e ∧
        Check.ofNode false (root [premium]) = .error e := by
  intro m text root c premium e
  have hc : Check.ofNode true (root []) = .ok c := rfl
  have he : Check.ofNode true (root [premium]) = .error e := rfl
  have hknown : ¬IsUnknownField e := by simp [IsUnknownField, e]
  exact ⟨⟨hc, (Check.ofNode_strict_lenient _).1 c hc⟩, he, hknown,
    (Check.ofNode_strict_lenient _).2.1 e he hknown⟩

end CheckDoc
