import CheckDoc.Lint.Registry
import Mathlib.Data.List.Nodup
import Mathlib.Tactic.SplitIfs

/-!
# Calls on a registry

A registry is filled, frozen and asked by calls. A call works on the registry at hand and may refuse
at any point of its work (`RegistryCall.perform`). A registration that is refused leaves the
registry as it was (`Registry.register_run`), and rules whose names differ are all registered, in
order (`Registry.forM_register_run`), as are those of a run (`Registry.builtIn_eq`).

Two things decide what a registry says after any calls: the registrations that it accepted, and
whether it was frozen (`RegistryHistory.Kept`). They determine the registry
(`RegistryHistory.Holds`), one call keeps this (`RegistryHistory.Holds.call`), and hence so do all
of them (`RegistryHistory.Holds.calls`).
-/

namespace CheckDoc

/-- A call on a registry. -/
inductive RegistryCall where
  /-- Registers a rule. -/
  | register (rule : Rule)
  /-- Freezes the registry. -/
  | freeze
  /-- Asks for the rule of a name. -/
  | lookup (name : String)
  /-- Asks for the names. -/
  | names
  /-- Asks for the rules. -/
  | rules
  /-- Asks whether a name is registered. -/
  | contains (name : String)

/-- Why a registry refuses a call. -/
inductive RegistryRefusal where
  /-- A rule is not registered. -/
  | registration (e : RegistrationError)
  /-- A name is unknown. -/
  | unknown (e : UnknownRules)

/-- What a registry answers to a call. -/
inductive RegistryAnswer where
  /-- The call asks for nothing. -/
  | done
  /-- A rule. -/
  | rule (rule : Rule)
  /-- Names in order. -/
  | names (names : List String)
  /-- Rules in order. -/
  | rules (rules : List Rule)
  /-- Yes or no. -/
  | truth (b : Bool)

namespace RegistryCall

/-- The rule that a call registers. -/
def rule? : RegistryCall → Option Rule
  | .register r => some r
  | _ => none

/-- Makes a call on the registry at hand. -/
def perform : RegistryCall → EStateM RegistryRefusal Registry RegistryAnswer
  | .register r => do
    EStateM.adaptExcept .registration (Registry.register r)
    return .done
  | .freeze => do
    modify Registry.freeze
    return .done
  | .lookup name => do
    match (← get).get name with
    | .ok r => return .rule r
    | .error e => throw (.unknown e)
  | .names => return .names (← get).names
  | .rules => return .rules (← get).rules
  | .contains name => return .truth ((← get).contains name)

end RegistryCall

/-! ## One call -/

namespace Registry

variable {g : Registry} {name : String} {r : Rule}

/-- A name is registered where a rule has it. -/
theorem contains_iff : g.contains name = true ↔ name ∈ g.names := List.contains_iff_mem

/-- A registration adds the rule behind the others, and one that is refused leaves the registry as
it was. -/
theorem register_run (r : Rule) (g : Registry) :
    (register r).run g =
      if g.frozen then .error .frozen g
      else if r.name ∈ g.names then .error (.duplicate r.name) g
      else .ok () { g with rules := g.rules ++ [r] } := by
  simp only [← contains_iff]
  cases hfrozen : g.frozen with
  | true => simp [register, hfrozen]
  | false => cases hname : g.contains r.name <;> simp [register, hfrozen, hname]

/-- A call that registers is the registration in place. -/
theorem perform_register (r : Rule) (g : Registry) :
    (RegistryCall.perform (.register r)).run g =
      if g.frozen then .error (.registration .frozen) g
      else if r.name ∈ g.names then .error (.registration (.duplicate r.name)) g
      else .ok .done { g with rules := g.rules ++ [r] } := by
  have hrun := register_run r g
  unfold EStateM.run at hrun ⊢
  show EStateM.bind (EStateM.adaptExcept RegistryRefusal.registration (register r)) _ g = _
  unfold EStateM.bind EStateM.adaptExcept
  rw [hrun]
  split_ifs <;> rfl

/-- A question in place leaves the registry as it was, whether there is a rule of the name or
not. -/
theorem perform_lookup (name : String) (g : Registry) :
    (RegistryCall.perform (.lookup name)).run g = match g.get name with
      | .ok r => .ok (.rule r) g
      | .error e => .error (.unknown e) g := by
  have hrun : (RegistryCall.perform (.lookup name)).run g =
      EStateM.run (match g.get name with
        | .ok r => return .rule r
        | .error e => throw (.unknown e)) g := rfl
  rw [hrun]
  cases g.get name <;> rfl

/-- A refused call leaves the registry as it was. -/
theorem eq_of_perform_eq_error {k : RegistryCall} {e : RegistryRefusal} {g' : Registry}
    (h : k.perform.run g = .error e g') : g' = g := by
  cases k with
  | register r =>
    rw [perform_register] at h
    split_ifs at h <;> cases h <;> rfl
  | lookup name =>
    rw [perform_lookup] at h
    split at h
    · cases h
    · cases h
      rfl
  | freeze => cases h
  | names => cases h
  | rules => cases h
  | contains name => cases h

/-- Where the names differ, the rule of a name is the one that has it. -/
theorem get_eq_ok_iff (hnodup : g.names.Nodup) :
    g.get name = .ok r ↔ r ∈ g.rules ∧ r.name = name := by
  have hget : g.get name = .ok r ↔ g.rules.find? (fun r => r.name = name) = some r := by
    unfold get get?
    cases g.rules.find? fun r => r.name = name <;> simp
  rw [hget]
  constructor
  · intro hfind
    exact ⟨List.mem_of_find?_eq_some hfind, by simpa using List.find?_some hfind⟩
  · rintro ⟨hr, rfl⟩
    obtain ⟨r', hfind⟩ : ∃ r', g.rules.find? (fun r' => r'.name = r.name) = some r' :=
      Option.isSome_iff_exists.1 (List.find?_isSome.2 ⟨r, hr, by simp⟩)
    -- The rule that is found has the name as well, so it is the same one.
    have hname : r'.name = r.name := by simpa using List.find?_some hfind
    rw [hfind, List.inj_on_of_nodup_map hnodup (List.mem_of_find?_eq_some hfind) hr hname]

/-- There is no rule of a name that no rule has. -/
theorem get_eq_error_iff {e : UnknownRules} :
    g.get name = .error e ↔ name ∉ g.names ∧ e = .lookup name := by
  have hnames : name ∉ g.names ↔ g.rules.find? (fun r => r.name = name) = none := by
    simp [names]
  rw [hnames]
  unfold get get?
  cases g.rules.find? fun r => r.name = name <;> simp [eq_comm]

/-! ## The rules of a run -/

/-- Rules whose names differ are registered in order behind those of a registry that takes them. -/
theorem forM_register_run {rules : List Rule} (hfrozen : g.frozen = false)
    (hnodup : (g.names ++ rules.map (·.name)).Nodup) :
    (rules.forM register).run g = .ok () { g with rules := g.rules ++ rules } := by
  induction rules generalizing g with
  | nil => simp
  | cons r rules ih =>
    have hname : r.name ∉ g.names := fun hmem =>
      (List.nodup_append.1 hnodup).2.2 _ hmem _ List.mem_cons_self rfl
    have hfirst : (register r).run g = .ok () { g with rules := g.rules ++ [r] } := by
      rw [register_run, hfrozen, if_neg Bool.false_ne_true, if_neg hname]
    have hrest := ih (g := { g with rules := g.rules ++ [r] }) hfrozen
      (by simpa [names] using hnodup)
    have hcons : (r :: rules).forM register = register r >>= fun _ => rules.forM register := rfl
    rw [hcons, EStateM.run_bind, hfirst]
    dsimp only
    rw [hrest, List.append_assoc, List.singleton_append]

/-- The registry of all rules has those on structure and then the one on links, and takes no
more. -/
theorem builtIn_eq (s : Settings) : builtIn s = ⟨structuralRules s ++ [linkRule], true⟩ := by
  have hstructural : ((structuralRules s).forM register).run empty =
      .ok () ⟨structuralRules s, false⟩ :=
    forM_register_run rfl
      (show ((structuralRules s).map (·.name)).Nodup by simp [structuralRules])
  have hlink : (register linkRule).run ⟨structuralRules s, false⟩ =
      .ok () ⟨structuralRules s ++ [linkRule], false⟩ := by
    rw [register_run, if_neg Bool.false_ne_true,
      if_neg (by simp [names, structuralRules, linkRule])]
  rw [builtIn, fill, EStateM.run_bind, hstructural]
  dsimp only
  rw [EStateM.run_bind, hlink]
  rfl

end Registry

/-- The registry of some settings has the same names as that of others. -/
theorem Settings.registry_names_eq (s s' : Settings) : s.registry.names = s'.registry.names := by
  rw [registry, registry, Registry.builtIn_eq, Registry.builtIn_eq]
  rfl

/-! ## Calls in a row -/

/-- A registry with the rules whose registrations it accepted, the first one first. -/
structure RegistryHistory where
  /-- The registry. -/
  registry : Registry
  /-- The rules. -/
  accepted : List Rule

namespace RegistryHistory

variable {h : RegistryHistory} {frozen : Prop}

/-- A registry before any call. -/
def empty : RegistryHistory := ⟨.empty, []⟩

/-- Makes a call on the registry; a registration that is refused does not enter the history. -/
def call (h : RegistryHistory) (k : RegistryCall) : RegistryHistory :=
  match k.perform.run h.registry with
  | .ok _ g => ⟨g, h.accepted ++ k.rule?.toList⟩
  | .error _ g => ⟨g, h.accepted⟩

/-- Makes calls one after the other. -/
def calls (h : RegistryHistory) (ks : List RegistryCall) : RegistryHistory := ks.foldl call h

/-- The names of the rules that were accepted. -/
def names (h : RegistryHistory) : List String := h.accepted.map (·.name)

/-- What a registry answers, given the registrations that it accepted and whether it was frozen. -/
structure Kept (h : RegistryHistory) (frozen : Prop) : Prop where
  /-- The names are those of the accepted rules in order. -/
  names_eq : (RegistryCall.perform .names).run h.registry = .ok (.names h.names) h.registry
  /-- No name is repeated. -/
  names_nodup : h.names.Nodup
  /-- The rules are the accepted ones in order. -/
  rules_eq : (RegistryCall.perform .rules).run h.registry = .ok (.rules h.accepted) h.registry
  /-- A name is registered where an accepted rule has it. -/
  contains_eq : ∀ name, (RegistryCall.perform (.contains name)).run h.registry =
    .ok (.truth (decide (name ∈ h.names))) h.registry
  /-- The rule of a name is the accepted one that has it. -/
  get_iff : ∀ name r,
    (RegistryCall.perform (.lookup name)).run h.registry = .ok (.rule r) h.registry ↔
      r ∈ h.accepted ∧ r.name = name
  /-- A name is unknown where no accepted rule has it. -/
  get_unknown_iff : ∀ name, (RegistryCall.perform (.lookup name)).run h.registry =
    .error (.unknown (.lookup name)) h.registry ↔ name ∉ h.names
  /-- A frozen registry refuses every rule. -/
  register_frozen_iff : ∀ r, (RegistryCall.perform (.register r)).run h.registry =
    .error (.registration .frozen) h.registry ↔ frozen
  /-- A registry that is not frozen refuses a rule with the name of an accepted one. -/
  register_duplicate_iff : ∀ r, (RegistryCall.perform (.register r)).run h.registry =
    .error (.registration (.duplicate r.name)) h.registry ↔ ¬ frozen ∧ r.name ∈ h.names
  /-- Every other rule is accepted. -/
  register_iff : ∀ r, (∃ g, (RegistryCall.perform (.register r)).run h.registry = .ok .done g) ↔
    ¬ frozen ∧ r.name ∉ h.names

/-- The registry of a history: it has the accepted rules, whose names differ. -/
structure Holds (h : RegistryHistory) (frozen : Prop) : Prop where
  /-- The rules are the accepted ones. -/
  rules_eq : h.registry.rules = h.accepted
  /-- It takes no more rules once it was frozen. -/
  frozen_iff : h.registry.frozen = true ↔ frozen
  /-- No name is repeated. -/
  names_nodup : h.names.Nodup

/-- A registry before any call. -/
theorem holds_empty : empty.Holds False where
  rules_eq := rfl
  frozen_iff := by simp [empty, Registry.empty]
  names_nodup := List.nodup_nil

/-- The names of the registry are those of the accepted rules. -/
theorem Holds.registry_names (hh : h.Holds frozen) : h.registry.names = h.names := by
  rw [Registry.names, hh.rules_eq, names]

/-- A registry is not frozen where it was never frozen. -/
theorem Holds.frozen_eq_false_iff (hh : h.Holds frozen) : h.registry.frozen = false ↔ ¬ frozen := by
  rw [← hh.frozen_iff, Bool.not_eq_true]

/-- What is held determines the answers. -/
theorem Holds.kept (hh : h.Holds frozen) : h.Kept frozen where
  names_eq := by
    rw [← hh.registry_names]
    rfl
  names_nodup := hh.names_nodup
  rules_eq := by
    rw [← hh.rules_eq]
    rfl
  contains_eq name := by
    rw [← hh.registry_names]
    have hcontains : h.registry.contains name = decide (name ∈ h.registry.names) := by
      simp [Registry.contains]
    rw [← hcontains]
    rfl
  get_iff name r := by
    rw [← hh.rules_eq, ← Registry.get_eq_ok_iff (hh.registry_names ▸ hh.names_nodup),
      Registry.perform_lookup]
    cases h.registry.get name <;> simp
  get_unknown_iff name := by
    have hget : h.registry.get name = .error (.lookup name) ↔ name ∉ h.registry.names := by
      rw [Registry.get_eq_error_iff, and_iff_left rfl]
    rw [← hh.registry_names, ← hget, Registry.perform_lookup]
    cases h.registry.get name <;> simp
  register_frozen_iff r := by
    rw [← hh.frozen_iff, Registry.perform_register]
    split_ifs <;> simp_all
  register_duplicate_iff r := by
    rw [← hh.frozen_eq_false_iff, ← hh.registry_names, Registry.perform_register]
    split_ifs <;> simp_all
  register_iff r := by
    rw [← hh.frozen_eq_false_iff, ← hh.registry_names, Registry.perform_register]
    split_ifs <;> simp_all

/-- A registration enters the history where it is accepted. -/
theorem call_register (h : RegistryHistory) (r : Rule) :
    h.call (.register r) =
      if h.registry.frozen ∨ r.name ∈ h.registry.names then h
      else ⟨{ h.registry with rules := h.registry.rules ++ [r] }, h.accepted ++ [r]⟩ := by
  rw [call, Registry.perform_register]
  split_ifs <;> simp_all [RegistryCall.rule?]

/-- Freezing leaves the rules as they are. -/
theorem call_freeze (h : RegistryHistory) : h.call .freeze = ⟨h.registry.freeze, h.accepted⟩ := by
  show (⟨h.registry.freeze, h.accepted ++ []⟩ : RegistryHistory) = _
  rw [List.append_nil]

/-- A call that neither registers nor freezes changes nothing. -/
theorem call_eq_self {k : RegistryCall} (hrule : k.rule? = none) (hfreeze : k ≠ .freeze) :
    h.call k = h := by
  have happend : (⟨h.registry, h.accepted ++ []⟩ : RegistryHistory) = h := by rw [List.append_nil]
  cases k with
  | register r => cases hrule
  | freeze => exact absurd rfl hfreeze
  | lookup name =>
    rw [call, Registry.perform_lookup]
    cases h.registry.get name with
    | ok r => exact happend
    | error e => rfl
  | names => exact happend
  | rules => exact happend
  | contains name => exact happend

/-- A frozen registry stays as it is. -/
theorem call_of_frozen (hfrozen : h.registry.frozen = true) (k : RegistryCall) : h.call k = h := by
  cases k with
  | register r => rw [call_register, if_pos (.inl hfrozen)]
  | freeze =>
    have hsame : h.registry.freeze = h.registry := by rw [Registry.freeze, ← hfrozen]
    rw [call_freeze, hsame]
  | lookup name => exact call_eq_self rfl nofun
  | names => exact call_eq_self rfl nofun
  | rules => exact call_eq_self rfl nofun
  | contains name => exact call_eq_self rfl nofun

/-- What the registry holds after one more call. -/
theorem Holds.call (hh : h.Holds frozen) (k : RegistryCall) :
    (h.call k).Holds (frozen ∨ k = .freeze) := by
  have hask : k.rule? = none → k ≠ .freeze → (h.call k).Holds (frozen ∨ k = .freeze) :=
    fun hrule hfreeze => by rwa [call_eq_self hrule hfreeze, or_iff_left hfreeze]
  cases k with
  | register r =>
    have hfrozen : frozen ∨ RegistryCall.register r = .freeze ↔ frozen := or_iff_left nofun
    rw [call_register, hfrozen]
    split_ifs with hrefused
    · exact hh
    · obtain ⟨-, hname⟩ := not_or.1 hrefused
      rw [hh.registry_names] at hname
      refine ⟨congrArg (· ++ [r]) hh.rules_eq, hh.frozen_iff, ?_⟩
      -- The name is none of those before.
      show ((h.accepted ++ [r]).map (·.name)).Nodup
      rw [List.map_append, List.nodup_append]
      refine ⟨hh.names_nodup, List.nodup_singleton _, fun a ha b hb hab => hname ?_⟩
      have hb : b = r.name := List.mem_singleton.1 hb
      exact hb ▸ hab ▸ ha
  | freeze =>
    rw [call_freeze]
    exact ⟨hh.rules_eq, iff_of_true rfl (.inr rfl), hh.names_nodup⟩
  | lookup name => exact hask rfl nofun
  | names => exact hask rfl nofun
  | rules => exact hask rfl nofun
  | contains name => exact hask rfl nofun

/-- What the registry holds after any calls. -/
theorem Holds.calls (hh : h.Holds frozen) (ks : List RegistryCall) :
    (h.calls ks).Holds (frozen ∨ .freeze ∈ ks) := by
  induction ks generalizing h frozen with
  | nil => simpa [RegistryHistory.calls] using hh
  | cons k ks ih =>
    have hmem : frozen ∨ .freeze ∈ k :: ks ↔ (frozen ∨ k = .freeze) ∨ .freeze ∈ ks := by
      rw [List.mem_cons, eq_comm, or_assoc]
    rw [hmem]
    exact ih (hh.call k)

/-- A frozen registry stays as it is through any calls. -/
theorem calls_of_frozen (hfrozen : h.registry.frozen = true) (ks : List RegistryCall) :
    h.calls ks = h := by
  induction ks with
  | nil => rfl
  | cons k ks ih =>
    rw [calls, List.foldl_cons, call_of_frozen hfrozen]
    exact ih

/-- After any calls on the empty registry, its answers follow from the registrations that it
accepted and from whether it was frozen. A refused call leaves the registry as it was, and once it
was frozen so does every call: the names and the rule of each name stay the same. -/
theorem kept_calls_empty (ks : List RegistryCall) :
    let h := empty.calls ks
    h.Kept (.freeze ∈ ks) ∧
      (∀ (k : RegistryCall) e g, k.perform.run h.registry = .error e g → g = h.registry) ∧
      (.freeze ∈ ks → ∀ more, (h.calls more).registry = h.registry ∧
        (h.calls more).accepted = h.accepted) := by
  intro h
  have hholds : h.Holds (.freeze ∈ ks) := by simpa using holds_empty.calls ks
  refine ⟨hholds.kept, fun k e g => Registry.eq_of_perform_eq_error, fun hfreeze more => ?_⟩
  rw [calls_of_frozen (hholds.frozen_iff.2 hfreeze)]
  exact ⟨rfl, rfl⟩

end RegistryHistory

end CheckDoc
