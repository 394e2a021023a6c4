import CheckDoc.Lint.Structure

/-!
# Rules and their registry

A registry holds rules in the order of their registration, which is also the order in which they
run. Once it is frozen it takes no more rules. A filter selects rules by name; it may name only
rules that the registry has.
-/

namespace CheckDoc

/-- What a rule does. -/
inductive RuleTask where
  /-- It looks at the Check. -/
  | structural (find : Subject → List Finding)
  /-- It tries the links of the Check, which can be cut short. -/
  | links

/-- A rule. -/
structure Rule where
  /-- The name. -/
  name : String
  /-- What the rule asks for, in one line. -/
  description : String
  /-- What the rule does. -/
  task : RuleTask

/-- Whether a rule can be cut short. -/
def Rule.cancellable (r : Rule) : Bool :=
  match r.task with
  | .structural _ => false
  | .links => true

/-- Rules in the order of their registration. -/
structure Registry where
  /-- The rules. -/
  rules : List Rule
  /-- Whether no more rules are taken. -/
  frozen : Bool

/-- Why a rule is not registered. -/
inductive RegistrationError where
  /-- The registry is frozen. -/
  | frozen
  /-- A rule of this name is registered. -/
  | duplicate (name : String)
  deriving DecidableEq

/-- The wording of a failed registration. -/
def RegistrationError.message : RegistrationError → String
  | .frozen => "Cannot register rules on a frozen registry"
  | .duplicate name => "Rule '" ++ name ++ "' is already registered"

/-- Why names mean no rules. -/
inductive UnknownRules where
  /-- One name that was looked up. -/
  | lookup (name : String)
  /-- The names of a filter that are unknown, and the known names. -/
  | filter (unknown known : List String)
  deriving DecidableEq

/-- The wording of unknown names. -/
def UnknownRules.message : UnknownRules → String
  | .lookup name => "Unknown rule '" ++ name ++ "'"
  | .filter unknown known =>
    "Unknown rule(s): " ++ ", ".intercalate unknown ++ ". Known rules: " ++
      ", ".intercalate known

namespace Registry

/-- The registry without rules. -/
def empty : Registry := ⟨[], false⟩

/-- The names of the rules in order. -/
def names (g : Registry) : List String := g.rules.map (·.name)

/-- The rule of a name. -/
def get? (g : Registry) (name : String) : Option Rule := g.rules.find? fun r => r.name = name

/-- The rule of a name, or the complaint that there is none. -/
def get (g : Registry) (name : String) : Except UnknownRules Rule :=
  match g.get? name with
  | some r => .ok r
  | none => .error (.lookup name)

/-- Whether a rule of this name is registered. -/
def contains (g : Registry) (name : String) : Bool := g.names.contains name

/-- Registers a rule behind the others, in place. -/
def register (r : Rule) : EStateM RegistrationError Registry Unit := do
  let g ← MonadState.get
  if g.frozen then throw .frozen
  if g.contains r.name then throw (.duplicate r.name)
  set { g with rules := g.rules ++ [r] }

/-- The registry that takes no more rules. -/
def freeze (g : Registry) : Registry := { g with frozen := true }

end Registry

namespace RuleFilter

/-- The filter that selects the named rules. -/
def only (names : List String) : RuleFilter := ⟨some (nameSet names), []⟩

/-- The filter that skips the named rules. -/
def excluding (names : List String) : RuleFilter := ⟨none, nameSet names⟩

/-- All names of a filter. -/
def named (f : RuleFilter) : List String := nameSet (f.skipped ++ f.selected.getD [])

/-- Whether a filter lets the rule of a name run. -/
def selects (f : RuleFilter) (name : String) : Bool :=
  ((f.selected.map fun names => names.contains name).getD true) && !f.skipped.contains name

/-- The complaint about names that the registry does not have. -/
def unknown? (f : RuleFilter) (g : Registry) : Option UnknownRules :=
  match f.named.filter fun name => !g.contains name with
  | [] => none
  | names => some (.filter names g.names)

/-- The rules that run, in order. -/
def select (f : RuleFilter) (g : Registry) : Except UnknownRules (List Rule) :=
  match f.unknown? g with
  | some e => .error e
  | none => .ok (g.rules.filter fun r => f.selects r.name)

end RuleFilter

/-- The rules that look at a Check, in order. -/
def structuralRules (s : Settings) : List Rule :=
  [⟨"expectations-not-empty", "The expectations list contains at least one entry",
      .structural Subject.expectationsNotEmpty⟩,
    ⟨"expectation-form", "Each expectation has one expression field and matching messages",
      .structural Subject.expectationForm⟩,
    ⟨"unique-names", "Fact, value, and expectation names are unique",
      .structural Subject.uniqueNames⟩,
    ⟨"valid-expression", "Every expression and message interpolation parses",
      .structural Subject.validExpression⟩,
    ⟨"valid-reference", "Every facts/values/env reference resolves",
      .structural Subject.validReference⟩,
    ⟨"value-cycles", "Values do not depend on each other cyclically",
      .structural Subject.valueCycles⟩,
    ⟨"value-shape-consistency", "Condition values match the scalar/list shape of the default",
      .structural Subject.shapeConsistency⟩,
    ⟨"metadata-enum-validity", "Metadata target type and providers are known values",
      .structural (Subject.metadataValidity s.targetTypes s.providers)⟩,
    ⟨"deprecated-fields", "Deprecated fields are reported as warnings",
      .structural Subject.deprecatedFields⟩]

/-- The rule that tries links. -/
def linkRule : Rule :=
  ⟨"link-validity", "Links in description and remediation are reachable (network)", .links⟩

/-- Registers all rules and freezes the registry. -/
def Registry.fill (s : Settings) : EStateM RegistrationError Registry Unit := do
  (structuralRules s).forM register
  register linkRule
  modify freeze

/-- The registry of all rules. -/
def Registry.builtIn (s : Settings) : Registry :=
  match (fill s).run empty with
  | .ok _ g | .error _ g => g

/-- The registry of the rules under some settings. -/
def Settings.registry (s : Settings) : Registry := .builtIn s

end CheckDoc
