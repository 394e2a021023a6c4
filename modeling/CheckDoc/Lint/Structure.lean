import CheckDoc.Config.Basic
import CheckDoc.Lint.Finding

/-!
# The structural rules

What can be found in a Check without the network. A rule sees the Check, its expression sites and
its names, and no rule sees what another has found. References are looked at only in expressions
that parse; those that do not are a finding of their own.
-/

namespace CheckDoc

/-- What a structural rule sees. -/
structure Subject where
  /-- The Check. -/
  check : Check
  /-- Its expression sites. -/
  sites : List Site
  /-- Its names. -/
  names : Names

/-- What the rules see of a Check in an environment. -/
def Check.subject (c : Check) (env : List String) : Subject := ⟨c, c.sites, c.names env⟩

namespace Subject

/-- There are expectations. -/
def expectationsNotEmpty (s : Subject) : List Finding :=
  if s.check.expectations.isEmpty then [.noExpectations] else []

/-- The choice of the expectations of a name: the last one that parses. -/
def choice? (s : Subject) (name : String) : Option Choice :=
  s.sites.reverse.findSome? fun site =>
    match site.tree? with
    | some (.choice c) => if site.place = .expr name .expectEnum then some c else none
    | _ => none

/-- Whether a choice can have a result. -/
def yields (c : Choice) (r : RequiredResult) : Bool := c.results.contains (.str r.literal)

/-- Whether a text holds the opening of an interpolation. -/
def interpolates : List Char → Bool
  | '$' :: '\x7b' :: _ => true
  | _ :: rest => interpolates rest
  | [] => false

/-- An expectation has one expression. -/
def expressionCount (e : Expectation) : List Finding :=
  match e.setFields with
  | [] => [.noExpression e.name]
  | [_] => []
  | fields => [.manyExpressions e.name fields]

/-- The choice of an expectation can have both of the required results. -/
def choiceResults (s : Subject) (e : Expectation) : List Finding :=
  match s.choice? e.name with
  | none => []
  | some c =>
    ([.passing, .warning].filter fun r => !yields c r).map fun r => .missingResult e.name r

/-- The messages of an expectation fit its expression. -/
def messageFit (e : Expectation) : List Finding :=
  (if e.warningMessage.isSome && e.expectEnum.isNone then [.strayWarning e.name] else []) ++
  (if e.expectSame.isSome && (e.failureMessage.map fun m => interpolates m.toList).getD false then
    [.strayInterpolation e.name] else [])

/-- Each expectation has one expression, and its messages fit. -/
def expectationForm (s : Subject) : List Finding :=
  s.check.expectations.flatMap fun e => expressionCount e ++ s.choiceResults e ++ messageFit e

/-- The names that occur earlier in the list, in order. -/
def repeated (seen : List String) : List String → List String
  | [] => []
  | n :: rest => (if seen.contains n then [n] else []) ++ repeated (n :: seen) rest

/-- The names of each section differ, and no value has the name of a fact. -/
def uniqueNames (s : Subject) : List Finding :=
  let facts := s.check.facts.map (·.name)
  let values := s.check.values.map (·.name)
  let expectations := s.check.expectations.map (·.name)
  (repeated [] facts).map (.duplicate .facts) ++
    (repeated [] values).map (.duplicate .values) ++
    (repeated [] expectations).map (.duplicate .expectations) ++
    (values.filter facts.contains).map .collision

/-- Every expression parses. -/
def validExpression (s : Subject) : List Finding :=
  s.sites.filterMap fun site => site.fault?.map (.badExpression site.place)

/-- Every reference names something. -/
def validReference (s : Subject) : List Finding :=
  (s.names.unresolved s.sites).map fun (site, r) =>
    .badReference site.place r (nameSet s.names.env)

/-- Values do not depend on each other in cycles. -/
def valueCycles (s : Subject) : List Finding := (s.names.cycles s.sites).map .cycle

/-- The payloads of conditions have the shape of the default. -/
def shapeConsistency (s : Subject) : List Finding :=
  s.check.values.flatMap fun v =>
    v.conditions.zipIdx.filterMap fun (c, i) =>
      if c.payload.shape = v.default.shape then none
      else some (.shapeMismatch v.name i c.payload.shape v.default.shape)

/-- The kind of target and the providers are known. -/
def metadataValidity (targetTypes providers : List String) (s : Subject) : List Finding :=
  match s.check.metadata with
  | none => []
  | some m =>
    ((m.targetType.toList.filter fun t => !targetTypes.contains t).map fun t =>
      .unknownTargetType t (nameSet targetTypes)) ++
    m.providers.zipIdx.filterMap fun (p, i) =>
      if providers.contains p then none else some (.unknownProvider i p (nameSet providers))

/-- The deprecated field is not set. -/
def deprecatedFields (s : Subject) : List Finding :=
  if s.check.premium.isSome then [.premiumSet] else []

end Subject

end CheckDoc
