import CheckDoc.Document.Names
import CheckDoc.Lint.Diagnostic

/-!
# Findings

What the rules find in a Check, each by its cause. The place, the wording and the severity of a
finding follow from the cause.
-/

namespace CheckDoc

/-- The sections of a Check whose entries have names. -/
inductive NamedSection where
  /-- The facts. -/
  | facts
  /-- The values. -/
  | values
  /-- The expectations. -/
  | expectations
  deriving DecidableEq

/-- The key of a section. -/
def NamedSection.key : NamedSection → String
  | .facts => "facts"
  | .values => "values"
  | .expectations => "expectations"

/-- What an entry of a section is called. -/
def NamedSection.entry : NamedSection → String
  | .facts => "fact"
  | .values => "value"
  | .expectations => "expectation"

/-- The results that an enumerated expectation must be able to have. -/
inductive RequiredResult where
  /-- The target passes. -/
  | passing
  /-- The target deserves a warning. -/
  | warning
  deriving DecidableEq

/-- The literal of a result. -/
def RequiredResult.literal : RequiredResult → String
  | .passing => "passing"
  | .warning => "warning"

/-- The fields with links. -/
inductive LinkField where
  /-- The description of a Check. -/
  | description
  /-- What to do when a Check fails. -/
  | remediation
  deriving DecidableEq

/-- The name of a field with links. -/
def LinkField.name : LinkField → String
  | .description => "description"
  | .remediation => "remediation"

/-- What a rule finds. -/
inductive Finding where
  /-- The Check has no expectations. -/
  | noExpectations
  /-- An expectation has no expression. -/
  | noExpression (expectation : String)
  /-- An expectation has more than one expression. -/
  | manyExpressions (expectation : String) (fields : List ExprField)
  /-- The choice of an expectation cannot have a result. -/
  | missingResult (expectation : String) (result : RequiredResult)
  /-- An expectation has a warning message and no choice. -/
  | strayWarning (expectation : String)
  /-- The failure message of a comparison across targets interpolates. -/
  | strayInterpolation (expectation : String)
  /-- An earlier entry of the section has the same name. -/
  | duplicate (inSection : NamedSection) (name : String)
  /-- A value has the name of a fact. -/
  | collision (value : String)
  /-- An expression does not parse. -/
  | badExpression (place : SitePlace) (fault : SyntaxFault)
  /-- A reference names nothing; `known` is the environment. -/
  | badReference (place : SitePlace) (reference : Reference) (known : List String)
  /-- Values depend on each other; the first one is repeated at the end. -/
  | cycle (values : List String)
  /-- The payload of a condition differs in shape from the default. -/
  | shapeMismatch (value : String) (index : Nat) (found expected : Shape)
  /-- The kind of target is unknown. -/
  | unknownTargetType (found : String) (known : List String)
  /-- A provider is unknown. -/
  | unknownProvider (index : Nat) (found : String) (known : List String)
  /-- The Check says whether it is reserved to subscribers. -/
  | premiumSet
  /-- A link is unreachable. -/
  | badLink (field : LinkField) (url reason : String)
  /-- Links were not tried to their end. -/
  | linksUnfinished (unfinished total : Nat)

namespace Finding

/-- The path of an expectation. -/
def expectationPath (name : String) : String := "expectations." ++ name

/-- The place of a finding. -/
def path : Finding → String
  | .noExpectations => "expectations"
  | .noExpression e | .manyExpressions e _ => expectationPath e
  | .missingResult e _ => (SitePlace.expr e .expectEnum).path
  | .strayWarning e => (SitePlace.message e .warning).path
  | .strayInterpolation e => (SitePlace.message e .failure).path
  | .duplicate s name => s.key ++ "." ++ name
  | .collision v => "values." ++ v
  | .badExpression place _ | .badReference place _ _ => place.path
  | .cycle vs => "values." ++ vs.headD ""
  | .shapeMismatch v i _ _ => "values." ++ v ++ ".conditions[" ++ toString i ++ "].value"
  | .unknownTargetType _ _ => "metadata.target_type"
  | .unknownProvider i _ _ => "metadata.provider[" ++ toString i ++ "]"
  | .premiumSet => "premium"
  | .badLink f _ _ => f.name
  | .linksUnfinished _ _ => "links"

/-- Names in a row. -/
def row (names : List String) : String := ", ".intercalate names

/-- The wording of a reference that names nothing. -/
def referenceMessage (r : Reference) (known : List String) : String :=
  "Reference '" ++ r.dotted ++
    match r.scope with
    | .facts => "' does not match any declared fact"
    | .values => "' does not match any declared value"
    | .env => "' is not a known environment identifier (known: " ++ row known ++ ")"

/-- The wording of a finding. -/
def message : Finding → String
  | .noExpectations => "List must not be empty"
  | .noExpression _ => "Expectation must set one of 'expect', 'expect_same' or 'expect_enum'"
  | .manyExpressions _ fields =>
    "Expectation must set only one expression field, found " ++
      row (fields.map fun f => "'" ++ f.name ++ "'")
  | .missingResult _ .passing => "Return value \"passing\" not found"
  | .missingResult _ .warning =>
    "Return value \"warning\" not found; use 'expect' if no warning outcome is needed"
  | .strayWarning _ => "warning_message is only available for expect_enum expectations"
  | .strayInterpolation _ => "String interpolation is not allowed here"
  | .duplicate s name => "Duplicate " ++ s.entry ++ " name '" ++ name ++ "'"
  | .collision v => "Value name '" ++ v ++ "' collides with a fact of the same name"
  | .badExpression _ fault => fault.message
  | .badReference _ r known => referenceMessage r known
  | .cycle vs => "Cyclic value dependency: " ++ " -> ".intercalate (vs.map ("values." ++ ·))
  | .shapeMismatch v _ found expected =>
    "Condition value is a " ++ found.name ++ " but the default of '" ++ v ++ "' is a " ++
      expected.name
  | .unknownTargetType found known =>
    "Unknown target type '" ++ found ++ "' (expected one of: " ++ row known ++ ")"
  | .unknownProvider _ found known =>
    "Unknown provider '" ++ found ++ "' (expected one of: " ++ row known ++ ")"
  | .premiumSet => "Property 'premium' is deprecated and will be removed in the future"
  | .badLink _ url reason => "Invalid link (" ++ url ++ "): " ++ reason
  | .linksUnfinished unfinished total =>
    "Link check truncated: " ++ toString unfinished ++ " of " ++ toString total ++
      " link(s) not checked"

/-- How serious a finding is: all are errors but the use of what is deprecated. -/
def severity : Finding → Severity
  | .premiumSet => .warning
  | _ => .error

/-- The diagnostic of a finding of a rule in a Check. -/
def diagnostic (check rule : String) (f : Finding) : Diagnostic :=
  ⟨check, f.path, rule, f.severity, f.message⟩

end Finding

end CheckDoc
