import CheckDoc.Document.Basic
import CheckDoc.Expr.Template

/-!
# The expressions of a Check

A site is a place that holds an expression, with what its text parses to: the `when` of a condition,
an expression field of an expectation, or a segment of a message template. Each site is read on its
own, so that a fault in one hides no other; only a template with an unclosed segment is one site as
a whole. `Check.sites` lists them in the order of the document.
-/

namespace CheckDoc

/-- The field that a site stands in. -/
inductive SitePlace where
  /-- The `when` of a condition, by the name of the value and the index of the condition. -/
  | condition (value : String) (index : Nat)
  /-- An expression field of an expectation. -/
  | expr (expectation : String) (field : ExprField)
  /-- A message field of an expectation. -/
  | message (expectation : String) (field : MessageField)
  deriving DecidableEq

namespace SitePlace

/-- The name of the field. -/
def fieldName : SitePlace → String
  | .condition _ _ => "when"
  | .expr _ f => f.name
  | .message _ f => f.name

/-- The path of the field from the root of the document. -/
def path : SitePlace → String
  | .condition v i => "values." ++ v ++ ".conditions[" ++ toString i ++ "].when"
  | .expr e f => "expectations." ++ e ++ "." ++ f.name
  | .message e f => "expectations." ++ e ++ "." ++ f.name

/-- The name of the value or expectation that the field belongs to. -/
def owner : SitePlace → String
  | .condition v _ => v
  | .expr e _ => e
  | .message e _ => e

/-- Whether the field belongs to a value. -/
def isValue : SitePlace → Bool
  | .condition _ _ => true
  | _ => false

end SitePlace

/-- A place that holds an expression. -/
structure Site where
  /-- The field. -/
  place : SitePlace
  /-- The text. -/
  source : String
  /-- What the text parses to, or why it does not. -/
  outcome : Except SyntaxFault Tree

/-- The part of a text after its last point. -/
def afterLastDot (s : List Char) : List Char := (s.reverse.takeWhile (· ≠ '.')).reverse

namespace Site

/-- The path of the field of a site. -/
def path (s : Site) : String := s.place.path

/-- The last part of the path of a site. -/
def field (s : Site) : String := String.ofList (afterLastDot s.path.toList)

/-- The tree of a site that parses. -/
def tree? (s : Site) : Option Tree := s.outcome.toOption

/-- The fault of a site that does not parse. -/
def fault? (s : Site) : Option SyntaxFault :=
  match s.outcome with
  | .ok _ => none
  | .error fault => some fault

/-- Whether a site parses. -/
def isValid (s : Site) : Bool := s.tree?.isSome

/-- The references of a site, none where it does not parse. -/
def references (s : Site) : List Reference :=
  match s.tree? with
  | some t => t.references
  | none => []

end Site

/-- What the text of an expression field parses to. -/
def ExprField.parse (f : ExprField) (source : String) : Except SyntaxFault Tree :=
  match f with
  | .expectEnum => Tree.choice <$> Choice.parse source
  | _ => Tree.expr <$> Expr.parse source

/-- The sites of the conditions of a value. -/
def Value.sites (v : Value) : List Site :=
  v.conditions.zipIdx.map fun (c, i) =>
    ⟨.condition v.name i, c.when, Tree.expr <$> Expr.parse c.when⟩

/-- The sites of a message template. -/
def templateSites (place : SitePlace) (template : String) : List Site :=
  match Segment.ofTemplate template with
  | .error fault => [⟨place, template, .error fault⟩]
  | .ok segments => segments.map fun s => ⟨place, s.source, Tree.expr <$> s.parse⟩

/-- The sites of an expectation: those of its expression fields, then those of its messages. -/
def Expectation.sites (e : Expectation) : List Site :=
  (ExprField.all.flatMap fun f =>
    (e.expr? f).toList.map fun source => ⟨.expr e.name f, source, f.parse source⟩) ++
  MessageField.all.flatMap fun f =>
    (e.message? f).toList.flatMap (templateSites (.message e.name f))

/-- The sites of a Check: those of its values, then those of its expectations. -/
def Check.sites (c : Check) : List Site :=
  c.values.flatMap Value.sites ++ c.expectations.flatMap Expectation.sites

end CheckDoc
