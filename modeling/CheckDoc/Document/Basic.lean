import CheckDoc.Expr.Basic

/-!
# Checks

A Check is a document that names the facts it needs, derives values from them, and states
expectations over both. Expressions and message templates are kept here as they are written.
-/

namespace CheckDoc

/-- The value of a default or a condition: one constant or a list of constants. -/
inductive Payload where
  /-- One constant. -/
  | scalar (v : Scalar)
  /-- A list of constants. -/
  | list (items : List Scalar)
  deriving DecidableEq

/-- The shapes of payloads. -/
inductive Shape where
  /-- One constant. -/
  | scalar
  /-- A list. -/
  | list
  deriving DecidableEq

/-- The name of a shape. -/
def Shape.name : Shape → String
  | .scalar => "scalar"
  | .list => "list"

/-- The shape of a payload. -/
def Payload.shape : Payload → Shape
  | .scalar _ => .scalar
  | .list _ => .list

/-- The classification of a Check. -/
structure Metadata where
  /-- What kind of target the Check is for. -/
  targetType : Option String
  /-- The providers that the Check is for. -/
  providers : List String
  deriving DecidableEq

/-- A datum that a gatherer supplies. -/
structure Fact where
  /-- The name in references. -/
  name : String
  /-- Who supplies it. -/
  gatherer : String
  /-- What the gatherer is asked for. -/
  argument : String
  deriving DecidableEq

/-- A payload that replaces a default when an expression holds. -/
structure Condition where
  /-- What the value is then. -/
  payload : Payload
  /-- The expression. -/
  when : String
  deriving DecidableEq

/-- A derived datum. -/
structure Value where
  /-- The name in references. -/
  name : String
  /-- What it is when no condition holds. -/
  default : Payload
  /-- The conditions in order. -/
  conditions : List Condition
  deriving DecidableEq

/-- The fields of an expectation that hold an expression. -/
inductive ExprField where
  /-- An expression that holds on each target. -/
  | expect
  /-- An expression with the same result on all targets. -/
  | expectSame
  /-- A choice of an outcome. -/
  | expectEnum
  deriving DecidableEq

/-- The fields of an expectation that hold a message template. -/
inductive MessageField where
  /-- The message of a failure. -/
  | failure
  /-- The message of a warning. -/
  | warning
  deriving DecidableEq

/-- The name of an expression field. -/
def ExprField.name : ExprField → String
  | .expect => "expect"
  | .expectSame => "expect_same"
  | .expectEnum => "expect_enum"

/-- The name of a message field. -/
def MessageField.name : MessageField → String
  | .failure => "failure_message"
  | .warning => "warning_message"

/-- The expression fields in order. -/
def ExprField.all : List ExprField := [.expect, .expectSame, .expectEnum]

/-- The message fields in order. -/
def MessageField.all : List MessageField := [.failure, .warning]

/-- A named assertion over facts and values. -/
structure Expectation where
  /-- The name. -/
  name : String
  /-- The text of `expect`. -/
  expect : Option String
  /-- The text of `expect_same`. -/
  expectSame : Option String
  /-- The text of `expect_enum`. -/
  expectEnum : Option String
  /-- The template of the failure message. -/
  failureMessage : Option String
  /-- The template of the warning message. -/
  warningMessage : Option String
  deriving DecidableEq

namespace Expectation

/-- The text of an expression field. -/
def expr? (e : Expectation) : ExprField → Option String
  | .expect => e.expect
  | .expectSame => e.expectSame
  | .expectEnum => e.expectEnum

/-- The template of a message field. -/
def message? (e : Expectation) : MessageField → Option String
  | .failure => e.failureMessage
  | .warning => e.warningMessage

/-- The expression fields that are set, in order. -/
def setFields (e : Expectation) : List ExprField := ExprField.all.filter fun f => (e.expr? f).isSome

end Expectation

/-- A Check. -/
structure Check where
  /-- The identifier. -/
  id : String
  /-- The name. -/
  name : String
  /-- The group it belongs to. -/
  group : String
  /-- What it is about. -/
  description : String
  /-- What to do when it fails. -/
  remediation : String
  /-- The classification. -/
  metadata : Option Metadata
  /-- The facts in order. -/
  facts : List Fact
  /-- The values in order. -/
  values : List Value
  /-- The expectations in order. -/
  expectations : List Expectation
  /-- Whether it is reserved to subscribers; deprecated. -/
  premium : Option Bool
  deriving DecidableEq

end CheckDoc
