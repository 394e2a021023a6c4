import CheckDoc.Numeric.Decimal

/-!
# Expressions

The expressions of a Check: literals, lists of literals and references joined by comparisons and
the connectives `&&`, `||` and `!`. A choice is the `if … else` chain of an enumerated expectation;
it stands at the root only, so it has a type of its own. Expressions are inspected and never
evaluated.
-/

namespace CheckDoc

/-- The scopes that a reference can name. -/
inductive Scope where
  /-- The data that gatherers supply. -/
  | facts
  /-- The values that a Check declares. -/
  | values
  /-- The environment of a run. -/
  | env
  deriving DecidableEq

/-- The name of a scope in a text. -/
def Scope.name : Scope → String
  | .facts => "facts"
  | .values => "values"
  | .env => "env"

/-- The scope of a name. -/
def Scope.ofName? (s : String) : Option Scope :=
  if s = "facts" then some .facts
  else if s = "values" then some .values
  else if s = "env" then some .env
  else none

/-- A reference to an identifier of a scope. -/
structure Reference where
  /-- Where the identifier is looked up. -/
  scope : Scope
  /-- The identifier. -/
  identifier : String
  deriving DecidableEq

/-- The text of a reference. -/
def Reference.dotted (r : Reference) : String := r.scope.name ++ "." ++ r.identifier

/-- The comparisons. -/
inductive Comparator where
  /-- Equal. -/
  | eq
  /-- Not equal. -/
  | ne
  /-- Less. -/
  | lt
  /-- Less or equal. -/
  | le
  /-- Greater. -/
  | gt
  /-- Greater or equal. -/
  | ge
  deriving DecidableEq

/-- The operator of a comparison in a text. -/
def Comparator.symbol : Comparator → String
  | .eq => "=="
  | .ne => "!="
  | .lt => "<"
  | .le => "<="
  | .gt => ">"
  | .ge => ">="

/-- Whether a comparison needs operands that have an order. -/
def Comparator.isOrdering : Comparator → Bool
  | .eq | .ne => false
  | _ => true

/-- The constants of a Check. -/
inductive Scalar where
  /-- A text. -/
  | str (s : String)
  /-- An integer of any size. -/
  | int (n : Int)
  /-- A floating point number. -/
  | float (x : Binary64)
  /-- A truth value. -/
  | bool (b : Bool)
  deriving DecidableEq

/-- Whether two constants are equal as data: truth values count as 0 and 1, and numbers are
compared by value. -/
def Scalar.alike : Scalar → Scalar → Bool
  | .str s, .str t => s = t
  | .float x, .float y => x.numEq y
  | .float x, .int n => x.eqInt n
  | .int n, .float x => x.eqInt n
  | .float x, .bool b => x.eqInt b.toInt
  | .bool b, .float x => x.eqInt b.toInt
  | .int m, .int n => m = n
  | .int m, .bool b => m = b.toInt
  | .bool b, .int m => m = b.toInt
  | .bool b, .bool c => b = c
  | _, _ => false

/-- An expression tree. -/
inductive Expr where
  /-- A constant. -/
  | literal (value : Scalar)
  /-- A list of constants in brackets. -/
  | list (items : List Scalar)
  /-- A reference. -/
  | reference (target : Reference)
  /-- A comparison. -/
  | compare (op : Comparator) (left right : Expr)
  /-- A conjunction. -/
  | and (left right : Expr)
  /-- A disjunction. -/
  | or (left right : Expr)
  /-- A negation. -/
  | not (operand : Expr)
  deriving DecidableEq

/-- An arm of a choice: a condition and the constant it selects. -/
structure Branch where
  /-- When the arm is taken. -/
  condition : Expr
  /-- What it yields. -/
  result : Scalar
  deriving DecidableEq

/-- An `if … else if … else` chain that selects a constant. -/
structure Choice where
  /-- The arms in order. -/
  branches : List Branch
  /-- The constant of a last `else`. -/
  otherwise : Option Scalar
  deriving DecidableEq

/-- What the text of a field parses to. -/
inductive Tree where
  /-- An expression. -/
  | expr (e : Expr)
  /-- A choice. -/
  | choice (c : Choice)
  deriving DecidableEq

namespace Expr

/-- The references of an expression from left to right, with repetitions. -/
def references : Expr → List Reference
  | .literal _ => []
  | .list _ => []
  | .reference r => [r]
  | .compare _ l r => references l ++ references r
  | .and l r => references l ++ references r
  | .or l r => references l ++ references r
  | .not e => references e

/-- Whether two expressions are equal up to `Scalar.alike`. -/
def alike : Expr → Expr → Bool
  | .literal a, .literal b => a.alike b
  | .list as, .list bs => as.length = bs.length && (as.zip bs).all fun p => p.1.alike p.2
  | .reference r, .reference s => r = s
  | .compare o l r, .compare p m s => o = p && alike l m && alike r s
  | .and l r, .and m s => alike l m && alike r s
  | .or l r, .or m s => alike l m && alike r s
  | .not e, .not f => alike e f
  | _, _ => false

end Expr

namespace Choice

/-- The references of the conditions in order. -/
def references (c : Choice) : List Reference := c.branches.flatMap (·.condition.references)

/-- The constants that a choice can yield, in order. -/
def results (c : Choice) : List Scalar := c.branches.map (·.result) ++ c.otherwise.toList

/-- Whether two choices are equal up to `Scalar.alike`. -/
def alike (c d : Choice) : Bool :=
  c.branches.length = d.branches.length &&
  ((c.branches.zip d.branches).all fun p =>
    p.1.condition.alike p.2.condition && p.1.result.alike p.2.result) &&
  match c.otherwise, d.otherwise with
  | none, none => true
  | some a, some b => a.alike b
  | _, _ => false

end Choice

namespace Tree

/-- The references of a tree from left to right, with repetitions. -/
def references : Tree → List Reference
  | .expr e => e.references
  | .choice c => c.references

/-- Whether two trees are equal up to `Scalar.alike`. -/
def alike : Tree → Tree → Bool
  | .expr e, .expr f => e.alike f
  | .choice c, .choice d => c.alike d
  | _, _ => false

end Tree

end CheckDoc
