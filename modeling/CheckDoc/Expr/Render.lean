import CheckDoc.Expr.Basic

/-!
# Writing expressions

The text of a tree. Parentheses stand only where an operand binds more loosely than its place
allows: `||` binds loosest, then `&&`, then `!`, then the comparisons, which do not chain. A number
is written without an exponent.
-/

namespace CheckDoc

/-- One character inside a string literal. -/
def Scalar.escape (c : Char) : List Char :=
  if c = '\\' then ['\\', '\\']
  else if c = '"' then ['\\', '"']
  else if c = '\n' then ['\\', 'n']
  else if c = '\t' then ['\\', 't']
  else [c]

/-- The text of a constant. -/
def Scalar.render : Scalar → String
  | .str s => "\"" ++ String.ofList (s.toList.flatMap escape) ++ "\""
  | .int n => toString n
  | .float x => x.positional
  | .bool b => if b then "true" else "false"

namespace Expr

/-- How tightly the root of an expression binds its operands. -/
def precedence : Expr → Nat
  | .or _ _ => 1
  | .and _ _ => 2
  | .not _ => 3
  | .compare _ _ _ => 4
  | _ => 5

/-- The text of an expression in a place that binds with strength `parent`. -/
def renderIn (parent : Nat) (e : Expr) : String :=
  let text := match e with
    | .literal v => v.render
    | .list items => "[" ++ ", ".intercalate (items.map Scalar.render) ++ "]"
    | .reference r => r.dotted
    | .compare op l r => renderIn 5 l ++ " " ++ op.symbol ++ " " ++ renderIn 5 r
    | .and l r => renderIn 2 l ++ " && " ++ renderIn 3 r
    | .or l r => renderIn 1 l ++ " || " ++ renderIn 2 r
    | .not x => "!" ++ renderIn 3 x
  if e.precedence < parent then "(" ++ text ++ ")" else text

/-- The text of an expression. -/
def render (e : Expr) : String := e.renderIn 0

end Expr

/-- The text of a constant in braces. -/
def Scalar.block (v : Scalar) : String := "\x7b " ++ v.render ++ " \x7d"

/-- The text of a choice. -/
def Choice.render (c : Choice) : String :=
  " else ".intercalate <|
    c.branches.map (fun b => "if " ++ b.condition.render ++ " " ++ b.result.block) ++
      c.otherwise.toList.map Scalar.block

/-- The text of a tree. -/
def Tree.render : Tree → String
  | .expr e => e.render
  | .choice c => c.render

end CheckDoc
