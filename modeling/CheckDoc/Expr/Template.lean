import CheckDoc.Expr.Parser

/-!
# Message templates

A template is text with segments `${…}`. A segment runs from `${` to the next closing brace and
holds an expression; the text around the segments means itself.
-/

namespace CheckDoc

/-- A segment of a template. -/
structure Segment where
  /-- The text between the braces. -/
  source : String
  /-- The place of its first character in the template. -/
  origin : Position
  deriving DecidableEq

namespace Segment

/-- The segments of a text that begins at `p`, in order. -/
def scan (p : Position) (s : List Char) : Except SyntaxFault (List Segment) :=
  match s with
  | [] => .ok []
  | c :: cs =>
    if c = '$' ∧ cs.head? = some '{' then
      let body := cs.drop 1
      let source := body.takeWhile (· ≠ '}')
      match _hr : body.dropWhile (· ≠ '}') with
      | [] => .error ⟨.unterminatedSegment, p⟩
      | brace :: rest => do
        let origin := p.after [c, '{']
        let more ← scan (origin.after (source ++ [brace])) rest
        pure (⟨String.ofList source, origin⟩ :: more)
    else scan (p.advance c) cs
termination_by s.length
decreasing_by
  · have hle : (body.dropWhile (· ≠ '}')).length ≤ body.length :=
      (List.dropWhile_sublist _).length_le
    rw [_hr] at hle
    simp only [body, List.length_drop, List.length_cons] at hle ⊢
    omega
  · simp

/-- The segments of a template in order. -/
def ofTemplate (template : String) : Except SyntaxFault (List Segment) :=
  scan .start template.toList

/-- Reads the expression of a segment; a fault stands at its place in the template. -/
def parse (s : Segment) : Except SyntaxFault Expr :=
  match Expr.parse s.source with
  | .ok e => .ok e
  | .error fault => .error ⟨fault.cause, s.origin.within fault.position⟩

end Segment

end CheckDoc
