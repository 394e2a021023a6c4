import CheckDoc.Lint.Finding
import CheckDoc.Proofs.Text.Lines

/-!
# What a line takes over

The line of a diagnostic is put together from fixed wordings, numbers, quoted texts, and texts that
are taken over as they are. `Finding.texts` lists the latter for each finding, and a character that
is not printable comes from them or from the identifier of the Check (`Finding.takesFrom_line`). The
messages of parse errors quote what they show, but for the character after a backslash that escapes
nothing.
-/

namespace CheckDoc

/-- The texts that the wording of a cause takes over as they are. -/
def SyntaxCause.texts : SyntaxCause → List String
  | .invalidEscape c => [String.singleton c]
  | _ => []

namespace Finding

/-- The texts that the path of a finding takes over as they are. -/
def pathTexts : Finding → List String
  | .noExpression e | .manyExpressions e _ | .missingResult e _ | .strayWarning e
  | .strayInterpolation e => [e]
  | .duplicate _ name => [name]
  | .collision v | .shapeMismatch v _ _ _ => [v]
  | .badExpression place _ | .badReference place _ _ => [place.owner]
  | .cycle vs => [vs.headD ""]
  | .noExpectations | .unknownTargetType _ _ | .unknownProvider _ _ _ | .premiumSet
  | .badLink _ _ _ | .linksUnfinished _ _ => []

/-- The texts that the wording of a finding takes over as they are. -/
def messageTexts : Finding → List String
  | .duplicate _ name => [name]
  | .collision v | .shapeMismatch v _ _ _ => [v]
  | .badExpression _ fault => fault.cause.texts
  | .badReference _ r known => r.identifier :: if r.scope = .env then known else []
  | .cycle vs => vs
  | .unknownTargetType found known | .unknownProvider _ found known => found :: known
  | .badLink _ url reason => [url, reason]
  | .noExpectations | .noExpression _ | .manyExpressions _ _ | .missingResult _ _
  | .strayWarning _ | .strayInterpolation _ | .premiumSet | .linksUnfinished _ _ => []

/-- The texts that the line on a finding takes over as they are, besides the identifier of the
Check. -/
def texts (x : Finding) : List String := x.pathTexts ++ x.messageTexts

end Finding

open Text

/-! ## Faults -/

/-- What a token or the end of the text is called is printable. -/
theorem SyntaxCause.allPrintable_gotText (got : Option String) :
    allPrintable (gotText got) = true := by
  cases got with
  | none => rfl
  | some s => exact allPrintable_quoted s

/-- The name of a kind of tokens is printable. -/
theorem TokenKind.allPrintable_description (k : TokenKind) :
    allPrintable k.description = true := by
  unfold TokenKind.description
  split
  · rfl
  · rfl
  · rfl
  · rfl
  · exact allPrintable_quoted _

/-- A cause takes over nothing, unless it is a backslash that escapes nothing. -/
theorem SyntaxCause.takesFrom_message (cause : SyntaxCause) :
    TakesFrom cause.texts cause.message := by
  have hquoted (s : String) : TakesFrom [] (quoted s) := .fixed (allPrintable_quoted s)
  have hgot (got : Option String) : TakesFrom [] (gotText got) :=
    .fixed (allPrintable_gotText got)
  cases cause with
  | invalidEscape c => exact .between (by decide) (.self _) (by decide)
  | unterminatedString | unterminatedSegment | empty | unexpectedEnd | strayParen | openParen
  | openBracket | numberRange => exact .fixed (by decide)
  | unknownOperator _ | unexpected _ | listDelimiter _ | listOrder _ | unknownScope _ =>
    exact (hquoted _).after (by decide)
  | listItem got | branchResult got => exact (hgot got).after (by decide)
  | chained _ | bareIdentifier _ =>
    exact .between (by decide) (hquoted _) (by decide)
  | expected kind got =>
    have hkind : TakesFrom [] kind.description := .fixed kind.allPrintable_description
    exact (TakesFrom.between (by decide) hkind (by decide)).append (hgot got)

/-- The report of a fault takes over what its cause does. -/
theorem SyntaxFault.takesFrom_message (fault : SyntaxFault) :
    TakesFrom fault.cause.texts fault.message := by
  have hline := (fault.cause.takesFrom_message.before (t := " (line ") (by decide)).before
    (allPrintable_toString fault.position.line)
  have hcolumn := (hline.before (t := ", position ") (by decide)).before
    (allPrintable_toString fault.position.column)
  exact hcolumn.before (by decide)

/-! ## Paths -/

/-- A name with a point in front and a field behind. -/
theorem takesFrom_member {front field : String} (hfront : allPrintable front = true)
    (name : String) (hfield : allPrintable field = true) :
    TakesFrom [name] (front ++ name ++ "." ++ field) :=
  (TakesFrom.between hfront (.self name) (by decide)).before hfield

/-- A field of a condition. -/
theorem takesFrom_condition {field : String} (value : String) (index : Nat)
    (hfield : allPrintable field = true) :
    TakesFrom [value] ("values." ++ value ++ ".conditions[" ++ toString index ++ field) :=
  ((TakesFrom.between (by decide) (.self value) (by decide)).before
    (allPrintable_toString index)).before hfield

/-- The path of a field takes over the name of what the field belongs to. -/
theorem SitePlace.takesFrom_path (place : SitePlace) : TakesFrom [place.owner] place.path := by
  cases place with
  | condition v i => exact takesFrom_condition v i (by decide)
  | expr e f => exact takesFrom_member (by decide) e (by cases f <;> decide)
  | message e f => exact takesFrom_member (by decide) e (by cases f <;> decide)

namespace Finding

/-- The path of a finding takes over the name of an entry, if any. -/
theorem takesFrom_path (x : Finding) : TakesFrom x.pathTexts x.path := by
  have hself (name : String) : TakesFrom [name] name := .self name
  cases x with
  | noExpectations | premiumSet => exact .fixed (by decide)
  | unknownTargetType _ _ => exact .fixed (s := "metadata.target_type") (by decide)
  | linksUnfinished _ _ => exact .fixed (s := "links") (by decide)
  | noExpression e | manyExpressions e _ => exact (hself e).after (by decide)
  | missingResult e _ => exact (SitePlace.expr e .expectEnum).takesFrom_path
  | strayWarning e => exact (SitePlace.message e .warning).takesFrom_path
  | strayInterpolation e => exact (SitePlace.message e .failure).takesFrom_path
  | duplicate s name =>
    have hfront : allPrintable (s.key ++ ".") = true := by cases s <;> decide
    exact (hself name).after hfront
  | collision v => exact (hself v).after (by decide)
  | badExpression place _ | badReference place _ _ => exact place.takesFrom_path
  | cycle vs => exact (hself (vs.headD "")).after (by decide)
  | shapeMismatch v i _ _ => exact takesFrom_condition v i (by decide)
  | unknownProvider i _ _ =>
    exact .between (by decide) (.fixed (allPrintable_toString i)) (by decide)
  | badLink f _ _ =>
    have hname : allPrintable f.name = true := by cases f <;> decide
    exact .fixed hname

/-! ## Messages -/

/-- Names in a row are taken over. -/
theorem takesFrom_row (names : List String) : TakesFrom names (row names) := by
  have hrow := TakesFrom.intercalate (s := ", ") (by decide) TakesFrom.self names
  rwa [List.flatMap_singleton', List.map_id'] at hrow

/-- What is unknown is taken over, and so is what is known. -/
theorem takesFrom_unknown {front : String} (hfront : allPrintable front = true) (found : String)
    (known : List String) :
    TakesFrom (found :: known)
      (front ++ found ++ "' (expected one of: " ++ row known ++ ")") :=
  ((TakesFrom.between hfront (.self found) (by decide)).append
    (takesFrom_row known)).before (by decide)

/-- The wording on a reference takes over its identifier and, for the environment, what is
known. -/
theorem takesFrom_referenceMessage (r : Reference) (known : List String) :
    TakesFrom (r.identifier :: if r.scope = .env then known else [])
      (referenceMessage r known) := by
  obtain ⟨scope, identifier⟩ := r
  have hscope : allPrintable (scope.name ++ ".") = true := by cases scope <;> decide
  have hfront : TakesFrom [identifier] ("Reference '" ++ (scope.name ++ "." ++ identifier)) :=
    ((TakesFrom.self identifier).after hscope).after (by decide)
  cases scope with
  | facts => exact hfront.before (t := "' does not match any declared fact") (by decide)
  | values => exact hfront.before (t := "' does not match any declared value") (by decide)
  | env =>
    exact hfront.append (.between (by decide) (takesFrom_row known) (by decide))

/-- The wording of a finding takes over its names and the details that are not quoted. -/
theorem takesFrom_message (x : Finding) : TakesFrom x.messageTexts x.message := by
  have hself (name : String) : TakesFrom [name] name := .self name
  cases x with
  | noExpectations | premiumSet => exact .fixed (by decide)
  | noExpression _ => exact .fixed (s := (noExpression "").message) (by decide)
  | strayWarning _ => exact .fixed (s := (strayWarning "").message) (by decide)
  | strayInterpolation _ =>
    exact .fixed (s := (strayInterpolation "").message) (by decide)
  | manyExpressions _ fields =>
    have hfield (f : ExprField) : TakesFrom [] ("'" ++ f.name ++ "'") :=
      .fixed (by cases f <;> decide)
    have hfields := TakesFrom.intercalate (s := ", ") (by decide) hfield fields
    rw [List.flatMap_eq_nil_iff.2 fun _ _ => rfl] at hfields
    exact hfields.after (by decide)
  | missingResult _ result =>
    cases result with
    | passing => exact .fixed (s := (missingResult "" .passing).message) (by decide)
    | warning => exact .fixed (s := (missingResult "" .warning).message) (by decide)
  | duplicate s name =>
    have hfront : allPrintable ("Duplicate " ++ s.entry ++ " name '") = true := by
      cases s <;> decide
    exact .between hfront (hself name) (by decide)
  | collision v => exact .between (by decide) (hself v) (by decide)
  | badExpression _ fault => exact fault.takesFrom_message
  | badReference _ r known => exact takesFrom_referenceMessage r known
  | cycle vs =>
    have hnode (v : String) : TakesFrom [v] ("values." ++ v) := (hself v).after (by decide)
    have hnodes := TakesFrom.intercalate (s := " -> ") (by decide) hnode vs
    rw [List.flatMap_singleton'] at hnodes
    exact hnodes.after (by decide)
  | shapeMismatch v _ found expected =>
    have hfront : allPrintable
        ("Condition value is a " ++ found.name ++ " but the default of '") = true := by
      cases found <;> decide
    have hback : allPrintable expected.name = true := by cases expected <;> decide
    exact (TakesFrom.between hfront (hself v) (by decide)).before hback
  | unknownTargetType found known => exact takesFrom_unknown (by decide) found known
  | unknownProvider _ found known => exact takesFrom_unknown (by decide) found known
  | badLink _ url reason =>
    exact (TakesFrom.between (by decide) (hself url) (by decide)).append
      (hself reason)
  | linksUnfinished unfinished total =>
    have hcount (n : Nat) : TakesFrom [] (toString n) := .fixed (allPrintable_toString n)
    exact ((TakesFrom.between (by decide) (hcount unfinished) (by decide)).append
      (hcount total)).before (by decide)

/-- The line on a finding takes over the identifier of the Check and the texts of the finding. -/
theorem takesFrom_line (check rule : String) (x : Finding) :
    TakesFrom (check :: x.texts) (x.diagnostic check rule).line := by
  have hpath : TakesFrom (check :: x.pathTexts) (check ++ "  - " ++ x.path) :=
    ((TakesFrom.self check).before (by decide)).append x.takesFrom_path
  refine ((hpath.before (t := " - ") (by decide)).before ?_).append x.takesFrom_message
  -- The mark of a warning.
  split <;> decide

end Finding

end CheckDoc
