import CheckDoc.Expr.Lexer

/-!
# Reading expressions

The grammar, loosest first:

* or := and (`||` and)*
* and := unary (`&&` unary)*
* unary := `!` unary | comparison
* comparison := operand (op operand)?
* operand := literal | list | reference | `(` or `)`
* list := `[` (literal (`,` literal)*)? `]`
* reference := scope `.` identifier
* choice := `if` or block (`else` `if` or block)* (`else` block)?
* block := a literal in braces

There is a reader for each line. A reader takes the tokens ahead and gives what it read with the
tokens that remain, which are fewer: by this the readers end. On the same tokens a reader calls only
those of tighter lines, so a number measures both, and the kernel can run the readers. A fault
stands at a token, or at the end of the text where the tokens run out.
-/

namespace CheckDoc

/-- The most digits that an integer can have; zeros in front count. -/
def maxIntegerDigits : Nat := 4300

/-- The integer that an optional minus and digits stand for; `none` where there are too many. -/
def integerOf? (s : List Char) : Option Int :=
  let (neg, digits) := match s with
    | '-' :: ds => (true, ds)
    | ds => (false, ds)
  if digits.length ≤ maxIntegerDigits then
    let n : Int := Nat.ofDigitChars 10 digits 0
    some (if neg then -n else n)
  else none

/-- The number that an optional minus, digits, a point and digits stand for; `none` where it is too
large to be finite. -/
def floatOf? (s : List Char) : Option Binary64 :=
  let (neg, rest) := match s with
    | '-' :: ds => (true, ds)
    | ds => (false, ds)
  let whole := rest.takeWhile Char.isDigit
  let part := (rest.dropWhile Char.isDigit).drop 1
  let x := Decimal.round ⟨neg, Nat.ofDigitChars 10 (whole ++ part) 0, -(part.length : Int)⟩
  if x.isInfinite then none else some x

namespace Token

/-- The constant that a literal token stands for, or that its number is out of range; `none` for
other tokens. -/
def scalar? (t : Token) : Option (Except SyntaxFault Scalar) :=
  match t.kind with
  | .string => some (.ok (.str t.value))
  | .trueWord => some (.ok (.bool true))
  | .falseWord => some (.ok (.bool false))
  | .integer => some <|
    match integerOf? t.value.toList with
    | some n => .ok (.int n)
    | none => .error ⟨.numberRange, t.position⟩
  | .float => some <|
    match floatOf? t.value.toList with
    | some x => .ok (.float x)
    | none => .error ⟨.numberRange, t.position⟩
  | _ => none

end Token

/-- The tokens that remain: fewer than `n`. -/
abbrev Remaining (n : Nat) := { ts : List Token // ts.length < n }

/-- What a reader makes of the tokens ahead. -/
abbrev Reading (α : Type) (ahead : List Token) := Except SyntaxFault (α × Remaining ahead.length)

namespace Reading

/-- The place of the token ahead, or the end of the text. -/
def place (stop : Position) : List Token → Position
  | [] => stop
  | t :: _ => t.position

/-- The text of the token ahead. -/
def got? : List Token → Option String
  | [] => none
  | t :: _ => some t.value

/-- A fault at the token ahead. -/
def faultAt {α : Type} (stop : Position) (ts : List Token) (cause : SyntaxCause) :
    Except SyntaxFault α :=
  .error ⟨cause, place stop ts⟩

/-- Reads a token of the given kind. -/
def token (stop : Position) (kind : TokenKind) (ts : List Token) : Reading Token ts :=
  match ts with
  | t :: rest =>
    if t.kind = kind then .ok (t, ⟨rest, by simp⟩)
    else faultAt stop (t :: rest) (.expected kind (some t.value))
  | [] => faultAt stop [] (.expected kind none)

/-- Reads a literal; `cause` says what stands in its place otherwise. -/
def scalar (stop : Position) (cause : Option String → SyntaxCause) (ts : List Token) :
    Reading Scalar ts :=
  match ts with
  | t :: rest =>
    match t.scalar? with
    | some (.ok v) => .ok (v, ⟨rest, by simp⟩)
    | some (.error fault) => .error fault
    | none => faultAt stop (t :: rest) (cause (some t.value))
  | [] => faultAt stop [] (cause none)

/-- Reads the items of a list and its closing bracket; `origin` is the place of the opening one. -/
def items (stop origin : Position) (ts : List Token) : Reading (List Scalar) ts := do
  let (v, ⟨rest, hrest⟩) ← scalar stop .listItem ts
  match rest, hrest with
  | [], _ => .error ⟨.openBracket, origin⟩
  | t :: us, hus =>
    if t.kind = .rightBracket then pure ([v], ⟨us, by simp at hus; omega⟩)
    else if t.kind = .comma then
      let (vs, ⟨more, hmore⟩) ← items stop origin us
      pure (v :: vs, ⟨more, by simp at hus; omega⟩)
    else .error ⟨.listDelimiter t.value, t.position⟩
termination_by ts.length
decreasing_by simp at hus; omega

/-- Reads a list after its opening bracket at `origin`. -/
def list (stop origin : Position) (ts : List Token) : Reading Expr ts :=
  match ts with
  | t :: rest =>
    if t.kind = .rightBracket then .ok (.list [], ⟨rest, by simp⟩)
    else do
      let (vs, more) ← items stop origin (t :: rest)
      pure (.list vs, more)
  | [] => do
    let (vs, more) ← items stop origin []
    pure (.list vs, more)

/-- Reads a reference after its first name `head`. -/
def reference (stop : Position) (head : Token) (ts : List Token) : Reading Expr ts :=
  match Scope.ofName? head.value with
  | some scope => do
    let (_, ⟨rest, hrest⟩) ← token stop .dot ts
    let (name, ⟨more, hmore⟩) ← token stop .identifier rest
    pure (.reference ⟨scope, name.value⟩, ⟨more, by omega⟩)
  | none =>
    if ts.head?.any fun t => t.kind = .dot then .error ⟨.unknownScope head.value, head.position⟩
    else .error ⟨.bareIdentifier head.value, head.position⟩

/-- The comparison that the token ahead is. -/
def comparator? : List Token → Option Comparator
  | ⟨.comparison op, _, _⟩ :: _ => some op
  | _ => none

/-- Whether an expression is a list. -/
def isList : Expr → Bool
  | .list _ => true
  | _ => false

mutual

/-- Reads a disjunction. -/
def disjunction (stop : Position) (ts : List Token) : Reading Expr ts := do
  let (left, ⟨rest, _⟩) ← conjunction stop ts
  let (e, ⟨more, _⟩) ← disjuncts stop left rest
  pure (e, ⟨more, by omega⟩)
termination_by 7 * ts.length + 6

/-- Reads the disjuncts that follow `left`. -/
def disjuncts (stop : Position) (left : Expr) (ts : List Token) :
    Except SyntaxFault (Expr × Remaining (ts.length + 1)) :=
  match ts with
  | t :: rest =>
    if t.kind = .or then do
      let (right, ⟨rest', _⟩) ← conjunction stop rest
      let (e, ⟨more, _⟩) ← disjuncts stop (.or left right) rest'
      pure (e, ⟨more, by simp; omega⟩)
    else .ok (left, ⟨t :: rest, by simp⟩)
  | [] => .ok (left, ⟨[], by simp⟩)
termination_by 7 * ts.length + 1

/-- Reads a conjunction. -/
def conjunction (stop : Position) (ts : List Token) : Reading Expr ts := do
  let (left, ⟨rest, _⟩) ← negation stop ts
  let (e, ⟨more, _⟩) ← conjuncts stop left rest
  pure (e, ⟨more, by omega⟩)
termination_by 7 * ts.length + 5

/-- Reads the conjuncts that follow `left`. -/
def conjuncts (stop : Position) (left : Expr) (ts : List Token) :
    Except SyntaxFault (Expr × Remaining (ts.length + 1)) :=
  match ts with
  | t :: rest =>
    if t.kind = .and then do
      let (right, ⟨rest', _⟩) ← negation stop rest
      let (e, ⟨more, _⟩) ← conjuncts stop (.and left right) rest'
      pure (e, ⟨more, by simp; omega⟩)
    else .ok (left, ⟨t :: rest, by simp⟩)
  | [] => .ok (left, ⟨[], by simp⟩)
termination_by 7 * ts.length + 1

/-- Reads negations and what they stand before. -/
def negation (stop : Position) (ts : List Token) : Reading Expr ts :=
  match ts with
  | t :: rest =>
    if t.kind = .not then do
      let (e, ⟨more, _⟩) ← negation stop rest
      pure (.not e, ⟨more, by simp; omega⟩)
    else comparison stop (t :: rest)
  | [] => comparison stop []
termination_by 7 * ts.length + 4

/-- Reads an operand or a comparison of two. -/
def comparison (stop : Position) (ts : List Token) : Reading Expr ts := do
  let (left, ⟨rest, hrest⟩) ← operand stop ts
  match rest, hrest with
  | [], h => pure (left, ⟨[], h⟩)
  | t :: rest', h =>
    match comparator? (t :: rest') with
    | none => pure (left, ⟨t :: rest', h⟩)
    | some op =>
      have hlt : rest'.length < ts.length := by simp at h; omega
      let (right, ⟨more, _⟩) ← operand stop rest'
      if op.isOrdering && (isList left || isList right) then .error ⟨.listOrder op, t.position⟩
      else
        match comparator? more with
        | some next => faultAt stop more (.chained next.symbol)
        | none => pure (.compare op left right, ⟨more, by omega⟩)
termination_by 7 * ts.length + 3

/-- Reads an operand. -/
def operand (stop : Position) (ts : List Token) : Reading Expr ts :=
  match ts with
  | [] => faultAt stop [] .unexpectedEnd
  | t :: rest =>
    match t.scalar? with
    | some (.ok v) => .ok (.literal v, ⟨rest, by simp⟩)
    | some (.error fault) => .error fault
    | none =>
      if t.kind = .leftBracket then do
        let (e, ⟨more, _⟩) ← list stop t.position rest
        pure (e, ⟨more, by simp; omega⟩)
      else if t.kind = .identifier then do
        let (e, ⟨more, _⟩) ← reference stop t rest
        pure (e, ⟨more, by simp; omega⟩)
      else if t.kind = .leftParen then do
        let (e, ⟨more, hmore⟩) ← disjunction stop rest
        match more, hmore with
        | [], _ => faultAt stop [] .openParen
        | u :: more', h =>
          if u.kind = .rightParen then pure (e, ⟨more', by simp at h ⊢; omega⟩)
          else faultAt stop (u :: more') .openParen
      else if t.kind = .rightParen then faultAt stop (t :: rest) .strayParen
      else faultAt stop (t :: rest) (.unexpected t.value)
termination_by 7 * ts.length + 2

end

/-- Reads a literal in braces. -/
def block (stop : Position) (ts : List Token) : Reading Scalar ts := do
  let (_, ⟨rest, _⟩) ← token stop .leftBrace ts
  let (v, ⟨rest', _⟩) ← scalar stop .branchResult rest
  let (_, ⟨more, _⟩) ← token stop .rightBrace rest'
  pure (v, ⟨more, by omega⟩)

/-- Reads an arm of a choice. -/
def branch (stop : Position) (ts : List Token) : Reading Branch ts := do
  let (_, ⟨rest, _⟩) ← token stop .ifWord ts
  let (condition, ⟨rest', _⟩) ← disjunction stop rest
  let (result, ⟨more, _⟩) ← block stop rest'
  pure (⟨condition, result⟩, ⟨more, by omega⟩)

/-- Whether the token ahead is of the given kind. -/
def isAhead (kind : TokenKind) (ts : List Token) : Bool := ts.head?.any fun t => t.kind = kind

/-- Reads the arms that follow the arm `head`, and a last `else`. -/
def arms (stop : Position) (head : Branch) (ts : List Token) :
    Except SyntaxFault (Choice × List Token) :=
  match ts with
  | t :: rest =>
    if t.kind = .elseWord then
      if isAhead .ifWord rest then do
        let (next, ⟨rest', _⟩) ← branch stop rest
        let (c, more) ← arms stop next rest'
        pure (⟨head :: c.branches, c.otherwise⟩, more)
      else do
        let (v, more) ← block stop rest
        pure (⟨[head], some v⟩, more.val)
    else .ok (⟨[head], none⟩, t :: rest)
  | [] => .ok (⟨[head], none⟩, [])
termination_by ts.length

end Reading

/-- The expression that the tokens of a text form. -/
def Expr.ofTokens (s : TokenStream) : Except SyntaxFault Expr := do
  if s.tokens.isEmpty then throw ⟨.empty, s.stop⟩
  let (e, ⟨rest, _⟩) ← Reading.disjunction s.stop s.tokens
  match rest with
  | [] => pure e
  | t :: _ =>
    if t.kind = .rightParen then throw ⟨.strayParen, t.position⟩
    else throw ⟨.unexpected t.value, t.position⟩

/-- The choice that the tokens of a text form. -/
def Choice.ofTokens (s : TokenStream) : Except SyntaxFault Choice := do
  if s.tokens.isEmpty then throw ⟨.empty, s.stop⟩
  let (head, ⟨rest, _⟩) ← Reading.branch s.stop s.tokens
  let (c, more) ← Reading.arms s.stop head rest
  match more with
  | [] => pure c
  | t :: _ => throw ⟨.unexpected t.value, t.position⟩

/-- Reads the text of an expression. -/
def Expr.parse (source : String) : Except SyntaxFault Expr := do
  Expr.ofTokens (← tokenize source)

/-- Reads the text of a choice. -/
def Choice.parse (source : String) : Except SyntaxFault Choice := do
  Choice.ofTokens (← tokenize source)

end CheckDoc
