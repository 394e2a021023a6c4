import CheckDoc.Expr.Parser
import Mathlib.Data.List.Basic

/-!
# The grammar of expressions and choices

`Phrase.Derives` is the grammar over tokens, without a word on how it is read. A row of operands of
`||` or `&&` folds to the left, so that the rest of a row is a phrase that knows the tree on its
left. What a number token stands for does not depend on its size: its bound is `Token.InRange`, and
the grammar derives trees from numbers of any size.

No token sequence derives two trees (`Phrase.Derives.unique`). The argument reads both derivations
from the left: a phrase ends before the first token that cannot go on with it (`Phrase.Stops`), so
two derivations from the same tokens end at the same place.
-/

namespace CheckDoc

/-! ## Literals -/

/-- Whether a number in a text is negative, and the number without its minus. -/
def signed : List Char → Bool × List Char
  | '-' :: s => (true, s)
  | s => (false, s)

/-- The integer that an optional minus and any number of digits stand for. -/
def integerValue (s : List Char) : Int :=
  let n : Int := Nat.ofDigitChars 10 (signed s).2 0
  if (signed s).1 then -n else n

/-- The number nearest to what an optional minus, digits, a point and digits stand for; it is
infinite where they stand for too much. -/
def floatValue (s : List Char) : Binary64 :=
  let whole := (signed s).2.takeWhile Char.isDigit
  let part := ((signed s).2.dropWhile Char.isDigit).drop 1
  Decimal.round ⟨(signed s).1, Nat.ofDigitChars 10 (whole ++ part) 0, -(part.length : Int)⟩

namespace Token

/-- The constant that a literal token stands for, whatever its size. -/
def constant? (t : Token) : Option Scalar :=
  match t.kind with
  | .string => some (.str t.value)
  | .trueWord => some (.bool true)
  | .falseWord => some (.bool false)
  | .integer => some (.int (integerValue t.value.toList))
  | .float => some (.float (floatValue t.value.toList))
  | _ => none

/-- Whether the number of a token is in range: an integer has 4300 digits at most, and any other
number is finite. -/
structure InRange (t : Token) : Prop where
  /-- An integer does not have too many digits. -/
  integer : t.kind = .integer → (signed t.value.toList).2.length ≤ maxIntegerDigits
  /-- A number with a point is not too large. -/
  float : t.kind = .float → (floatValue t.value.toList).isInfinite = false

/-- An integer is read where it is in range. -/
theorem integerOf?_eq (s : List Char) : integerOf? s =
    if (signed s).2.length ≤ maxIntegerDigits then some (integerValue s) else none :=
  rfl

/-- A number with a point is read where it is in range. -/
theorem floatOf?_eq (s : List Char) :
    floatOf? s = if (floatValue s).isInfinite then none else some (floatValue s) :=
  rfl

/-- A literal token is read where its number is in range, and then as what it stands for. -/
theorem scalar?_eq_ok_iff {t : Token} {v : Scalar} :
    t.scalar? = some (.ok v) ↔ t.constant? = some v ∧ t.InRange := by
  have hrange : t.InRange ↔ (t.kind = .integer →
      (signed t.value.toList).2.length ≤ maxIntegerDigits) ∧
      (t.kind = .float → (floatValue t.value.toList).isInfinite = false) :=
    ⟨fun h => ⟨h.integer, h.float⟩, fun h => ⟨h.1, h.2⟩⟩
  rw [hrange, scalar?, constant?]
  cases hkind : t.kind with
  | integer =>
    rw [integerOf?_eq]
    by_cases h : (signed t.value.toList).2.length ≤ maxIntegerDigits
    · simp [h]
    · simp [h]
  | float =>
    rw [floatOf?_eq]
    by_cases h : (floatValue t.value.toList).isInfinite
    · simp [h]
    · simp [h]
  | string => simp
  | trueWord => simp
  | falseWord => simp
  | _ => simp

/-- A token that is no number is in range. -/
theorem inRange_of_kind {t : Token} {k : TokenKind} (ht : t.kind = k) (hinteger : k ≠ .integer)
    (hfloat : k ≠ .float) : t.InRange :=
  ⟨fun h => absurd (ht.symm.trans h) hinteger, fun h => absurd (ht.symm.trans h) hfloat⟩

end Token

/-! ## Phrases -/

/-- The items of a list: literals with commas between them. -/
inductive Items : List Token → List Scalar → Prop
  /-- One literal. -/
  | one {t v} (literal : t.constant? = some v) : Items [t] [v]
  /-- A literal, a comma and more items. -/
  | cons {t v comma ts vs} (literal : t.constant? = some v) (hcomma : comma.kind = .comma)
    (more : Items ts vs) : Items (t :: comma :: ts) (v :: vs)

/-- The first token of some items is a literal. -/
theorem Items.exists_cons {ts : List Token} {vs : List Scalar} (h : Items ts vs) :
    ∃ t us v, ts = t :: us ∧ t.constant? = some v := by
  cases h with
  | one literal => exact ⟨_, _, _, rfl, literal⟩
  | cons literal _ _ => exact ⟨_, _, _, rfl, literal⟩

/-- The items of two lists that start together are the same, where no comma follows them. -/
theorem Items.unique {ts : List Token} {vs : List Scalar} (h : Items ts vs) :
    ∀ {ts' vs' rest rest'}, Items ts' vs' → ts ++ rest = ts' ++ rest' →
      (∀ t ∈ rest.head?, t.kind ≠ .comma) → (∀ t ∈ rest'.head?, t.kind ≠ .comma) →
      ts = ts' ∧ vs = vs' := by
  induction h with
  | one literal =>
    intro ts' vs' rest rest' h' heq hrest hrest'
    cases h' with
    | one literal' =>
      obtain ⟨rfl, -⟩ := List.cons.inj heq
      rw [Option.some.inj (literal.symm.trans literal')]
      exact ⟨rfl, rfl⟩
    | cons _ hcomma _ =>
      obtain ⟨-, htail⟩ := List.cons.inj heq
      exact absurd hcomma (hrest _ (congrArg List.head? htail))
  | cons literal hcomma more ih =>
    intro ts' vs' rest rest' h' heq hrest hrest'
    cases h' with
    | one literal' =>
      obtain ⟨-, htail⟩ := List.cons.inj heq
      exact absurd hcomma (hrest' _ (congrArg List.head? htail.symm))
    | cons literal' hcomma' more' =>
      obtain ⟨rfl, htail⟩ := List.cons.inj heq
      obtain ⟨rfl, hmore⟩ := List.cons.inj htail
      obtain ⟨rfl, rfl⟩ := ih more' hmore hrest hrest'
      rw [Option.some.inj (literal.symm.trans literal')]
      exact ⟨rfl, rfl⟩

/-- The phrases that stand for expressions. -/
inductive Phrase where
  /-- Conjunctions joined by `||`. -/
  | disjunction
  /-- What follows the tree `left` in a disjunction. -/
  | disjuncts (left : Expr)
  /-- Negations joined by `&&`. -/
  | conjunction
  /-- What follows the tree `left` in a conjunction. -/
  | conjuncts (left : Expr)
  /-- A comparison after any number of `!`. -/
  | negation
  /-- An operand, or two operands with a comparison between them. -/
  | comparison
  /-- A literal, a list, a reference, or a disjunction in parentheses. -/
  | operand

namespace Phrase

/-- The grammar: which tokens are a phrase, and the tree that they stand for. -/
inductive Derives : Phrase → List Token → Expr → Prop
  /-- A conjunction and what follows it. -/
  | disjunction {us vs left e} (head : Derives .conjunction us left)
    (tail : Derives (.disjuncts left) vs e) : Derives .disjunction (us ++ vs) e
  /-- Nothing more. -/
  | disjunctsNil {left} : Derives (.disjuncts left) [] left
  /-- One more conjunction. -/
  | disjunctsCons {left t us right vs e} (hor : t.kind = .or)
    (head : Derives .conjunction us right) (tail : Derives (.disjuncts (.or left right)) vs e) :
    Derives (.disjuncts left) (t :: (us ++ vs)) e
  /-- A negation and what follows it. -/
  | conjunction {us vs left e} (head : Derives .negation us left)
    (tail : Derives (.conjuncts left) vs e) : Derives .conjunction (us ++ vs) e
  /-- Nothing more. -/
  | conjunctsNil {left} : Derives (.conjuncts left) [] left
  /-- One more negation. -/
  | conjunctsCons {left t us right vs e} (hand : t.kind = .and)
    (head : Derives .negation us right) (tail : Derives (.conjuncts (.and left right)) vs e) :
    Derives (.conjuncts left) (t :: (us ++ vs)) e
  /-- No `!`. -/
  | negation {ts e} (whole : Derives .comparison ts e) : Derives .negation ts e
  /-- A `!`. -/
  | not {t ts e} (hnot : t.kind = .not) (body : Derives .negation ts e) :
    Derives .negation (t :: ts) (.not e)
  /-- No comparison. -/
  | comparison {ts e} (whole : Derives .operand ts e) : Derives .comparison ts e
  /-- A comparison. -/
  | compare {us left t op vs right} (hleft : Derives .operand us left)
    (hop : t.kind = .comparison op) (hright : Derives .operand vs right) :
    Derives .comparison (us ++ t :: vs) (.compare op left right)
  /-- A literal. -/
  | literal {t v} (hliteral : t.constant? = some v) : Derives .operand [t] (.literal v)
  /-- A list without items. -/
  | emptyList {t u} (hopen : t.kind = .leftBracket) (hclose : u.kind = .rightBracket) :
    Derives .operand [t, u] (.list [])
  /-- A list of items. -/
  | list {t ts vs u} (hopen : t.kind = .leftBracket) (items : Items ts vs)
    (hclose : u.kind = .rightBracket) : Derives .operand (t :: (ts ++ [u])) (.list vs)
  /-- A reference. -/
  | reference {t scope d name} (hhead : t.kind = .identifier)
    (hscope : Scope.ofName? t.value = some scope) (hdot : d.kind = .dot)
    (hname : name.kind = .identifier) :
    Derives .operand [t, d, name] (.reference ⟨scope, name.value⟩)
  /-- A disjunction in parentheses. -/
  | parens {t ts e u} (hopen : t.kind = .leftParen) (body : Derives .disjunction ts e)
    (hclose : u.kind = .rightParen) : Derives .operand (t :: (ts ++ [u])) e

end Phrase

/-- Whether no ordering comparison of an expression has a list as an operand. -/
def Expr.OrdersNoList : Expr → Prop
  | .literal _ => True
  | .list _ => True
  | .reference _ => True
  | .compare op l r =>
    (op.isOrdering = true → Reading.isList l = false ∧ Reading.isList r = false) ∧
      l.OrdersNoList ∧ r.OrdersNoList
  | .and l r => l.OrdersNoList ∧ r.OrdersNoList
  | .or l r => l.OrdersNoList ∧ r.OrdersNoList
  | .not e => e.OrdersNoList

/-! ## Where a phrase ends -/

/-- Whether a kind is that of a comparison. -/
def TokenKind.isComparison : TokenKind → Bool
  | .comparison _ => true
  | _ => false

namespace Phrase

/-- The tree on the left that the rest of a row knows. -/
def left? : Phrase → Option Expr
  | .disjuncts left => some left
  | .conjuncts left => some left
  | _ => none

/-- Whether a phrase could go on with a token of a kind. -/
def goesOn : Phrase → TokenKind → Bool
  | .disjunction, k | .disjuncts _, k => k.isComparison || k = .and || k = .or
  | .conjunction, k | .conjuncts _, k => k.isComparison || k = .and
  | .negation, k | .comparison, k => k.isComparison
  | .operand, _ => false

/-- Whether a phrase must end before some tokens. -/
def Stops (p : Phrase) (rest : List Token) : Prop := ∀ t ∈ rest.head?, p.goesOn t.kind = false

/-- Every phrase must end at the end. -/
theorem stops_nil (p : Phrase) : p.Stops [] := fun t ht => by simp at ht

/-- Whether a phrase must end is decided by the next token. -/
theorem stops_cons {p : Phrase} {t : Token} {rest : List Token} :
    p.Stops (t :: rest) ↔ p.goesOn t.kind = false := by
  simp [Stops]

/-- An operand ends by itself. -/
theorem stops_operand (rest : List Token) : operand.Stops rest := fun _ _ => rfl

variable {p : Phrase} {ts us rest : List Token} {e left : Expr}

/-- A phrase of a tighter kind ends where a looser one must end. -/
theorem Stops.conjunction (h : Phrase.disjunction.Stops rest) :
    Phrase.conjunction.Stops rest := fun t ht => by
  have := h t ht
  simp only [goesOn, Bool.or_eq_false_iff] at this ⊢
  exact this.1

/-- A phrase of a tighter kind ends where a looser one must end. -/
theorem Stops.negation (h : Phrase.conjunction.Stops rest) :
    Phrase.negation.Stops rest := fun t ht => by
  have := h t ht
  simp only [goesOn, Bool.or_eq_false_iff] at this ⊢
  exact this.1

/-- A conjunction ends where more disjuncts stand. -/
theorem Derives.stops_conjunction (h : Derives (.disjuncts left) us e)
    (hrest : Phrase.disjunction.Stops rest) : Phrase.conjunction.Stops (us ++ rest) := by
  cases h with
  | disjunctsNil => exact hrest.conjunction
  | disjunctsCons hor _ _ =>
    rw [List.cons_append, stops_cons, hor]
    rfl

/-- A negation ends where more conjuncts stand. -/
theorem Derives.stops_negation (h : Derives (.conjuncts left) us e)
    (hrest : Phrase.conjunction.Stops rest) : Phrase.negation.Stops (us ++ rest) := by
  cases h with
  | conjunctsNil => exact hrest.negation
  | conjunctsCons hand _ _ =>
    rw [List.cons_append, stops_cons, hand]
    rfl

/-! ## One tree at most -/

/-- An operand starts with a token that is no `!`. -/
theorem Derives.exists_cons_operand (h : Derives .operand ts e) :
    ∃ t us, ts = t :: us ∧ t.kind ≠ .not := by
  cases h with
  | literal hliteral =>
    refine ⟨_, _, rfl, fun hnot => ?_⟩
    simp [Token.constant?, hnot] at hliteral
  | emptyList hopen _ => exact ⟨_, _, rfl, by rw [hopen]; decide⟩
  | list hopen _ _ => exact ⟨_, _, rfl, by rw [hopen]; decide⟩
  | reference hhead _ _ _ => exact ⟨_, _, rfl, by rw [hhead]; decide⟩
  | parens hopen _ _ => exact ⟨_, _, rfl, by rw [hopen]; decide⟩

/-- A comparison starts with a token that is no `!`. -/
theorem Derives.exists_cons_comparison (h : Derives .comparison ts e) :
    ∃ t us, ts = t :: us ∧ t.kind ≠ .not := by
  cases h with
  | comparison whole => exact whole.exists_cons_operand
  | compare hleft _ _ =>
    obtain ⟨t, us, rfl, hnot⟩ := hleft.exists_cons_operand
    exact ⟨t, _, rfl, hnot⟩

/-- An operand that starts with a literal is this literal. -/
theorem Derives.eq_literal {t : Token} {v : Scalar} (h : Derives .operand (t :: ts) e)
    (ht : t.constant? = some v) : ts = [] ∧ e = .literal v := by
  have hkind : ∀ k ∈ [TokenKind.leftBracket, .identifier, .leftParen], t.kind ≠ k := by
    intro k hk heq
    simp only [List.mem_cons, List.not_mem_nil, or_false] at hk
    rcases hk with rfl | rfl | rfl <;> simp [Token.constant?, heq] at ht
  cases h with
  | literal hliteral => exact ⟨rfl, congrArg _ (Option.some.inj (hliteral.symm.trans ht))⟩
  | emptyList hopen _ => exact absurd hopen (hkind _ (by simp))
  | list hopen _ _ => exact absurd hopen (hkind _ (by simp))
  | reference hhead _ _ _ => exact absurd hhead (hkind _ (by simp))
  | parens hopen _ _ => exact absurd hopen (hkind _ (by simp))

/-- An operand that starts with a bracket is a list. -/
theorem Derives.eq_list {t : Token} (h : Derives .operand (t :: ts) e)
    (ht : t.kind = .leftBracket) :
    (∃ u, ts = [u] ∧ u.kind = .rightBracket ∧ e = .list []) ∨
      ∃ us vs u, ts = us ++ [u] ∧ Items us vs ∧ u.kind = .rightBracket ∧ e = .list vs := by
  cases h with
  | literal hliteral => simp [Token.constant?, ht] at hliteral
  | emptyList _ hclose => exact .inl ⟨_, rfl, hclose, rfl⟩
  | list _ items hclose => exact .inr ⟨_, _, _, rfl, items, hclose, rfl⟩
  | reference hhead _ _ _ => cases ht.symm.trans hhead
  | parens hopen _ _ => cases ht.symm.trans hopen

/-- An operand that starts with a name is a reference. -/
theorem Derives.eq_reference {t : Token} (h : Derives .operand (t :: ts) e)
    (ht : t.kind = .identifier) :
    ∃ scope d name, ts = [d, name] ∧ Scope.ofName? t.value = some scope ∧
      e = .reference ⟨scope, name.value⟩ := by
  cases h with
  | literal hliteral => simp [Token.constant?, ht] at hliteral
  | emptyList hopen _ => cases ht.symm.trans hopen
  | list hopen _ _ => cases ht.symm.trans hopen
  | reference _ hscope _ _ => exact ⟨_, _, _, rfl, hscope, rfl⟩
  | parens hopen _ _ => cases ht.symm.trans hopen

/-- An operand that starts with a parenthesis is a disjunction in parentheses. -/
theorem Derives.eq_parens {t : Token} (h : Derives .operand (t :: ts) e)
    (ht : t.kind = .leftParen) :
    ∃ us u, ts = us ++ [u] ∧ Derives .disjunction us e ∧ u.kind = .rightParen := by
  cases h with
  | literal hliteral => simp [Token.constant?, ht] at hliteral
  | emptyList hopen _ => cases ht.symm.trans hopen
  | list hopen _ _ => cases ht.symm.trans hopen
  | reference hhead _ _ _ => cases ht.symm.trans hhead
  | parens _ body hclose => exact ⟨_, _, rfl, body, hclose⟩

/-- Where the rest of a row must end there is no rest. -/
theorem Derives.eq_nil_of_stops (h : Derives p ts e) (hp : p.left? = some left)
    (hstops : p.Stops (ts ++ rest)) : ts = [] ∧ e = left := by
  cases h with
  | disjunctsNil => exact ⟨rfl, Option.some.inj hp⟩
  | disjunctsCons hor _ _ =>
    rw [List.cons_append, stops_cons, hor] at hstops
    cases hstops
  | conjunctsNil => exact ⟨rfl, Option.some.inj hp⟩
  | conjunctsCons hand _ _ =>
    rw [List.cons_append, stops_cons, hand] at hstops
    cases hstops
  | _ => cases hp

/-- The first token of an operand is that of every text that starts with it. -/
theorem Derives.eq_cons_of_append {t : Token} {ts' rest' : List Token} (h : Derives .operand ts' e)
    (heq : t :: ts ++ rest = ts' ++ rest') :
    ∃ us, ts' = t :: us ∧ ts ++ rest = us ++ rest' := by
  obtain ⟨u, us, rfl, -⟩ := h.exists_cons_operand
  obtain ⟨rfl, htail⟩ := List.cons.inj heq
  exact ⟨us, rfl, htail⟩

/-- Whether every phrase of the kind `p` that starts together with the tokens `ts` is `ts` itself,
with the tree `e`, where both must end. -/
def Determines (p : Phrase) (ts : List Token) (e : Expr) : Prop :=
  ∀ ⦃ts' e' rest rest'⦄, Derives p ts' e' → ts ++ rest = ts' ++ rest' → p.Stops rest →
    p.Stops rest' → ts = ts' ∧ e = e'

/-- A phrase in front of others is determined, and so are the tokens after it. -/
theorem Determines.append {us us' vs vs' rest' : List Token} {e' : Expr} (h : Determines p us e)
    (h' : Derives p us' e') (heq : us ++ vs ++ rest = us' ++ vs' ++ rest')
    (hstops : p.Stops (vs ++ rest)) (hstops' : p.Stops (vs' ++ rest')) :
    us = us' ∧ e = e' ∧ vs ++ rest = vs' ++ rest' := by
  rw [List.append_assoc, List.append_assoc] at heq
  obtain ⟨rfl, rfl⟩ := h h' heq hstops hstops'
  exact ⟨rfl, rfl, List.append_cancel_left heq⟩

/-- A list determines its tokens. -/
theorem determines_list {t u : Token} {us : List Token} {vs : List Scalar}
    (hopen : t.kind = .leftBracket) (items : Items us vs) (hclose : u.kind = .rightBracket) :
    Determines .operand (t :: (us ++ [u])) (.list vs) := by
  intro ts' e' rest rest' h' heq _ _
  obtain ⟨ts', rfl, htail⟩ := h'.eq_cons_of_append heq
  rcases h'.eq_list hopen with ⟨u', rfl, hclose', rfl⟩ | ⟨us', vs', u', rfl, items', hclose', rfl⟩
  · -- The first item would be a closing bracket.
    obtain ⟨t, more, v, rfl, hliteral⟩ := items.exists_cons
    obtain ⟨rfl, -⟩ := List.cons.inj htail
    simp [Token.constant?, hclose'] at hliteral
  · rw [List.append_assoc, List.append_assoc] at htail
    obtain ⟨rfl, rfl⟩ := items.unique items' htail (by simp [hclose]) (by simp [hclose'])
    obtain ⟨rfl, -⟩ := List.cons.inj (List.append_cancel_left htail)
    exact ⟨rfl, rfl⟩

/-- A list without items determines its tokens. -/
theorem determines_emptyList {t u : Token} (hopen : t.kind = .leftBracket)
    (hclose : u.kind = .rightBracket) : Determines .operand [t, u] (.list []) := by
  intro ts' e' rest rest' h' heq _ _
  obtain ⟨ts', rfl, htail⟩ := h'.eq_cons_of_append heq
  rcases h'.eq_list hopen with ⟨u', rfl, -, rfl⟩ | ⟨us, vs, u', rfl, items, -, rfl⟩
  · obtain ⟨rfl, -⟩ := List.cons.inj htail
    exact ⟨rfl, rfl⟩
  · -- The first item would be a closing bracket.
    obtain ⟨t, more, v, rfl, hliteral⟩ := items.exists_cons
    obtain ⟨rfl, -⟩ := List.cons.inj htail
    simp [Token.constant?, hclose] at hliteral

/-- A reference determines its tokens. -/
theorem determines_reference {t d name : Token} {scope : Scope} (hhead : t.kind = .identifier)
    (hscope : Scope.ofName? t.value = some scope) :
    Determines .operand [t, d, name] (.reference ⟨scope, name.value⟩) := by
  intro ts' e' rest rest' h' heq _ _
  obtain ⟨ts', rfl, htail⟩ := h'.eq_cons_of_append heq
  obtain ⟨scope', d', name', rfl, hscope', rfl⟩ := h'.eq_reference hhead
  obtain ⟨rfl, hmore⟩ := List.cons.inj htail
  obtain ⟨rfl, -⟩ := List.cons.inj hmore
  rw [Option.some.inj (hscope.symm.trans hscope')]
  exact ⟨rfl, rfl⟩

/-- Parentheses determine their tokens where the disjunction in them does. -/
theorem Determines.parens {t u : Token} (hopen : t.kind = .leftParen)
    (hbody : Determines .disjunction ts e) (hclose : u.kind = .rightParen) :
    Determines .operand (t :: (ts ++ [u])) e := by
  intro ts' e' rest rest' h' heq _ _
  obtain ⟨ts', rfl, htail⟩ := h'.eq_cons_of_append heq
  obtain ⟨us, u', rfl, body', hclose'⟩ := h'.eq_parens hopen
  have hstops : Phrase.disjunction.Stops ([u] ++ rest) := stops_cons.2 (by rw [hclose]; rfl)
  have hstops' : Phrase.disjunction.Stops ([u'] ++ rest') := stops_cons.2 (by rw [hclose']; rfl)
  obtain ⟨rfl, rfl, hmore⟩ := hbody.append body' htail hstops hstops'
  obtain ⟨rfl, -⟩ := List.cons.inj hmore
  exact ⟨rfl, rfl⟩

/-- Two derivations from tokens that start together, each of which must end where it does, end at
the same place and with the same tree. -/
theorem Derives.unique (h : Derives p ts e) : Determines p ts e := by
  -- The induction is on one derivation; the other one has the same shape, or else one of the two
  -- would go on where it must end.
  induction h with
  | disjunction head tail ihHead ihTail =>
    intro ts' e' rest rest' h' heq hrest hrest'
    cases h' with
    | disjunction head' tail' =>
      obtain ⟨rfl, rfl, hmore⟩ := ihHead.append head' heq (tail.stops_conjunction hrest)
        (tail'.stops_conjunction hrest')
      obtain ⟨rfl, rfl⟩ := ihTail tail' hmore hrest hrest'
      exact ⟨rfl, rfl⟩
  | disjunctsNil =>
    intro ts' e' rest rest' h' heq hrest hrest'
    rw [List.nil_append] at heq
    obtain ⟨rfl, rfl⟩ := h'.eq_nil_of_stops rfl (heq ▸ hrest)
    exact ⟨rfl, rfl⟩
  | disjunctsCons hor head tail ihHead ihTail =>
    intro ts' e' rest rest' h' heq hrest hrest'
    cases h' with
    | disjunctsNil =>
      rw [List.nil_append] at heq
      rw [← heq] at hrest'
      obtain ⟨hnil, -⟩ := (Derives.disjunctsCons hor head tail).eq_nil_of_stops rfl hrest'
      cases hnil
    | disjunctsCons _ head' tail' =>
      obtain ⟨rfl, hmore⟩ := List.cons.inj heq
      obtain ⟨rfl, rfl, hmore⟩ := ihHead.append head' hmore (tail.stops_conjunction hrest)
        (tail'.stops_conjunction hrest')
      obtain ⟨rfl, rfl⟩ := ihTail tail' hmore hrest hrest'
      exact ⟨rfl, rfl⟩
  | conjunction head tail ihHead ihTail =>
    intro ts' e' rest rest' h' heq hrest hrest'
    cases h' with
    | conjunction head' tail' =>
      obtain ⟨rfl, rfl, hmore⟩ := ihHead.append head' heq (tail.stops_negation hrest)
        (tail'.stops_negation hrest')
      obtain ⟨rfl, rfl⟩ := ihTail tail' hmore hrest hrest'
      exact ⟨rfl, rfl⟩
  | conjunctsNil =>
    intro ts' e' rest rest' h' heq hrest hrest'
    rw [List.nil_append] at heq
    obtain ⟨rfl, rfl⟩ := h'.eq_nil_of_stops rfl (heq ▸ hrest)
    exact ⟨rfl, rfl⟩
  | conjunctsCons hand head tail ihHead ihTail =>
    intro ts' e' rest rest' h' heq hrest hrest'
    cases h' with
    | conjunctsNil =>
      rw [List.nil_append] at heq
      rw [← heq] at hrest'
      obtain ⟨hnil, -⟩ := (Derives.conjunctsCons hand head tail).eq_nil_of_stops rfl hrest'
      cases hnil
    | conjunctsCons _ head' tail' =>
      obtain ⟨rfl, hmore⟩ := List.cons.inj heq
      obtain ⟨rfl, rfl, hmore⟩ := ihHead.append head' hmore (tail.stops_negation hrest)
        (tail'.stops_negation hrest')
      obtain ⟨rfl, rfl⟩ := ihTail tail' hmore hrest hrest'
      exact ⟨rfl, rfl⟩
  | negation whole ih =>
    intro ts' e' rest rest' h' heq hrest hrest'
    cases h' with
    | negation whole' => exact ih whole' heq hrest hrest'
    | not hnot _ =>
      obtain ⟨t, us, rfl, ht⟩ := whole.exists_cons_comparison
      obtain ⟨rfl, -⟩ := List.cons.inj heq
      exact absurd hnot ht
  | not hnot body ih =>
    intro ts' e' rest rest' h' heq hrest hrest'
    cases h' with
    | negation whole' =>
      obtain ⟨t, us, rfl, ht⟩ := whole'.exists_cons_comparison
      obtain ⟨rfl, -⟩ := List.cons.inj heq
      exact absurd hnot ht
    | not _ body' =>
      obtain ⟨rfl, hmore⟩ := List.cons.inj heq
      obtain ⟨rfl, rfl⟩ := ih body' hmore hrest hrest'
      exact ⟨rfl, rfl⟩
  | comparison whole ih =>
    intro ts' e' rest rest' h' heq hrest hrest'
    cases h' with
    | comparison whole' => exact ih whole' heq (stops_operand _) (stops_operand _)
    | compare hleft' hop' _ =>
      -- After the operand the other derivation goes on with its comparison.
      rw [List.append_assoc, List.cons_append] at heq
      obtain ⟨rfl, -⟩ := ih hleft' heq (stops_operand _) (stops_operand _)
      rw [List.append_cancel_left heq, stops_cons, hop'] at hrest
      cases hrest
  | compare hleft hop hright ihLeft ihRight =>
    intro ts' e' rest rest' h' heq hrest hrest'
    cases h' with
    | comparison whole' =>
      rw [List.append_assoc, List.cons_append] at heq
      obtain ⟨rfl, -⟩ := ihLeft whole' heq (stops_operand _) (stops_operand _)
      rw [← List.append_cancel_left heq, stops_cons, hop] at hrest'
      cases hrest'
    | compare hleft' hop' hright' =>
      obtain ⟨rfl, rfl, hmore⟩ := ihLeft.append hleft' heq (stops_operand _) (stops_operand _)
      obtain ⟨rfl, htail⟩ := List.cons.inj hmore
      obtain ⟨rfl, rfl⟩ := ihRight hright' htail (stops_operand _) (stops_operand _)
      cases hop.symm.trans hop'
      exact ⟨rfl, rfl⟩
  | literal hliteral =>
    intro ts' e' rest rest' h' heq _ _
    obtain ⟨ts', rfl, -⟩ := h'.eq_cons_of_append heq
    obtain ⟨rfl, rfl⟩ := h'.eq_literal hliteral
    exact ⟨rfl, rfl⟩
  | emptyList hopen hclose => exact determines_emptyList hopen hclose
  | list hopen items hclose => exact determines_list hopen items hclose
  | reference hhead hscope _ _ => exact determines_reference hhead hscope
  | parens hopen _ hclose ih => exact ih.parens hopen hclose

/-- Some tokens are at most one disjunction. -/
theorem Derives.eq (h : Derives .disjunction ts e) {e' : Expr} (h' : Derives .disjunction ts e') :
    e = e' :=
  (h.unique h' rfl (stops_nil _) (stops_nil _)).2

end Phrase

/-! ## Choices -/

/-- A block: a literal in braces. -/
inductive Block : List Token → Scalar → Prop
  /-- A brace, a literal and a brace. -/
  | mk {t u w v} (hopen : t.kind = .leftBrace) (literal : u.constant? = some v)
    (hclose : w.kind = .rightBrace) : Block [t, u, w] v

/-- An arm of a choice: `if`, a condition and a block. -/
inductive Arm : List Token → Branch → Prop
  /-- The word, the condition and the block. -/
  | mk {t us vs condition result} (hif : t.kind = .ifWord)
    (hcondition : Phrase.Derives .disjunction us condition) (hblock : Block vs result) :
    Arm (t :: (us ++ vs)) ⟨condition, result⟩

/-- What follows an arm of a choice: more arms after `else`, and a last block after `else`. -/
inductive Arms : List Token → List Branch → Option Scalar → Prop
  /-- Nothing more. -/
  | nil : Arms [] [] none
  /-- A last block. -/
  | otherwise {t ts v} (helse : t.kind = .elseWord) (hblock : Block ts v) :
    Arms (t :: ts) [] (some v)
  /-- One more arm. -/
  | cons {t us vs b bs o} (helse : t.kind = .elseWord) (head : Arm us b) (tail : Arms vs bs o) :
    Arms (t :: (us ++ vs)) (b :: bs) o

/-- The grammar of choices: which tokens are a choice. -/
inductive Choice.Derives : List Token → Choice → Prop
  /-- An arm and what follows it. -/
  | mk {us vs b bs o} (head : Arm us b) (tail : Arms vs bs o) : Derives (us ++ vs) ⟨b :: bs, o⟩

/-- Whether no ordering comparison in a condition has a list as an operand. -/
def Choice.OrdersNoList (c : Choice) : Prop := ∀ b ∈ c.branches, b.condition.OrdersNoList

variable {ts ts' us rest rest' : List Token}

/-- Blocks that start together are the same. -/
theorem Block.unique {v v' : Scalar} (h : Block ts v) (h' : Block ts' v')
    (heq : ts ++ rest = ts' ++ rest') : ts = ts' ∧ v = v' := by
  cases h with
  | mk _ literal _ =>
    cases h' with
    | mk _ literal' _ =>
      obtain ⟨rfl, htail⟩ := List.cons.inj heq
      obtain ⟨rfl, hmore⟩ := List.cons.inj htail
      obtain ⟨rfl, -⟩ := List.cons.inj hmore
      exact ⟨rfl, Option.some.inj (literal.symm.trans literal')⟩

/-- A block starts with a brace. -/
theorem Block.exists_cons {v : Scalar} (h : Block ts v) :
    ∃ t us, ts = t :: us ∧ t.kind = .leftBrace := by
  cases h with
  | mk hopen _ _ => exact ⟨_, _, rfl, hopen⟩

/-- A condition ends before a block. -/
theorem Block.stops {v : Scalar} (h : Block us v) : Phrase.disjunction.Stops (us ++ rest) := by
  obtain ⟨t, us, rfl, hopen⟩ := h.exists_cons
  rw [List.cons_append, Phrase.stops_cons, hopen]
  rfl

/-- Arms that start together are the same. -/
theorem Arm.unique {b b' : Branch} (h : Arm ts b) (h' : Arm ts' b')
    (heq : ts ++ rest = ts' ++ rest') : ts = ts' ∧ b = b' := by
  cases h with
  | mk _ hcondition hblock =>
    cases h' with
    | mk _ hcondition' hblock' =>
      rw [List.cons_append, List.cons_append, List.append_assoc, List.append_assoc] at heq
      obtain ⟨rfl, htail⟩ := List.cons.inj heq
      obtain ⟨rfl, rfl⟩ := hcondition.unique hcondition' htail hblock.stops hblock'.stops
      obtain ⟨rfl, rfl⟩ := hblock.unique hblock' (List.append_cancel_left htail)
      exact ⟨rfl, rfl⟩

/-- An arm starts with `if`, and a block does not. -/
theorem Arm.not_block {b : Branch} {v : Scalar} (h : Arm us b) : ¬ Block (us ++ rest) v := by
  intro hblock
  obtain ⟨t, ts, hts, hopen⟩ := hblock.exists_cons
  cases h with
  | mk hif _ _ =>
    obtain ⟨rfl, -⟩ := List.cons.inj hts
    cases hif.symm.trans hopen

/-- Some tokens are the rest of at most one choice. -/
theorem Arms.unique {bs bs' : List Branch} {o o' : Option Scalar} (h : Arms ts bs o)
    (h' : Arms ts bs' o') : bs = bs' ∧ o = o' := by
  induction h generalizing bs' o' with
  | nil =>
    cases h' with
    | nil => exact ⟨rfl, rfl⟩
  | otherwise _ hblock =>
    generalize hts : _ :: _ = us at h'
    cases h' with
    | nil => cases hts
    | otherwise _ hblock' =>
      obtain ⟨-, rfl⟩ := List.cons.inj hts
      obtain ⟨-, rfl⟩ : _ ∧ _ = _ := hblock.unique hblock' (rfl : _ ++ [] = _ ++ [])
      exact ⟨rfl, rfl⟩
    | cons _ head _ =>
      obtain ⟨-, rfl⟩ := List.cons.inj hts
      exact absurd hblock head.not_block
  | cons _ head tail ih =>
    generalize hts : _ :: _ = us at h'
    cases h' with
    | nil => cases hts
    | otherwise _ hblock =>
      obtain ⟨-, rfl⟩ := List.cons.inj hts
      exact absurd hblock head.not_block
    | cons _ head' tail' =>
      obtain ⟨-, htail⟩ := List.cons.inj hts
      obtain ⟨rfl, rfl⟩ := head.unique head' htail
      obtain ⟨rfl, rfl⟩ := ih (List.append_cancel_left htail ▸ tail')
      exact ⟨rfl, rfl⟩

/-- Some tokens are at most one choice. -/
theorem Choice.Derives.eq {c c' : Choice} (h : Choice.Derives ts c) (h' : Choice.Derives ts c') :
    c = c' := by
  cases h with
  | @mk us vs b bs o head tail =>
    generalize hts : us ++ vs = ws at h'
    cases h' with
    | mk head' tail' =>
      obtain ⟨rfl, rfl⟩ := head.unique head' hts
      obtain ⟨rfl, rfl⟩ := tail.unique (List.append_cancel_left hts ▸ tail')
      rfl

end CheckDoc
