import CheckDoc.Proofs.Expr.Parsing
import CheckDoc.Proofs.Expr.Writing

/-!
# Written trees are read back

The text of a tree is put together from the texts of its parts, and each part stands in a place that
binds with some strength; `Phrase.level` is the phrase that is read in such a place. A tree that
binds more loosely than its place is put in parentheses, and one that binds more tightly is also a
phrase of the looser level (`Phrase.Derives.loosen`). By induction on the tree its text in any place
is cut into tokens that the level of the place accepts (`Expr.cutsTo_renderIn`), and these tokens
are read back as the tree (`Expr.parse_render_of_wellFormed`). An arm of a choice is a condition and
a literal between words and braces, and the text of a choice is one of arms with `else` between them
(`Choice.parse_render_of_wellFormed`).
-/

namespace CheckDoc

open Lexeme (symbolText)

/-! ## Trees that can be written -/

/-- The constants of an expression from left to right, with repetitions. -/
def Expr.constants : Expr → List Scalar
  | .literal v => [v]
  | .list items => items
  | .reference _ => []
  | .compare _ l r => l.constants ++ r.constants
  | .and l r => l.constants ++ r.constants
  | .or l r => l.constants ++ r.constants
  | .not e => e.constants

/-- Whether an expression can be written: every literal is a text, a truth value, a finite number or
an integer with 4300 digits at most, every identifier is a name, and no ordering comparison has a
list as an operand. -/
structure Expr.WellFormed (e : Expr) : Prop where
  /-- The literals can be written. -/
  constants : ∀ v ∈ e.constants, v.IsWritable
  /-- The identifiers are names. -/
  names : ∀ r ∈ e.references, IsName r.identifier
  /-- No ordering comparison has a list as an operand. -/
  ordersNoList : e.OrdersNoList

/-- Whether a choice can be written: it has an arm, and its conditions and literals can be
written. -/
structure Choice.WellFormed (c : Choice) : Prop where
  /-- There is an arm. -/
  branches_ne_nil : c.branches ≠ []
  /-- The conditions can be written. -/
  conditions : ∀ b ∈ c.branches, b.condition.WellFormed
  /-- The literals can be written. -/
  results : ∀ v ∈ c.results, v.IsWritable

/-- The two operands of an expression that can be written can be written. -/
theorem Expr.WellFormed.operands {e l r : Expr} (h : e.WellFormed)
    (hconstants : e.constants = l.constants ++ r.constants)
    (hreferences : e.references = l.references ++ r.references)
    (horders : l.OrdersNoList ∧ r.OrdersNoList) : l.WellFormed ∧ r.WellFormed := by
  obtain ⟨hc, hn, -⟩ := h
  rw [hconstants, List.forall_mem_append] at hc
  rw [hreferences, List.forall_mem_append] at hn
  exact ⟨⟨hc.1, hn.1, horders.1⟩, ⟨hc.2, hn.2, horders.2⟩⟩

/-! ## Levels -/

namespace Phrase

variable {p : Phrase} {ts us : List Token} {e left right : Expr}

/-- The phrase that is read in a place that binds with a strength. -/
def level : Nat → Phrase
  | 0 | 1 => .disjunction
  | 2 => .conjunction
  | 3 => .negation
  | 4 => .comparison
  | _ => .operand

/-- A phrase of a level is a phrase of the next looser level. -/
theorem Derives.loosen {n : Nat} (h : Derives (level (n + 1)) ts e) : Derives (level n) ts e := by
  rcases n with _ | _ | _ | _ | _ | n
  · exact h
  · have hrow := Derives.disjunction h .disjunctsNil
    rwa [List.append_nil] at hrow
  · have hrow := Derives.conjunction h .conjunctsNil
    rwa [List.append_nil] at hrow
  · exact .negation h
  · exact .comparison h
  · exact h

/-- A phrase of a level is a phrase of every looser level. -/
theorem Derives.level_mono {m n : Nat} (hle : m ≤ n) (h : Derives (level n) ts e) :
    Derives (level m) ts e := by
  induction hle with
  | refl => exact h
  | step _ ih => exact ih h.loosen

/-- One more disjunct may follow a row. -/
theorem Derives.append_disjunct (h : Derives p ts e) {t : Token} (hor : t.kind = .or)
    (hright : Derives .conjunction us right) (hp : p = .disjuncts left) :
    Derives (.disjuncts left) (ts ++ t :: us) (.or e right) := by
  -- The row on the left is fixed in the derivation but moves in the induction, hence the
  -- equation for the phrase.
  induction h generalizing left with
  | disjunctsNil =>
    cases hp
    rw [List.nil_append, ← List.append_nil us]
    exact .disjunctsCons hor hright .disjunctsNil
  | @disjunctsCons _ t' us' right' vs e hor' head tail _ ih =>
    cases hp
    rw [List.cons_append, List.append_assoc]
    exact .disjunctsCons hor' head (ih rfl)
  | _ => cases hp

/-- One more conjunct may follow a row. -/
theorem Derives.append_conjunct (h : Derives p ts e) {t : Token} (hand : t.kind = .and)
    (hright : Derives .negation us right) (hp : p = .conjuncts left) :
    Derives (.conjuncts left) (ts ++ t :: us) (.and e right) := by
  induction h generalizing left with
  | conjunctsNil =>
    cases hp
    rw [List.nil_append, ← List.append_nil us]
    exact .conjunctsCons hand hright .conjunctsNil
  | @conjunctsCons _ t' us' right' vs e hand' head tail _ ih =>
    cases hp
    rw [List.cons_append, List.append_assoc]
    exact .conjunctsCons hand' head (ih rfl)
  | _ => cases hp

/-- A disjunction and a conjunction with `||` between them are a disjunction. -/
theorem Derives.or (hleft : Derives .disjunction ts left) {t : Token} (hor : t.kind = .or)
    (hright : Derives .conjunction us right) :
    Derives .disjunction (ts ++ t :: us) (.or left right) := by
  cases hleft with
  | disjunction head tail =>
    rw [List.append_assoc]
    exact .disjunction head (tail.append_disjunct hor hright rfl)

/-- A conjunction and a negation with `&&` between them are a conjunction. -/
theorem Derives.and (hleft : Derives .conjunction ts left) {t : Token} (hand : t.kind = .and)
    (hright : Derives .negation us right) :
    Derives .conjunction (ts ++ t :: us) (.and left right) := by
  cases hleft with
  | conjunction head tail =>
    rw [List.append_assoc]
    exact .conjunction head (tail.append_conjunct hand hright rfl)

/-- What is accepted in a place is accepted in every place that binds more loosely. -/
theorem Accepts.level_mono {m n : Nat} (hle : m ≤ n) (h : (level n).Accepts ts e) :
    (level m).Accepts ts e :=
  ⟨h.derives.level_mono hle, h.ordersNoList, h.inRange⟩

/-- What is accepted as an operand is accepted in every place. -/
theorem Accepts.of_operand (h : operand.Accepts ts e) (n : Nat) : (level n).Accepts ts e :=
  Accepts.level_mono (Nat.le_add_right n 5) h

/-- Two rows of tokens in range with a token of another kind between them are in range. -/
theorem forall_inRange_between {t : Token} {k : TokenKind} (ht : t.kind = k)
    (hinteger : k ≠ .integer) (hfloat : k ≠ .float) (hts : ∀ x ∈ ts, x.InRange)
    (hus : ∀ x ∈ us, x.InRange) : ∀ x ∈ ts ++ t :: us, x.InRange := by
  rw [List.forall_mem_append, List.forall_mem_cons]
  exact ⟨hts, Token.inRange_of_kind ht hinteger hfloat, hus⟩

/-- A disjunction and a conjunction with `||` between them are accepted as a disjunction. -/
theorem Accepts.or {t : Token} (hl : Accepts .disjunction ts left) (ht : t.kind = .or)
    (hr : Accepts .conjunction us right) :
    Accepts .disjunction (ts ++ t :: us) (.or left right) :=
  ⟨hl.derives.or ht hr.derives, ⟨hl.ordersNoList, hr.ordersNoList⟩,
    forall_inRange_between ht (by decide) (by decide) hl.inRange hr.inRange⟩

/-- A conjunction and a negation with `&&` between them are accepted as a conjunction. -/
theorem Accepts.and {t : Token} (hl : Accepts .conjunction ts left) (ht : t.kind = .and)
    (hr : Accepts .negation us right) :
    Accepts .conjunction (ts ++ t :: us) (.and left right) :=
  ⟨hl.derives.and ht hr.derives, ⟨hl.ordersNoList, hr.ordersNoList⟩,
    forall_inRange_between ht (by decide) (by decide) hl.inRange hr.inRange⟩

/-- Two operands with a comparison between them that may stand there are accepted. -/
theorem Accepts.compare {t : Token} {op : Comparator} (hl : Accepts .operand ts left)
    (ht : t.kind = .comparison op) (hr : Accepts .operand us right)
    (horders : (Expr.compare op left right).OrdersNoList) :
    Accepts .comparison (ts ++ t :: us) (.compare op left right) :=
  ⟨.compare hl.derives ht hr.derives, horders,
    forall_inRange_between ht (by simp) (by simp) hl.inRange hr.inRange⟩

/-- A negation after `!` is accepted. -/
theorem Accepts.not {t : Token} (ht : t.kind = .not) (h : Accepts .negation ts e) :
    Accepts .negation (t :: ts) (.not e) :=
  ⟨.not ht h.derives, h.ordersNoList,
    List.forall_mem_cons.2 ⟨Token.inRange_of_kind ht (by decide) (by decide), h.inRange⟩⟩

/-- A disjunction in parentheses is accepted as an operand. -/
theorem Accepts.parens {t u : Token} (ht : t.kind = .leftParen) (h : Accepts .disjunction ts e)
    (hu : u.kind = .rightParen) : Accepts .operand (t :: (ts ++ [u])) e := by
  refine ⟨.parens ht h.derives hu, h.ordersNoList, List.forall_mem_cons.2 ⟨?_, ?_⟩⟩
  · exact Token.inRange_of_kind ht (by decide) (by decide)
  · exact forall_inRange_between hu (by decide) (by decide) h.inRange (List.forall_mem_nil _)

/-- A literal in range is accepted as an operand. -/
theorem Accepts.literal {t : Token} {v : Scalar} (hliteral : t.constant? = some v)
    (hrange : t.InRange) : Accepts .operand [t] (.literal v) :=
  ⟨.literal hliteral, trivial, List.forall_mem_singleton.2 hrange⟩

/-- A reference is accepted as an operand. -/
theorem Accepts.reference {t d name : Token} {r : Reference} (ht : t.kind = .identifier)
    (hscope : t.value = r.scope.name) (hd : d.kind = .dot) (hname : name.kind = .identifier)
    (hvalue : name.value = r.identifier) : Accepts .operand [t, d, name] (.reference r) := by
  have hofName : Scope.ofName? t.value = some r.scope := by
    rw [hscope]
    cases r.scope <;> decide
  have hreference := Derives.reference ht hofName hd hname
  rw [hvalue] at hreference
  refine ⟨hreference, trivial, ?_⟩
  simp [Token.inRange_of_kind ht, Token.inRange_of_kind hd, Token.inRange_of_kind hname]

end Phrase

/-! ## Texts of expressions -/

/-- A text after another one as characters. -/
theorem toList_intercalate_cons_cons (sep s t : String) (l : List String) :
    (sep.intercalate (s :: t :: l)).toList =
      s.toList ++ (sep.toList ++ (sep.intercalate (t :: l)).toList) := by
  rw [String.intercalate_cons_cons, String.toList_append, String.toList_append, List.append_assoc]

/-- The text of the items of a list is cut into these items. -/
theorem cutsTo_items {items : List Scalar} (hne : items ≠ [])
    (h : ∀ v ∈ items, v.IsWritable) :
    CutsTo (", ".intercalate (items.map Scalar.render)).toList fun ts =>
      Items ts items ∧ ∀ t ∈ ts, t.InRange := by
  induction items with
  | nil => exact absurd rfl hne
  | cons v items ih =>
    rw [List.forall_mem_cons] at h
    have hfirst := Scalar.cutsTo_render h.1
    cases items with
    | nil =>
      rw [List.map_singleton, String.intercalate_singleton]
      refine hfirst.mono fun ts hts => ?_
      obtain ⟨t, rfl, hliteral, hrange⟩ := hts
      exact ⟨.one hliteral, List.forall_mem_singleton.2 hrange⟩
    | cons w items =>
      have hrest := ih (List.cons_ne_nil _ _) h.2
      have hcomma : CutsTo (symbolText .comma) fun ts => ∃ t, ts = [t] ∧ t.kind = .comma :=
        .of_text? rfl (by decide)
      have hends : Lexeme.Ends (symbolText .comma) := by decide
      have htail := hcomma.append_blank hrest
      rw [List.map_cons, List.map_cons, toList_intercalate_cons_cons]
      refine (hfirst.append htail (hends.append (Lexeme.ends_blank _))).mono fun ts hts => ?_
      obtain ⟨_, _, rfl, ⟨t, rfl, hliteral, hrange⟩, _, us, rfl, ⟨c, rfl, hc⟩, hitems, hall⟩ := hts
      refine ⟨.cons hliteral hc hitems, ?_⟩
      rw [List.singleton_append, List.singleton_append, List.forall_mem_cons, List.forall_mem_cons]
      exact ⟨hrange, Token.inRange_of_kind hc (by decide) (by decide), hall⟩

namespace Expr

/-- The text of an expression is its text without parentheses, or this text in parentheses. -/
theorem renderIn_eq (parent : Nat) (e : Expr) :
    e.renderIn parent = if e.precedence < parent then "(" ++ e.renderIn e.precedence ++ ")"
      else e.renderIn e.precedence := by
  rw [renderIn.eq_def parent, renderIn.eq_def e.precedence]
  dsimp only
  rw [if_neg (Nat.lt_irrefl _)]

/-- The text of a comparison without parentheses. -/
theorem toList_renderIn_compare (op : Comparator) (l r : Expr) :
    ((compare op l r).renderIn 4).toList = (l.renderIn 5).toList ++
      ' ' :: (symbolText (.comparison op) ++ ' ' :: (r.renderIn 5).toList) := by
  rw [renderIn, precedence, if_neg (Nat.lt_irrefl 4)]
  simp only [String.toList_append, List.append_assoc]
  rfl

/-- The text of a conjunction without parentheses. -/
theorem toList_renderIn_and (l r : Expr) :
    ((and l r).renderIn 2).toList = (l.renderIn 2).toList ++
      ' ' :: (symbolText .and ++ ' ' :: (r.renderIn 3).toList) := by
  rw [renderIn, precedence, if_neg (Nat.lt_irrefl 2)]
  simp only [String.toList_append, List.append_assoc]
  rfl

/-- The text of a disjunction without parentheses. -/
theorem toList_renderIn_or (l r : Expr) :
    ((or l r).renderIn 1).toList = (l.renderIn 1).toList ++
      ' ' :: (symbolText .or ++ ' ' :: (r.renderIn 2).toList) := by
  rw [renderIn, precedence, if_neg (Nat.lt_irrefl 1)]
  simp only [String.toList_append, List.append_assoc]
  rfl

/-- The text of a negation without parentheses. -/
theorem toList_renderIn_not (e : Expr) :
    ((not e).renderIn 3).toList = symbolText .not ++ (e.renderIn 3).toList := by
  rw [renderIn, precedence, if_neg (Nat.lt_irrefl 3), String.toList_append]
  rfl

open Phrase (level)

/-- Where the text of an expression without parentheses is a phrase of its level, its text in any
place is a phrase of the level of this place. -/
theorem cutsTo_renderIn_of_precedence {e : Expr}
    (h : CutsTo (e.renderIn e.precedence).toList fun ts => (level e.precedence).Accepts ts e)
    (parent : Nat) : CutsTo (e.renderIn parent).toList fun ts => (level parent).Accepts ts e := by
  rw [renderIn_eq]
  by_cases hlt : e.precedence < parent
  · rw [if_pos hlt, String.toList_append, String.toList_append, List.append_assoc]
    have hparens := h.enclosed (k := .leftParen) (by decide) (by decide)
      (rfl : TokenKind.rightParen.text?.isSome = true) (by decide)
    refine hparens.mono fun ts hts => ?_
    obtain ⟨t, us, u, rfl, ht, hus, hu⟩ := hts
    -- Parentheses ask for the loosest phrase, and what is inside binds at least as tightly.
    have hbody : Phrase.Accepts .disjunction us e := hus.level_mono (Nat.zero_le _)
    exact (Phrase.Accepts.parens ht hbody hu).of_operand parent
  · rw [if_neg hlt]
    exact h.mono fun ts hts => hts.level_mono (by omega)

/-- The text of a list is an operand. -/
theorem cutsTo_list {items : List Scalar} (h : ∀ v ∈ items, v.IsWritable) :
    CutsTo ("[" ++ ", ".intercalate (items.map Scalar.render) ++ "]").toList fun ts =>
      Phrase.operand.Accepts ts (.list items) := by
  have hends : Lexeme.Ends (symbolText .rightBracket) := by decide
  have hopens : Opens (symbolText .leftBracket) := by decide
  rw [String.toList_append, String.toList_append, List.append_assoc]
  by_cases hne : items = []
  · obtain rfl := hne
    refine (CutsTo.nil.enclosed (by decide) hopens rfl hends).mono fun ts hts => ?_
    obtain ⟨t, _, u, rfl, ht, rfl, hu⟩ := hts
    refine ⟨.emptyList ht hu, trivial, ?_⟩
    simp [Token.inRange_of_kind ht, Token.inRange_of_kind hu]
  · refine ((cutsTo_items hne h).enclosed (by decide) hopens rfl hends).mono fun ts hts => ?_
    obtain ⟨t, us, u, rfl, ht, ⟨hitems, hall⟩, hu⟩ := hts
    refine ⟨.list ht hitems hu, trivial, List.forall_mem_cons.2 ⟨?_, ?_⟩⟩
    · exact Token.inRange_of_kind ht (by decide) (by decide)
    · exact Phrase.forall_inRange_between hu (by decide) (by decide) hall (List.forall_mem_nil _)

/-- The text of an expression that can be written is, in every place, a phrase of the level of this
place. -/
theorem cutsTo_renderIn {e : Expr} (he : e.WellFormed) :
    ∀ parent, CutsTo (e.renderIn parent).toList fun ts => (level parent).Accepts ts e := by
  induction e with
  | literal v =>
    refine cutsTo_renderIn_of_precedence ?_
    refine (Scalar.cutsTo_render (he.constants v (by simp [constants]))).mono fun ts hts => ?_
    obtain ⟨t, rfl, hliteral, hrange⟩ := hts
    exact .literal hliteral hrange
  | list items => exact cutsTo_renderIn_of_precedence (cutsTo_list he.constants)
  | reference r =>
    refine cutsTo_renderIn_of_precedence ?_
    refine (Reference.cutsTo_dotted (he.names r (by simp [references]))).mono fun ts hts => ?_
    obtain ⟨t, d, name, rfl, ht, hscope, hd, hname, hvalue⟩ := hts
    exact .reference ht hscope hd hname hvalue
  | compare op l r ihl ihr =>
    obtain ⟨hl, hr⟩ := he.operands rfl rfl he.ordersNoList.2
    refine cutsTo_renderIn_of_precedence ?_
    rw [precedence, toList_renderIn_compare]
    -- Neither operand may be a comparison: comparisons do not chain.
    refine ((ihl hl 5).between rfl (ihr hr 5)).mono fun ts hts => ?_
    obtain ⟨us, t, vs, rfl, hus, ht, hvs⟩ := hts
    exact hus.compare ht hvs he.ordersNoList
  | and l r ihl ihr =>
    obtain ⟨hl, hr⟩ := he.operands rfl rfl he.ordersNoList
    refine cutsTo_renderIn_of_precedence ?_
    rw [precedence, toList_renderIn_and]
    -- The left operand stands at the level of the row and the right one a level above; so
    -- a row that is read folds to the left as it was written.
    refine ((ihl hl 2).between rfl (ihr hr 3)).mono fun ts hts => ?_
    obtain ⟨us, t, vs, rfl, hus, ht, hvs⟩ := hts
    exact hus.and ht hvs
  | or l r ihl ihr =>
    obtain ⟨hl, hr⟩ := he.operands rfl rfl he.ordersNoList
    refine cutsTo_renderIn_of_precedence ?_
    rw [precedence, toList_renderIn_or]
    refine ((ihl hl 1).between rfl (ihr hr 2)).mono fun ts hts => ?_
    obtain ⟨us, t, vs, rfl, hus, ht, hvs⟩ := hts
    exact hus.or ht hvs
  | not e ih =>
    have hbody : e.WellFormed := ⟨he.constants, he.names, he.ordersNoList⟩
    have hopens : Opens (symbolText .not) := by decide
    refine cutsTo_renderIn_of_precedence ?_
    rw [precedence, toList_renderIn_not]
    refine ((ih hbody 3).symbol_append (by decide) hopens).mono fun ts hts => ?_
    obtain ⟨t, us, rfl, ht, hus⟩ := hts
    exact .not ht hus

/-- The text of an expression that can be written is read back as the expression. -/
theorem parse_render_of_wellFormed {e : Expr} (he : e.WellFormed) :
    Expr.parse e.render = .ok e := by
  obtain ⟨stream, htokens, haccepts⟩ := (cutsTo_renderIn he 0).exists_tokenize_eq
  exact ((parse_eq_ok_iff htokens).1 e).2 haccepts

end Expr

/-! ## Texts of choices -/

/-- The text of a block is cut into a block. -/
theorem Scalar.cutsTo_block {v : Scalar} (hv : v.IsWritable) :
    CutsTo v.block.toList fun ts => Block ts v ∧ ∀ t ∈ ts, t.InRange := by
  have htext : v.block.toList = symbolText .leftBrace ++
      ' ' :: (v.render.toList ++ ' ' :: symbolText .rightBrace) := by
    unfold block
    simp only [String.toList_append, List.append_assoc]
    rfl
  have hopen : CutsTo (symbolText .leftBrace) fun ts => ∃ t, ts = [t] ∧ t.kind = .leftBrace :=
    .of_text? rfl (by decide)
  have hclose : CutsTo (symbolText .rightBrace) fun ts => ∃ t, ts = [t] ∧ t.kind = .rightBrace :=
    .of_text? rfl (by decide)
  rw [htext]
  refine (hopen.append_blank ((cutsTo_render hv).append_blank hclose)).mono fun ts hts => ?_
  obtain ⟨_, _, rfl, ⟨t, rfl, ht⟩, _, _, rfl, ⟨u, rfl, hliteral, hrange⟩, w, rfl, hw⟩ := hts
  refine ⟨.mk ht hliteral hw, ?_⟩
  simp [hrange, Token.inRange_of_kind ht, Token.inRange_of_kind hw]

/-- The text of an arm. -/
def Branch.render (b : Branch) : String := "if " ++ b.condition.render ++ " " ++ b.result.block

/-- The text of an arm is cut into an arm. -/
theorem Branch.cutsTo_render {b : Branch} (hcondition : b.condition.WellFormed)
    (hresult : b.result.IsWritable) :
    CutsTo b.render.toList fun ts =>
      Arm ts b ∧ b.condition.OrdersNoList ∧ ∀ t ∈ ts, t.InRange := by
  have htext : b.render.toList = symbolText .ifWord ++
      ' ' :: (b.condition.render.toList ++ ' ' :: b.result.block.toList) := by
    unfold render
    simp only [String.toList_append, List.append_assoc]
    rfl
  have hif : CutsTo (symbolText .ifWord) fun ts => ∃ t, ts = [t] ∧ t.kind = .ifWord :=
    .of_text? rfl (by decide)
  have hexpr : CutsTo b.condition.render.toList fun ts =>
      Phrase.disjunction.Accepts ts b.condition := Expr.cutsTo_renderIn hcondition 0
  rw [htext]
  refine (hif.append_blank (hexpr.append_blank (Scalar.cutsTo_block hresult))).mono
    fun ts hts => ?_
  obtain ⟨_, _, rfl, ⟨t, rfl, ht⟩, us, vs, rfl, hus, hvs, hall⟩ := hts
  have harm : Arm (t :: (us ++ vs)) ⟨b.condition, b.result⟩ := .mk ht hus.derives hvs
  refine ⟨harm, hus.ordersNoList, ?_⟩
  rw [List.singleton_append, List.forall_mem_cons, List.forall_mem_append]
  exact ⟨Token.inRange_of_kind ht (by decide) (by decide), hus.inRange, hall⟩

namespace Choice

/-- An arm and a last block with `else` between them are accepted as a choice. -/
theorem Accepts.otherwise {us vs : List Token} {t : Token} {b : Branch} {v : Scalar}
    (harm : Arm us b) (hlists : b.condition.OrdersNoList) (hus : ∀ x ∈ us, x.InRange)
    (ht : t.kind = .elseWord) (hblock : Block vs v) (hvs : ∀ x ∈ vs, x.InRange) :
    Accepts (us ++ t :: vs) ⟨[b], some v⟩ :=
  ⟨.mk harm (.otherwise ht hblock), List.forall_mem_singleton.2 hlists,
    Phrase.forall_inRange_between ht (by decide) (by decide) hus hvs⟩

/-- An arm and a choice with `else` between them are accepted as a choice. -/
theorem Accepts.cons {us vs : List Token} {t : Token} {b b' : Branch} {bs : List Branch}
    {o : Option Scalar} (harm : Arm us b) (hlists : b.condition.OrdersNoList)
    (hus : ∀ x ∈ us, x.InRange) (ht : t.kind = .elseWord) (h : Accepts vs ⟨b' :: bs, o⟩) :
    Accepts (us ++ t :: vs) ⟨b :: b' :: bs, o⟩ := by
  refine ⟨?_, List.forall_mem_cons.2 ⟨hlists, h.ordersNoList⟩,
    Phrase.forall_inRange_between ht (by decide) (by decide) hus h.inRange⟩
  cases h.derives with
  | mk head tail => exact .mk harm (.cons ht head tail)

/-- The text of a choice that can be written is cut into the choice. -/
theorem cutsTo_render {b : Branch} {bs : List Branch} {o : Option Scalar}
    (hconditions : ∀ x ∈ b :: bs, x.condition.WellFormed)
    (hresults : ∀ x ∈ b :: bs, x.result.IsWritable) (ho : ∀ v ∈ o, v.IsWritable) :
    CutsTo (" else ".intercalate ((b :: bs).map Branch.render ++ o.toList.map Scalar.block)).toList
      fun ts => Accepts ts ⟨b :: bs, o⟩ := by
  -- The first arm is kept apart, since the texts are joined from the front.
  induction bs generalizing b with
  | nil =>
    rw [List.forall_mem_singleton] at hconditions hresults
    have harm := Branch.cutsTo_render hconditions hresults
    cases o with
    | none =>
      show CutsTo (" else ".intercalate [b.render]).toList _
      rw [String.intercalate_singleton]
      refine harm.mono fun ts hts => ?_
      obtain ⟨harm, hlists, hall⟩ := hts
      have hchoice : Choice.Derives (ts ++ []) ⟨[b], none⟩ := .mk harm .nil
      rw [List.append_nil] at hchoice
      exact ⟨hchoice, List.forall_mem_singleton.2 hlists, hall⟩
    | some v =>
      have hblock := Scalar.cutsTo_block (ho v rfl)
      show CutsTo (" else ".intercalate [b.render, v.block]).toList _
      rw [toList_intercalate_cons_cons, String.intercalate_singleton]
      refine (harm.between (k := .elseWord) rfl hblock).mono fun ts hts => ?_
      obtain ⟨us, t, vs, rfl, ⟨harm, hlists, hus⟩, ht, hblock, hvs⟩ := hts
      exact .otherwise harm hlists hus ht hblock hvs
  | cons b' bs ih =>
    rw [List.forall_mem_cons] at hconditions hresults
    have harm := Branch.cutsTo_render hconditions.1 hresults.1
    have hrest := ih hconditions.2 hresults.2
    rw [List.map_cons, List.cons_append] at hrest ⊢
    rw [List.map_cons, List.cons_append, toList_intercalate_cons_cons]
    refine (harm.between (k := .elseWord) rfl hrest).mono fun ts hts => ?_
    obtain ⟨us, t, vs, rfl, ⟨harm, hlists, hus⟩, ht, haccepts⟩ := hts
    exact .cons harm hlists hus ht haccepts

/-- The text of a choice that can be written is read back as the choice. -/
theorem parse_render_of_wellFormed {c : Choice} (hc : c.WellFormed) :
    Choice.parse c.render = .ok c := by
  obtain ⟨branches, o⟩ := c
  obtain ⟨hne, hconditions, hresults⟩ := hc
  obtain ⟨b, bs, rfl⟩ := List.exists_cons_of_ne_nil hne
  unfold results at hresults
  rw [List.forall_mem_append, List.forall_mem_map] at hresults
  obtain ⟨hresults, ho⟩ := hresults
  obtain ⟨stream, htokens, haccepts⟩ :=
    (cutsTo_render hconditions hresults (by simpa using ho)).exists_tokenize_eq
  exact ((parse_eq_ok_iff htokens).2 _).2 haccepts

end Choice

end CheckDoc
