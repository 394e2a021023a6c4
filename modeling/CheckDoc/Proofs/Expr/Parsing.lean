import CheckDoc.Proofs.Expr.Grammar
import CheckDoc.Proofs.Expr.Lexing
import CheckDoc.Proofs.Expr.Readers

/-!
# The parser reads the grammar

A reader gives a tree and leaves some tokens exactly when the tokens in front of these derive the
tree, and the phrase must end there. Soundness goes by the number of tokens: a reader of operands
calls the reader of disjunctions on fewer tokens, and all others end up there (`sound_disjunction`).
Completeness goes by the derivation (`Phrase.Derives.isRead`). With the uniqueness of derivations
this says what `Expr.parse` and `Choice.parse` give (`parse_eq_ok_iff_derives`).
-/

namespace CheckDoc

/-- Whether some tokens derive an expression that orders no lists, with all numbers in range. -/
structure Phrase.Accepts (p : Phrase) (ts : List Token) (e : Expr) : Prop where
  /-- The tokens derive the expression. -/
  derives : p.Derives ts e
  /-- No ordering comparison has a list as an operand. -/
  ordersNoList : e.OrdersNoList
  /-- The numbers are in range. -/
  inRange : ∀ t ∈ ts, t.InRange

/-- Whether some tokens derive a choice that orders no lists, with all numbers in range. -/
structure Choice.Accepts (ts : List Token) (c : Choice) : Prop where
  /-- The tokens derive the choice. -/
  derives : Choice.Derives ts c
  /-- No ordering comparison has a list as an operand. -/
  ordersNoList : c.OrdersNoList
  /-- The numbers are in range. -/
  inRange : ∀ t ∈ ts, t.InRange

/-- What it means to be accepted, written out. -/
theorem Phrase.accepts_iff {p : Phrase} {ts : List Token} {e : Expr} :
    p.Accepts ts e ↔ p.Derives ts e ∧ e.OrdersNoList ∧ ∀ t ∈ ts, t.InRange :=
  ⟨fun h => ⟨h.derives, h.ordersNoList, h.inRange⟩, fun h => ⟨h.1, h.2.1, h.2.2⟩⟩

/-- What it means for a choice to be accepted, written out. -/
theorem Choice.accepts_iff {ts : List Token} {c : Choice} :
    Choice.Accepts ts c ↔ Choice.Derives ts c ∧ c.OrdersNoList ∧ ∀ t ∈ ts, t.InRange :=
  ⟨fun h => ⟨h.derives, h.ordersNoList, h.inRange⟩, fun h => ⟨h.1, h.2.1, h.2.2⟩⟩

namespace Reading

open Phrase (Derives Accepts)

variable {stop origin : Position} {ts us rest : List Token} {e left : Expr}

/-! ## Soundness -/

/-- What a reader leaves after a token is shorter than what it began with. -/
theorem length_lt_of_cons_append {t : Token} {vs : List Token} {n : Nat}
    (hn : (t :: (us ++ vs)).length = n) : vs.length < n := by
  rw [← hn]
  simp only [List.length_cons, List.length_append]
  omega

/-- Items that are read are items in range with a closing bracket after them. -/
theorem sound_items {vs : List Scalar} (h : Gives (items stop origin ts) vs rest) :
    ∃ us u, ts = us ++ u :: rest ∧ Items us vs ∧ u.kind = .rightBracket ∧
      ∀ t ∈ us, t.InRange := by
  induction hn : ts.length using Nat.strongRecOn generalizing ts vs with
  | _ n ih =>
  obtain ⟨v, u, us, hv, hmore⟩ := gives_items_iff.1 h
  obtain ⟨t, rfl, ht⟩ := gives_scalar_iff.1 hv
  obtain ⟨hliteral, hrange⟩ := Token.scalar?_eq_ok_iff.1 ht
  -- Either the list ends here, or a comma is passed and fewer tokens are left.
  rcases hmore with ⟨hclose, rfl, rfl⟩ | ⟨hcomma, ws, rfl, hws⟩
  · exact ⟨[t], u, rfl, .one hliteral, hclose, by simpa using hrange⟩
  · obtain ⟨us', u', rfl, items, hclose, hall⟩ :=
      ih _ (by rw [← hn]; simp only [List.length_cons]; omega) hws rfl
    refine ⟨t :: u :: us', u', rfl, .cons hliteral hcomma items, hclose, ?_⟩
    simp only [List.forall_mem_cons]
    exact ⟨hrange, Token.inRange_of_kind hcomma (by decide) (by decide), hall⟩

/-- Whether every disjunction that is read from fewer than `n` tokens is accepted. -/
def SoundBelow (stop : Position) (n : Nat) : Prop :=
  ∀ ts, ts.length < n → ∀ e rest, Gives (disjunction stop ts) e rest →
    ∃ us, ts = us ++ rest ∧ Accepts .disjunction us e

/-- What is sound below a bound is sound below a smaller one. -/
theorem SoundBelow.mono {m n : Nat} (h : SoundBelow stop n) (hle : m ≤ n) : SoundBelow stop m :=
  fun ts hts => h ts (by omega)

/-- Operands that are read are accepted. -/
theorem sound_operand (hsound : SoundBelow stop ts.length) (h : Gives (operand stop ts) e rest) :
    ∃ us, ts = us ++ rest ∧ Accepts .operand us e := by
  cases ts with
  | nil => exact absurd h not_gives_operand_nil
  | cons t ts =>
    rcases gives_operand_iff.1 h with ⟨v, hv, rfl, rfl⟩ | ⟨hopen, hlist⟩ | ⟨hhead, href⟩ |
      ⟨hopen, u, hbody, hclose⟩
    · obtain ⟨hliteral, hrange⟩ := Token.scalar?_eq_ok_iff.1 hv
      exact ⟨[t], rfl, .literal hliteral, trivial, by simpa using hrange⟩
    · have ht : t.InRange := Token.inRange_of_kind hopen (by decide) (by decide)
      rcases gives_list_iff.1 hlist with ⟨u, rfl, hclose, rfl⟩ | ⟨vs, rfl, hvs⟩
      · have hu : u.InRange := Token.inRange_of_kind hclose (by decide) (by decide)
        exact ⟨[t, u], rfl, .emptyList hopen hclose, trivial, by simp [ht, hu]⟩
      · obtain ⟨us, u, rfl, items, hclose, hall⟩ := sound_items hvs
        have hu : u.InRange := Token.inRange_of_kind hclose (by decide) (by decide)
        refine ⟨t :: (us ++ [u]), by simp, .list hopen items hclose, trivial, ?_⟩
        simpa [ht, hu, or_imp, forall_and] using hall
    · obtain ⟨scope, d, name, hscope, rfl, hdot, hname, rfl⟩ := gives_reference_iff.1 href
      refine ⟨[t, d, name], rfl, .reference hhead hscope hdot hname, trivial, ?_⟩
      simp [Token.inRange_of_kind hhead, Token.inRange_of_kind hdot, Token.inRange_of_kind hname]
    · -- The loosest reader is called again inside parentheses, on fewer tokens; this is why
      -- soundness is assumed below a bound.
      obtain ⟨us, rfl, hderives, hlists, hall⟩ := hsound ts (by simp) e _ hbody
      have ht : t.InRange := Token.inRange_of_kind hopen (by decide) (by decide)
      have hu : u.InRange := Token.inRange_of_kind hclose (by decide) (by decide)
      refine ⟨t :: (us ++ [u]), by simp, .parens hopen hderives hclose, hlists, ?_⟩
      simpa [ht, hu, or_imp, forall_and] using hall

/-- Comparisons that are read are accepted. -/
theorem sound_comparison (hsound : SoundBelow stop ts.length)
    (h : Gives (comparison stop ts) e rest) :
    ∃ us, ts = us ++ rest ∧ Accepts .comparison us e := by
  obtain ⟨left, us, hleft, hmore⟩ := gives_comparison_iff.1 h
  obtain ⟨ls, rfl, hderives, hlists, hall⟩ := sound_operand hsound hleft
  rcases hmore with ⟨-, rfl, rfl⟩ | ⟨t, vs, op, right, rfl, hop, hright, horder, -, rfl⟩
  · exact ⟨ls, rfl, .comparison hderives, hlists, hall⟩
  · -- The right operand is read from what the left one leaves. No comparison follows, which
    -- only completeness needs.
    have hshorter : vs.length ≤ (ls ++ t :: vs).length := by
      simp only [List.length_append, List.length_cons]
      omega
    obtain ⟨rs, rfl, hderives', hlists', hall'⟩ := sound_operand (hsound.mono hshorter) hright
    refine ⟨ls ++ t :: rs, by simp, .compare hderives hop hderives', ⟨horder, hlists, hlists'⟩, ?_⟩
    rw [List.forall_mem_append, List.forall_mem_cons]
    exact ⟨hall, Token.inRange_of_kind hop (by simp) (by simp), hall'⟩

/-- Negations that are read are accepted. -/
theorem sound_negation (hsound : SoundBelow stop ts.length) (h : Gives (negation stop ts) e rest) :
    ∃ us, ts = us ++ rest ∧ Accepts .negation us e := by
  induction ts generalizing e with
  | nil =>
    rcases gives_negation_iff.1 h with ⟨t, us, body, heq, -⟩ | ⟨-, hcomparison⟩
    · cases heq
    · obtain ⟨us, heq, hderives, hlists, hall⟩ := sound_comparison hsound hcomparison
      exact ⟨us, heq, .negation hderives, hlists, hall⟩
  | cons t ts ih =>
    rcases gives_negation_iff.1 h with ⟨t', us, body, heq, hnot, hbody, rfl⟩ | ⟨-, hcomparison⟩
    · obtain ⟨rfl, rfl⟩ := List.cons.inj heq
      obtain ⟨us, rfl, hderives, hlists, hall⟩ := ih (hsound.mono (by simp)) hbody
      refine ⟨t :: us, rfl, .not hnot hderives, hlists, ?_⟩
      rw [List.forall_mem_cons]
      exact ⟨Token.inRange_of_kind hnot (by decide) (by decide), hall⟩
    · obtain ⟨us, heq, hderives, hlists, hall⟩ := sound_comparison hsound hcomparison
      exact ⟨us, heq, .negation hderives, hlists, hall⟩

/-- Conjuncts that are read are accepted. -/
theorem sound_conjuncts (hsound : SoundBelow stop ts.length) (hleft : left.OrdersNoList)
    (h : Gives (conjuncts stop left ts) e rest) :
    ∃ us, ts = us ++ rest ∧ Accepts (.conjuncts left) us e := by
  induction hn : ts.length using Nat.strongRecOn generalizing ts left with
  | _ n ih =>
  rcases gives_conjuncts_iff.1 h with ⟨t, us, right, vs, rfl, hand, hright, htail⟩ | ⟨-, rfl, rfl⟩
  · obtain ⟨rs, rfl, hderives, hlists, hall⟩ := sound_negation (hsound.mono (by simp)) hright
    have hshorter : vs.length < n := length_lt_of_cons_append hn
    -- The tree on the left grows with each operand, and that it orders no lists is carried
    -- along.
    have hboth : (Expr.and left right).OrdersNoList := ⟨hleft, hlists⟩
    obtain ⟨ws, rfl, hderives', hlists', hall'⟩ :=
      ih _ hshorter (hsound.mono (by omega)) hboth htail rfl
    refine ⟨t :: (rs ++ ws), by simp, .conjunctsCons hand hderives hderives', hlists', ?_⟩
    rw [List.forall_mem_cons, List.forall_mem_append]
    exact ⟨Token.inRange_of_kind hand (by decide) (by decide), hall, hall'⟩
  · exact ⟨[], rfl, .conjunctsNil, hleft, by simp⟩

/-- Conjunctions that are read are accepted. -/
theorem sound_conjunction (hsound : SoundBelow stop ts.length)
    (h : Gives (conjunction stop ts) e rest) :
    ∃ us, ts = us ++ rest ∧ Accepts .conjunction us e := by
  obtain ⟨left, us, hleft, htail⟩ := gives_conjunction_iff.1 h
  obtain ⟨ls, rfl, hderives, hlists, hall⟩ := sound_negation hsound hleft
  obtain ⟨rs, rfl, hderives', hlists', hall'⟩ :=
    sound_conjuncts (hsound.mono (by simp)) hlists htail
  refine ⟨ls ++ rs, by simp, .conjunction hderives hderives', hlists', ?_⟩
  rw [List.forall_mem_append]
  exact ⟨hall, hall'⟩

/-- Disjuncts that are read are accepted. -/
theorem sound_disjuncts (hsound : SoundBelow stop ts.length) (hleft : left.OrdersNoList)
    (h : Gives (disjuncts stop left ts) e rest) :
    ∃ us, ts = us ++ rest ∧ Accepts (.disjuncts left) us e := by
  induction hn : ts.length using Nat.strongRecOn generalizing ts left with
  | _ n ih =>
  rcases gives_disjuncts_iff.1 h with ⟨t, us, right, vs, rfl, hor, hright, htail⟩ | ⟨-, rfl, rfl⟩
  · obtain ⟨rs, rfl, hderives, hlists, hall⟩ := sound_conjunction (hsound.mono (by simp)) hright
    have hshorter : vs.length < n := length_lt_of_cons_append hn
    -- As above, the tree on the left carries its own condition.
    have hboth : (Expr.or left right).OrdersNoList := ⟨hleft, hlists⟩
    obtain ⟨ws, rfl, hderives', hlists', hall'⟩ :=
      ih _ hshorter (hsound.mono (by omega)) hboth htail rfl
    refine ⟨t :: (rs ++ ws), by simp, .disjunctsCons hor hderives hderives', hlists', ?_⟩
    rw [List.forall_mem_cons, List.forall_mem_append]
    exact ⟨Token.inRange_of_kind hor (by decide) (by decide), hall, hall'⟩
  · exact ⟨[], rfl, .disjunctsNil, hleft, by simp⟩

/-- Disjunctions that are read are accepted. -/
theorem sound_disjunction (h : Gives (disjunction stop ts) e rest) :
    ∃ us, ts = us ++ rest ∧ Accepts .disjunction us e := by
  induction hn : ts.length using Nat.strongRecOn generalizing ts e rest with
  | _ n ih =>
  -- All readers below this one are sound under the bound, so it is lifted here and nowhere
  -- else.
  have hsound : SoundBelow stop ts.length := fun us hus e rest hgives =>
    ih us.length (by omega) hgives rfl
  obtain ⟨left, us, hleft, htail⟩ := gives_disjunction_iff.1 h
  obtain ⟨ls, rfl, hderives, hlists, hall⟩ := sound_conjunction hsound hleft
  obtain ⟨rs, rfl, hderives', hlists', hall'⟩ :=
    sound_disjuncts (hsound.mono (by simp)) hlists htail
  refine ⟨ls ++ rs, by simp, .disjunction hderives hderives', hlists', ?_⟩
  rw [List.forall_mem_append]
  exact ⟨hall, hall'⟩

/-! ## Completeness -/

/-- Where a comparison must end there is no comparison ahead. -/
theorem comparator?_of_stops (h : Phrase.negation.Stops rest) : comparator? rest = none := by
  cases rest with
  | nil => rfl
  | cons t rest =>
    rw [Phrase.stops_cons] at h
    cases hop : comparator? (t :: rest) with
    | none => rfl
    | some op =>
      rw [comparator?_cons.1 hop] at h
      cases h

/-- Where a conjunction must end there is no `&&` ahead. -/
theorem isAhead_and_of_stops (h : Phrase.conjunction.Stops rest) : isAhead .and rest = false := by
  cases rest with
  | nil => rfl
  | cons t rest =>
    rw [Phrase.stops_cons, Phrase.goesOn, Bool.or_eq_false_iff] at h
    simpa [isAhead] using h.2

/-- Where a disjunction must end there is no `||` ahead. -/
theorem isAhead_or_of_stops (h : Phrase.disjunction.Stops rest) : isAhead .or rest = false := by
  cases rest with
  | nil => rfl
  | cons t rest =>
    rw [Phrase.stops_cons, Phrase.goesOn, Bool.or_eq_false_iff] at h
    simpa [isAhead] using h.2

/-- Items in range are read up to a closing bracket. -/
theorem gives_items_of_items {vs : List Scalar} (h : Items us vs) (hrange : ∀ t ∈ us, t.InRange)
    {u : Token} (hclose : u.kind = .rightBracket) :
    Gives (items stop origin (us ++ u :: rest)) vs rest := by
  induction h with
  | @one t v literal =>
    have ht : t.scalar? = some (.ok v) :=
      Token.scalar?_eq_ok_iff.2 ⟨literal, hrange t List.mem_cons_self⟩
    exact gives_items_iff.2
      ⟨v, u, rest, gives_scalar_iff.2 ⟨t, rfl, ht⟩, .inl ⟨hclose, rfl, rfl⟩⟩
  | @cons t v comma ts vs literal hcomma more ih =>
    rw [List.forall_mem_cons, List.forall_mem_cons] at hrange
    have ht : t.scalar? = some (.ok v) := Token.scalar?_eq_ok_iff.2 ⟨literal, hrange.1⟩
    exact gives_items_iff.2 ⟨v, comma, ts ++ u :: rest, gives_scalar_iff.2 ⟨t, rfl, ht⟩,
      .inr ⟨hcomma, vs, rfl, ih hrange.2.2⟩⟩

end Reading

namespace Phrase

open Reading

/-- Whether the reader of a phrase gives a tree and leaves some tokens. -/
def IsRead (stop : Position) (ts : List Token) (e : Expr) (rest : List Token) : Phrase → Prop
  | .disjunction => Gives (Reading.disjunction stop ts) e rest
  | .disjuncts left => Gives (Reading.disjuncts stop left ts) e rest
  | .conjunction => Gives (Reading.conjunction stop ts) e rest
  | .conjuncts left => Gives (Reading.conjuncts stop left ts) e rest
  | .negation => Gives (Reading.negation stop ts) e rest
  | .comparison => Gives (Reading.comparison stop ts) e rest
  | .operand => Gives (Reading.operand stop ts) e rest

variable {p : Phrase} {us : List Token} {e : Expr}

/-- Where a row orders no lists, neither does the tree on its left. -/
theorem Derives.ordersNoList_left (h : Derives p us e) (he : e.OrdersNoList) :
    ∀ l ∈ p.left?, l.OrdersNoList := by
  induction h with
  | disjunctsNil => simpa [left?] using he
  | disjunctsCons _ _ _ _ ih => simpa [left?] using (ih he _ rfl).1
  | conjunctsNil => simpa [left?] using he
  | conjunctsCons _ _ _ _ ih => simpa [left?] using (ih he _ rfl).1
  | _ => simp [left?]

/-- What a phrase accepts is read, where the phrase must end there. -/
theorem Derives.isRead (stop : Position) (h : Derives p us e) :
    ∀ rest, p.Stops rest → e.OrdersNoList → (∀ t ∈ us, t.InRange) →
      p.IsRead stop (us ++ rest) e rest := by
  induction h with
  | @disjunction us vs left e head tail ihHead ihTail =>
    intro rest hrest he hall
    rw [List.forall_mem_append] at hall
    -- What follows the head of a row is its rest, and this starts with `||` or with what
    -- follows the whole row.
    have hleft := tail.ordersNoList_left he left rfl
    rw [List.append_assoc]
    exact gives_disjunction_iff.2 ⟨left, vs ++ rest,
      ihHead _ (tail.stops_conjunction hrest) hleft hall.1, ihTail rest hrest he hall.2⟩
  | disjunctsNil =>
    intro rest hrest _ _
    exact gives_disjuncts_iff.2 (.inr ⟨isAhead_or_of_stops hrest, rfl, rfl⟩)
  | @disjunctsCons left t us right vs e hor head tail ihHead ihTail =>
    intro rest hrest he hall
    rw [List.forall_mem_cons, List.forall_mem_append] at hall
    have hright := (tail.ordersNoList_left he _ rfl).2
    refine gives_disjuncts_iff.2 (.inl ⟨t, us ++ (vs ++ rest), right, vs ++ rest, by simp, hor,
      ihHead _ (tail.stops_conjunction hrest) hright hall.2.1, ihTail rest hrest he hall.2.2⟩)
  | @conjunction us vs left e head tail ihHead ihTail =>
    intro rest hrest he hall
    rw [List.forall_mem_append] at hall
    have hleft := tail.ordersNoList_left he left rfl
    rw [List.append_assoc]
    exact gives_conjunction_iff.2 ⟨left, vs ++ rest,
      ihHead _ (tail.stops_negation hrest) hleft hall.1, ihTail rest hrest he hall.2⟩
  | conjunctsNil =>
    intro rest hrest _ _
    exact gives_conjuncts_iff.2 (.inr ⟨isAhead_and_of_stops hrest, rfl, rfl⟩)
  | @conjunctsCons left t us right vs e hand head tail ihHead ihTail =>
    intro rest hrest he hall
    rw [List.forall_mem_cons, List.forall_mem_append] at hall
    have hright := (tail.ordersNoList_left he _ rfl).2
    exact gives_conjuncts_iff.2 (.inl ⟨t, us ++ (vs ++ rest), right, vs ++ rest, by simp, hand,
      ihHead _ (tail.stops_negation hrest) hright hall.2.1, ihTail rest hrest he hall.2.2⟩)
  | negation whole ih =>
    intro rest hrest he hall
    obtain ⟨t, us, rfl, hnot⟩ := whole.exists_cons_comparison
    exact gives_negation_iff.2 (.inr ⟨by simpa [isAhead] using hnot, ih rest hrest he hall⟩)
  | @not t us body hnot _ ih =>
    intro rest hrest he hall
    rw [List.forall_mem_cons] at hall
    exact gives_negation_iff.2 (.inl ⟨t, us ++ rest, body, rfl, hnot, ih rest hrest he hall.2, rfl⟩)
  | @comparison us e whole ih =>
    intro rest hrest he hall
    exact gives_comparison_iff.2 ⟨e, rest, ih rest (stops_operand _) he hall,
      .inl ⟨comparator?_of_stops hrest, rfl, rfl⟩⟩
  | @compare us left t op vs right hleft hop hright ihLeft ihRight =>
    intro rest hrest he hall
    rw [List.forall_mem_append, List.forall_mem_cons] at hall
    obtain ⟨horder, hl, hr⟩ := he
    rw [List.append_assoc]
    exact gives_comparison_iff.2 ⟨left, t :: (vs ++ rest),
      ihLeft _ (stops_operand _) hl hall.1, .inr ⟨t, vs ++ rest, op, right, rfl, hop,
        ihRight rest (stops_operand _) hr hall.2.2, horder, comparator?_of_stops hrest, rfl⟩⟩
  | @literal t v hliteral =>
    intro rest _ _ hall
    exact gives_operand_iff.2 (.inl ⟨v,
      Token.scalar?_eq_ok_iff.2 ⟨hliteral, hall t List.mem_cons_self⟩, rfl, rfl⟩)
  | @emptyList t u hopen hclose =>
    intro rest _ _ _
    exact gives_operand_iff.2 (.inr (.inl ⟨hopen, gives_list_iff.2 (.inl ⟨u, rfl, hclose, rfl⟩)⟩))
  | @list t us vs u hopen items hclose =>
    intro rest _ _ hall
    rw [List.forall_mem_cons, List.forall_mem_append] at hall
    rw [List.cons_append, List.append_assoc]
    exact gives_operand_iff.2 (.inr (.inl ⟨hopen,
      gives_list_iff.2 (.inr ⟨vs, rfl, gives_items_of_items items hall.2.1 hclose⟩)⟩))
  | @reference t scope d name hhead hscope hdot hname =>
    intro rest _ _ _
    exact gives_operand_iff.2 (.inr (.inr (.inl ⟨hhead,
      gives_reference_iff.2 ⟨scope, d, name, hscope, rfl, hdot, hname, rfl⟩⟩)))
  | @parens t us e u hopen body hclose ih =>
    intro rest _ he hall
    rw [List.forall_mem_cons, List.forall_mem_append] at hall
    rw [List.cons_append, List.append_assoc]
    have hstops : Phrase.disjunction.Stops (u :: rest) := stops_cons.2 (by rw [hclose]; rfl)
    exact gives_operand_iff.2 (.inr (.inr (.inr ⟨hopen, u, ih _ hstops he hall.2.1, hclose⟩)))

end Phrase

/-! ## Choices -/

namespace Reading

variable {stop : Position} {ts us rest : List Token}

/-- Blocks that are read are blocks in range. -/
theorem sound_block {v : Scalar} (h : Gives (block stop ts) v rest) :
    ∃ us, ts = us ++ rest ∧ Block us v ∧ ∀ t ∈ us, t.InRange := by
  obtain ⟨t, u, w, rfl, hopen, hv, hclose⟩ := gives_block_iff.1 h
  obtain ⟨hliteral, hrange⟩ := Token.scalar?_eq_ok_iff.1 hv
  refine ⟨[t, u, w], rfl, .mk hopen hliteral hclose, ?_⟩
  simp [hrange, Token.inRange_of_kind hopen, Token.inRange_of_kind hclose]

/-- Blocks in range are read. -/
theorem gives_block_of_block {v : Scalar} (h : Block us v) (hrange : ∀ t ∈ us, t.InRange) :
    Gives (block stop (us ++ rest)) v rest := by
  cases h with
  | @mk t u w v hopen literal hclose =>
    have hu : u.scalar? = some (.ok v) :=
      Token.scalar?_eq_ok_iff.2 ⟨literal, hrange u (by simp)⟩
    exact gives_block_iff.2 ⟨t, u, w, rfl, hopen, hu, hclose⟩

/-- Arms that are read are arms in range that order no lists. -/
theorem sound_branch {b : Branch} (h : Gives (branch stop ts) b rest) :
    ∃ us, ts = us ++ rest ∧ Arm us b ∧ b.condition.OrdersNoList ∧ ∀ t ∈ us, t.InRange := by
  obtain ⟨t, us, vs, rfl, hif, hcondition, hresult⟩ := gives_branch_iff.1 h
  obtain ⟨cs, rfl, hderives, hlists, hall⟩ := sound_disjunction hcondition
  obtain ⟨bs, rfl, hblock, hall'⟩ := sound_block hresult
  refine ⟨t :: (cs ++ bs), by simp, .mk hif hderives hblock, hlists, ?_⟩
  rw [List.forall_mem_cons, List.forall_mem_append]
  exact ⟨Token.inRange_of_kind hif (by decide) (by decide), hall, hall'⟩

/-- Arms in range that order no lists are read. -/
theorem gives_branch_of_arm {b : Branch} (h : Arm us b) (hlists : b.condition.OrdersNoList)
    (hrange : ∀ t ∈ us, t.InRange) : Gives (branch stop (us ++ rest)) b rest := by
  cases h with
  | @mk t cs bs condition result hif hcondition hblock =>
    rw [List.forall_mem_cons, List.forall_mem_append] at hrange
    rw [List.cons_append, List.append_assoc]
    exact gives_branch_iff.2 ⟨t, cs ++ (bs ++ rest), bs ++ rest, rfl, hif,
      hcondition.isRead stop (bs ++ rest) hblock.stops hlists hrange.2.1,
      gives_block_of_block hblock hrange.2.2⟩

/-- What is read after an arm is the rest of a choice in range that orders no lists. -/
theorem sound_arms {head : Branch} {c : Choice} (h : arms stop head ts = .ok (c, rest)) :
    ∃ us bs, ts = us ++ rest ∧ c.branches = head :: bs ∧ Arms us bs c.otherwise ∧
      (∀ b ∈ bs, b.condition.OrdersNoList) ∧ ∀ t ∈ us, t.InRange := by
  induction hn : ts.length using Nat.strongRecOn generalizing ts head c with
  | _ n ih =>
  -- No `else`, a last block after `else`, or one more arm after `else`.
  rcases arms_eq_ok_iff.1 h with ⟨-, rfl, rfl⟩ | ⟨t, us, v, rfl, helse, -, hv, rfl⟩ |
    ⟨t, us, next, vs, tail, rfl, helse, hnext, htail, rfl⟩
  · exact ⟨[], [], rfl, rfl, .nil, by simp, by simp⟩
  · obtain ⟨us, rfl, hblock, hall⟩ := sound_block hv
    refine ⟨t :: us, [], rfl, rfl, .otherwise helse hblock, by simp, ?_⟩
    rw [List.forall_mem_cons]
    exact ⟨Token.inRange_of_kind helse (by decide) (by decide), hall⟩
  · obtain ⟨us, rfl, harm, hlists, hall⟩ := sound_branch hnext
    have hshorter : vs.length < n := length_lt_of_cons_append hn
    obtain ⟨ws, bs, rfl, hbs, harms, hlists', hall'⟩ := ih _ hshorter htail rfl
    refine ⟨t :: (us ++ ws), tail.branches, by simp, rfl, ?_, ?_, ?_⟩
    · rw [hbs]
      exact .cons helse harm harms
    · rw [hbs, List.forall_mem_cons]
      exact ⟨hlists, hlists'⟩
    · rw [List.forall_mem_cons, List.forall_mem_append]
      exact ⟨Token.inRange_of_kind helse (by decide) (by decide), hall, hall'⟩

/-- The rest of a choice in range that orders no lists is read after an arm. -/
theorem arms_of_arms {head : Branch} {bs : List Branch} {o : Option Scalar} (h : Arms ts bs o)
    (hlists : ∀ b ∈ bs, b.condition.OrdersNoList) (hrange : ∀ t ∈ ts, t.InRange) :
    arms stop head ts = .ok (⟨head :: bs, o⟩, []) := by
  induction h generalizing head with
  | nil => exact arms_eq_ok_iff.2 (.inl ⟨rfl, rfl, rfl⟩)
  | @otherwise t ts v helse hblock =>
    rw [List.forall_mem_cons] at hrange
    have hblock' : Gives (block stop (ts ++ [])) v [] := gives_block_of_block hblock hrange.2
    obtain ⟨u, us, rfl, hopen⟩ := hblock.exists_cons
    rw [List.append_nil] at hblock'
    exact arms_eq_ok_iff.2 (.inr (.inl
      ⟨t, u :: us, v, rfl, helse, by simp [isAhead, hopen], hblock', rfl⟩))
  | @cons t us vs b bs o helse harm _ ih =>
    rw [List.forall_mem_cons, List.forall_mem_append] at hrange
    rw [List.forall_mem_cons] at hlists
    exact arms_eq_ok_iff.2 (.inr (.inr ⟨t, us ++ vs, b, vs, ⟨b :: bs, o⟩, rfl, helse,
      gives_branch_of_arm harm hlists.1 hrange.2.1, ih hlists.2 hrange.2.2, rfl⟩))

end Reading

/-! ## What the parsers give -/

open Reading

variable {s : TokenStream}

/-- The tokens of a text form an expression where a disjunction is read up to the end. -/
theorem Expr.ofTokens_eq_ok_iff {e : Expr} :
    Expr.ofTokens s = .ok e ↔ Gives (disjunction s.stop s.tokens) e [] := by
  unfold Expr.ofTokens
  by_cases hempty : s.tokens.isEmpty = true
  · rw [if_pos hempty]
    -- Without tokens there is a fault, and no reader gives anything either.
    refine iff_of_false (by simp [throw, throwThe, MonadExceptOf.throw, bind, Except.bind]) ?_
    intro h
    have hlength := h.length_lt
    rw [List.isEmpty_iff.1 hempty] at hlength
    simp at hlength
  · rw [if_neg hempty]
    show (disjunction s.stop s.tokens >>= _) = _ ↔ _
    rw [bind_eq_ok_iff]
    constructor
    · rintro ⟨⟨e', rest, hrest⟩, hread, h⟩
      cases rest with
      | nil =>
        cases h
        exact ⟨hrest, hread⟩
      | cons t rest =>
        -- A token that is left over is a fault, whichever the message is.
        dsimp only at h
        split at h <;> cases h
    · rintro ⟨hrest, hread⟩
      exact ⟨(e, ⟨[], hrest⟩), hread, rfl⟩

/-- The tokens of a text form a choice where an arm and what follows it are read up to the end. -/
theorem Choice.ofTokens_eq_ok_iff {c : Choice} :
    Choice.ofTokens s = .ok c ↔
      ∃ head us, Gives (branch s.stop s.tokens) head us ∧ arms s.stop head us = .ok (c, []) := by
  unfold Choice.ofTokens
  by_cases hempty : s.tokens.isEmpty = true
  · rw [if_pos hempty]
    refine iff_of_false (by simp [throw, throwThe, MonadExceptOf.throw, bind, Except.bind]) ?_
    rintro ⟨head, us, h, -⟩
    have hlength := h.length_lt
    rw [List.isEmpty_iff.1 hempty] at hlength
    simp at hlength
  · rw [if_neg hempty]
    show (branch s.stop s.tokens >>= _) = _ ↔ _
    rw [bind_eq_ok_iff]
    constructor
    · rintro ⟨⟨head, us, hus⟩, hhead, h⟩
      obtain ⟨⟨c', more⟩, harms, h⟩ := bind_eq_ok_iff.1 h
      cases more with
      | nil =>
        cases h
        exact ⟨head, us, ⟨hus, hhead⟩, harms⟩
      | cons t more => cases h
    · rintro ⟨head, us, ⟨hus, hhead⟩, harms⟩
      exact ⟨(head, ⟨us, hus⟩), hhead, bind_eq_ok_iff.2 ⟨(c, []), harms, rfl⟩⟩

/-- The expression of some tokens is the one that they derive, within the limits. -/
theorem Expr.ofTokens_eq_ok_iff_accepts {e : Expr} :
    Expr.ofTokens s = .ok e ↔ Phrase.disjunction.Accepts s.tokens e := by
  rw [Expr.ofTokens_eq_ok_iff]
  constructor
  · intro h
    obtain ⟨us, heq, haccepts⟩ := sound_disjunction h
    rw [heq, List.append_nil]
    exact haccepts
  · intro h
    have hread := h.derives.isRead s.stop [] (Phrase.stops_nil _) h.ordersNoList h.inRange
    rwa [List.append_nil] at hread

/-- The choice of some tokens is the one that they derive, within the limits. -/
theorem Choice.ofTokens_eq_ok_iff_accepts {c : Choice} :
    Choice.ofTokens s = .ok c ↔ Choice.Accepts s.tokens c := by
  rw [Choice.ofTokens_eq_ok_iff]
  constructor
  · rintro ⟨head, us, hhead, harms⟩
    obtain ⟨hs, heq, harm, hlists, hall⟩ := sound_branch hhead
    obtain ⟨us, bs, rfl, hbs, harms', hlists', hall'⟩ := sound_arms harms
    obtain ⟨branches, otherwise⟩ := c
    obtain rfl : branches = head :: bs := hbs
    rw [List.append_nil] at heq
    rw [heq]
    refine ⟨.mk harm harms', ?_, ?_⟩
    · exact List.forall_mem_cons.2 ⟨hlists, hlists'⟩
    · exact List.forall_mem_append.2 ⟨hall, hall'⟩
  · rintro ⟨hderives, hlists, hall⟩
    generalize hts : s.tokens = ts at hderives hall
    cases hderives with
    | @mk us vs b bs o harm harms =>
      obtain ⟨hhead, htail⟩ := List.forall_mem_append.1 hall
      obtain ⟨hb, hbs⟩ := List.forall_mem_cons.1 hlists
      exact ⟨b, vs, gives_branch_of_arm harm hb hhead, arms_of_arms harms hbs htail⟩

/-- What is read from a text is what its tokens form. -/
theorem parse_eq_ok_iff {source : String} (h : tokenize source = .ok s) :
    (∀ e, Expr.parse source = .ok e ↔ Phrase.disjunction.Accepts s.tokens e) ∧
      ∀ c, Choice.parse source = .ok c ↔ Choice.Accepts s.tokens c := by
  have hexpr : Expr.parse source = Expr.ofTokens s := by
    rw [Expr.parse, h]
    rfl
  have hchoice : Choice.parse source = Choice.ofTokens s := by
    rw [Choice.parse, h]
    rfl
  rw [hexpr, hchoice]
  exact ⟨fun e => Expr.ofTokens_eq_ok_iff_accepts, fun c => Choice.ofTokens_eq_ok_iff_accepts⟩

/-- A text that can be cut into tokens is read as the expression that the tokens derive, where it
orders no lists and the numbers are in range, and in every other case there is a fault; so is the
text of a choice. No tokens derive two expressions or two choices. -/
theorem parse_eq_ok_iff_derives (source : String) (s : TokenStream)
    (h : tokenize source = .ok s) :
    (∀ e, Expr.parse source = .ok e ↔ Phrase.disjunction.Derives s.tokens e ∧ e.OrdersNoList ∧
      ∀ t ∈ s.tokens, t.InRange) ∧
    ((¬ ∃ e, Phrase.disjunction.Derives s.tokens e ∧ e.OrdersNoList ∧ ∀ t ∈ s.tokens, t.InRange) →
      ∃ fault, Expr.parse source = .error fault) ∧
    (∀ ts e e', Phrase.disjunction.Derives ts e → Phrase.disjunction.Derives ts e' → e = e') ∧
    (∀ c, Choice.parse source = .ok c ↔ Choice.Derives s.tokens c ∧ c.OrdersNoList ∧
      ∀ t ∈ s.tokens, t.InRange) ∧
    ((¬ ∃ c, Choice.Derives s.tokens c ∧ c.OrdersNoList ∧ ∀ t ∈ s.tokens, t.InRange) →
      ∃ fault, Choice.parse source = .error fault) ∧
    ∀ ts c c', Choice.Derives ts c → Choice.Derives ts c' → c = c' := by
  obtain ⟨hexpr, hchoice⟩ := parse_eq_ok_iff h
  have hexpr' : ∀ e, Expr.parse source = .ok e ↔ Phrase.disjunction.Derives s.tokens e ∧
      e.OrdersNoList ∧ ∀ t ∈ s.tokens, t.InRange := fun e => (hexpr e).trans Phrase.accepts_iff
  have hchoice' : ∀ c, Choice.parse source = .ok c ↔ Choice.Derives s.tokens c ∧
      c.OrdersNoList ∧ ∀ t ∈ s.tokens, t.InRange := fun c => (hchoice c).trans Choice.accepts_iff
  refine ⟨hexpr', fun hno => ?_, fun ts e e' h h' => h.eq h', hchoice', fun hno => ?_,
    fun ts c c' h h' => h.eq h'⟩
  -- An outcome is a tree or a fault, and a tree would be derived.
  · cases hparse : Expr.parse source with
    | error fault => exact ⟨fault, rfl⟩
    | ok e => exact absurd ⟨e, (hexpr' e).1 hparse⟩ hno
  · cases hparse : Choice.parse source with
    | error fault => exact ⟨fault, rfl⟩
    | ok c => exact absurd ⟨c, (hchoice' c).1 hparse⟩ hno

/-- The text `!true` is two tokens, which are a negation and no choice. -/
theorem parse_eq_ok_iff_derives_not_true :
    tokenize "!true" = .ok ⟨[⟨.not, "!", ⟨1, 1⟩⟩, ⟨.trueWord, "true", ⟨1, 2⟩⟩], ⟨1, 6⟩⟩ ∧
      Expr.parse "!true" = .ok (.not (.literal (.bool true))) ∧
      ∃ fault, Choice.parse "!true" = .error fault := by
  have htokens : tokenize "!true" =
      .ok ⟨[⟨.not, "!", ⟨1, 1⟩⟩, ⟨.trueWord, "true", ⟨1, 2⟩⟩], ⟨1, 6⟩⟩ := by
    have hend : TokenStream.scan ⟨1, 6⟩ [] = .ok ⟨[], ⟨1, 6⟩⟩ :=
      TokenStream.scan_of_blanks _ (List.forall_mem_nil _)
    have htrue := TokenStream.scan_of_cons ⟨1, 2⟩ (List.forall_mem_nil _)
      (by decide : isBlank 't' = false) ['r', 'u', 'e']
    have hnot := TokenStream.scan_of_cons .start (List.forall_mem_nil _)
      (by decide : isBlank '!' = false) ['t', 'r', 'u', 'e']
    calc tokenize "!true" = _ := hnot
      _ = (TokenStream.scan ⟨1, 2⟩ ['t', 'r', 'u', 'e']).map _ := rfl
      _ = ((TokenStream.scan ⟨1, 6⟩ []).map _).map _ := congrArg _ htrue
      _ = _ := by rw [hend]; rfl
  obtain ⟨hexpr, -, -, -, hchoice, -⟩ := parse_eq_ok_iff_derives _ _ htokens
  have htrue : Phrase.Derives .negation [⟨.trueWord, "true", ⟨1, 2⟩⟩] (.literal (.bool true)) :=
    .negation (.comparison (.literal rfl))
  refine ⟨htokens, (hexpr _).2 ⟨?_, trivial, ?_⟩, hchoice ?_⟩
  · exact .disjunction (.conjunction (.not rfl htrue) .conjunctsNil) .disjunctsNil
  · simp [Token.inRange_of_kind]
  · rintro ⟨c, hderives, -⟩
    -- A choice starts with `if`, and this text does not.
    generalize hts : [Token.mk .not "!" ⟨1, 1⟩, ⟨.trueWord, "true", ⟨1, 2⟩⟩] = ts at hderives
    cases hderives with
    | mk head _ =>
      cases head with
      | mk hif _ _ =>
        obtain ⟨rfl, -⟩ := List.cons.inj hts
        cases hif

end CheckDoc
