import CheckDoc.Expr.Parser
import CheckDoc.Proofs.Outcome

/-!
# What each reader gives

One lemma for each reader of the parser: what it gives and which tokens it leaves, in terms of the
readers it calls. Apart from these and the lemmas on faults and on places no general proof unfolds a
reader. That fewer tokens remain is part of a reading, so the lemmas leave it out.
-/

namespace CheckDoc.Reading

/-- Whether a reading gives `a` and leaves the tokens `rest`. -/
def Gives {α : Type} {n : Nat} (r : Except SyntaxFault (α × Remaining n)) (a : α)
    (rest : List Token) : Prop :=
  ∃ h, r = .ok (a, ⟨rest, h⟩)

section

variable {α β : Type} {n m : Nat}

/-- A reading leaves fewer tokens than its bound. -/
theorem Gives.length_lt {r : Except SyntaxFault (α × Remaining n)} {a : α} {rest : List Token}
    (h : Gives r a rest) : rest.length < n :=
  h.1

/-- A fault gives nothing. -/
theorem not_gives_error {fault : SyntaxFault} {a : α} {rest : List Token} :
    ¬ Gives (.error fault : Except SyntaxFault (α × Remaining n)) a rest := by
  rintro ⟨h, heq⟩
  cases heq

/-- A reading that is given outright. -/
theorem gives_ok_iff {a b : α} {us rest : List Token} {h : us.length < n} :
    Gives (.ok (a, ⟨us, h⟩) : Except SyntaxFault (α × Remaining n)) b rest ↔ b = a ∧ rest = us := by
  constructor
  · rintro ⟨h', heq⟩
    cases heq
    exact ⟨rfl, rfl⟩
  · rintro ⟨rfl, rfl⟩
    exact ⟨h, rfl⟩

/-- A reading that goes on from another one. -/
theorem gives_bind_iff {r : Except SyntaxFault (α × Remaining n)}
    {f : α × Remaining n → Except SyntaxFault (β × Remaining m)} {b : β} {rest : List Token} :
    Gives (r >>= f) b rest ↔ ∃ a us h, r = .ok (a, ⟨us, h⟩) ∧ Gives (f (a, ⟨us, h⟩)) b rest := by
  constructor
  · rintro ⟨h, heq⟩
    obtain ⟨⟨a, us, hus⟩, hr, hf⟩ := bind_eq_ok_iff.1 heq
    exact ⟨a, us, hus, hr, h, hf⟩
  · rintro ⟨a, us, hus, hr, h, hf⟩
    exact ⟨h, bind_eq_ok_iff.2 ⟨_, hr, hf⟩⟩

end

variable {stop origin : Position} {ts rest : List Token} {e left : Expr}

/-! ## Lists and references -/

/-- A token of a kind is read where it stands ahead. -/
theorem gives_token_iff {kind : TokenKind} {t : Token} :
    Gives (token stop kind ts) t rest ↔ ts = t :: rest ∧ t.kind = kind := by
  cases ts with
  | nil => exact iff_of_false not_gives_error (by simp)
  | cons u us =>
    rw [token]
    split
    · rename_i hkind
      rw [gives_ok_iff, List.cons.injEq]
      constructor
      · rintro ⟨rfl, rfl⟩
        exact ⟨⟨rfl, rfl⟩, hkind⟩
      · rintro ⟨⟨rfl, rfl⟩, -⟩
        exact ⟨rfl, rfl⟩
    · rename_i hkind
      refine iff_of_false not_gives_error ?_
      rintro ⟨heq, ht⟩
      obtain ⟨rfl, -⟩ := List.cons.inj heq
      exact hkind ht

/-- A literal is read where it stands ahead and is in range. -/
theorem gives_scalar_iff {cause : Option String → SyntaxCause} {v : Scalar} :
    Gives (scalar stop cause ts) v rest ↔ ∃ t, ts = t :: rest ∧ t.scalar? = some (.ok v) := by
  cases ts with
  | nil => exact iff_of_false not_gives_error (by simp)
  | cons u us =>
    rw [scalar]
    split
    · rename_i w hw
      rw [gives_ok_iff]
      constructor
      · rintro ⟨rfl, rfl⟩
        exact ⟨u, rfl, hw⟩
      · rintro ⟨t, heq, ht⟩
        obtain ⟨rfl, rfl⟩ := List.cons.inj heq
        rw [hw] at ht
        cases ht
        exact ⟨rfl, rfl⟩
    · rename_i fault hfault
      refine iff_of_false not_gives_error ?_
      rintro ⟨t, heq, ht⟩
      obtain ⟨rfl, -⟩ := List.cons.inj heq
      rw [hfault] at ht
      cases ht
    · rename_i hnone
      refine iff_of_false not_gives_error ?_
      rintro ⟨t, heq, ht⟩
      obtain ⟨rfl, -⟩ := List.cons.inj heq
      rw [hnone] at ht
      cases ht

/-- The items of a list are literals up to a closing bracket. -/
theorem gives_items_iff {vs : List Scalar} :
    Gives (items stop origin ts) vs rest ↔
      ∃ v t us, Gives (scalar stop .listItem ts) v (t :: us) ∧
        (t.kind = .rightBracket ∧ vs = [v] ∧ rest = us ∨
          t.kind = .comma ∧ ∃ ws, vs = v :: ws ∧ Gives (items stop origin us) ws rest) := by
  rw [items, gives_bind_iff]
  constructor
  · rintro ⟨v, us, hus, hv, h⟩
    cases us with
    | nil => exact absurd h not_gives_error
    | cons t us =>
      refine ⟨v, t, us, ⟨hus, hv⟩, ?_⟩
      dsimp only at h
      split at h
      · rename_i hkind
        obtain ⟨rfl, rfl⟩ := gives_ok_iff.1 h
        exact .inl ⟨hkind, rfl, rfl⟩
      · split at h
        · rename_i hkind
          obtain ⟨ws, more, hmore, hws, h⟩ := gives_bind_iff.1 h
          obtain ⟨rfl, rfl⟩ := gives_ok_iff.1 h
          exact .inr ⟨hkind, ws, rfl, hmore, hws⟩
        · exact absurd h not_gives_error
  · rintro ⟨v, t, us, ⟨hus, hv⟩, ⟨hkind, rfl, rfl⟩ | ⟨hkind, ws, rfl, hmore, hws⟩⟩
    · refine ⟨v, t :: _, hus, hv, ?_⟩
      dsimp only
      rw [if_pos hkind]
      exact gives_ok_iff.2 ⟨rfl, rfl⟩
    · refine ⟨v, t :: us, hus, hv, ?_⟩
      dsimp only
      rw [if_neg (by rw [hkind]; decide), if_pos hkind]
      exact gives_bind_iff.2 ⟨ws, rest, hmore, hws, gives_ok_iff.2 ⟨rfl, rfl⟩⟩

/-- Items start with a literal. -/
theorem exists_cons_of_gives_items {vs : List Scalar} (h : Gives (items stop origin ts) vs rest) :
    ∃ t us v, ts = t :: us ∧ t.scalar? = some (.ok v) := by
  obtain ⟨v, u, us, hv, -⟩ := gives_items_iff.1 h
  obtain ⟨t, rfl, ht⟩ := gives_scalar_iff.1 hv
  exact ⟨t, _, v, rfl, ht⟩

/-- A list is a closing bracket, or items up to one. -/
theorem gives_list_iff :
    Gives (list stop origin ts) e rest ↔
      (∃ t, ts = t :: rest ∧ t.kind = .rightBracket ∧ e = .list []) ∨
        ∃ vs, e = .list vs ∧ Gives (items stop origin ts) vs rest := by
  cases ts with
  | nil =>
    rw [list, gives_bind_iff]
    constructor
    · rintro ⟨vs, more, hmore, hvs, -⟩
      obtain ⟨t, us, v, heq, -⟩ := exists_cons_of_gives_items ⟨hmore, hvs⟩
      cases heq
    · rintro (⟨t, heq, -⟩ | ⟨vs, -, hvs⟩)
      · cases heq
      · obtain ⟨t, us, v, heq, -⟩ := exists_cons_of_gives_items hvs
        cases heq
  | cons t us =>
    rw [list]
    split
    · rename_i hkind
      rw [gives_ok_iff]
      constructor
      · rintro ⟨rfl, rfl⟩
        exact .inl ⟨t, rfl, hkind, rfl⟩
      · rintro (⟨u, heq, -, rfl⟩ | ⟨vs, rfl, hvs⟩)
        · exact ⟨rfl, (List.cons.inj heq).2.symm⟩
        · -- A closing bracket is no literal.
          obtain ⟨u, vs, v, heq, hu⟩ := exists_cons_of_gives_items hvs
          obtain ⟨rfl, -⟩ := List.cons.inj heq
          simp [Token.scalar?, hkind] at hu
    · rename_i hkind
      rw [gives_bind_iff]
      constructor
      · rintro ⟨vs, more, hmore, hvs, h⟩
        obtain ⟨rfl, rfl⟩ := gives_ok_iff.1 h
        exact .inr ⟨vs, rfl, hmore, hvs⟩
      · rintro (⟨u, heq, hu, -⟩ | ⟨vs, rfl, hmore, hvs⟩)
        · obtain ⟨rfl, -⟩ := List.cons.inj heq
          exact absurd hu hkind
        · exact ⟨vs, rest, hmore, hvs, gives_ok_iff.2 ⟨rfl, rfl⟩⟩

/-- A reference is a point and a name after the name of a scope. -/
theorem gives_reference_iff {head : Token} :
    Gives (reference stop head ts) e rest ↔
      ∃ scope d name, Scope.ofName? head.value = some scope ∧ ts = d :: name :: rest ∧
        d.kind = .dot ∧ name.kind = .identifier ∧ e = .reference ⟨scope, name.value⟩ := by
  unfold reference
  split
  · rename_i scope hscope
    rw [gives_bind_iff]
    constructor
    · rintro ⟨d, us, hus, hd, h⟩
      obtain ⟨name, more, hmore, hname, h⟩ := gives_bind_iff.1 h
      obtain ⟨rfl, rfl⟩ := gives_ok_iff.1 h
      obtain ⟨rfl, hdot⟩ := gives_token_iff.1 ⟨hus, hd⟩
      obtain ⟨rfl, hidentifier⟩ := gives_token_iff.1 ⟨hmore, hname⟩
      exact ⟨scope, d, name, hscope, rfl, hdot, hidentifier, rfl⟩
    · rintro ⟨scope', d, name, hscope', rfl, hdot, hidentifier, rfl⟩
      obtain rfl := Option.some.inj (hscope.symm.trans hscope')
      obtain ⟨hus, hd⟩ : Gives (token stop .dot (d :: name :: rest)) d (name :: rest) :=
        gives_token_iff.2 ⟨rfl, hdot⟩
      obtain ⟨hmore, hname⟩ : Gives (token stop .identifier (name :: rest)) name rest :=
        gives_token_iff.2 ⟨rfl, hidentifier⟩
      exact ⟨d, name :: rest, hus, hd,
        gives_bind_iff.2 ⟨name, rest, hmore, hname, gives_ok_iff.2 ⟨rfl, rfl⟩⟩⟩
  · rename_i hnone
    have hfault : ¬ ∃ scope d name, Scope.ofName? head.value = some scope ∧
        ts = d :: name :: rest ∧ d.kind = .dot ∧ name.kind = .identifier ∧
          e = .reference ⟨scope, name.value⟩ := by
      rintro ⟨scope, d, name, hscope, -⟩
      rw [hnone] at hscope
      cases hscope
    split
    · exact iff_of_false not_gives_error hfault
    · exact iff_of_false not_gives_error hfault

/-! ## Rows of operands -/

/-- A kind is ahead where a token of this kind stands first. -/
theorem isAhead_eq_true_iff {kind : TokenKind} :
    isAhead kind ts = true ↔ ∃ t us, ts = t :: us ∧ t.kind = kind := by
  cases ts with
  | nil => simp [isAhead]
  | cons t us => simp [isAhead]

/-- A disjunction is a conjunction and the disjuncts after it. -/
theorem gives_disjunction_iff :
    Gives (disjunction stop ts) e rest ↔
      ∃ left us, Gives (conjunction stop ts) left us ∧ Gives (disjuncts stop left us) e rest := by
  rw [disjunction, gives_bind_iff]
  constructor
  · rintro ⟨left, us, hus, hleft, h⟩
    obtain ⟨e', more, hmore, htail, h⟩ := gives_bind_iff.1 h
    obtain ⟨rfl, rfl⟩ := gives_ok_iff.1 h
    exact ⟨left, us, ⟨hus, hleft⟩, hmore, htail⟩
  · rintro ⟨left, us, ⟨hus, hleft⟩, hmore, htail⟩
    exact ⟨left, us, hus, hleft,
      gives_bind_iff.2 ⟨e, rest, hmore, htail, gives_ok_iff.2 ⟨rfl, rfl⟩⟩⟩

/-- The disjuncts after a tree are none, or `||`, a conjunction and the disjuncts after that. -/
theorem gives_disjuncts_iff :
    Gives (disjuncts stop left ts) e rest ↔
      (∃ t us right vs, ts = t :: us ∧ t.kind = .or ∧ Gives (conjunction stop us) right vs ∧
        Gives (disjuncts stop (.or left right) vs) e rest) ∨
      isAhead .or ts = false ∧ e = left ∧ rest = ts := by
  cases ts with
  | nil => rw [disjuncts, gives_ok_iff]; simp [isAhead]
  | cons t us =>
    rw [disjuncts]
    split
    · rename_i hkind
      rw [gives_bind_iff]
      constructor
      · rintro ⟨right, vs, hvs, hright, h⟩
        obtain ⟨e', more, hmore, htail, h⟩ := gives_bind_iff.1 h
        obtain ⟨rfl, rfl⟩ := gives_ok_iff.1 h
        exact .inl ⟨t, us, right, vs, rfl, hkind, ⟨hvs, hright⟩, hmore, htail⟩
      · rintro (⟨u, us', right, vs, heq, -, ⟨hvs, hright⟩, hmore, htail⟩ | ⟨hahead, -, -⟩)
        · obtain ⟨rfl, rfl⟩ := List.cons.inj heq
          exact ⟨right, vs, hvs, hright,
            gives_bind_iff.2 ⟨e, rest, hmore, htail, gives_ok_iff.2 ⟨rfl, rfl⟩⟩⟩
        · simp [isAhead, hkind] at hahead
    · rename_i hkind
      rw [gives_ok_iff]
      refine ⟨fun h => .inr ⟨by simp [isAhead, hkind], h.1, h.2⟩, ?_⟩
      rintro (⟨u, us', right, vs, heq, hu, -⟩ | ⟨-, rfl, rfl⟩)
      · obtain ⟨rfl, -⟩ := List.cons.inj heq
        exact absurd hu hkind
      · exact ⟨rfl, rfl⟩

/-- A conjunction is a negation and the conjuncts after it. -/
theorem gives_conjunction_iff :
    Gives (conjunction stop ts) e rest ↔
      ∃ left us, Gives (negation stop ts) left us ∧ Gives (conjuncts stop left us) e rest := by
  rw [conjunction, gives_bind_iff]
  constructor
  · rintro ⟨left, us, hus, hleft, h⟩
    obtain ⟨e', more, hmore, htail, h⟩ := gives_bind_iff.1 h
    obtain ⟨rfl, rfl⟩ := gives_ok_iff.1 h
    exact ⟨left, us, ⟨hus, hleft⟩, hmore, htail⟩
  · rintro ⟨left, us, ⟨hus, hleft⟩, hmore, htail⟩
    exact ⟨left, us, hus, hleft,
      gives_bind_iff.2 ⟨e, rest, hmore, htail, gives_ok_iff.2 ⟨rfl, rfl⟩⟩⟩

/-- The conjuncts after a tree are none, or `&&`, a negation and the conjuncts after that. -/
theorem gives_conjuncts_iff :
    Gives (conjuncts stop left ts) e rest ↔
      (∃ t us right vs, ts = t :: us ∧ t.kind = .and ∧ Gives (negation stop us) right vs ∧
        Gives (conjuncts stop (.and left right) vs) e rest) ∨
      isAhead .and ts = false ∧ e = left ∧ rest = ts := by
  cases ts with
  | nil => rw [conjuncts, gives_ok_iff]; simp [isAhead]
  | cons t us =>
    rw [conjuncts]
    split
    · rename_i hkind
      rw [gives_bind_iff]
      constructor
      · rintro ⟨right, vs, hvs, hright, h⟩
        obtain ⟨e', more, hmore, htail, h⟩ := gives_bind_iff.1 h
        obtain ⟨rfl, rfl⟩ := gives_ok_iff.1 h
        exact .inl ⟨t, us, right, vs, rfl, hkind, ⟨hvs, hright⟩, hmore, htail⟩
      · rintro (⟨u, us', right, vs, heq, -, ⟨hvs, hright⟩, hmore, htail⟩ | ⟨hahead, -, -⟩)
        · obtain ⟨rfl, rfl⟩ := List.cons.inj heq
          exact ⟨right, vs, hvs, hright,
            gives_bind_iff.2 ⟨e, rest, hmore, htail, gives_ok_iff.2 ⟨rfl, rfl⟩⟩⟩
        · simp [isAhead, hkind] at hahead
    · rename_i hkind
      rw [gives_ok_iff]
      refine ⟨fun h => .inr ⟨by simp [isAhead, hkind], h.1, h.2⟩, ?_⟩
      rintro (⟨u, us', right, vs, heq, hu, -⟩ | ⟨-, rfl, rfl⟩)
      · obtain ⟨rfl, -⟩ := List.cons.inj heq
        exact absurd hu hkind
      · exact ⟨rfl, rfl⟩

/-- A negation is `!` and a negation, or a comparison. -/
theorem gives_negation_iff :
    Gives (negation stop ts) e rest ↔
      (∃ t us body, ts = t :: us ∧ t.kind = .not ∧ Gives (negation stop us) body rest ∧
        e = .not body) ∨
      isAhead .not ts = false ∧ Gives (comparison stop ts) e rest := by
  cases ts with
  | nil => rw [negation]; simp [isAhead]
  | cons t us =>
    rw [negation]
    split
    · rename_i hkind
      rw [gives_bind_iff]
      constructor
      · rintro ⟨body, more, hmore, hbody, h⟩
        obtain ⟨rfl, rfl⟩ := gives_ok_iff.1 h
        exact .inl ⟨t, us, body, rfl, hkind, ⟨hmore, hbody⟩, rfl⟩
      · rintro (⟨u, us', body, heq, -, ⟨hmore, hbody⟩, rfl⟩ | ⟨hahead, -⟩)
        · obtain ⟨rfl, rfl⟩ := List.cons.inj heq
          exact ⟨body, rest, hmore, hbody, gives_ok_iff.2 ⟨rfl, rfl⟩⟩
        · simp [isAhead, hkind] at hahead
    · rename_i hkind
      refine ⟨fun h => .inr ⟨by simp [isAhead, hkind], h⟩, fun h => ?_⟩
      rcases h with ⟨u, us', body, heq, hu, -⟩ | ⟨-, h⟩
      · obtain ⟨rfl, -⟩ := List.cons.inj heq
        exact absurd hu hkind
      · exact h

/-! ## Comparisons and operands -/

/-- The comparison ahead is that of the next token. -/
theorem comparator?_cons {t : Token} {op : Comparator} :
    comparator? (t :: ts) = some op ↔ t.kind = .comparison op := by
  obtain ⟨kind, value, position⟩ := t
  cases kind <;> simp [comparator?]

/-- A comparison does not order lists where it is no ordering or no operand is a list. -/
theorem orders_list_eq_false_iff {op : Comparator} {l r : Expr} :
    (op.isOrdering && (isList l || isList r)) = false ↔
      (op.isOrdering = true → isList l = false ∧ isList r = false) := by
  cases op.isOrdering <;> simp

/-- A comparison that is read is an operand, or two operands with a comparison between them that is
no ordering of a list and after which no other comparison stands. -/
theorem comparison_cases (h : Gives (comparison stop ts) e rest) :
    ∃ left us, Gives (operand stop ts) left us ∧
      (comparator? us = none ∧ e = left ∧ rest = us ∨
        ∃ t vs op right, us = t :: vs ∧ t.kind = .comparison op ∧
          Gives (operand stop vs) right rest ∧
          (op.isOrdering = true → isList left = false ∧ isList right = false) ∧
          comparator? rest = none ∧ e = .compare op left right) := by
  rw [comparison, gives_bind_iff] at h
  obtain ⟨left, us, hus, hleft, h⟩ := h
  refine ⟨left, us, ⟨hus, hleft⟩, ?_⟩
  cases us with
  | nil =>
    obtain ⟨rfl, rfl⟩ := gives_ok_iff.1 h
    exact .inl ⟨rfl, rfl, rfl⟩
  | cons t vs =>
    dsimp only at h
    split at h
    · rename_i hnone
      obtain ⟨rfl, rfl⟩ := gives_ok_iff.1 h
      exact .inl ⟨hnone, rfl, rfl⟩
    · rename_i op hop
      obtain ⟨right, more, hmore, hright, h⟩ := gives_bind_iff.1 h
      dsimp only at h
      -- The two faults of a comparison come after its right operand.
      split at h
      · exact absurd h not_gives_error
      · rename_i hlist
        split at h
        · exact absurd h not_gives_error
        · rename_i hnone
          obtain ⟨rfl, rfl⟩ := gives_ok_iff.1 h
          exact .inr ⟨t, vs, op, right, rfl, comparator?_cons.1 hop, ⟨hmore, hright⟩,
            orders_list_eq_false_iff.1 (by simpa using hlist), hnone, rfl⟩

/-- An operand is read as a comparison where no comparison stands after it. -/
theorem gives_comparison_of_operand (h : Gives (operand stop ts) e rest)
    (hnone : comparator? rest = none) : Gives (comparison stop ts) e rest := by
  obtain ⟨hus, hleft⟩ := h
  rw [comparison, gives_bind_iff]
  refine ⟨e, rest, hus, hleft, ?_⟩
  cases rest with
  | nil => exact gives_ok_iff.2 ⟨rfl, rfl⟩
  | cons t vs =>
    dsimp only
    split
    · exact gives_ok_iff.2 ⟨rfl, rfl⟩
    · rename_i hsome
      rw [hnone] at hsome
      cases hsome

/-- Two operands with a comparison between them are read as a comparison where it is no ordering of
a list and no other comparison stands after it. -/
theorem gives_comparison_of_operands {t : Token} {vs : List Token} {op : Comparator}
    {right : Expr} (h : Gives (operand stop ts) left (t :: vs)) (hop : t.kind = .comparison op)
    (h' : Gives (operand stop vs) right rest)
    (hlist : op.isOrdering = true → isList left = false ∧ isList right = false)
    (hnone : comparator? rest = none) :
    Gives (comparison stop ts) (.compare op left right) rest := by
  obtain ⟨hus, hleft⟩ := h
  obtain ⟨hmore, hright⟩ := h'
  rw [comparison, gives_bind_iff]
  refine ⟨left, t :: vs, hus, hleft, ?_⟩
  dsimp only
  split
  · rename_i hop'
    rw [comparator?_cons.2 hop] at hop'
    cases hop'
  · rename_i op' hop'
    obtain rfl := Option.some.inj ((comparator?_cons.2 hop).symm.trans hop')
    refine gives_bind_iff.2 ⟨right, rest, hmore, hright, ?_⟩
    dsimp only
    rw [if_neg (by simpa using orders_list_eq_false_iff.2 hlist)]
    split
    · rename_i hsome
      rw [hnone] at hsome
      cases hsome
    · exact gives_ok_iff.2 ⟨rfl, rfl⟩

/-- A comparison is an operand, or two operands with a comparison between them that is no ordering
of a list and after which no other comparison stands. -/
theorem gives_comparison_iff :
    Gives (comparison stop ts) e rest ↔
      ∃ left us, Gives (operand stop ts) left us ∧
        (comparator? us = none ∧ e = left ∧ rest = us ∨
          ∃ t vs op right, us = t :: vs ∧ t.kind = .comparison op ∧
            Gives (operand stop vs) right rest ∧
            (op.isOrdering = true → isList left = false ∧ isList right = false) ∧
            comparator? rest = none ∧ e = .compare op left right) := by
  refine ⟨comparison_cases, ?_⟩
  rintro ⟨left, us, hleft, ⟨hnone, rfl, rfl⟩ |
    ⟨t, vs, op, right, rfl, hop, hright, hlist, hnone, rfl⟩⟩
  · exact gives_comparison_of_operand hleft hnone
  · exact gives_comparison_of_operands hleft hop hright hlist hnone

/-- There is no operand at the end. -/
theorem not_gives_operand_nil : ¬ Gives (operand stop []) e rest := by
  rw [operand]
  exact not_gives_error

/-- A token that starts another operand is no literal. -/
theorem scalar?_eq_none {t : Token} {k : TokenKind}
    (hk : k ∈ [TokenKind.leftBracket, .identifier, .leftParen]) (ht : t.kind = k) :
    t.scalar? = none := by
  simp only [List.mem_cons, List.not_mem_nil, or_false] at hk
  rcases hk with rfl | rfl | rfl
  · simp [Token.scalar?, ht]
  · simp [Token.scalar?, ht]
  · simp [Token.scalar?, ht]

/-- An operand that is read is a literal in range, a list, a reference, or a disjunction in
parentheses. -/
theorem operand_cases {t : Token} (h : Gives (operand stop (t :: ts)) e rest) :
    (∃ v, t.scalar? = some (.ok v) ∧ e = .literal v ∧ rest = ts) ∨
    (t.kind = .leftBracket ∧ Gives (list stop t.position ts) e rest) ∨
    (t.kind = .identifier ∧ Gives (reference stop t ts) e rest) ∨
    t.kind = .leftParen ∧ ∃ u, Gives (disjunction stop ts) e (u :: rest) ∧
      u.kind = .rightParen := by
  rw [operand] at h
  split at h
  · rename_i v hv
    obtain ⟨rfl, rfl⟩ := gives_ok_iff.1 h
    exact .inl ⟨v, hv, rfl, rfl⟩
  · exact absurd h not_gives_error
  -- No literal: the kinds of tokens are tried in the order of the reader.
  · split at h
    · rename_i hkind
      obtain ⟨e', more, hmore, hlist, h⟩ := gives_bind_iff.1 h
      obtain ⟨rfl, rfl⟩ := gives_ok_iff.1 h
      exact .inr (.inl ⟨hkind, hmore, hlist⟩)
    split at h
    · rename_i hkind
      obtain ⟨e', more, hmore, href, h⟩ := gives_bind_iff.1 h
      obtain ⟨rfl, rfl⟩ := gives_ok_iff.1 h
      exact .inr (.inr (.inl ⟨hkind, hmore, href⟩))
    split at h
    · rename_i hkind
      obtain ⟨e', more, hmore, hbody, h⟩ := gives_bind_iff.1 h
      cases more with
      | nil => exact absurd h not_gives_error
      | cons u more =>
        dsimp only at h
        split at h
        · rename_i hclose
          obtain ⟨rfl, rfl⟩ := gives_ok_iff.1 h
          exact .inr (.inr (.inr ⟨hkind, u, ⟨hmore, hbody⟩, hclose⟩))
        · exact absurd h not_gives_error
    split at h
    · exact absurd h not_gives_error
    · exact absurd h not_gives_error

/-- A list is read as an operand. -/
theorem gives_operand_of_list {t : Token} (hkind : t.kind = .leftBracket)
    (h : Gives (list stop t.position ts) e rest) : Gives (operand stop (t :: ts)) e rest := by
  obtain ⟨hmore, hlist⟩ := h
  rw [operand, scalar?_eq_none (by simp) hkind]
  dsimp only
  rw [if_pos hkind]
  exact gives_bind_iff.2 ⟨e, rest, hmore, hlist, gives_ok_iff.2 ⟨rfl, rfl⟩⟩

/-- A reference is read as an operand. -/
theorem gives_operand_of_reference {t : Token} (hkind : t.kind = .identifier)
    (h : Gives (reference stop t ts) e rest) : Gives (operand stop (t :: ts)) e rest := by
  obtain ⟨hmore, href⟩ := h
  rw [operand, scalar?_eq_none (by simp) hkind]
  dsimp only
  rw [if_neg (by rw [hkind]; decide), if_pos hkind]
  exact gives_bind_iff.2 ⟨e, rest, hmore, href, gives_ok_iff.2 ⟨rfl, rfl⟩⟩

/-- A disjunction in parentheses is read as an operand. -/
theorem gives_operand_of_parens {t u : Token} (hkind : t.kind = .leftParen)
    (h : Gives (disjunction stop ts) e (u :: rest)) (hclose : u.kind = .rightParen) :
    Gives (operand stop (t :: ts)) e rest := by
  obtain ⟨hmore, hbody⟩ := h
  rw [operand, scalar?_eq_none (by simp) hkind]
  dsimp only
  rw [if_neg (by rw [hkind]; decide), if_neg (by rw [hkind]; decide), if_pos hkind]
  refine gives_bind_iff.2 ⟨e, u :: rest, hmore, hbody, ?_⟩
  dsimp only
  rw [if_pos hclose]
  exact gives_ok_iff.2 ⟨rfl, rfl⟩

/-- An operand is a literal in range, a list, a reference, or a disjunction in parentheses. -/
theorem gives_operand_iff {t : Token} :
    Gives (operand stop (t :: ts)) e rest ↔
      (∃ v, t.scalar? = some (.ok v) ∧ e = .literal v ∧ rest = ts) ∨
      (t.kind = .leftBracket ∧ Gives (list stop t.position ts) e rest) ∨
      (t.kind = .identifier ∧ Gives (reference stop t ts) e rest) ∨
      t.kind = .leftParen ∧ ∃ u, Gives (disjunction stop ts) e (u :: rest) ∧
        u.kind = .rightParen := by
  refine ⟨operand_cases, ?_⟩
  rintro (⟨v, hv, rfl, rfl⟩ | ⟨hkind, hlist⟩ | ⟨hkind, href⟩ | ⟨hkind, u, hbody, hclose⟩)
  · rw [operand, hv]
    exact gives_ok_iff.2 ⟨rfl, rfl⟩
  · exact gives_operand_of_list hkind hlist
  · exact gives_operand_of_reference hkind href
  · exact gives_operand_of_parens hkind hbody hclose

/-! ## Choices -/

/-- A block is a literal in braces. -/
theorem gives_block_iff {v : Scalar} :
    Gives (block stop ts) v rest ↔ ∃ t u w, ts = t :: u :: w :: rest ∧ t.kind = .leftBrace ∧
      u.scalar? = some (.ok v) ∧ w.kind = .rightBrace := by
  rw [block, gives_bind_iff]
  constructor
  · rintro ⟨t, us, hus, ht, h⟩
    obtain ⟨w, vs, hvs, hw, h⟩ := gives_bind_iff.1 h
    obtain ⟨u, more, hmore, hu, h⟩ := gives_bind_iff.1 h
    obtain ⟨rfl, rfl⟩ := gives_ok_iff.1 h
    obtain ⟨rfl, hopen⟩ := gives_token_iff.1 ⟨hus, ht⟩
    obtain ⟨u', rfl, hliteral⟩ := gives_scalar_iff.1 ⟨hvs, hw⟩
    obtain ⟨rfl, hclose⟩ := gives_token_iff.1 ⟨hmore, hu⟩
    exact ⟨t, u', u, rfl, hopen, hliteral, hclose⟩
  · rintro ⟨t, u, w, rfl, hopen, hliteral, hclose⟩
    obtain ⟨hus, ht⟩ : Gives (token stop .leftBrace (t :: u :: w :: rest)) t (u :: w :: rest) :=
      gives_token_iff.2 ⟨rfl, hopen⟩
    obtain ⟨hvs, hu⟩ : Gives (scalar stop .branchResult (u :: w :: rest)) v (w :: rest) :=
      gives_scalar_iff.2 ⟨u, rfl, hliteral⟩
    obtain ⟨hmore, hw⟩ : Gives (token stop .rightBrace (w :: rest)) w rest :=
      gives_token_iff.2 ⟨rfl, hclose⟩
    exact ⟨t, u :: w :: rest, hus, ht, gives_bind_iff.2 ⟨v, w :: rest, hvs, hu,
      gives_bind_iff.2 ⟨w, rest, hmore, hw, gives_ok_iff.2 ⟨rfl, rfl⟩⟩⟩⟩

/-- An arm is `if`, a condition and a block. -/
theorem gives_branch_iff {b : Branch} :
    Gives (branch stop ts) b rest ↔ ∃ t us vs, ts = t :: us ∧ t.kind = .ifWord ∧
      Gives (disjunction stop us) b.condition vs ∧ Gives (block stop vs) b.result rest := by
  rw [branch, gives_bind_iff]
  constructor
  · rintro ⟨t, us, hus, ht, h⟩
    obtain ⟨condition, vs, hvs, hcondition, h⟩ := gives_bind_iff.1 h
    obtain ⟨result, more, hmore, hresult, h⟩ := gives_bind_iff.1 h
    obtain ⟨rfl, rfl⟩ := gives_ok_iff.1 h
    obtain ⟨rfl, hif⟩ := gives_token_iff.1 ⟨hus, ht⟩
    exact ⟨t, us, vs, rfl, hif, ⟨hvs, hcondition⟩, hmore, hresult⟩
  · rintro ⟨t, us, vs, rfl, hif, ⟨hvs, hcondition⟩, hmore, hresult⟩
    obtain ⟨hus, ht⟩ : Gives (token stop .ifWord (t :: us)) t us := gives_token_iff.2 ⟨rfl, hif⟩
    exact ⟨t, us, hus, ht, gives_bind_iff.2 ⟨b.condition, vs, hvs, hcondition,
      gives_bind_iff.2 ⟨b.result, rest, hmore, hresult, gives_ok_iff.2 ⟨rfl, rfl⟩⟩⟩⟩

/-- Where no `else` stands after an arm there are no more arms. -/
theorem arms_of_not_else {head : Branch} (h : isAhead .elseWord ts = false) :
    arms stop head ts = .ok (⟨[head], none⟩, ts) := by
  cases ts with
  | nil => rw [arms]
  | cons t us =>
    have hkind : t.kind ≠ .elseWord := by simpa [isAhead] using h
    rw [arms, if_neg hkind]

/-- Where `else` and `if` stand after an arm another arm is read. -/
theorem arms_else_if_eq_ok_iff {head : Branch} {t : Token} {c : Choice} (hkind : t.kind = .elseWord)
    (hif : isAhead .ifWord ts = true) :
    arms stop head (t :: ts) = .ok (c, rest) ↔
      ∃ next vs tail, Gives (branch stop ts) next vs ∧ arms stop next vs = .ok (tail, rest) ∧
        c = ⟨head :: tail.branches, tail.otherwise⟩ := by
  rw [arms, if_pos hkind, if_pos hif, bind_eq_ok_iff]
  constructor
  · rintro ⟨⟨next, vs, hvs⟩, hnext, h⟩
    obtain ⟨⟨tail, more⟩, htail, h⟩ := bind_eq_ok_iff.1 h
    cases h
    exact ⟨next, vs, tail, ⟨hvs, hnext⟩, htail, rfl⟩
  · rintro ⟨next, vs, tail, ⟨hvs, hnext⟩, htail, rfl⟩
    exact ⟨(next, ⟨vs, hvs⟩), hnext, bind_eq_ok_iff.2 ⟨(tail, rest), htail, rfl⟩⟩

/-- Where `else` and no `if` stand after an arm a last block is read. -/
theorem arms_else_eq_ok_iff {head : Branch} {t : Token} {c : Choice} (hkind : t.kind = .elseWord)
    (hif : isAhead .ifWord ts = false) :
    arms stop head (t :: ts) = .ok (c, rest) ↔
      ∃ v, Gives (block stop ts) v rest ∧ c = ⟨[head], some v⟩ := by
  rw [arms, if_pos hkind, hif, if_neg Bool.false_ne_true, bind_eq_ok_iff]
  constructor
  · rintro ⟨⟨v, vs, hvs⟩, hv, h⟩
    cases h
    exact ⟨v, ⟨hvs, hv⟩, rfl⟩
  · rintro ⟨v, ⟨hvs, hv⟩, rfl⟩
    exact ⟨(v, ⟨rest, hvs⟩), hv, rfl⟩

/-- What follows an arm is nothing that starts with `else`, or a last block or one more arm after
`else`. -/
theorem arms_eq_ok_iff {head : Branch} {c : Choice} :
    arms stop head ts = .ok (c, rest) ↔
      (isAhead .elseWord ts = false ∧ c = ⟨[head], none⟩ ∧ rest = ts) ∨
      (∃ t us v, ts = t :: us ∧ t.kind = .elseWord ∧ isAhead .ifWord us = false ∧
        Gives (block stop us) v rest ∧ c = ⟨[head], some v⟩) ∨
      ∃ t us next vs tail, ts = t :: us ∧ t.kind = .elseWord ∧ Gives (branch stop us) next vs ∧
        arms stop next vs = .ok (tail, rest) ∧ c = ⟨head :: tail.branches, tail.otherwise⟩ := by
  constructor
  · intro h
    cases helse : isAhead .elseWord ts with
    | false =>
      rw [arms_of_not_else helse] at h
      cases h
      exact .inl ⟨rfl, rfl, rfl⟩
    | true =>
      obtain ⟨t, us, rfl, hkind⟩ := isAhead_eq_true_iff.1 helse
      cases hif : isAhead .ifWord us with
      | false =>
        obtain ⟨v, hv, rfl⟩ := (arms_else_eq_ok_iff hkind hif).1 h
        exact .inr (.inl ⟨t, us, v, rfl, hkind, hif, hv, rfl⟩)
      | true =>
        obtain ⟨next, vs, tail, hnext, htail, rfl⟩ := (arms_else_if_eq_ok_iff hkind hif).1 h
        exact .inr (.inr ⟨t, us, next, vs, tail, rfl, hkind, hnext, htail, rfl⟩)
  · rintro (⟨helse, rfl, rfl⟩ | ⟨t, us, v, rfl, hkind, hif, hv, rfl⟩ |
      ⟨t, us, next, vs, tail, rfl, hkind, hnext, htail, rfl⟩)
    · exact arms_of_not_else helse
    · exact (arms_else_eq_ok_iff hkind hif).2 ⟨v, hv, rfl⟩
    · -- The next arm starts with `if`.
      obtain ⟨u, ws, xs, rfl, hu, -⟩ := gives_branch_iff.1 hnext
      have hif : isAhead .ifWord (u :: ws) = true := isAhead_eq_true_iff.2 ⟨u, ws, rfl, hu⟩
      exact (arms_else_if_eq_ok_iff hkind hif).2 ⟨next, vs, tail, hnext, htail, rfl⟩

end CheckDoc.Reading
