import CheckDoc.Proofs.Expr.Readers
import Mathlib.Tactic.SplitIfs

/-!
# Where each reader fails

One lemma for each reader of the parser: a fault of it is one of a reader that it calls, on the
tokens that the readers before left, or one of its own, at the tokens that stand ahead. A reader
tries the kinds of tokens in a fixed order, but a fault tells only which reader it comes from.
-/

namespace CheckDoc

namespace Reading

variable {stop origin : Position} {ts : List Token} {fault : SyntaxFault} {left : Expr}

/-- A reading that goes on from another one fails where that one fails, or after what it gives. -/
theorem bind_error_cases {α β : Type} {n : Nat} {r : Except SyntaxFault (α × Remaining n)}
    {f : α × Remaining n → Except SyntaxFault β} (h : r >>= f = .error fault) :
    r = .error fault ∨ ∃ a us hus, r = .ok (a, ⟨us, hus⟩) ∧ f (a, ⟨us, hus⟩) = .error fault := by
  rcases bind_eq_error_iff.1 h with h | ⟨⟨a, us, hus⟩, hr, hf⟩
  · exact .inl h
  · exact .inr ⟨a, us, hus, hr, hf⟩

/-- A reading whose result is only put into another form fails where it fails itself. -/
theorem eq_error_of_bind {α β : Type} {n : Nat} {r : Except SyntaxFault (α × Remaining n)}
    {f : α × Remaining n → Except SyntaxFault β} (h : r >>= f = .error fault)
    (hf : ∀ a, ∃ b, f a = .ok b) : r = .error fault := by
  rcases bind_eq_error_iff.1 h with h | ⟨a, -, hfault⟩
  · exact h
  · obtain ⟨b, hb⟩ := hf a
    cases hb.symm.trans hfault

/-! ## Lists and references -/

/-- A token of another kind is a fault where it stands. -/
theorem token_eq_error {kind : TokenKind} (h : token stop kind ts = .error fault) :
    fault = ⟨.expected kind (got? ts), place stop ts⟩ := by
  cases ts with
  | nil =>
    cases h
    rfl
  | cons t ts =>
    rw [token] at h
    -- A token of the kind is read, so there is another one.
    split_ifs at h
    cases h
    rfl

/-- A number that is not read is a fault where it stands. -/
theorem scalar?_eq_error {t : Token} (h : t.scalar? = some (.error fault)) :
    fault = ⟨.numberRange, t.position⟩ := by
  unfold Token.scalar? at h
  split at h
  · cases h
  · cases h
  · cases h
  · split at h
    · cases h
    · cases h
      rfl
  · split at h
    · cases h
    · cases h
      rfl
  · cases h

/-- A token that is no literal, or a number out of range, is a fault where it stands. -/
theorem scalar_eq_error {cause : Option String → SyntaxCause}
    (h : scalar stop cause ts = .error fault) :
    fault = ⟨cause (got? ts), place stop ts⟩ ∨ fault = ⟨.numberRange, place stop ts⟩ := by
  cases ts with
  | nil =>
    cases h
    exact .inl rfl
  | cons t ts =>
    rw [scalar] at h
    split at h
    · cases h
    · rename_i numberFault hfault
      cases h
      exact .inr (scalar?_eq_error hfault)
    · cases h
      exact .inl rfl

/-- After an item the end is a fault at the opening bracket, and any token but a comma or the closing
bracket is one where it stands. -/
theorem items_eq_error (h : items stop origin ts = .error fault) :
    scalar stop .listItem ts = .error fault ∨
      ∃ v us, Gives (scalar stop .listItem ts) v us ∧
        (us = [] ∧ fault = ⟨.openBracket, origin⟩ ∨
          ∃ t vs, us = t :: vs ∧
            (t.kind = .comma ∧ items stop origin vs = .error fault ∨
              fault = ⟨.listDelimiter t.value, t.position⟩)) := by
  rw [items] at h
  rcases bind_error_cases h with h | ⟨v, us, hus, hv, h⟩
  · exact .inl h
  refine .inr ⟨v, us, ⟨hus, hv⟩, ?_⟩
  cases us with
  | nil =>
    cases h
    exact .inl ⟨rfl, rfl⟩
  | cons t vs =>
    refine .inr ⟨t, vs, rfl, ?_⟩
    dsimp only at h
    split_ifs at h with hclose hcomma
    · cases h
    · exact .inl ⟨hcomma, eq_error_of_bind h fun _ => ⟨_, rfl⟩⟩
    · cases h
      exact .inr rfl

/-- A list fails where its items do. -/
theorem list_eq_error (h : list stop origin ts = .error fault) :
    items stop origin ts = .error fault := by
  cases ts with
  | nil =>
    rw [list] at h
    exact eq_error_of_bind h fun _ => ⟨_, rfl⟩
  | cons t ts =>
    rw [list] at h
    split_ifs at h
    exact eq_error_of_bind h fun _ => ⟨_, rfl⟩

/-- A name that is no scope is a fault where it stands; after a scope a point and a name are due. -/
theorem reference_eq_error {head : Token} (h : reference stop head ts = .error fault) :
    (Scope.ofName? head.value = none ∧
      (fault = ⟨.unknownScope head.value, head.position⟩ ∨
        fault = ⟨.bareIdentifier head.value, head.position⟩)) ∨
    ∃ scope, Scope.ofName? head.value = some scope ∧
      (token stop .dot ts = .error fault ∨
        ∃ d us, Gives (token stop .dot ts) d us ∧ token stop .identifier us = .error fault) := by
  unfold reference at h
  split at h
  · rename_i scope hscope
    refine .inr ⟨scope, hscope, ?_⟩
    rcases bind_error_cases h with h | ⟨d, us, hus, hd, h⟩
    · exact .inl h
    · exact .inr ⟨d, us, ⟨hus, hd⟩, eq_error_of_bind h fun _ => ⟨_, rfl⟩⟩
  · rename_i hnone
    refine .inl ⟨hnone, ?_⟩
    split_ifs at h
    · cases h
      exact .inl rfl
    · cases h
      exact .inr rfl

/-! ## Rows of operands -/

/-- A disjunction fails in its first conjunction or after it. -/
theorem disjunction_eq_error (h : disjunction stop ts = .error fault) :
    conjunction stop ts = .error fault ∨
      ∃ left us, Gives (conjunction stop ts) left us ∧ disjuncts stop left us = .error fault := by
  rw [disjunction] at h
  rcases bind_error_cases h with h | ⟨left, us, hus, hleft, h⟩
  · exact .inl h
  · exact .inr ⟨left, us, ⟨hus, hleft⟩, eq_error_of_bind h fun _ => ⟨_, rfl⟩⟩

/-- The disjuncts after a tree fail after `||` only. -/
theorem disjuncts_eq_error (h : disjuncts stop left ts = .error fault) :
    ∃ t us, ts = t :: us ∧ t.kind = .or ∧
      (conjunction stop us = .error fault ∨
        ∃ right vs, Gives (conjunction stop us) right vs ∧
          disjuncts stop (.or left right) vs = .error fault) := by
  cases ts with
  | nil =>
    rw [disjuncts] at h
    cases h
  | cons t us =>
    rw [disjuncts] at h
    split_ifs at h with hkind
    refine ⟨t, us, rfl, hkind, ?_⟩
    rcases bind_error_cases h with h | ⟨right, vs, hvs, hright, h⟩
    · exact .inl h
    · exact .inr ⟨right, vs, ⟨hvs, hright⟩, eq_error_of_bind h fun _ => ⟨_, rfl⟩⟩

/-- A conjunction fails in its first negation or after it. -/
theorem conjunction_eq_error (h : conjunction stop ts = .error fault) :
    negation stop ts = .error fault ∨
      ∃ left us, Gives (negation stop ts) left us ∧ conjuncts stop left us = .error fault := by
  rw [conjunction] at h
  rcases bind_error_cases h with h | ⟨left, us, hus, hleft, h⟩
  · exact .inl h
  · exact .inr ⟨left, us, ⟨hus, hleft⟩, eq_error_of_bind h fun _ => ⟨_, rfl⟩⟩

/-- The conjuncts after a tree fail after `&&` only. -/
theorem conjuncts_eq_error (h : conjuncts stop left ts = .error fault) :
    ∃ t us, ts = t :: us ∧ t.kind = .and ∧
      (negation stop us = .error fault ∨
        ∃ right vs, Gives (negation stop us) right vs ∧
          conjuncts stop (.and left right) vs = .error fault) := by
  cases ts with
  | nil =>
    rw [conjuncts] at h
    cases h
  | cons t us =>
    rw [conjuncts] at h
    split_ifs at h with hkind
    refine ⟨t, us, rfl, hkind, ?_⟩
    rcases bind_error_cases h with h | ⟨right, vs, hvs, hright, h⟩
    · exact .inl h
    · exact .inr ⟨right, vs, ⟨hvs, hright⟩, eq_error_of_bind h fun _ => ⟨_, rfl⟩⟩

/-- A negation fails in what stands after `!`, or as a comparison. -/
theorem negation_eq_error (h : negation stop ts = .error fault) :
    (∃ t us, ts = t :: us ∧ t.kind = .not ∧ negation stop us = .error fault) ∨
      comparison stop ts = .error fault := by
  cases ts with
  | nil =>
    rw [negation] at h
    exact .inr h
  | cons t us =>
    rw [negation] at h
    split_ifs at h with hkind
    · exact .inl ⟨t, us, rfl, hkind, eq_error_of_bind h fun _ => ⟨_, rfl⟩⟩
    · exact .inr h

/-! ## Comparisons and operands -/

/-- A comparison fails in an operand, at the comparison where it orders a list, or at one more
comparison after the second operand. -/
theorem comparison_eq_error (h : comparison stop ts = .error fault) :
    operand stop ts = .error fault ∨
      ∃ left t us op, Gives (operand stop ts) left (t :: us) ∧ t.kind = .comparison op ∧
        (operand stop us = .error fault ∨
          ∃ right vs, Gives (operand stop us) right vs ∧
            (fault = ⟨.listOrder op, t.position⟩ ∨
              ∃ next, comparator? vs = some next ∧
                fault = ⟨.chained next.symbol, place stop vs⟩)) := by
  rw [comparison] at h
  rcases bind_error_cases h with h | ⟨left, us, hus, hleft, h⟩
  · exact .inl h
  refine .inr ?_
  cases us with
  | nil => cases h
  | cons t us =>
    dsimp only at h
    split at h
    · cases h
    · rename_i op hop
      refine ⟨left, t, us, op, ⟨hus, hleft⟩, comparator?_cons.1 hop, ?_⟩
      rcases bind_error_cases h with h | ⟨right, vs, hvs, hright, h⟩
      · exact .inl h
      refine .inr ⟨right, vs, ⟨hvs, hright⟩, ?_⟩
      dsimp only at h
      -- Both operands are read by now; the ordering of a list is blamed before the chain.
      split at h
      · cases h
        exact .inl rfl
      · split at h
        · rename_i next hnext
          cases h
          exact .inr ⟨next, hnext, rfl⟩
        · cases h

/-- An operand fails at its first token, or in a list, a reference or a disjunction in parentheses,
or where these are not closed. -/
theorem operand_eq_error (h : operand stop ts = .error fault) :
    fault.position = place stop ts ∨
      ∃ t us, ts = t :: us ∧
        (t.kind = .leftBracket ∧ list stop t.position us = .error fault ∨
          t.kind = .identifier ∧ reference stop t us = .error fault ∨
          t.kind = .leftParen ∧ (disjunction stop us = .error fault ∨
            ∃ e vs, Gives (disjunction stop us) e vs ∧ fault = ⟨.openParen, place stop vs⟩)) := by
  cases ts with
  | nil =>
    rw [operand] at h
    cases h
    exact .inl rfl
  | cons t us =>
    rw [operand] at h
    split at h
    · cases h
    · rename_i numberFault hfault
      cases h
      exact .inl (congrArg SyntaxFault.position (scalar?_eq_error hfault))
    -- No literal: the kinds of tokens are tried in the order of the reader.
    · split_ifs at h with hbracket hname hparen hclose
      · have hlist : list stop t.position us = .error fault :=
          eq_error_of_bind h fun _ => ⟨_, rfl⟩
        exact .inr ⟨t, us, rfl, .inl ⟨hbracket, hlist⟩⟩
      · have href : reference stop t us = .error fault := eq_error_of_bind h fun _ => ⟨_, rfl⟩
        exact .inr ⟨t, us, rfl, .inr (.inl ⟨hname, href⟩)⟩
      · refine .inr ⟨t, us, rfl, .inr (.inr ⟨hparen, ?_⟩)⟩
        rcases bind_error_cases h with h | ⟨e, vs, hvs, hbody, h⟩
        · exact .inl h
        refine .inr ⟨e, vs, ⟨hvs, hbody⟩, ?_⟩
        cases vs with
        | nil =>
          cases h
          rfl
        | cons u vs =>
          dsimp only at h
          split_ifs at h
          · cases h
          · cases h
            rfl
      · cases h
        exact .inl rfl
      · cases h
        exact .inl rfl

/-! ## Choices -/

/-- A block fails at its opening brace, at its literal or at its closing brace. -/
theorem block_eq_error (h : block stop ts = .error fault) :
    token stop .leftBrace ts = .error fault ∨
      ∃ t us, Gives (token stop .leftBrace ts) t us ∧
        (scalar stop .branchResult us = .error fault ∨
          ∃ v vs, Gives (scalar stop .branchResult us) v vs ∧
            token stop .rightBrace vs = .error fault) := by
  rw [block] at h
  rcases bind_error_cases h with h | ⟨t, us, hus, ht, h⟩
  · exact .inl h
  refine .inr ⟨t, us, ⟨hus, ht⟩, ?_⟩
  rcases bind_error_cases h with h | ⟨v, vs, hvs, hv, h⟩
  · exact .inl h
  exact .inr ⟨v, vs, ⟨hvs, hv⟩, eq_error_of_bind h fun _ => ⟨_, rfl⟩⟩

/-- An arm fails at `if`, in its condition or in its block. -/
theorem branch_eq_error (h : branch stop ts = .error fault) :
    token stop .ifWord ts = .error fault ∨
      ∃ t us, Gives (token stop .ifWord ts) t us ∧
        (disjunction stop us = .error fault ∨
          ∃ condition vs, Gives (disjunction stop us) condition vs ∧
            block stop vs = .error fault) := by
  rw [branch] at h
  rcases bind_error_cases h with h | ⟨t, us, hus, ht, h⟩
  · exact .inl h
  refine .inr ⟨t, us, ⟨hus, ht⟩, ?_⟩
  rcases bind_error_cases h with h | ⟨condition, vs, hvs, hcondition, h⟩
  · exact .inl h
  exact .inr ⟨condition, vs, ⟨hvs, hcondition⟩, eq_error_of_bind h fun _ => ⟨_, rfl⟩⟩

/-- What follows an arm fails after `else` only: in a last block, in one more arm, or after that. -/
theorem arms_eq_error {head : Branch} (h : arms stop head ts = .error fault) :
    ∃ t us, ts = t :: us ∧ t.kind = .elseWord ∧
      (block stop us = .error fault ∨ branch stop us = .error fault ∨
        ∃ next vs, Gives (branch stop us) next vs ∧ arms stop next vs = .error fault) := by
  cases ts with
  | nil =>
    rw [arms] at h
    cases h
  | cons t us =>
    rw [arms] at h
    split_ifs at h with helse hif
    · refine ⟨t, us, rfl, helse, ?_⟩
      rcases bind_error_cases h with h | ⟨next, vs, hvs, hnext, h⟩
      · exact .inr (.inl h)
      rcases bind_eq_error_iff.1 h with h | ⟨tail, htail, h⟩
      · exact .inr (.inr ⟨next, vs, ⟨hvs, hnext⟩, h⟩)
      · cases h
    · refine ⟨t, us, rfl, helse, ?_⟩
      exact .inl (eq_error_of_bind h fun _ => ⟨_, rfl⟩)

end Reading

/-! ## Texts -/

open Reading

variable {s : TokenStream} {fault : SyntaxFault}

/-- Tokens form no expression where there are none, where no disjunction is read, or where a token
is left over. -/
theorem Expr.ofTokens_eq_error (h : Expr.ofTokens s = .error fault) :
    (s.tokens = [] ∧ fault = ⟨.empty, s.stop⟩) ∨
      disjunction s.stop s.tokens = .error fault ∨
      ∃ e t us, Gives (disjunction s.stop s.tokens) e (t :: us) ∧
        (fault = ⟨.strayParen, t.position⟩ ∨ fault = ⟨.unexpected t.value, t.position⟩) := by
  unfold Expr.ofTokens at h
  by_cases hempty : s.tokens.isEmpty = true
  · rw [if_pos hempty] at h
    cases h
    exact .inl ⟨List.isEmpty_iff.1 hempty, rfl⟩
  · rw [if_neg hempty] at h
    refine .inr ?_
    rcases bind_error_cases h with h | ⟨e, us, hus, hread, h⟩
    · exact .inl h
    refine .inr ?_
    cases us with
    | nil => cases h
    | cons t us =>
      refine ⟨e, t, us, ⟨hus, hread⟩, ?_⟩
      dsimp only at h
      split_ifs at h
      · cases h
        exact .inl rfl
      · cases h
        exact .inr rfl

/-- Tokens form no choice where there are none, where no arm is read, or nothing that can follow it,
or where a token is left over. -/
theorem Choice.ofTokens_eq_error (h : Choice.ofTokens s = .error fault) :
    (s.tokens = [] ∧ fault = ⟨.empty, s.stop⟩) ∨
      branch s.stop s.tokens = .error fault ∨
      ∃ head us, Gives (branch s.stop s.tokens) head us ∧
        (arms s.stop head us = .error fault ∨
          ∃ c t vs, arms s.stop head us = .ok (c, t :: vs) ∧
            fault = ⟨.unexpected t.value, t.position⟩) := by
  unfold Choice.ofTokens at h
  by_cases hempty : s.tokens.isEmpty = true
  · rw [if_pos hempty] at h
    cases h
    exact .inl ⟨List.isEmpty_iff.1 hempty, rfl⟩
  · rw [if_neg hempty] at h
    refine .inr ?_
    rcases bind_error_cases h with h | ⟨head, us, hus, hread, h⟩
    · exact .inl h
    refine .inr ⟨head, us, ⟨hus, hread⟩, ?_⟩
    rcases bind_eq_error_iff.1 h with h | ⟨⟨c, more⟩, harms, h⟩
    · exact .inl h
    refine .inr ?_
    cases more with
    | nil => cases h
    | cons t vs =>
      cases h
      exact ⟨c, t, vs, harms, rfl⟩

end CheckDoc
