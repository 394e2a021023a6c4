import CheckDoc.Expr.Parser
import CheckDoc.Proofs.Expr.Lexing
import Mathlib.Data.List.Forall2

/-!
# The parser and the places of tokens

The readers look at the words of tokens and not at their places: they only copy places into faults.
So from tokens with the same words they read the same and leave the same words, or fail for the same
cause. This is carried by a relation `R` between places. Where it holds of the places of the tokens
on both sides and of the two ends, it holds of the places of the two faults, and with the relation
of standing at one index it says that the faults stand at tokens that correspond
(`ofTokens_of_words_eq`).

The induction is that of soundness: a reader of operands calls the reader of disjunctions on fewer
tokens, and the bound is lifted in `alike_disjunction`.
-/

namespace CheckDoc

/-- Whether two tokens have the same word, and `R` holds of their places. -/
structure Token.Alike (R : Position → Position → Prop) (t u : Token) : Prop where
  /-- They are of the same kind. -/
  kind : t.kind = u.kind
  /-- They stand for the same. -/
  value : t.value = u.value
  /-- Their places are related. -/
  place : R t.position u.position

/-- Whether two lists of tokens have the same words, and `R` holds of their places. -/
abbrev TokensAlike (R : Position → Position → Prop) (ts us : List Token) : Prop :=
  List.Forall₂ (Token.Alike R) ts us

/-- Two outcomes are alike where they are faults for the same cause at related places, or related
results. -/
inductive OutcomesAlike {α β : Type} (R : Position → Position → Prop) (related : α → β → Prop) :
    Except SyntaxFault α → Except SyntaxFault β → Prop
  /-- Both are faults. -/
  | error {f g : SyntaxFault} (hcause : f.cause = g.cause) (hplace : R f.position g.position) :
    OutcomesAlike R related (.error f) (.error g)
  /-- Both are results. -/
  | ok {a : α} {b : β} (h : related a b) : OutcomesAlike R related (.ok a) (.ok b)

/-- Computations that go on alike from others that are alike. -/
theorem OutcomesAlike.bind {α β γ δ : Type} {R : Position → Position → Prop}
    {related : α → β → Prop} {related' : γ → δ → Prop} {x : Except SyntaxFault α}
    {y : Except SyntaxFault β} {f : α → Except SyntaxFault γ} {g : β → Except SyntaxFault δ}
    (h : OutcomesAlike R related x y)
    (hfg : ∀ a b, related a b → OutcomesAlike R related' (f a) (g b)) :
    OutcomesAlike R related' (x >>= f) (y >>= g) := by
  cases h with
  | error hcause hplace => exact .error hcause hplace
  | ok h => exact hfg _ _ h

namespace Reading

/-- Whether two readings give related results and leave the same words, or fail for the same
cause. -/
abbrev Alike {α : Type} {n m : Nat} (R : Position → Position → Prop) (related : α → α → Prop)
    (x : Except SyntaxFault (α × Remaining n)) (y : Except SyntaxFault (α × Remaining m)) : Prop :=
  OutcomesAlike R (fun a b => related a.1 b.1 ∧ TokensAlike R a.2.val b.2.val) x y

variable {R : Position → Position → Prop} {stop stop' : Position} {ts us : List Token}

section

variable {α β γ : Type} {n m : Nat} {related : α → α → Prop} {related' : β → γ → Prop}
  {x : Except SyntaxFault (α × Remaining n)} {y : Except SyntaxFault (α × Remaining m)}
  {f : α × Remaining n → Except SyntaxFault β} {g : α × Remaining m → Except SyntaxFault γ}

/-- Computations that go on alike from readings that are alike. -/
theorem Alike.bind (h : Alike R related x y)
    (hfg : ∀ a b ts us hts hus, related a b → TokensAlike R ts us →
      OutcomesAlike R related' (f (a, ⟨ts, hts⟩)) (g (b, ⟨us, hus⟩))) :
    OutcomesAlike R related' (x >>= f) (y >>= g) :=
  OutcomesAlike.bind h fun ⟨a, ts, hts⟩ ⟨b, us, hus⟩ hab => hfg a b ts us hts hus hab.1 hab.2

/-- Computations that go on alike from readings of the same. -/
theorem Alike.bind_eq (h : Alike R Eq x y)
    (hfg : ∀ a ts us hts hus, TokensAlike R ts us →
      OutcomesAlike R related' (f (a, ⟨ts, hts⟩)) (g (a, ⟨us, hus⟩))) :
    OutcomesAlike R related' (x >>= f) (y >>= g) :=
  h.bind fun a _ ts us hts hus heq hwords => heq ▸ hfg a ts us hts hus hwords

end

/-! ## Lists and references -/

/-- Faults for the same cause at the tokens ahead. -/
theorem alike_faultAt {α β : Type} {related : α → β → Prop} (hstop : R stop stop')
    (h : TokensAlike R ts us) (cause : SyntaxCause) :
    OutcomesAlike R related (faultAt stop ts cause) (faultAt stop' us cause) := by
  cases h with
  | nil => exact .error rfl hstop
  | cons ht _ => exact .error rfl ht.place

/-- A token of a kind is read from the same words. -/
theorem alike_token (hstop : R stop stop') (kind : TokenKind) (h : TokensAlike R ts us) :
    Alike R (Token.Alike R) (token stop kind ts) (token stop' kind us) := by
  cases h with
  | nil => exact alike_faultAt hstop .nil _
  | cons ht h =>
    rw [token, token, ht.kind, ht.value]
    split
    · exact .ok ⟨ht, h⟩
    · exact alike_faultAt hstop (.cons ht h) _

/-- The constant of a literal is that of its word. -/
theorem alike_scalar? {t u : Token} (h : t.Alike R u) :
    Option.Rel (OutcomesAlike R Eq) t.scalar? u.scalar? := by
  unfold Token.scalar?
  rw [h.kind, h.value]
  split
  · exact .some (.ok rfl)
  · exact .some (.ok rfl)
  · exact .some (.ok rfl)
  · split
    · exact .some (.ok rfl)
    · exact .some (.error rfl h.place)
  · split
    · exact .some (.ok rfl)
    · exact .some (.error rfl h.place)
  · exact .none

/-- A literal is read from the same words. -/
theorem alike_scalar (hstop : R stop stop') (cause : Option String → SyntaxCause)
    (h : TokensAlike R ts us) : Alike R Eq (scalar stop cause ts) (scalar stop' cause us) := by
  cases h with
  | nil => exact alike_faultAt hstop .nil _
  | @cons t u ts us ht h =>
    have hscalar := alike_scalar? ht
    rw [scalar, scalar, ht.value]
    generalize t.scalar? = x, u.scalar? = y at hscalar
    cases hscalar with
    | none => exact alike_faultAt hstop (.cons ht h) _
    | some hscalar =>
      cases hscalar with
      | error hcause hplace => exact .error hcause hplace
      | ok heq => exact .ok ⟨heq, h⟩

/-- Items are read from the same words. -/
theorem alike_items {origin origin' : Position} (hstop : R stop stop') (horigin : R origin origin')
    (h : TokensAlike R ts us) : Alike R Eq (items stop origin ts) (items stop' origin' us) := by
  obtain ⟨n, hn⟩ : ∃ n, ts.length = n := ⟨_, rfl⟩
  induction n using Nat.strongRecOn generalizing ts us with
  | _ n ih =>
  rw [items, items]
  refine (alike_scalar hstop .listItem h).bind_eq fun v rest rest' hrest hrest' hwords => ?_
  cases hwords with
  | nil =>
    -- The fault stands at the opening bracket, which is why its place is a parameter.
    exact .error rfl horigin
  | @cons t u vs ws ht hwords =>
    dsimp only
    rw [ht.kind, ht.value]
    split
    · exact .ok ⟨rfl, hwords⟩
    split
    · have hshorter : vs.length < n := by
        rw [List.length_cons] at hrest
        omega
      exact (ih _ hshorter hwords rfl).bind_eq fun vs _ _ _ _ hmore => .ok ⟨rfl, hmore⟩
    · exact .error rfl ht.place

/-- A list is read from the same words. -/
theorem alike_list {origin origin' : Position} (hstop : R stop stop') (horigin : R origin origin')
    (h : TokensAlike R ts us) : Alike R Eq (list stop origin ts) (list stop' origin' us) := by
  have hitems := alike_items hstop horigin h
  cases h with
  | nil =>
    rw [list, list]
    exact hitems.bind_eq fun vs _ _ _ _ hmore => .ok ⟨rfl, hmore⟩
  | cons ht h =>
    rw [list, list, ht.kind]
    split
    · exact .ok ⟨rfl, h⟩
    · exact hitems.bind_eq fun vs _ _ _ _ hmore => .ok ⟨rfl, hmore⟩

/-- The same kind is ahead. -/
theorem isAhead_eq (kind : TokenKind) (h : TokensAlike R ts us) :
    isAhead kind ts = isAhead kind us := by
  cases h with
  | nil => rfl
  | cons ht _ => simp only [isAhead, List.head?_cons, Option.any_some, ht.kind]

/-- A reference is read from the same words. -/
theorem alike_reference {head head' : Token} (hstop : R stop stop') (hhead : head.Alike R head')
    (h : TokensAlike R ts us) : Alike R Eq (reference stop head ts) (reference stop' head' us) := by
  have hdot : (ts.head?.any fun t => t.kind = .dot) = us.head?.any fun t => t.kind = .dot :=
    isAhead_eq .dot h
  unfold reference
  rw [hhead.value]
  split
  · refine (alike_token hstop .dot h).bind fun _ _ rest rest' _ _ _ hwords => ?_
    refine (alike_token hstop .identifier hwords).bind fun name name' _ _ _ _ hname hmore => ?_
    dsimp only
    rw [hname.value]
    exact .ok ⟨rfl, hmore⟩
  · rw [hdot]
    split
    · exact .error rfl hhead.place
    · exact .error rfl hhead.place

/-! ## Expressions -/

/-- The same comparison is ahead. -/
theorem comparator?_eq (h : TokensAlike R ts us) : comparator? ts = comparator? us := by
  cases h with
  | nil => rfl
  | @cons t u ts us ht _ =>
    obtain ⟨kind, value, position⟩ := t
    obtain ⟨kind', value', position'⟩ := u
    obtain rfl : kind = kind' := ht.kind
    cases kind <;> rfl

/-- Whether disjunctions are read alike from fewer than `n` tokens. -/
def AlikeBelow (R : Position → Position → Prop) (stop stop' : Position) (n : Nat) : Prop :=
  ∀ ts us, ts.length < n → TokensAlike R ts us →
    Alike R Eq (disjunction stop ts) (disjunction stop' us)

/-- What is alike below a bound is alike below a smaller one. -/
theorem AlikeBelow.mono {m n : Nat} (h : AlikeBelow R stop stop' n) (hle : m ≤ n) :
    AlikeBelow R stop stop' m :=
  fun ts us hts => h ts us (by omega)

/-- An operand is read from the same words. -/
theorem alike_operand (hstop : R stop stop') (hbelow : AlikeBelow R stop stop' ts.length)
    (h : TokensAlike R ts us) : Alike R Eq (operand stop ts) (operand stop' us) := by
  cases h with
  | nil =>
    rw [operand, operand]
    exact alike_faultAt hstop .nil _
  | @cons t u ts us ht h =>
    have hall : TokensAlike R (t :: ts) (u :: us) := .cons ht h
    have hscalar := alike_scalar? ht
    rw [operand, operand, ht.kind, ht.value]
    generalize t.scalar? = x, u.scalar? = y at hscalar
    cases hscalar with
    | some hscalar =>
      cases hscalar with
      | error hcause hplace => exact .error hcause hplace
      | ok heq => exact .ok ⟨congrArg Expr.literal heq, h⟩
    | none =>
      -- The kinds of tokens are tried in the order of the reader.
      dsimp only
      split
      · exact (alike_list hstop ht.place h).bind_eq fun e _ _ _ _ hmore => .ok ⟨rfl, hmore⟩
      split
      · exact (alike_reference hstop ht h).bind_eq fun e _ _ _ _ hmore => .ok ⟨rfl, hmore⟩
      split
      · -- The loosest reader is called again inside parentheses, on fewer tokens.
        refine (hbelow ts us (by simp) h).bind_eq fun e more more' hmore hmore' hwords => ?_
        cases hwords with
        | nil => exact alike_faultAt hstop .nil _
        | cons ht' hwords =>
          dsimp only
          rw [ht'.kind]
          split
          · exact .ok ⟨rfl, hwords⟩
          · exact alike_faultAt hstop (.cons ht' hwords) _
      split
      · exact alike_faultAt hstop hall _
      · exact alike_faultAt hstop hall _

/-- A comparison is read from the same words. -/
theorem alike_comparison (hstop : R stop stop') (hbelow : AlikeBelow R stop stop' ts.length)
    (h : TokensAlike R ts us) : Alike R Eq (comparison stop ts) (comparison stop' us) := by
  rw [comparison, comparison]
  refine (alike_operand hstop hbelow h).bind_eq fun left rest rest' hrest hrest' hwords => ?_
  have hop := comparator?_eq hwords
  cases hwords with
  | nil => exact .ok ⟨rfl, .nil⟩
  | @cons t u vs ws ht hwords =>
    dsimp only
    rw [hop]
    split
    · exact .ok ⟨rfl, .cons ht hwords⟩
    · have hshorter : vs.length ≤ ts.length := by
        rw [List.length_cons] at hrest
        omega
      have hright := alike_operand hstop (hbelow.mono hshorter) hwords
      refine hright.bind_eq fun right more more' _ _ hmore => ?_
      dsimp only
      rw [comparator?_eq hmore]
      -- Lists that are ordered are a fault at the comparison, a chain is one at the token behind.
      split
      · exact .error rfl ht.place
      split
      · exact alike_faultAt hstop hmore _
      · exact .ok ⟨rfl, hmore⟩

/-- A negation is read from the same words. -/
theorem alike_negation (hstop : R stop stop') (hbelow : AlikeBelow R stop stop' ts.length)
    (h : TokensAlike R ts us) : Alike R Eq (negation stop ts) (negation stop' us) := by
  induction h with
  | nil =>
    rw [negation, negation]
    exact alike_comparison hstop hbelow .nil
  | @cons t u ts us ht h ih =>
    rw [negation, negation, ht.kind]
    split
    · exact (ih (hbelow.mono (by simp))).bind_eq fun e _ _ _ _ hmore => .ok ⟨rfl, hmore⟩
    · exact alike_comparison hstop hbelow (.cons ht h)

/-- Conjuncts are read from the same words. -/
theorem alike_conjuncts (hstop : R stop stop') (hbelow : AlikeBelow R stop stop' ts.length)
    (left : Expr) (h : TokensAlike R ts us) :
    Alike R Eq (conjuncts stop left ts) (conjuncts stop' left us) := by
  obtain ⟨n, hn⟩ : ∃ n, ts.length = n := ⟨_, rfl⟩
  induction n using Nat.strongRecOn generalizing ts us left with
  | _ n ih =>
  cases h with
  | nil =>
    rw [conjuncts, conjuncts]
    exact .ok ⟨rfl, .nil⟩
  | @cons t u ts us ht h =>
    rw [conjuncts, conjuncts, ht.kind]
    split
    · have hright := alike_negation hstop (hbelow.mono (by simp)) h
      refine hright.bind_eq fun right vs ws hvs hws hwords => ?_
      have hshorter : vs.length < n := by
        rw [List.length_cons] at hn
        omega
      have hmore := ih _ hshorter (hbelow.mono (by omega)) (.and left right) hwords rfl
      exact hmore.bind_eq fun e _ _ _ _ hmore => .ok ⟨rfl, hmore⟩
    · exact .ok ⟨rfl, .cons ht h⟩

/-- A conjunction is read from the same words. -/
theorem alike_conjunction (hstop : R stop stop') (hbelow : AlikeBelow R stop stop' ts.length)
    (h : TokensAlike R ts us) : Alike R Eq (conjunction stop ts) (conjunction stop' us) := by
  rw [conjunction, conjunction]
  refine (alike_negation hstop hbelow h).bind_eq fun left vs ws hvs hws hwords => ?_
  have hmore := alike_conjuncts hstop (hbelow.mono (by omega)) left hwords
  exact hmore.bind_eq fun e _ _ _ _ hmore => .ok ⟨rfl, hmore⟩

/-- Disjuncts are read from the same words. -/
theorem alike_disjuncts (hstop : R stop stop') (hbelow : AlikeBelow R stop stop' ts.length)
    (left : Expr) (h : TokensAlike R ts us) :
    Alike R Eq (disjuncts stop left ts) (disjuncts stop' left us) := by
  obtain ⟨n, hn⟩ : ∃ n, ts.length = n := ⟨_, rfl⟩
  induction n using Nat.strongRecOn generalizing ts us left with
  | _ n ih =>
  cases h with
  | nil =>
    rw [disjuncts, disjuncts]
    exact .ok ⟨rfl, .nil⟩
  | @cons t u ts us ht h =>
    rw [disjuncts, disjuncts, ht.kind]
    split
    · have hright := alike_conjunction hstop (hbelow.mono (by simp)) h
      refine hright.bind_eq fun right vs ws hvs hws hwords => ?_
      have hshorter : vs.length < n := by
        rw [List.length_cons] at hn
        omega
      have hmore := ih _ hshorter (hbelow.mono (by omega)) (.or left right) hwords rfl
      exact hmore.bind_eq fun e _ _ _ _ hmore => .ok ⟨rfl, hmore⟩
    · exact .ok ⟨rfl, .cons ht h⟩

/-- A disjunction is read from the same words. -/
theorem alike_disjunction (hstop : R stop stop') (h : TokensAlike R ts us) :
    Alike R Eq (disjunction stop ts) (disjunction stop' us) := by
  obtain ⟨n, hn⟩ : ∃ n, ts.length = n := ⟨_, rfl⟩
  induction n using Nat.strongRecOn generalizing ts us with
  | _ n ih =>
  -- The readers below this one are alike under the bound, so it is lifted here and nowhere else.
  have hbelow : AlikeBelow R stop stop' ts.length := fun vs ws hvs hwords =>
    ih vs.length (by omega) hwords rfl
  rw [disjunction, disjunction]
  refine (alike_conjunction hstop hbelow h).bind_eq fun left vs ws hvs hws hwords => ?_
  have hmore := alike_disjuncts hstop (hbelow.mono (by omega)) left hwords
  exact hmore.bind_eq fun e _ _ _ _ hmore => .ok ⟨rfl, hmore⟩

/-! ## Choices -/

/-- A block is read from the same words. -/
theorem alike_block (hstop : R stop stop') (h : TokensAlike R ts us) :
    Alike R Eq (block stop ts) (block stop' us) := by
  refine (alike_token hstop .leftBrace h).bind fun _ _ _ _ _ _ _ hwords => ?_
  refine (alike_scalar hstop .branchResult hwords).bind_eq fun v _ _ _ _ hwords => ?_
  exact (alike_token hstop .rightBrace hwords).bind fun _ _ _ _ _ _ _ hmore => .ok ⟨rfl, hmore⟩

/-- An arm is read from the same words. -/
theorem alike_branch (hstop : R stop stop') (h : TokensAlike R ts us) :
    Alike R Eq (branch stop ts) (branch stop' us) := by
  refine (alike_token hstop .ifWord h).bind fun _ _ _ _ _ _ _ hwords => ?_
  refine (alike_disjunction hstop hwords).bind_eq fun condition _ _ _ _ hwords => ?_
  exact (alike_block hstop hwords).bind_eq fun result _ _ _ _ hmore => .ok ⟨rfl, hmore⟩

/-- The arms after an arm are read from the same words. -/
theorem alike_arms (hstop : R stop stop') (head : Branch) (h : TokensAlike R ts us) :
    OutcomesAlike R (fun a b => a.1 = b.1 ∧ TokensAlike R a.2 b.2) (arms stop head ts)
      (arms stop' head us) := by
  obtain ⟨n, hn⟩ : ∃ n, ts.length = n := ⟨_, rfl⟩
  induction n using Nat.strongRecOn generalizing ts us head with
  | _ n ih =>
  cases h with
  | nil =>
    rw [arms, arms]
    exact .ok ⟨rfl, .nil⟩
  | @cons t u ts us ht h =>
    rw [arms, arms, ht.kind, isAhead_eq .ifWord h]
    split
    · split
      · refine (alike_branch hstop h).bind_eq fun next vs ws hvs hws hwords => ?_
        have hshorter : vs.length < n := by
          rw [List.length_cons] at hn
          omega
        refine (ih _ hshorter next hwords rfl).bind fun c c' hmore => ?_
        obtain ⟨c, more⟩ := c
        obtain ⟨rfl, hmore⟩ := hmore
        exact .ok ⟨rfl, hmore⟩
      · exact (alike_block hstop h).bind_eq fun v _ _ _ _ hmore => .ok ⟨rfl, hmore⟩
    · exact .ok ⟨rfl, .cons ht h⟩

end Reading

/-! ## Whole texts -/

open Reading

variable {R : Position → Position → Prop} {s s' : TokenStream}

/-- The same tokens form the same expression, or none for the same cause. -/
theorem Expr.ofTokens_alike (hstop : R s.stop s'.stop) (h : TokensAlike R s.tokens s'.tokens) :
    OutcomesAlike R Eq (Expr.ofTokens s) (Expr.ofTokens s') := by
  have hread := alike_disjunction hstop h
  unfold Expr.ofTokens
  -- Whether there is a token at all is looked at first.
  obtain ⟨ts, stop⟩ := s
  obtain ⟨us, stop'⟩ := s'
  cases h with
  | nil => exact .error rfl hstop
  | cons ht h =>
    refine hread.bind_eq fun e rest rest' _ _ hwords => ?_
    cases hwords with
    | nil => exact .ok rfl
    | cons ht _ =>
      dsimp only
      rw [ht.kind, ht.value]
      split
      · exact .error rfl ht.place
      · exact .error rfl ht.place

/-- The same tokens form the same choice, or none for the same cause. -/
theorem Choice.ofTokens_alike (hstop : R s.stop s'.stop) (h : TokensAlike R s.tokens s'.tokens) :
    OutcomesAlike R Eq (Choice.ofTokens s) (Choice.ofTokens s') := by
  have hread := alike_branch hstop h
  unfold Choice.ofTokens
  obtain ⟨ts, stop⟩ := s
  obtain ⟨us, stop'⟩ := s'
  cases h with
  | nil => exact .error rfl hstop
  | cons ht h =>
    refine hread.bind_eq fun head rest rest' _ _ hwords => ?_
    refine (alike_arms hstop head hwords).bind fun c c' hmore => ?_
    obtain ⟨c, more⟩ := c
    obtain ⟨c', more'⟩ := c'
    obtain ⟨heq, hwords⟩ := hmore
    cases hwords with
    | nil => exact .ok heq
    | cons ht _ =>
      dsimp only
      rw [ht.value]
      exact .error rfl ht.place

/-- The places of the tokens of a text, and its end. -/
def TokenStream.places (s : TokenStream) : List Position := s.tokens.map Token.position ++ [s.stop]

/-- Whether two places stand at one index among the places of two texts. -/
def TokenStream.Corresponds (s s' : TokenStream) (p p' : Position) : Prop :=
  (p, p') ∈ s.places.zip s'.places

/-- Tokens with the same words are alike, and their places correspond; so do the ends. -/
theorem TokenStream.alike_of_words_eq (h : s.tokens.map Token.word = s'.tokens.map Token.word) :
    s.Corresponds s' s.stop s'.stop ∧ TokensAlike (s.Corresponds s') s.tokens s'.tokens := by
  have hsame : List.Forall₂ Eq (s.tokens.map Token.word) (s'.tokens.map Token.word) := by
    rw [h]
    exact List.forall₂_refl _
  have hwords : List.Forall₂ (fun t u => t.word = u.word) s.tokens s'.tokens :=
    List.forall₂_map_right_iff.1 (List.forall₂_map_left_iff.1 hsame)
  have hlength := hwords.length_eq
  have hzip : s.places.zip s'.places =
      (s.tokens.zip s'.tokens).map (Prod.map Token.position Token.position) ++
        [(s.stop, s'.stop)] := by
    rw [places, places, List.zip_append (by simpa only [List.length_map] using hlength),
      List.zip_map]
    rfl
  refine ⟨?_, List.forall₂_iff_zip.2 ⟨hlength, fun {t u} htu => ?_⟩⟩
  · rw [Corresponds, hzip]
    exact List.mem_append_right _ (List.mem_singleton_self _)
  · have hplace : s.Corresponds s' t.position u.position := by
      rw [Corresponds, hzip]
      exact List.mem_append_left _ (List.mem_map_of_mem htu)
    have hword := List.forall₂_zip hwords htu
    exact ⟨congrArg Prod.fst hword, congrArg Prod.snd hword, hplace⟩

/-- Tokens with the same words form the same, or nothing for the same cause, and the faults stand
at places that correspond. -/
theorem TokenStream.ofTokens_of_words_eq (h : s.tokens.map Token.word = s'.tokens.map Token.word) :
    OutcomesAlike (s.Corresponds s') Eq (Expr.ofTokens s) (Expr.ofTokens s') ∧
      OutcomesAlike (s.Corresponds s') Eq (Choice.ofTokens s) (Choice.ofTokens s') := by
  obtain ⟨hstop, hwords⟩ := alike_of_words_eq h
  exact ⟨Expr.ofTokens_alike hstop hwords, Choice.ofTokens_alike hstop hwords⟩

end CheckDoc
