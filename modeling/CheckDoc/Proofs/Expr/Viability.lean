import CheckDoc.Proofs.Expr.Faults
import CheckDoc.Proofs.Expr.LongestMatch
import CheckDoc.Proofs.Expr.Parsing

/-!
# No fault stands too late

Some tokens are viable where they can go on to a sentence of the grammar (`Viable`). A fault of a
reader stands right after viable tokens (`Blamed`): what was read before is a phrase, by the
soundness of the readers, and a rule that puts a phrase after other tokens makes viable what is
viable for the phrase (`Blamed.after`). The readers of expressions call each other on fewer tokens,
so this is shown below a bound first. In a text, then, the tokens in front of a fault are viable,
and no fault comes after the first token that makes the text wrong (`parse_eq_error_blames`).
-/

namespace CheckDoc

section

variable {α β : Type} {R : List Token → α → Prop} {S : List Token → β → Prop}
  {stop : Position} {ts us : List Token} {fault : SyntaxFault}

/-- Whether some tokens can go on to tokens that stand for something. -/
def Viable (R : List Token → α → Prop) (ts : List Token) : Prop := ∃ more a, R (ts ++ more) a

/-- What stands for something is viable. -/
theorem viable_of {a : α} (h : R ts a) : Viable R ts :=
  ⟨[], a, by rwa [List.append_nil]⟩

/-- A part in front of viable tokens is viable. -/
theorem Viable.of_append (h : Viable R (ts ++ us)) : Viable R ts := by
  obtain ⟨more, a, hwhole⟩ := h
  rw [List.append_assoc] at hwhole
  exact ⟨us ++ more, a, hwhole⟩

/-- Where all that stands for something is viable after some tokens, so is what is viable. -/
theorem Viable.after (h : Viable R ts) (hlead : ∀ ws a, R ws a → Viable S (us ++ ws)) :
    Viable S (us ++ ts) := by
  obtain ⟨more, a, hwhole⟩ := h
  have hviable := hlead _ a hwhole
  rw [← List.append_assoc] at hviable
  exact hviable.of_append

/-- Whether the tokens in front of a fault are viable. -/
def Blamed (R : List Token → α → Prop) (stop : Position) (ts : List Token) (fault : SyntaxFault) :
    Prop :=
  ∃ before after, ts = before ++ after ∧ Viable R before ∧
    fault.position = Reading.place stop after

/-- A fault at the token ahead, after viable tokens. -/
theorem blamed_of_place (h : Viable R us) (hplace : fault.position = Reading.place stop ts) :
    Blamed R stop (us ++ ts) fault :=
  ⟨us, ts, rfl, h, hplace⟩

/-- A fault in what follows some tokens, where all that stands for something is viable after them. -/
theorem Blamed.after (h : Blamed R stop ts fault)
    (hlead : ∀ ws a, R ws a → Viable S (us ++ ws)) : Blamed S stop (us ++ ts) fault := by
  obtain ⟨front, back, rfl, hviable, hplace⟩ := h
  exact ⟨us ++ front, back, (List.append_assoc _ _ _).symm, hviable.after hlead, hplace⟩

/-- A fault in the same tokens, where all that stands for something is viable. -/
theorem Blamed.imp (h : Blamed R stop ts fault) (hlead : ∀ ws a, R ws a → Viable S ws) :
    Blamed S stop ts fault := by
  have hafter : Blamed S stop ([] ++ ts) fault := h.after hlead
  exact hafter

/-- A fault in what follows a token, where all that stands for something is viable after it. -/
theorem Blamed.cons {t : Token} (h : Blamed R stop ts fault)
    (hlead : ∀ ws a, R ws a → Viable S (t :: ws)) : Blamed S stop (t :: ts) fault := by
  have hafter : Blamed S stop ([t] ++ ts) fault := h.after hlead
  exact hafter

end

/-! ## Tokens that go on -/

/-- A token whose kind tells its text. -/
def Token.mark (k : TokenKind) : Token := ⟨k, k.text?.getD "", .start⟩

/-- Items can start. -/
theorem viable_items : Viable Items [] :=
  ⟨[.mark .trueWord], [.bool true], .one rfl⟩

/-- The word `true` in braces is a block. -/
theorem block_true : Block [.mark .leftBrace, .mark .trueWord, .mark .rightBrace] (.bool true) :=
  .mk rfl rfl rfl

/-- A block can start. -/
theorem viable_block : Viable Block [] :=
  ⟨_, _, block_true⟩

/-- After a brace and a literal a block can end. -/
theorem viable_block_of_constant {t u : Token} {v : Scalar} (hopen : t.kind = .leftBrace)
    (hliteral : u.constant? = some v) : Viable Block [t, u] :=
  ⟨[.mark .rightBrace], v, .mk hopen hliteral rfl⟩

/-- After its last item a list can be closed. -/
theorem viable_list {t : Token} (hopen : t.kind = .leftBracket) {ws : List Token} {vs : List Scalar}
    (items : Items ws vs) : Viable (Phrase.Derives .operand) (t :: ws) :=
  ⟨[.mark .rightBracket], .list vs, .list hopen items rfl⟩

namespace Phrase

variable {ws : List Token} {e : Expr}

/-- An operand can start. -/
theorem viable_operand : Viable (Derives .operand) [] :=
  ⟨[.mark .trueWord], .literal (.bool true), .literal rfl⟩

/-- A reference can go on after its scope and after its point. -/
theorem viable_reference {t d : Token} {scope : Scope} (hhead : t.kind = .identifier)
    (hscope : Scope.ofName? t.value = some scope) (hdot : d.kind = .dot) :
    Viable (Derives .operand) [t, d] :=
  ⟨[t], .reference ⟨scope, t.value⟩, .reference hhead hscope hdot hhead⟩

/-- Parentheses can be closed. -/
theorem Derives.viable_parens {t : Token} (h : Derives .disjunction ws e)
    (hopen : t.kind = .leftParen) : Viable (Derives .operand) (t :: ws) :=
  ⟨[.mark .rightParen], e, .parens hopen h rfl⟩

/-- A negation can be all of a conjunction. -/
theorem Derives.viable_conjunction (h : Derives .negation ws e) :
    Viable (Derives .conjunction) ws :=
  ⟨[], e, .conjunction h .conjunctsNil⟩

/-- A conjunction can be all of a disjunction. -/
theorem Derives.viable_disjunction (h : Derives .conjunction ws e) :
    Viable (Derives .disjunction) ws :=
  ⟨[], e, .disjunction h .disjunctsNil⟩

/-- The word `true` is a disjunction. -/
theorem derives_true : Derives .disjunction [.mark .trueWord] (.literal (.bool true)) := by
  have hone : Derives .conjunction ([.mark .trueWord] ++ []) (.literal (.bool true)) :=
    .conjunction (.negation (.comparison (.literal rfl))) .conjunctsNil
  have hrow : Derives .disjunction ([.mark .trueWord] ++ [] ++ []) (.literal (.bool true)) :=
    .disjunction hone .disjunctsNil
  exact hrow

/-- A disjunction can start. -/
theorem viable_disjunction_nil : Viable (Derives .disjunction) [] :=
  ⟨_, _, derives_true⟩

end Phrase

namespace Phrase.Derives

variable {ws : List Token} {e : Expr}

/-- After `if` and a condition an arm can end. -/
theorem viable_arm {t : Token} (h : Derives .disjunction ws e) (hif : t.kind = .ifWord) :
    Viable Arm (t :: ws) :=
  ⟨_, ⟨e, .bool true⟩, .mk hif h block_true⟩

end Phrase.Derives

/-- An arm can start. -/
theorem viable_arm : Viable Arm [] :=
  ⟨_, _, .mk (rfl : (Token.mark .ifWord).kind = .ifWord) Phrase.derives_true block_true⟩

/-- An arm can be all of a choice. -/
theorem Arm.viable_choice {ws : List Token} {b : Branch} (h : Arm ws b) :
    Viable Choice.Derives ws :=
  ⟨[], ⟨[b], none⟩, .mk h .nil⟩

/-- A choice can start. -/
theorem viable_choice : Viable Choice.Derives [] := by
  obtain ⟨ws, b, harm⟩ := viable_arm
  have hwhole : Viable Choice.Derives ([] ++ ws) := harm.viable_choice
  exact hwhole.of_append

/-! ## Faults of expressions -/

namespace Reading

open Phrase (Derives)

variable {stop origin : Position} {ts rest : List Token} {e left : Expr} {fault : SyntaxFault}

/-- A literal fails where it is due. -/
theorem position_of_scalar_eq_error {cause : Option String → SyntaxCause}
    (h : scalar stop cause ts = .error fault) : fault.position = place stop ts := by
  rcases scalar_eq_error h with rfl | rfl
  · rfl
  · rfl

/-- A token fails where it is due. -/
theorem position_of_token_eq_error {kind : TokenKind} (h : token stop kind ts = .error fault) :
    fault.position = place stop ts := by
  rw [token_eq_error h]

/-- Items fail after viable ones, or at the opening bracket. -/
theorem blamed_items (h : items stop origin ts = .error fault) :
    fault.position = origin ∨ Blamed Items stop ts fault := by
  induction hn : ts.length using Nat.strongRecOn generalizing ts with
  | _ n ih =>
  rcases items_eq_error h with hfault | ⟨v, us, hv, hmore⟩
  · exact .inr (blamed_of_place viable_items (position_of_scalar_eq_error hfault))
  obtain ⟨t, rfl, ht⟩ := gives_scalar_iff.1 hv
  obtain ⟨hliteral, -⟩ := Token.scalar?_eq_ok_iff.1 ht
  rcases hmore with ⟨-, rfl⟩ | ⟨u, vs, rfl, ⟨hcomma, hfault⟩ | rfl⟩
  · exact .inl rfl
  · have hshorter : vs.length < n := by
      rw [← hn]
      simp only [List.length_cons]
      omega
    -- Only an end of the text is blamed on the bracket, wherever the items end.
    rcases ih _ hshorter hfault rfl with hplace | hblamed
    · exact .inl hplace
    · have hwhole : Blamed Items stop ([t, u] ++ vs) fault := hblamed.after fun ws xs items =>
        viable_of (.cons hliteral hcomma items)
      exact .inr hwhole
  · have hone : Viable Items [t] := viable_of (.one hliteral)
    exact .inr (blamed_of_place hone rfl)

/-- Whether every disjunction that fails on fewer than `n` tokens fails after viable ones. -/
def BlamedBelow (stop : Position) (n : Nat) : Prop :=
  ∀ ts, ts.length < n → ∀ fault, disjunction stop ts = .error fault →
    Blamed (Derives .disjunction) stop ts fault

/-- What is blamed below a bound is blamed below a smaller one. -/
theorem BlamedBelow.mono {m n : Nat} (h : BlamedBelow stop n) (hle : m ≤ n) :
    BlamedBelow stop m :=
  fun ts hts => h ts (by omega)

/-- Every disjunction that is read is accepted, whatever the bound. -/
theorem soundBelow (stop : Position) (n : Nat) : SoundBelow stop n := fun _ _ _ _ h =>
  sound_disjunction h

/-- References fail after viable tokens. -/
theorem blamed_reference {t : Token} (hhead : t.kind = .identifier)
    (h : reference stop t ts = .error fault) :
    Blamed (Derives .operand) stop (t :: ts) fault := by
  rcases reference_eq_error h with ⟨-, rfl | rfl⟩ |
    ⟨scope, hscope, hfault | ⟨d, us, hd, hfault⟩⟩
  · exact blamed_of_place Phrase.viable_operand rfl
  · exact blamed_of_place Phrase.viable_operand rfl
  · have hviable : Viable (Derives .operand) ([t] ++ [.mark .dot]) :=
      Phrase.viable_reference hhead hscope rfl
    have hblamed : Blamed (Derives .operand) stop ([t] ++ ts) fault :=
      blamed_of_place hviable.of_append (position_of_token_eq_error hfault)
    exact hblamed
  · obtain ⟨rfl, hdot⟩ := gives_token_iff.1 hd
    have hblamed : Blamed (Derives .operand) stop ([t, d] ++ us) fault :=
      blamed_of_place (Phrase.viable_reference hhead hscope hdot) (position_of_token_eq_error hfault)
    exact hblamed

/-- Lists fail after viable tokens. -/
theorem blamed_list {t : Token} (hopen : t.kind = .leftBracket)
    (h : list stop t.position ts = .error fault) :
    Blamed (Derives .operand) stop (t :: ts) fault := by
  rcases blamed_items (list_eq_error h) with hplace | hblamed
  · exact blamed_of_place Phrase.viable_operand hplace
  · exact hblamed.cons fun ws vs items => viable_list hopen items

/-- Operands fail after viable tokens. -/
theorem blamed_operand (hbelow : BlamedBelow stop ts.length)
    (h : operand stop ts = .error fault) : Blamed (Derives .operand) stop ts fault := by
  rcases operand_eq_error h with hplace | ⟨t, us, rfl, ⟨hopen, hfault⟩ | ⟨hhead, hfault⟩ |
    ⟨hopen, hparens⟩⟩
  · exact blamed_of_place Phrase.viable_operand hplace
  · exact blamed_list hopen hfault
  · exact blamed_reference hhead hfault
  · -- The disjunction is read from fewer tokens, which is what the bound is for.
    rcases hparens with hfault | ⟨e, vs, hbody, rfl⟩
    · have hblamed := hbelow us (by simp) fault hfault
      exact hblamed.cons fun ws e body => body.viable_parens hopen
    · obtain ⟨ws, rfl, hderives, -, -⟩ := sound_disjunction hbody
      have hblamed : Blamed (Derives .operand) stop (t :: ws ++ vs) ⟨.openParen, place stop vs⟩ :=
        blamed_of_place (hderives.viable_parens hopen) rfl
      exact hblamed

/-- Comparisons fail after viable tokens. -/
theorem blamed_comparison (hbelow : BlamedBelow stop ts.length)
    (h : comparison stop ts = .error fault) : Blamed (Derives .comparison) stop ts fault := by
  rcases comparison_eq_error h with hfault | ⟨left, t, us, op, hleft, hop, hmore⟩
  · exact (blamed_operand hbelow hfault).imp fun ws e whole => viable_of (.comparison whole)
  obtain ⟨ls, rfl, hderives, -, -⟩ := sound_operand (soundBelow _ _) hleft
  -- After the comparison an operand is due; the other two faults stand at a comparison, after what
  -- is complete.
  have hshorter : us.length ≤ (ls ++ t :: us).length := by
    simp only [List.length_append, List.length_cons]
    omega
  have hlead : ∀ ws right, Derives .operand ws right →
      Viable (Derives .comparison) (ls ++ [t] ++ ws) := by
    intro ws right hright
    rw [List.append_assoc]
    exact viable_of (.compare hderives hop hright)
  rcases hmore with hfault | ⟨right, vs, hright, rfl | ⟨next, -, rfl⟩⟩
  · have hblamed := (blamed_operand (hbelow.mono hshorter) hfault).after hlead
    rwa [List.append_assoc] at hblamed
  · exact blamed_of_place (viable_of (.comparison hderives)) rfl
  · obtain ⟨rs, rfl, hderives', -, -⟩ := sound_operand (soundBelow _ _) hright
    have hblamed : Blamed (Derives .comparison) stop (ls ++ [t] ++ rs ++ vs)
        ⟨.chained next.symbol, place stop vs⟩ := blamed_of_place (hlead rs right hderives') rfl
    rwa [List.append_assoc, List.append_assoc] at hblamed

/-- Negations fail after viable tokens. -/
theorem blamed_negation (hbelow : BlamedBelow stop ts.length)
    (h : negation stop ts = .error fault) : Blamed (Derives .negation) stop ts fault := by
  induction ts with
  | nil =>
    rcases negation_eq_error h with ⟨t, us, heq, -⟩ | hfault
    · cases heq
    · exact (blamed_comparison hbelow hfault).imp fun ws e whole => viable_of (.negation whole)
  | cons t ts ih =>
    rcases negation_eq_error h with ⟨t', us, heq, hnot, hfault⟩ | hfault
    · obtain ⟨rfl, rfl⟩ := List.cons.inj heq
      have hblamed := ih (hbelow.mono (by simp)) hfault
      exact hblamed.cons fun ws e body => viable_of (.not hnot body)
    · exact (blamed_comparison hbelow hfault).imp fun ws e whole => viable_of (.negation whole)

/-- Conjuncts fail after viable tokens. -/
theorem blamed_conjuncts (hbelow : BlamedBelow stop ts.length)
    (h : conjuncts stop left ts = .error fault) :
    Blamed (Derives (.conjuncts left)) stop ts fault := by
  induction hn : ts.length using Nat.strongRecOn generalizing ts left with
  | _ n ih =>
  obtain ⟨t, us, rfl, hand, hfault | ⟨right, vs, hright, hfault⟩⟩ := conjuncts_eq_error h
  · have hblamed := blamed_negation (hbelow.mono (by simp)) hfault
    exact hblamed.cons fun ws e hderives => ⟨[], _, .conjunctsCons hand hderives .conjunctsNil⟩
  · obtain ⟨rs, rfl, hderives, -, -⟩ := sound_negation (soundBelow _ _) hright
    have hshorter : vs.length < n := length_lt_of_cons_append hn
    have hblamed : Blamed (Derives (.conjuncts left)) stop (t :: rs ++ vs) fault :=
      (ih _ hshorter (hbelow.mono (by omega)) hfault rfl).after fun ws e tail =>
        viable_of (.conjunctsCons hand hderives tail)
    exact hblamed

/-- Conjunctions fail after viable tokens. -/
theorem blamed_conjunction (hbelow : BlamedBelow stop ts.length)
    (h : conjunction stop ts = .error fault) : Blamed (Derives .conjunction) stop ts fault := by
  rcases conjunction_eq_error h with hfault | ⟨left, us, hleft, hfault⟩
  · exact (blamed_negation hbelow hfault).imp fun ws e hderives => hderives.viable_conjunction
  · obtain ⟨ls, rfl, hderives, -, -⟩ := sound_negation (soundBelow _ _) hleft
    exact (blamed_conjuncts (hbelow.mono (by simp)) hfault).after fun ws e tail =>
      viable_of (.conjunction hderives tail)

/-- Disjuncts fail after viable tokens. -/
theorem blamed_disjuncts (hbelow : BlamedBelow stop ts.length)
    (h : disjuncts stop left ts = .error fault) :
    Blamed (Derives (.disjuncts left)) stop ts fault := by
  induction hn : ts.length using Nat.strongRecOn generalizing ts left with
  | _ n ih =>
  obtain ⟨t, us, rfl, hor, hfault | ⟨right, vs, hright, hfault⟩⟩ := disjuncts_eq_error h
  · have hblamed := blamed_conjunction (hbelow.mono (by simp)) hfault
    exact hblamed.cons fun ws e hderives => ⟨[], _, .disjunctsCons hor hderives .disjunctsNil⟩
  · obtain ⟨rs, rfl, hderives, -, -⟩ := sound_conjunction (soundBelow _ _) hright
    have hshorter : vs.length < n := length_lt_of_cons_append hn
    have hblamed : Blamed (Derives (.disjuncts left)) stop (t :: rs ++ vs) fault :=
      (ih _ hshorter (hbelow.mono (by omega)) hfault rfl).after fun ws e tail =>
        viable_of (.disjunctsCons hor hderives tail)
    exact hblamed

/-- Disjunctions fail after viable tokens. -/
theorem blamed_disjunction (h : disjunction stop ts = .error fault) :
    Blamed (Derives .disjunction) stop ts fault := by
  induction hn : ts.length using Nat.strongRecOn generalizing ts fault with
  | _ n ih =>
  -- As for soundness, the bound of all readers below this one is lifted here.
  have hbelow : BlamedBelow stop ts.length := fun us hus fault h =>
    ih us.length (by omega) h rfl
  rcases disjunction_eq_error h with hfault | ⟨left, us, hleft, hfault⟩
  · exact (blamed_conjunction hbelow hfault).imp fun ws e hderives => hderives.viable_disjunction
  · obtain ⟨ls, rfl, hderives, -, -⟩ := sound_conjunction (soundBelow _ _) hleft
    exact (blamed_disjuncts (hbelow.mono (by simp)) hfault).after fun ws e tail =>
      viable_of (.disjunction hderives tail)

/-! ## Faults of choices -/

/-- Whether some tokens are what follows an arm: more arms, and maybe a last constant. -/
def IsRest (ts : List Token) (rest : List Branch × Option Scalar) : Prop :=
  Arms ts rest.1 rest.2

/-- Blocks fail after viable tokens. -/
theorem blamed_block (h : block stop ts = .error fault) : Blamed Block stop ts fault := by
  rcases block_eq_error h with hfault | ⟨t, us, ht, hfault | ⟨v, vs, hv, hfault⟩⟩
  · exact blamed_of_place viable_block (position_of_token_eq_error hfault)
  · obtain ⟨rfl, hopen⟩ := gives_token_iff.1 ht
    -- A literal is due; `true` could stand here.
    have hviable : Viable Block ([t] ++ [.mark .trueWord]) := viable_block_of_constant hopen rfl
    have hblamed : Blamed Block stop ([t] ++ us) fault :=
      blamed_of_place hviable.of_append (position_of_scalar_eq_error hfault)
    exact hblamed
  · obtain ⟨rfl, hopen⟩ := gives_token_iff.1 ht
    obtain ⟨u, rfl, hu⟩ := gives_scalar_iff.1 hv
    obtain ⟨hliteral, -⟩ := Token.scalar?_eq_ok_iff.1 hu
    have hblamed : Blamed Block stop ([t, u] ++ vs) fault :=
      blamed_of_place (viable_block_of_constant hopen hliteral) (position_of_token_eq_error hfault)
    exact hblamed

/-- Arms fail after viable tokens. -/
theorem blamed_branch (h : branch stop ts = .error fault) : Blamed Arm stop ts fault := by
  rcases branch_eq_error h with hfault | ⟨t, us, ht, hfault | ⟨condition, vs, hcondition, hfault⟩⟩
  · exact blamed_of_place viable_arm (position_of_token_eq_error hfault)
  · obtain ⟨rfl, hif⟩ := gives_token_iff.1 ht
    exact (blamed_disjunction hfault).cons fun ws e hderives => hderives.viable_arm hif
  · obtain ⟨rfl, hif⟩ := gives_token_iff.1 ht
    obtain ⟨cs, rfl, hderives, -, -⟩ := sound_disjunction hcondition
    have hblamed : Blamed Arm stop (t :: cs ++ vs) fault := (blamed_block hfault).after
      fun ws v hblock => viable_of (.mk hif hderives hblock)
    exact hblamed

/-- What follows an arm fails after viable tokens. -/
theorem blamed_arms {head : Branch} (h : arms stop head ts = .error fault) :
    Blamed IsRest stop ts fault := by
  induction hn : ts.length using Nat.strongRecOn generalizing ts head with
  | _ n ih =>
  obtain ⟨t, us, rfl, helse, hfault | hfault | ⟨next, vs, hnext, hfault⟩⟩ := arms_eq_error h
  · exact (blamed_block hfault).cons fun ws v hblock =>
      ⟨[], ([], some v), by rw [List.append_nil]; exact .otherwise helse hblock⟩
  · exact (blamed_branch hfault).cons fun ws b harm => ⟨[], ([b], none), .cons helse harm .nil⟩
  · obtain ⟨bs, rfl, harm, -, -⟩ := sound_branch hnext
    have hshorter : vs.length < n := length_lt_of_cons_append hn
    have hblamed : Blamed IsRest stop (t :: bs ++ vs) fault :=
      (ih _ hshorter hfault rfl).after fun ws rest hrest =>
        ⟨[], (next :: rest.1, rest.2), by rw [List.append_nil]; exact .cons helse harm hrest⟩
    exact hblamed

end Reading

/-! ## Faults of texts -/

open Reading

variable {s : TokenStream} {fault : SyntaxFault}

/-- Where there are no tokens the fault stands at the end, after nothing. -/
theorem blamed_of_empty {α : Type} {R : List Token → α → Prop} (hviable : Viable R [])
    (hempty : s.tokens = []) : Blamed R s.stop s.tokens ⟨.empty, s.stop⟩ := by
  rw [hempty]
  exact blamed_of_place hviable rfl

/-- The tokens of a text fail to form an expression after viable ones. -/
theorem Expr.blamed_of_ofTokens (h : Expr.ofTokens s = .error fault) :
    Blamed (Phrase.Derives .disjunction) s.stop s.tokens fault := by
  rcases Expr.ofTokens_eq_error h with ⟨hempty, rfl⟩ | hfault | ⟨e, t, us, hread, hleft⟩
  · exact blamed_of_empty Phrase.viable_disjunction_nil hempty
  · exact blamed_disjunction hfault
  · -- What was read is an expression, and a token is left over.
    obtain ⟨ws, heq, hderives, -, -⟩ := sound_disjunction hread
    have hplace : fault.position = place s.stop (t :: us) := by
      rcases hleft with rfl | rfl
      · rfl
      · rfl
    rw [heq]
    exact blamed_of_place (viable_of hderives) hplace

/-- The tokens of a text fail to form a choice after viable ones. -/
theorem Choice.blamed_of_ofTokens (h : Choice.ofTokens s = .error fault) :
    Blamed Choice.Derives s.stop s.tokens fault := by
  rcases Choice.ofTokens_eq_error h with ⟨hempty, rfl⟩ | hfault | ⟨head, us, hhead, hmore⟩
  · exact blamed_of_empty viable_choice hempty
  · exact (blamed_branch hfault).imp fun ws b harm => harm.viable_choice
  obtain ⟨ws, heq, harm, -, -⟩ := sound_branch hhead
  rw [heq]
  rcases hmore with hfault | ⟨c, t, vs, harms, rfl⟩
  · exact (blamed_arms hfault).after fun xs rest hrest => viable_of (.mk harm hrest)
  · obtain ⟨xs, bs, rfl, -, hrest, -, -⟩ := sound_arms harms
    rw [← List.append_assoc]
    exact blamed_of_place (viable_of (.mk harm hrest)) rfl

/-- The place of the token ahead is one of the places of the tokens and their end. -/
theorem Reading.place_mem (stop : Position) (ts : List Token) :
    place stop ts ∈ ts.map Token.position ++ [stop] := by
  cases ts with
  | nil => exact List.mem_singleton_self stop
  | cons t ts => exact List.mem_cons_self

/-- No token stands before the one ahead. -/
theorem Reading.not_precedes_place {stop : Position} {ts : List Token}
    (hplaces : (ts.map Token.position ++ [stop]).Pairwise Position.Precedes) :
    ∀ t ∈ ts, ¬ t.position.Precedes (place stop ts) := by
  cases ts with
  | nil => exact List.forall_mem_nil _
  | cons t ts =>
    obtain ⟨hlater, -⟩ := List.pairwise_cons.1 hplaces
    refine List.forall_mem_cons.2 ⟨Position.not_precedes_self _, fun u hu => ?_⟩
    have hprecedes := hlater u.position (List.mem_append_left _ (List.mem_map_of_mem hu))
    exact hprecedes.asymm

/-- Whether a place is that of a token of a text or of its end, what stands before it is viable, and
it comes no later than the first token that makes the text wrong. -/
structure TokenStream.Blames {α : Type} (R : List Token → α → Prop) (s : TokenStream)
    (place : Position) : Prop where
  /-- It is the place of a token, or the end. -/
  mem : place ∈ s.tokens.map Token.position ++ [s.stop]
  /-- The tokens before it can go on to tokens that stand for something. -/
  viable : Viable R (s.tokens.filter fun t => t.position.Precedes place)
  /-- No token before it is one with which the text cannot go on. -/
  not_later : ∀ front t back, s.tokens = front ++ t :: back → ¬ Viable R (front ++ [t]) →
    ¬ t.position.Precedes place

/-- A fault after viable tokens comes in time, where the tokens stand at ascending places. -/
theorem Blamed.blames {α : Type} {R : List Token → α → Prop}
    (h : Blamed R s.stop s.tokens fault)
    (hplaces : (s.tokens.map Token.position ++ [s.stop]).Pairwise Position.Precedes) :
    s.Blames R fault.position := by
  obtain ⟨before, after, htokens, hviable, hplace⟩ := h
  rw [htokens, List.map_append, List.append_assoc] at hplaces
  obtain ⟨-, hascending, hacross⟩ := List.pairwise_append.1 hplaces
  have hmem := place_mem s.stop after
  have hafter := not_precedes_place hascending
  rw [← hplace] at hmem hafter
  have hbefore : ∀ t ∈ before, t.position.Precedes fault.position := fun t ht =>
    hacross _ (List.mem_map_of_mem ht) _ hmem
  refine ⟨?_, ?_, fun front t back hsplit hno hprecedes => ?_⟩
  · rw [htokens, List.map_append, List.append_assoc]
    exact List.mem_append_right _ hmem
  · have hfront : before.filter (fun t => t.position.Precedes fault.position) = before :=
      List.filter_eq_self.2 fun t ht => decide_eq_true (hbefore t ht)
    have hback : after.filter (fun t => t.position.Precedes fault.position) = [] :=
      List.filter_eq_nil_iff.2 fun t ht => by simpa using hafter t ht
    rw [htokens, List.filter_append, hfront, hback, List.append_nil]
    exact hviable
  · -- Either the token is among those in front of the fault, or it is not before it.
    rw [htokens] at hsplit
    rcases List.append_eq_append_iff.1 hsplit with ⟨mid, -, rfl⟩ | ⟨mid, rfl, hmid⟩
    · exact hafter t (List.mem_append_right _ List.mem_cons_self) hprecedes
    · cases mid with
      | nil =>
        rw [List.nil_append] at hmid
        exact hafter t (hmid ▸ List.mem_cons_self) hprecedes
      | cons u mid =>
        obtain ⟨rfl, -⟩ := List.cons.inj hmid
        rw [List.append_cons] at hviable
        exact hno hviable.of_append

/-- Where a text that can be cut into tokens is not read, as an expression or as a choice, the fault
stands at a token or at the end, the tokens before it are the start of an expression or of a choice,
and it comes no later than the first token with which they are not. -/
theorem parse_eq_error_blames (source : String) (s : TokenStream) (h : tokenize source = .ok s) :
    (∀ fault, Expr.parse source = .error fault →
      s.Blames (Phrase.Derives .disjunction) fault.position) ∧
    ∀ fault, Choice.parse source = .error fault → s.Blames Choice.Derives fault.position := by
  have hplaces := TokenStream.pairwise_precedes h
  unfold Expr.parse Choice.parse
  rw [h]
  exact ⟨fun fault hfault => (Expr.blamed_of_ofTokens hfault).blames hplaces,
    fun fault hfault => (Choice.blamed_of_ofTokens hfault).blames hplaces⟩

/-- The text `!` is one token, after which something is due. -/
theorem Expr.parse_exclamation : tokenize "!" = .ok ⟨[⟨.not, "!", ⟨1, 1⟩⟩], ⟨1, 2⟩⟩ ∧
    Expr.parse "!" = .error ⟨.unexpectedEnd, ⟨1, 2⟩⟩ := by
  have htokens : tokenize "!" = .ok ⟨[⟨.not, "!", ⟨1, 1⟩⟩], ⟨1, 2⟩⟩ := by
    have hend : TokenStream.scan ⟨1, 2⟩ [] = .ok ⟨[], ⟨1, 2⟩⟩ :=
      TokenStream.scan_of_blanks _ (List.forall_mem_nil _)
    have hnot := TokenStream.scan_of_cons .start (List.forall_mem_nil _)
      (by decide : isBlank '!' = false) []
    calc tokenize "!" = _ := hnot
      _ = (TokenStream.scan ⟨1, 2⟩ []).map _ := rfl
      _ = _ := by rw [hend]; rfl
  have hoperand : operand ⟨1, 2⟩ [] = .error ⟨.unexpectedEnd, ⟨1, 2⟩⟩ := by
    rw [operand]
    rfl
  have hbody : negation ⟨1, 2⟩ [] = .error ⟨.unexpectedEnd, ⟨1, 2⟩⟩ := by
    rw [negation, comparison, hoperand]
    rfl
  have hread : disjunction ⟨1, 2⟩ [⟨.not, "!", ⟨1, 1⟩⟩] = .error ⟨.unexpectedEnd, ⟨1, 2⟩⟩ := by
    rw [disjunction, conjunction, negation, if_pos rfl, hbody]
    rfl
  refine ⟨htokens, ?_⟩
  calc Expr.parse "!" = Expr.ofTokens ⟨[⟨.not, "!", ⟨1, 1⟩⟩], ⟨1, 2⟩⟩ := by
        rw [Expr.parse, htokens]
        rfl
    _ = .error ⟨.unexpectedEnd, ⟨1, 2⟩⟩ := by
        rw [Expr.ofTokens, hread]
        rfl

/-- The fault of the text `!` stands at its end, after a token that an expression can start with. -/
theorem parse_eq_error_blames_exclamation :
    tokenize "!" = .ok ⟨[⟨.not, "!", ⟨1, 1⟩⟩], ⟨1, 2⟩⟩ ∧
      Expr.parse "!" = .error ⟨.unexpectedEnd, ⟨1, 2⟩⟩ ∧
      TokenStream.Blames (Phrase.Derives .disjunction) ⟨[⟨.not, "!", ⟨1, 1⟩⟩], ⟨1, 2⟩⟩ ⟨1, 2⟩ := by
  obtain ⟨htokens, hparse⟩ := Expr.parse_exclamation
  exact ⟨htokens, hparse, (parse_eq_error_blames _ _ htokens).1 _ hparse⟩

end CheckDoc
