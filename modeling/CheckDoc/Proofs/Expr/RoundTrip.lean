import CheckDoc.Proofs.Expr.Rendering

/-!
# Reading and writing are inverse

What the parsers give can be written: its constants and names come from tokens
(`Phrase.Derives.parts`), these have the forms of tokens, and a token that is in range stands for
what can be written (`Token.parts_of_form`). So writing and reading are inverse to each other on
everything that can be read (`parse_render`).
-/

namespace CheckDoc

/-! ## Constants and names come from tokens -/

/-- Whether the constants of an expression have one property and its identifiers another. -/
def Expr.Parts (P : Scalar → Prop) (Q : String → Prop) (e : Expr) : Prop :=
  (∀ v ∈ e.constants, P v) ∧ ∀ r ∈ e.references, Q r.identifier

/-- Whether the constant that a token stands for has one property, and a name another. -/
def Token.Parts (P : Scalar → Prop) (Q : String → Prop) (t : Token) : Prop :=
  (∀ v, t.constant? = some v → P v) ∧ (t.kind = .identifier → Q t.value)

section

variable {P : Scalar → Prop} {Q : String → Prop}

/-- The parts of an expression are those of its two operands. -/
theorem Expr.Parts.operands {e l r : Expr} (hconstants : e.constants = l.constants ++ r.constants)
    (hreferences : e.references = l.references ++ r.references) (hl : l.Parts P Q)
    (hr : r.Parts P Q) : e.Parts P Q := by
  unfold Parts
  rw [hconstants, hreferences, List.forall_mem_append, List.forall_mem_append]
  exact ⟨⟨hl.1, hr.1⟩, hl.2, hr.2⟩

/-- The items of a list come from tokens. -/
theorem Items.forall_constants {ts : List Token} {vs : List Scalar} (h : Items ts vs)
    (hts : ∀ t ∈ ts, t.Parts P Q) : ∀ v ∈ vs, P v := by
  induction h with
  | one hliteral =>
    rw [List.forall_mem_singleton] at hts ⊢
    exact hts.1 _ hliteral
  | cons hliteral _ _ ih =>
    rw [List.forall_mem_cons, List.forall_mem_cons] at hts
    exact List.forall_mem_cons.2 ⟨hts.1.1 _ hliteral, ih hts.2.2⟩

/-- The constants and the identifiers of an expression come from tokens, or from the tree on the
left of a row. -/
theorem Phrase.Derives.parts {p : Phrase} {ts : List Token} {e : Expr} (h : p.Derives ts e)
    (hts : ∀ t ∈ ts, t.Parts P Q) (hleft : ∀ l ∈ p.left?, l.Parts P Q) : e.Parts P Q := by
  induction h with
  | disjunction _ _ ihHead ihTail =>
    obtain ⟨hus, hvs⟩ := List.forall_mem_append.1 hts
    have hhead := ihHead hus (by simp [left?])
    exact ihTail hvs (by simpa [left?] using hhead)
  | disjunctsNil => exact hleft _ rfl
  | @disjunctsCons left t us right vs e _ _ _ ihHead ihTail =>
    obtain ⟨hus, hvs⟩ := List.forall_mem_append.1 (List.forall_mem_cons.1 hts).2
    -- The tree on the left grows by one operand, which comes from tokens as well.
    have hright := ihHead hus (by simp [left?])
    have hrow : (Expr.or left right).Parts P Q := .operands rfl rfl (hleft _ rfl) hright
    exact ihTail hvs (by simpa [left?] using hrow)
  | conjunction _ _ ihHead ihTail =>
    obtain ⟨hus, hvs⟩ := List.forall_mem_append.1 hts
    have hhead := ihHead hus (by simp [left?])
    exact ihTail hvs (by simpa [left?] using hhead)
  | conjunctsNil => exact hleft _ rfl
  | @conjunctsCons left t us right vs e _ _ _ ihHead ihTail =>
    obtain ⟨hus, hvs⟩ := List.forall_mem_append.1 (List.forall_mem_cons.1 hts).2
    have hright := ihHead hus (by simp [left?])
    have hrow : (Expr.and left right).Parts P Q := .operands rfl rfl (hleft _ rfl) hright
    exact ihTail hvs (by simpa [left?] using hrow)
  | negation _ ih => exact ih hts (by simp [left?])
  | not _ _ ih => exact ih (List.forall_mem_cons.1 hts).2 (by simp [left?])
  | comparison _ ih => exact ih hts (by simp [left?])
  | compare _ _ _ ihLeft ihRight =>
    obtain ⟨hus, hvs⟩ := List.forall_mem_append.1 hts
    have hl := ihLeft hus (by simp [left?])
    have hr := ihRight (List.forall_mem_cons.1 hvs).2 (by simp [left?])
    exact .operands rfl rfl hl hr
  | literal hliteral =>
    have ht := hts _ List.mem_cons_self
    exact ⟨List.forall_mem_singleton.2 (ht.1 _ hliteral), List.forall_mem_nil _⟩
  | emptyList _ _ => exact ⟨List.forall_mem_nil _, List.forall_mem_nil _⟩
  | list _ items _ =>
    obtain ⟨hus, -⟩ := List.forall_mem_append.1 (List.forall_mem_cons.1 hts).2
    exact ⟨items.forall_constants hus, List.forall_mem_nil _⟩
  | @reference t scope d name _ _ _ hname =>
    have ht : name.Parts P Q := hts name (by simp)
    exact ⟨List.forall_mem_nil _, List.forall_mem_singleton.2 (ht.2 hname)⟩
  | parens _ _ _ ih =>
    obtain ⟨hus, -⟩ := List.forall_mem_append.1 (List.forall_mem_cons.1 hts).2
    exact ih hus (by simp [left?])

/-- The literal of a block comes from a token. -/
theorem Block.result {ts : List Token} {v : Scalar} (h : Block ts v)
    (hts : ∀ t ∈ ts, t.Parts P Q) : P v := by
  cases h with
  | @mk t u w v _ literal _ =>
    have hu : u.Parts P Q := hts u (by simp)
    exact hu.1 v literal

/-- The condition and the literal of an arm come from tokens. -/
theorem Arm.parts {ts : List Token} {b : Branch} (h : Arm ts b) (hts : ∀ t ∈ ts, t.Parts P Q) :
    b.condition.Parts P Q ∧ P b.result := by
  cases h with
  | mk _ hcondition hblock =>
    obtain ⟨hus, hvs⟩ := List.forall_mem_append.1 (List.forall_mem_cons.1 hts).2
    exact ⟨hcondition.parts hus (by simp [Phrase.left?]), hblock.result hvs⟩

/-- The conditions and the literals of the rest of a choice come from tokens. -/
theorem Arms.parts {ts : List Token} {bs : List Branch} {o : Option Scalar} (h : Arms ts bs o)
    (hts : ∀ t ∈ ts, t.Parts P Q) :
    (∀ b ∈ bs, b.condition.Parts P Q ∧ P b.result) ∧ ∀ v ∈ o, P v := by
  induction h with
  | nil => simp
  | otherwise _ hblock =>
    have hv := hblock.result (List.forall_mem_cons.1 hts).2
    exact ⟨List.forall_mem_nil _, by simpa using hv⟩
  | cons _ head _ ih =>
    obtain ⟨hus, hvs⟩ := List.forall_mem_append.1 (List.forall_mem_cons.1 hts).2
    obtain ⟨hbs, ho⟩ := ih hvs
    exact ⟨List.forall_mem_cons.2 ⟨head.parts hus, hbs⟩, ho⟩

/-- The conditions and the literals of a choice come from tokens. -/
theorem Choice.Derives.parts {ts : List Token} {c : Choice} (h : Choice.Derives ts c)
    (hts : ∀ t ∈ ts, t.Parts P Q) :
    (∀ b ∈ c.branches, b.condition.Parts P Q ∧ P b.result) ∧ ∀ v ∈ c.otherwise, P v := by
  cases h with
  | mk head tail =>
    obtain ⟨hus, hvs⟩ := List.forall_mem_append.1 hts
    obtain ⟨hbs, ho⟩ := tail.parts hvs
    exact ⟨List.forall_mem_cons.2 ⟨head.parts hus, hbs⟩, ho⟩

end

/-! ## What the parsers give -/

/-- The tokens of a text have the forms of tokens. -/
theorem Spells.exists_form {s : List Char} {words : List Word} (h : Spells s words) :
    ∀ w ∈ words, ∃ l : Lexeme, l.Form ∧ w = l.word := by
  induction h with
  | nil _ => exact List.forall_mem_nil _
  | cons _ hfirst _ ih => exact List.forall_mem_cons.2 ⟨⟨_, hfirst.form, rfl⟩, ih⟩

/-- The number that a token with the form of one stands for can be written where it is in range,
and a name is one. -/
theorem Token.parts_of_form {t : Token} {l : Lexeme} (hform : l.Form) (hword : t.word = l.word)
    (hrange : t.InRange) : t.Parts Scalar.IsWritable IsName := by
  obtain ⟨hkind, hvalue⟩ := Token.word_eq hword
  refine ⟨fun v hv => ?_, fun hname => ?_⟩
  · cases hk : t.kind with
    | string =>
      rw [constant?, hk] at hv
      cases hv
      trivial
    | trueWord =>
      rw [constant?, hk] at hv
      cases hv
      trivial
    | falseWord =>
      rw [constant?, hk] at hv
      cases hv
      trivial
    | integer =>
      rw [constant?, hk] at hv
      cases hv
      have htext : NumberText .integer t.value.toList := by
        rw [hvalue]
        exact hform.numberText (hkind.symm.trans hk)
      exact htext.length_toDigits_le.trans (hrange.integer hk)
    | float =>
      rw [constant?, hk] at hv
      cases hv
      exact Decimal.isFinite_round (hrange.float hk)
    | _ =>
      rw [constant?, hk] at hv
      cases hv
  · rw [isName_iff, hvalue]
    exact (IsNameText.of_form hform (hkind.symm.trans hname)).1

/-- The tokens of a text that are in range stand for what can be written. -/
theorem parts_of_tokenize {source : String} {stream : TokenStream}
    (h : tokenize source = .ok stream) (hrange : ∀ t ∈ stream.tokens, t.InRange) :
    ∀ t ∈ stream.tokens, t.Parts Scalar.IsWritable IsName := by
  intro t ht
  obtain ⟨l, hform, hword⟩ :=
    (TokenStream.spells_of_scan h).exists_form t.word (List.mem_map_of_mem ht)
  exact Token.parts_of_form hform hword (hrange t ht)

/-- What is read from a text is an expression that can be written. -/
theorem Expr.wellFormed_of_parse {source : String} {e : Expr} (h : Expr.parse source = .ok e) :
    e.WellFormed := by
  obtain ⟨stream, htokens, -⟩ := bind_eq_ok_iff.1 h
  have haccepts := ((parse_eq_ok_iff htokens).1 e).1 h
  have hparts := haccepts.derives.parts (parts_of_tokenize htokens haccepts.inRange)
    (by simp [Phrase.left?])
  exact ⟨hparts.1, hparts.2, haccepts.ordersNoList⟩

/-- What is read from the text of a choice is a choice that can be written. -/
theorem Choice.wellFormed_of_parse {source : String} {c : Choice}
    (h : Choice.parse source = .ok c) : c.WellFormed := by
  obtain ⟨stream, htokens, -⟩ := bind_eq_ok_iff.1 h
  have haccepts := ((parse_eq_ok_iff htokens).2 c).1 h
  obtain ⟨hbranches, hotherwise⟩ :=
    haccepts.derives.parts (parts_of_tokenize htokens haccepts.inRange)
  -- There is an arm, since a choice is derived from one at least.
  refine ⟨?_, fun b hb => ?_, ?_⟩
  · generalize stream.tokens = ts at haccepts
    cases haccepts.derives with
    | mk _ _ => exact List.cons_ne_nil _ _
  · obtain ⟨⟨hconstants, hnames⟩, -⟩ := hbranches b hb
    exact ⟨hconstants, hnames, haccepts.ordersNoList b hb⟩
  · unfold results
    rw [List.forall_mem_append, List.forall_mem_map]
    exact ⟨fun b hb => (hbranches b hb).2, by simpa using hotherwise⟩

/-- An expression or a choice that can be written is read back from its text, with the kinds of its
literals. What is read from any text can be written, so that reading its text once more gives the
same tree. -/
theorem parse_render :
    (∀ e : Expr, e.WellFormed → Expr.parse e.render = .ok e) ∧
    (∀ c : Choice, c.WellFormed → Choice.parse c.render = .ok c) ∧
    (∀ source e, Expr.parse source = .ok e → e.WellFormed ∧ Expr.parse e.render = .ok e) ∧
    ∀ source c, Choice.parse source = .ok c → c.WellFormed ∧ Choice.parse c.render = .ok c := by
  refine ⟨fun e he => Expr.parse_render_of_wellFormed he,
    fun c hc => Choice.parse_render_of_wellFormed hc, fun source e h => ?_, fun source c h => ?_⟩
  · have he := Expr.wellFormed_of_parse h
    exact ⟨he, Expr.parse_render_of_wellFormed he⟩
  · have hc := Choice.wellFormed_of_parse h
    exact ⟨hc, Choice.parse_render_of_wellFormed hc⟩

/-- The integer 1, the text of it and a truth value are read back as what they are. -/
theorem parse_render_one_eq_text :
    (Expr.and (.compare .eq (.literal (.int 1)) (.literal (.str "1")))
      (.not (.literal (.bool true)))).WellFormed ∧
    Expr.parse "1 == \"1\" && !true" =
      .ok (.and (.compare .eq (.literal (.int 1)) (.literal (.str "1")))
        (.not (.literal (.bool true)))) := by
  have hwell : (Expr.and (.compare .eq (.literal (.int 1)) (.literal (.str "1")))
      (.not (.literal (.bool true)))).WellFormed := by
    refine ⟨?_, List.forall_mem_nil _, ⟨nofun, trivial, trivial⟩, trivial⟩
    have hdigits : (Nat.toDigits 10 1).length ≤ maxIntegerDigits := by decide
    simpa [Expr.constants, Scalar.IsWritable] using hdigits
  exact ⟨hwell, parse_render.1 _ hwell⟩

end CheckDoc
