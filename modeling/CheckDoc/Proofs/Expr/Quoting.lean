import CheckDoc.Proofs.Expr.Grammar
import CheckDoc.Proofs.Expr.Lexing
import CheckDoc.Proofs.Text.Position

/-!
# What stands outside of the strings of a text

A string literal can hold any character but the end of a line, so that the parentheses and braces of
a text are not all tokens. `Quoting` follows a text from character to character and tells where its
string literals are, without a word on the other tokens. In a text that can be scanned it is outside
of them at the end and in front of each token (`Spells.after_eq`, `Spells.exists_place`). So the
tokens of a kind that is told by a character are counted by counting this character outside of the
string literals (`Spells.countP_unquoted`), and a character can be counted in any part of a text.
-/

namespace CheckDoc

open Lexeme (symbols symbolText symbolHeads startsName continuesName)

/-- Where a place of a text lies with respect to the string literals. -/
inductive Quoting where
  /-- In no string. -/
  | outside
  /-- In a string. -/
  | inside
  /-- In a string, after a backslash. -/
  | escaped
  deriving DecidableEq

namespace Quoting

/-- The place after one more character. -/
def next : Quoting → Char → Quoting
  | .outside, c => if c = '"' then .inside else .outside
  | .inside, c => if c = '"' then .outside else if c = '\\' then .escaped else .inside
  | .escaped, _ => .inside

/-- The place after a text. -/
def after (q : Quoting) (s : List Char) : Quoting := s.foldl next q

/-- The characters of a text that are in no string, with the opening quotes of the strings. -/
def unquoted : Quoting → List Char → List Char
  | _, [] => []
  | .outside, c :: cs => c :: unquoted (next .outside c) cs
  | .inside, c :: cs => unquoted (next .inside c) cs
  | .escaped, c :: cs => unquoted (next .escaped c) cs

/-- The place after two texts. -/
theorem after_append (q : Quoting) (s t : List Char) : q.after (s ++ t) = (q.after s).after t :=
  List.foldl_append

/-- Where two texts and the first of them end outside, so does the second. -/
theorem outside_of_append {s t : List Char} (h : outside.after (s ++ t) = outside)
    (hs : outside.after s = outside) : outside.after t = outside := by
  rwa [after_append, hs] at h

/-- The characters of two texts that are in no string. -/
theorem unquoted_append (q : Quoting) (s t : List Char) :
    q.unquoted (s ++ t) = q.unquoted s ++ (q.after s).unquoted t := by
  induction s generalizing q with
  | nil => cases q <;> rfl
  | cons c cs ih =>
    cases q with
    | outside => exact congrArg (c :: ·) (ih _)
    | inside => exact ih _
    | escaped => exact ih _

/-- A text without a quote opens no string. -/
theorem outside_of_not_mem {s : List Char} (h : '"' ∉ s) :
    outside.after s = outside ∧ outside.unquoted s = s := by
  induction s with
  | nil => exact ⟨rfl, rfl⟩
  | cons c cs ih =>
    rw [List.mem_cons, not_or] at h
    obtain ⟨hafter, hunquoted⟩ := ih h.2
    have hnext : outside.next c = outside := if_neg (Ne.symm h.1)
    constructor
    · rw [after, List.foldl_cons, hnext]
      exact hafter
    · rw [unquoted, hnext, hunquoted]

/-- The body of a string ends outside, and all of it is in the string. -/
theorem inside_of_stringText {s v : List Char} (h : Lexeme.StringText s v) :
    inside.after s = outside ∧ inside.unquoted s = [] := by
  induction h with
  | close => exact ⟨rfl, rfl⟩
  | @plain c s v hquote _ hslash _ ih =>
    have hnext : inside.next c = inside := by
      rw [next, if_neg hquote, if_neg hslash]
    constructor
    · rw [after, List.foldl_cons, hnext]
      exact ih.1
    · rw [unquoted, hnext, ih.2]
  | escape _ _ ih =>
    -- The backslash and the character after it lead back into the string.
    exact ih

end Quoting

open Quoting (outside)

/-! ## The characters of a token -/

/-- The kinds of tokens in `P` are told by the characters in `Q`: each such token is one character,
and no other token has one outside of a string. -/
structure Marks (P : TokenKind → Bool) (Q : Char → Bool) : Prop where
  /-- A symbol has one such character where it is of such a kind, and none otherwise. -/
  symbol : ∀ k ∈ symbols, (symbolText k).countP Q = if P k then 1 else 0
  /-- Such kinds are symbols. -/
  kind : ∀ k, P k = true → k ∈ symbols
  /-- Such characters start symbols, and they are no part of a number. -/
  char : ∀ c, Q c = true → c ∈ symbolHeads ∧ c ≠ '.'

/-- The first character of a symbol does not go on with a name. -/
theorem continuesName_of_mem_symbolHeads {c : Char} (hc : c ∈ symbolHeads) :
    continuesName c = false := by
  have hall : (symbolHeads.all fun c => continuesName c = false) = true := by decide
  exact of_decide_eq_true (List.all_eq_true.1 hall c hc)

/-- The characters of a number are minus, point and digits. -/
theorem NumberText.forall_char {k : TokenKind} {s : List Char} (h : NumberText k s) :
    ∀ c ∈ s, c = '-' ∨ c = '.' ∨ c.isDigit = true := by
  have hsign : ∀ neg, ∀ c ∈ Decimal.sign neg, c = '-' := by
    intro neg c hc
    cases neg with
    | true => exact List.mem_singleton.1 hc
    | false => exact absurd hc List.not_mem_nil
  intro c hc
  cases h with
  | integer hdigits =>
    rcases List.mem_append.1 hc with hc | hc
    · exact .inl (hsign _ c hc)
    · exact .inr (.inr (hdigits.isDigit c hc))
  | float hwhole hpart =>
    rw [List.mem_append, List.mem_append, List.mem_cons] at hc
    rcases hc with hc | hc | hc | hc
    · exact .inl (hsign _ c hc)
    · exact .inr (.inr (hwhole.isDigit c hc))
    · exact .inr (.inl hc)
    · exact .inr (.inr (hpart.isDigit c hc))

/-- The kind of a word is that of no symbol. -/
theorem wordKind_not_mem_symbols (w : List Char) : Lexeme.wordKind w ∉ symbols := by
  unfold Lexeme.wordKind
  split_ifs <;> decide

/-- The kind of a number is that of no symbol. -/
theorem NumberText.kind_not_mem_symbols {k : TokenKind} {s : List Char} (h : NumberText k s) :
    k ∉ symbols := by
  cases h <;> decide

/-- The kind of a literal is that of no symbol. -/
theorem Token.kind_not_mem_symbols {t : Token} {v : Scalar} (h : t.constant? = some v) :
    t.kind ∉ symbols := by
  cases hkind : t.kind with
  | string => decide
  | trueWord => decide
  | falseWord => decide
  | integer => decide
  | float => decide
  | _ => simp [constant?, hkind] at h

namespace Marks

variable {P : TokenKind → Bool} {Q : Char → Bool}

/-- No kind that is that of no symbol is one. -/
theorem kind_eq_false (hmarks : Marks P Q) {k : TokenKind} (hk : k ∉ symbols) : P k = false :=
  Bool.eq_false_iff.2 fun h => hk (hmarks.kind k h)

/-- A text without such characters, whose kind is that of no symbol, is counted as it should. -/
theorem countP_eq_of_not_mem (hmarks : Marks P Q) {k : TokenKind} (hk : k ∉ symbols)
    {s : List Char} (hs : ∀ c ∈ s, Q c = false) : s.countP Q = if P k then 1 else 0 := by
  rw [hmarks.kind_eq_false hk, List.countP_eq_zero.2 fun c hc => by simp [hs c hc]]
  rfl

/-- No character that is not the first one of a symbol is one. -/
theorem eq_false_of_not_mem (hmarks : Marks P Q) {c : Char} (hc : c ∉ symbolHeads) :
    Q c = false :=
  Bool.eq_false_iff.2 fun h => hc (hmarks.char c h).1

/-- Blanks hold no such character. -/
theorem eq_false_of_isBlank (hmarks : Marks P Q) {c : Char} (hc : isBlank c = true) :
    Q c = false :=
  hmarks.eq_false_of_not_mem fun h => by
    cases hc.symm.trans (Lexeme.of_mem_symbolHeads h).2.2.2.2

/-- A number holds no such character. -/
theorem eq_false_of_number (hmarks : Marks P Q) {k : TokenKind} {s : List Char}
    (hs : NumberText k s) : ∀ c ∈ s, Q c = false := by
  intro c hc
  rcases hs.forall_char c hc with rfl | rfl | hdigit
  · exact hmarks.eq_false_of_not_mem (by decide)
  · exact Bool.eq_false_iff.2 fun h => (hmarks.char _ h).2 rfl
  · exact hmarks.eq_false_of_not_mem (Lexeme.not_mem_symbolHeads_of_isDigit hdigit)

end Marks

/-- A text of the form of a token has no quote, or it is a string. -/
theorem Lexeme.Form.quote_not_mem {l : Lexeme} (h : l.Form) :
    '"' ∉ l.text ∨ ∃ s v, l = ⟨.string, '"' :: s, v⟩ ∧ Lexeme.StringText s v := by
  cases h with
  | symbol hk =>
    have hall : (symbols.all fun k => '"' ∉ symbolText k) = true := by decide
    exact .inl (of_decide_eq_true (List.all_eq_true.1 hall _ hk))
  | string body => exact .inr ⟨_, _, rfl, body⟩
  | number hs =>
    refine .inl fun hmem => ?_
    rcases hs.forall_char _ hmem with h | h | h <;> exact absurd h (by decide)
  | word hstart hmore =>
    refine .inl fun hmem => ?_
    rcases List.mem_cons.1 hmem with rfl | hmem
    · exact absurd hstart (by decide)
    · exact absurd (hmore _ hmem) (by decide)

/-- A token ends outside of strings. -/
theorem Lexeme.Form.after_text {l : Lexeme} (h : l.Form) : outside.after l.text = outside := by
  rcases h.quote_not_mem with hno | ⟨s, v, rfl, body⟩
  · exact (Quoting.outside_of_not_mem hno).1
  · exact (Quoting.inside_of_stringText body).1

/-- A token is counted by its characters. -/
theorem Lexeme.Form.countP_unquoted {P : TokenKind → Bool} {Q : Char → Bool} (hmarks : Marks P Q)
    {l : Lexeme} (h : l.Form) :
    (outside.unquoted l.text).countP Q = if P l.kind then 1 else 0 := by
  rcases h.quote_not_mem with hno | ⟨s, v, rfl, body⟩
  · rw [(Quoting.outside_of_not_mem hno).2]
    cases h with
    | symbol hk => exact hmarks.symbol _ hk
    | string _ => exact absurd List.mem_cons_self hno
    | number hs =>
      exact hmarks.countP_eq_of_not_mem hs.kind_not_mem_symbols (hmarks.eq_false_of_number hs)
    | @word c cs hstart hmore =>
      refine hmarks.countP_eq_of_not_mem (wordKind_not_mem_symbols _) fun d hd => ?_
      refine hmarks.eq_false_of_not_mem fun hhead => ?_
      rcases List.mem_cons.1 hd with rfl | hd
      · cases hstart.symm.trans (Lexeme.of_mem_symbolHeads hhead).2.2.2.1
      · cases (hmore d hd).symm.trans (continuesName_of_mem_symbolHeads hhead)
  · -- Of a string only the opening quote is counted.
    have hbody : outside.unquoted ('"' :: s) = ['"'] :=
      congrArg ('"' :: ·) (Quoting.inside_of_stringText body).2
    show (outside.unquoted ('"' :: s)).countP Q = _
    rw [hbody]
    refine hmarks.countP_eq_of_not_mem (k := .string) (by decide) ?_
    exact List.forall_mem_singleton.2 (hmarks.eq_false_of_not_mem (by decide))

/-! ## The characters of a text -/

/-- Blanks hold no quote. -/
theorem quote_not_mem_of_isBlank {blanks : List Char} (h : ∀ c ∈ blanks, isBlank c = true) :
    '"' ∉ blanks := fun hmem => absurd (h _ hmem) (by decide)

namespace Spells

variable {s : List Char} {words : List Word}

/-- A text that can be cut ends outside of strings. -/
theorem after_eq (h : Spells s words) : outside.after s = outside := by
  induction h with
  | nil hblanks => exact (Quoting.outside_of_not_mem (quote_not_mem_of_isBlank hblanks)).1
  | cons hblanks hfirst _ ih =>
    have hstart := (Quoting.outside_of_not_mem (quote_not_mem_of_isBlank hblanks)).1
    rw [Quoting.after_append, hstart, Quoting.after_append, hfirst.form.after_text, ih]

/-- The tokens of the kinds that characters tell are as many as these characters outside of
strings. -/
theorem countP_unquoted {P : TokenKind → Bool} {Q : Char → Bool} (hmarks : Marks P Q)
    (h : Spells s words) : (outside.unquoted s).countP Q = words.countP fun w => P w.1 := by
  have hzero : ∀ {blanks : List Char}, (∀ c ∈ blanks, isBlank c = true) →
      (outside.unquoted blanks).countP Q = 0 := fun hblanks => by
    rw [(Quoting.outside_of_not_mem (quote_not_mem_of_isBlank hblanks)).2, List.countP_eq_zero]
    exact fun c hc => by simp [hmarks.eq_false_of_isBlank (hblanks c hc)]
  induction h with
  | nil hblanks => exact hzero hblanks
  | @cons blanks l rest words hblanks hfirst _ ih =>
    have hstart := (Quoting.outside_of_not_mem (quote_not_mem_of_isBlank hblanks)).1
    have hform := hfirst.form
    rw [Quoting.unquoted_append, List.countP_append, hzero hblanks, hstart,
      Quoting.unquoted_append, List.countP_append, hform.countP_unquoted hmarks, hform.after_text,
      ih, List.countP_cons]
    exact (Nat.zero_add _).trans (Nat.add_comm _ _)

/-- A token stands where its text starts, which is outside of strings. -/
theorem exists_place (h : Spells s words) {p : Position} {stream : TokenStream}
    (hscan : TokenStream.scan p s = .ok stream) {t : Token} (ht : t ∈ stream.tokens) :
    ∃ (before : List Char) (l : Lexeme) (rest : List Char), s = before ++ (l.text ++ rest) ∧
      p.after before = t.position ∧ t.word = l.word ∧ l.Form ∧
        outside.after before = outside := by
  induction h generalizing p stream with
  | nil hblanks =>
    rw [TokenStream.scan_of_blanks p hblanks] at hscan
    cases hscan
    exact absurd ht List.not_mem_nil
  | @cons blanks l rest words hblanks hfirst _ ih =>
    rw [TokenStream.scan_of_isFirst p hblanks hfirst] at hscan
    obtain ⟨more, hmore, rfl⟩ := map_eq_ok_iff.1 hscan
    have hstart := (Quoting.outside_of_not_mem (quote_not_mem_of_isBlank hblanks)).1
    rcases List.mem_cons.1 ht with rfl | ht
    · exact ⟨blanks, l, rest, rfl, rfl, rfl, hfirst.form, hstart⟩
    · obtain ⟨before, l', rest', rfl, hplace, hword, hform, hafter⟩ := ih hmore ht
      refine ⟨blanks ++ (l.text ++ before), l', rest', by simp only [List.append_assoc], ?_, hword,
        hform, ?_⟩
      · rw [← hplace]
        simp only [Position.after, List.foldl_append]
      · rw [Quoting.after_append, hstart, Quoting.after_append, hfirst.form.after_text, hafter]

end Spells

end CheckDoc
