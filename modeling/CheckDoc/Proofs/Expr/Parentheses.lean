import CheckDoc.Proofs.Expr.Quoting
import CheckDoc.Proofs.Expr.RoundTrip

/-!
# The fewest parentheses

`Expr.parensIn` is the number of parentheses that the text of a tree has in a place that binds with
some strength. It is what the printer writes (`Expr.hasParens_renderIn`), and by induction on the
derivation no tokens that derive the tree in such a place have fewer (`Phrase.Derives.parensIn_le`).
So no text of an expression has fewer parentheses than its rendering, and the rendering less two of
them is no text of the expression (`Expr.countParens_render_le`).
-/

namespace CheckDoc

open Lexeme (symbols symbolText)
open Quoting (outside)

/-- Whether a kind is that of a parenthesis. -/
def TokenKind.isParen : TokenKind → Bool
  | .leftParen | .rightParen => true
  | _ => false

/-- Whether a character is a parenthesis. -/
def isParenChar (c : Char) : Bool := c = '(' || c = ')'

/-- Parentheses are told by their characters. -/
theorem marks_isParen : Marks TokenKind.isParen isParenChar where
  symbol := by decide
  kind k hk := by
    cases k <;> first | decide | cases hk
  char c hc := by
    rw [isParenChar, Bool.or_eq_true, decide_eq_true_eq, decide_eq_true_eq] at hc
    rcases hc with rfl | rfl <;> decide

/-- The number of parentheses among some tokens. -/
def countParens (ts : List Token) : Nat := ts.countP fun t => t.kind.isParen

/-- Parentheses are counted part by part. -/
theorem countParens_append (ts us : List Token) :
    countParens (ts ++ us) = countParens ts + countParens us :=
  List.countP_append

/-- A token is counted in front of the others. -/
theorem countParens_cons (t : Token) (ts : List Token) :
    countParens (t :: ts) = countParens ts + if t.kind.isParen then 1 else 0 :=
  List.countP_cons

/-! ## The parentheses of a tree -/

namespace Expr

/-- The number of parentheses that an expression is written with in a place that binds with strength
`parent`. -/
def parensIn (parent : Nat) (e : Expr) : Nat :=
  (match e with
    | .literal _ | .list _ | .reference _ => 0
    | .compare _ l r => parensIn 5 l + parensIn 5 r
    | .and l r => parensIn 2 l + parensIn 3 r
    | .or l r => parensIn 1 l + parensIn 2 r
    | .not x => parensIn 3 x) + if e.precedence < parent then 2 else 0

/-- The parentheses in a comparison. -/
theorem parensIn_compare (op : Comparator) (l r : Expr) :
    (compare op l r).parensIn 4 = l.parensIn 5 + r.parensIn 5 := rfl

/-- The parentheses in a conjunction. -/
theorem parensIn_and (l r : Expr) : (and l r).parensIn 2 = l.parensIn 2 + r.parensIn 3 := rfl

/-- The parentheses in a disjunction. -/
theorem parensIn_or (l r : Expr) : (or l r).parensIn 1 = l.parensIn 1 + r.parensIn 2 := rfl

/-- The parentheses in a negation. -/
theorem parensIn_not (x : Expr) : (not x).parensIn 3 = x.parensIn 3 := rfl

/-- The parentheses are those in the expression, and two around it where its place asks for them. -/
theorem parensIn_eq (parent : Nat) (e : Expr) : e.parensIn parent =
    e.parensIn e.precedence + if e.precedence < parent then 2 else 0 := by
  rw [parensIn.eq_def parent, parensIn.eq_def e.precedence]
  simp only [Nat.lt_irrefl, if_false, Nat.add_zero]

/-- A place that binds more tightly asks for as many parentheses at least. -/
theorem parensIn_mono {m n : Nat} (hle : m ≤ n) (e : Expr) : e.parensIn m ≤ e.parensIn n := by
  rw [parensIn_eq m, parensIn_eq n]
  split_ifs <;> omega

/-- A place asks for two parentheses more than another one at most. -/
theorem parensIn_le_add_two (m n : Nat) (e : Expr) : e.parensIn n ≤ e.parensIn m + 2 := by
  rw [parensIn_eq m, parensIn_eq n]
  split_ifs <;> omega

/-- Two places that bind more loosely than everything are alike. -/
theorem parensIn_zero (e : Expr) : e.parensIn 0 = e.parensIn 1 := by
  have hprecedence : ¬ e.precedence < 1 := by cases e <;> simp [precedence]
  rw [parensIn_eq 0, parensIn_eq 1, if_neg hprecedence, if_neg (Nat.not_lt_zero _)]

/-- Expressions that are equal as data have the same parentheses. -/
theorem parensIn_of_alike {e e' : Expr} (h : e.alike e' = true) (n : Nat) :
    e.parensIn n = e'.parensIn n := by
  induction e generalizing e' n with
  | literal _ => cases e' <;> first | rfl | cases h
  | list _ => cases e' <;> first | rfl | cases h
  | reference _ => cases e' <;> first | rfl | cases h
  | compare op l r ihl ihr =>
    cases e' with
    | compare op' l' r' =>
      simp only [alike, Bool.and_eq_true] at h
      rw [parensIn, parensIn, ihl h.1.2, ihr h.2]
      rfl
    | _ => cases h
  | and l r ihl ihr =>
    cases e' with
    | and l' r' =>
      simp only [alike, Bool.and_eq_true] at h
      rw [parensIn, parensIn, ihl h.1, ihr h.2]
      rfl
    | _ => cases h
  | or l r ihl ihr =>
    cases e' with
    | or l' r' =>
      simp only [alike, Bool.and_eq_true] at h
      rw [parensIn, parensIn, ihl h.1, ihr h.2]
      rfl
    | _ => cases h
  | not x ih =>
    cases e' with
    | not x' =>
      rw [parensIn, parensIn, ih h]
      rfl
    | _ => cases h

end Expr

/-! ## No phrase has fewer -/

namespace Phrase

/-- How tightly the place of a phrase binds. -/
def strength : Phrase → Nat
  | .disjunction | .disjuncts _ => 1
  | .conjunction | .conjuncts _ => 2
  | .negation => 3
  | .comparison => 4
  | .operand => 5

/-- The parentheses of the tree on the left that the rest of a row knows. -/
def owed : Phrase → Nat
  | .disjuncts left => left.parensIn 1
  | .conjuncts left => left.parensIn 2
  | _ => 0

/-- Tokens that are a phrase have as many parentheses as its tree is written with in the place of
the phrase, where the tree on the left of a row brings its own. -/
theorem Derives.parensIn_le {p : Phrase} {ts : List Token} {e : Expr} (h : p.Derives ts e) :
    e.parensIn p.strength ≤ p.owed + countParens ts := by
  induction h with
  | @disjunction us vs left e _ _ ihHead ihTail =>
    have hmono := left.parensIn_mono (by decide : 1 ≤ 2)
    simp only [strength, owed, countParens_append] at ihHead ihTail ⊢
    omega
  | disjunctsNil => exact Nat.le_add_right _ _
  | @disjunctsCons left t us right vs e _ _ _ ihHead ihTail =>
    have hrow := Expr.parensIn_or left right
    simp only [strength, owed, countParens_append, countParens_cons] at ihHead ihTail ⊢
    omega
  | @conjunction us vs left e _ _ ihHead ihTail =>
    have hmono := left.parensIn_mono (by decide : 2 ≤ 3)
    simp only [strength, owed, countParens_append] at ihHead ihTail ⊢
    omega
  | conjunctsNil => exact Nat.le_add_right _ _
  | @conjunctsCons left t us right vs e _ _ _ ihHead ihTail =>
    have hrow := Expr.parensIn_and left right
    simp only [strength, owed, countParens_append, countParens_cons] at ihHead ihTail ⊢
    omega
  | negation _ ih => exact (Expr.parensIn_mono (Nat.le_succ 3) _).trans ih
  | @not t ts e _ _ ih =>
    have hnot := Expr.parensIn_not e
    simp only [strength, owed, countParens_cons] at ih ⊢
    omega
  | comparison _ ih => exact (Expr.parensIn_mono (Nat.le_succ 4) _).trans ih
  | @compare us left t op vs right _ _ _ ihLeft ihRight =>
    have hcompare := Expr.parensIn_compare op left right
    simp only [strength, owed, countParens_append, countParens_cons] at ihLeft ihRight ⊢
    omega
  | literal _ => exact Nat.zero_le _
  | emptyList _ _ => exact Nat.zero_le _
  | list _ _ _ => exact Nat.zero_le _
  | reference _ _ _ _ => exact Nat.zero_le _
  | @parens t ts e u hopen _ hclose ih =>
    -- The two parentheses pay for the tighter place.
    have htight := e.parensIn_le_add_two 1 5
    simp only [strength, owed, countParens_append, countParens_cons, hopen, hclose,
      TokenKind.isParen, if_true] at ih ⊢
    omega

end Phrase

/-! ## What is written -/

/-- Whether a text ends outside of strings, and has some number of parentheses outside of them. -/
structure HasParens (s : List Char) (n : Nat) : Prop where
  /-- It ends outside of strings. -/
  after_eq : outside.after s = outside
  /-- So many parentheses are outside of strings. -/
  countP_eq : (outside.unquoted s).countP isParenChar = n

namespace HasParens

variable {s t : List Char} {m n : Nat}

/-- Two texts have the parentheses of both. -/
theorem append (hs : HasParens s m) (ht : HasParens t n) : HasParens (s ++ t) (m + n) where
  after_eq := by rw [Quoting.after_append, hs.after_eq, ht.after_eq]
  countP_eq := by
    rw [Quoting.unquoted_append, List.countP_append, hs.after_eq, hs.countP_eq, ht.countP_eq]

/-- A token is counted as one parenthesis or none. -/
theorem of_form {l : Lexeme} (h : l.Form) : HasParens l.text (if l.kind.isParen then 1 else 0) :=
  ⟨h.after_text, h.countP_unquoted marks_isParen⟩

/-- A symbol is counted as one parenthesis or none. -/
theorem of_symbol {k : TokenKind} (hk : k ∈ symbols) :
    HasParens (symbolText k) (if k.isParen then 1 else 0) :=
  of_form (.symbol hk)

/-- A text may start with one more blank. -/
theorem blank (h : HasParens s n) : HasParens (' ' :: s) n := ⟨h.after_eq, h.countP_eq⟩

/-- A text may start with one more parenthesis. -/
theorem paren {c : Char} (hc : isParenChar c = true) (h : HasParens s n) :
    HasParens (c :: s) (n + 1) := by
  have hnext : outside.next c = outside := by
    refine if_neg fun hquote => ?_
    rw [hquote] at hc
    cases hc
  constructor
  · rw [Quoting.after, List.foldl_cons, hnext]
    exact h.after_eq
  · rw [Quoting.unquoted, hnext, List.countP_cons_of_pos hc, h.countP_eq]

/-- A text has one number of parentheses. -/
theorem unique (hm : HasParens s m) (hn : HasParens s n) : m = n :=
  hm.countP_eq.symm.trans hn.countP_eq

/-- The tokens of a text are counted by its characters. -/
theorem of_scan {p : Position} {stream : TokenStream} (hscan : TokenStream.scan p s = .ok stream) :
    HasParens s (countParens stream.tokens) := by
  have hspells := TokenStream.spells_of_scan hscan
  refine ⟨hspells.after_eq, ?_⟩
  rw [hspells.countP_unquoted marks_isParen, List.countP_map]
  rfl

end HasParens

/-- A constant is written without parentheses. -/
theorem Scalar.hasParens_render {v : Scalar} (h : v.IsWritable) : HasParens v.render.toList 0 := by
  obtain ⟨l, hl⟩ := exists_isWritten h
  have hconstant := hl.constant ⟨l.kind, String.ofList l.value, .start⟩ rfl
  have hkind : l.kind.isParen = false :=
    marks_isParen.kind_eq_false (Token.kind_not_mem_symbols hconstant)
  have htext := HasParens.of_form hl.form
  rwa [hl.text, hkind, if_neg Bool.false_ne_true] at htext

/-- The items of a list are written without parentheses. -/
theorem hasParens_items {items : List Scalar} (h : ∀ v ∈ items, v.IsWritable) :
    HasParens (", ".intercalate (items.map Scalar.render)).toList 0 := by
  induction items with
  | nil => exact ⟨rfl, rfl⟩
  | cons v items ih =>
    rw [List.forall_mem_cons] at h
    have hfirst := Scalar.hasParens_render h.1
    cases items with
    | nil =>
      rw [List.map_singleton, String.intercalate_singleton]
      exact hfirst
    | cons w items =>
      have hcomma : HasParens (symbolText .comma) 0 := .of_symbol (by decide)
      rw [List.map_cons, List.map_cons, toList_intercalate_cons_cons]
      exact hfirst.append (hcomma.append (ih h.2).blank)

/-- A name is written without parentheses. -/
theorem IsNameText.hasParens {s : List Char} (h : IsNameText s) : HasParens s 0 := by
  obtain ⟨⟨c, cs, rfl, hstart, hmore⟩, hkind⟩ := h
  have hword := HasParens.of_form (.word hstart hmore)
  rwa [hkind] at hword

/-- A reference is written without parentheses. -/
theorem Reference.hasParens_dotted {r : Reference} (h : IsName r.identifier) :
    HasParens r.dotted.toList 0 := by
  have hdot : HasParens (symbolText .dot) 0 := .of_symbol (by decide)
  unfold dotted
  rw [String.toList_append, String.toList_append]
  exact ((isNameText_scope r.scope).hasParens.append hdot).append (isName_iff.1 h).hasParens

namespace Expr

/-- Where the text of an expression without parentheses around it is counted, so is its text in any
place. -/
theorem hasParens_renderIn_of_precedence {e : Expr}
    (h : HasParens (e.renderIn e.precedence).toList (e.parensIn e.precedence)) (parent : Nat) :
    HasParens (e.renderIn parent).toList (e.parensIn parent) := by
  rw [renderIn_eq, parensIn_eq]
  split_ifs
  · have hopen : HasParens (symbolText .leftParen) 1 := .of_symbol (by decide)
    have hclose : HasParens (symbolText .rightParen) 1 := .of_symbol (by decide)
    rw [String.toList_append, String.toList_append]
    have hboth := (hopen.append h).append hclose
    rwa [Nat.add_comm 1] at hboth
  · exact h

/-- Two texts with a symbol and blanks between them have the parentheses of both. -/
theorem hasParens_between {k : TokenKind} {s t : List Char} {m n : Nat} (hk : k ∈ symbols)
    (hkind : k.isParen = false) (hs : HasParens s m) (ht : HasParens t n) :
    HasParens (s ++ ' ' :: (symbolText k ++ ' ' :: t)) (m + n) := by
  have hsymbol := HasParens.of_symbol hk
  rw [hkind, if_neg Bool.false_ne_true] at hsymbol
  have htail := (hsymbol.append ht.blank).blank
  rw [Nat.zero_add] at htail
  exact hs.append htail

/-- An expression is written with the parentheses that its place asks for. -/
theorem hasParens_renderIn {e : Expr} (h : e.WellFormed) (parent : Nat) :
    HasParens (e.renderIn parent).toList (e.parensIn parent) := by
  induction e generalizing parent with
  | literal v =>
    refine hasParens_renderIn_of_precedence ?_ parent
    exact Scalar.hasParens_render (List.forall_mem_singleton.1 h.constants)
  | list items =>
    refine hasParens_renderIn_of_precedence ?_ parent
    have hopen : HasParens (symbolText .leftBracket) 0 := .of_symbol (by decide)
    have hclose : HasParens (symbolText .rightBracket) 0 := .of_symbol (by decide)
    show HasParens ("[" ++ ", ".intercalate (items.map Scalar.render) ++ "]").toList 0
    rw [String.toList_append, String.toList_append]
    exact (hopen.append (hasParens_items h.constants)).append hclose
  | reference r =>
    refine hasParens_renderIn_of_precedence ?_ parent
    exact Reference.hasParens_dotted (h.names r List.mem_cons_self)
  | compare op l r ihl ihr =>
    refine hasParens_renderIn_of_precedence ?_ parent
    obtain ⟨hl, hr⟩ := h.operands rfl rfl h.ordersNoList.2
    have hsymbol : TokenKind.comparison op ∈ symbols := by cases op <;> decide
    show HasParens ((compare op l r).renderIn 4).toList ((compare op l r).parensIn 4)
    rw [toList_renderIn_compare, parensIn_compare]
    exact hasParens_between hsymbol rfl (ihl hl 5) (ihr hr 5)
  | and l r ihl ihr =>
    refine hasParens_renderIn_of_precedence ?_ parent
    obtain ⟨hl, hr⟩ := h.operands rfl rfl h.ordersNoList
    show HasParens ((and l r).renderIn 2).toList ((and l r).parensIn 2)
    rw [toList_renderIn_and, parensIn_and]
    exact hasParens_between (by decide) rfl (ihl hl 2) (ihr hr 3)
  | or l r ihl ihr =>
    refine hasParens_renderIn_of_precedence ?_ parent
    obtain ⟨hl, hr⟩ := h.operands rfl rfl h.ordersNoList
    show HasParens ((or l r).renderIn 1).toList ((or l r).parensIn 1)
    rw [toList_renderIn_or, parensIn_or]
    exact hasParens_between (by decide) rfl (ihl hl 1) (ihr hr 2)
  | not x ih =>
    refine hasParens_renderIn_of_precedence ?_ parent
    have hsymbol : HasParens (symbolText .not) 0 := .of_symbol (by decide)
    have htext := hsymbol.append (ih ⟨h.constants, h.names, h.ordersNoList⟩ 3)
    show HasParens ((not x).renderIn 3).toList ((not x).parensIn 3)
    rw [toList_renderIn_not, parensIn_not]
    rwa [Nat.zero_add] at htext

end Expr

/-! ## Fewer parentheses -/

/-- The second text is the first one less an opening and a later closing parenthesis, which are
tokens of it. -/
inductive DropsParens : String → String → Prop
  /-- The parentheses stand around `inner`, whether or not they match. -/
  | mk {front inner back : List Char} {stream : TokenStream} {t u : Token}
    (htokens : tokenize (String.ofList (front ++ '(' :: (inner ++ ')' :: back))) = .ok stream)
    (ht : t ∈ stream.tokens) (hopen : t.kind = .leftParen)
    (htplace : t.position = Position.start.after front)
    (hu : u ∈ stream.tokens) (hclose : u.kind = .rightParen)
    (huplace : u.position = Position.start.after (front ++ '(' :: inner)) :
    DropsParens (String.ofList (front ++ '(' :: (inner ++ ')' :: back)))
      (String.ofList (front ++ (inner ++ back)))

/-- A token stands outside of strings. -/
theorem outside_of_place {source : String} {stream : TokenStream}
    (htokens : tokenize source = .ok stream) {t : Token} (ht : t ∈ stream.tokens)
    {front back : List Char} (hsource : source.toList = front ++ back)
    (hplace : t.position = Position.start.after front) : outside.after front = outside := by
  obtain ⟨before, l, rest, hsplit, hbefore, -, -, hafter⟩ :=
    (TokenStream.spells_of_scan htokens).exists_place htokens ht
  have heq : front = before :=
    Position.eq_of_after_eq (hsource.symm.trans hsplit) (hplace.symm.trans hbefore.symm)
  rw [heq, hafter]

/-- A text less two of its parentheses has two parentheses less. -/
theorem DropsParens.countParens_add_two {source shorter : String} (h : DropsParens source shorter)
    {given fewer : TokenStream} (hgiven : tokenize source = .ok given)
    (hfewer : tokenize shorter = .ok fewer) :
    countParens fewer.tokens + 2 = countParens given.tokens := by
  obtain @⟨front, inner, back, stream, t, u, htokens, ht, -, htplace, hu, -, huplace⟩ := h
  obtain rfl : stream = given := Except.ok.inj (htokens.symm.trans hgiven)
  have hwhole := HasParens.of_scan hgiven
  have hshort := HasParens.of_scan hfewer
  rw [String.toList_ofList] at hwhole hshort
  -- Both parentheses stand outside of strings, so each of the three parts ends there.
  have hfront : outside.after front = outside :=
    outside_of_place htokens ht (String.toList_ofList) htplace
  have hinner : outside.after inner = outside := by
    have hsource : (String.ofList (front ++ '(' :: (inner ++ ')' :: back))).toList =
        (front ++ '(' :: inner) ++ ')' :: back := by
      rw [String.toList_ofList, List.append_assoc, List.cons_append]
    have hplace := outside_of_place htokens hu hsource huplace
    exact Quoting.outside_of_append (t := '(' :: inner) hplace hfront
  have hback : outside.after back = outside := by
    have hend : outside.after (inner ++ ')' :: back) = outside :=
      Quoting.outside_of_append (t := '(' :: (inner ++ ')' :: back)) hwhole.after_eq hfront
    exact Quoting.outside_of_append (t := ')' :: back) hend hinner
  have hparts : HasParens (inner ++ ')' :: back) _ :=
    .append ⟨hinner, rfl⟩ (.paren rfl ⟨hback, rfl⟩)
  have hgiven' := hwhole.unique (.append ⟨hfront, rfl⟩ (hparts.paren rfl))
  have hfewer' := hshort.unique (.append ⟨hfront, rfl⟩ (.append ⟨hinner, rfl⟩ ⟨hback, rfl⟩))
  omega

namespace Expr

/-- The rendering of an expression has the parentheses of the loosest place. -/
theorem countParens_render {e : Expr} (h : e.WellFormed) {written : TokenStream}
    (hwritten : tokenize e.render = .ok written) :
    countParens written.tokens = e.parensIn 1 := by
  rw [← parensIn_zero]
  exact (HasParens.of_scan hwritten).unique (hasParens_renderIn h 0)

/-- A text of an expression has the parentheses of the loosest place at least. -/
theorem parensIn_le_countParens {source : String} {e : Expr} (h : Expr.parse source = .ok e)
    {given : TokenStream} (hgiven : tokenize source = .ok given) :
    e.parensIn 1 ≤ countParens given.tokens := by
  have hle : e.parensIn 1 ≤ 0 + countParens given.tokens :=
    (((parse_eq_ok_iff hgiven).1 e).1 h).derives.parensIn_le
  rwa [Nat.zero_add] at hle

/-- The rendering of an expression has no more parentheses than any text that is read as the
expression. Less an opening and a later closing one it is no text, or the text of an expression that
is not even equal to it as data. -/
theorem countParens_render_le {source : String} {e : Expr} (h : Expr.parse source = .ok e) :
    ∃ given written, tokenize source = .ok given ∧ tokenize e.render = .ok written ∧
      countParens written.tokens ≤ countParens given.tokens ∧
      ∀ shorter, DropsParens e.render shorter → ∀ e', Expr.parse shorter = .ok e' →
        e' ≠ e ∧ e'.alike e = false := by
  have hwell := Expr.wellFormed_of_parse h
  obtain ⟨given, hgiven, -⟩ := bind_eq_ok_iff.1 h
  obtain ⟨written, hwritten, -⟩ := bind_eq_ok_iff.1 (Expr.parse_render_of_wellFormed hwell)
  have hrender := countParens_render hwell hwritten
  refine ⟨given, written, hgiven, hwritten, hrender ▸ parensIn_le_countParens h hgiven, ?_⟩
  intro shorter hdrops e' h'
  obtain ⟨fewer, hfewer, -⟩ := bind_eq_ok_iff.1 h'
  have hless := hdrops.countParens_add_two hwritten hfewer
  have hmore := parensIn_le_countParens h' hfewer
  have hne : e'.parensIn 1 ≠ e.parensIn 1 := by omega
  constructor
  · rintro rfl
    exact hne rfl
  · exact Bool.eq_false_iff.2 fun halike => hne (parensIn_of_alike halike 1)

/-- The rendering of an expression in parentheses is read as the expression. -/
theorem parse_parens {e : Expr} (h : e.WellFormed) :
    Expr.parse ("(" ++ e.render ++ ")") = .ok e := by
  have hcuts : CutsTo ("(" ++ e.render ++ ")").toList fun ts =>
      Phrase.disjunction.Accepts ts e := by
    rw [String.toList_append, String.toList_append, List.append_assoc]
    have hopen : TokenKind.leftParen ∈ symbols := by decide
    have hopens : Opens (symbolText .leftParen) := by decide
    have hclose : TokenKind.rightParen.text?.isSome = true := rfl
    have hends : Lexeme.Ends (symbolText .rightParen) := by decide
    refine ((cutsTo_renderIn h 0).enclosed hopen hopens hclose hends).mono fun ts hts => ?_
    obtain ⟨t, us, u, rfl, ht, hus, hu⟩ := hts
    exact (Phrase.Accepts.parens ht hus hu).of_operand 0
  obtain ⟨stream, htokens, haccepts⟩ := hcuts.exists_tokenize_eq
  exact ((parse_eq_ok_iff htokens).1 e).2 haccepts

/-- The parentheses around a negation are dropped, and those behind its `!` are not. -/
theorem countParens_render_not_or :
    ∃ given written, tokenize "(!(true || false))" = .ok given ∧
      tokenize "!(true || false)" = .ok written ∧
      countParens written.tokens ≤ countParens given.tokens ∧
      ∀ shorter, DropsParens "!(true || false)" shorter → ∀ e', Expr.parse shorter = .ok e' →
        e' ≠ .not (.or (.literal (.bool true)) (.literal (.bool false))) ∧
        e'.alike (.not (.or (.literal (.bool true)) (.literal (.bool false)))) = false :=
  countParens_render_le (parse_parens (e := .not (.or (.literal (.bool true))
    (.literal (.bool false)))) ⟨by simp [constants, Scalar.IsWritable], List.forall_mem_nil _,
      trivial, trivial⟩)

end Expr

end CheckDoc
