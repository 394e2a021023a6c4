import CheckDoc.Expr.Render
import CheckDoc.Proofs.Expr.Numerals

/-!
# Texts that are cut as they are written

A written text is put together from the texts of tokens, and it has to be cut back into them. This
does not depend on the token alone: `!` in front of `=` is another operator, and a name in front of
a digit goes on. `Writes` asks for the cut only in front of a character that no token goes on with,
and the lemmas on it say which texts can stand side by side. Each constant is written as the text
of one token, which stands for the constant (`Scalar.exists_form`).
-/

namespace CheckDoc

open Lexeme (Ends symbols symbolText)

/-- Whether a text is cut into some tokens and what follows it into others, where no token of the
text goes on with what follows. -/
def Writes (s : List Char) (words : List Word) : Prop :=
  ∀ rest more, Ends rest → Spells rest more → Spells (s ++ rest) (words ++ more)

/-- The operator, mark or word of a kind as a token. -/
def TokenKind.word (k : TokenKind) : Word := (k, k.text?.getD "")

/-- A kind with a text of its own is a form of tokens. -/
theorem Lexeme.form_of_text? {k : TokenKind} (hk : k.text?.isSome = true) :
    Lexeme.Form ⟨k, symbolText k, symbolText k⟩ := by
  have hword : ∀ {c : Char} {cs : List Char}, startsName c = true →
      cs.all continuesName = true → Lexeme.Form ⟨wordKind (c :: cs), c :: cs, c :: cs⟩ :=
    fun hstart hmore => .word hstart (List.all_eq_true.1 hmore)
  cases k with
  | trueWord => exact hword (by decide : startsName 't') (by decide : ['r', 'u', 'e'].all _)
  | falseWord => exact hword (by decide : startsName 'f') (by decide : ['a', 'l', 's', 'e'].all _)
  | ifWord => exact hword (by decide : startsName 'i') (by decide : ['f'].all _)
  | elseWord => exact hword (by decide : startsName 'e') (by decide : ['l', 's', 'e'].all _)
  | comparison op => exact .symbol (by cases op <;> decide)
  | string => cases hk
  | integer => cases hk
  | float => cases hk
  | identifier => cases hk
  | _ => exact .symbol (by decide)

/-- The token of a symbol. -/
theorem Lexeme.word_symbol (k : TokenKind) :
    Lexeme.word ⟨k, symbolText k, symbolText k⟩ = k.word := by
  unfold Lexeme.word TokenKind.word symbolText
  rw [String.ofList_toList]

variable {s t : List Char} {ws vs : List Word}

/-- The kind and the value of a token that is like another. -/
theorem Token.word_eq {t : Token} {k : TokenKind} {text value : List Char}
    (h : t.word = Lexeme.word ⟨k, text, value⟩) : t.kind = k ∧ t.value.toList = value := by
  obtain ⟨hkind, hvalue⟩ := Prod.mk.inj h
  exact ⟨hkind, by rw [hvalue, String.toList_ofList]⟩

/-! ## Side by side -/

/-- A text may start with one more blank. -/
theorem Spells.blank (h : Spells s ws) : Spells (' ' :: s) ws := by
  cases h with
  | nil hblanks => exact .nil (List.forall_mem_cons.2 ⟨rfl, hblanks⟩)
  | cons hblanks hfirst more => exact .cons (List.forall_mem_cons.2 ⟨rfl, hblanks⟩) hfirst more

/-- A text may start with one more token. -/
theorem Spells.token {l : Lexeme} (hfirst : l.IsFirst s) (h : Spells s ws) :
    Spells (l.text ++ s) (l.word :: ws) :=
  .cons (List.forall_mem_nil _) hfirst h

/-- No token goes on with a text that starts with such a character. -/
theorem Lexeme.Ends.append (hs : Ends s) (ht : Ends t) : Ends (s ++ t) := by
  cases s with
  | nil => exact ht
  | cons c cs => exact ends_cons.2 (ends_cons.1 hs)

/-- No token goes on with a space. -/
theorem Lexeme.ends_blank (s : List Char) : Ends (' ' :: s) := ends_of_isBlank rfl s

/-- Whether every symbol may stand in front of a text: it does not start with `=`. -/
def Opens (s : List Char) : Prop := ∀ c ∈ s.head?, c ≠ '='

instance (s : List Char) : Decidable (Opens s) :=
  decidable_of_iff (s.head? ≠ some '=')
    ⟨fun h _ hc heq => h (heq ▸ hc), fun h hs => h '=' hs rfl⟩

/-- How two texts start is decided by the first, or by the second where the first is empty. -/
theorem Opens.append (hs : Opens s) (ht : Opens t) : Opens (s ++ t) := by
  cases s with
  | nil => exact ht
  | cons c cs => exact hs

/-- A text that no token goes on with does not start with `=`. -/
theorem Lexeme.Ends.opens (hs : Ends s) : Opens s := fun c hc => (hs c hc).2.2

namespace Writes

/-- The text of a token is cut into it. -/
theorem of_form {l : Lexeme} (h : l.Form) : Writes l.text [l.word] :=
  fun _ _ hrest hmore => hmore.token (h.isFirst hrest)

/-- Two texts are cut side by side where no token goes on with the second one. -/
theorem append (hs : Writes s ws) (ht : Writes t vs) (hends : Ends t) :
    Writes (s ++ t) (ws ++ vs) := by
  intro rest more hrest hmore
  rw [List.append_assoc, List.append_assoc]
  exact hs _ _ (hends.append hrest) (ht _ _ hrest hmore)

/-- A text may start with one more blank. -/
theorem blank (h : Writes s ws) : Writes (' ' :: s) ws :=
  fun rest more hrest hmore => (h rest more hrest hmore).blank

/-- A symbol may stand in front of a text that does not start with `=`. -/
theorem symbol_append {k : TokenKind} (hk : k ∈ symbols) (hopens : Opens s) (hs : Writes s ws) :
    Writes (symbolText k ++ s) (k.word :: ws) := by
  -- Of the characters that tokens go on with, only `=` matters to a symbol; so the text may
  -- start with a name.
  intro rest more hrest hmore
  rw [List.append_assoc, List.cons_append, ← Lexeme.word_symbol]
  exact (hs rest more hrest hmore).token (Lexeme.isFirst_symbol hk (hopens.append hrest.opens))

end Writes

/-! ## What the tokens of a text are -/

/-- Whether a text is cut into tokens with a property, wherever it stands, and a symbol may stand in
front of it. -/
def CutsTo (s : List Char) (P : List Token → Prop) : Prop :=
  ∃ words, Writes s words ∧ Opens s ∧ ∀ ts, ts.map Token.word = words → P ts

namespace CutsTo

variable {P Q : List Token → Prop}

/-- A text that is cut into tokens with a property is scanned as tokens with this property. -/
theorem exists_tokenize_eq {source : String} (h : CutsTo source.toList P) :
    ∃ stream, tokenize source = .ok stream ∧ P stream.tokens := by
  obtain ⟨words, hwrites, -, hall⟩ := h
  have hspells := hwrites [] [] Lexeme.ends_nil (.nil (List.forall_mem_nil _))
  rw [List.append_nil, List.append_nil] at hspells
  obtain ⟨stream, hscan, hwords⟩ := TokenStream.exists_scan_eq hspells .start
  exact ⟨stream, hscan, hall _ hwords⟩

/-- A property of the tokens may be weakened. -/
theorem mono (h : CutsTo s P) (himp : ∀ ts, P ts → Q ts) : CutsTo s Q := by
  obtain ⟨words, hwrites, hopens, hall⟩ := h
  exact ⟨words, hwrites, hopens, fun ts hts => himp ts (hall ts hts)⟩

/-- The empty text has no tokens. -/
theorem nil : CutsTo [] (· = []) :=
  ⟨[], fun _ _ _ hmore => hmore, Lexeme.ends_nil.opens, fun _ hts => List.map_eq_nil_iff.1 hts⟩

/-- The text of a token that is no comparison is cut into it. -/
theorem of_form {l : Lexeme} (h : l.Form) (hopens : Opens l.text) :
    CutsTo l.text fun ts => ∃ t, ts = [t] ∧ t.word = l.word :=
  ⟨[l.word], .of_form h, hopens, fun _ hts => List.map_eq_singleton_iff.1 hts⟩

/-- Two texts are cut side by side where no token goes on with the second one. -/
theorem append (hs : CutsTo s P) (ht : CutsTo t Q) (hends : Ends t) :
    CutsTo (s ++ t) fun ts => ∃ us vs, ts = us ++ vs ∧ P us ∧ Q vs := by
  obtain ⟨words, hwrites, hopens, hall⟩ := hs
  obtain ⟨words', hwrites', hopens', hall'⟩ := ht
  refine ⟨words ++ words', hwrites.append hwrites' hends, hopens.append hopens', fun ts hts => ?_⟩
  obtain ⟨us, vs, rfl, hus, hvs⟩ := List.map_eq_append_iff.1 hts
  exact ⟨us, vs, rfl, hall us hus, hall' vs hvs⟩

/-- Two texts are cut side by side where a blank stands between them. -/
theorem append_blank (hs : CutsTo s P) (ht : CutsTo t Q) :
    CutsTo (s ++ ' ' :: t) fun ts => ∃ us vs, ts = us ++ vs ∧ P us ∧ Q vs := by
  obtain ⟨words, hwrites, hopens, hall⟩ := ht
  have hblank : CutsTo (' ' :: t) Q :=
    ⟨words, hwrites.blank, (Lexeme.ends_blank t).opens, hall⟩
  exact hs.append hblank (Lexeme.ends_blank t)

/-- A text may stand after a symbol. -/
theorem symbol_append {k : TokenKind} (hk : k ∈ symbols) (hopens : Opens (symbolText k))
    (hs : CutsTo s P) :
    CutsTo (symbolText k ++ s) fun ts => ∃ t us, ts = t :: us ∧ t.kind = k ∧ P us := by
  obtain ⟨words, hwrites, hopens', hall⟩ := hs
  refine ⟨k.word :: words, hwrites.symbol_append hk hopens', hopens.append hopens',
    fun ts hts => ?_⟩
  obtain ⟨t, us, rfl, ht, hus⟩ := List.map_eq_cons_iff.1 hts
  exact ⟨t, us, rfl, (congrArg Prod.fst ht : t.kind = k), hall us hus⟩

/-- The text of a kind that has a text of its own is cut into a token of this kind. -/
theorem of_text? {k : TokenKind} (hk : k.text?.isSome = true) (hopens : Opens (symbolText k)) :
    CutsTo (symbolText k) fun ts => ∃ t, ts = [t] ∧ t.kind = k := by
  refine (of_form (Lexeme.form_of_text? hk) hopens).mono fun ts hts => ?_
  obtain ⟨t, rfl, ht⟩ := hts
  exact ⟨t, rfl, (Token.word_eq ht).1⟩

/-- A text may stand between two symbols. -/
theorem enclosed {k k' : TokenKind} (hk : k ∈ symbols) (hopens : Opens (symbolText k))
    (hk' : k'.text?.isSome = true) (hends : Ends (symbolText k')) (hs : CutsTo s P) :
    CutsTo (symbolText k ++ (s ++ symbolText k')) fun ts =>
      ∃ t us u, ts = t :: (us ++ [u]) ∧ t.kind = k ∧ P us ∧ u.kind = k' := by
  have hclose := hs.append (of_text? hk' hends.opens) hends
  refine (hclose.symbol_append hk hopens).mono fun ts hts => ?_
  obtain ⟨t, _, rfl, ht, us, _, rfl, hus, u, rfl, hu⟩ := hts
  exact ⟨t, us, u, rfl, ht, hus, hu⟩

/-- Two texts may have a token with blanks around it between them. -/
theorem between {k : TokenKind} (hk : k.text?.isSome = true) (hs : CutsTo s P)
    (ht : CutsTo t Q) :
    CutsTo (s ++ ' ' :: (symbolText k ++ ' ' :: t)) fun ts =>
      ∃ us u vs, ts = us ++ u :: vs ∧ P us ∧ u.kind = k ∧ Q vs := by
  obtain ⟨words, hwrites, hopens, hall⟩ := hs
  obtain ⟨words', hwrites', -, hall'⟩ := ht
  -- The blank in front of the token is why it may start with `=`.
  have htoken : Writes (symbolText k) [k.word] := by
    rw [← Lexeme.word_symbol]
    exact .of_form (Lexeme.form_of_text? hk)
  have htail : Writes (' ' :: (symbolText k ++ ' ' :: t)) (k.word :: words') :=
    (htoken.append hwrites'.blank (Lexeme.ends_blank t)).blank
  have hends := Lexeme.ends_blank (symbolText k ++ ' ' :: t)
  refine ⟨words ++ k.word :: words', hwrites.append htail hends, hopens.append hends.opens,
    fun ts hts => ?_⟩
  obtain ⟨us, _, rfl, hus, hmore⟩ := List.map_eq_append_iff.1 hts
  obtain ⟨u, vs, rfl, hu, hvs⟩ := List.map_eq_cons_iff.1 hmore
  exact ⟨us, u, vs, rfl, hall us hus, (congrArg Prod.fst hu : u.kind = k), hall' vs hvs⟩

end CutsTo

/-! ## Constants -/

/-- Whether a constant is written as a text that can be read: an integer has 4300 digits at most,
and any other number is finite. -/
def Scalar.IsWritable : Scalar → Prop
  | .str _ => True
  | .int n => (Nat.toDigits 10 n.natAbs).length ≤ maxIntegerDigits
  | .float x => x.isFinite = true
  | .bool _ => True

/-- A number starts with a minus or a digit. -/
theorem NumberText.exists_cons {k : TokenKind} (h : NumberText k s) :
    ∃ c cs, s = c :: cs ∧ (c = '-' ∨ c.isDigit = true) := by
  have hsign : ∀ neg {c cs}, c.isDigit = true →
      ∃ d ds, Decimal.sign neg ++ c :: cs = d :: ds ∧ (d = '-' ∨ d.isDigit = true) := by
    intro neg c cs hc
    cases neg with
    | true => exact ⟨'-', c :: cs, rfl, .inl rfl⟩
    | false => exact ⟨c, cs, rfl, .inr hc⟩
  cases h with
  | @integer neg digits hdigits =>
    obtain ⟨c, cs, rfl, hc⟩ := hdigits.exists_cons
    exact hsign neg hc
  | @float neg whole part hwhole hpart =>
    obtain ⟨c, cs, rfl, hc⟩ := hwhole.exists_cons
    exact hsign neg hc

/-- Only comparisons start with `=`. -/
theorem Lexeme.Form.opens {l : Lexeme} (h : l.Form) (hkind : l.kind.isComparison = false) :
    Opens l.text := by
  intro c hc
  -- The first character of a string, a number or a word is known, and it is not `=`.
  cases h with
  | symbol hk =>
    have hall : (symbols.all fun k => k.isComparison = false → Opens (symbolText k)) = true := by
      decide
    exact of_decide_eq_true (List.all_eq_true.1 hall _ hk) hkind c hc
  | string _ =>
    cases hc
    decide
  | number hs =>
    obtain ⟨d, ds, rfl, hd⟩ := hs.exists_cons
    cases hc
    rintro rfl
    exact absurd hd (by decide)
  | word hstart _ =>
    cases hc
    rintro rfl
    exact absurd hstart (by decide)

/-- A text with its escapes is the body of a string that stands for it. -/
theorem stringText_escape (s : List Char) :
    Lexeme.StringText (s.flatMap Scalar.escape ++ ['"']) s := by
  induction s with
  | nil => exact .close
  | cons c cs ih =>
    rw [List.flatMap_cons, List.append_assoc]
    -- The characters with an escape are those that may not stand in a string, and the tab.
    unfold Scalar.escape
    split_ifs with hslash hquote hline htab
    · exact .escape (by rw [hslash]; decide) ih
    · exact .escape (by rw [hquote]; decide) ih
    · exact .escape (by rw [hline]; decide) ih
    · exact .escape (by rw [htab]; decide) ih
    · exact .plain hquote hline hslash ih

namespace Scalar

/-- Whether a token is the text of a constant: it has the form of a token, and such a token stands
for the constant. -/
structure IsWritten (v : Scalar) (l : Lexeme) : Prop where
  /-- The token has a form. -/
  form : l.Form
  /-- Its text is that of the constant. -/
  text : l.text = v.render.toList
  /-- A token like this stands for the constant. -/
  constant : ∀ t : Token, t.word = l.word → t.constant? = some v
  /-- Its number is in range. -/
  inRange : ∀ t : Token, t.word = l.word → t.InRange

/-- A text is written as a string. -/
theorem isWritten_str (s : String) :
    (str s).IsWritten ⟨.string, '"' :: (s.toList.flatMap escape ++ ['"']), s.toList⟩ := by
  refine ⟨.string (stringText_escape _), ?_, fun t ht => ?_, fun t ht => ?_⟩
  · simp only [render, String.toList_append, String.toList_ofList]
    rfl
  · obtain ⟨hkind, hvalue⟩ := Token.word_eq ht
    rw [Token.constant?, hkind, String.toList_inj.1 hvalue]
  · exact Token.inRange_of_kind (Token.word_eq ht).1 (by decide) (by decide)

/-- An integer is written as its digits. -/
theorem isWritten_int {n : Int} (h : (int n).IsWritable) :
    (int n).IsWritten ⟨.integer, (toString n).toList, (toString n).toList⟩ := by
  have htext : NumberText .integer (toString n).toList := by
    rw [toList_toString]
    exact .integer (isDigits_toDigits _)
  have hlength : (signed (toString n).toList).2.length ≤ maxIntegerDigits := by
    have hsigned := signed_sign (t := []) (decide (n < 0)) (isDigits_toDigits n.natAbs)
    rw [List.append_nil] at hsigned
    rw [toList_toString, hsigned]
    exact h
  refine ⟨.number htext, rfl, fun t ht => ?_, fun t ht => ?_⟩
  · obtain ⟨hkind, hvalue⟩ := Token.word_eq ht
    rw [Token.constant?, hkind]
    dsimp only
    rw [hvalue, integerValue_toString]
  · obtain ⟨hkind, hvalue⟩ := Token.word_eq ht
    refine ⟨fun _ => ?_, fun hfloat => ?_⟩
    · rw [hvalue]
      exact hlength
    · cases hkind.symm.trans hfloat

/-- A finite number is written with a point. -/
theorem isWritten_float (neg : Bool) (place : Fin Binary64.places) :
    (float (.finite neg place)).IsWritten ⟨.float, (Binary64.positional (.finite neg place)).toList,
      (Binary64.positional (.finite neg place)).toList⟩ := by
  have htext : NumberText .float (Binary64.positional (.finite neg place)).toList := by
    obtain ⟨whole, part, hwhole, hpart, htext, -⟩ :=
      exists_positional_eq (Decimal.shortest neg place)
    rw [Binary64.positional, String.toList_ofList, htext]
    exact .float hwhole hpart
  refine ⟨.number htext, rfl, fun t ht => ?_, fun t ht => ?_⟩
  · obtain ⟨hkind, hvalue⟩ := Token.word_eq ht
    rw [Token.constant?, hkind]
    dsimp only
    rw [hvalue, floatValue_positional]
  · obtain ⟨hkind, hvalue⟩ := Token.word_eq ht
    refine ⟨fun hinteger => ?_, fun _ => ?_⟩
    · cases hkind.symm.trans hinteger
    · rw [hvalue, floatValue_positional]
      rfl

/-- The word of a truth value. -/
def boolKind (b : Bool) : TokenKind := if b then .trueWord else .falseWord

/-- A truth value is written as a word. -/
theorem isWritten_bool (b : Bool) :
    (bool b).IsWritten ⟨boolKind b, symbolText (boolKind b), symbolText (boolKind b)⟩ := by
  refine ⟨Lexeme.form_of_text? (by cases b <;> rfl), by cases b <;> rfl, fun t ht => ?_,
    fun t ht => ?_⟩
  · rw [Token.constant?, (Token.word_eq ht).1]
    cases b <;> rfl
  · exact Token.inRange_of_kind (Token.word_eq ht).1 (by cases b <;> decide) (by cases b <;> decide)

/-- Every constant that can be written is written as one token. -/
theorem exists_isWritten {v : Scalar} (h : v.IsWritable) : ∃ l, v.IsWritten l := by
  cases v with
  | str s => exact ⟨_, isWritten_str s⟩
  | int n => exact ⟨_, isWritten_int h⟩
  | float x =>
    cases x with
    | nan => cases h
    | infinite neg => cases h
    | finite neg place => exact ⟨_, isWritten_float neg place⟩
  | bool b => exact ⟨_, isWritten_bool b⟩

/-- The text of a constant is cut into one token that stands for it. -/
theorem cutsTo_render {v : Scalar} (h : v.IsWritable) :
    CutsTo v.render.toList fun ts => ∃ t, ts = [t] ∧ t.constant? = some v ∧ t.InRange := by
  obtain ⟨l, hwritten⟩ := exists_isWritten h
  have hkind : l.kind.isComparison = false := by
    have hconstant := hwritten.constant ⟨l.kind, String.ofList l.value, .start⟩ rfl
    cases hk : l.kind with
    | comparison op =>
      rw [hk] at hconstant
      cases hconstant
    | _ => rfl
  rw [← hwritten.text]
  refine (CutsTo.of_form hwritten.form (hwritten.form.opens hkind)).mono fun ts hts => ?_
  obtain ⟨t, rfl, ht⟩ := hts
  exact ⟨t, rfl, hwritten.constant t ht, hwritten.inRange t ht⟩

end Scalar

/-! ## Names -/

/-- Whether a text is a name: the lexer finds one identifier in it, which is the whole text. -/
def IsName (s : String) : Prop :=
  ∃ t stop, tokenize s = .ok ⟨[t], stop⟩ ∧ t.kind = .identifier ∧ t.value = s

/-- The characters of a name. -/
structure IsNameText (s : List Char) : Prop where
  /-- The first character can start a name, and the others can go on with it. -/
  exists_cons : ∃ c cs, s = c :: cs ∧ Lexeme.startsName c = true ∧
    ∀ d ∈ cs, Lexeme.continuesName d = true
  /-- The text is none of the words with a kind of their own. -/
  wordKind_eq : Lexeme.wordKind s = .identifier

namespace IsNameText

/-- An identifier has the characters of a name. -/
theorem of_form {l : Lexeme} (h : l.Form) (hkind : l.kind = .identifier) :
    IsNameText l.value ∧ l.text = l.value := by
  cases h with
  | symbol hk =>
    obtain rfl : _ = TokenKind.identifier := hkind
    exact absurd hk (by decide)
  | string _ => cases hkind
  | number hs => cases hs <;> cases hkind
  | word hstart hmore => exact ⟨⟨⟨_, _, rfl, hstart, hmore⟩, hkind⟩, rfl⟩

/-- A name is read as an identifier where no name goes on with what follows. -/
theorem isFirst (h : IsNameText s) (hrest : ∀ c ∈ t.head?, Lexeme.continuesName c = false) :
    Lexeme.IsFirst ⟨.identifier, s, s⟩ t := by
  obtain ⟨⟨c, cs, rfl, hstart, hmore⟩, hkind⟩ := h
  rw [← hkind]
  exact Lexeme.isFirst_word hstart hmore hrest

/-- A name does not start with `=`. -/
theorem opens (h : IsNameText s) : Opens s := by
  obtain ⟨⟨c, cs, rfl, hstart, hmore⟩, hkind⟩ := h
  intro d hd
  cases hd
  rintro rfl
  exact absurd hstart (by decide)

end IsNameText

/-- A text is a name exactly when it has the characters of one. -/
theorem isName_iff {s : String} : IsName s ↔ IsNameText s.toList := by
  constructor
  · rintro ⟨t, stop, hscan, hkind, hvalue⟩
    have hspells : Spells s.toList [t.word] := TokenStream.spells_of_scan hscan
    generalize hs : s.toList = text at hspells
    generalize hw : [t.word] = words at hspells
    cases hspells with
    | nil => cases hw
    | @cons blanks l rest words hblanks hfirst more =>
      obtain ⟨hword, -⟩ := List.cons.inj hw
      obtain ⟨hkind', hvalue'⟩ := Token.word_eq hword
      rw [← hs, ← hvalue, hvalue']
      exact (IsNameText.of_form hfirst.form (hkind'.symm.trans hkind)).1
  · intro h
    have hwrites : Writes s.toList [(.identifier, s)] := fun rest more hrest hmore => by
      have hcut := hmore.token (h.isFirst fun c hc => (hrest c hc).1)
      rwa [Lexeme.word, String.ofList_toList] at hcut
    have hcuts : CutsTo s.toList fun ts => ∃ t, ts = [t] ∧ t.word = (.identifier, s) :=
      ⟨_, hwrites, h.opens, fun _ hts => List.map_eq_singleton_iff.1 hts⟩
    obtain ⟨⟨tokens, stop⟩, hscan, t, rfl, ht⟩ := hcuts.exists_tokenize_eq
    obtain ⟨hkind, hvalue⟩ := Prod.mk.inj ht
    exact ⟨t, stop, hscan, hkind, hvalue⟩

/-- The names of the scopes are names. -/
theorem isNameText_scope (scope : Scope) : IsNameText scope.name.toList := by
  cases scope with
  | facts =>
    have hmore : ['a', 'c', 't', 's'].all Lexeme.continuesName = true := by decide
    exact ⟨⟨'f', _, rfl, by decide, List.all_eq_true.1 hmore⟩, by decide⟩
  | values =>
    have hmore : ['a', 'l', 'u', 'e', 's'].all Lexeme.continuesName = true := by decide
    exact ⟨⟨'v', _, rfl, by decide, List.all_eq_true.1 hmore⟩, by decide⟩
  | env =>
    have hmore : ['n', 'v'].all Lexeme.continuesName = true := by decide
    exact ⟨⟨'e', _, rfl, by decide, List.all_eq_true.1 hmore⟩, by decide⟩

/-- A reference is cut into two names and a point. -/
theorem Reference.cutsTo_dotted {r : Reference} (h : IsName r.identifier) :
    CutsTo r.dotted.toList fun ts => ∃ t d name, ts = [t, d, name] ∧ t.kind = .identifier ∧
      t.value = r.scope.name ∧ d.kind = .dot ∧ name.kind = .identifier ∧
      name.value = r.identifier := by
  have hscope := isNameText_scope r.scope
  have hname := isName_iff.1 h
  have hwrites : Writes (r.scope.name.toList ++ '.' :: r.identifier.toList)
      [(.identifier, r.scope.name), TokenKind.dot.word, (.identifier, r.identifier)] := by
    -- The point stands between two names without blanks, so the tokens are put together from
    -- the right, each with the next character in view.
    intro rest more hrest hmore
    have hlast := hmore.token (hname.isFirst fun c hc => (hrest c hc).1)
    have hpoint := hlast.token (Lexeme.isFirst_symbol (by decide : TokenKind.dot ∈ symbols)
      (hname.opens.append hrest.opens))
    have hfirst := hpoint.token (hscope.isFirst fun c hc => by
      cases hc
      decide)
    simp only [Lexeme.word, String.ofList_toList] at hfirst
    rw [List.append_assoc]
    exact hfirst
  have htext : r.dotted.toList = r.scope.name.toList ++ '.' :: r.identifier.toList := by
    unfold dotted
    rw [String.toList_append, String.toList_append, List.append_assoc]
    rfl
  have hpoint : Opens ('.' :: r.identifier.toList) := fun c hc => by
    cases hc
    decide
  rw [htext]
  refine ⟨_, hwrites, hscope.opens.append hpoint, fun ts hts => ?_⟩
  obtain ⟨t, _, rfl, ht, htail⟩ := List.map_eq_cons_iff.1 hts
  obtain ⟨d, _, rfl, hd, hlast⟩ := List.map_eq_cons_iff.1 htail
  obtain ⟨name, rfl, hn⟩ := List.map_eq_singleton_iff.1 hlast
  obtain ⟨htkind, htvalue⟩ := Prod.mk.inj ht
  obtain ⟨hdkind, -⟩ := Prod.mk.inj hd
  obtain ⟨hnkind, hnvalue⟩ := Prod.mk.inj hn
  exact ⟨t, d, name, rfl, htkind, htvalue, hdkind, hnkind, hnvalue⟩

end CheckDoc
