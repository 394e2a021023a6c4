import CheckDoc.Expr.Lexer
import CheckDoc.Numeric.Decimal
import CheckDoc.Proofs.Outcome
import Mathlib.Tactic.SplitIfs

/-!
# How a text is cut

`Lexeme.Form` says what tokens look like, and `Spells` how a text is cut: blanks, a token that the
lexer reads at this place, and the rest of the text. A text can be cut exactly when it can be
scanned (`spells_iff_scan`). Whether a token is read at a place is decided by its form and by the
character that follows it, which neither a name nor a number nor an operator may go on with
(`Lexeme.Form.isFirst`).
-/

namespace CheckDoc

/-- The kind of a token and what it stands for. -/
abbrev Word := TokenKind × String

/-- A token without its place. -/
def Token.word (t : Token) : Word := (t.kind, t.value)

/-- A lexeme without its text. -/
def Lexeme.word (l : Lexeme) : Word := (l.kind, String.ofList l.value)

/-- Characters of a kind are taken up to one of another kind. -/
theorem takeWhile_append_of_head {p : Char → Bool} {s t : List Char}
    (hs : ∀ c ∈ s, p c = true) (ht : ∀ c ∈ t.head?, p c = false) :
    (s ++ t).takeWhile p = s ∧ (s ++ t).dropWhile p = t := by
  rw [List.takeWhile_append_of_pos hs, List.dropWhile_append_of_pos hs]
  cases t with
  | nil => simp
  | cons c cs => simp [ht c rfl]

/-! ## Forms of tokens -/

/-- Digits, one at least. -/
structure IsDigits (s : List Char) : Prop where
  /-- There is one. -/
  ne_nil : s ≠ []
  /-- All are digits. -/
  isDigit : ∀ c ∈ s, c.isDigit = true

/-- Digits start with a digit. -/
theorem IsDigits.exists_cons {s : List Char} (h : IsDigits s) :
    ∃ c cs, s = c :: cs ∧ c.isDigit = true := by
  obtain ⟨c, cs, rfl⟩ := List.exists_cons_of_ne_nil h.ne_nil
  exact ⟨c, cs, rfl, h.isDigit c List.mem_cons_self⟩

/-- The texts of numbers by the kinds of their tokens. -/
inductive NumberText : TokenKind → List Char → Prop
  /-- Digits after an optional minus. -/
  | integer {neg digits} (hdigits : IsDigits digits) :
    NumberText .integer (Decimal.sign neg ++ digits)
  /-- Digits, a point and digits after an optional minus. -/
  | float {neg whole part} (hwhole : IsDigits whole) (hpart : IsDigits part) :
    NumberText .float (Decimal.sign neg ++ (whole ++ '.' :: part))

namespace Lexeme

/-- The bodies of strings with their closing quotes, and what they stand for. -/
inductive StringText : List Char → List Char → Prop
  /-- The closing quote. -/
  | close : StringText ['"'] []
  /-- A character that stands for itself. -/
  | plain {c s v} (hquote : c ≠ '"') (hline : c ≠ '\n') (hslash : c ≠ '\\')
    (more : StringText s v) : StringText (c :: s) (c :: v)
  /-- A backslash and a letter. -/
  | escape {d x s v} (hletter : unescape? d = some x) (more : StringText s v) :
    StringText ('\\' :: d :: s) (x :: v)

/-- The forms of tokens. -/
inductive Form : Lexeme → Prop
  /-- An operator or a mark. -/
  | symbol {k} (hk : k ∈ symbols) : Form ⟨k, symbolText k, symbolText k⟩
  /-- A text in double quotes. -/
  | string {s v} (body : StringText s v) : Form ⟨.string, '"' :: s, v⟩
  /-- A number. -/
  | number {k s} (hs : NumberText k s) : Form ⟨k, s, s⟩
  /-- A name or one of the words `true`, `false`, `if` and `else`. -/
  | word {c cs} (hstart : startsName c = true) (hmore : ∀ d ∈ cs, continuesName d = true) :
    Form ⟨wordKind (c :: cs), c :: cs, c :: cs⟩

/-- The text of an integer is that of a number. -/
theorem Form.numberText {l : Lexeme} (h : l.Form) (hkind : l.kind = .integer) :
    NumberText .integer l.value := by
  cases h with
  | symbol hk =>
    obtain rfl : _ = TokenKind.integer := hkind
    exact absurd hk (by decide)
  | string _ => cases hkind
  | number hs =>
    obtain rfl : _ = TokenKind.integer := hkind
    exact hs
  | word _ _ =>
    unfold wordKind at hkind
    split_ifs at hkind

/-- Whether a token is read at the start of its text with `rest` after it. -/
def IsFirst (l : Lexeme) (rest : List Char) : Prop :=
  ∃ c cs, l.text = c :: cs ∧ isBlank c = false ∧ ∀ here, first here c (cs ++ rest) = .ok l

/-! ## Characters -/

/-- The first characters of operators and marks. -/
def symbolHeads : List Char :=
  ['=', '!', '<', '>', '&', '|', '(', ')', '[', ']', '\x7b', '\x7d', ',', '.']

/-- An operator or a mark starts with one of the first characters. -/
theorem exists_symbolText_eq {k : TokenKind} (hk : k ∈ symbols) :
    ∃ c cs, symbolText k = c :: cs ∧ c ∈ symbolHeads := by
  simp only [symbols, List.mem_cons, List.not_mem_nil, or_false] at hk
  -- The symbols are listed, so each is looked at.
  rcases hk with rfl | rfl | rfl | rfl | rfl | rfl | rfl | rfl | rfl | rfl | rfl | rfl | rfl |
    rfl | rfl | rfl | rfl
  all_goals exact ⟨_, _, rfl, by decide⟩

/-- No other token starts with the first character of an operator or a mark. -/
theorem of_mem_symbolHeads {c : Char} (hc : c ∈ symbolHeads) :
    c ≠ '"' ∧ c ≠ '-' ∧ c.isDigit = false ∧ startsName c = false ∧ isBlank c = false := by
  have hall : (symbolHeads.all fun c => c ≠ '"' ∧ c ≠ '-' ∧ c.isDigit = false ∧
      startsName c = false ∧ isBlank c = false) = true := by decide
  exact of_decide_eq_true (List.all_eq_true.1 hall c hc)

/-- No symbol starts with another character. -/
theorem symbol?_eq_none {c : Char} (hc : c ∉ symbolHeads) (cs : List Char) :
    symbol? (c :: cs) = none := by
  unfold symbol?
  rw [Option.map_eq_none_iff, List.find?_eq_none]
  intro k hk
  obtain ⟨d, ds, hd, hhead⟩ := exists_symbolText_eq hk
  have hne : d ≠ c := fun h => hc (h ▸ hhead)
  simp [hd, hne]

/-- A digit is no first character of a symbol. -/
theorem not_mem_symbolHeads_of_isDigit {c : Char} (hc : c.isDigit = true) : c ∉ symbolHeads := by
  intro hhead
  rw [(of_mem_symbolHeads hhead).2.2.1] at hc
  cases hc

/-- A digit goes on with a name. -/
theorem continuesName_of_isDigit {c : Char} (hc : c.isDigit = true) : continuesName c = true := by
  have hlt : c.toNat < 128 := by
    have hle : c.toNat ≤ '9'.toNat := by
      simp only [Char.isDigit, Bool.and_eq_true, decide_eq_true_eq] at hc
      exact hc.2
    exact Nat.lt_of_le_of_lt hle (by decide)
  unfold continuesName Text.isAlphanumeric
  rw [if_pos hlt, Char.isAlphanum, hc, Bool.or_true, Bool.true_or]

/-- A digit starts no name. -/
theorem startsName_of_isDigit {c : Char} (hc : c.isDigit = true) : startsName c = false := by
  have hmem : c.toNat ∈ List.range' 48 10 := by
    simp only [Char.isDigit, Bool.and_eq_true, decide_eq_true_eq] at hc
    have hlow : '0'.toNat ≤ c.toNat := hc.1
    have hhigh : c.toNat ≤ '9'.toNat := hc.2
    have hzero : '0'.toNat = 48 := rfl
    have hnine : '9'.toNat = 57 := rfl
    rw [List.mem_range'_1]
    omega
  have hall : ∀ n ∈ List.range' 48 10, startsName (Char.ofNat n) = false := by decide
  rw [← Char.ofNat_toNat c]
  exact hall _ hmem

/-- A blank starts no token and goes on with none. -/
theorem of_isBlank {c : Char} (hc : isBlank c = true) :
    c ≠ '-' ∧ c.isDigit = false ∧ startsName c = false ∧ continuesName c = false ∧ c ≠ '.' ∧
      c ≠ '=' := by
  have hmem : c ∈ [' ', '\t', '\r', '\n'] := by
    simpa [isBlank, or_assoc] using hc
  have hall : ([' ', '\t', '\r', '\n'].all fun c => c ≠ '-' ∧ c.isDigit = false ∧
      startsName c = false ∧ continuesName c = false ∧ c ≠ '.' ∧ c ≠ '=') = true := by decide
  exact of_decide_eq_true (List.all_eq_true.1 hall c hmem)

/-! ## Reading a token -/

/-- Whether no token but a string goes on with what follows. -/
def Ends (rest : List Char) : Prop :=
  ∀ c ∈ rest.head?, continuesName c = false ∧ c ≠ '.' ∧ c ≠ '='

instance (rest : List Char) : Decidable (Ends rest) :=
  decidable_of_iff
    ((rest.head?.all fun c => continuesName c = false ∧ c ≠ '.' ∧ c ≠ '=') = true)
    (by cases rest <;> simp [Ends])

/-- Nothing goes on at the end. -/
theorem ends_nil : Ends [] := fun c hc => by simp at hc

/-- Whether a token goes on is decided by the next character. -/
theorem ends_cons {c : Char} {cs : List Char} :
    Ends (c :: cs) ↔ continuesName c = false ∧ c ≠ '.' ∧ c ≠ '=' := by
  simp [Ends]

/-- Nothing goes on with a blank. -/
theorem ends_of_isBlank {c : Char} (hc : isBlank c = true) (cs : List Char) : Ends (c :: cs) := by
  obtain ⟨-, -, -, hname, hpoint, hequals⟩ := of_isBlank hc
  exact ends_cons.2 ⟨hname, hpoint, hequals⟩

/-- A symbol is read where no `=` follows it. -/
theorem symbol?_append {k : TokenKind} (hk : k ∈ symbols) {rest : List Char}
    (hrest : ∀ c ∈ rest.head?, c ≠ '=') :
    symbol? (symbolText k ++ rest) = some ⟨k, symbolText k, symbolText k⟩ := by
  have hequals : ['='].isPrefixOf rest = false := by
    cases rest with
    | nil => rfl
    | cons c cs => simp [List.isPrefixOf, (hrest c rfl).symm]
  simp only [symbols, List.mem_cons, List.not_mem_nil, or_false] at hk
  rcases hk with rfl | rfl | rfl | rfl | rfl | rfl | rfl | rfl | rfl | rfl | rfl | rfl | rfl |
    rfl | rfl | rfl | rfl
  -- Only `<`, `>` and `!` start a longer symbol, and this one goes on with `=`.
  all_goals simp [symbol?, symbols, symbolText, TokenKind.text?, Comparator.symbol, hequals]

/-- The body of a string is read, whatever follows it. -/
theorem stringBody_append {s v : List Char} (h : StringText s v) (rest : List Char) :
    stringBody (s ++ rest) = .ok ⟨s, v⟩ := by
  induction h with
  | close => cases rest <;> simp [stringBody]
  | @plain c s v hquote hline hslash more ih =>
    -- A character is read with the next one in view, so the body after it is not empty.
    obtain ⟨d, ds, rfl⟩ : ∃ d ds, s = d :: ds := by cases more <;> exact ⟨_, _, rfl⟩
    rw [List.cons_append] at ih
    rw [List.cons_append, List.cons_append, stringBody, if_neg hquote, if_neg hline,
      if_neg hslash, ih]
    rfl
  | @escape d x s v hletter more ih =>
    rw [List.cons_append, List.cons_append, stringBody, if_neg (by decide), if_neg (by decide),
      if_pos rfl, hletter, ih]
    rfl

/-- A body after one more character is read where the body is read. -/
theorem StringBody.cons_eq_ok_iff {raw : List Char} {c : Char} {r : Except StringFault StringBody}
    {b : StringBody} :
    StringBody.cons raw c r = .ok b ↔
      ∃ more, r = .ok more ∧ b = ⟨raw ++ more.text, c :: more.value⟩ := by
  cases r with
  | error fault => cases fault <;> simp [StringBody.cons]
  | ok more => simp [StringBody.cons, eq_comm]

/-- What is read as the body of a string is one, at the start of the text. -/
theorem stringBody_eq_ok {s : List Char} {b : StringBody} (h : stringBody s = .ok b) :
    StringText b.text b.value ∧ ∃ rest, s = b.text ++ rest := by
  fun_induction stringBody s generalizing b with
  | case1 => cases h
  | case2 =>
    cases h
    exact ⟨.close, [], rfl⟩
  | case3 c hquote => cases h
  | case4 d cs =>
    cases h
    exact ⟨.close, _, rfl⟩
  | case5 d cs => cases h
  | case6 d cs x hletter _ _ ih =>
    obtain ⟨more, hmore, rfl⟩ := StringBody.cons_eq_ok_iff.1 h
    obtain ⟨htext, rest, rfl⟩ := ih hmore
    exact ⟨.escape hletter htext, rest, rfl⟩
  | case7 d cs hletter => cases h
  | case8 c d cs hquote hline hslash ih =>
    obtain ⟨more, hmore, rfl⟩ := StringBody.cons_eq_ok_iff.1 h
    obtain ⟨htext, rest, hrest⟩ := ih hmore
    exact ⟨.plain hquote hline hslash htext, rest, congrArg (c :: ·) hrest⟩

/-- Digits are read as an integer where neither a digit nor a point follows them. -/
theorem number_integer {digits rest : List Char} (h : IsDigits digits)
    (hrest : ∀ c ∈ rest.head?, c.isDigit = false ∧ c ≠ '.') :
    number (digits ++ rest) = (.integer, digits) := by
  obtain ⟨htake, hdrop⟩ := takeWhile_append_of_head h.isDigit fun c hc => (hrest c hc).1
  unfold number
  rw [htake, hdrop]
  split
  · exact absurd rfl (hrest '.' rfl).2
  · rfl

/-- Digits on both sides of a point are read as a number where no digit follows them. -/
theorem number_float {whole part rest : List Char} (hwhole : IsDigits whole)
    (hpart : IsDigits part) (hrest : ∀ c ∈ rest.head?, c.isDigit = false) :
    number (whole ++ '.' :: (part ++ rest)) = (.float, whole ++ '.' :: part) := by
  obtain ⟨htake, hdrop⟩ := takeWhile_append_of_head (t := '.' :: (part ++ rest)) hwhole.isDigit
    fun c hc => by
      cases hc
      rfl
  obtain ⟨htake', -⟩ := takeWhile_append_of_head hpart.isDigit hrest
  obtain ⟨d, ds, rfl, hd⟩ := hpart.exists_cons
  unfold number
  rw [htake, hdrop]
  show (if d.isDigit = true then _ else _) = _
  rw [if_pos hd]
  exact congrArg (fun part => (TokenKind.float, whole ++ '.' :: part)) htake'

/-- The digits in front of a text that starts with one. -/
theorem isDigits_takeWhile {c : Char} (hc : c.isDigit = true) (cs : List Char) :
    IsDigits ((c :: cs).takeWhile Char.isDigit) := by
  refine ⟨?_, fun d hd => List.all_eq_true.1 List.all_takeWhile d hd⟩
  simp [hc]

/-- The digits that are read are a number at the start of the text. -/
theorem numberText_number {c : Char} (hc : c.isDigit = true) (cs : List Char) :
    (∀ neg, NumberText (number (c :: cs)).1 (Decimal.sign neg ++ (number (c :: cs)).2)) ∧
      ∃ us rest, (number (c :: cs)).2 = c :: us ∧ cs = us ++ rest := by
  have hwhole := isDigits_takeWhile hc cs
  have hhead : (c :: cs).takeWhile Char.isDigit = c :: cs.takeWhile Char.isDigit := by simp [hc]
  have hsplit := List.takeWhile_append_dropWhile (p := Char.isDigit) (l := c :: cs)
  unfold number
  generalize (c :: cs).dropWhile Char.isDigit = more at hsplit
  rw [hhead] at hwhole hsplit ⊢
  obtain ⟨-, hcs⟩ := List.cons.inj hsplit
  dsimp only
  -- A point belongs to the number only where a digit follows it.
  split
  · rename_i d rest
    by_cases hd : d.isDigit = true
    · rw [if_pos hd]
      refine ⟨fun neg => .float hwhole (isDigits_takeWhile hd rest),
        cs.takeWhile Char.isDigit ++ '.' :: (d :: rest).takeWhile Char.isDigit,
        (d :: rest).dropWhile Char.isDigit, rfl, ?_⟩
      rw [List.append_assoc, List.cons_append, List.takeWhile_append_dropWhile]
      exact hcs.symm
    · rw [if_neg hd]
      exact ⟨fun neg => .integer hwhole, _, _, rfl, hcs.symm⟩
  · exact ⟨fun neg => .integer hwhole, _, _, rfl, hcs.symm⟩

/-! ## The first token -/

/-- A symbol is read where no `=` follows it. -/
theorem isFirst_symbol {k : TokenKind} (hk : k ∈ symbols) {rest : List Char}
    (hrest : ∀ c ∈ rest.head?, c ≠ '=') :
    IsFirst ⟨k, symbolText k, symbolText k⟩ rest := by
  obtain ⟨c, cs, hcs, hhead⟩ := exists_symbolText_eq hk
  have hsymbol := symbol?_append hk hrest
  rw [hcs, List.cons_append] at hsymbol
  refine ⟨c, cs, hcs, (of_mem_symbolHeads hhead).2.2.2.2, fun here => ?_⟩
  rw [first, hsymbol, hcs]

/-- A string is read, whatever follows it. -/
theorem isFirst_string {s v : List Char} (h : StringText s v) (rest : List Char) :
    IsFirst ⟨.string, '"' :: s, v⟩ rest := by
  refine ⟨'"', s, rfl, by decide, fun here => ?_⟩
  rw [first, symbol?_eq_none (by decide), stringBody_append h]
  rfl

/-- The digits of a number are read as a number where none goes on with what follows. -/
theorem first_of_number {c : Char} (hc : c.isDigit = true) {cs text : List Char}
    {kind : TokenKind} (hnumber : number (c :: cs) = (kind, text)) (here : Position) :
    first here c cs = .ok ⟨kind, text, text⟩ := by
  have hquote : c ≠ '"' := fun h => by
    rw [h] at hc
    cases hc
  rw [first, symbol?_eq_none (not_mem_symbolHeads_of_isDigit hc)]
  dsimp only
  rw [if_neg hquote, if_pos hc, hnumber]

/-- The digits of a number are read as a number after a minus. -/
theorem first_of_minus {c : Char} (hc : c.isDigit = true) {cs text : List Char}
    {kind : TokenKind} (hnumber : number (c :: cs) = (kind, text)) (here : Position) :
    first here '-' (c :: cs) = .ok ⟨kind, '-' :: text, '-' :: text⟩ := by
  rw [first, symbol?_eq_none (by decide)]
  dsimp only
  rw [if_neg (by decide), if_neg (by decide), if_pos ⟨rfl, by simpa using hc⟩, hnumber]

/-- A number with an optional minus is read where its digits are. -/
theorem isFirst_sign {digits rest : List Char} {kind : TokenKind}
    (hdigits : ∃ c cs, digits = c :: cs ∧ c.isDigit = true)
    (hnumber : number (digits ++ rest) = (kind, digits)) (neg : Bool) :
    IsFirst ⟨kind, Decimal.sign neg ++ digits, Decimal.sign neg ++ digits⟩ rest := by
  obtain ⟨c, cs, rfl, hc⟩ := hdigits
  cases neg with
  | true => exact ⟨'-', c :: cs, rfl, by decide, first_of_minus hc hnumber⟩
  | false =>
    have hblank : isBlank c = false := Bool.eq_false_iff.2 fun h => by
      cases (of_isBlank h).2.1.symm.trans hc
    exact ⟨c, cs, rfl, hblank, first_of_number hc hnumber⟩

/-- A number is read where none goes on with what follows. -/
theorem isFirst_number {k : TokenKind} {s rest : List Char} (h : NumberText k s)
    (hrest : Ends rest) : IsFirst ⟨k, s, s⟩ rest := by
  have hstop : ∀ c ∈ rest.head?, c.isDigit = false ∧ c ≠ '.' := fun c hc => by
    obtain ⟨hname, hpoint, -⟩ := hrest c hc
    refine ⟨Bool.eq_false_iff.2 fun hdigit => ?_, hpoint⟩
    cases hname.symm.trans (continuesName_of_isDigit hdigit)
  cases h with
  | integer hdigits => exact isFirst_sign hdigits.exists_cons (number_integer hdigits hstop) _
  | @float neg whole part hwhole hpart =>
    obtain ⟨c, cs, hcs, hc⟩ := hwhole.exists_cons
    refine isFirst_sign ⟨c, cs ++ '.' :: part, by rw [hcs]; rfl, hc⟩ ?_ neg
    rw [List.append_assoc, List.cons_append]
    exact number_float hwhole hpart fun c hc => (hstop c hc).1

/-- A word is read where no name goes on with what follows. -/
theorem isFirst_word {c : Char} {cs rest : List Char} (hstart : startsName c = true)
    (hmore : ∀ d ∈ cs, continuesName d = true) (hrest : ∀ d ∈ rest.head?, continuesName d = false) :
    IsFirst ⟨wordKind (c :: cs), c :: cs, c :: cs⟩ rest := by
  have hne : ∀ {d}, startsName d = false → c ≠ d := fun hd h => by
    cases (h ▸ hd).symm.trans hstart
  -- A first character of a name is none of the characters that the lexer looks for before.
  have hblank : isBlank c = false := Bool.eq_false_iff.2 fun h => hne (of_isBlank h).2.2.1 rfl
  have hdigit : c.isDigit ≠ true := fun h => hne (startsName_of_isDigit h) rfl
  have hhead : c ∉ symbolHeads := fun h => hne (of_mem_symbolHeads h).2.2.2.1 rfl
  refine ⟨c, cs, rfl, hblank, fun here => ?_⟩
  rw [first, symbol?_eq_none hhead]
  dsimp only
  rw [if_neg (hne (by decide)), if_neg hdigit, if_neg fun h => hne (by decide) h.1, if_pos hstart,
    (takeWhile_append_of_head hmore hrest).1]

/-- Every token is read where none but a string goes on with what follows. -/
theorem Form.isFirst {l : Lexeme} (h : l.Form) {rest : List Char} (hrest : Ends rest) :
    l.IsFirst rest := by
  cases h with
  | symbol hk => exact isFirst_symbol hk fun c hc => (hrest c hc).2.2
  | string body => exact isFirst_string body rest
  | number hs => exact isFirst_number hs hrest
  | word hstart hmore => exact isFirst_word hstart hmore fun c hc => (hrest c hc).1

/-- Every token has a first character. -/
theorem Form.exists_cons {l : Lexeme} (h : l.Form) : ∃ c cs, l.text = c :: cs := by
  obtain ⟨c, cs, hcs, -⟩ := h.isFirst ends_nil
  exact ⟨c, cs, hcs⟩

/-- A symbol that is read stands at the start of the text. -/
theorem symbol?_eq_some {s : List Char} {l : Lexeme} (h : symbol? s = some l) :
    l.Form ∧ ∃ rest, s = l.text ++ rest := by
  obtain ⟨k, hk, rfl⟩ := Option.map_eq_some_iff.1 h
  have hstarts := List.find?_some hk
  obtain ⟨rest, hrest⟩ := List.isPrefixOf_iff_prefix.1 hstarts
  exact ⟨.symbol (List.mem_of_find?_eq_some hk), rest, hrest.symm⟩

/-- What is read as the first token has the form of one, and stands at the start of the text. It
does not depend on the place. -/
theorem first_eq_ok {here : Position} {c : Char} {cs : List Char} {l : Lexeme}
    (h : first here c cs = .ok l) :
    l.Form ∧ (∃ us rest, l.text = c :: us ∧ cs = us ++ rest) ∧
      ∀ there, first there c cs = .ok l := by
  unfold first at h ⊢
  cases hsymbol : symbol? (c :: cs) with
  | some l' =>
    rw [hsymbol] at h
    cases h
    obtain ⟨hform, rest, hrest⟩ := symbol?_eq_some hsymbol
    obtain ⟨d, us, hus⟩ := hform.exists_cons
    rw [hus, List.cons_append] at hrest
    obtain ⟨rfl, hcs⟩ := List.cons.inj hrest
    exact ⟨hform, ⟨us, rest, hus, hcs⟩, fun _ => rfl⟩
  | none =>
    rw [hsymbol] at h
    dsimp only at h ⊢
    -- The remaining forms are tried in the order of the lexer.
    split_ifs at h with hquote hdigit hminus hstart
    · cases hbody : stringBody cs with
      | error fault =>
        rw [hbody] at h
        cases fault <;> cases h
      | ok b =>
        rw [hbody] at h
        cases h
        obtain ⟨htext, rest, hrest⟩ := stringBody_eq_ok hbody
        exact ⟨.string htext, ⟨b.text, rest, by rw [hquote], hrest⟩, fun _ => by rw [if_pos hquote]⟩
    · cases h
      obtain ⟨htext, us, rest, hus, hrest⟩ := numberText_number hdigit cs
      exact ⟨.number (htext false), ⟨us, rest, hus, hrest⟩, fun _ => by
        rw [if_neg hquote, if_pos hdigit]⟩
    · cases h
      obtain ⟨d, ds, rfl, hd⟩ : ∃ d ds, cs = d :: ds ∧ d.isDigit = true := by
        cases cs with
        | nil => cases hminus.2
        | cons d ds => exact ⟨d, ds, rfl, by simpa using hminus.2⟩
      obtain ⟨htext, us, rest, hus, hrest⟩ := numberText_number hd ds
      refine ⟨.number (htext true), ⟨_, rest, by rw [hminus.1], ?_⟩, fun _ => by
        rw [if_neg hquote, if_neg hdigit, if_pos hminus]⟩
      rw [hus, hrest]
      rfl
    · cases h
      exact ⟨.word hstart fun d hd => List.all_eq_true.1 List.all_takeWhile d hd,
        ⟨_, cs.dropWhile continuesName, rfl, List.takeWhile_append_dropWhile.symm⟩, fun _ => by
          rw [if_neg hquote, if_neg hdigit, if_neg hminus, if_pos hstart]⟩

/-- A token that is read has the form of one. -/
theorem IsFirst.form {l : Lexeme} {rest : List Char} (h : l.IsFirst rest) : l.Form := by
  obtain ⟨c, cs, -, -, hread⟩ := h
  exact (first_eq_ok (hread .start)).1

end Lexeme

/-! ## The whole text -/

/-- How a text is cut into tokens: blanks stand between them and at both ends. -/
inductive Spells : List Char → List Word → Prop
  /-- No token. -/
  | nil {blanks} (hblanks : ∀ c ∈ blanks, isBlank c = true) : Spells blanks []
  /-- A token and the rest of the text. -/
  | cons {blanks l rest words} (hblanks : ∀ c ∈ blanks, isBlank c = true)
    (hfirst : Lexeme.IsFirst l rest) (more : Spells rest words) :
    Spells (blanks ++ (l.text ++ rest)) (l.word :: words)

namespace TokenStream

/-- A text is blank, or a first character follows some blanks. -/
theorem blanks_cases (s : List Char) :
    (∀ c ∈ s, isBlank c = true) ∨ ∃ blanks c cs, s = blanks ++ c :: cs ∧
      (∀ c ∈ blanks, isBlank c = true) ∧ isBlank c = false := by
  have hsplit := List.takeWhile_append_dropWhile (p := isBlank) (l := s)
  have hblanks : ∀ c ∈ s.takeWhile isBlank, isBlank c = true := fun c hc =>
    List.all_eq_true.1 List.all_takeWhile c hc
  cases hs : s.dropWhile isBlank with
  | nil =>
    rw [hs, List.append_nil] at hsplit
    rw [← hsplit]
    exact .inl hblanks
  | cons c cs =>
    rw [hs] at hsplit
    have hc := List.head?_dropWhile_not isBlank s
    rw [hs] at hc
    exact .inr ⟨_, c, cs, hsplit.symm, hblanks, by simpa using hc⟩

variable {blanks rest : List Char}

/-- Blanks hold no token. -/
theorem scan_of_blanks (p : Position) (hblanks : ∀ c ∈ blanks, isBlank c = true) :
    scan p blanks = .ok ⟨[], p.after blanks⟩ := by
  obtain ⟨htake, hdrop⟩ := takeWhile_append_of_head (t := []) hblanks (by simp)
  rw [List.append_nil] at htake hdrop
  rw [scan]
  split
  · rw [htake]
  · rename_i hs
    rw [hdrop] at hs
    cases hs

/-- Where a character follows blanks, the token that starts with it is read, and then the rest. -/
theorem scan_of_cons (p : Position) (hblanks : ∀ c ∈ blanks, isBlank c = true) {c : Char}
    (hc : isBlank c = false) (cs : List Char) :
    scan p (blanks ++ c :: cs) = (Lexeme.first (p.after blanks) c cs).bind fun l =>
      (scan ((p.after blanks).after l.text) (cs.drop (l.text.length - 1))).map fun more =>
        ⟨⟨l.kind, String.ofList l.value, p.after blanks⟩ :: more.tokens, more.stop⟩ := by
  obtain ⟨htake, hdrop⟩ := takeWhile_append_of_head (t := c :: cs) hblanks
    fun d hd => by
      cases hd
      exact hc
  rw [scan]
  split
  · rename_i hs
    rw [hdrop] at hs
    cases hs
  · rename_i hs
    rw [hdrop] at hs
    cases hs
    rw [htake]
    rfl

/-- Where a token is read after blanks, it comes first, and then the tokens of the rest. -/
theorem scan_of_isFirst (p : Position) (hblanks : ∀ c ∈ blanks, isBlank c = true) {l : Lexeme}
    (hfirst : l.IsFirst rest) :
    scan p (blanks ++ (l.text ++ rest)) =
      (scan ((p.after blanks).after l.text) rest).map fun more =>
        ⟨⟨l.kind, String.ofList l.value, p.after blanks⟩ :: more.tokens, more.stop⟩ := by
  obtain ⟨c, cs, hcs, hc, hread⟩ := hfirst
  have hlength : l.text.length - 1 = cs.length := by
    rw [hcs, List.length_cons, Nat.add_sub_cancel]
  rw [hcs, List.cons_append, scan_of_cons p hblanks hc, hread, ← hcs]
  show Except.map _ (scan _ ((cs ++ rest).drop _)) = _
  rw [hlength, List.drop_left]

/-- A text that can be cut is scanned, with these tokens. -/
theorem exists_scan_eq {s : List Char} {words : List Word} (h : Spells s words) (p : Position) :
    ∃ stream, scan p s = .ok stream ∧ stream.tokens.map Token.word = words := by
  induction h generalizing p with
  | nil hblanks => exact ⟨_, scan_of_blanks p hblanks, rfl⟩
  | @cons blanks l rest words hblanks hfirst more ih =>
    obtain ⟨stream, hscan, hwords⟩ := ih ((p.after blanks).after l.text)
    refine ⟨_, by rw [scan_of_isFirst p hblanks hfirst, hscan]; rfl, ?_⟩
    rw [List.map_cons, hwords]
    rfl

/-- A text is blank, or no token is read after its blanks, or a token is read there and the rest of
the text is shorter. -/
theorem pieces_cases (p : Position) (s : List Char) :
    (∀ c ∈ s, isBlank c = true) ∨
    (∃ blanks c cs fault, s = blanks ++ c :: cs ∧ (∀ c ∈ blanks, isBlank c = true) ∧
      isBlank c = false ∧ Lexeme.first (p.after blanks) c cs = .error fault) ∨
    ∃ blanks l rest, s = blanks ++ (Lexeme.text l ++ rest) ∧ (∀ c ∈ blanks, isBlank c = true) ∧
      l.IsFirst rest ∧ rest.length < s.length := by
  rcases blanks_cases s with hblanks | ⟨blanks, c, cs, rfl, hblanks, hc⟩
  · exact .inl hblanks
  · cases hfirst : Lexeme.first (p.after blanks) c cs with
    | error fault => exact .inr (.inl ⟨blanks, c, cs, fault, rfl, hblanks, hc, hfirst⟩)
    | ok l =>
      obtain ⟨-, ⟨us, rest, hus, rfl⟩, hread⟩ := Lexeme.first_eq_ok hfirst
      have htext : c :: (us ++ rest) = l.text ++ rest := by
        rw [hus]
        rfl
      -- The token takes one character at least.
      have hshorter : rest.length < (blanks ++ c :: (us ++ rest)).length := by
        simp only [List.length_append, List.length_cons]
        omega
      exact .inr (.inr ⟨blanks, l, rest, by rw [htext], hblanks, ⟨c, us, hus, hc, hread⟩,
        hshorter⟩)

/-- A text that is scanned can be cut, with these tokens. -/
theorem spells_of_scan {p : Position} {s : List Char} {stream : TokenStream}
    (h : scan p s = .ok stream) : Spells s (stream.tokens.map Token.word) := by
  induction hn : s.length using Nat.strongRecOn generalizing p s stream with
  | _ n ih =>
  rcases pieces_cases p s with hblanks | ⟨blanks, c, cs, fault, rfl, hblanks, hc, hfirst⟩ |
    ⟨blanks, l, rest, rfl, hblanks, hfirst, hshorter⟩
  · rw [scan_of_blanks p hblanks] at h
    cases h
    exact .nil hblanks
  · rw [scan_of_cons p hblanks hc, hfirst] at h
    cases h
  · rw [scan_of_isFirst p hblanks hfirst] at h
    obtain ⟨more, hmore, rfl⟩ := map_eq_ok_iff.1 h
    exact .cons hblanks hfirst (ih _ (hn ▸ hshorter) hmore rfl)

/-- A text can be cut exactly when it can be scanned, and the tokens are the same. -/
theorem spells_iff_scan {p : Position} {s : List Char} {words : List Word} :
    Spells s words ↔ ∃ stream, scan p s = .ok stream ∧ stream.tokens.map Token.word = words := by
  constructor
  · exact fun h => exists_scan_eq h p
  · rintro ⟨stream, hscan, rfl⟩
    exact spells_of_scan hscan

end TokenStream

end CheckDoc
