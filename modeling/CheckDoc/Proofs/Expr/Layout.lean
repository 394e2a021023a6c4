import CheckDoc.Proofs.Expr.LongestMatch
import CheckDoc.Proofs.Expr.Places

/-!
# Layout

A `Layout` puts blanks around the texts of some tokens: any run of them in front and at the end, and
a run that is not empty between two texts. A blank goes on with no token, so each token is read
where blanks follow it, whichever token comes next (`Lexeme.Form.isFirst`), and the text that is
laid out is cut into the same words. The parser does not look at places, so a text is read as the
same tree in every layout, or in none for the same cause (`tokenize_layout`).
-/

namespace CheckDoc

/-- The blanks that some texts are laid out with. -/
structure Layout (texts : List (List Char)) where
  /-- The run in front. -/
  front : List Char
  /-- The run behind each text. -/
  gaps : List (List Char)
  /-- There is one for each. -/
  length_gaps : gaps.length = texts.length
  /-- The run in front is of blanks. -/
  isBlank_front : ∀ c ∈ front, isBlank c = true
  /-- So are the others. -/
  isBlank_gaps : ∀ gap ∈ gaps, ∀ c ∈ gap, isBlank c = true
  /-- Only the last one may be empty. -/
  ne_nil : ∀ gap ∈ gaps.dropLast, gap ≠ []

namespace Layout

/-- Some texts, each with its run behind it. -/
def join (texts gaps : List (List Char)) : List Char := (List.zipWith (· ++ ·) texts gaps).flatten

/-- The text that is laid out. -/
def text {texts : List (List Char)} (d : Layout texts) : String :=
  String.ofList (d.front ++ join texts d.gaps)

/-- No token but a string goes on with blanks, or at the end. -/
theorem ends_append {gap rest : List Char} (hblanks : ∀ c ∈ gap, isBlank c = true)
    (hgap : gap = [] → rest = []) : Lexeme.Ends (gap ++ rest) := by
  cases gap with
  | nil =>
    rw [hgap rfl]
    exact Lexeme.ends_nil
  | cons c cs => exact Lexeme.ends_of_isBlank (hblanks c List.mem_cons_self) _

/-- Where only the last of some runs may be empty, the first one is empty only if it is the last. -/
theorem of_dropLast_cons {gap : List Char} {gaps : List (List Char)}
    (h : ∀ g ∈ (gap :: gaps).dropLast, g ≠ []) :
    (gap = [] → gaps = []) ∧ ∀ g ∈ gaps.dropLast, g ≠ [] := by
  cases gaps with
  | nil => exact ⟨fun _ => rfl, List.forall_mem_nil _⟩
  | cons next gaps =>
    rw [List.dropLast_cons_cons, List.forall_mem_cons] at h
    exact ⟨fun hgap => absurd hgap h.1, h.2⟩

/-- Tokens with runs of blanks behind them are cut apart there, where only the last run may be
empty. -/
theorem spells_join {ls : List Lexeme} (hform : ∀ l ∈ ls, l.Form) {front : List Char}
    (hfront : ∀ c ∈ front, isBlank c = true) {gaps : List (List Char)}
    (hlength : gaps.length = ls.length) (hblanks : ∀ gap ∈ gaps, ∀ c ∈ gap, isBlank c = true)
    (hne : ∀ gap ∈ gaps.dropLast, gap ≠ []) :
    Spells (front ++ join (ls.map Lexeme.text) gaps) (ls.map Lexeme.word) := by
  induction ls generalizing front gaps with
  | nil =>
    rw [join, List.map_nil, List.zipWith_nil_left, List.flatten_nil, List.append_nil]
    exact .nil hfront
  | cons l ls ih =>
    obtain ⟨gap, gaps, rfl⟩ := List.exists_cons_of_length_eq_add_one hlength
    obtain ⟨hlast, hne⟩ := of_dropLast_cons hne
    rw [List.forall_mem_cons] at hform hblanks
    -- The run behind this token is the one in front of the others.
    have hmore := ih hform.2 hblanks.1 (Nat.succ.inj hlength) hblanks.2 hne
    have hends : Lexeme.Ends (gap ++ join (ls.map Lexeme.text) gaps) :=
      ends_append hblanks.1 fun hgap => by rw [hlast hgap, join, List.zipWith_nil_right]; rfl
    have htext : join ((l :: ls).map Lexeme.text) (gap :: gaps) =
        l.text ++ (gap ++ join (ls.map Lexeme.text) gaps) := by
      simp only [join, List.map_cons, List.zipWith_cons_cons, List.flatten_cons, List.append_assoc]
    rw [htext]
    exact .cons hfront (hform.1.isFirst hends) hmore

/-- However some tokens are laid out, these tokens are scanned. -/
theorem exists_tokenize_eq {ls : List Lexeme} (hform : ∀ l ∈ ls, l.Form)
    (d : Layout (ls.map Lexeme.text)) :
    ∃ laid, tokenize d.text = .ok laid ∧ laid.tokens.map Token.word = ls.map Lexeme.word := by
  have hlength : d.gaps.length = ls.length := by rw [d.length_gaps, List.length_map]
  unfold tokenize text
  rw [String.toList_ofList]
  exact TokenStream.exists_scan_eq
    (spells_join hform d.isBlank_front hlength d.isBlank_gaps d.ne_nil) .start

end Layout

/-- What a text is cut into has the form of tokens. -/
theorem LongestCut.form {k : Nat} {s : List Char} {pieces : List (Nat × Lexeme)}
    (h : LongestCut k s pieces) : ∀ l ∈ pieces.map Prod.snd, l.Form := by
  induction h with
  | nil _ => exact List.forall_mem_nil _
  | cons _ _ hlongest _ ih =>
    rw [List.map_cons, List.forall_mem_cons]
    exact ⟨hlongest.form, ih⟩

/-- A text that is scanned has one cut by the longest match, and its tokens are those of the cut.
However the texts of these are laid out, the same tokens are scanned, and the same expression is
read, or none for the same cause at the token that corresponds; and so is the same choice. -/
theorem tokenize_layout (source : String) (stream : TokenStream)
    (h : tokenize source = .ok stream) :
    ∃ pieces, (∀ other, LongestCut 0 source.toList other ↔ other = pieces) ∧
      stream = .ofPieces source.toList pieces ∧
      ∀ d : Layout ((pieces.map Prod.snd).map Lexeme.text),
        ∃ laid, tokenize d.text = .ok laid ∧
          laid.tokens.map Token.word = stream.tokens.map Token.word ∧
          OutcomesAlike (stream.Corresponds laid) Eq (Expr.parse source) (Expr.parse d.text) ∧
          OutcomesAlike (stream.Corresponds laid) Eq (Choice.parse source)
            (Choice.parse d.text) := by
  obtain ⟨pieces, hpieces, rfl⟩ := exists_longestCut h
  have hunique : ∀ other, LongestCut 0 source.toList other ↔ other = pieces := fun other =>
    ⟨fun hother => hother.eq hpieces, fun heq => heq ▸ hpieces⟩
  refine ⟨pieces, hunique, rfl, fun d => ?_⟩
  obtain ⟨laid, hlaid, hwords⟩ := d.exists_tokenize_eq hpieces.form
  have hsame : laid.tokens.map Token.word =
      (TokenStream.ofPieces source.toList pieces).tokens.map Token.word := by
    rw [hwords, TokenStream.ofPieces, List.map_map, List.map_map]
    rfl
  obtain ⟨hexpr, hchoice⟩ := TokenStream.ofTokens_of_words_eq hsame.symm
  refine ⟨laid, hlaid, hsame, ?_, ?_⟩
  · rw [Expr.parse, Expr.parse, h, hlaid]
    exact hexpr
  · rw [Choice.parse, Choice.parse, h, hlaid]
    exact hchoice

/-- The text `1<-1` is the same three tokens with white space between them: the minus stays with its
digit and the comparison as it is. -/
theorem tokenize_layout_less :
    ∃ stream laid, tokenize "1<-1" = .ok stream ∧ tokenize "\t1 <\r\n-1" = .ok laid ∧
      laid.tokens.map Token.word = [(.integer, "1"), (.comparison .lt, "<"), (.integer, "-1")] ∧
      OutcomesAlike (stream.Corresponds laid) Eq (Expr.parse "1<-1")
        (Expr.parse "\t1 <\r\n-1") := by
  have hdigits : IsDigits ['1'] := ⟨List.cons_ne_nil _ _, List.forall_mem_singleton.2 rfl⟩
  have hone : Lexeme.Form ⟨.integer, ['1'], ['1']⟩ :=
    .number (@NumberText.integer false _ hdigits)
  have hless : Lexeme.Form ⟨.comparison .lt, ['<'], ['<']⟩ :=
    @Lexeme.Form.symbol (.comparison .lt) (by decide)
  have hminus : Lexeme.Form ⟨.integer, ['-', '1'], ['-', '1']⟩ :=
    .number (@NumberText.integer true _ hdigits)
  have hcut : LongestCut 0 "1<-1".toList [(0, ⟨.integer, ['1'], ['1']⟩),
      (1, ⟨.comparison .lt, ['<'], ['<']⟩), (2, ⟨.integer, ['-', '1'], ['-', '1']⟩)] := by
    have hno : ∀ c ∈ ([] : List Char), isBlank c = true := List.forall_mem_nil _
    have hthird := @LongestCut.cons 2 [] _ [] [] hno hminus.isBlank_eq_false
      (hminus.isFirst Lexeme.ends_nil).isLongest (.nil hno)
    have hsecond := @LongestCut.cons 1 [] _ ['-', '1'] _ hno hless.isBlank_eq_false
      (hless.isFirst (by decide)).isLongest hthird
    exact @LongestCut.cons 0 [] _ ['<', '-', '1'] _ hno hone.isBlank_eq_false
      (hone.isFirst (by decide)).isLongest hsecond
  obtain ⟨pieces, hunique, -, hlayout⟩ := tokenize_layout _ _ hcut.tokenize_eq
  obtain rfl := (hunique _).1 hcut
  obtain ⟨laid, hlaid, hwords, hexpr, -⟩ := hlayout
    ⟨['\t'], [[' '], ['\r', '\n'], []], rfl, by simp [isBlank], by simp [isBlank], by simp⟩
  exact ⟨_, laid, hcut.tokenize_eq, hlaid, hwords, hexpr⟩

end CheckDoc
