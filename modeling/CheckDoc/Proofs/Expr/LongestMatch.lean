import CheckDoc.Proofs.Expr.Lexing
import CheckDoc.Proofs.Text.Position

/-!
# The longest match

`LongestCut` is the cut of a text by the longest match: between blanks stands at each place the
longest token that the text goes on with, whatever is tried first. It knows the forms of tokens
(`Lexeme.Form`) and offsets, and neither the order in which the lexer tries the forms nor its count
of lines and columns. The token that the lexer reads is the longest one, and where there is a token
it reads one (`Lexeme.isFirst_iff_isLongest`). So a text is scanned exactly where it can be cut by
the longest match, and each token stands at the place of its offset; in every other case the fault
is one of a token, and it stands in the text (`tokenize_eq_ok_iff_longestCut`).
-/

namespace CheckDoc

namespace Lexeme

/-- Whether a token is the longest one that a text starts with. -/
structure IsLongest (l : Lexeme) (s : List Char) : Prop where
  /-- It has the form of a token. -/
  form : l.Form
  /-- The text starts with it. -/
  starts : l.text <+: s
  /-- No token that the text starts with is longer. -/
  longest : ∀ l' : Lexeme, l'.Form → l'.text <+: s → l'.text.length ≤ l.text.length

/-! ## The lexer reads no less -/

/-- Longer symbols stand in front of shorter ones. -/
theorem symbols_pairwise :
    symbols.Pairwise fun k k' => (symbolText k').length ≤ (symbolText k).length := by
  decide

/-- Where a text starts with a symbol, the symbol that is read is no shorter. -/
theorem exists_symbol?_eq {k : TokenKind} (hk : k ∈ symbols) (rest : List Char) :
    ∃ l, symbol? (symbolText k ++ rest) = some l ∧ (symbolText k).length ≤ l.text.length := by
  have hstarts : (symbolText k).isPrefixOf (symbolText k ++ rest) = true :=
    List.isPrefixOf_iff_prefix.2 (List.prefix_append _ _)
  obtain ⟨k', hfind⟩ : ∃ k', (symbols.find? fun k' =>
      (symbolText k').isPrefixOf (symbolText k ++ rest)) = some k' :=
    Option.isSome_iff_exists.1 (List.find?_isSome.2 ⟨k, hk, hstarts⟩)
  refine ⟨⟨k', symbolText k', symbolText k'⟩, by rw [symbol?, hfind]; rfl, ?_⟩
  -- The symbol that is found comes first in the list, or it is `k` itself.
  obtain ⟨-, before, after, hsplit, hbefore⟩ := List.find?_eq_some_iff_append.1 hfind
  have hpairwise := symbols_pairwise
  rw [hsplit] at hpairwise hk
  obtain ⟨-, hafter, -⟩ := List.pairwise_append.1 hpairwise
  rcases List.mem_append.1 hk with hk | hk
  · have hnot := hbefore k hk
    rw [hstarts] at hnot
    cases hnot
  · rcases List.mem_cons.1 hk with rfl | hk
    · exact Nat.le_refl _
    · exact (List.pairwise_cons.1 hafter).1 k hk

/-- Characters of a kind in front of a text are all taken, and those that follow them. -/
theorem length_le_takeWhile_append {p : Char → Bool} {s : List Char} (hs : ∀ c ∈ s, p c = true)
    (rest : List Char) : s.length ≤ ((s ++ rest).takeWhile p).length := by
  rw [List.takeWhile_append_of_pos hs, List.length_append]
  exact Nat.le_add_right _ _

/-- Where characters of a kind are dropped, none follows. -/
theorem forall_head?_dropWhile (p : Char → Bool) (s : List Char) :
    ∀ c ∈ (s.dropWhile p).head?, p c = false := by
  intro c hc
  have hnot := List.head?_dropWhile_not p s
  rw [Option.mem_def.1 hc] at hnot
  simpa using hnot

/-- The number that is read is no shorter than the digits in front. -/
theorem length_takeWhile_le_number (s : List Char) :
    (s.takeWhile Char.isDigit).length ≤ (number s).2.length := by
  unfold number
  dsimp only
  split
  · split_ifs
    · rw [List.length_append]
      exact Nat.le_add_right _ _
    · exact Nat.le_refl _
  · exact Nat.le_refl _

/-- Where a text starts with digits on both sides of a point, the number that is read is no
shorter. -/
theorem length_float_le_number {whole part : List Char} (hwhole : IsDigits whole)
    (hpart : IsDigits part) (rest : List Char) :
    (whole ++ '.' :: part).length ≤ (number (whole ++ '.' :: (part ++ rest))).2.length := by
  obtain ⟨htake, hdrop⟩ := takeWhile_append_of_head (t := '.' :: (part ++ rest)) hwhole.isDigit
    fun c hc => by
      cases hc
      rfl
  have hmore := length_le_takeWhile_append hpart.isDigit rest
  obtain ⟨d, ds, rfl, hd⟩ := hpart.exists_cons
  unfold number
  rw [htake, hdrop]
  show _ ≤ (if d.isDigit = true then _ else _ : TokenKind × List Char).2.length
  rw [if_pos hd]
  simp only [List.length_append, List.length_cons] at hmore ⊢
  exact Nat.add_le_add_left (Nat.succ_le_succ hmore) _

/-- Where a text starts with digits, and a minus may stand in front, a token as long as the number
that is read is read first. -/
theorem exists_first_of_sign {digits rest : List Char} (neg : Bool)
    (hdigits : ∃ c cs, digits = c :: cs ∧ c.isDigit = true)
    (hle : digits.length ≤ (number (digits ++ rest)).2.length) (here : Position) :
    ∃ c cs l, Decimal.sign neg ++ digits = c :: cs ∧ first here c (cs ++ rest) = .ok l ∧
      (Decimal.sign neg ++ digits).length ≤ l.text.length := by
  obtain ⟨c, cs, rfl, hc⟩ := hdigits
  cases neg with
  | true => exact ⟨'-', c :: cs, _, rfl, first_of_minus hc rfl here, Nat.succ_le_succ hle⟩
  | false => exact ⟨c, cs, _, rfl, first_of_number hc rfl here, hle⟩

/-- Where a text starts with a token, a token that is no shorter is read. -/
theorem Form.exists_first {l : Lexeme} (h : l.Form) (here : Position) (rest : List Char) :
    ∃ c cs l', l.text = c :: cs ∧ first here c (cs ++ rest) = .ok l' ∧
      l.text.length ≤ l'.text.length := by
  cases h with
  | @symbol k hk =>
    obtain ⟨l', hsymbol, hle⟩ := exists_symbol?_eq hk rest
    obtain ⟨c, cs, hcs, -⟩ := exists_symbolText_eq hk
    refine ⟨c, cs, l', hcs, ?_, hle⟩
    rw [hcs, List.cons_append] at hsymbol
    rw [first, hsymbol]
  | @string s v body =>
    -- A string ends at its closing quote, whatever follows it.
    obtain ⟨c, cs, hcs, -, hread⟩ := isFirst_string body rest
    exact ⟨c, cs, _, hcs, hread here, Nat.le_refl _⟩
  | number hs =>
    cases hs with
    | integer hdigits =>
      have hle := length_le_takeWhile_append hdigits.isDigit rest
      exact exists_first_of_sign _ hdigits.exists_cons
        (Nat.le_trans hle (length_takeWhile_le_number _)) here
    | @float neg whole part hwhole hpart =>
      obtain ⟨c, cs, hcs, hc⟩ := hwhole.exists_cons
      refine exists_first_of_sign neg ⟨c, cs ++ '.' :: part, by rw [hcs]; rfl, hc⟩ ?_ here
      rw [List.append_assoc, List.cons_append]
      exact length_float_le_number hwhole hpart rest
  | @word c cs hstart hmore =>
    -- The word that is read goes on as far as a name can.
    have hall : ∀ d ∈ (cs ++ rest).takeWhile continuesName, continuesName d = true := fun d hd =>
      List.all_eq_true.1 List.all_takeWhile d hd
    obtain ⟨d, ds, hds, -, hread⟩ := isFirst_word hstart hall (forall_head?_dropWhile _ _)
    obtain ⟨rfl, rfl⟩ := List.cons.inj hds
    have hread := hread here
    rw [List.takeWhile_append_dropWhile] at hread
    exact ⟨c, cs, _, rfl, hread, Nat.succ_le_succ (length_le_takeWhile_append hmore rest)⟩

/-! ## What is read is the longest token -/

/-- Tokens with the same text are the same. -/
theorem Form.eq_of_text_eq {l l' : Lexeme} (h : l.Form) (h' : l'.Form) (htext : l.text = l'.text) :
    l = l' := by
  obtain ⟨c, cs, hcs, -, hread⟩ := h.isFirst ends_nil
  obtain ⟨c', cs', hcs', -, hread'⟩ := h'.isFirst ends_nil
  obtain ⟨rfl, rfl⟩ := List.cons.inj (hcs.symm.trans (htext.trans hcs'))
  exact Except.ok.inj ((hread .start).symm.trans (hread' .start))

/-- A token does not start with a blank. -/
theorem Form.isBlank_eq_false {l : Lexeme} (h : l.Form) : ∀ c ∈ l.text.head?, isBlank c = false := by
  obtain ⟨c, cs, hcs, hblank, -⟩ := h.isFirst ends_nil
  rw [hcs]
  intro d hd
  cases hd
  exact hblank

/-- The token that is read at the start of a text is the longest one there. -/
theorem IsFirst.isLongest {l : Lexeme} {rest : List Char} (h : l.IsFirst rest) :
    l.IsLongest (l.text ++ rest) where
  form := h.form
  starts := List.prefix_append _ _
  longest := by
    intro l' hform hprefix
    obtain ⟨rest', hrest'⟩ := hprefix
    obtain ⟨c, cs, hcs, -, hread⟩ := h
    obtain ⟨d, ds, l'', hds, hread', hle⟩ := hform.exists_first .start rest'
    rw [hds, hcs, List.cons_append, List.cons_append] at hrest'
    obtain ⟨rfl, htail⟩ := List.cons.inj hrest'
    rw [htail, hread .start] at hread'
    cases hread'
    exact hle

/-- The longest token at the start of a text is read there. -/
theorem IsLongest.isFirst {l : Lexeme} {rest : List Char} (h : l.IsLongest (l.text ++ rest)) :
    l.IsFirst rest := by
  obtain ⟨c, cs, l', hcs, hread, hle⟩ := h.form.exists_first .start rest
  obtain ⟨hform, ⟨us, rest', hus, hrest'⟩, hany⟩ := first_eq_ok hread
  have hprefix : l'.text <+: l.text ++ rest := by
    refine ⟨rest', ?_⟩
    rw [hus, hcs, List.cons_append, List.cons_append, hrest']
  -- What is read is no shorter, and no token is longer.
  have hlength : l'.text.length = l.text.length := Nat.le_antisymm (h.longest l' hform hprefix) hle
  have htext : l'.text = l.text :=
    (List.prefix_of_prefix_length_le hprefix h.starts (Nat.le_of_eq hlength)).eq_of_length
      hlength
  obtain rfl := hform.eq_of_text_eq h.form htext
  exact ⟨c, cs, hcs, h.form.isBlank_eq_false c (by rw [hcs]; rfl), hany⟩

/-- There is one longest token at the start of a text. -/
theorem IsLongest.eq {l l' : Lexeme} {s : List Char} (h : l.IsLongest s) (h' : l'.IsLongest s) :
    l = l' := by
  have hlength : l.text.length = l'.text.length :=
    Nat.le_antisymm (h'.longest l h.form h.starts) (h.longest l' h'.form h'.starts)
  have htext : l.text = l'.text :=
    (List.prefix_of_prefix_length_le h.starts h'.starts (Nat.le_of_eq hlength)).eq_of_length hlength
  exact h.form.eq_of_text_eq h'.form htext

/-- Blanks in front of a token end where the token starts. -/
theorem Form.takeWhile_isBlank {l : Lexeme} (h : l.Form) {blanks : List Char}
    (hblanks : ∀ c ∈ blanks, isBlank c = true) (rest : List Char) :
    (blanks ++ (l.text ++ rest)).takeWhile isBlank = blanks ∧
      (blanks ++ (l.text ++ rest)).dropWhile isBlank = l.text ++ rest := by
  have hstart := h.isBlank_eq_false
  obtain ⟨c, cs, hcs⟩ := h.exists_cons
  rw [hcs] at hstart ⊢
  exact takeWhile_append_of_head hblanks hstart

/-- No text with a token is blank. -/
theorem Form.not_blank {l : Lexeme} (h : l.Form) (blanks rest : List Char) :
    ¬ ∀ c ∈ blanks ++ (l.text ++ rest), isBlank c = true := by
  intro hall
  obtain ⟨c, cs, hcs⟩ := h.exists_cons
  have hc := hall c (by simp [hcs])
  rw [h.isBlank_eq_false c (by rw [hcs]; rfl)] at hc
  cases hc

/-- A token is read at the start of a text exactly where it is the longest one there. -/
theorem isFirst_iff_isLongest {l : Lexeme} {rest : List Char} :
    l.IsFirst rest ↔ l.IsLongest (l.text ++ rest) :=
  ⟨IsFirst.isLongest, IsLongest.isFirst⟩

end Lexeme

/-! ## Faults of tokens -/

namespace Lexeme

/-- A bad escape after one more character is one in the rest of the body. -/
theorem StringBody.cons_eq_escape_iff {raw before : List Char} {c e : Char}
    {r : Except StringFault StringBody} :
    StringBody.cons raw c r = .error (.escape before e) ↔
      ∃ more, r = .error (.escape more e) ∧ before = raw ++ more := by
  cases r with
  | error fault => cases fault <;> simp [StringBody.cons, eq_comm, and_comm]
  | ok more => simp [StringBody.cons]

/-- The body of a string with a bad escape starts with the characters in front of this one. -/
theorem stringBody_eq_escape {s before : List Char} {e : Char}
    (h : stringBody s = .error (.escape before e)) : ∃ rest, s = before ++ rest := by
  fun_induction stringBody s generalizing before with
  | case1 => cases h
  | case2 => cases h
  | case3 c hquote => cases h
  | case4 d cs => cases h
  | case5 d cs => cases h
  | case6 d cs x hletter _ _ ih =>
    obtain ⟨more, hmore, rfl⟩ := StringBody.cons_eq_escape_iff.1 h
    obtain ⟨rest, rfl⟩ := ih hmore
    exact ⟨rest, rfl⟩
  | case7 d cs hletter =>
    cases h
    exact ⟨_, rfl⟩
  | case8 c d cs hquote hline hslash ih =>
    obtain ⟨more, hmore, rfl⟩ := StringBody.cons_eq_escape_iff.1 h
    obtain ⟨rest, hrest⟩ := ih hmore
    exact ⟨rest, congrArg (c :: ·) hrest⟩

end Lexeme

/-- Whether a fault lies in the characters of a token of the text `s` that begins at `p`. -/
structure LexicalFault (p : Position) (s : List Char) (fault : SyntaxFault) : Prop where
  /-- It lies in the characters of a token. -/
  isLexical : fault.cause.isLexical = true
  /-- It stands in the text, or at its end. -/
  exists_place : ∃ front back, s = front ++ back ∧ fault.position = p.after front

/-- A fault in what follows a text is one in the whole text. -/
theorem LexicalFault.append {p : Position} {t s : List Char} {fault : SyntaxFault}
    (h : LexicalFault (p.after t) s fault) : LexicalFault p (t ++ s) fault := by
  obtain ⟨hlexical, front, back, rfl, hplace⟩ := h
  refine ⟨hlexical, t ++ front, back, (List.append_assoc _ _ _).symm, ?_⟩
  rw [hplace, Position.after_append]

/-- Where no token is read there is a fault in its characters. -/
theorem Lexeme.first_eq_error {here : Position} {c : Char} {cs : List Char} {fault : SyntaxFault}
    (h : first here c cs = .error fault) : LexicalFault here (c :: cs) fault := by
  have hhere : ∀ cause : SyntaxCause, cause.isLexical = true →
      LexicalFault here (c :: cs) ⟨cause, here⟩ := fun cause hcause =>
    ⟨hcause, [], c :: cs, rfl, rfl⟩
  unfold first at h
  split at h
  · cases h
  split_ifs at h with hquote hdigit hminus hstart
  · cases hbody : stringBody cs with
    | ok b =>
      rw [hbody] at h
      cases h
    | error stringFault =>
      rw [hbody] at h
      cases stringFault with
      | unterminated =>
        cases h
        exact hhere _ rfl
      | escape before e =>
        cases h
        obtain ⟨rest, rfl⟩ := stringBody_eq_escape hbody
        rw [hquote]
        exact ⟨rfl, '"' :: before, rest, rfl, rfl⟩
  · -- The branches that give a token are closed by now.
    cases h
    exact hhere _ rfl

namespace TokenStream

/-- Where a text is not scanned there is a fault in the characters of a token. -/
theorem scan_eq_error {p : Position} {s : List Char} {fault : SyntaxFault}
    (h : scan p s = .error fault) : LexicalFault p s fault := by
  induction hn : s.length using Nat.strongRecOn generalizing p s with
  | _ n ih =>
  rcases pieces_cases p s with hblanks | ⟨blanks, c, cs, fault', rfl, hblanks, hc, hfirst⟩ |
    ⟨blanks, l, rest, rfl, hblanks, hfirst, hshorter⟩
  · rw [scan_of_blanks p hblanks] at h
    cases h
  · rw [scan_of_cons p hblanks hc, hfirst] at h
    cases h
    exact (Lexeme.first_eq_error hfirst).append
  · rw [scan_of_isFirst p hblanks hfirst] at h
    have hrest := ih _ (hn ▸ hshorter) (map_eq_error_iff.1 h) rfl
    exact hrest.append.append

end TokenStream

/-! ## The whole text -/

/-- The cut of a text by the longest match: blanks, the longest token that the text goes on with,
and so on up to the blanks at the end. The text begins at the offset `k` of a whole text, and each
token comes with its offset there. -/
inductive LongestCut : Nat → List Char → List (Nat × Lexeme) → Prop
  /-- No token. -/
  | nil {k blanks} (hblanks : ∀ c ∈ blanks, isBlank c = true) : LongestCut k blanks []
  /-- A token and the rest of the text. -/
  | cons {k blanks l rest pieces} (hblanks : ∀ c ∈ blanks, isBlank c = true)
    (hstart : ∀ c ∈ l.text.head?, isBlank c = false) (hlongest : l.IsLongest (l.text ++ rest))
    (more : LongestCut (k + blanks.length + l.text.length) rest pieces) :
    LongestCut k (blanks ++ (l.text ++ rest)) ((k + blanks.length, l) :: pieces)

/-- The token that stands at an offset of a text. -/
def Token.ofPiece (s : List Char) (piece : Nat × Lexeme) : Token :=
  ⟨piece.2.kind, String.ofList piece.2.value, .ofOffset s piece.1⟩

/-- The tokens that stand at some offsets of a text, and its end. -/
def TokenStream.ofPieces (s : List Char) (pieces : List (Nat × Lexeme)) : TokenStream :=
  ⟨pieces.map (Token.ofPiece s), .ofOffset s s.length⟩

/-- A text that can be cut at all can be cut by the longest match. -/
theorem Spells.exists_longestCut {s : List Char} {words : List Word} (h : Spells s words) (k : Nat) :
    ∃ pieces, LongestCut k s pieces := by
  induction h generalizing k with
  | nil hblanks => exact ⟨[], .nil hblanks⟩
  | @cons blanks l rest words hblanks hfirst more ih =>
    obtain ⟨pieces, hpieces⟩ := ih (k + blanks.length + l.text.length)
    exact ⟨_, .cons hblanks hfirst.form.isBlank_eq_false hfirst.isLongest hpieces⟩

namespace LongestCut

variable {k : Nat} {s : List Char} {pieces : List (Nat × Lexeme)}

/-- A text that is cut is scanned, with each token at the place of its offset in a whole text that
has `front` in front of it. -/
theorem scan_eq (h : LongestCut k s pieces) {front : List Char} (hfront : front.length = k) :
    TokenStream.scan (Position.start.after front) s = .ok (.ofPieces (front ++ s) pieces) := by
  induction h generalizing front with
  | @nil k blanks hblanks =>
    rw [TokenStream.scan_of_blanks _ hblanks, ← Position.after_append, ← Position.ofOffset_length]
    rfl
  | @cons k blanks l rest pieces hblanks _ hlongest _ ih =>
    have hwhole : front ++ (blanks ++ (l.text ++ rest)) = front ++ blanks ++ l.text ++ rest := by
      simp only [List.append_assoc]
    have hlength : (front ++ blanks ++ l.text).length = k + blanks.length + l.text.length := by
      simp only [List.length_append, hfront]
    have hmore := ih hlength
    have hplace : Position.start.after (front ++ blanks) =
        .ofOffset (front ++ blanks ++ l.text ++ rest) (k + blanks.length) := by
      have hoffset : k + blanks.length = (front ++ blanks).length := by
        rw [List.length_append, hfront]
      rw [hoffset, List.append_assoc, Position.ofOffset_append]
    rw [Position.after_append, Position.after_append] at hmore
    rw [TokenStream.scan_of_isFirst _ hblanks hlongest.isFirst, hmore, hwhole,
      ← Position.after_append, hplace]
    rfl

/-- There is one cut of a text. -/
theorem eq {pieces' : List (Nat × Lexeme)} (h : LongestCut k s pieces)
    (h' : LongestCut k s pieces') : pieces = pieces' := by
  induction h generalizing pieces' with
  | nil hblanks =>
    cases h' with
    | nil _ => rfl
    | cons _ _ hlongest _ => exact absurd hblanks (hlongest.form.not_blank _ _)
  | @cons k blanks l rest pieces hblanks _ hlongest _ ih =>
    obtain ⟨htake, hdrop⟩ := hlongest.form.takeWhile_isBlank hblanks rest
    generalize hs : blanks ++ (l.text ++ rest) = s at h' htake hdrop
    cases h' with
    | nil hall => exact absurd (hs ▸ hall) (hlongest.form.not_blank _ _)
    | @cons _ blanks' l' rest' pieces' hblanks' _ hlongest' more' =>
      -- The blanks end at the first token, and both cuts have the longest one there.
      obtain ⟨htake', hdrop'⟩ := hlongest'.form.takeWhile_isBlank hblanks' rest'
      obtain rfl := htake.symm.trans htake'
      have hrest := hdrop.symm.trans hdrop'
      obtain rfl := hlongest.eq (hrest ▸ hlongest')
      obtain rfl := List.append_cancel_left hrest
      rw [ih more']

/-- The tokens of a cut stand at ascending offsets, all within the text. -/
theorem pairwise_lt (h : LongestCut k s pieces) :
    (pieces.map Prod.fst ++ [k + s.length]).Pairwise (· < ·) ∧
      ∀ j ∈ pieces.map Prod.fst ++ [k + s.length], k ≤ j ∧ j ≤ k + s.length := by
  induction h with
  | nil _ => simp
  | @cons k blanks l rest pieces _ _ hlongest _ ih =>
    obtain ⟨hpairwise, hbounds⟩ := ih
    obtain ⟨c, cs, hcs⟩ := hlongest.form.exists_cons
    have hpositive : 0 < l.text.length := by
      rw [hcs]
      exact Nat.succ_pos _
    have hlength : k + (blanks ++ (l.text ++ rest)).length =
        k + blanks.length + l.text.length + rest.length := by
      simp only [List.length_append]
      omega
    rw [hlength, List.map_cons, List.cons_append]
    -- The rest of the text begins after the token.
    refine ⟨List.pairwise_cons.2 ⟨fun j hj => ?_, hpairwise⟩,
      List.forall_mem_cons.2 ⟨?_, fun j hj => ?_⟩⟩
    · have hj := (hbounds j hj).1
      omega
    · dsimp only
      omega
    · have hj := hbounds j hj
      omega

end LongestCut

/-- A text that is cut is scanned, with each token at the place of its offset. -/
theorem LongestCut.tokenize_eq {source : String} {pieces : List (Nat × Lexeme)}
    (h : LongestCut 0 source.toList pieces) :
    tokenize source = .ok (.ofPieces source.toList pieces) :=
  h.scan_eq (List.length_nil : ([] : List Char).length = 0)

/-- What is scanned can be cut by the longest match, and the tokens are those of the cut. -/
theorem exists_longestCut {source : String} {stream : TokenStream}
    (h : tokenize source = .ok stream) :
    ∃ pieces, LongestCut 0 source.toList pieces ∧ stream = .ofPieces source.toList pieces := by
  obtain ⟨pieces, hpieces⟩ := (TokenStream.spells_of_scan h).exists_longestCut 0
  exact ⟨pieces, hpieces, Except.ok.inj (h.symm.trans hpieces.tokenize_eq)⟩

namespace TokenStream

variable {source : String} {stream : TokenStream}

/-- The places of some tokens and of the end are those of their offsets. -/
theorem places_ofPieces (s : List Char) (pieces : List (Nat × Lexeme)) :
    (ofPieces s pieces).tokens.map Token.position ++ [(ofPieces s pieces).stop] =
      (pieces.map Prod.fst ++ [s.length]).map (Position.ofOffset s) := by
  unfold ofPieces
  rw [List.map_append, List.map_map, List.map_map]
  rfl

/-- The tokens of a text and its end stand at the places of ascending offsets. -/
theorem exists_offsets (h : tokenize source = .ok stream) :
    ∃ ks : List Nat, stream.tokens.map Token.position ++ [stream.stop] =
      ks.map (Position.ofOffset source.toList) ∧ ks.Pairwise (· < ·) ∧
        ∀ k ∈ ks, k ≤ source.toList.length := by
  obtain ⟨pieces, hpieces, rfl⟩ := exists_longestCut h
  obtain ⟨hpairwise, hbounds⟩ := hpieces.pairwise_lt
  simp only [Nat.zero_add] at hpairwise hbounds
  exact ⟨_, places_ofPieces _ pieces, hpairwise, fun k hk => (hbounds k hk).2⟩

/-- The tokens of a text and its end stand at ascending places. -/
theorem pairwise_precedes (h : tokenize source = .ok stream) :
    (stream.tokens.map Token.position ++ [stream.stop]).Pairwise Position.Precedes := by
  obtain ⟨ks, hplaces, hpairwise, hle⟩ := exists_offsets h
  rw [hplaces, List.pairwise_map]
  exact hpairwise.imp_of_mem fun _ hk hlt => Position.precedes_ofOffset hlt (hle _ hk)

end TokenStream

/-- A text is scanned exactly where it can be cut by the longest match, and then the tokens are
those of the cut, each at the place of its offset, and the end is that of the text. In every other
case there is a fault in the characters of a token. -/
theorem tokenize_eq_ok_iff_longestCut (source : String) :
    (∀ stream, tokenize source = .ok stream ↔ ∃ pieces, LongestCut 0 source.toList pieces ∧
      stream = .ofPieces source.toList pieces) ∧
    ((∃ fault, tokenize source = .error fault ∧ fault.cause.isLexical = true) ↔
      ¬ ∃ pieces, LongestCut 0 source.toList pieces) := by
  refine ⟨fun stream => ⟨exists_longestCut, ?_⟩, ⟨?_, fun hno => ?_⟩⟩
  · rintro ⟨pieces, hpieces, rfl⟩
    exact hpieces.tokenize_eq
  · rintro ⟨fault, hfault, -⟩ ⟨pieces, hpieces⟩
    cases hfault.symm.trans hpieces.tokenize_eq
  · cases h : tokenize source with
    | ok stream =>
      obtain ⟨pieces, hpieces, -⟩ := exists_longestCut h
      exact absurd ⟨pieces, hpieces⟩ hno
    | error fault => exact ⟨fault, rfl, (TokenStream.scan_eq_error h).isLexical⟩

end CheckDoc
