import CheckDoc.Text.Blank
import CheckDoc.Text.Quoted
import Mathlib.Data.List.Basic

/-!
# Texts on one line

A text that is written from pieces has a line break exactly where one of the pieces has one. The
wordings of the program are printable, and so are numbers and quoted texts; so what counts are the
pieces that are taken over as they are. `TakesFrom` says which these are, and there is a lemma for
each way in which a text is put together.
-/

namespace CheckDoc.Text

/-! ## Line breaks -/

/-- The characters that end a line of a text. -/
def lineBreaks : List Char :=
  ['\n', '\x0b', '\x0c', '\r', '\x1c', '\x1d', '\x1e', '\x85', '\u2028', '\u2029']

/-- A text without a line break. -/
def IsLine (s : String) : Prop := ∀ b ∈ lineBreaks, b ∉ s.toList

instance : DecidablePred IsLine := fun s =>
  decidable_of_iff (lineBreaks.all (!s.toList.contains ·) = true) (by simp [IsLine])

/-- Line breaks are white space that is not printable. -/
theorem lineBreak_class {b : Char} (hb : b ∈ lineBreaks) :
    isPrintable b = false ∧ isSpace b = true := by
  have hall : (lineBreaks.all fun b => !isPrintable b && isSpace b) = true := by decide +kernel
  simpa using List.all_eq_true.1 hall b hb

/-- A text is on one line where its characters are of a kind that no line break is of. -/
theorem isLine_of_forall {s : String} {p : Char → Bool} (hs : ∀ c ∈ s.toList, p c = true)
    (hp : lineBreaks.any p = false) : IsLine s := fun b hb hmem =>
  List.any_eq_false.1 hp b hb (hs b hmem)

/-! ## Printable texts -/

/-- Whether all characters of a text are printable. -/
def allPrintable (s : String) : Bool := s.toList.all isPrintable

/-- The digits of a number are printable. -/
theorem isPrintable_of_isDigit {c : Char} (hc : c.isDigit = true) : isPrintable c = true := by
  obtain ⟨hfirst, hlast⟩ : 48 ≤ c.toNat ∧ c.toNat ≤ 57 := Char.isDigit_iff_toNat.1 hc
  rw [isPrintable, if_pos (by omega), Bool.and_eq_true, decide_eq_true_eq, decide_eq_true_eq]
  omega

/-- A number is written with printable characters. -/
theorem allPrintable_toString (n : Nat) : allPrintable (toString n) = true := by
  rw [allPrintable, Nat.toString_eq_repr, Nat.toList_repr, List.all_eq_true]
  exact fun c hc =>
    isPrintable_of_isDigit (Nat.isDigit_of_mem_toDigits (by decide) (by decide) hc)

/-- Hexadecimal digits are printable. -/
theorem all_hexDigits (width n : Nat) : (hexDigits width n).all isPrintable = true := by
  induction width generalizing n with
  | zero => rfl
  | succ width ih =>
    have hdigit : ∀ k < 16, isPrintable (Nat.digitChar k) = true := by decide
    rw [hexDigits, List.all_append, ih, Bool.true_and, List.all_cons, List.all_nil, Bool.and_true]
    exact hdigit _ (Nat.mod_lt _ (by decide))

/-- A character inside a quote is written with printable characters. -/
theorem all_quoteChar {q : Char} (hq : isPrintable q = true) (c : Char) :
    (quoteChar q c).all isPrintable = true := by
  have hdigits : (codeDigits (codeOf c)).all isPrintable = true := by
    unfold codeDigits
    split_ifs <;> exact all_hexDigits _ _
  unfold quoteChar
  split_ifs with hself _ _ _ hc
  · -- The quote and the backslash are printable themselves.
    obtain rfl | rfl := hself
    · rw [List.all_cons, List.all_cons, hq]
      rfl
    · rfl
  · rfl
  · rfl
  · rfl
  · rw [List.all_cons, hc]
    rfl
  · rw [List.all_cons, hdigits]
    rfl

/-- A quoted text is printable, whatever it quotes. -/
theorem allPrintable_quoted (s : String) : allPrintable (quoted s) = true := by
  have hq : isPrintable (quoteFor s.toList) = true := by
    unfold quoteFor
    split_ifs <;> decide
  rw [allPrintable, quoted, String.toList_ofList, List.all_cons, List.all_append, List.all_flatMap,
    hq]
  simp [all_quoteChar hq, hq]

/-! ## Texts from pieces -/

/-- The characters of the text `s` that are not printable are those of the texts `ts`. -/
def TakesFrom (ts : List String) (s : String) : Prop :=
  ∀ b, isPrintable b = false → (b ∈ s.toList ↔ ∃ t ∈ ts, b ∈ t.toList)

variable {s t u : String} {ts us : List String}

namespace TakesFrom

/-- A text that is taken over as it is. -/
theorem self (s : String) : TakesFrom [s] s := fun b _ => by simp

/-- A printable text has nothing to take over. -/
theorem fixed (hs : allPrintable s = true) : TakesFrom [] s := fun b hb => by
  refine iff_of_false (fun hmem => ?_) (by simp)
  rw [List.all_eq_true.1 hs b hmem] at hb
  cases hb

/-- One text after another. -/
theorem append (h : TakesFrom ts s) (h' : TakesFrom us t) : TakesFrom (ts ++ us) (s ++ t) :=
  fun b hb => by
    rw [String.toList_append, List.mem_append, h b hb, h' b hb]
    simp only [List.mem_append, or_and_right, exists_or]

/-- A text after a printable one. -/
theorem after (hs : allPrintable s = true) (h : TakesFrom us t) : TakesFrom us (s ++ t) :=
  (fixed hs).append h

/-- A text before a printable one. -/
theorem before (h : TakesFrom ts s) (ht : allPrintable t = true) : TakesFrom ts (s ++ t) := by
  have happend := h.append (fixed ht)
  rwa [List.append_nil] at happend

/-- A text between printable ones. -/
theorem between (hs : allPrintable s = true) (h : TakesFrom us t) (hu : allPrintable u = true) :
    TakesFrom us (s ++ t ++ u) :=
  (after hs h).before hu

/-- Texts in a row, with a printable separator between them. -/
theorem intercalate {α : Type} (hs : allPrintable s = true) {f : α → List String}
    {g : α → String} (h : ∀ x, TakesFrom (f x) (g x)) (xs : List α) :
    TakesFrom (xs.flatMap f) (s.intercalate (xs.map g)) := by
  induction xs with
  | nil => exact fixed rfl
  | cons x xs ih =>
    cases xs with
    | nil =>
      rw [List.flatMap_singleton, List.map_singleton, String.intercalate_singleton]
      exact h x
    | cons y ys =>
      rw [List.flatMap_cons, List.map_cons, List.map_cons, String.intercalate_cons_cons]
      exact ((h x).before hs).append ih

end TakesFrom

end CheckDoc.Text
