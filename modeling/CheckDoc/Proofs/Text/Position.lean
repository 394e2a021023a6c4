import CheckDoc.Text.Position
import Mathlib.Data.List.Count
import Mathlib.Data.List.Induction
import Mathlib.Tactic.SplitIfs

/-!
# Places and offsets

`Position.ofOffset` is the place of an offset of a text as it is told from the text in front of it:
by the line feeds there, and by the characters after the last of them. A count from character to
character arrives at the same place (`Position.after_take`). It can also begin in the middle: the
place of a character of an embedded text, taken within the place where that text begins, is the
place of the character in the whole text (`Position.within_after_start`). A later character has a
later place (`Position.precedes_ofOffset`), so a place tells the offset (`Position.eq_of_after_eq`).
-/

namespace CheckDoc.Position

/-- The place of the character at an offset of a text, or of its end: one line more than there are
line feeds before, and one column more than there are characters after the last of them. -/
def ofOffset (s : List Char) (k : Nat) : Position :=
  ⟨(s.take k).count '\n' + 1, ((s.take k).reverse.takeWhile (· ≠ '\n')).length + 1⟩

/-! ## Counting from character to character -/

/-- The place after two texts. -/
theorem after_append (p : Position) (s t : List Char) : p.after (s ++ t) = (p.after s).after t :=
  List.foldl_append

/-- The place after one more character. -/
theorem after_concat (p : Position) (s : List Char) (c : Char) :
    p.after (s ++ [c]) = (p.after s).advance c :=
  after_append p s [c]

/-- The place after a text is told by its line feeds and by what follows the last of them. -/
theorem after_start (s : List Char) :
    start.after s = ⟨s.count '\n' + 1, (s.reverse.takeWhile (· ≠ '\n')).length + 1⟩ := by
  induction s using List.reverseRecOn with
  | nil => rfl
  | append_singleton s c ih =>
    rw [after_concat, ih, advance]
    by_cases hc : c = '\n'
    · rw [if_pos hc, hc]
      simp
    · rw [if_neg hc]
      simp [hc]

/-- Counting up to an offset arrives at the place of the offset. -/
theorem after_take (s : List Char) (k : Nat) : start.after (s.take k) = ofOffset s k :=
  after_start (s.take k)

/-- The place of what follows some text. -/
theorem ofOffset_append (s t : List Char) : ofOffset (s ++ t) s.length = start.after s := by
  rw [← after_take, List.take_left]

/-- The place of the end of a text. -/
theorem ofOffset_length (s : List Char) : ofOffset s s.length = start.after s := by
  rw [← after_take, List.take_length]

/-! ## Texts within texts -/

/-- Lines and columns are counted from one. -/
theorem one_le_after_start (s : List Char) :
    1 ≤ (start.after s).line ∧ 1 ≤ (start.after s).column := by
  rw [after_start]
  exact ⟨Nat.le_add_left _ _, Nat.le_add_left _ _⟩

/-- A place of an embedded text that begins at `p` is the place where a count from `p` arrives. -/
theorem within_after_start (p : Position) (s : List Char) :
    p.within (start.after s) = p.after s := by
  induction s using List.reverseRecOn with
  | nil => rfl
  | append_singleton s c ih =>
    rw [after_concat, after_concat, ← ih]
    obtain ⟨hline, hcolumn⟩ := one_le_after_start s
    generalize start.after s = q at hline hcolumn
    -- A line feed leads to the first column of the next line, in both texts.
    by_cases hc : c = '\n'
    · unfold within advance
      rw [if_pos hc, if_pos hc]
      dsimp only
      rw [if_neg (by omega)]
      split_ifs
      · have hnext : p.line + (q.line + 1) - 1 = p.line + 1 := by omega
        rw [hnext]
      · have hnext : p.line + (q.line + 1) - 1 = p.line + q.line - 1 + 1 := by omega
        rw [hnext]
    · unfold within advance
      rw [if_neg hc, if_neg hc]
      dsimp only
      split_ifs
      · have hnext : p.column + (q.column + 1) - 1 = p.column + q.column - 1 + 1 := by omega
        rw [hnext]
      · rfl

/-! ## The order of places -/

/-- Whether a place is on an earlier line than another one, or earlier on the same line. -/
def Precedes (p q : Position) : Prop := p.line < q.line ∨ p.line = q.line ∧ p.column < q.column

instance (p q : Position) : Decidable (p.Precedes q) :=
  inferInstanceAs (Decidable (p.line < q.line ∨ p.line = q.line ∧ p.column < q.column))

/-- No place precedes itself. -/
theorem not_precedes_self (p : Position) : ¬ p.Precedes p := by
  unfold Precedes
  omega

/-- What precedes a place precedes all that this one precedes. -/
theorem Precedes.trans {p q r : Position} (hpq : p.Precedes q) (hqr : q.Precedes r) :
    p.Precedes r := by
  unfold Precedes at hpq hqr ⊢
  omega

/-- Of two places only one precedes the other. -/
theorem Precedes.asymm {p q : Position} (h : p.Precedes q) : ¬ q.Precedes p :=
  fun h' => not_precedes_self p (h.trans h')

/-- A place precedes the next one. -/
theorem precedes_advance (p : Position) (c : Char) : p.Precedes (p.advance c) := by
  unfold Precedes advance
  split_ifs
  · exact .inl (Nat.lt_succ_self _)
  · exact .inr ⟨rfl, Nat.lt_succ_self _⟩

/-- A place precedes each place after some characters. -/
theorem precedes_after (p : Position) {s : List Char} (hs : s ≠ []) : p.Precedes (p.after s) := by
  induction s generalizing p with
  | nil => exact absurd rfl hs
  | cons c cs ih =>
    have hstep := p.precedes_advance c
    by_cases hcs : cs = []
    · rw [hcs]
      exact hstep
    · exact hstep.trans (ih (p.advance c) hcs)

/-- A later offset of a text has a later place. -/
theorem precedes_ofOffset {s : List Char} {j k : Nat} (hjk : j < k) (hk : k ≤ s.length) :
    (ofOffset s j).Precedes (ofOffset s k) := by
  have hsplit : s.take k = s.take j ++ (s.drop j).take (k - j) := by
    have hsum : k = j + (k - j) := by omega
    rw [hsum, List.take_add, Nat.add_sub_cancel_left]
  have hbetween : (s.drop j).take (k - j) ≠ [] := by
    intro hnil
    have hlength := congrArg List.length hnil
    rw [List.length_take, List.length_drop, List.length_nil] at hlength
    omega
  rw [← after_take s k, hsplit, after_append, after_take]
  exact precedes_after _ hbetween

/-- Two starts of one text that end at the same place are the same. -/
theorem eq_of_after_eq {p : Position} {s t s' t' : List Char} (h : s ++ s' = t ++ t')
    (hplace : p.after s = p.after t) : s = t := by
  have hextends : ∀ {u v : List Char}, p.after u = p.after v → u <+: v → u = v := by
    rintro u _ hplace ⟨w, rfl⟩
    by_cases hw : w = []
    · rw [hw, List.append_nil]
    · have hprecedes := (p.after u).precedes_after hw
      rw [← after_append, ← hplace] at hprecedes
      exact absurd hprecedes (not_precedes_self _)
  -- Of two starts of one text one extends the other.
  rcases List.prefix_or_prefix_of_prefix (List.prefix_append s s')
    (h ▸ List.prefix_append t t') with hst | hts
  · exact hextends hplace hst
  · exact (hextends hplace.symm hts).symm

end CheckDoc.Position
