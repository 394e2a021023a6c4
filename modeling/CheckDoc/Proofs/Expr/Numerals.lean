import CheckDoc.Proofs.Expr.Grammar
import CheckDoc.Proofs.Expr.Lexing
import CheckDoc.Proofs.Numeric.ReadBack

/-!
# The texts of numbers

The texts that integers and finite numbers are written as are texts of numbers (`NumberText`), and
they stand for what they are written from (`integerValue_toString`, `floatValue_positional`). A text
of an integer has as many digits as the integer at least.
-/

namespace CheckDoc

/-- The digits of a natural number. -/
theorem isDigits_toDigits (n : Nat) : IsDigits (Nat.toDigits 10 n) :=
  ⟨Nat.toDigits_ne_nil, fun _ hc => Nat.isDigit_of_mem_toDigits (by decide) (by decide) hc⟩

/-- A text that starts with a digit is not signed. -/
theorem signed_of_digit {c : Char} {s : List Char} (hc : c.isDigit = true) :
    signed (c :: s) = (false, c :: s) := by
  unfold signed
  split
  · rename_i heq
    obtain ⟨rfl, -⟩ := List.cons.inj heq
    cases hc
  · rfl

/-- The sign in front of digits. -/
theorem signed_sign (neg : Bool) {s t : List Char} (hs : IsDigits s) :
    signed (Decimal.sign neg ++ (s ++ t)) = (neg, s ++ t) := by
  obtain ⟨c, cs, rfl, hc⟩ := hs.exists_cons
  cases neg with
  | true => rfl
  | false => exact signed_of_digit hc

/-! ## Integers -/

/-- The value of digits after an optional minus. -/
theorem integerValue_sign (neg : Bool) {digits : List Char} (h : IsDigits digits) :
    integerValue (Decimal.sign neg ++ digits) =
      if neg then -(Nat.ofDigitChars 10 digits 0 : Int) else Nat.ofDigitChars 10 digits 0 := by
  have hsigned := signed_sign neg (t := []) h
  rw [List.append_nil] at hsigned
  rw [integerValue, hsigned]

/-- The text of an integer is its digits after an optional minus. -/
theorem toList_toString (n : Int) :
    (toString n).toList = Decimal.sign (decide (n < 0)) ++ Nat.toDigits 10 n.natAbs := by
  rw [Int.toString_eq_repr, Int.repr_eq_if]
  by_cases h : n < 0
  · have habs : (-n).toNat = n.natAbs := by omega
    rw [if_neg (by omega), String.toList_append, Nat.toList_repr, habs, decide_eq_true h]
    rfl
  · have habs : n.toNat = n.natAbs := by omega
    rw [if_pos (by omega), Nat.toList_repr, habs, decide_eq_false h]
    rfl

/-- The text of an integer stands for it. -/
theorem integerValue_toString (n : Int) : integerValue (toString n).toList = n := by
  rw [toList_toString, integerValue_sign _ (isDigits_toDigits _), Nat.ofDigitChars_ten_toDigits]
  by_cases h : n < 0
  · rw [if_pos (by simpa using h)]
    omega
  · rw [if_neg (by simpa using h)]
    omega

/-- Digits stand for less than the power of ten of their number. -/
theorem ofDigitChars_lt {digits : List Char} (h : ∀ c ∈ digits, c.isDigit = true) :
    Nat.ofDigitChars 10 digits 0 < 10 ^ digits.length := by
  induction digits with
  | nil => simp
  | cons c cs ih =>
    rw [List.forall_mem_cons] at h
    have hc : c.toNat - '0'.toNat ≤ 9 := by
      have hle : c.toNat ≤ '9'.toNat := by
        have hdigit := h.1
        simp only [Char.isDigit, Bool.and_eq_true, decide_eq_true_eq] at hdigit
        exact hdigit.2
      have hnine : '9'.toNat = 57 := rfl
      have hzero : '0'.toNat = 48 := rfl
      omega
    have hcs := ih h.2
    rw [Nat.ofDigitChars_cons, Nat.ofDigitChars_eq_ofDigitChars_zero, List.length_cons,
      Nat.pow_succ]
    calc 10 ^ cs.length * (10 * 0 + (c.toNat - '0'.toNat)) + Nat.ofDigitChars 10 cs 0
        ≤ 10 ^ cs.length * 9 + Nat.ofDigitChars 10 cs 0 :=
          Nat.add_le_add_right (Nat.mul_le_mul_left _ (by omega)) _
      _ < 10 ^ cs.length * 9 + 10 ^ cs.length := Nat.add_lt_add_left hcs _
      _ = 10 ^ cs.length * 10 := by ring

/-- An integer has no more digits than any text of it. -/
theorem length_toDigits_integerValue (neg : Bool) {digits : List Char} (h : IsDigits digits) :
    (Nat.toDigits 10 (integerValue (Decimal.sign neg ++ digits)).natAbs).length ≤
      digits.length := by
  have hvalue : (integerValue (Decimal.sign neg ++ digits)).natAbs =
      Nat.ofDigitChars 10 digits 0 := by
    rw [integerValue_sign neg h]
    split <;> omega
  rw [hvalue, Nat.length_toDigits_le_iff (by decide) (List.length_pos_of_ne_nil h.ne_nil)]
  exact ofDigitChars_lt h.isDigit

/-- The text of an integer has as many digits as the integer at least. -/
theorem NumberText.length_toDigits_le {s : List Char} (h : NumberText .integer s) :
    (Nat.toDigits 10 (integerValue s).natAbs).length ≤ (signed s).2.length := by
  cases h with
  | @integer neg digits hdigits =>
    have hsigned := signed_sign (t := []) neg hdigits
    rw [List.append_nil] at hsigned
    rw [hsigned]
    exact length_toDigits_integerValue neg hdigits

/-! ## Numbers with a point -/

/-- The value of digits, a point and digits after an optional minus. -/
theorem floatValue_sign (neg : Bool) {whole part : List Char} (hwhole : IsDigits whole) :
    floatValue (Decimal.sign neg ++ (whole ++ '.' :: part)) =
      Decimal.round ⟨neg, Nat.ofDigitChars 10 (whole ++ part) 0, -(part.length : Int)⟩ := by
  have htake : (whole ++ '.' :: part).takeWhile Char.isDigit = whole := by
    rw [List.takeWhile_append_of_pos hwhole.isDigit]
    simp [show Char.isDigit '.' = false from rfl]
  have hdrop : (whole ++ '.' :: part).dropWhile Char.isDigit = '.' :: part := by
    rw [List.dropWhile_append_of_pos hwhole.isDigit]
    simp [show Char.isDigit '.' = false from rfl]
  rw [floatValue, signed_sign neg hwhole]
  dsimp only
  rw [htake, hdrop]
  rfl

/-- The digits of a fraction, with zeros in front up to the number of its places. -/
theorem exists_part_eq {c places : Nat} (hplaces : 0 < places) :
    ∃ part, IsDigits part ∧
      List.replicate (places - (Nat.toDigits 10 (c % 10 ^ places)).length) '0' ++
        Nat.toDigits 10 (c % 10 ^ places) = part ∧
      part.length = places ∧ Nat.ofDigitChars 10 part 0 = c % 10 ^ places := by
  have hmod : c % 10 ^ places < 10 ^ places := Nat.mod_lt _ (Nat.pow_pos (by decide))
  have hle : (Nat.toDigits 10 (c % 10 ^ places)).length ≤ places :=
    (Nat.length_toDigits_le_iff (by decide) hplaces).2 hmod
  have hdigits := isDigits_toDigits (c % 10 ^ places)
  refine ⟨_, ⟨?_, ?_⟩, rfl, ?_, ?_⟩
  · exact List.append_ne_nil_of_right_ne_nil _ hdigits.ne_nil
  · rw [List.forall_mem_append]
    exact ⟨fun c hc => by rw [List.eq_of_mem_replicate hc]; rfl, hdigits.isDigit⟩
  · rw [List.length_append, List.length_replicate]
    omega
  · rw [Nat.ofDigitChars_append, Nat.ofDigitChars_replicate_zero, Nat.mul_zero,
      Nat.ofDigitChars_ten_toDigits]

/-- The text of a decimal has digits on both sides of its point, and these stand for it. -/
theorem exists_positional_eq (d : Decimal) :
    ∃ whole part, IsDigits whole ∧ IsDigits part ∧
      d.positional = Decimal.sign d.neg ++ (whole ++ '.' :: part) ∧
      Decimal.round ⟨d.neg, Nat.ofDigitChars 10 (whole ++ part) 0, -(part.length : Int)⟩ =
        d.round := by
  obtain ⟨neg, c, e⟩ := d
  have hzero : IsDigits ['0'] := ⟨by simp, by simp [show Char.isDigit '0' = true from rfl]⟩
  -- Without a fraction the text has the zero after its point, which moves the exponent by
  -- one place.
  have hshift : ∀ e : Nat, Decimal.round ⟨neg, Nat.ofDigitChars 10
      (Nat.toDigits 10 (c * 10 ^ e) ++ ['0']) 0, -(['0'].length : Int)⟩ =
        Decimal.round ⟨neg, c, (e : Int)⟩ := fun e => by
    rw [Nat.ofDigitChars_append, Nat.ofDigitChars_ten_toDigits, ← Decimal.round_ofNat]
    have hlast : Nat.ofDigitChars 10 ['0'] (c * 10 ^ e) = c * 10 ^ e * 10 := by
      rw [Nat.ofDigitChars_cons, Nat.ofDigitChars_nil, Nat.mul_comm]
      rfl
    rw [hlast]
    rfl
  cases e with
  | ofNat e =>
    cases e with
    | zero =>
      have hdigits : Nat.toDigits 10 (c * 10 ^ 0) = Nat.toDigits 10 c := by
        rw [Nat.pow_zero, Nat.mul_one]
      have hround := hshift 0
      rw [hdigits] at hround
      exact ⟨Nat.toDigits 10 c, ['0'], isDigits_toDigits c, hzero, rfl, hround⟩
    | succ e =>
      exact ⟨Nat.toDigits 10 (c * 10 ^ (e + 1)), ['0'], isDigits_toDigits _, hzero, rfl,
        hshift (e + 1)⟩
  | negSucc e =>
    -- The digits are divided at the point into a quotient and a remainder.
    obtain ⟨part, hpart, heq, hlength, hvalue⟩ := exists_part_eq (c := c) (Nat.succ_pos e)
    refine ⟨Nat.toDigits 10 (c / 10 ^ (e + 1)), part, isDigits_toDigits _, hpart, ?_, ?_⟩
    · rw [← heq]
      rfl
    · rw [Nat.ofDigitChars_append, Nat.ofDigitChars_ten_toDigits,
        Nat.ofDigitChars_eq_ofDigitChars_zero, hlength, hvalue, Nat.div_add_mod]
      rfl

/-- The text of a finite number stands for it. -/
theorem floatValue_positional (neg : Bool) (place : Fin Binary64.places) :
    floatValue (Binary64.positional (.finite neg place)).toList = .finite neg place := by
  obtain ⟨whole, part, hwhole, -, htext, hround⟩ :=
    exists_positional_eq (Decimal.shortest neg place)
  rw [Binary64.positional, String.toList_ofList, htext, floatValue_sign _ hwhole, hround]
  exact Decimal.round_shortest neg place

end CheckDoc
