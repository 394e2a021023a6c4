import CheckDoc.Proofs.Numeric.ReadBack

/-!
# Powers of two

A power of two is the first magnitude of its binade, so that it is a number without rounding as long
as there is such a binade (`ofInt?_two_pow_eq_none_iff`).
-/

namespace CheckDoc

namespace Binary64

/-- An integer is out of range where its rounded magnitude is infinite. -/
theorem ofInt?_eq (n : Int) :
    ofInt? n =
      if (ofRatio (decide (n < 0)) n.natAbs 1).isInfinite then none
      else some (ofRatio (decide (n < 0)) n.natAbs 1) := by
  -- The function is unfolded without its argument: an application would be evaluated, and with it
  -- the multiplication by `2 ^ 1074`.
  have hunfold := Eq.refl ofInt?
  conv at hunfold => rhs; delta ofInt?
  rw [hunfold]
  beta_reduce
  generalize ofRatio (decide (n < 0)) n.natAbs 1 = x
  cases x with
  | nan => rfl
  | infinite neg => rfl
  | finite neg place => rfl

/-- The sign of a natural number. -/
theorem decide_natCast_neg (n : Nat) : decide ((n : Int) < 0) = false := decide_eq_false (by omega)

/-- A natural number that is brought to a floating point number is rounded once. -/
theorem eq_ofRatio_of_ofInt? {n : Nat} {x : Binary64} (h : ofInt? n = some x) :
    x = ofRatio false n 1 := by
  rw [ofInt?_eq, decide_natCast_neg, Int.natAbs_natCast] at h
  generalize ofRatio false n 1 = y at h ⊢
  cases hinfinite : y.isInfinite with
  | true => simp [hinfinite] at h
  | false => simpa [hinfinite, eq_comm] using h

/-- A natural number is out of range where its rounded magnitude is infinite. -/
theorem ofInt?_eq_none_iff (n : Nat) :
    ofInt? n = none ↔ (ofRatio false n 1).isInfinite = true := by
  rw [ofInt?_eq, decide_natCast_neg, Int.natAbs_natCast]
  generalize ofRatio false n 1 = x
  cases x.isInfinite <;> simp

/-- A magnitude is infinite where it stands past the last place. -/
theorem isInfinite_ofUnits (neg : Bool) (num den : Nat) :
    (ofUnits neg num den).isInfinite = true ↔ places ≤ nearest num den := by
  unfold ofUnits
  generalize nearest num den = p
  by_cases hp : p < places
  · simp [hp, isInfinite]
  · simp [hp, isInfinite, Nat.le_of_not_lt hp]

/-- A power of two is nearest to the first place of a binade, in units of `2^-m`. -/
theorem nearest_two_pow {m d k : Nat} (hunits : unitsOfOne = Nat.pow 2 m) (hm : m = 52 + d) :
    nearest (2 ^ k * unitsOfOne) 1 = (k + d + 1) * binade := by
  have hplace : units ((k + d + 1) * binade + 0) = 2 ^ k * unitsOfOne := by
    rw [units_binade _ 0 binade_pos, hunits, hm, Nat.pow_eq]
    show 2 ^ 52 * 2 ^ (k + d) = 2 ^ k * 2 ^ (52 + d)
    ring
  have hnearest := nearest_units ((k + d + 1) * binade + 0) Nat.one_pos
  rwa [hplace, Nat.mul_one, Nat.add_zero] at hnearest

/-- The powers of two that are out of range. -/
theorem ofInt?_two_pow_eq_none_iff (k : Nat) : ofInt? (2 ^ k : Nat) = none ↔ 1024 ≤ k := by
  have hunits : unitsOfOne = Nat.pow 2 1074 := by
    delta unitsOfOne
    exact Eq.refl _
  have hbinade : 1074 = 52 + 1022 := by decide
  rw [ofInt?_eq_none_iff, ofRatio, isInfinite_ofUnits, nearest_two_pow hunits hbinade, places,
    Nat.mul_le_mul_right_iff binade_pos]
  omega

end Binary64

end CheckDoc
