import CheckDoc.Numeric.Decimal
import Mathlib.Tactic.Ring

/-!
# What the shortest decimal reads back as

The magnitudes at the places ascend (`units_lt_succ`), and `floorPlace` finds the place of a
magnitude, so that an exact magnitude is nearest to its own place (`nearest_units`). Hence
`Decimal.shortest` reads back as the number it is made from, whether the search found a candidate or
fell back to the exact decimal (`round_shortest`).
-/

namespace CheckDoc

namespace Binary64

/-! ## Places -/

/-- There are magnitudes in a binade. -/
theorem binade_pos : 0 < binade := Nat.pow_pos (by decide)

/-- The magnitude at a place of the binade `k + 1`. -/
theorem units_binade (k r : Nat) (hr : r < binade) :
    units ((k + 1) * binade + r) = (binade + r) * 2 ^ k := by
  have hdiv : ((k + 1) * binade + r) / binade = k + 1 := by
    rw [Nat.mul_comm, Nat.mul_add_div binade_pos, Nat.div_eq_of_lt hr, Nat.add_zero]
  have hmod : ((k + 1) * binade + r) % binade = r := by
    rw [Nat.mul_comm, Nat.mul_add_mod, Nat.mod_eq_of_lt hr]
  have hle : ¬ (k + 1) * binade + r < binade := by
    have : binade ≤ (k + 1) * binade := Nat.le_mul_of_pos_left _ (by omega)
    omega
  rw [units, if_neg hle, hdiv, hmod]
  rfl

/-- A place below the first binade, or a place of a binade. -/
theorem place_cases (p : Nat) :
    p < binade ∨ ∃ k r, r < binade ∧ p = (k + 1) * binade + r := by
  by_cases hp : p < binade
  · exact .inl hp
  · have hdiv : 1 ≤ p / binade := (Nat.one_le_div_iff binade_pos).2 (by omega)
    refine .inr ⟨p / binade - 1, p % binade, Nat.mod_lt _ binade_pos, ?_⟩
    rw [Nat.sub_add_cancel hdiv, Nat.mul_comm]
    exact (Nat.div_add_mod p binade).symm

/-- The magnitudes ascend. -/
theorem units_lt_succ (p : Nat) : units p < units (p + 1) := by
  have hpos := binade_pos
  rcases place_cases p with hp | ⟨k, r, hr, rfl⟩
  · have hunits : units p = p := if_pos hp
    by_cases hnext : p + 1 < binade
    · have hunits' : units (p + 1) = p + 1 := if_pos hnext
      omega
    · have heq : p + 1 = (0 + 1) * binade + 0 := by omega
      rw [heq, units_binade 0 0 hpos, hunits]
      omega
  · rw [units_binade k r hr]
    by_cases hnext : r + 1 < binade
    · rw [Nat.add_assoc, units_binade k (r + 1) hnext]
      exact Nat.mul_lt_mul_of_pos_right (by omega) (Nat.pow_pos (by decide))
    · -- The next place is the first one of the next binade.
      have heq : (k + 1) * binade + r + 1 = (k + 1 + 1) * binade + 0 := by
        rw [Nat.add_mul (k + 1) 1]
        omega
      rw [heq, units_binade (k + 1) 0 hpos, Nat.pow_succ]
      calc (binade + r) * 2 ^ k < (binade * 2) * 2 ^ k :=
            Nat.mul_lt_mul_of_pos_right (by omega) (Nat.pow_pos (by decide))
        _ = (binade + 0) * (2 ^ k * 2) := by ring

/-- The place of a magnitude is found. -/
theorem floorPlace_units (p : Nat) : floorPlace (units p) = p := by
  have hpos := binade_pos
  rcases place_cases p with hp | ⟨k, r, hr, rfl⟩
  · have hunits : units p = p := if_pos hp
    rw [hunits, floorPlace, if_pos (by omega)]
  · rw [units_binade k r hr]
    cases k with
    | zero => rw [floorPlace, if_pos (by omega)]; omega
    | succ k =>
      have hpow : 0 < 2 ^ (k + 1) := Nat.pow_pos (by decide)
      have hlow : 2 ^ (52 + (k + 1)) = binade * 2 ^ (k + 1) := Nat.pow_add 2 52 (k + 1)
      have hhigh : 2 ^ (52 + (k + 1) + 1) = 2 * binade * 2 ^ (k + 1) := by
        rw [Nat.pow_succ, hlow]
        ring
      have hne : (binade + r) * 2 ^ (k + 1) ≠ 0 := Nat.mul_ne_zero (by omega) (by omega)
      have hlog : ((binade + r) * 2 ^ (k + 1)).log2 = 52 + (k + 1) := by
        rw [Nat.log2_eq_iff hne, hlow, hhigh]
        exact ⟨Nat.mul_le_mul_right _ (by omega), Nat.mul_lt_mul_of_pos_right (by omega) hpow⟩
      have hlarge : ¬ (binade + r) * 2 ^ (k + 1) < 2 * binade := by
        have htwo : binade * 2 ≤ binade * 2 ^ (k + 1) :=
          Nat.mul_le_mul_left _ (by rw [Nat.pow_succ]; omega)
        have hadd : (binade + r) * 2 ^ (k + 1) = binade * 2 ^ (k + 1) + r * 2 ^ (k + 1) :=
          Nat.add_mul _ _ _
        omega
      rw [floorPlace, if_neg hlarge, hlog, Nat.add_sub_cancel_left]
      show (k + 1) * binade + (binade + r) * 2 ^ (k + 1) / 2 ^ (k + 1) = _
      rw [Nat.mul_div_cancel _ hpow, Nat.add_mul (k + 1) 1]
      omega

/-! ## Rounding -/

/-- An exact magnitude is nearest to its own place. -/
theorem nearest_units (p : Nat) {d : Nat} (hd : 0 < d) : nearest (units p * d) d = p := by
  have hbelow : 2 * (units p * d) < (units p + units (p + 1)) * d := by
    calc 2 * (units p * d) = (units p + units p) * d := by ring
      _ < (units p + units (p + 1)) * d :=
        Nat.mul_lt_mul_of_pos_right (Nat.add_lt_add_left (units_lt_succ p) _) hd
  rw [nearest, Nat.mul_div_cancel _ hd, floorPlace_units]
  exact if_neg (by omega)

/-- A common factor of a quotient does not matter to rounding. -/
theorem nearest_mul_right (num den : Nat) {k : Nat} (hk : 0 < k) :
    nearest (num * k) (den * k) = nearest num den := by
  unfold nearest
  rw [Nat.mul_div_mul_right _ _ hk]
  generalize floorPlace (num / den) = p
  have hleft : (units p + units (p + 1)) * (den * k) = (units p + units (p + 1)) * den * k := by
    ring
  have hright : 2 * (num * k) = 2 * num * k := by ring
  simp only [hleft, hright, Nat.mul_lt_mul_right hk, Nat.mul_left_inj hk.ne']

/-- A common factor of a quotient does not matter to its number. -/
theorem ofRatio_mul_right (neg : Bool) (num den : Nat) {k : Nat} (hk : 0 < k) :
    ofRatio neg (num * k) (den * k) = ofRatio neg num den := by
  have hswap : num * k * unitsOfOne = num * unitsOfOne * k := by ring
  simp only [ofRatio, ofUnits, hswap, nearest_mul_right _ _ hk]

/-- A magnitude in units is the number at its place. -/
theorem ofUnits_units (neg : Bool) (place : Fin places) {d : Nat} (hd : 0 < d) :
    ofUnits neg (units place * d) d = .finite neg place := by
  have hnearest := nearest_units place hd
  rw [ofUnits, dif_pos (by rw [hnearest]; exact place.isLt)]
  congr 1
  exact Fin.ext hnearest

/-- A rounded quotient is finite or infinite. -/
theorem ofRatio_ne_nan (neg : Bool) (num den : Nat) : ofRatio neg num den ≠ .nan := by
  unfold ofRatio ofUnits
  split <;> simp

end Binary64

namespace Decimal

open Binary64

/-- A decimal that is not infinite is finite. -/
theorem isFinite_round {d : Decimal} (h : d.round.isInfinite = false) :
    d.round.isFinite = true := by
  have hnan : d.round ≠ .nan := by
    unfold round
    split
    · exact ofRatio_ne_nan _ _ _
    · exact ofRatio_ne_nan _ _ _
  cases hround : d.round with
  | nan => exact absurd hround hnan
  | infinite neg =>
    rw [hround] at h
    cases h
  | finite neg place => rfl

/-- A decimal without a fraction has a zero after its point. -/
theorem round_ofNat (neg : Bool) (c e : Nat) :
    round ⟨neg, c * 10 ^ e * 10, -1⟩ = round ⟨neg, c, (e : Int)⟩ :=
  ofRatio_mul_right neg (c * 10 ^ e) 1 (by decide : 0 < 10)

/-- A candidate reads back as the number it is found for. -/
theorem round_of_candidate? {x : Binary64} {neg : Bool} {num den : Nat} {lead : Int} {n : Nat}
    {d : Decimal} (h : candidate? x neg num den lead n = some d) : d.round = x := by
  unfold candidate? at h
  dsimp only at h
  split_ifs at h with hboth hnear hlow hhigh
  · cases h
    exact hboth.1
  · cases h
    exact hboth.2
  · cases h
    exact hlow
  · cases h
    exact hhigh

/-- A decimal with a fraction is a quotient by a power of ten. -/
theorem round_of_negative (neg : Bool) (c : Nat) {e : Int} {m n : Nat} (he : e = Int.negSucc n)
    (hm : m = n + 1) : round ⟨neg, c, e⟩ = ofRatio neg c (10 ^ m) := by
  rw [he, hm]
  rfl

/-- The exact decimal of a magnitude in units of `2^-m` reads back. -/
theorem round_exact (neg : Bool) (place : Fin places) {e : Int} {m n : Nat}
    (he : e = Int.negSucc n) (hm : m = n + 1) (hunits : unitsOfOne = Nat.pow 2 m) :
    round ⟨neg, units place * Nat.pow 5 m, e⟩ = .finite neg place := by
  have hpos : 0 < 10 ^ m := Nat.pow_pos (by decide)
  have hten : 5 ^ m * 2 ^ m = 10 ^ m := (Nat.mul_pow 5 2 m).symm
  rw [round_of_negative neg _ he hm, ofRatio, hunits, Nat.pow_eq, Nat.pow_eq, Nat.mul_assoc, hten]
  exact ofUnits_units neg place hpos

/-- Zero reads back. -/
theorem round_zero (neg : Bool) (place : Fin places) (hzero : units place = 0) :
    round ⟨neg, 0, 0⟩ = .finite neg place := by
  have hround : round ⟨neg, 0, 0⟩ = ofRatio neg (0 * 10 ^ 0) 1 := rfl
  have hunits := ofUnits_units neg place Nat.one_pos
  rw [hzero, Nat.zero_mul] at hunits
  rw [hround, ofRatio, Nat.zero_mul, Nat.zero_mul]
  exact hunits

/-- The shortest decimal of a number reads back as this number. -/
theorem round_shortest (neg : Bool) (place : Fin places) :
    (shortest neg place).round = .finite neg place := by
  -- The exact decimal takes the place of a candidate where there is none.
  have hcases : ∀ exact : Decimal, exact.round = .finite neg place →
      ∀ lead, (((List.range 17).findSome? fun i => candidate? (.finite neg place) neg (units place)
        unitsOfOne lead (i + 1)).getD exact).round = .finite neg place := by
    intro exact hexact lead
    cases hfound : (List.range 17).findSome? fun i => candidate? (.finite neg place) neg
        (units place) unitsOfOne lead (i + 1) with
    | none => rwa [Option.getD_none]
    | some d =>
      rw [Option.getD_some]
      obtain ⟨i, -, hi⟩ := List.exists_of_findSome?_eq_some hfound
      exact round_of_candidate? hi
  unfold shortest
  by_cases hzero : units place = 0
  · rw [if_pos hzero]
    exact round_zero neg place hzero
  · rw [if_neg hzero]
    have hexponent : (-1074 : Int) = Int.negSucc 1073 := by decide
    have hunits : unitsOfOne = Nat.pow 2 1074 := by
      delta unitsOfOne
      exact Eq.refl _
    exact hcases _ (round_exact neg place hexponent (by decide) hunits) _

end Decimal

end CheckDoc
