import CheckDoc.Proofs.Config.Reading

/-!
# The counts of settings

A count that is read is at least its least value: a number is checked first, and a fraction that is
then cut off does not take it below (`Binary64.le_of_truncate?`). Hence the counts of all settings
that are read are in range, whether they are set or keep their defaults
(`Settings.countsInRange_of_parse`).
-/

namespace CheckDoc

/-- A number that is not less than a natural number does not become so without its fraction. -/
theorem Binary64.le_of_truncate? {x : Binary64} {least : Nat} {n : Int}
    (h : x.ltInt least = false) (ht : x.truncate? = some n) : (least : Int) ≤ n := by
  cases x with
  | nan => cases ht
  | infinite neg => cases ht
  | finite neg place =>
    have hle : ¬ signedUnits neg place < least * unitsOfOne := of_decide_eq_false h
    have hpos : 0 < unitsOfOne := by decide +kernel
    obtain rfl := Option.some.inj ht
    generalize unitsOfOne = one at hle hpos ⊢
    cases neg with
    | false =>
      have hunits : least * one ≤ units place := by
        have hle' : ¬ (units place : Int) < (least : Int) * (one : Int) := hle
        exact_mod_cast Int.not_lt.1 hle'
      show (least : Int) ≤ ((units place / one : Nat) : Int)
      exact_mod_cast (Nat.le_div_iff_mul_le hpos).2 hunits
    | true =>
      -- A number with a sign that is not less than a natural number is zero.
      have hle' : ((least * one + units place : Nat) : Int) ≤ 0 := by
        have hneg : (least : Int) * (one : Int) ≤ -(units place : Int) := Int.not_lt.1 hle
        push_cast
        omega
      have hzero : least * one = 0 ∧ units place = 0 := by omega
      have hleast : least = 0 := (Nat.mul_eq_zero.1 hzero.1).resolve_right (by omega)
      show (least : Int) ≤ -((units place / one : Nat) : Int)
      simp [hzero.2, hleast]

/-- The counts of settings are in range. -/
structure LinkSettings.CountsInRange (s : LinkSettings) : Prop where
  /-- There may be no further attempts. -/
  retries_nonneg : 0 ≤ s.retries
  /-- There may be no redirects. -/
  maxRedirects_nonneg : 0 ≤ s.maxRedirects
  /-- Some link is tried at a time. -/
  concurrency_pos : 1 ≤ s.concurrency

/-- The counts of the default for links are in range. -/
theorem LinkSettings.countsInRange_standard : LinkSettings.standard.CountsInRange :=
  ⟨by decide, by decide, by decide⟩

namespace Settings

open Yaml (Data)

/-- A count that is read is at least its least value. -/
theorem IsCount.le {least : Nat} {d : Data} {n : Int} (h : IsCount least d n) :
    (least : Int) ≤ n := by
  cases h with
  | int hleast => exact hleast
  | float hleast htruncate => exact Binary64.le_of_truncate? hleast htruncate

/-- The counts of a section on links are in range. -/
theorem IsLinks.countsInRange {ls : Entries} {l : LinkSettings} (h : IsLinks ls l) :
    l.CountsInRange where
  retries_nonneg :=
    h.retries.elim LinkSettings.countsInRange_standard.retries_nonneg fun _ _ => IsCount.le
  maxRedirects_nonneg :=
    h.maxRedirects.elim LinkSettings.countsInRange_standard.maxRedirects_nonneg
      fun _ _ => IsCount.le
  concurrency_pos :=
    h.concurrency.elim LinkSettings.countsInRange_standard.concurrency_pos fun _ _ => IsCount.le

/-- The counts of settings that are read from data are in range. -/
theorem IsRead.countsInRange {d : Data} {st : Settings} (h : IsRead d st) :
    st.links.CountsInRange := by
  obtain ⟨-, hstandard⟩ | ⟨ls, -, hlinks⟩ := h.links
  · rw [hstandard]
    exact LinkSettings.countsInRange_standard
  · exact hlinks.countsInRange

end Settings

end CheckDoc
