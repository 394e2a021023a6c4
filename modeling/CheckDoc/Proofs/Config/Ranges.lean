import CheckDoc.Proofs.Config.Counts
import CheckDoc.Proofs.Numeric.Powers

/-!
# The ranges of settings

A time is refused where it is less than zero. What is no number is not less than anything, so that
it passes: a time that is read is not negative, unless it is no number. Hence settings that are read
are in range exactly where the text sets no time to what is no number (`Settings.ranges_of_parse`).
-/

namespace CheckDoc

namespace Binary64

/-- A number that is not negative. What is no number is neither. -/
def IsNonneg (x : Binary64) : Prop := le (zero false) x = true

/-- What is no number is not a number that is not negative. -/
theorem not_isNonneg_nan : ¬ IsNonneg nan := fun h => nomatch h

/-- The positive infinity is not negative. -/
theorem isNonneg_infinite : IsNonneg (infinite false) := rfl

/-- There are no units at the first place. -/
theorem units_zero : units 0 = 0 := if_pos binade_pos

/-- The sign and the units of a finite number tell whether it is negative. -/
theorem isNonneg_finite_iff {neg : Bool} {place : Fin places} :
    IsNonneg (finite neg place) ↔ 0 ≤ signedUnits neg place := by
  have hle : le (zero false) (finite neg place) =
      !decide (signedUnits neg place < (units 0 : Int)) := rfl
  rw [IsNonneg, hle, units_zero, Bool.not_eq_true', decide_eq_false_iff_not, Int.not_lt,
    Int.natCast_zero]

/-- What is not less than zero is not negative, unless it is no number. -/
theorem eq_nan_or_isNonneg {x : Binary64} (h : x.ltInt 0 = false) : x = nan ∨ x.IsNonneg := by
  cases x with
  | nan => exact .inl rfl
  | infinite neg =>
    cases neg with
    | false => exact .inr isNonneg_infinite
    | true => cases h
  | finite neg place =>
    have hle : ¬ signedUnits neg place < 0 * (unitsOfOne : Int) := of_decide_eq_false h
    rw [Int.zero_mul, Int.not_lt] at hle
    exact .inr (isNonneg_finite_iff.2 hle)

/-- A quotient that is rounded is not negative. -/
theorem isNonneg_ofRatio (num den : Nat) : (ofRatio false num den).IsNonneg := by
  unfold ofRatio ofUnits
  split_ifs
  · exact isNonneg_finite_iff.2 (Int.natCast_nonneg _)
  · exact isNonneg_infinite

/-- A natural number that is small enough is not negative. -/
theorem isNonneg_ofNat (n : Nat) : (ofNat n).IsNonneg := isNonneg_ofRatio n 1

/-- An integer that is not negative is not negative after rounding. -/
theorem isNonneg_of_ofInt? {n : Int} {x : Binary64} (hn : 0 ≤ n) (h : ofInt? n = some x) :
    x.IsNonneg := by
  obtain ⟨m, rfl⟩ := Int.eq_ofNat_of_zero_le hn
  rw [eq_ofRatio_of_ofInt? h]
  exact isNonneg_ofRatio m 1

end Binary64

/-- The settings for links are in range. -/
structure LinkSettings.InRange (l : LinkSettings) : Prop extends l.CountsInRange where
  /-- No time is negative, and each one is a number. -/
  times_nonneg : ∀ x ∈ l.times, x.IsNonneg

/-- The times of the default for links are not negative. -/
theorem LinkSettings.isNonneg_of_mem_times_standard {x : Binary64}
    (h : x ∈ LinkSettings.standard.times) : x.IsNonneg := by
  unfold LinkSettings.standard at h
  obtain htimeout | hbackoff | hdeadline := LinkSettings.mem_times_iff.1 h
  · dsimp only at htimeout
    rw [htimeout]
    exact Binary64.isNonneg_ofNat 10
  · dsimp only at hbackoff
    rw [hbackoff]
    exact Binary64.isNonneg_ofRatio 1 2
  · rw [← Option.some.inj hdeadline]
    exact Binary64.isNonneg_ofNat 60

namespace Settings

open Yaml (Data)

variable {ls : Entries} {l : LinkSettings} {d : Data} {x : Binary64}

/-- A time that is read is not negative, unless it is no number and no number is set. -/
theorem IsTime.cases (h : IsTime d x) : (x = .nan ∧ d = .scalar (.float .nan)) ∨ x.IsNonneg := by
  cases h with
  | int hleast hround => exact .inr (Binary64.isNonneg_of_ofInt? hleast hround)
  | float hleast =>
    obtain rfl | hnonneg := Binary64.eq_nan_or_isNonneg hleast
    · exact .inl ⟨rfl, rfl⟩
    · exact .inr hnonneg

/-- An entry of a section sets a time to what is no number. -/
def SetsNan (ls : Entries) : Prop :=
  ∃ key ∈ timeKeys, entry? ls key = some (.scalar (.float .nan))

/-- A time is no number where the section sets one so, and otherwise it is not negative. -/
theorem IsLinks.time_cases (h : IsLinks ls l) (hx : x ∈ l.times) :
    (x = .nan ∧ SetsNan ls) ∨ x.IsNonneg := by
  have hset : ∀ key ∈ timeKeys, ∀ d, entry? ls key = some d → ∀ x, IsTime d x →
      (x = .nan ∧ SetsNan ls) ∨ x.IsNonneg := by
    intro key hkey d hentry x htime
    obtain ⟨rfl, rfl⟩ | hnonneg := htime.cases
    · exact .inl ⟨rfl, key, hkey, hentry⟩
    · exact .inr hnonneg
  have hstandard : ∀ x ∈ LinkSettings.standard.times, (x = .nan ∧ SetsNan ls) ∨ x.IsNonneg :=
    fun x hx => .inr (LinkSettings.isNonneg_of_mem_times_standard hx)
  obtain htimeout | hbackoff | hdeadline := LinkSettings.mem_times_iff.1 hx
  · rw [htimeout]
    exact h.timeout.elim (q := fun x => (x = .nan ∧ SetsNan ls) ∨ x.IsNonneg)
      (hstandard _ (LinkSettings.mem_times_iff.2 (.inl rfl)))
      fun d hd => hset "timeout" (by decide) d hd _
  · rw [hbackoff]
    exact h.backoff.elim (q := fun x => (x = .nan ∧ SetsNan ls) ∨ x.IsNonneg)
      (hstandard _ (LinkSettings.mem_times_iff.2 (.inr (.inl rfl))))
      fun d hd => hset "backoff" (by decide) d hd _
  · refine h.deadline.elim
      (q := fun limit => ∀ x, limit = some x → (x = .nan ∧ SetsNan ls) ∨ x.IsNonneg)
      (fun x hx => hstandard x (LinkSettings.mem_times_iff.2 (.inr (.inr hx))))
      (fun d hd hread => ?_) x hdeadline
    generalize l.deadline = limit at hread ⊢
    cases hread with
    | null => exact fun x hx => nomatch hx
    | time htime =>
      intro x hx
      obtain rfl := Option.some.inj hx
      exact hset "deadline" (by decide) d hd _ htime

/-- The settings that are read of a text have counts in range and times that are not negative or no
numbers, and they are in range unless the text sets a time to what is no number. -/
theorem ranges_of_parse {label text : String} {st : Settings} (h : parse label text = .ok st) :
    st.links.CountsInRange ∧ (∀ x ∈ st.links.times, x = .nan ∨ x.IsNonneg) ∧
      (st.links.InRange ↔ ∀ d ls, Yaml.readData text.toList = .ok d → HasLinks d ls →
        ¬ SetsNan ls) := by
  obtain ⟨d, hdata, hread⟩ := exists_isRead_of_parse h
  have htimes : ∀ x ∈ st.links.times,
      (x = .nan ∧ ∃ ls, HasLinks d ls ∧ SetsNan ls) ∨ x.IsNonneg := by
    intro x hx
    obtain ⟨-, hstandard⟩ | ⟨ls, hls, hlinks⟩ := hread.links
    · rw [hstandard] at hx
      exact .inr (LinkSettings.isNonneg_of_mem_times_standard hx)
    · exact (hlinks.time_cases hx).imp_left fun ⟨hnan, hsets⟩ => ⟨hnan, ls, hls, hsets⟩
  refine ⟨hread.countsInRange, fun x hx => (htimes x hx).imp_left And.left, ?_, ?_⟩
  · -- What is set to no number is one of the times.
    rintro hrange d' ls hdata' hls ⟨key, hkey, hentry⟩
    obtain rfl : d = d' := by rwa [hdata, Except.ok.injEq] at hdata'
    obtain ⟨x, hx, htime⟩ := (hread.isLinks hls).exists_time hkey hentry fun hnull => nomatch hnull
    cases htime
    exact Binary64.not_isNonneg_nan (hrange.times_nonneg _ hx)
  · intro hnone
    refine ⟨hread.countsInRange, fun x hx => ?_⟩
    obtain ⟨-, ls, hls, hsets⟩ | hnonneg := htimes x hx
    · exact absurd hsets (hnone d ls hdata hls)
    · exact hnonneg

/-- Settings whose time of a request is no number. -/
theorem exists_parse_nan : ∃ st, parse "conf" "links:\n  timeout: .nan" = .ok st ∧
    st.links.timeout = .nan := by
  have htimeout : (parse "conf" "links:\n  timeout: .nan").toOption.map (·.links.timeout) =
      some .nan := by decide +kernel
  exact exists_of_map_toOption htimeout

/-- The ranges of settings whose time of a request is no number. -/
theorem ranges_of_parse_nan : ∃ st, parse "conf" "links:\n  timeout: .nan" = .ok st ∧
    st.links.CountsInRange ∧ (∀ x ∈ st.links.times, x = .nan ∨ x.IsNonneg) ∧
      (st.links.InRange ↔ ∀ d ls, Yaml.readData "links:\n  timeout: .nan".toList = .ok d →
        HasLinks d ls → ¬ SetsNan ls) := by
  obtain ⟨st, hparse, -⟩ := exists_parse_nan
  exact ⟨st, hparse, ranges_of_parse hparse⟩

/-- Not all settings that are read are in range. -/
theorem not_inRange_of_parse : ¬ ∀ (label text : String) (st : Settings),
    parse label text = .ok st → st.links.InRange := by
  intro hall
  obtain ⟨st, hparse, htimeout⟩ := exists_parse_nan
  have hnonneg := (hall _ _ st hparse).times_nonneg .nan
    (LinkSettings.mem_times_iff.2 (.inl htimeout.symm))
  exact Binary64.not_isNonneg_nan hnonneg

end Settings

end CheckDoc
