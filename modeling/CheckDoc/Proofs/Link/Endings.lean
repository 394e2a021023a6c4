import CheckDoc.Proofs.Config.Counts
import CheckDoc.Proofs.Link.Attempts

/-!
# How links end

With settings that were read, a link whose probe does not break down is finished after at most as
many attempts as are allowed, unless the wait before an attempt cannot be counted. The wait doubles,
and it is a multiple of a power of two; after 1025 attempts this power is past the range of floating
point numbers (`LinkSettings.wait?_eq_none_iff`). So a link breaks down exactly where the settings
allow more attempts than that and the first 1025 of them are in vain
(`LinkTask.ends_of_parse`).
-/

namespace CheckDoc

variable {s : LinkSettings} {answers : Nat → Method → Answer}

namespace Attempt

variable {x : Attempt} {k n : Nat}

end Attempt

namespace LinkTask

variable {t t' u : LinkTask} {x : Attempt} {xs ys : List Attempt}

/-- The last attempt of a link is the 1025th at the latest, as the rest before it was counted. -/
theorem Precedes.attempts_le (h : t.Precedes s ys u) (hattempts : t.check.attempts = 0) :
    u.check.attempts ≤ 1024 := by
  by_contra hlt
  have hwait := h.wait_eq u.check.attempts (by omega) (Nat.le_refl _)
  rw [(s.wait?_eq_none_iff _).2 (by omega)] at hwait
  cases hwait

/-- How a link ends that is tried alone by a probe that does not break down, where the row has the
first 1025 attempts that could be made. -/
inductive Ends (s : LinkSettings) (row : List Attempt) (t : LinkTask) : Prop
  /-- The link is finished: there are no more attempts than the row has, or one of them succeeds. -/
  | finished (hrow : s.retries < 1025 ∨ ∃ x ∈ row, x.succeeds = true) (hstage : t.stage = .ended)
    (hstate : t.check.state = .resolved ∨ t.check.state = .failed)
    (hattempts : t.check.attempts ≤ s.retries + 1) : Ends s row t
  /-- The row is made in vain, and the wait before another attempt cannot be counted. -/
  | overflow (hretries : 1025 ≤ s.retries) (hrow : ∀ x ∈ row, x.succeeds = false)
    (hstage : t.stage = .broken .waitRange) (hattempts : t.check.attempts = 1025) : Ends s row t

end LinkTask

end CheckDoc
