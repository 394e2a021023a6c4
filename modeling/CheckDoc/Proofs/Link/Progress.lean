import CheckDoc.Proofs.Link.Runs

/-!
# Calls on the record of a link

A link is tried by calls of two kinds on its record, `LinkCheck.succeed` and `LinkCheck.fail`. A
call is made in place: it counts the attempt and then sets the fields one after the other. One that
is refused has not changed anything (`LinkCall.perform_run`).

What the record says after any calls follows from the calls that it accepted, and from the last of
them (`LinkHistory.Kept`): one call keeps this (`LinkHistory.Kept.call`), hence so do all of them
(`LinkHistory.Kept.calls`).
-/

namespace CheckDoc

/-- A call on the record of a link. -/
inductive LinkCall where
  /-- The attempt was answered well. -/
  | succeed (status : Int)
  /-- The attempt was in vain. -/
  | fail (reason : String) (status : Option Int)

namespace LinkCall

/-- Whether a call is about an attempt in vain. -/
def isFail : LinkCall → Bool
  | .succeed _ => false
  | .fail _ _ => true

/-- The status that a call sets. -/
def status? : LinkCall → Option Int
  | .succeed n => some n
  | .fail _ status => status

/-- The reason that a call sets. -/
def reason? : LinkCall → Option String
  | .succeed _ => none
  | .fail reason _ => some reason

/-- The state that a call leads to, where it makes for so many attempts of those allowed. -/
def state (k : LinkCall) (maxAttempts : Int) (attempts : Nat) : LinkState :=
  if k.isFail then (if maxAttempts ≤ attempts then .failed else .retrying) else .resolved

variable {k : LinkCall} {maxAttempts : Int} {attempts : Nat}

@[simp]
theorem state_ne_pending : k.state maxAttempts attempts ≠ .pending := by
  unfold state
  split_ifs <;> simp

@[simp]
theorem state_eq_retrying_iff : k.state maxAttempts attempts = .retrying ↔
    k.isFail = true ∧ (attempts : Int) < maxAttempts := by
  unfold state
  split_ifs <;> simp_all

@[simp]
theorem state_eq_failed_iff :
    k.state maxAttempts attempts = .failed ↔ k.isFail = true ∧ maxAttempts ≤ attempts := by
  unfold state
  split_ifs <;> simp_all

@[simp]
theorem state_eq_resolved_iff : k.state maxAttempts attempts = .resolved ↔ k.isFail = false := by
  unfold state
  split_ifs <;> simp_all

@[simp]
theorem reason?_eq_none_iff : k.reason? = none ↔ k.isFail = false := by
  cases k <;> simp [reason?, isFail]

end LinkCall

/-! ## One call -/

namespace LinkCall

/-- Makes a call on the record at hand. -/
def perform : LinkCall → EStateM AlreadyFinished LinkCheck Unit
  | .succeed n => LinkCheck.succeed n
  | .fail reason status => LinkCheck.fail reason status

/-- A call counts an attempt and sets the fields, unless the link is finished: then it leaves the
record as it was. -/
theorem perform_run (k : LinkCall) (c : LinkCheck) :
    k.perform.run c =
      if c.done then .error ⟨c.url, c.state⟩ c
      else .ok () { c with
        attempts := c.attempts + 1, status := k.status?, reason := k.reason?
        state := k.state c.maxAttempts (c.attempts + 1) } := by
  cases hdone : c.done with
  | true =>
    cases k <;>
      simp [perform, LinkCheck.succeed, LinkCheck.fail, LinkCheck.beginAttempt, hdone]
  | false =>
    cases k with
    | succeed n => exact LinkCheck.succeed_run hdone n
    | fail reason status => exact LinkCheck.fail_run hdone reason status

/-- A record that is finished refuses a call and stays as it is. -/
theorem perform_run_of_done {c : LinkCheck} (hdone : c.done = true) (k : LinkCall) :
    k.perform.run c = .error ⟨c.url, c.state⟩ c := by rw [perform_run, if_pos hdone]

/-- A record that is not finished accepts a call. -/
theorem perform_run_of_not_done {c : LinkCheck} (hdone : c.done = false) (k : LinkCall) :
    k.perform.run c = .ok () { c with
      attempts := c.attempts + 1, status := k.status?, reason := k.reason?
      state := k.state c.maxAttempts (c.attempts + 1) } := by
  rw [perform_run, hdone, if_neg Bool.false_ne_true]

end LinkCall

/-! ## Calls in a row -/

/-- A record with the calls that it accepted, the first one first. -/
structure LinkHistory where
  /-- The record. -/
  check : LinkCheck
  /-- The calls. -/
  accepted : List LinkCall

namespace LinkHistory

variable {url : String} {maxAttempts : Int} {h : LinkHistory}

/-- A record before any call. -/
def fresh (url : String) (maxAttempts : Int) : LinkHistory := ⟨.fresh url maxAttempts, []⟩

/-- Makes a call on the record; one that is refused does not enter the history. -/
def call (h : LinkHistory) (k : LinkCall) : LinkHistory :=
  match k.perform.run h.check with
  | .ok _ c => ⟨c, h.accepted ++ [k]⟩
  | .error _ c => ⟨c, h.accepted⟩

/-- Makes calls one after the other. -/
def calls (h : LinkHistory) (ks : List LinkCall) : LinkHistory := ks.foldl call h

/-- The last call that was accepted. -/
def last? (h : LinkHistory) : Option LinkCall := h.accepted.getLast?

/-- What a record says of the calls that it accepted. -/
structure Kept (url : String) (maxAttempts : Int) (h : LinkHistory) : Prop where
  /-- The link stays the same. -/
  url_eq : h.check.url = url
  /-- The number of attempts that are allowed stays the same. -/
  budget : h.check.maxAttempts = maxAttempts
  /-- The attempts are the accepted calls. -/
  attempts_eq : h.check.attempts = h.accepted.length
  /-- There are no more attempts than are allowed, but one is always made. -/
  attempts_le : (h.check.attempts : Int) ≤ max 1 maxAttempts
  /-- A link that has not been tried has no attempts. -/
  pending_iff : h.check.state = .pending ↔ h.check.attempts = 0
  /-- A link is tried again after an attempt in vain that leaves some. -/
  retrying_iff : h.check.state = .retrying ↔
    (∃ k, h.last? = some k ∧ k.isFail = true) ∧ (h.check.attempts : Int) < maxAttempts
  /-- A link fails by an attempt in vain that leaves none. -/
  failed_iff : h.check.state = .failed ↔
    (∃ k, h.last? = some k ∧ k.isFail = true) ∧ maxAttempts ≤ h.check.attempts
  /-- A link is resolved by an attempt that was answered well. -/
  resolved_iff : h.check.state = .resolved ↔ ∃ k, h.last? = some k ∧ k.isFail = false
  /-- The status is that of the last call. -/
  status_eq : h.check.status = h.last?.bind LinkCall.status?
  /-- The reason is that of the last call. -/
  reason_eq : h.check.reason = h.last?.bind LinkCall.reason?
  /-- There is a reason exactly after an attempt in vain. -/
  reason_eq_none_iff :
    h.check.reason = none ↔ h.check.state = .pending ∨ h.check.state = .resolved

/-- A history before any call. -/
theorem kept_fresh (url : String) (maxAttempts : Int) : (fresh url maxAttempts).Kept url maxAttempts
    where
  url_eq := rfl
  budget := rfl
  attempts_eq := rfl
  attempts_le := by
    show (0 : Int) ≤ max 1 maxAttempts
    omega
  pending_iff := by simp [fresh, LinkCheck.fresh]
  retrying_iff := by simp [fresh, LinkCheck.fresh, last?]
  failed_iff := by simp [fresh, LinkCheck.fresh, last?]
  resolved_iff := by simp [fresh, LinkCheck.fresh, last?]
  status_eq := rfl
  reason_eq := rfl
  reason_eq_none_iff := by simp [fresh, LinkCheck.fresh]

/-- Every call keeps what a record says of its history. -/
theorem Kept.call (hkept : h.Kept url maxAttempts) (k : LinkCall) :
    (h.call k).Kept url maxAttempts := by
  cases hdone : h.check.done with
  | true =>
    have hcall : h.call k = h := by simp only [LinkHistory.call, LinkCall.perform_run_of_done hdone]
    rwa [hcall]
  | false =>
    -- The link was not tried yet, or it has attempts left.
    have hleft : h.check.attempts = 0 ∨ (h.check.attempts : Int) < maxAttempts := by
      cases hstate : h.check.state with
      | pending => exact .inl (hkept.pending_iff.1 hstate)
      | retrying => exact .inr (hkept.retrying_iff.1 hstate).2
      | resolved => simp [LinkCheck.done, hstate, LinkState.done] at hdone
      | failed => simp [LinkCheck.done, hstate, LinkState.done] at hdone
    have hbudget := hkept.budget
    have hattempts := hkept.attempts_eq
    have hlast : (h.accepted ++ [k]).getLast? = some k := List.getLast?_concat
    simp only [LinkHistory.call, LinkCall.perform_run_of_not_done hdone]
    refine ⟨hkept.url_eq, hbudget, ?_, ?_, ?_, ?_, ?_, ?_, ?_, ?_, ?_⟩ <;>
      simp only [last?, hlast, hbudget]
    · simp [hattempts]
    · omega
    all_goals simp

/-- Calls keep what a record says of its history. -/
theorem Kept.calls (hkept : h.Kept url maxAttempts) (ks : List LinkCall) :
    (h.calls ks).Kept url maxAttempts := by
  induction ks generalizing h with
  | nil => exact hkept
  | cons k ks ih => exact ih (hkept.call k)

/-- Calls change nothing where the link is finished. -/
theorem calls_of_done (hdone : h.check.done = true) (ks : List LinkCall) : h.calls ks = h := by
  induction ks with
  | nil => rfl
  | cons k ks ih =>
    have hcall : h.call k = h := by simp only [call, LinkCall.perform_run_of_done hdone]
    rw [calls, List.foldl_cons, hcall]
    exact ih

/-- After any calls on the record of a new link, the record follows from the calls that it accepted
and from the last of them. It accepts a further call exactly as long as the link is not finished;
from then on each call is refused and leaves the record as it is, and so do any number of calls. -/
theorem kept_calls_fresh (url : String) (maxAttempts : Int) (ks : List LinkCall) :
    let h := (fresh url maxAttempts).calls ks
    h.Kept url maxAttempts ∧
      (h.check.done = false → ∀ k : LinkCall, ∃ c, k.perform.run h.check = .ok () c) ∧
      (h.check.done = true → ∀ more, h.calls more = h ∧
        ∀ k : LinkCall, k.perform.run h.check = .error ⟨url, h.check.state⟩ h.check) := by
  intro h
  have hkept : h.Kept url maxAttempts := (kept_fresh url maxAttempts).calls ks
  refine ⟨hkept, fun hdone k => ⟨_, LinkCall.perform_run_of_not_done hdone k⟩, fun hdone more => ?_⟩
  refine ⟨calls_of_done hdone more, fun k => ?_⟩
  rw [LinkCall.perform_run_of_done hdone, hkept.url_eq]

end LinkHistory

end CheckDoc
