import CheckDoc.Link.Trial
import Mathlib.Data.List.Basic

/-!
# Steps and runs of batches

`Batch.Step` says once what an event can do to a batch, guards included, and `LinkTask.Moves` what
it does to the task that it is about; later proofs cite these and do not open `Batch.step?`. A run
keeps the list of its events, and can be held to a condition on them. What holds of every task of a
run follows from what one move keeps (`Batch.Run.forall_tasks`).

Two invariants carry the rest. `LinkTask.Sound` ties the record of a link to the stage of its task:
a link is finished exactly where its task has ended, and a task that goes on has an attempt left.
`Batch.Inv` ties the stage of a batch to its tasks: a batch that reports without having been told to
stop has no tasks but those that ended.
-/

namespace CheckDoc

variable {s : LinkSettings}

/-! ## Records of attempts -/

namespace LinkCheck

variable {k c : LinkCheck} {a : Answer}

/-- The record of a link after an attempt that was decided by an answer. -/
inductive Records (s : LinkSettings) (k : LinkCheck) : Answer → LinkCheck → Prop
  /-- The status is a success. -/
  | success {n : Int} {c : LinkCheck} (hn : isSuccess n = true)
    (hc : (succeed n).run k = .ok () c) : Records s k (.status n) c
  /-- The status is none. -/
  | refusal {n : Int} {c : LinkCheck} (hn : isSuccess n = false)
    (hc : (fail ("HTTP status " ++ toString n) (some n)).run k = .ok () c) :
    Records s k (.status n) c
  /-- There was a fault in place of a status. -/
  | fault (f : ProbeFault) {c : LinkCheck} (hc : (fail (f.reason s) none).run k = .ok () c) :
    Records s k (.fault f) c
  /-- The time for the request was over. -/
  | late {c : LinkCheck} (hc : (fail (timeoutReason s) none).run k = .ok () c) :
    Records s k .late c

/-- A link that is not finished takes a success. -/
theorem succeed_run (h : k.done = false) (n : Int) :
    (succeed n).run k = .ok () { k with
      state := .resolved, attempts := k.attempts + 1, status := some n, reason := none } := by
  simp [succeed, beginAttempt, h]

/-- A link that is not finished takes an attempt in vain. -/
theorem fail_run (h : k.done = false) (reason : String) (status : Option Int) :
    (fail reason status).run k = .ok () { k with
      state := if k.maxAttempts ≤ (k.attempts + 1 : Nat) then .failed else .retrying
      attempts := k.attempts + 1, status := status, reason := some reason } := by
  simp [fail, beginAttempt, h]

/-- An attempt is a success of a status, or it is in vain for a reason. -/
theorem Records.eq_or (h : k.Records s a c) (hk : k.done = false) :
    (∃ n, a = .status n ∧ isSuccess n = true ∧ c = { k with
        state := .resolved, attempts := k.attempts + 1, status := some n, reason := none }) ∨
      ∃ reason status, c = { k with
        state := if k.maxAttempts ≤ (k.attempts + 1 : Nat) then .failed else .retrying
        attempts := k.attempts + 1, status := status, reason := some reason } := by
  cases h with
  | success hn hc =>
    rw [succeed_run hk] at hc
    exact .inl ⟨_, rfl, hn, (EStateM.Result.ok.inj hc).2.symm⟩
  | refusal hn hc =>
    rw [fail_run hk] at hc
    exact .inr ⟨_, _, (EStateM.Result.ok.inj hc).2.symm⟩
  | fault f hc =>
    rw [fail_run hk] at hc
    exact .inr ⟨_, _, (EStateM.Result.ok.inj hc).2.symm⟩
  | late hc =>
    rw [fail_run hk] at hc
    exact .inr ⟨_, _, (EStateM.Result.ok.inj hc).2.symm⟩

/-- An attempt counts as one, and changes neither the link nor the attempts that are allowed. -/
theorem Records.attempts_eq (h : k.Records s a c) (hk : k.done = false) :
    c.url = k.url ∧ c.maxAttempts = k.maxAttempts ∧ c.attempts = k.attempts + 1 := by
  obtain ⟨n, -, -, rfl⟩ | ⟨reason, status, rfl⟩ := h.eq_or hk
  · exact ⟨rfl, rfl, rfl⟩
  · exact ⟨rfl, rfl, rfl⟩

/-- After an attempt that does not finish the link there are attempts left. -/
theorem Records.attempts_lt (h : k.Records s a c) (hk : k.done = false) (hc : c.done = false) :
    (c.attempts : Int) < k.maxAttempts := by
  obtain ⟨n, -, -, rfl⟩ | ⟨reason, status, rfl⟩ := h.eq_or hk
  · simp [done, LinkState.done] at hc
  · refine Int.not_le.1 fun hspent => ?_
    rw [done, if_pos hspent] at hc
    cases hc

/-- A link is resolved by the status of the attempt. -/
theorem Records.status_of_resolved (h : k.Records s a c) (hk : k.done = false)
    (hc : c.state = .resolved) : ∃ n, a = .status n ∧ c.status = some n ∧ isSuccess n = true := by
  obtain ⟨n, rfl, hn, rfl⟩ | ⟨reason, status, rfl⟩ := h.eq_or hk
  · exact ⟨n, rfl, rfl, hn⟩
  · dsimp only at hc
    split at hc <;> cases hc

/-- A link fails for a reason. -/
theorem Records.reason_of_failed (h : k.Records s a c) (hk : k.done = false)
    (hc : c.state = .failed) : c.reason.isSome = true := by
  obtain ⟨n, -, -, rfl⟩ | ⟨reason, status, rfl⟩ := h.eq_or hk
  · cases hc
  · rfl

end LinkCheck

/-! ## Moves of tasks -/

namespace LinkTask

variable {t t' : LinkTask} {e : BatchEvent} {m : Method} {a : Answer}

/-- What an event does to the task that it is about. -/
inductive Moves (s : LinkSettings) (t : LinkTask) : BatchEvent → LinkTask → Prop
  /-- A task that waits for its turn begins. -/
  | start (i : Nat) (hstage : t.stage = .queued) : Moves s t (.start i) (t.begin s)
  /-- An answer comes for the request that is out. -/
  | answer (i : Nat) (a : Answer) {m : Method} (hstage : t.stage = .asking m) :
    Moves s t (.answer i a) { t with stage := .answered m a }
  /-- A task goes on with its answer. -/
  | resume (i : Nat) {m : Method} {a : Answer} (hstage : t.stage = .answered m a) :
    Moves s t (.resume i) (t.resume s m a)
  /-- A rest is over. -/
  | wake (i : Nat) {delay : Binary64} (hstage : t.stage = .resting delay) :
    Moves s t (.wake i) (t.ask s .head)

/-- How a task goes on with an answer. -/
inductive Resumes (s : LinkSettings) (t : LinkTask) (m : Method) : Answer → LinkTask → Prop
  /-- The request was rejected, and the content is asked for. -/
  | fallback {n : Int} (hm : m = .head) (hn : headRejected n = true) :
    Resumes s t m (.status n) (t.ask s .get)
  /-- The attempt finishes the link. -/
  | finish {a : Answer} {c : LinkCheck} (hc : t.check.Records s a c) (hdone : c.done = true) :
    Resumes s t m a { t with check := c, stage := .ended }
  /-- There is another attempt after a rest. -/
  | rest {a : Answer} {c : LinkCheck} {delay : Binary64} (hc : t.check.Records s a c)
    (hdone : c.done = false) (hwait : s.wait? c.attempts = some delay) :
    Resumes s t m a { t with check := c, stage := .resting delay }
  /-- The rest before another attempt would be too long. -/
  | overflow {a : Answer} {c : LinkCheck} (hc : t.check.Records s a c) (hdone : c.done = false)
    (hwait : s.wait? c.attempts = none) :
    Resumes s t m a { t with check := c, stage := .broken .waitRange }
  /-- The probe broke down. -/
  | escape (message : String) :
    Resumes s t m (.escape message) { t with stage := .broken (.probe message) }

/-- A task concludes an attempt as the record of it says. -/
theorem resumes_conclude {record : EStateM AlreadyFinished LinkCheck Unit} {c : LinkCheck}
    (hrecord : record.run t.check = .ok () c) (hc : t.check.Records s a c) :
    Resumes s t m a (t.conclude s record) := by
  unfold conclude
  rw [hrecord]
  cases hdone : c.done with
  | true =>
    simp only [hdone, if_true]
    exact .finish hc hdone
  | false =>
    simp only [hdone, Bool.false_eq_true, if_false]
    cases hwait : s.wait? c.attempts with
    | none => exact .overflow hc hdone hwait
    | some delay => exact .rest hc hdone hwait

/-- A task whose link is not finished goes on in one of these ways. -/
theorem resumes_resume (hdone : t.check.done = false) (m : Method) (a : Answer) :
    Resumes s t m a (t.resume s m a) := by
  have hsucceed := LinkCheck.succeed_run hdone
  have hfail := LinkCheck.fail_run hdone
  cases a with
  | status n =>
    unfold resume
    by_cases hreject : (m = .head && headRejected n) = true
    · simp only [hreject, if_true]
      obtain ⟨hm, hn⟩ := Bool.and_eq_true_iff.1 hreject
      exact .fallback (of_decide_eq_true hm) hn
    · simp only [hreject, Bool.false_eq_true, if_false]
      cases hn : isSuccess n with
      | true =>
        rw [if_pos rfl]
        exact resumes_conclude (hsucceed n) (.success hn (hsucceed n))
      | false =>
        rw [if_neg Bool.false_ne_true]
        exact resumes_conclude (hfail _ _) (.refusal hn (hfail _ _))
  | fault f => exact resumes_conclude (hfail _ _) (.fault f (hfail _ _))
  | late => exact resumes_conclude (hfail _ _) (.late (hfail _ _))
  | escape message => exact .escape message

@[simp]
theorem ask_check (s : LinkSettings) (m : Method) (t : LinkTask) : (t.ask s m).check = t.check := by
  unfold ask
  split <;> rfl

/-- A task that asks waits for an answer, or has one that is late at once. -/
theorem ask_stage (s : LinkSettings) (m : Method) (t : LinkTask) :
    (t.ask s m).stage = .asking m ∨ (t.ask s m).stage = .answered m .late := by
  unfold ask
  split
  · exact .inr rfl
  · exact .inl rfl

@[simp]
theorem stop_check (t : LinkTask) : t.stop.check = t.check := by
  unfold stop
  split <;> rfl

/-- A task that is told to stop stops, or it goes on as it is. -/
theorem stop_stage (t : LinkTask) :
    t.stop.stage = .stopped ∧ t.stage ≠ .ended ∨ t.stop.stage = t.stage := by
  unfold stop
  split <;> simp_all

/-- A task that is not at rest and has no slot waits for its turn. -/
theorem stage_eq_queued (hrest : t.atRest = false) (hslot : t.holdsSlot = false) :
    t.stage = .queued := by
  unfold atRest at hrest
  unfold holdsSlot at hslot
  split at hrest <;> simp_all
  split at hslot <;> simp_all
  cases hstage : t.stage <;> simp_all

/-- A task that moves was not at rest. -/
theorem Moves.atRest_eq_false (h : t.Moves s e t') : t.atRest = false := by
  unfold atRest
  cases h <;> simp_all

/-! ## The record and the stage of a task -/

/-- How the record of a link and the stage of its task belong together. -/
structure Sound (s : LinkSettings) (t : LinkTask) : Prop where
  /-- The attempts that are allowed are those of the settings. -/
  budget : t.check.maxAttempts = s.retries + 1
  /-- There are at most so many attempts, but one is always made. -/
  attempts_le : (t.check.attempts : Int) ≤ max 1 (s.retries + 1)
  /-- The link is finished exactly where its task has ended. -/
  done_iff : t.check.done = true ↔ t.stage = .ended
  /-- A link that is not finished has not been tried, or has attempts left. -/
  attempts_left : t.check.done = false → t.check.attempts = 0 ∨ (t.check.attempts : Int) ≤ s.retries
  /-- A link is resolved by a status that is a success. -/
  status_of_resolved : t.check.state = .resolved →
    ∃ n, t.check.status = some n ∧ isSuccess n = true
  /-- A link fails for a reason. -/
  reason_of_failed : t.check.state = .failed → t.check.reason.isSome = true

namespace Sound

/-- The task of a link that has not been tried. -/
theorem fresh (s : LinkSettings) (url : String) : (LinkTask.fresh s url).Sound s where
  budget := rfl
  attempts_le := by
    show (0 : Int) ≤ max 1 (s.retries + 1)
    omega
  done_iff := by simp [LinkTask.fresh, LinkCheck.fresh, LinkCheck.done, LinkState.done]
  attempts_left _ := .inl rfl
  status_of_resolved h := by simp [LinkTask.fresh, LinkCheck.fresh] at h
  reason_of_failed h := by simp [LinkTask.fresh, LinkCheck.fresh] at h

/-- A stage may change without the record as long as the task has not ended. -/
theorem of_check_eq (h : t.Sound s) (hcheck : t'.check = t.check)
    (hended : t'.stage = .ended ↔ t.stage = .ended) : t'.Sound s := by
  refine ⟨?_, ?_, ?_, ?_, ?_, ?_⟩ <;> rw [hcheck]
  · exact h.budget
  · exact h.attempts_le
  · exact h.done_iff.trans hended.symm
  · exact h.attempts_left
  · exact h.status_of_resolved
  · exact h.reason_of_failed

/-- The link of a task that has not ended is not finished. -/
theorem done_eq_false (h : t.Sound s) (hstage : t.stage ≠ .ended) : t.check.done = false :=
  Bool.eq_false_iff.2 fun hdone => hstage (h.done_iff.1 hdone)

/-- A task that asks is sound if it was before. -/
theorem ask (h : t.Sound s) (hstage : t.stage ≠ .ended) (m : Method) : (t.ask s m).Sound s := by
  refine h.of_check_eq (ask_check s m t) (iff_of_false (fun hended => ?_) hstage)
  obtain hm | hm := ask_stage s m t <;> rw [hm] at hended <;> cases hended

/-- A task that records an attempt is sound if its new stage says whether the link is finished. -/
theorem record (h : t.Sound s) (hstage : t.stage ≠ .ended) {c : LinkCheck}
    (hc : t.check.Records s a c) (hcheck : t'.check = c)
    (hended : t'.stage = .ended ↔ c.done = true) : t'.Sound s := by
  subst hcheck
  have hdone := h.done_eq_false hstage
  obtain ⟨-, hmax, hattempts⟩ := hc.attempts_eq hdone
  have hbudget := h.budget
  have hle := h.attempts_le
  refine ⟨hmax.trans hbudget, ?_, hended.symm, fun hnot => .inr ?_, fun hresolved => ?_,
    hc.reason_of_failed hdone⟩
  · -- One more attempt was left, whether or not the link has been tried before.
    obtain hzero | hleft := h.attempts_left hdone <;> omega
  · have := hc.attempts_lt hdone hnot
    omega
  · obtain ⟨n, -, hn⟩ := hc.status_of_resolved hdone hresolved
    exact ⟨n, hn⟩

/-- Moves keep a task sound. -/
theorem moves (h : t.Sound s) (hm : t.Moves s e t') : t'.Sound s := by
  cases hm with
  | start i hstage =>
    have hne : t.stage ≠ .ended := by simp [hstage]
    rw [begin, if_neg (by simp [h.done_eq_false hne])]
    exact h.ask hne .head
  | answer i a hstage => exact h.of_check_eq rfl (by simp [hstage])
  | @resume i m a hstage =>
    have hne : t.stage ≠ .ended := by simp [hstage]
    generalize ht' : t.resume s m a = t'
    have hresumes := resumes_resume (s := s) (h.done_eq_false hne) m a
    rw [ht'] at hresumes
    cases hresumes with
    | fallback => exact h.ask hne .get
    | finish hc hdone => exact h.record hne hc rfl (by simp [hdone])
    | rest hc hdone => exact h.record hne hc rfl (by simp [hdone])
    | overflow hc hdone => exact h.record hne hc rfl (by simp [hdone])
    | escape => exact h.of_check_eq rfl (by simp [hstage])
  | wake i hstage => exact h.ask (by simp [hstage]) .head

/-- Moves keep the link of a task. -/
theorem moves_url (h : t.Sound s) (hm : t.Moves s e t') : t'.check.url = t.check.url := by
  cases hm with
  | start i hstage =>
    unfold begin
    split <;> simp
  | answer i a hstage => rfl
  | @resume i m a hstage =>
    have hdone := h.done_eq_false (by simp [hstage])
    generalize ht' : t.resume s m a = t'
    have hresumes := resumes_resume (s := s) hdone m a
    rw [ht'] at hresumes
    cases hresumes with
    | fallback => simp
    | finish hc => exact (hc.attempts_eq hdone).1
    | rest hc => exact (hc.attempts_eq hdone).1
    | overflow hc => exact (hc.attempts_eq hdone).1
    | escape => rfl
  | wake i hstage => simp

/-- No move stops a task. -/
theorem moves_stage_ne (h : t.Sound s) (hm : t.Moves s e t') : t'.stage ≠ .stopped := by
  have hask : ∀ m, (t.ask s m).stage ≠ .stopped := fun m hstopped => by
    obtain hm | hm := ask_stage s m t <;> rw [hm] at hstopped <;> cases hstopped
  cases hm with
  | start i hstage =>
    unfold begin
    split
    · simp
    · exact hask .head
  | answer i a hstage => simp
  | @resume i m a hstage =>
    generalize ht' : t.resume s m a = t'
    have hresumes := resumes_resume (s := s) (h.done_eq_false (by simp [hstage])) m a
    rw [ht'] at hresumes
    cases hresumes with
    | fallback => exact hask .get
    | finish => simp
    | rest => simp
    | overflow => simp
    | escape => simp
  | wake i hstage => exact hask .head

/-- A task that is told to stop stays sound. -/
theorem stop (h : t.Sound s) : t.stop.Sound s := by
  refine h.of_check_eq (stop_check t) ?_
  obtain ⟨hstop, hne⟩ | hsame := stop_stage t
  · simp [hstop, hne]
  · rw [hsame]

end Sound

end LinkTask

/-! ## Steps of batches -/

namespace Batch

variable {b c d : Batch} {e : BatchEvent} {es : List BatchEvent} {t : LinkTask}

/-- What an event can do to a batch. -/
inductive Step (s : LinkSettings) (b : Batch) : BatchEvent → Batch → Prop
  /-- A task moves; it begins only where a slot is free. -/
  | move {e : BatchEvent} {i : Nat} {t t' : LinkTask} (htask : e.task? = some i)
    (hover : b.isOver = false) (hslot : ∀ j, e = .start j → (b.slotsTaken : Int) < s.concurrency)
    (ht : b.tasks[i]? = some t) (hmove : t.Moves s e t') :
    Step s b e { b with tasks := b.tasks.set i t' }
  /-- The batch is told to stop. -/
  | stop (hstage : b.stage = .running) : Step s b .stop ⟨b.tasks.map LinkTask.stop, .stopping⟩
  /-- A task broke down. -/
  | raise {x : Escape} (hstage : b.stage = .running) (hbreak : b.firstBreak? = some x) :
    Step s b .notice { b with stage := .raised x }
  /-- All tasks came to their end. -/
  | finish (hstage : b.stage = .running) (hbreak : b.firstBreak? = none)
    (hrest : ∀ t ∈ b.tasks, t.atRest = true) : Step s b .notice { b with stage := .reported false }
  /-- The tasks came to rest after the batch was told to stop. -/
  | cutShort (hstage : b.stage = .stopping) (hrest : ∀ t ∈ b.tasks, t.atRest = true) :
    Step s b .notice { b with stage := .reported true }

/-- The outcome of a step that the stage of a task may allow. -/
theorem advance_eq_some_iff {i : Nat} {f : LinkTask → Option LinkTask} :
    b.advance i f = some c ↔ b.isOver = false ∧
      ∃ t t', b.tasks[i]? = some t ∧ f t = some t' ∧ { b with tasks := b.tasks.set i t' } = c := by
  unfold advance
  cases hover : b.isOver <;> simp [Option.bind_eq_some_iff]

/-- The events that can happen, and what they do. -/
theorem step?_eq_some_iff : b.step? s e = some c ↔ b.Step s e c := by
  constructor
  · intro h
    cases e with
    | start i =>
      rw [step?, Option.ite_none_right_eq_some, advance_eq_some_iff] at h
      obtain ⟨hslot, hover, t, t', ht, hstep, rfl⟩ := h
      obtain ⟨hstage, hbegin⟩ := Option.ite_none_right_eq_some.1 hstep
      obtain rfl := Option.some.inj hbegin
      exact .move rfl hover (fun _ _ => hslot) ht (.start i hstage)
    | answer i a =>
      obtain ⟨hover, t, t', ht, hstep, rfl⟩ := advance_eq_some_iff.1 h
      split at hstep
      · rename_i m hstage
        obtain rfl := Option.some.inj hstep
        exact .move rfl hover (fun _ he => nomatch he) ht (.answer i a hstage)
      · cases hstep
    | resume i =>
      obtain ⟨hover, t, t', ht, hstep, rfl⟩ := advance_eq_some_iff.1 h
      split at hstep
      · rename_i m a hstage
        obtain rfl := Option.some.inj hstep
        exact .move rfl hover (fun _ he => nomatch he) ht (.resume i hstage)
      · cases hstep
    | wake i =>
      obtain ⟨hover, t, t', ht, hstep, rfl⟩ := advance_eq_some_iff.1 h
      split at hstep
      · rename_i delay hstage
        obtain rfl := Option.some.inj hstep
        exact .move rfl hover (fun _ he => nomatch he) ht (.wake i hstage)
      · cases hstep
    | stop =>
      obtain ⟨hstage, hc⟩ := Option.ite_none_right_eq_some.1 h
      obtain rfl := Option.some.inj hc
      exact .stop hstage
    | notice =>
      rw [step?] at h
      split at h
      · rename_i hstage
        split at h
        · rename_i x hbreak
          obtain rfl := Option.some.inj h
          exact .raise hstage hbreak
        · rename_i hbreak
          obtain ⟨hrest, hc⟩ := Option.ite_none_right_eq_some.1 h
          obtain rfl := Option.some.inj hc
          exact .finish hstage hbreak (List.all_eq_true.1 hrest)
      · rename_i hstage
        obtain ⟨hrest, hc⟩ := Option.ite_none_right_eq_some.1 h
        obtain rfl := Option.some.inj hc
        exact .cutShort hstage (List.all_eq_true.1 hrest)
      · cases h
  · intro h
    cases h with
    | move htask hover hslot ht hmove =>
      cases hmove with
      | start i hstage =>
        obtain rfl := Option.some.inj htask
        rw [step?, if_pos (hslot i rfl)]
        exact advance_eq_some_iff.2 ⟨hover, _, _, ht, if_pos hstage, rfl⟩
      | answer i a hstage =>
        obtain rfl := Option.some.inj htask
        exact advance_eq_some_iff.2 ⟨hover, _, _, ht, by simp only [hstage], rfl⟩
      | resume i hstage =>
        obtain rfl := Option.some.inj htask
        exact advance_eq_some_iff.2 ⟨hover, _, _, ht, by simp only [hstage], rfl⟩
      | wake i hstage =>
        obtain rfl := Option.some.inj htask
        exact advance_eq_some_iff.2 ⟨hover, _, _, ht, by simp only [hstage], rfl⟩
    | stop hstage => exact if_pos hstage
    | raise hstage hbreak => simp only [step?, hstage, hbreak]
    | finish hstage hbreak hrest =>
      simp only [step?, hstage, hbreak, if_pos (List.all_eq_true.2 hrest)]
    | cutShort hstage hrest => simp only [step?, hstage, if_pos (List.all_eq_true.2 hrest)]

/-- A task broke down with what a batch breaks down with. -/
theorem exists_of_firstBreak? {x : Escape} (h : b.firstBreak? = some x) :
    ∃ t ∈ b.tasks, t.stage = .broken x := by
  obtain ⟨t, ht, hx⟩ := List.exists_of_findSome?_eq_some h
  refine ⟨t, ht, ?_⟩
  split at hx <;> simp_all

/-- No task broke down where nothing is found to break down with. -/
theorem stage_ne_of_firstBreak? (h : b.firstBreak? = none) (ht : t ∈ b.tasks) (x : Escape) :
    t.stage ≠ .broken x := by
  intro hstage
  have hnone := List.findSome?_eq_none_iff.1 h t ht
  simp [hstage] at hnone

/-- How the stage of a batch of links and its tasks belong together. -/
structure Inv (s : LinkSettings) (urls : List String) (b : Batch) : Prop where
  /-- There is a task for each link, in the order of the links. -/
  urls_eq : b.tasks.map (·.check.url) = urls.eraseDups
  /-- The tasks are sound. -/
  sound : ∀ t ∈ b.tasks, t.Sound s
  /-- Tasks are stopped only where the batch was told to stop. -/
  not_stopped : b.stage = .running → ∀ t ∈ b.tasks, t.stage ≠ .stopped
  /-- All tasks have ended where the batch reports without having been told to stop. -/
  ended : b.stage = .reported false → ∀ t ∈ b.tasks, t.stage = .ended
  /-- The batch breaks down as one of its tasks. -/
  broken : ∀ x, b.stage = .raised x → ∃ t ∈ b.tasks, t.stage = .broken x

/-- A batch before its first event. -/
theorem inv_ofUrls (s : LinkSettings) (urls : List String) : (ofUrls s urls).Inv s urls where
  urls_eq := by
    have hurl : (fun t : LinkTask => t.check.url) ∘ LinkTask.fresh s = id := rfl
    rw [ofUrls, List.map_map, hurl, List.map_id]
  sound := List.forall_mem_map.2 fun url _ => .fresh s url
  not_stopped _ := List.forall_mem_map.2 fun url _ => by simp [LinkTask.fresh]
  ended h := by cases h
  broken x h := by cases h

/-- What holds of all tasks holds of all tasks after one of them was replaced. -/
theorem forall_mem_set {P : LinkTask → Prop} {ts : List LinkTask} (h : ∀ t ∈ ts, P t) (i : Nat)
    (ht : P t) : ∀ u ∈ ts.set i t, P u := fun u hu =>
  (List.mem_or_eq_of_mem_set hu).elim (h u) fun heq => heq ▸ ht

/-- The links stay the same where a task is replaced by one for its link. -/
theorem map_url_set {ts : List LinkTask} {i : Nat} {t t' : LinkTask} (ht : ts[i]? = some t)
    (hurl : t'.check.url = t.check.url) :
    (ts.set i t').map (·.check.url) = ts.map (·.check.url) := by
  have hi : (ts.map (·.check.url))[i]? = some t'.check.url := by
    rw [List.getElem?_map, ht, Option.map_some, hurl]
  obtain ⟨hlt, hget⟩ := List.getElem?_eq_some_iff.1 hi
  rw [List.map_set, ← hget, List.set_getElem_self]

/-- Every event keeps the invariant. -/
theorem Inv.step {urls : List String} (h : b.Inv s urls) (hstep : b.Step s e c) :
    c.Inv s urls := by
  cases hstep with
  | @move _ i t t' _ hover _ ht hmove =>
    have hsound := h.sound t (List.mem_of_getElem? ht)
    have hurls := map_url_set ht (hsound.moves_url hmove)
    refine ⟨hurls.trans h.urls_eq, forall_mem_set h.sound i (hsound.moves hmove),
      fun hstage => forall_mem_set (h.not_stopped hstage) i (hsound.moves_stage_ne hmove), ?_, ?_⟩
    · intro hstage
      simp [isOver, show b.stage = .reported false from hstage] at hover
    · intro x hstage
      simp [isOver, show b.stage = .raised x from hstage] at hover
  | stop hstage =>
    refine ⟨?_, List.forall_mem_map.2 fun t ht => (h.sound t ht).stop, ?_, ?_, ?_⟩
    · have hurl : (fun t : LinkTask => t.check.url) ∘ LinkTask.stop = fun t => t.check.url :=
        funext fun t => by simp
      rw [List.map_map, hurl, h.urls_eq]
    · exact (nomatch ·)
    · exact (nomatch ·)
    · exact fun _ => (nomatch ·)
  | raise hstage hbreak =>
    refine ⟨h.urls_eq, h.sound, (nomatch ·), (nomatch ·), fun x hx => ?_⟩
    obtain rfl := BatchStage.raised.inj hx
    exact exists_of_firstBreak? hbreak
  | finish hstage hbreak hrest =>
    refine ⟨h.urls_eq, h.sound, (nomatch ·), fun _ t ht => ?_, fun _ => (nomatch ·)⟩
    -- At rest a task has ended, was stopped or broke down.
    have hat := hrest t ht
    have hne := h.not_stopped hstage t ht
    have hbroken := stage_ne_of_firstBreak? hbreak ht
    unfold LinkTask.atRest at hat
    split at hat <;> simp_all
  | cutShort hstage hrest =>
    exact ⟨h.urls_eq, h.sound, (nomatch ·), (nomatch ·), fun _ => (nomatch ·)⟩

/-! ## Runs -/

/-- The runs of a batch in which every event may happen where it does: the events in order, and the
batch after them. -/
inductive Run (s : LinkSettings) (may : Batch → BatchEvent → Prop) (b : Batch) :
    List BatchEvent → Batch → Prop
  /-- The run without an event. -/
  | nil : Run s may b [] b
  /-- A run and one more event. -/
  | snoc {es : List BatchEvent} {c : Batch} {e : BatchEvent} {d : Batch} (hrun : Run s may b es c)
    (hmay : may c e) (hstep : c.step? s e = some d) : Run s may b (es ++ [e]) d

variable {may : Batch → BatchEvent → Prop}

/-- Runs keep the invariant. -/
theorem Run.inv {urls : List String} (h : Run s may b es c) (hb : b.Inv s urls) :
    c.Inv s urls := by
  induction h with
  | nil => exact hb
  | snoc _ _ hstep ih => exact ih.step (step?_eq_some_iff.1 hstep)

/-- What each move and each stop keeps holds of every task of a run. -/
theorem Run.forall_tasks {P : LinkTask → Prop} (h : Run s may b es c)
    (hstart : ∀ t ∈ b.tasks, P t)
    (hmoves : ∀ {c e i t t'}, may c e → e.task? = some i → c.tasks[i]? = some t →
      t.Moves s e t' → P t → P t')
    (hstop : ∀ {c}, may c .stop → ∀ t, P t → P t.stop) : ∀ t ∈ c.tasks, P t := by
  induction h with
  | nil => exact hstart
  | snoc _ hmay hstep ih =>
    cases step?_eq_some_iff.1 hstep with
    | @move _ i t t' htask _ _ ht hmove =>
      exact forall_mem_set ih i (hmoves hmay htask ht hmove (ih t (List.mem_of_getElem? ht)))
    | stop => exact List.forall_mem_map.2 fun t ht => hstop hmay t (ih t ht)
    | raise => exact ih
    | finish => exact ih
    | cutShort => exact ih

/-- What holds of each task and the events so far holds after a run, where an event about a task
keeps it of what the task becomes, a stop keeps it of the stopped task, and every other event keeps
it of the task as it is. -/
theorem Run.forall_indexed {P : Nat → List BatchEvent → LinkTask → Prop} (h : Run s may b es c)
    (hstart : ∀ i t, b.tasks[i]? = some t → P i [] t)
    (hmove : ∀ {es c e i t t'}, Run s may b es c → e.task? = some i → c.tasks[i]? = some t →
      t.Moves s e t' → P i es t → P i (es ++ [e]) t')
    (hother : ∀ {es e i t}, e.task? ≠ some i → P i es t → P i (es ++ [e]) t)
    (hstop : ∀ {es i t}, P i es t → P i (es ++ [.stop]) t.stop) :
    ∀ i t, c.tasks[i]? = some t → P i es t := by
  induction h with
  | nil => exact hstart
  | @snoc es c e d hrun _ hstep ih =>
    intro i u hu
    cases step?_eq_some_iff.1 hstep with
    | @move _ j t t' htask _ _ ht hmoves =>
      by_cases hij : j = i
      · subst hij
        have hlt : j < c.tasks.length := (List.getElem?_eq_some_iff.1 ht).1
        obtain rfl := Option.some.inj ((List.getElem?_set_self hlt).symm.trans hu)
        exact hmove hrun htask ht hmoves (ih j t ht)
      · rw [List.getElem?_set_ne hij] at hu
        exact hother (fun hi => hij (Option.some.inj (htask.symm.trans hi))) (ih i u hu)
    | stop =>
      rw [List.getElem?_map, Option.map_eq_some_iff] at hu
      obtain ⟨t, ht, rfl⟩ := hu
      exact hstop (ih i t ht)
    | raise => exact hother nofun (ih i u hu)
    | finish => exact hother nofun (ih i u hu)
    | cutShort => exact hother nofun (ih i u hu)

/-- A run may go on with another one. -/
theorem Run.append {d : Batch} {es' : List BatchEvent} (h : Run s may b es c)
    (h' : Run s may c es' d) : Run s may b (es ++ es') d := by
  induction h' with
  | nil =>
    rw [List.append_nil]
    exact h
  | snoc _ hmay hstep ih =>
    rw [← List.append_assoc]
    exact ih.snoc hmay hstep

/-- A batch is reached by a run without conditions. -/
theorem exists_run_of_reaches (h : b.Reaches s c) : ∃ es, Run s (fun _ _ => True) b es c := by
  induction h with
  | refl => exact ⟨[], .nil⟩
  | tail e _ hstep ih =>
    obtain ⟨es, hrun⟩ := ih
    exact ⟨es ++ [e], hrun.snoc trivial hstep⟩

end Batch

end CheckDoc
