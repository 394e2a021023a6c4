import CheckDoc.Proofs.Link.Report
import Mathlib.Algebra.GroupWithZero.Nat

/-!
# What batches are held to

However the events of a batch follow each other, there are never more tasks between their first call
of the probe and their end than there are slots, no link has two calls without an answer, and a
batch that was told to stop calls the probe for no new link (`Trial.run_within_limits`).

This is said of every run of a batch, and the trial on a clock makes one of them
(`Trial.exists_run`).

`LinkTask.Counted` says at each stage how many calls a task has made for the answers that came. A
task that was stopped may still have a call out, and it gives its slot back only when that is given
up; so `LinkTask.occupies` counts it, and `Batch.Limited` bounds this number. That needs a second
fact: where a batch was told to stop, the tasks without a call are at rest.
-/

namespace CheckDoc

variable {s : LinkSettings}

/-! ## Calls and answers -/

/-- The number of answers that came for the task of an index. -/
def answersFor (i : Nat) (es : List BatchEvent) : Nat :=
  es.countP fun
    | .answer j _ => j = i
    | _ => false

/-- The answers that an event brings for the task of an index. -/
theorem answersFor_append (i : Nat) (es : List BatchEvent) (e : BatchEvent) :
    answersFor i (es ++ [e]) = answersFor i es + answersFor i [e] :=
  List.countP_append

/-- An event that is not about a task brings no answer for it. -/
theorem answersFor_of_task?_ne {i : Nat} {e : BatchEvent} (h : e.task? ≠ some i) :
    answersFor i [e] = 0 := by
  cases e with
  | answer j a =>
    have hj : j ≠ i := fun hj => h (congrArg some hj)
    simp [answersFor, hj]
  | _ => rfl

namespace LinkTask

variable {t t' : LinkTask} {e : BatchEvent} {n : Nat}

/-- How many calls of the probe a task has made at its stage, where `n` answers came for it. -/
def Counted (n : Nat) (t : LinkTask) : Prop :=
  match t.stage with
  | .queued => t.calls = 0 ∧ n = 0
  | .asking _ => t.calls = n + 1
  | .answered _ a => t.calls = n ∧ (a = .late ∨ 0 < n)
  | .stopped => n ≤ t.calls ∧ t.calls ≤ n + 1
  | .resting _ | .ended | .broken _ => t.calls = n

/-- A task that is told to stop stops, unless it is at rest or goes on with an answer in time. -/
theorem stop_cases (t : LinkTask) :
    t.stop = { t with stage := .stopped } ∧ t.atRest = false ∨
      t.stop = t ∧ (t.atRest = true ∨ ∃ m a, t.stage = .answered m a ∧ a ≠ .late) := by
  unfold stop atRest
  cases hstage : t.stage with
  | answered m a => cases a <;> simp
  | _ => simp

namespace Counted

/-- The calls are those that have an answer, and one more at most. -/
theorem bounds (h : t.Counted n) : n ≤ t.calls ∧ t.calls ≤ n + 1 := by
  unfold Counted at h
  split at h <;> omega

/-- A task that waits for its turn has made no call. -/
theorem calls_eq_zero (h : t.Counted n) (hstage : t.stage = .queued) : t.calls = 0 := by
  simp only [Counted, hstage] at h
  exact h.1

/-- A task that has an answer in time has made a call. -/
theorem calls_ne_zero {m : Method} {a : Answer} (h : t.Counted n) (hstage : t.stage = .answered m a)
    (hlate : a ≠ .late) : t.calls ≠ 0 := by
  simp only [Counted, hstage, hlate, false_or] at h
  omega

/-- A task whose calls all have their answers may ask. -/
theorem ask (h : t.calls = n) (m : Method) : (t.ask s m).Counted n := by
  unfold LinkTask.ask
  by_cases htime : s.timeout.le (.zero false) = true
  · rw [if_pos htime]
    exact ⟨h, .inl rfl⟩
  · rw [if_neg htime]
    exact congrArg (· + 1) h

/-- Moves keep the count. -/
theorem moves {i : Nat} (h : t.Counted n) (hsound : t.Sound s) (htask : e.task? = some i)
    (hm : t.Moves s e t') : t'.Counted (n + answersFor i [e]) := by
  cases hm with
  | start j hstage =>
    simp only [Counted, hstage] at h
    rw [begin, if_neg (by simp [hsound.done_eq_false (by simp [hstage])])]
    exact .ask (h.1.trans h.2.symm) .head
  | answer j a hstage =>
    obtain rfl := Option.some.inj htask
    simp only [Counted, hstage] at h
    have hone : answersFor j [.answer j a] = 1 := by simp [answersFor]
    rw [hone]
    exact ⟨h, .inr (Nat.succ_pos n)⟩
  | @resume j m a hstage =>
    simp only [Counted, hstage] at h
    generalize ht' : t.resume s m a = t'
    have hresumes := resumes_resume (s := s) (hsound.done_eq_false (by simp [hstage])) m a
    rw [ht'] at hresumes
    -- Only the fallback asks again; every call before it has its answer.
    cases hresumes with
    | fallback => exact .ask h.1 .get
    | _ => exact h.1
  | wake j hstage =>
    simp only [Counted, hstage] at h
    exact .ask h .head

/-- A task that is told to stop has made as many calls as before. -/
theorem stop (h : t.Counted n) : t.stop.Counted n := by
  obtain ⟨hstop, -⟩ | ⟨hsame, -⟩ := stop_cases t
  · rw [hstop]
    exact h.bounds
  · rwa [hsame]

end Counted

/-! ## Slots -/

/-- Whether a task is between its first call of the probe and its end. One that was stopped counts
as if its last call were never given up. -/
def isUnderWay (t : LinkTask) : Bool :=
  match t.stage with
  | .ended | .broken _ => false
  | _ => 0 < t.calls

/-- Whether a task has a slot, or was stopped after a call. -/
def occupies (t : LinkTask) : Bool := t.holdsSlot || (t.stage = .stopped && 0 < t.calls)

/-- A task that has made a call occupies a slot, unless it came to its end. -/
theorem Counted.occupies_of_calls (h : t.Counted n) (hcalls : 0 < t.calls)
    (hrest : t.atRest = false ∨ t.stage = .stopped) : t.occupies = true := by
  unfold occupies
  rcases hrest with hrest | hstopped
  · cases hslot : t.holdsSlot with
    | true => rfl
    | false =>
      have hzero := h.calls_eq_zero (stage_eq_queued hrest hslot)
      omega
  · simp [hstopped, hcalls]

/-- A task that is under way occupies a slot. -/
theorem Counted.occupies_of_isUnderWay (h : t.Counted n) (ht : t.isUnderWay = true) :
    t.occupies = true := by
  unfold isUnderWay at ht
  split at ht
  · cases ht
  · cases ht
  · rename_i hended hbroken
    refine h.occupies_of_calls (of_decide_eq_true ht) ?_
    unfold atRest
    split <;> simp_all

/-- A task without a call is at rest when it was told to stop. -/
theorem Counted.atRest_stop (h : t.Counted n) (hcalls : t.stop.calls = 0) :
    t.stop.atRest = true := by
  obtain ⟨hstop, -⟩ | ⟨hsame, hrest | ⟨m, a, hstage, hlate⟩⟩ := stop_cases t
  · rw [hstop]
    rfl
  · rwa [hsame]
  · rw [hsame] at hcalls
    exact absurd hcalls (h.calls_ne_zero hstage hlate)

/-- A task that is told to stop occupies no slot that it did not before. -/
theorem Counted.occupies_of_stop (h : t.Counted n) (ht : t.stop.occupies = true) :
    t.occupies = true := by
  obtain ⟨hstop, hrest⟩ | ⟨hsame, -⟩ := stop_cases t
  · have hcalls : 0 < t.calls := by simpa [hstop, occupies, holdsSlot] using ht
    exact h.occupies_of_calls hcalls (.inl hrest)
  · rwa [hsame] at ht

/-- A task moves that begins, or that has a slot. -/
theorem Moves.cases_start (hm : t.Moves s e t') :
    ((∃ i, e = .start i) ∧ t.stage = .queued) ∨ t.holdsSlot = true := by
  cases hm with
  | start i hstage => exact .inl ⟨⟨i, rfl⟩, hstage⟩
  | answer i a hstage => simp [holdsSlot, hstage]
  | resume i hstage => simp [holdsSlot, hstage]
  | wake i hstage => simp [holdsSlot, hstage]

/-- A task that asks has made no fewer calls than before. -/
theorem calls_le_ask (s : LinkSettings) (m : Method) (t : LinkTask) :
    t.calls ≤ (t.ask s m).calls := by
  unfold ask
  split
  · exact Nat.le_refl _
  · exact Nat.le_succ _

/-- Moves take back no call. -/
theorem Sound.moves_calls_le (h : t.Sound s) (hm : t.Moves s e t') : t.calls ≤ t'.calls := by
  cases hm with
  | start i hstage =>
    rw [begin, if_neg (by simp [h.done_eq_false (by simp [hstage])])]
    exact calls_le_ask s .head t
  | answer i a hstage => exact Nat.le_refl _
  | @resume i m a hstage =>
    generalize ht' : t.resume s m a = t'
    have hresumes := resumes_resume (s := s) (h.done_eq_false (by simp [hstage])) m a
    rw [ht'] at hresumes
    cases hresumes with
    | fallback => exact calls_le_ask s .get t
    | _ => exact Nat.le_refl _
  | wake i hstage => exact calls_le_ask s .head t

end LinkTask

/-! ## Steps and runs -/

namespace Batch

variable {b c d : Batch} {e : BatchEvent} {es es' : List BatchEvent} {urls : List String}
  {may : Batch → BatchEvent → Prop}

/-- What a batch is held to after every event. -/
structure Limited (s : LinkSettings) (b : Batch) : Prop where
  /-- Tasks occupy no more slots than there are. -/
  slots : (b.tasks.countP LinkTask.occupies : Int) ≤ s.concurrency
  /-- Where the batch was told to stop, the tasks without a call are at rest. -/
  quiet : b.stage = .stopping → ∀ t ∈ b.tasks, t.calls = 0 → t.atRest = true

/-- Among the tasks after a replacement one more has a property at most, and none more where the
task that was replaced had it. -/
theorem countP_set_le {p : LinkTask → Bool} {ts : List LinkTask} {i : Nat} {t : LinkTask}
    (ht : ts[i]? = some t) (t' : LinkTask) :
    (ts.set i t').countP p ≤ ts.countP p + 1 ∧
      (p t = true → (ts.set i t').countP p ≤ ts.countP p) := by
  obtain ⟨hlt, hget⟩ := List.getElem?_eq_some_iff.1 ht
  rw [List.countP_set hlt, hget]
  refine ⟨by split <;> split <;> omega, fun hp => ?_⟩
  have hpos : 0 < ts.countP p := List.countP_pos_iff.2 ⟨t, List.mem_of_getElem? ht, hp⟩
  rw [if_pos hp]
  split <;> omega

/-- As long as a batch runs, the tasks that occupy a slot are those that have one. -/
theorem Inv.countP_occupies (h : b.Inv s urls) (hstage : b.stage = .running) :
    b.tasks.countP LinkTask.occupies = b.slotsTaken := by
  refine List.countP_congr fun t ht => ?_
  simp [LinkTask.occupies, h.not_stopped hstage t ht]

/-- A batch that is not over runs, or it was told to stop. -/
theorem stage_of_isOver_eq_false (h : b.isOver = false) :
    b.stage = .running ∨ b.stage = .stopping := by
  cases hstage : b.stage with
  | running => exact .inl rfl
  | stopping => exact .inr rfl
  | reported _ => simp [isOver, hstage] at h
  | raised _ => simp [isOver, hstage] at h

/-- Every event keeps what a batch is held to. -/
theorem Limited.step (h : b.Limited s) (hinv : b.Inv s urls)
    (hcounted : ∀ t ∈ b.tasks, ∃ n, t.Counted n) (hstep : b.Step s e c) : c.Limited s := by
  cases hstep with
  | @move _ i t t' _ hover hslot ht hmove =>
    have hmem := List.mem_of_getElem? ht
    obtain ⟨n, hn⟩ := hcounted t hmem
    obtain ⟨hone, hnone⟩ := countP_set_le (p := LinkTask.occupies) ht t'
    -- A batch that was told to stop moves no task without a call.
    have hcalls : b.stage = .stopping → t.calls ≠ 0 := fun hstage hzero => by
      cases hmove.atRest_eq_false.symm.trans (h.quiet hstage t hmem hzero)
    refine ⟨?_, fun hstage => forall_mem_set (h.quiet hstage) i fun hzero => ?_⟩
    · -- A task that begins takes one of the free slots; every other one has its slot already.
      show ((b.tasks.set i t').countP LinkTask.occupies : Int) ≤ s.concurrency
      obtain ⟨⟨j, rfl⟩, hqueued⟩ | hholds := hmove.cases_start
      · have hrunning : b.stage = .running :=
          (stage_of_isOver_eq_false hover).resolve_right fun hstage =>
            hcalls hstage (hn.calls_eq_zero hqueued)
        have hfree := hslot j rfl
        rw [← hinv.countP_occupies hrunning] at hfree
        omega
      · have hle := hnone (by simp [LinkTask.occupies, hholds])
        have hslots := h.slots
        omega
    · have hle := (hinv.sound t hmem).moves_calls_le hmove
      exact absurd (Nat.le_zero.1 (hzero ▸ hle)) (hcalls hstage)
  | stop hstage =>
    refine ⟨?_, fun _ => List.forall_mem_map.2 fun t ht hzero => ?_⟩
    · have hle : (b.tasks.map LinkTask.stop).countP LinkTask.occupies ≤
          b.tasks.countP LinkTask.occupies := by
        rw [List.countP_map]
        refine List.countP_mono_left fun t ht hstop => ?_
        obtain ⟨n, hn⟩ := hcounted t ht
        exact hn.occupies_of_stop hstop
      have hslots := h.slots
      dsimp only
      omega
    · obtain ⟨n, hn⟩ := hcounted t ht
      exact hn.atRest_stop hzero
  | raise => exact ⟨h.slots, fun hstage => by cases hstage⟩
  | finish => exact ⟨h.slots, fun hstage => by cases hstage⟩
  | cutShort => exact ⟨h.slots, fun hstage => by cases hstage⟩

/-- A batch that was told to stop or is over does not run again. -/
theorem Step.stage_ne_running (h : b.Step s e c) (hb : b.stage ≠ .running ∨ e = .stop) :
    c.stage ≠ .running := by
  cases h with
  | move htask =>
    rcases hb with hb | rfl
    · exact hb
    · cases htask
  | _ => exact nofun

/-- The tasks of a batch that has not begun: none has made a call. -/
structure Fresh (s : LinkSettings) (urls : List String) (b : Batch) : Prop where
  /-- The stage and the tasks belong together. -/
  inv : b.Inv s urls
  /-- All tasks wait for their turn. -/
  queued : ∀ t ∈ b.tasks, t.stage = .queued ∧ t.calls = 0
  /-- The batch was not told to stop. -/
  not_stopping : b.stage ≠ .stopping

/-- The calls of each task of a run are counted by the answers for it. -/
theorem Run.counted (h : Run s may b es c) (hb : b.Fresh s urls) :
    ∀ (i : Nat) (t : LinkTask), c.tasks[i]? = some t → t.Counted (answersFor i es) := by
  refine h.forall_indexed (P := fun i es t => t.Counted (answersFor i es)) ?_ ?_ ?_ ?_
  · intro i t ht
    obtain ⟨hstage, hcalls⟩ := hb.queued t (List.mem_of_getElem? ht)
    simp only [LinkTask.Counted, hstage]
    exact ⟨hcalls, rfl⟩
  · intro es c e i t t' hrun htask ht hmove hcounted
    rw [answersFor_append]
    exact hcounted.moves ((hrun.inv hb.inv).sound t (List.mem_of_getElem? ht)) htask hmove
  · intro es e i t htask hcounted
    rwa [answersFor_append, answersFor_of_task?_ne htask]
  · intro es i t hcounted
    rw [answersFor_append]
    exact hcounted.stop

/-- The calls of each task of a run are counted. -/
theorem Run.exists_counted (h : Run s may b es c) (hb : b.Fresh s urls) :
    ∀ t ∈ c.tasks, ∃ n, t.Counted n := fun t ht => by
  obtain ⟨i, hi⟩ := List.mem_iff_getElem?.1 ht
  exact ⟨_, h.counted hb i t hi⟩

/-- A batch is held to its limits throughout a run. -/
theorem Run.limited (h : Run s may b es c) (hb : b.Fresh s urls) (hc : 0 ≤ s.concurrency) :
    c.Limited s := by
  induction h with
  | nil =>
    refine ⟨?_, fun hstage => absurd hstage hb.not_stopping⟩
    rw [List.countP_eq_zero.2 fun t ht => by
      simp [LinkTask.occupies, LinkTask.holdsSlot, (hb.queued t ht).1]]
    exact hc
  | snoc hrun _ hstep ih =>
    exact ih.step (hrun.inv hb.inv) (hrun.exists_counted hb) (step?_eq_some_iff.1 hstep)

/-- A batch that does not run does not run again. -/
theorem Run.stage_ne_running (h : Run s may b es c) (hb : b.stage ≠ .running ∨ .stop ∈ es) :
    c.stage ≠ .running := by
  induction h with
  | nil => simpa using hb
  | snoc _ _ hstep ih =>
    refine (step?_eq_some_iff.1 hstep).stage_ne_running ?_
    rw [List.mem_append, List.mem_singleton] at hb
    rcases hb with hb | hb | hb
    · exact .inl (ih (.inl hb))
    · exact .inl (ih (.inr hb))
    · exact .inr hb.symm

/-- Nothing happens to a task without a call once the batch does not run any more. -/
theorem Run.getElem?_of_calls_eq_zero (h : Run s may b es c) (h' : Run s may c es' d)
    (hb : b.Fresh s urls) (hc : 0 ≤ s.concurrency) (hstage : c.stage ≠ .running) {i : Nat}
    {t : LinkTask} (ht : c.tasks[i]? = some t) (hcalls : t.calls = 0) : d.tasks[i]? = some t := by
  induction h' with
  | nil => exact ht
  | @snoc es' c' e d hrun _ hstep ih =>
    have hstage' := hrun.stage_ne_running (.inl hstage)
    have hlimited := (h.append hrun).limited hb hc
    cases step?_eq_some_iff.1 hstep with
    | @move _ j u u' _ hover _ hu hmove =>
      have hstopping : c'.stage = .stopping :=
        (stage_of_isOver_eq_false hover).resolve_left hstage'
      -- The task that moves is another one: this one has come to rest.
      have hij : j ≠ i := by
        rintro rfl
        obtain rfl := Option.some.inj (hu.symm.trans ih)
        have hrest := hlimited.quiet hstopping u (List.mem_of_getElem? hu) hcalls
        cases hmove.atRest_eq_false.symm.trans hrest
      exact (List.getElem?_set_ne hij).trans ih
    | stop hrunning => exact absurd hrunning hstage'
    | raise => exact ih
    | finish => exact ih
    | cutShort => exact ih

/-! ## Calls without an answer -/

/-- The number of calls of the probe for a link that have no answer, where the calls of a task that
was stopped are never given up. -/
def outstanding (b : Batch) (es : List BatchEvent) (url : String) : Nat :=
  (b.tasks.zipIdx.map fun p =>
    if p.1.check.url = url then p.1.calls - answersFor p.2 es else 0).sum

/-- A sum over one key of a list without repeated keys has one summand at most. -/
theorem sum_le_one {α : Type} {key : α → String} {f : α → Nat} {l : List α}
    (hkeys : (l.map key).Nodup) (hf : ∀ x ∈ l, f x ≤ 1) (k : String) :
    (l.map fun x => if key x = k then f x else 0).sum ≤ 1 := by
  induction l with
  | nil => exact Nat.zero_le 1
  | cons x l ih =>
    rw [List.map_cons, List.nodup_cons] at hkeys
    rw [List.forall_mem_cons] at hf
    rw [List.map_cons, List.sum_cons]
    by_cases hx : key x = k
    · -- The key is that of no other item.
      have hzero : (l.map fun y => if key y = k then f y else 0).sum = 0 := by
        refine List.sum_eq_zero_iff_forall_eq_nat.2
          (List.forall_mem_map.2 fun y hy => if_neg fun hky => hkeys.1 ?_)
        rw [hx, ← hky]
        exact List.mem_map_of_mem hy
      rw [if_pos hx, hzero]
      exact hf.1
    · rw [if_neg hx, Nat.zero_add]
      exact ih hkeys.2 hf.2

/-- No link has two calls without an answer. -/
theorem Run.outstanding_le_one (h : Run s may b es c) (hb : b.Fresh s urls) (url : String) :
    c.outstanding es url ≤ 1 := by
  have hurls : (c.tasks.zipIdx.map fun p => p.1.check.url) = urls.eraseDups := by
    rw [← (h.inv hb.inv).urls_eq, ← List.zipIdx_map_fst 0 c.tasks, List.map_map,
      List.zipIdx_map_fst]
    rfl
  have hone : ∀ p ∈ c.tasks.zipIdx, p.1.calls - answersFor p.2 es ≤ 1 := by
    intro p hp
    have hbounds := (h.counted hb p.2 p.1 (List.mem_zipIdx_iff_getElem?.1 hp)).bounds
    omega
  exact sum_le_one (hurls ▸ nodup_eraseDups urls) hone url

end Batch

/-! ## Trials -/

namespace Trial

/-- The batch at the start of a trial has not begun, and it does not run where the signal to stop is
there already. -/
theorem fresh_start (u : TrialSetup) (urls : List String) (hc : 0 ≤ u.settings.concurrency) :
    (start u urls).batch.Fresh u.settings urls ∧
      (u.signal = .already → (start u urls).batch.stage ≠ .running) := by
  have hinv := Batch.inv_ofUrls u.settings urls
  have hqueued : ∀ t ∈ (Batch.ofUrls u.settings urls).tasks, t.stage = .queued ∧ t.calls = 0 :=
    List.forall_mem_map.2 fun url _ => ⟨rfl, rfl⟩
  unfold start
  dsimp only
  split_ifs with hempty hsignal hslots
  · have hnil := List.isEmpty_iff.1 hempty
    refine ⟨⟨⟨hinv.urls_eq, hinv.sound, nofun, fun _ t ht => ?_, nofun⟩, hqueued, nofun⟩,
      fun _ => nofun⟩
    exact absurd (hnil ▸ ht) List.not_mem_nil
  · exact ⟨⟨⟨hinv.urls_eq, hinv.sound, nofun, nofun, nofun⟩, hqueued, nofun⟩, fun _ => nofun⟩
  · omega
  · exact ⟨⟨⟨hinv.urls_eq, hinv.sound, fun _ => hinv.not_stopped rfl, nofun, nofun⟩, hqueued,
      nofun⟩, fun h => absurd h hsignal⟩

/-- Every state of a trial on the clock is that of a run of its batch. -/
theorem exists_run (u : TrialSetup) (urls : List String) (n : Nat) :
    ∃ es, Batch.Run u.settings (fun _ _ => True) (start u urls).batch es
      (run u n (start u urls)).batch :=
  Batch.exists_run_of_reaches (reaches_run u n (start u urls))

/-- Whatever happens in a batch of links and in whatever order, no more tasks are between their
first call of the probe and their end than are allowed at the same time, and no link has two calls
without an answer. Once the batch was told to stop, or where the signal was there before the start,
nothing happens any more to a task that has made no call. The states of the trial on the clock are
among those that a batch comes to. -/
theorem run_within_limits {u : TrialSetup} {urls : List String} {may : Batch → BatchEvent → Prop}
    {es : List BatchEvent} {b : Batch} (hc : 0 ≤ u.settings.concurrency)
    (h : Batch.Run u.settings may (start u urls).batch es b) :
    (b.tasks.countP LinkTask.isUnderWay : Int) ≤ u.settings.concurrency ∧
    (∀ url, b.outstanding es url ≤ 1) ∧
    (u.signal = .already ∨ .stop ∈ es → ∀ es' c, Batch.Run u.settings may b es' c →
      ∀ (i : Nat) (t : LinkTask), b.tasks[i]? = some t → t.calls = 0 → c.tasks[i]? = some t) ∧
    ∀ n, ∃ es', Batch.Run u.settings (fun _ _ => True) (start u urls).batch es'
      (run u n (start u urls)).batch := by
  obtain ⟨hfresh, hsignal⟩ := fresh_start u urls hc
  refine ⟨?_, h.outstanding_le_one hfresh, fun hstop es' c h' i t ht hcalls => ?_,
    exists_run u urls⟩
  · have hle : b.tasks.countP LinkTask.isUnderWay ≤ b.tasks.countP LinkTask.occupies := by
      refine List.countP_mono_left fun t ht hway => ?_
      obtain ⟨n, hn⟩ := h.exists_counted hfresh t ht
      exact hn.occupies_of_isUnderWay hway
    have hslots := (h.limited hfresh hc).slots
    omega
  · refine h.getElem?_of_calls_eq_zero h' hfresh hc (h.stage_ne_running ?_) ht hcalls
    exact hstop.imp_left hsignal

/-- One slot for two links: where the batch is told to stop after the first call, the second link is
never asked for. -/
theorem run_within_limits_stopped :
    let u : TrialSetup := ⟨{ LinkSettings.standard with retries := 0, concurrency := 1 },
      fun _ _ _ => .never, none, .unset⟩
    let first : LinkTask := ⟨.fresh "http://a" 1, .stopped, 1⟩
    let second : LinkTask := ⟨.fresh "http://b" 1, .stopped, 0⟩
    let b : Batch := ⟨[first, second], .stopping⟩
    Batch.Run u.settings (fun _ _ => True) (start u ["http://a", "http://b"]).batch
      [.start 0, .stop] b ∧
    (b.tasks.countP LinkTask.isUnderWay : Int) ≤ 1 ∧
    b.outstanding [.start 0, .stop] "http://a" ≤ 1 ∧
    ∀ es c, Batch.Run u.settings (fun _ _ => True) b es c → c.tasks[1]? = some second := by
  intro u first second b
  let begun : Batch :=
    ⟨[⟨.fresh "http://a" 1, .asking .head, 1⟩, ⟨.fresh "http://b" 1, .queued, 0⟩], .running⟩
  have hbegun : Batch.Run u.settings (fun _ _ => True) (start u ["http://a", "http://b"]).batch
      [.start 0] begun := Batch.Run.snoc .nil trivial (by decide +kernel)
  have hrun : Batch.Run u.settings (fun _ _ => True) (start u ["http://a", "http://b"]).batch
      [.start 0, .stop] b := hbegun.snoc trivial (by decide +kernel)
  obtain ⟨hslots, hcalls, hquiet, -⟩ := run_within_limits (u := u) (by decide) hrun
  exact ⟨hrun, hslots, hcalls "http://a",
    fun es c h => hquiet (.inr (by decide)) es c h 1 second rfl rfl⟩

end Trial

end CheckDoc
