import CheckDoc.Proofs.Link.Attempts
import CheckDoc.Proofs.Link.Report

/-!
# The log of a trial

The tasks of a trial take turns, and their answers depend on the time. Still each task stands on the
course of its link with the answers that it was given, as long as the batch is not told to stop
(`LinkTask.Follows.moves`), and what the log has of a link is what is seen of this course
(`Trial.Logged.move?`). So the account of a link that is tried alone is also that of each link in a
report that is not truncated, with its part of the log (`TrialSetup.account_of_outcome`).
-/

namespace CheckDoc

variable {s : LinkSettings}

/-! ## Courses with the answers so far -/

namespace LinkTask

variable {t t' : LinkTask} {e : BatchEvent} {ds : List Deed}

/-- The number of calls of the probe that have an answer. -/
def answeredCalls (t : LinkTask) : Nat :=
  match t.stage with
  | .asking _ => t.calls - 1
  | _ => t.calls

/-- A task stands on the course of its link, whatever the answers to further calls are, and this is
seen of the course. -/
structure Follows (s : LinkSettings) (t : LinkTask) (ds : List Deed) : Prop where
  /-- A task that waits for an answer has called the probe. -/
  calls_pos : ∀ m, t.stage = .asking m → 0 < t.calls
  /-- The answers so far determine the course. -/
  exists_course : ∃ (f : Nat → Method → Answer) (n : Nat), ∀ g : Nat → Method → Answer,
    (∀ k < t.answeredCalls, g k = f k) →
      alone s g n (fresh s t.check.url) = t ∧ trace s g n (fresh s t.check.url) = ds

/-- A task that asks has called the probe, unless there was no time, and has no new answer. -/
theorem calls_ask (s : LinkSettings) (m : Method) (t : LinkTask) :
    (t.ask s m).answeredCalls = t.calls ∧
      ∀ m', (t.ask s m).stage = .asking m' → 0 < (t.ask s m).calls := by
  unfold ask
  split
  · exact ⟨rfl, nofun⟩
  · exact ⟨rfl, fun _ _ => Nat.succ_pos _⟩

/-- A task that goes on with an answer may ask, and has no new answer. -/
theorem calls_resume (hdone : t.check.done = false) (m : Method) (a : Answer) :
    (t.resume s m a).answeredCalls = t.calls ∧
      ∀ m', (t.resume s m a).stage = .asking m' → 0 < (t.resume s m a).calls := by
  generalize ht' : t.resume s m a = t'
  have hresumes := resumes_resume (s := s) hdone m a
  rw [ht'] at hresumes
  cases hresumes with
  | fallback => exact calls_ask s .get t
  | finish => exact ⟨rfl, nofun⟩
  | rest => exact ⟨rfl, nofun⟩
  | overflow => exact ⟨rfl, nofun⟩
  | escape => exact ⟨rfl, nofun⟩

/-- A course goes on by one more step. -/
theorem course_succ {g : Nat → Method → Answer} {n : Nat} {url : String}
    (h : alone s g n (fresh s url) = t ∧ trace s g n (fresh s url) = ds)
    (hstep : t.step? s g = some t') :
    alone s g (n + 1) (fresh s url) = t' ∧ trace s g (n + 1) (fresh s url) = ds ++ deeds t t' := by
  rw [alone_add, trace_add, h.1, h.2, alone, trace, hstep]
  simp [alone, trace]

/-- A step that no answer comes with keeps a task on its course. -/
theorem Follows.step (h : t.Follows s ds) (hurl : t'.check.url = t.check.url)
    (hstep : ∀ g, t.step? s g = some t') (hstage : t.answeredCalls = t.calls)
    (hcalls : t'.answeredCalls = t.calls ∧ ∀ m, t'.stage = .asking m → 0 < t'.calls) :
    t'.Follows s (ds ++ deeds t t') := by
  obtain ⟨f, n, hcourse⟩ := h.exists_course
  refine ⟨hcalls.2, f, n + 1, fun g hg => ?_⟩
  rw [hcalls.1, ← hstage] at hg
  rw [hurl]
  exact course_succ (hcourse g hg) (hstep g)

/-- Moves keep a task on its course. -/
theorem Follows.moves (h : t.Follows s ds) (hsound : t.Sound s) (hm : t.Moves s e t') :
    t'.Follows s (ds ++ deeds t t') := by
  have hurl := hsound.moves_url hm
  cases hm with
  | start i hstage =>
    have hbegin : t.begin s = t.ask s .head :=
      if_neg (by simp [hsound.done_eq_false (by simp [hstage])])
    rw [hbegin] at hurl ⊢
    refine h.step hurl (fun g => ?_) (by simp [answeredCalls, hstage]) (calls_ask s .head t)
    simp only [step?, hstage, hbegin]
  | @answer i a m hstage =>
    -- The answer is the one to the latest call.
    obtain ⟨f, n, hcourse⟩ := h.exists_course
    have hpos := h.calls_pos m hstage
    refine ⟨by simp, Function.update f (t.calls - 1) fun _ => a, n + 1, fun g hg => ?_⟩
    have hbefore : ∀ k < t.answeredCalls, g k = f k := fun k hk => by
      have hlt : k < t.calls - 1 := by simpa [answeredCalls, hstage] using hk
      exact (hg k (show k < t.calls by omega)).trans (Function.update_of_ne (by omega) _ _)
    have hlast : g (t.calls - 1) = fun _ => a :=
      (hg _ (show t.calls - 1 < t.calls by omega)).trans (Function.update_self _ _ _)
    exact course_succ (hcourse g hbefore) (by simp only [step?, hstage, hlast])
  | @resume i m a hstage =>
    have hdone := hsound.done_eq_false (by simp [hstage])
    exact h.step hurl (fun g => by simp only [step?, hstage]) (by simp [answeredCalls, hstage])
      (calls_resume hdone m a)
  | wake i hstage =>
    exact h.step hurl (fun g => by simp only [step?, hstage]) (by simp [answeredCalls, hstage])
      (calls_ask s .head t)

/-- A task that has not begun stands at the start of its course. -/
theorem follows_fresh (s : LinkSettings) (url : String) : (fresh s url).Follows s [] where
  calls_pos := nofun
  exists_course := ⟨fun _ _ => .late, 0, fun _ _ => ⟨rfl, rfl⟩⟩

end LinkTask

/-! ## Logs -/

/-- The link that an entry is about. -/
def TrialEntry.url : TrialEntry → String
  | .request url _ _ => url
  | .rest url _ => url

/-- What a log, the latest entry first, has of a link. -/
def deedsOf (url : String) (log : List TrialEntry) : List Deed :=
  (log.reverse.filter (·.url = url)).map TrialEntry.deed

/-- A step of a task adds what is seen of it to the log of its link, and nothing to other logs. -/
theorem deedsOf_append (url : String) (now : Binary64) (before after : LinkTask)
    (log : List TrialEntry) : deedsOf url (entriesOf now before after ++ log) =
      deedsOf url log ++ if after.check.url = url then before.deeds after else [] := by
  unfold deedsOf LinkTask.deeds entriesOf
  split
  · split_ifs <;> simp_all [TrialEntry.url, TrialEntry.deed]
  · split_ifs <;> simp_all [TrialEntry.url, TrialEntry.deed]
  · simp

/-- Whether a batch was told to stop. -/
def Batch.WasStopped (b : Batch) : Prop := b.stage = .stopping ∨ b.stage = .reported true

namespace Trial

variable {u : TrialSetup} {r r' : Trial} {e : BatchEvent} {urls : List String}

/-- What an event does to a trial: a task moves, and the log has what is recorded of it; or the
tasks and the log stay as they are; or the batch is told to stop. -/
theorem event?_cases (h : r.event? u e = some r') :
    (∃ i t t', r.batch.tasks[i]? = some t ∧ t.Moves u.settings e t' ∧
      r'.batch = { r.batch with tasks := r.batch.tasks.set i t' } ∧
      r'.log = entriesOf r.now t t' ++ r.log) ∨
    (r'.batch.tasks = r.batch.tasks ∧ r'.log = r.log ∧
      (r.batch.WasStopped → r'.batch.WasStopped)) ∨
    r'.batch.WasStopped := by
  obtain ⟨batch, hstep, rfl⟩ := Option.map_eq_some_iff.1 h
  cases Batch.step?_eq_some_iff.1 hstep with
  | @move _ i t t' htask _ _ ht hmove =>
    have hi : i < r.batch.tasks.length := (List.getElem?_eq_some_iff.1 ht).1
    refine .inl ⟨i, t, t', ht, hmove, ?_⟩
    simp [htask, ht, List.getElem?_set_self hi]
  | stop => exact .inr (.inr (.inl rfl))
  | raise hstage =>
    refine .inr (.inl ⟨rfl, rfl, fun hstopped => ?_⟩)
    simp [Batch.WasStopped, hstage] at hstopped
  | finish hstage =>
    refine .inr (.inl ⟨rfl, rfl, fun hstopped => ?_⟩)
    simp [Batch.WasStopped, hstage] at hstopped
  | cutShort => exact .inr (.inr (.inr rfl))

/-- The log of a trial has what is seen of the course of each link. -/
structure Logged (s : LinkSettings) (urls : List String) (r : Trial) : Prop where
  /-- There is a task for each link. -/
  urls_eq : r.batch.tasks.map (·.check.url) = urls.eraseDups
  /-- The tasks are sound. -/
  sound : ∀ t ∈ r.batch.tasks, t.Sound s
  /-- Each task stands on its course. -/
  follows : ∀ t ∈ r.batch.tasks, t.Follows s (deedsOf t.check.url r.log)

/-- Different tasks are about different links. -/
theorem Logged.url_ne (h : r.Logged s urls) {i j : Nat} {t t' : LinkTask}
    (ht : r.batch.tasks[i]? = some t) (ht' : r.batch.tasks[j]? = some t') (hij : i ≠ j) :
    t.check.url ≠ t'.check.url := by
  intro hurl
  have hnodup : (r.batch.tasks.map (·.check.url)).Nodup := h.urls_eq ▸ nodup_eraseDups urls
  have hi : i < (r.batch.tasks.map (·.check.url)).length := by
    rw [List.length_map]
    exact (List.getElem?_eq_some_iff.1 ht).1
  refine hij ((List.getElem?_inj hi hnodup).1 ?_)
  rw [List.getElem?_map, List.getElem?_map, ht, ht', Option.map_some, Option.map_some, hurl]

/-- The log of a trial depends on its tasks and its entries. -/
theorem Logged.congr (h : r.Logged s urls) (htasks : r'.batch.tasks = r.batch.tasks)
    (hlog : r'.log = r.log) : r'.Logged s urls := by
  obtain ⟨hurls, hsound, hfollows⟩ := h
  rw [← htasks] at hurls hsound hfollows
  rw [← hlog] at hfollows
  exact ⟨hurls, hsound, hfollows⟩

/-- A move of a task keeps the log of a trial. -/
theorem Logged.moves (h : r.Logged u.settings urls) {i : Nat} {t t' : LinkTask}
    (ht : r.batch.tasks[i]? = some t) (hmove : t.Moves u.settings e t')
    (hbatch : r'.batch = { r.batch with tasks := r.batch.tasks.set i t' })
    (hlog : r'.log = entriesOf r.now t t' ++ r.log) : r'.Logged u.settings urls := by
  have hsound := h.sound t (List.mem_of_getElem? ht)
  have hurl := hsound.moves_url hmove
  have hi : i < r.batch.tasks.length := (List.getElem?_eq_some_iff.1 ht).1
  refine ⟨?_, ?_, ?_⟩ <;> rw [hbatch]
  · exact (Batch.map_url_set ht hurl).trans h.urls_eq
  · exact Batch.forall_mem_set h.sound i (hsound.moves hmove)
  · intro v hv
    obtain ⟨j, hj⟩ := List.mem_iff_getElem?.1 hv
    rw [hlog, deedsOf_append]
    by_cases hij : i = j
    · subst hij
      obtain rfl := Option.some.inj ((List.getElem?_set_self hi).symm.trans hj)
      rw [if_pos rfl, hurl]
      exact (h.follows t (List.mem_of_getElem? ht)).moves hsound hmove
    · -- The entry is about another link.
      rw [List.getElem?_set_ne hij] at hj
      rw [if_neg (hurl ▸ h.url_ne ht hj hij), List.append_nil]
      exact h.follows v (List.mem_of_getElem? hj)

/-- A move of a trial keeps its log, as long as the batch is not told to stop. -/
theorem Logged.move? (h : ¬ r.batch.WasStopped → r.Logged u.settings urls)
    (hmove : r.move? u = some r') (hnot : ¬ r'.batch.WasStopped) :
    r'.Logged u.settings urls := by
  obtain ⟨e, hevent⟩ | ⟨hbatch, hlog⟩ := move?_cases hmove
  · obtain ⟨i, t, t', ht, hmoves, hbatch, hlog⟩ | ⟨htasks, hlog, hback⟩ | hstopped :=
      event?_cases hevent
    · have hbefore : ¬ r.batch.WasStopped := by
        rw [hbatch] at hnot
        exact hnot
      exact (h hbefore).moves ht hmoves hbatch hlog
    · exact (h (mt hback hnot)).congr htasks hlog
    · exact absurd hstopped hnot
  · exact (h (hbatch ▸ hnot)).congr (congrArg Batch.tasks hbatch) hlog

/-- The log at the end of a trial that was not told to stop. -/
theorem Logged.run (n : Nat) (h : ¬ r.batch.WasStopped → r.Logged u.settings urls)
    (hnot : ¬ (run u n r).batch.WasStopped) : (run u n r).Logged u.settings urls := by
  induction n generalizing r with
  | zero => exact h hnot
  | succ n ih =>
    rw [run] at hnot ⊢
    cases hmove : r.move? u with
    | none =>
      rw [hmove] at hnot
      exact h hnot
    | some r' =>
      rw [hmove] at hnot
      exact ih (Logged.move? h hmove) hnot

/-- The log of a trial before its first event. -/
theorem logged_start (u : TrialSetup) (urls : List String) :
    (start u urls).Logged u.settings urls := by
  have hinv := Batch.inv_ofUrls u.settings urls
  refine ⟨hinv.urls_eq, hinv.sound, List.forall_mem_map.2 fun url _ => ?_⟩
  exact LinkTask.follows_fresh u.settings url

end Trial

/-- In a report that is not truncated, the record of each link is that of attempts up to the first
that succeeds or as many as are allowed, and the log of the trial has the calls of the probe for
these attempts and the rests between them. -/
theorem TrialSetup.account_of_outcome {u : TrialSetup} {urls : List String} {o : TrialOutcome}
    (h : u.outcome urls = .ok o) (hretries : 0 ≤ u.settings.retries)
    (htruncated : o.report.truncated = false) : ∀ k ∈ o.report.checks,
      ∃ answers, LinkTask.Account u.settings
        (Attempt.row u.settings answers (u.settings.retries.toNat + 1) 0) k
        ((o.log.filter (·.url = k.url)).map TrialEntry.deed) := by
  obtain ⟨es, b, hrun, hreport⟩ := exists_run_of_outcome h
  have hdone := (hrun.inv (Batch.inv_ofUrls _ urls)).done_of_report? hreport htruncated
  unfold outcome at h
  dsimp only at h
  split at h
  · rename_i truncated hstage
    obtain rfl := Except.ok.inj h
    obtain rfl : truncated = false := htruncated
    have hnot : ¬ (Trial.ofUrls u urls).batch.WasStopped := by simp [Batch.WasStopped, hstage]
    have hlogged := Trial.Logged.run _ (fun _ => Trial.logged_start u urls) hnot
    rintro k hk
    obtain ⟨t, ht, rfl⟩ := List.mem_map.1 hk
    -- The task has come to the end of its course.
    obtain ⟨f, n, hcourse⟩ := (hlogged.follows t ht).exists_course
    obtain ⟨hend, hseen⟩ := hcourse f fun _ _ => rfl
    have hended : t.stage = .ended := (hlogged.sound t ht).done_iff.1 (hdone _ hk)
    have haccount := (LinkTask.ready_fresh u.settings t.check.url).account rfl
      (LinkTask.maxAttempts_fresh hretries t.check.url) (hend.symm ▸ hended)
    rw [hend, hseen] at haccount
    exact ⟨f, haccount⟩
  · cases h
  · cases h

end CheckDoc
