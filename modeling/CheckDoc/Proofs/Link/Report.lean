import CheckDoc.Proofs.Link.Runs
import CheckDoc.Proofs.Text.NameSet

/-!
# Reports of batches

What the report on a batch says of each link, whatever its tasks were answered and whenever it was
told to stop. A resolved link was answered with a success the last time that an answer came for it
(`Batch.Run.answered`); a batch that was not told to stop reports finished links only
(`Batch.Inv.done_of_report?`).

A trial on a clock makes events of its batch and nothing else, so that its report is one of a run
(`TrialSetup.exists_run_of_outcome`).
-/

namespace CheckDoc

variable {s : LinkSettings}

/-- The statuses that are a success. -/
theorem isSuccess_iff {n : Int} : isSuccess n = true ↔ 200 ≤ n ∧ n ≤ 399 := by
  simp only [isSuccess, Bool.and_eq_true, decide_eq_true_eq]
  omega

/-! ## Last answers -/

/-- The last answer that came for the task of an index. -/
def Batch.lastAnswer? (i : Nat) (es : List BatchEvent) : Option Answer :=
  es.reverse.findSome? fun
    | .answer j a => if j = i then some a else none
    | _ => none

/-- The last answer for a task after one more event. -/
def BatchEvent.answerOr (i : Nat) (last : Option Answer) : BatchEvent → Option Answer
  | .answer j a => if j = i then some a else last
  | _ => last

/-- An answer for a task is the last one, and other events change nothing. -/
theorem Batch.lastAnswer?_append (i : Nat) (es : List BatchEvent) (e : BatchEvent) :
    lastAnswer? i (es ++ [e]) = e.answerOr i (lastAnswer? i es) := by
  rw [lastAnswer?, List.reverse_append, List.reverse_singleton, List.singleton_append,
    List.findSome?_cons]
  cases e with
  | answer j a => by_cases hj : j = i <;> simp [BatchEvent.answerOr, lastAnswer?, hj]
  | _ => rfl

namespace LinkTask

variable {t t' : LinkTask} {e : BatchEvent} {last : Option Answer}

/-- What a task owes to the last answer that came for it. -/
structure Answered (t : LinkTask) (last : Option Answer) : Prop where
  /-- The answer that the task goes on with is the last one, unless there was no time for any. -/
  last_or_late : ∀ m a, t.stage = .answered m a → a = .late ∨ last = some a
  /-- A link is resolved by the last answer. -/
  resolved : t.check.state = .resolved →
    ∃ n, last = some (.status n) ∧ t.check.status = some n ∧ isSuccess n = true

namespace Answered

/-- Nothing is owed for a link that has not been tried. -/
theorem fresh (s : LinkSettings) (url : String) : (LinkTask.fresh s url).Answered none where
  last_or_late _ _ h := by cases h
  resolved h := by cases h

/-- Nothing is owed for a task that asks. -/
theorem ask (h : t.Answered last) (m : Method) : (t.ask s m).Answered last where
  last_or_late m' a hstage := by
    obtain hasking | hlate := ask_stage s m t
    · rw [hasking] at hstage
      cases hstage
    · rw [hlate] at hstage
      cases hstage
      exact .inl rfl
  resolved := by
    rw [ask_check]
    exact h.resolved

/-- Nothing more is owed for a task with the same record that does not go on with an answer. -/
theorem of_check_eq (h : t.Answered last) (hcheck : t'.check = t.check)
    (hstage : ∀ m a, t'.stage ≠ .answered m a) : t'.Answered last where
  last_or_late m a h' := absurd h' (hstage m a)
  resolved := by
    rw [hcheck]
    exact h.resolved

/-- A task that records an attempt owes its success to the last answer. -/
theorem record {m : Method} {a : Answer} {c : LinkCheck} (h : t.Answered last)
    (hstage : t.stage = .answered m a) (hdone : t.check.done = false)
    (hc : t.check.Records s a c) (hcheck : t'.check = c) (hne : ∀ m a, t'.stage ≠ .answered m a) :
    t'.Answered last where
  last_or_late m' a' h' := absurd h' (hne m' a')
  resolved hresolved := by
    subst hcheck
    obtain ⟨n, rfl, hstatus, hn⟩ := hc.status_of_resolved hdone hresolved
    obtain hlate | hlast := h.last_or_late m _ hstage
    · cases hlate
    · exact ⟨n, hlast, hstatus, hn⟩

/-- Moves keep what a task owes. -/
theorem moves {i : Nat} (h : t.Answered last) (hsound : t.Sound s) (htask : e.task? = some i)
    (hm : t.Moves s e t') : t'.Answered (e.answerOr i last) := by
  cases hm with
  | start j hstage =>
    rw [begin, if_neg (by simp [hsound.done_eq_false (by simp [hstage])])]
    exact h.ask .head
  | answer j a hstage =>
    obtain rfl := Option.some.inj htask
    have hdone := hsound.done_eq_false (by simp [hstage])
    refine ⟨fun m' a' hstage' => ?_, fun hresolved => ?_⟩
    · cases hstage'
      exact .inr (if_pos rfl)
    · simp [LinkCheck.done, show t.check.state = .resolved from hresolved, LinkState.done] at hdone
  | @resume j m a hstage =>
    have hdone := hsound.done_eq_false (by simp [hstage])
    generalize ht' : t.resume s m a = t'
    have hresumes := resumes_resume (s := s) hdone m a
    rw [ht'] at hresumes
    cases hresumes with
    | fallback => exact h.ask .get
    | finish hc => exact h.record hstage hdone hc rfl (by simp)
    | rest hc => exact h.record hstage hdone hc rfl (by simp)
    | overflow hc => exact h.record hstage hdone hc rfl (by simp)
    | escape => exact h.of_check_eq rfl (by simp)
  | wake j hstage => exact h.ask .head

/-- A task that is told to stop owes no more than before. -/
theorem stop (h : t.Answered last) : t.stop.Answered last where
  last_or_late m a hstage := by
    obtain ⟨hstop, -⟩ | hsame := stop_stage t
    · rw [hstop] at hstage
      cases hstage
    · exact h.last_or_late m a (hsame ▸ hstage)
  resolved := by
    rw [stop_check]
    exact h.resolved

end Answered

end LinkTask

/-! ## Runs and their reports -/

namespace Batch

variable {b c : Batch} {e : BatchEvent} {es : List BatchEvent} {urls : List String}
  {may : Batch → BatchEvent → Prop} {r : LinkReport}

/-- The tasks of a run owe what they have to the last answers. -/
theorem Run.answered (h : Run s may (ofUrls s urls) es b) :
    ∀ (i : Nat) (t : LinkTask), b.tasks[i]? = some t → t.Answered (lastAnswer? i es) := by
  refine h.forall_indexed (P := fun i es t => t.Answered (lastAnswer? i es)) ?_ ?_ ?_ ?_
  · intro i t ht
    obtain ⟨url, -, rfl⟩ := List.mem_map.1 (List.mem_of_getElem? ht)
    exact .fresh s url
  · intro es c e i t t' hrun htask ht hmove hanswered
    have hsound := (hrun.inv (inv_ofUrls s urls)).sound t (List.mem_of_getElem? ht)
    rw [lastAnswer?_append]
    exact hanswered.moves hsound htask hmove
  · intro es e i t htask hanswered
    have hother : e.answerOr i (lastAnswer? i es) = lastAnswer? i es := by
      cases e with
      | answer k a => exact if_neg fun hk => htask (congrArg some hk)
      | _ => rfl
    rwa [lastAnswer?_append, hother]
  · intro es i t hanswered
    rw [lastAnswer?_append]
    exact hanswered.stop

/-- A batch was told to stop where it stops or reports so. -/
theorem Run.stop_mem_iff (h : Run s may (ofUrls s urls) es b) :
    .stop ∈ es ↔ b.stage = .stopping ∨ b.stage = .reported true := by
  induction h with
  | nil => simp [ofUrls]
  | @snoc es c e d _ _ hstep ih =>
    rw [List.mem_append, List.mem_singleton, ih]
    cases step?_eq_some_iff.1 hstep with
    | move htask =>
      have hne : BatchEvent.stop ≠ e := by
        rintro rfl
        cases htask
      simp [hne]
    | stop => simp
    | raise hstage => simp [hstage]
    | finish hstage => simp [hstage]
    | cutShort hstage => simp [hstage]

/-- What is reported, and when. -/
theorem report?_eq_some_iff : b.report? = some r ↔ b.stage = .reported r.truncated ∧
    r.checks = b.checks := by
  obtain ⟨checks, truncated⟩ := r
  unfold report?
  cases b.stage with
  | reported x => simp [and_comm, eq_comm]
  | _ => simp

/-- A report has a record for each link, in the order of the links. -/
theorem Inv.urls_of_report? (h : b.Inv s urls) (hr : b.report? = some r) :
    r.checks.map (·.url) = urls.eraseDups := by
  rw [(report?_eq_some_iff.1 hr).2, checks, List.map_map, ← h.urls_eq]
  rfl

/-- The links in a report on a batch that was not told to stop are finished. -/
theorem Inv.done_of_report? (h : b.Inv s urls) (hr : b.report? = some r)
    (htruncated : r.truncated = false) : ∀ k ∈ r.checks, k.done = true := by
  obtain ⟨hstage, hchecks⟩ := report?_eq_some_iff.1 hr
  rw [hchecks, checks]
  rw [htruncated] at hstage
  exact List.forall_mem_map.2 fun t ht => (h.sound t ht).done_iff.2 (h.ended hstage t ht)

end Batch

/-- Each record of a report is resolved, failed or unfinished. -/
theorem LinkReport.count_add_count (r : LinkReport) :
    r.checks.countP (·.state = .resolved) + r.failed.length + r.unfinished.length =
      r.checks.length := by
  obtain ⟨checks, truncated⟩ := r
  simp only [failed, unfinished]
  induction checks with
  | nil => rfl
  | cons k ks ih =>
    have hdone : k.done = k.state.done := rfl
    cases hstate : k.state <;> rw [hstate] at hdone <;>
      simp [hstate, hdone, LinkState.done] at ih ⊢ <;> omega

/-! ## Trials -/

namespace Batch

variable {b c d : Batch} {e : BatchEvent}

/-- What is reached from a batch that was reached is reached. -/
theorem Reaches.trans (h : b.Reaches s c) (h' : c.Reaches s d) : b.Reaches s d := by
  induction h' with
  | refl => exact h
  | tail e _ hstep ih => exact ih.tail e hstep

/-- Nothing happens in a batch that is over. -/
theorem Step.isOver_eq_false (h : b.Step s e c) : b.isOver = false := by
  cases h with
  | move _ hover => exact hover
  | stop hstage => simp [isOver, hstage]
  | raise hstage => simp [isOver, hstage]
  | finish hstage => simp [isOver, hstage]
  | cutShort hstage => simp [isOver, hstage]

/-- From a batch that is over no other one is reached. -/
theorem Reaches.eq_of_isOver (h : b.Reaches s c) (hover : b.isOver = true) : c = b := by
  induction h with
  | refl => rfl
  | tail e _ hstep ih =>
    subst ih
    rw [(step?_eq_some_iff.1 hstep).isOver_eq_false] at hover
    cases hover

end Batch

namespace Trial

variable {u : TrialSetup} {r r' : Trial}

/-- An event of a trial is one of its batch. -/
theorem event?_batch {e : BatchEvent} (h : r.event? u e = some r') :
    r.batch.step? u.settings e = some r'.batch := by
  obtain ⟨batch, hstep, rfl⟩ := Option.map_eq_some_iff.1 h
  rw [hstep]
  dsimp only
  split
  · rfl
  · split <;> rfl

/-- A move of a trial is an event of its batch, or leaves the batch and the log as they are: a turn
is lost, the signal is looked for, or time goes by. -/
theorem move?_cases (h : r.move? u = some r') :
    (∃ e, r.event? u e = some r') ∨ r'.batch = r.batch ∧ r'.log = r.log := by
  unfold move? at h
  split at h
  · rename_i hfound
    obtain rfl := Option.some.inj h
    obtain ⟨e, -, hevent⟩ := List.exists_of_findSome?_eq_some hfound
    exact .inl ⟨e, hevent⟩
  · refine .inr ?_
    split at h
    · cases h
    split at h
    · obtain rfl := Option.some.inj h
      exact ⟨rfl, rfl⟩
    split at h
    · obtain rfl := Option.some.inj h
      exact ⟨rfl, rfl⟩
    obtain ⟨time, -, rfl⟩ := Option.map_eq_some_iff.1 h
    split <;> exact ⟨rfl, rfl⟩

/-- A move of a trial is an event of its batch, or leaves the batch as it is. -/
theorem reaches_of_move? (h : r.move? u = some r') : r.batch.Reaches u.settings r'.batch := by
  obtain ⟨e, hevent⟩ | ⟨hbatch, -⟩ := move?_cases h
  · exact (Batch.Reaches.refl _).tail e (event?_batch hevent)
  · rw [hbatch]
    exact .refl _

/-- The batch at the end of a trial is reached from the one at its start. -/
theorem reaches_run (u : TrialSetup) (n : Nat) (r : Trial) :
    r.batch.Reaches u.settings (run u n r).batch := by
  induction n generalizing r with
  | zero => exact .refl _
  | succ n ih =>
    rw [run]
    split
    · exact .refl _
    · rename_i r' hmove
      exact (reaches_of_move? hmove).trans (ih r')

end Trial

/-- The outcome of a trial is the report on a run of the batch of its links. -/
theorem TrialSetup.exists_run_of_outcome {u : TrialSetup} {urls : List String} {o : TrialOutcome}
    (h : u.outcome urls = .ok o) : ∃ es b,
      Batch.Run u.settings (fun _ _ => True) (.ofUrls u.settings urls) es b ∧
        b.report? = some o.report := by
  have hreaches := Trial.reaches_run u (Trial.moveBound u urls.length) (Trial.start u urls)
  have hreport : (Trial.ofUrls u urls).batch.report? = some o.report := by
    unfold outcome at h
    dsimp only at h
    split at h
    · rename_i truncated hstage
      obtain rfl := Except.ok.inj h
      exact Batch.report?_eq_some_iff.2 ⟨hstage, rfl⟩
    · cases h
    · cases h
  -- A batch that is over at the start stays so, and its report is that of a short run.
  by_cases hempty : (Batch.ofUrls u.settings urls).tasks.isEmpty = true
  · have hstart : (Trial.start u urls).batch =
        { Batch.ofUrls u.settings urls with stage := .reported false } := by
      simp [Trial.start, hempty]
    rw [hstart] at hreaches
    rw [Trial.ofUrls, hreaches.eq_of_isOver rfl] at hreport
    have hnil := List.isEmpty_iff.1 hempty
    have hstep : (Batch.ofUrls u.settings urls).Step u.settings .notice _ :=
      .finish rfl (by simp [Batch.firstBreak?, hnil]) (by simp [hnil])
    exact ⟨_, _, Batch.Run.nil.snoc trivial (Batch.step?_eq_some_iff.2 hstep), hreport⟩
  by_cases hsignal : u.signal = .already
  · have hstart : (Trial.start u urls).batch =
        { Batch.ofUrls u.settings urls with stage := .reported true } := by
      simp [Trial.start, hempty, hsignal]
    rw [hstart] at hreaches
    rw [Trial.ofUrls, hreaches.eq_of_isOver rfl, Batch.report?_eq_some_iff] at hreport
    have hstop : (Batch.ofUrls u.settings urls).Step u.settings .stop _ := .stop rfl
    have hrest : ∀ t ∈ (Batch.ofUrls u.settings urls).tasks.map LinkTask.stop,
        t.atRest = true := List.forall_mem_map.2 <| List.forall_mem_map.2 fun url _ => rfl
    have hchecks : Batch.checks ⟨(Batch.ofUrls u.settings urls).tasks.map LinkTask.stop,
        .reported true⟩ = (Batch.ofUrls u.settings urls).checks := by
      simp [Batch.checks, Function.comp_def]
    exact ⟨_, _, (Batch.Run.nil.snoc trivial (Batch.step?_eq_some_iff.2 hstop)).snoc trivial
      (Batch.step?_eq_some_iff.2 (.cutShort rfl hrest)),
      Batch.report?_eq_some_iff.2 ⟨hreport.1, hreport.2.trans hchecks.symm⟩⟩
  by_cases hslots : u.settings.concurrency < 0
  · have hstart : (Trial.start u urls).batch =
        { Batch.ofUrls u.settings urls with stage := .raised .slots } := by
      simp [Trial.start, hempty, hsignal, hslots]
    rw [hstart] at hreaches
    rw [Trial.ofUrls, hreaches.eq_of_isOver rfl] at hreport
    cases hreport
  · have hstart : (Trial.start u urls).batch = Batch.ofUrls u.settings urls := by
      simp only [Trial.start, if_neg hempty, if_neg hsignal, if_neg hslots]
      rfl
    rw [hstart] at hreaches
    obtain ⟨es, hrun⟩ := Batch.exists_run_of_reaches hreaches
    exact ⟨es, _, hrun, hreport⟩

end CheckDoc
