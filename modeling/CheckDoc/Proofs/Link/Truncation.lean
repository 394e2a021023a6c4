import CheckDoc.Proofs.Link.Limits
import CheckDoc.Proofs.Outcome
import Mathlib.Data.List.Forall2

/-!
# Truncated reports

A report is truncated where its batch was told to stop, and then every link with a record that is
not finished stands in a truncated report. The converse fails: a stop does not take back an answer
that has come in time, and the task of the answer goes on to the end of its link. So a report is
truncated without an unfinished link exactly where each link was finished or had such an answer when
the batch was told to stop, and no probe broke down after that (`Batch.Run.truncated_report`).
-/

namespace CheckDoc

variable {s : LinkSettings}

/-! ## Tasks after a stop -/

namespace LinkTask

variable {t t' t'' : LinkTask} {e : BatchEvent}

/-- The link of a task is finished, or an answer for it has come in time. -/
def HasOutcome (t : LinkTask) : Prop :=
  t.stage = .ended ∨ ∃ m a, t.stage = .answered m a ∧ a ≠ .late

/-- The tasks that are not stopped where the batch is told to stop. -/
theorem stop_stage_ne_iff (h : t.stage ≠ .stopped) :
    t.stop.stage ≠ .stopped ↔ t.HasOutcome ∨ ∃ x, t.stage = .broken x := by
  unfold stop HasOutcome
  cases hstage : t.stage with
  | answered m a => cases a <;> simp [hstage]
  | stopped => exact absurd hstage h
  | _ => simp [hstage]

/-- A task after some events without a stop: it is the same, or it was on its way and was not
stopped. -/
def Continues (t t' : LinkTask) : Prop := t' = t ∨ t.atRest = false ∧ t'.stage ≠ .stopped

/-- A move continues a task. -/
theorem Continues.moves (h : t.Continues t') (hsound : t'.Sound s) (hm : t'.Moves s e t'') :
    t.Continues t'' := by
  have hne := hsound.moves_stage_ne hm
  obtain rfl | ⟨hrest, -⟩ := h
  · exact .inr ⟨hm.atRest_eq_false, hne⟩
  · exact .inr ⟨hrest, hne⟩

/-- Without a stop a task is stopped exactly where it was before. -/
theorem Continues.stopped_iff (h : t.Continues t') : t'.stage = .stopped ↔ t.stage = .stopped := by
  obtain rfl | ⟨hrest, hne⟩ := h
  · rfl
  · refine iff_of_false hne fun hstopped => ?_
    simp [atRest, hstopped] at hrest

/-- A task that broke down stays so. -/
theorem Continues.broken (h : t.Continues t') {x : Escape} (hstage : t.stage = .broken x) :
    t'.stage = .broken x := by
  obtain rfl | ⟨hrest, -⟩ := h
  · exact hstage
  · simp [atRest, hstage] at hrest

/-- What a task comes to that the batch is told to stop with: it is stopped, unless its link has an
outcome or its probe broke down. -/
theorem Continues.stopped_iff_of_stop (h : t.stop.Continues t') (ht : t.stage ≠ .stopped)
    (hbroken : ∀ x, t'.stage ≠ .broken x) : t'.stage ≠ .stopped ↔ t.HasOutcome := by
  rw [ne_eq, h.stopped_iff, ← ne_eq, stop_stage_ne_iff ht, or_iff_left]
  rintro ⟨x, hx⟩
  have hstop : t.stop.stage = .broken x := by simp [stop, hx]
  exact hbroken x (h.broken hstop)

/-- No task is stopped exactly where each link had an outcome when the batch was told to stop. -/
theorem forall_stage_ne_iff {ts ts' : List LinkTask}
    (h : List.Forall₂ (fun t t' => t.stop.Continues t') ts ts')
    (hts : ∀ t ∈ ts, t.stage ≠ .stopped) (hts' : ∀ t' ∈ ts', ∀ x, t'.stage ≠ .broken x) :
    (∀ t' ∈ ts', t'.stage ≠ .stopped) ↔ ∀ t ∈ ts, t.HasOutcome := by
  induction h with
  | nil => simp
  | cons hhead _ ih =>
    simp only [List.forall_mem_cons] at hts hts' ⊢
    exact and_congr (hhead.stopped_iff_of_stop hts.1 hts'.1) (ih hts.2 hts'.2)

/-- A task at rest has ended, was stopped or broke down. -/
theorem stage_of_atRest (h : t.atRest = true) :
    t.stage = .ended ∨ t.stage = .stopped ∨ ∃ x, t.stage = .broken x := by
  unfold atRest at h
  cases hstage : t.stage <;> simp [hstage] at h ⊢

end LinkTask

/-! ## Batches after a stop -/

namespace Batch

variable {b c : Batch} {es es' : List BatchEvent} {urls : List String}
  {may : Batch → BatchEvent → Prop} {r : LinkReport}

/-- A run with a stop is a run up to the stop and another one from there. -/
theorem Run.exists_stop (h : Run s may b es c) (hmem : .stop ∈ es) :
    ∃ es₁ es₂ d, es = es₁ ++ .stop :: es₂ ∧ Run s may b es₁ d ∧ d.stage = .running ∧
      Run s may ⟨d.tasks.map LinkTask.stop, .stopping⟩ es₂ c := by
  induction h with
  | nil => cases hmem
  | @snoc es c e c' hrun hmay hstep ih =>
    by_cases hearlier : .stop ∈ es
    · obtain ⟨es₁, es₂, d, rfl, hrun₁, hstage, hrun₂⟩ := ih hearlier
      exact ⟨es₁, es₂ ++ [e], d, by simp, hrun₁, hstage, hrun₂.snoc hmay hstep⟩
    · obtain rfl : BatchEvent.stop = e := by simpa [hearlier] using hmem
      cases step?_eq_some_iff.1 hstep with
      | move htask => cases htask
      | stop hstage => exact ⟨es, [], c, rfl, hrun, hstage, .nil⟩

/-- The tasks of a batch that does not run any more continue. -/
theorem Run.continues (h : Run s may b es c) (hinv : b.Inv s urls) (hstage : b.stage ≠ .running) :
    ∀ (i : Nat) (t' : LinkTask), c.tasks[i]? = some t' →
      ∃ t, b.tasks[i]? = some t ∧ t.Continues t' := by
  induction h with
  | nil => exact fun i t ht => ⟨t, ht, .inl rfl⟩
  | @snoc es c e d hrun _ hstep ih =>
    intro i u hu
    cases step?_eq_some_iff.1 hstep with
    | @move _ j t t' _ _ _ ht hmove =>
      by_cases hij : j = i
      · subst hij
        have hlt : j < c.tasks.length := (List.getElem?_eq_some_iff.1 ht).1
        obtain rfl := Option.some.inj ((List.getElem?_set_self hlt).symm.trans hu)
        obtain ⟨t₀, ht₀, hcontinues⟩ := ih j t ht
        have hsound := (hrun.inv hinv).sound t (List.mem_of_getElem? ht)
        exact ⟨t₀, ht₀, hcontinues.moves hsound hmove⟩
      · rw [List.getElem?_set_ne hij] at hu
        exact ih i u hu
    | stop hrunning => exact absurd hrunning (hrun.stage_ne_running (.inl hstage))
    | raise => exact ih i u hu
    | finish => exact ih i u hu
    | cutShort => exact ih i u hu

/-- The tasks of a batch that was told to stop, and what they come to. -/
theorem Run.forall₂_of_stop (h : Run s may (ofUrls s urls) es c) (hstage : c.stage = .running)
    (h' : Run s may ⟨c.tasks.map LinkTask.stop, .stopping⟩ es' b) :
    List.Forall₂ (fun t t' => t.stop.Continues t') c.tasks b.tasks := by
  have hinv := h.inv (inv_ofUrls s urls)
  have hstopping : Batch.Inv s urls ⟨c.tasks.map LinkTask.stop, .stopping⟩ :=
    hinv.step (.stop hstage)
  have hlength : c.tasks.length = b.tasks.length := by
    rw [← List.length_map, hinv.urls_eq, ← (h'.inv hstopping).urls_eq, List.length_map]
  refine List.forall₂_iff_get.2 ⟨hlength, fun i hc hb => ?_⟩
  obtain ⟨t, ht, hcontinues⟩ := h'.continues hstopping nofun i _ (List.getElem?_eq_getElem hb)
  rw [List.getElem?_map, List.getElem?_eq_getElem hc] at ht
  obtain rfl := Option.some.inj ht
  exact hcontinues

/-- The tasks of a batch that has reported are at rest. -/
theorem Run.atRest_of_reported {truncated : Bool} (h : Run s may (ofUrls s urls) es b)
    (hstage : b.stage = .reported truncated) : ∀ t ∈ b.tasks, t.atRest = true := by
  cases h with
  | nil => cases hstage
  | snoc _ _ hstep =>
    cases step?_eq_some_iff.1 hstep with
    | move _ hover =>
      dsimp only at hstage
      simp [isOver, hstage] at hover
    | stop => cases hstage
    | raise => cases hstage
    | finish _ _ hrest => exact hrest
    | cutShort _ hrest => exact hrest

/-- No link is unfinished in a report exactly where no task was stopped or broke down. -/
theorem Run.unfinished_eq_nil_iff (h : Run s may (ofUrls s urls) es b) (hr : b.report? = some r) :
    r.unfinished = [] ↔ (∀ t ∈ b.tasks, t.stage ≠ .stopped) ∧
      ∀ t ∈ b.tasks, ∀ x, t.stage ≠ .broken x := by
  obtain ⟨hstage, hchecks⟩ := report?_eq_some_iff.1 hr
  have hended : r.unfinished = [] ↔ ∀ t ∈ b.tasks, t.stage = .ended := by
    have hsound := (h.inv (inv_ofUrls s urls)).sound
    rw [LinkReport.unfinished, hchecks, checks, List.filter_eq_nil_iff, List.forall_mem_map]
    refine forall₂_congr fun t ht => ?_
    rw [← (hsound t ht).done_iff]
    simp
  rw [hended, ← forall₂_and]
  refine forall₂_congr fun t ht => ?_
  obtain hstage | hstage | ⟨x, hstage⟩ :=
    LinkTask.stage_of_atRest (h.atRest_of_reported hstage t ht) <;> simp [hstage]

/-- A report with an unfinished link is truncated. A truncated report is on a batch that was told to
stop, and it has no unfinished link exactly where at that moment each link was finished or an answer
for it had come in time, and no probe broke down. -/
theorem Run.truncated_report (h : Run s may (ofUrls s urls) es b) (hr : b.report? = some r) :
    (r.unfinished ≠ [] → r.truncated = true) ∧
      (r.truncated = true → ∃ es₁ es₂ c, es = es₁ ++ .stop :: es₂ ∧
        Run s may (ofUrls s urls) es₁ c ∧ c.stage = .running ∧
        (r.unfinished = [] ↔ (∀ t ∈ c.tasks, t.HasOutcome) ∧
          ∀ t ∈ b.tasks, ∀ x, t.stage ≠ .broken x)) := by
  have hstage := (report?_eq_some_iff.1 hr).1
  refine ⟨fun hunfinished => ?_, fun htruncated => ?_⟩
  · by_contra hnot
    have hdone := (h.inv (inv_ofUrls s urls)).done_of_report? hr (Bool.eq_false_iff.2 hnot)
    exact hunfinished (List.filter_eq_nil_iff.2 fun k hk => by simp [hdone k hk])
  · have hmem : .stop ∈ es := h.stop_mem_iff.2 (.inr (htruncated ▸ hstage))
    obtain ⟨es₁, es₂, c, hes, hrun, hrunning, hlater⟩ := h.exists_stop hmem
    refine ⟨es₁, es₂, c, hes, hrun, hrunning, ?_⟩
    rw [h.unfinished_eq_nil_iff hr]
    have hnot := (hrun.inv (inv_ofUrls s urls)).not_stopped hrunning
    exact and_congr_left fun hunbroken =>
      LinkTask.forall_stage_ne_iff (hrun.forall₂_of_stop hrunning hlater) hnot hunbroken

/-- A link that was answered just before the batch was told to stop: it is resolved. -/
theorem Run.truncated_report_resolved :
    let s := { LinkSettings.standard with retries := 0 }
    let r : LinkReport := ⟨[⟨"http://a", 1, .resolved, 1, some 200, none⟩], true⟩
    ∃ es b, Run s (fun _ _ => True) (ofUrls s ["http://a"]) es b ∧ b.report? = some r ∧
      ∃ es₁ es₂ c, es = es₁ ++ .stop :: es₂ ∧
        Run s (fun _ _ => True) (ofUrls s ["http://a"]) es₁ c ∧ c.stage = .running ∧
        (r.unfinished = [] ↔ (∀ t ∈ c.tasks, t.HasOutcome) ∧
          ∀ t ∈ b.tasks, ∀ x, t.stage ≠ .broken x) := by
  intro s r
  let a (stage : Stage) : LinkTask := ⟨.fresh "http://a" 1, stage, 1⟩
  let a' : LinkTask := ⟨⟨"http://a", 1, .resolved, 1, some 200, none⟩, .ended, 1⟩
  have hanswered : Run s (fun _ _ => True) (ofUrls s ["http://a"])
      [.start 0, .answer 0 (.status 200)] ⟨[a (.answered .head (.status 200))], .running⟩ :=
    Run.snoc (Run.snoc .nil trivial (d := ⟨[a (.asking .head)], .running⟩) (by decide +kernel))
      trivial (by decide +kernel)
  have hreported : Run s (fun _ _ => True) (ofUrls s ["http://a"])
      [.start 0, .answer 0 (.status 200), .stop, .resume 0, .notice] ⟨[a'], .reported true⟩ :=
    Run.snoc (Run.snoc (Run.snoc hanswered trivial (e := .stop)
      (d := ⟨[a (.answered .head (.status 200))], .stopping⟩) (by decide +kernel)) trivial
      (e := .resume 0) (d := ⟨[a'], .stopping⟩) (by decide +kernel)) trivial
      (e := .notice) (by decide +kernel)
  exact ⟨_, _, hreported, rfl, (hreported.truncated_report (r := r) rfl).2 rfl⟩

end Batch

/-- Not every truncated report has an unfinished link. -/
theorem TrialSetup.not_truncated_iff_unfinished : ¬ ∀ (u : TrialSetup) (urls : List String)
    (o : TrialOutcome), urls ≠ [] → u.outcome urls = .ok o →
      (o.report.truncated = true ↔ o.report.unfinished ≠ []) := by
  intro hall
  let u : TrialSetup :=
    ⟨.standard, fun _ _ _ => .after (.zero false) (.status 200), some (.zero false), .absent⟩
  have hreport : (·.report) <$> u.outcome ["http://a"] =
      .ok ⟨[⟨"http://a", 3, .resolved, 1, some 200, none⟩], true⟩ := by decide +kernel
  obtain ⟨o, ho, hreport⟩ := map_eq_ok_iff.1 hreport
  have hiff := hall u ["http://a"] o (by simp) ho
  rw [hreport] at hiff
  exact hiff.1 rfl rfl

end CheckDoc
