import CheckDoc.Proofs.Link.Runs
import Mathlib.Algebra.GroupWithZero.Nat

/-!
# The course of a link

Where the answers to the requests for a link depend on nothing but the link, the method and the
number of earlier requests, the report on a batch that nothing stops does not depend on the order in
which the tasks take turns, on the number of slots, or on the other links: the record of each link
is where its course ends when it is tried alone (`Batch.report_eq_courses`).

Every move of a task is the next step of its course (`LinkTask.Moves.step?_eq`), whatever the other
tasks do in between. A course has a bounded number of steps, since each takes from what is left to
do (`LinkTask.Sound.work_lt`); so has a batch, and as long as no task breaks down some event is
possible until there is a report.
-/

namespace CheckDoc

variable {s : LinkSettings}

/-! ## Courses -/

namespace LinkTask

variable {t t' : LinkTask} {e : BatchEvent} {answers : Nat → Method → Answer}

/-- A move that takes the given answer is the next step of a course. -/
theorem Moves.step?_eq (h : t.Moves s e t')
    (hanswer : ∀ i a m, e = .answer i a → t.stage = .asking m → a = answers (t.calls - 1) m) :
    t.step? s answers = some t' := by
  cases h with
  | start i hstage => simp only [step?, hstage]
  | answer i a hstage => simp only [step?, hstage, hanswer i a _ rfl hstage]
  | resume i hstage => simp only [step?, hstage]
  | wake i hstage => simp only [step?, hstage]

/-- The next step of a course is a move. -/
theorem exists_moves (h : t.step? s answers = some t') : ∃ e, t.Moves s e t' := by
  unfold step? at h
  split at h
  · rename_i hstage
    obtain rfl := Option.some.inj h
    exact ⟨_, .start 0 hstage⟩
  · rename_i hstage
    obtain rfl := Option.some.inj h
    exact ⟨_, .answer 0 _ hstage⟩
  · rename_i hstage
    obtain rfl := Option.some.inj h
    exact ⟨_, .resume 0 hstage⟩
  · rename_i hstage
    obtain rfl := Option.some.inj h
    exact ⟨_, .wake 0 hstage⟩
  all_goals cases h

/-- A course ends where its task is at rest. -/
theorem step?_eq_none_iff : t.step? s answers = none ↔ t.atRest = true := by
  unfold step? atRest
  cases t.stage <;> simp

/-- A task at rest stays where it is. -/
theorem alone_of_atRest (h : t.atRest = true) (n : Nat) : alone s answers n t = t := by
  cases n with
  | zero => rfl
  | succ n => rw [alone, step?_eq_none_iff.2 h]

/-- A course goes on from where it has come. -/
theorem alone_add (m n : Nat) (t : LinkTask) :
    alone s answers (m + n) t = alone s answers n (alone s answers m t) := by
  induction m generalizing t with
  | zero => rw [Nat.zero_add, alone]
  | succ m ih =>
    rw [Nat.succ_add, alone, alone]
    cases hstep : t.step? s answers with
    | none => exact (alone_of_atRest (step?_eq_none_iff.1 hstep) n).symm
    | some t' => exact ih t'

/-- A course has one end. -/
theorem alone_eq_of_atRest {m n : Nat} (hm : (alone s answers m t).atRest = true)
    (hn : (alone s answers n t).atRest = true) : alone s answers m t = alone s answers n t := by
  obtain hle | hle := Nat.le_total m n
  · rw [← Nat.add_sub_cancel' hle, alone_add, alone_of_atRest hm]
  · rw [← Nat.add_sub_cancel' hle, alone_add, alone_of_atRest hn]

/-- What a task asks for does not depend on the number of slots. -/
theorem ask_concurrency (s : LinkSettings) (limit : Int) (m : Method) (t : LinkTask) :
    t.ask { s with concurrency := limit } m = t.ask s m := by
  unfold ask
  rfl

/-- The rests of a task do not depend on the number of slots. -/
theorem wait?_concurrency (s : LinkSettings) (limit : Int) (attempts : Nat) :
    LinkSettings.wait? { s with concurrency := limit } attempts = s.wait? attempts := by
  unfold LinkSettings.wait?
  rfl

/-- How a task goes on with an answer does not depend on the number of slots. -/
theorem resume_concurrency (s : LinkSettings) (limit : Int) (m : Method) (a : Answer)
    (t : LinkTask) : t.resume { s with concurrency := limit } m a = t.resume s m a := by
  have hconclude : ∀ c, t.conclude { s with concurrency := limit } c = t.conclude s c :=
    fun c => by simp only [conclude, wait?_concurrency]
  have htimeout : timeoutReason { s with concurrency := limit } = timeoutReason s := by
    unfold timeoutReason
    rfl
  have hreason : ∀ f : ProbeFault, f.reason { s with concurrency := limit } = f.reason s :=
    fun f => by
      unfold ProbeFault.reason timeoutReason
      rfl
  cases a with
  | status n => simp only [resume, ask_concurrency, hconclude]
  | fault f => simp only [resume, hconclude, hreason]
  | late => simp only [resume, hconclude, htimeout]
  | escape message => rfl

/-- The next step of a course does not depend on the number of slots. -/
theorem step?_concurrency (s : LinkSettings) (limit : Int) (t : LinkTask) :
    t.step? { s with concurrency := limit } answers = t.step? s answers := by
  simp only [step?, begin, ask_concurrency, resume_concurrency]

/-- A course does not depend on the number of slots. -/
theorem alone_concurrency (s : LinkSettings) (limit : Int) (n : Nat) (t : LinkTask) :
    alone { s with concurrency := limit } answers n t = alone s answers n t := by
  induction n generalizing t with
  | zero => rfl
  | succ n ih =>
    rw [alone, alone, step?_concurrency]
    cases t.step? s answers with
    | none => rfl
    | some t' => exact ih t'

/-! ## What is left to do -/

/-- The number of steps of an attempt that are left at a stage. -/
def stepsLeft : Stage → Nat
  | .queued | .resting _ => 5
  | .asking .head => 4
  | .answered .head _ => 3
  | .asking .get => 2
  | .answered .get _ => 1
  | .ended | .stopped | .broken _ => 0

/-- The number of steps that a task may take until it is at rest. -/
def work (s : LinkSettings) (t : LinkTask) : Nat :=
  if t.atRest then 0 else 5 * (s.retries - t.check.attempts).toNat + stepsLeft t.stage

/-- A task with nothing left to do is at rest. -/
theorem atRest_of_work_eq_zero (h : t.work s = 0) : t.atRest = true := by
  by_contra hrest
  rw [work, if_neg hrest] at h
  have hzero : stepsLeft t.stage = 0 := by omega
  unfold stepsLeft at hzero
  unfold atRest at hrest
  split at hzero <;> simp_all

/-- A task at rest has nothing left to do. -/
theorem work_of_atRest (h : t.atRest = true) : t.work s = 0 := if_pos h

/-- What a link that has not been tried leaves to do. -/
theorem work_fresh (s : LinkSettings) (url : String) :
    (fresh s url).work s + 1 = stepBound s := by
  show 5 * (s.retries - (0 : Nat)).toNat + 5 + 1 = 5 * (s.retries.toNat + 1) + 1
  omega

/-- A task that asks has at most as much left to do as at the request. -/
theorem work_ask_le (s : LinkSettings) (m : Method) (t : LinkTask) :
    (t.ask s m).work s ≤
      5 * (s.retries - t.check.attempts).toNat + stepsLeft (.asking m) := by
  have hle : stepsLeft (.answered m .late) ≤ stepsLeft (.asking m) := by
    cases m <;> decide
  unfold work
  rw [ask_check]
  obtain hstage | hstage := ask_stage s m t
  · rw [hstage]
    split <;> omega
  · rw [hstage]
    split <;> omega

/-- What is left to do at a stage that is not at rest. -/
theorem work_of_stage (h : t.atRest = false) :
    t.work s = 5 * (s.retries - t.check.attempts).toNat + stepsLeft t.stage := by
  rw [work, if_neg (by simp [h])]

/-- Every move takes from what is left to do. -/
theorem Sound.work_lt (h : t.Sound s) (hm : t.Moves s e t') : t'.work s < t.work s := by
  rw [work_of_stage hm.atRest_eq_false]
  cases hm with
  | start i hstage =>
    rw [begin, if_neg (by simp [h.done_eq_false (by simp [hstage])]), hstage]
    exact Nat.lt_of_le_of_lt (work_ask_le s .head t) (by simp [stepsLeft])
  | @answer i a m hstage =>
    rw [work_of_stage rfl, hstage]
    cases m <;> simp [stepsLeft]
  | @resume i m a hstage =>
    have hleft : 0 < stepsLeft t.stage := by
      rw [hstage]
      cases m <;> simp [stepsLeft]
    have hdone := h.done_eq_false (by simp [hstage])
    generalize ht' : t.resume s m a = t'
    have hresumes := resumes_resume (s := s) hdone m a
    rw [ht'] at hresumes
    cases hresumes with
    | fallback hm =>
      subst hm
      rw [hstage]
      exact Nat.lt_of_le_of_lt (work_ask_le s .get t) (by simp [stepsLeft])
    | finish => rw [work_of_atRest rfl]; omega
    | @rest _ c _ hc hnot =>
      -- The attempt that was made is taken from those that are left.
      obtain ⟨-, -, hattempts⟩ := hc.attempts_eq hdone
      have hmore := hc.attempts_lt hdone hnot
      have hbudget := h.budget
      rw [work_of_stage rfl]
      show 5 * (s.retries - (c.attempts : Int)).toNat + 5 < _
      omega
    | overflow => rw [work_of_atRest rfl]; omega
    | escape => rw [work_of_atRest rfl]; omega
  | wake i hstage =>
    rw [hstage]
    exact Nat.lt_of_le_of_lt (work_ask_le s .head t) (by simp [stepsLeft])

/-- A course ends within what its task may take. -/
theorem Sound.atRest_alone (h : t.Sound s) {n : Nat} (hn : t.work s ≤ n) :
    (alone s answers n t).atRest = true := by
  induction n generalizing t with
  | zero => exact atRest_of_work_eq_zero (Nat.le_zero.1 hn)
  | succ n ih =>
    rw [alone]
    cases hstep : t.step? s answers with
    | none => exact step?_eq_none_iff.1 hstep
    | some t' =>
      obtain ⟨e, hm⟩ := exists_moves hstep
      have hlt := h.work_lt hm
      exact ih (h.moves hm) (by omega)

/-- Where a link ends that is tried alone. -/
def course (s : LinkSettings) (answers : String → Nat → Method → Answer) (url : String) :
    LinkTask :=
  alone s (answers url) (stepBound s) (fresh s url)

/-- The course of a link comes to its end. -/
theorem atRest_course (s : LinkSettings) (answers : String → Nat → Method → Answer)
    (url : String) : (course s answers url).atRest = true := by
  have hwork := work_fresh s url
  exact (Sound.fresh s url).atRest_alone (by omega)

end LinkTask

/-! ## Batches that nothing stops -/

namespace Batch

variable {b c : Batch} {e : BatchEvent} {es : List BatchEvent} {urls : List String}
  {answers : String → Nat → Method → Answer}

/-- The events of a batch that nothing stops and in which requests have the given answers. -/
def Admits (answers : String → Nat → Method → Answer) (b : Batch) : BatchEvent → Prop
  | .answer i a => ∀ t m, b.tasks[i]? = some t → t.stage = .asking m →
      a = answers t.check.url (t.calls - 1) m
  | .stop => False
  | .start _ | .resume _ | .wake _ | .notice => True

/-- Each task stands somewhere on the course of its link. -/
theorem Run.on_course (h : Run s (Admits answers) (ofUrls s urls) es b) :
    ∀ t ∈ b.tasks, ∃ n,
      t = LinkTask.alone s (answers t.check.url) n (LinkTask.fresh s t.check.url) := by
  have hcourse := h.forall_tasks (P := fun t => t.Sound s ∧ ∃ n,
    t = LinkTask.alone s (answers t.check.url) n (LinkTask.fresh s t.check.url))
    (List.forall_mem_map.2 fun url _ => ⟨.fresh s url, 0, rfl⟩) ?_ (fun hmay => hmay.elim)
  · exact fun t ht => (hcourse t ht).2
  · rintro c e i t t' hmay htask ht hmove ⟨hsound, n, hn⟩
    -- The move is the next step of the course, since its answer is the given one.
    have hstep : t.step? s (answers t.check.url) = some t' := by
      refine hmove.step?_eq fun j a m he hstage => ?_
      subst he
      obtain rfl := Option.some.inj htask
      exact hmay t m ht hstage
    refine ⟨hsound.moves hmove, n + 1, ?_⟩
    rw [hsound.moves_url hmove, LinkTask.alone_add, ← hn, LinkTask.alone, hstep]
    rfl

/-- A batch that nothing stops does not come to rest as if it had been stopped. -/
theorem Run.stage_of_admits (h : Run s (Admits answers) (ofUrls s urls) es b) :
    b.stage ≠ .stopping ∧ b.stage ≠ .reported true := by
  induction h with
  | nil => simp [ofUrls]
  | snoc _ hmay hstep ih =>
    cases step?_eq_some_iff.1 hstep with
    | move => exact ih
    | stop => exact hmay.elim
    | raise => simp
    | finish => simp
    | cutShort hstage => exact absurd hstage ih.1

/-- What the tasks of a batch leave to do. -/
def work (s : LinkSettings) (b : Batch) : Nat := (b.tasks.map (LinkTask.work s)).sum

/-- What remains of a sum in which one summand is replaced by a smaller one. -/
theorem sum_map_set_lt {f : LinkTask → Nat} {ts : List LinkTask} {i : Nat} {t t' : LinkTask}
    (ht : ts[i]? = some t) (hlt : f t' < f t) : ((ts.set i t').map f).sum < (ts.map f).sum := by
  induction ts generalizing i with
  | nil => cases ht
  | cons u us ih =>
    cases i with
    | zero =>
      obtain rfl := Option.some.inj ht
      simpa using hlt
    | succ i => simpa using ih ht

/-- What the links of a batch leave to do before its first event. -/
theorem work_ofUrls (s : LinkSettings) (urls : List String) :
    (ofUrls s urls).work s ≤ urls.eraseDups.length * LinkTask.stepBound s := by
  have hsum : ∀ us : List String, ((us.map (LinkTask.fresh s)).map (LinkTask.work s)).sum ≤
      us.length * LinkTask.stepBound s := fun us => by
    induction us with
    | nil => simp
    | cons url us ih =>
      have hwork := LinkTask.work_fresh s url
      simp only [List.map_cons, List.sum_cons, List.length_cons, Nat.succ_mul]
      omega
  exact hsum _

/-- The events of a batch that nothing stops, and what is left to do after them, are bounded. -/
theorem Run.length_add_work_le (h : Run s (Admits answers) (ofUrls s urls) es b) :
    es.length + b.work s + (if b.isOver then 0 else 1) ≤
      urls.eraseDups.length * LinkTask.stepBound s + 1 := by
  induction h with
  | nil => simpa [isOver, ofUrls] using work_ofUrls s urls
  | @snoc es c e d hrun hmay hstep ih =>
    rw [List.length_append, List.length_singleton]
    cases step?_eq_some_iff.1 hstep with
    | @move _ i t t' _ hover _ ht hmove =>
      have hsound := (hrun.inv (inv_ofUrls s urls)).sound t (List.mem_of_getElem? ht)
      have hlt : work s { c with tasks := c.tasks.set i t' } < c.work s :=
        sum_map_set_lt ht (hsound.work_lt hmove)
      have hsame : isOver { c with tasks := c.tasks.set i t' } = c.isOver := rfl
      rw [hsame]
      omega
    | stop => exact hmay.elim
    | @raise x hstage =>
      have hwork : work s { c with stage := .raised x } = c.work s := rfl
      simp only [isOver, hstage, hwork, Bool.false_eq_true, if_false, if_true] at ih ⊢
      omega
    | finish hstage =>
      have hwork : work s { c with stage := .reported false } = c.work s := rfl
      simp only [isOver, hstage, hwork, Bool.false_eq_true, if_false, if_true] at ih ⊢
      omega
    | cutShort hstage => exact absurd hstage hrun.stage_of_admits.1

/-- Where a batch is neither over nor told to stop, some event is possible. -/
theorem exists_admits_step (answers : String → Nat → Method → Answer)
    (hslots : 1 ≤ s.concurrency) (hstage : b.stage = .running) :
    ∃ e c, b.Admits answers e ∧ b.step? s e = some c := by
  have hover : b.isOver = false := by simp [isOver, hstage]
  by_cases hactive : ∃ t ∈ b.tasks, t.holdsSlot = true
  · -- A task that has begun waits for an answer, has one, or rests.
    obtain ⟨t, ht, hslot⟩ := hactive
    obtain ⟨i, hi⟩ := List.mem_iff_getElem?.1 ht
    unfold LinkTask.holdsSlot at hslot
    split at hslot
    · rename_i m hasking
      refine ⟨.answer i (answers t.check.url (t.calls - 1) m), _, ?_,
        step?_eq_some_iff.2 (.move rfl hover (fun _ h => by cases h) hi (.answer i _ hasking))⟩
      intro t' m' ht' hstage'
      obtain rfl := Option.some.inj (hi.symm.trans ht')
      rw [hasking] at hstage'
      rw [Stage.asking.inj hstage']
    · rename_i m a hanswered
      exact ⟨.resume i, _, trivial,
        step?_eq_some_iff.2 (.move rfl hover (fun _ h => by cases h) hi (.resume i hanswered))⟩
    · rename_i delay hresting
      exact ⟨.wake i, _, trivial,
        step?_eq_some_iff.2 (.move rfl hover (fun _ h => by cases h) hi (.wake i hresting))⟩
    · cases hslot
  · have hnone : ∀ t ∈ b.tasks, t.holdsSlot = false := fun t ht =>
      Bool.eq_false_iff.2 fun hslot => hactive ⟨t, ht, hslot⟩
    by_cases hrest : ∀ t ∈ b.tasks, t.atRest = true
    · cases hbreak : b.firstBreak? with
      | some x => exact ⟨.notice, _, trivial, step?_eq_some_iff.2 (.raise hstage hbreak)⟩
      | none => exact ⟨.notice, _, trivial, step?_eq_some_iff.2 (.finish hstage hbreak hrest)⟩
    · -- All slots are free, so that a task that waits for its turn can begin.
      push Not at hrest
      obtain ⟨t, ht, hmoving⟩ := hrest
      obtain ⟨i, hi⟩ := List.mem_iff_getElem?.1 ht
      have hqueued := LinkTask.stage_eq_queued (Bool.eq_false_iff.2 hmoving) (hnone t ht)
      have hfree : b.slotsTaken = 0 := List.countP_eq_zero.2 fun t ht => by simp [hnone t ht]
      refine ⟨.start i, _, trivial,
        step?_eq_some_iff.2 (.move rfl hover (fun _ _ => ?_) hi (.start i hqueued))⟩
      rw [hfree]
      exact Int.lt_of_lt_of_le Int.zero_lt_one hslots

/-- Let the answers to the requests for a link depend on nothing but the link, the method and the
number of earlier requests. Then a batch that nothing stops has a bounded number of events; as long
as no task breaks down there is another one until the batch reports; and the report has for each
link, in the order of their first occurrences, the record with which its course ends when it is
tried alone. This does not depend on the number of slots, on the order of the events or on the other
links. -/
theorem report_eq_courses (s : LinkSettings) (answers : String → Nat → Method → Answer)
    (urls : List String) (limit : Int) (hlimit : 1 ≤ limit) {es : List BatchEvent} {b : Batch}
    (hrun : Run { s with concurrency := limit } (Admits answers) (ofUrls s urls) es b) :
    es.length ≤ urls.eraseDups.length * LinkTask.stepBound s + 1 ∧
      ((∀ t ∈ b.tasks, ∀ x, t.stage ≠ .broken x) → b.report? = none →
        ∃ e c, b.Admits answers e ∧ b.step? { s with concurrency := limit } e = some c) ∧
      ∀ r, b.report? = some r →
        r = ⟨urls.eraseDups.map fun url => (LinkTask.course s answers url).check, false⟩ ∧
          ∀ url ∈ urls, (LinkTask.course s answers url).stage = .ended := by
  have hinv : b.Inv { s with concurrency := limit } urls := hrun.inv (inv_ofUrls _ urls)
  obtain ⟨hnotStopping, hnotCut⟩ := hrun.stage_of_admits
  refine ⟨?_, fun hunbroken hnone => ?_, fun r hr => ?_⟩
  · have hle := hrun.length_add_work_le
    have hbound : LinkTask.stepBound { s with concurrency := limit } = LinkTask.stepBound s := rfl
    rw [hbound] at hle
    omega
  · have hrunning : b.stage = .running := by
      cases hstage : b.stage with
      | running => rfl
      | stopping => exact absurd hstage hnotStopping
      | reported truncated => simp [report?, hstage] at hnone
      | raised x =>
        obtain ⟨t, ht, hx⟩ := hinv.broken x hstage
        exact absurd hx (hunbroken t ht x)
    exact exists_admits_step answers hlimit hrunning
  · have hstage : b.stage = .reported false ∧ r = ⟨b.checks, false⟩ := by
      unfold report? at hr
      split at hr
      · rename_i truncated hstage
        cases truncated with
        | false => exact ⟨hstage, (Option.some.inj hr).symm⟩
        | true => exact absurd hstage hnotCut
      · cases hr
    have hended := hinv.ended hstage.1
    -- Each task has ended on the course of its link, hence at the end of it.
    have hcourse : ∀ t ∈ b.tasks, t = LinkTask.course s answers t.check.url := fun t ht => by
      obtain ⟨n, hn⟩ := hrun.on_course t ht
      rw [LinkTask.alone_concurrency] at hn
      have hrest : t.atRest = true := by simp [LinkTask.atRest, hended t ht]
      rw [hn] at hrest
      conv_lhs => rw [hn]
      exact LinkTask.alone_eq_of_atRest hrest (LinkTask.atRest_course s answers t.check.url)
    refine ⟨?_, fun url hurl => ?_⟩
    · rw [hstage.2, ← hinv.urls_eq, List.map_map, checks]
      refine congrArg (LinkReport.mk · false) (List.map_congr_left fun t ht => ?_)
      exact congrArg LinkTask.check (hcourse t ht)
    · rw [← List.mem_eraseDups, ← hinv.urls_eq] at hurl
      obtain ⟨t, ht, rfl⟩ := List.mem_map.1 hurl
      rw [← hcourse t ht]
      exact hended t ht

/-- Two links, one of them given twice: an interleaving of their tasks, and the report that it
shares with the courses of the links. -/
theorem report_eq_courses_two :
    let s := { LinkSettings.standard with retries := 0 }
    let answers : String → Nat → Method → Answer := fun url _ _ =>
      if url = "http://a" then .status 200 else .status 404
    let urls := ["http://a", "http://b", "http://a"]
    let r : LinkReport := ⟨[⟨"http://a", 1, .resolved, 1, some 200, none⟩,
      ⟨"http://b", 1, .failed, 1, some 404, some "HTTP status 404"⟩], false⟩
    ∃ es b, Run { s with concurrency := 2 } (Admits answers) (ofUrls s urls) es b ∧
      b.report? = some r ∧
      r = ⟨urls.eraseDups.map fun url => (LinkTask.course s answers url).check, false⟩ := by
  intro s answers urls r
  let a (stage : Stage) (calls : Nat) : LinkTask := ⟨.fresh "http://a" 1, stage, calls⟩
  let b (stage : Stage) (calls : Nat) : LinkTask := ⟨.fresh "http://b" 1, stage, calls⟩
  let a' : LinkTask := ⟨⟨"http://a", 1, .resolved, 1, some 200, none⟩, .ended, 1⟩
  let b' : LinkTask :=
    ⟨⟨"http://b", 1, .failed, 1, some 404, some "HTTP status 404"⟩, .ended, 1⟩
  have hbegun : Run { s with concurrency := 2 } (Admits answers) (ofUrls s urls)
      [.start 1, .start 0] ⟨[a (.asking .head) 1, b (.asking .head) 1], .running⟩ :=
    Run.snoc (Run.snoc .nil trivial (d := ⟨[a .queued 0, b (.asking .head) 1], .running⟩)
      (by decide +kernel)) trivial (by decide +kernel)
  have hanswered : Run { s with concurrency := 2 } (Admits answers) (ofUrls s urls)
      [.start 1, .start 0, .answer 0 (.status 200), .answer 1 (.status 404)]
      ⟨[a (.answered .head (.status 200)) 1, b (.answered .head (.status 404)) 1], .running⟩ := by
    refine Run.snoc (Run.snoc hbegun ?_ (d := ⟨[a (.answered .head (.status 200)) 1,
      b (.asking .head) 1], .running⟩) (by decide +kernel)) ?_ (by decide +kernel)
    · rintro t m ⟨⟩ -
      rfl
    · rintro t m ⟨⟩ -
      decide
  have hreported : Run { s with concurrency := 2 } (Admits answers) (ofUrls s urls)
      [.start 1, .start 0, .answer 0 (.status 200), .answer 1 (.status 404), .resume 1, .resume 0,
        .notice] ⟨[a', b'], .reported false⟩ :=
    Run.snoc (Run.snoc (Run.snoc hanswered trivial (e := .resume 1)
      (d := ⟨[a (.answered .head (.status 200)) 1, b'], .running⟩) (by decide +kernel)) trivial
      (e := .resume 0) (d := ⟨[a', b'], .running⟩) (by decide +kernel)) trivial
      (e := .notice) (by decide +kernel)
  exact ⟨_, _, hreported, rfl,
    ((report_eq_courses s answers urls 2 (by decide) hreported).2.2 r rfl).1⟩

end Batch

end CheckDoc
