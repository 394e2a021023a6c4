import CheckDoc.Proofs.Link.Course
import CheckDoc.Proofs.Numeric.Powers

/-!
# Attempts

The course of a link is a row of attempts with rests between them. An attempt is said here by its
requests and by the answer to the last of them, without the stages of a task
(`Attempt.ofCall`); what a link comes to follows from the first attempt of a row that succeeds
(`LinkTask.Unfolds.account`).

A task that is about to make an attempt makes it and settles it (`LinkTask.goes_settle`). Hence a
course unfolds into attempts (`LinkTask.exists_unfolds`), and what is seen of it are their calls of
the probe and the rests. A call is seen where the probe begins with it. Where there is no time for a
request, its call is given up before that, although each attempt is meant to ask
(`LinkTask.trace_without_time`).
-/

namespace CheckDoc

variable {s : LinkSettings} {answers : Nat → Method → Answer}

/-! ## What is seen of a course -/

/-- What a task does that is seen from outside. -/
inductive Deed where
  /-- The probe begins with a request of it. -/
  | call (m : Method)
  /-- It rests. -/
  | rest (delay : Binary64)
  deriving DecidableEq

/-- What an entry of a trial tells, apart from its link and its time. -/
def TrialEntry.deed : TrialEntry → Deed
  | .request _ m _ => .call m
  | .rest _ delay => .rest delay

namespace LinkTask

variable {t t' t'' : LinkTask} {ds ds' : List Deed}

/-- What is seen of a step. -/
def deeds (before after : LinkTask) : List Deed :=
  (entriesOf (.zero false) before after).map TrialEntry.deed

/-- What is seen of a course, for a number of steps. -/
def trace (s : LinkSettings) (answers : Nat → Method → Answer) : Nat → LinkTask → List Deed
  | 0, _ => []
  | n + 1, t =>
    match t.step? s answers with
    | none => []
    | some t' => deeds t t' ++ trace s answers n t'

/-- Nothing is seen of a task at rest. -/
theorem trace_of_atRest (h : t.atRest = true) (n : Nat) : trace s answers n t = [] := by
  cases n with
  | zero => rfl
  | succ n => rw [trace, step?_eq_none_iff.2 h]

/-- What is seen of a course that goes on from where it has come. -/
theorem trace_add (m n : Nat) (t : LinkTask) :
    trace s answers (m + n) t = trace s answers m t ++ trace s answers n (alone s answers m t) := by
  induction m generalizing t with
  | zero => rw [Nat.zero_add, alone, trace, List.nil_append]
  | succ m ih =>
    rw [Nat.succ_add, alone, trace, trace]
    cases hstep : t.step? s answers with
    | none => exact (trace_of_atRest (step?_eq_none_iff.1 hstep) n).symm
    | some t' => simp only [ih t', List.append_assoc]

/-- A course goes from one task to another, and this is seen of it. -/
def Goes (s : LinkSettings) (answers : Nat → Method → Answer) (t : LinkTask) (ds : List Deed)
    (t' : LinkTask) : Prop :=
  ∃ n, alone s answers n t = t' ∧ trace s answers n t = ds

namespace Goes

/-- A course may stay where it is. -/
theorem refl (t : LinkTask) : Goes s answers t [] t := ⟨0, rfl, rfl⟩

/-- A course may take a step first. -/
theorem step (hstep : t.step? s answers = some t') (h : Goes s answers t' ds t'') :
    Goes s answers t (deeds t t' ++ ds) t'' := by
  obtain ⟨n, hend, hseen⟩ := h
  refine ⟨n + 1, ?_, ?_⟩
  · rw [alone, hstep]
    exact hend
  · rw [trace, hstep, ← hseen]

/-- A course goes on from where it has come. -/
theorem trans (h : Goes s answers t ds t') (h' : Goes s answers t' ds' t'') :
    Goes s answers t (ds ++ ds') t'' := by
  obtain ⟨m, rfl, rfl⟩ := h
  obtain ⟨n, rfl, rfl⟩ := h'
  exact ⟨m + n, alone_add m n t, trace_add m n t⟩

/-- A course has one end, and the same is seen of it whenever it has come there. -/
theorem eq_of_atRest (h : Goes s answers t ds t') (hrest : t'.atRest = true) {n : Nat}
    (hn : (alone s answers n t).atRest = true) :
    alone s answers n t = t' ∧ trace s answers n t = ds := by
  obtain ⟨m, rfl, rfl⟩ := h
  refine ⟨alone_eq_of_atRest hn hrest, ?_⟩
  -- Both are what is seen of the two numbers of steps together.
  have hleft : trace s answers (m + n) t = _ := trace_add m n t
  have hright : trace s answers (n + m) t = _ := trace_add n m t
  rw [trace_of_atRest hrest, List.append_nil] at hleft
  rw [trace_of_atRest hn, List.append_nil, Nat.add_comm] at hright
  exact hright.symm.trans hleft

end Goes

end LinkTask

/-! ## Attempts -/

/-- Whether an answer rejects a request for the status alone. -/
def Answer.rejects : Answer → Bool
  | .status n => headRejected n
  | _ => false

/-- The requests of an attempt, and the answer that decides it. -/
structure Attempt where
  /-- The methods of the requests in order. -/
  methods : List Method
  /-- The answer to the last request. -/
  final : Answer

/-- The wait after a number of attempts, as long as it can be counted. -/
def LinkSettings.delay (s : LinkSettings) (attempts : Nat) : Binary64 :=
  s.backoff.mul (.ofRatio false (2 ^ (attempts - 1)) 1)

/-- A wait that can be counted. -/
theorem LinkSettings.eq_delay_of_wait? (s : LinkSettings) {attempts : Nat} {delay : Binary64}
    (h : s.wait? attempts = some delay) : delay = s.delay attempts := by
  unfold wait? at h
  obtain ⟨x, hx, rfl⟩ := Option.map_eq_some_iff.1 h
  rw [Binary64.eq_ofRatio_of_ofInt? hx, Nat.pow_eq]
  rfl

/-- The waits that cannot be counted. -/
theorem LinkSettings.wait?_eq_none_iff (s : LinkSettings) (attempts : Nat) :
    s.wait? attempts = none ↔ 1025 ≤ attempts := by
  unfold wait?
  rw [Option.map_eq_none_iff, Nat.pow_eq, Binary64.ofInt?_two_pow_eq_none_iff]
  omega

namespace Attempt

/-- The attempt whose first request is the call of the probe of a number. A request for the status
alone that is rejected is followed by one for the content. Where there is no time for a request it
is late at once. -/
def ofCall (s : LinkSettings) (answers : Nat → Method → Answer) (k : Nat) : Attempt :=
  if s.timeout.le (.zero false) then ⟨[.head], .late⟩
  else if (answers k .head).rejects then ⟨[.head, .get], answers (k + 1) .get⟩
  else ⟨[.head], answers k .head⟩

/-- The calls that the probe begins with in an attempt: one for each request that there is time
for. -/
def calls (s : LinkSettings) (x : Attempt) : List Method :=
  if s.timeout.le (.zero false) then [] else x.methods

/-- Whether an attempt succeeds: its last request is answered with a status that is a success. -/
def succeeds (x : Attempt) : Bool :=
  match x.final with
  | .status n => isSuccess n
  | _ => false

/-- The status of an attempt. -/
def status? (x : Attempt) : Option Int :=
  match x.final with
  | .status n => some n
  | _ => none

/-- Why an attempt was in vain. -/
def reason? (s : LinkSettings) (x : Attempt) : Option String :=
  match x.final with
  | .status n => if isSuccess n then none else some ("HTTP status " ++ toString n)
  | .fault f => some (f.reason s)
  | .late => some (timeoutReason s)
  | .escape _ => none

/-- What is seen of an attempt. -/
def deeds (s : LinkSettings) (x : Attempt) : List Deed := (x.calls s).map .call

/-- A number of attempts in a row, the first request of which is the call of a number. -/
def row (s : LinkSettings) (answers : Nat → Method → Answer) : Nat → Nat → List Attempt
  | 0, _ => []
  | n + 1, k =>
    let x := ofCall s answers k
    x :: row s answers n (k + (x.calls s).length)

/-- What is seen of attempts in a row, the first of which has a number: between two of them there is
a rest. -/
def rowDeeds (s : LinkSettings) : Nat → List Attempt → List Deed
  | _, [] => []
  | _, [x] => x.deeds s
  | i, x :: y :: xs => x.deeds s ++ .rest (s.delay i) :: rowDeeds s (i + 1) (y :: xs)

/-- The record of a link after an attempt. -/
def record (s : LinkSettings) (x : Attempt) (c : LinkCheck) : LinkCheck :=
  { c with
    state :=
      if x.succeeds then .resolved
      else if c.maxAttempts ≤ (c.attempts + 1 : Nat) then .failed else .retrying
    attempts := c.attempts + 1
    status := x.status?
    reason := x.reason? s }

variable {x : Attempt} {c d : LinkCheck}

@[simp]
theorem record_attempts : (x.record s c).attempts = c.attempts + 1 := rfl

@[simp]
theorem record_maxAttempts : (x.record s c).maxAttempts = c.maxAttempts := rfl

@[simp]
theorem record_status : (x.record s c).status = x.status? := rfl

@[simp]
theorem record_reason : (x.record s c).reason = x.reason? s := rfl

/-- The length of a row. -/
theorem length_row (s : LinkSettings) (answers : Nat → Method → Answer) (n k : Nat) :
    (row s answers n k).length = n := by
  induction n generalizing k with
  | zero => rfl
  | succ n ih => rw [row, List.length_cons, ih]

/-- A row begins with the shorter ones. -/
theorem take_row (s : LinkSettings) (answers : Nat → Method → Answer) (m n k : Nat) :
    (row s answers n k).take m = row s answers (min m n) k := by
  induction n generalizing m k with
  | zero => rw [Nat.min_zero, row, List.take_nil]
  | succ n ih =>
    cases m with
    | zero => rw [Nat.zero_min, row, List.take_zero]
    | succ m => rw [row, List.take_succ_cons, ih, Nat.succ_min_succ, row]

/-- The attempts of a row that are made: all up to the first that succeeds. -/
def made (xs : List Attempt) : Nat := min (xs.findIdx succeeds + 1) xs.length

/-- Attempts in vain are made, and so is the one after them, which is the last if it succeeds or
there is no other. -/
theorem made_append_cons {ys zs : List Attempt} {x : Attempt}
    (hfails : ∀ y ∈ ys, y.succeeds = false) (hlast : x.succeeds = true ∨ zs = []) :
    made (ys ++ x :: zs) = ys.length + 1 := by
  have hys : ys.findIdx succeeds = ys.length := List.findIdx_eq_length.2 hfails
  rw [made, List.findIdx_append, hys, if_neg (Nat.lt_irrefl _), List.findIdx_cons]
  obtain hx | rfl := hlast
  · simp [hx]
  · cases x.succeeds <;> simp

/-- Whether an attempt of a row succeeds, as long as those before the last one are in vain. -/
theorem any_append_cons {ys zs : List Attempt} {x : Attempt}
    (hfails : ∀ y ∈ ys, y.succeeds = false) (hlast : x.succeeds = true ∨ zs = []) :
    (ys ++ x :: zs).any succeeds = x.succeeds := by
  have hys : ys.any succeeds = false := List.any_eq_false.2 fun y hy => by simp [hfails y hy]
  rw [List.any_append, hys, Bool.false_or, List.any_cons]
  obtain hx | rfl := hlast
  · rw [hx, Bool.true_or]
  · rw [List.any_nil, Bool.or_false]

/-- Only an attempt that succeeds has no reason, unless the probe broke down. -/
theorem reason?_eq_none_iff (h : ∀ message, x.final ≠ .escape message) :
    x.reason? s = none ↔ x.succeeds = true := by
  unfold reason? succeeds
  cases hfinal : x.final with
  | status n => simp
  | fault f => simp
  | late => simp
  | escape message => exact absurd hfinal (h message)

/-- What is recorded of an answer is the record after an attempt that it decides. -/
theorem eq_record (h : c.Records s x.final d) (hdone : c.done = false) : d = x.record s c := by
  obtain ⟨methods, final⟩ := x
  cases h with
  | success hn hc =>
    rw [LinkCheck.succeed_run hdone] at hc
    simp [record, succeeds, status?, reason?, hn, ← (EStateM.Result.ok.inj hc).2]
  | refusal hn hc =>
    rw [LinkCheck.fail_run hdone] at hc
    simp [record, succeeds, status?, reason?, hn, ← (EStateM.Result.ok.inj hc).2]
  | fault f hc =>
    rw [LinkCheck.fail_run hdone] at hc
    simp [record, succeeds, status?, reason?, ← (EStateM.Result.ok.inj hc).2]
  | late hc =>
    rw [LinkCheck.fail_run hdone] at hc
    simp [record, succeeds, status?, reason?, ← (EStateM.Result.ok.inj hc).2]

/-- The link is finished after an attempt that succeeds or leaves none. -/
theorem done_record : (x.record s c).done = true ↔
    x.succeeds = true ∨ c.maxAttempts ≤ (c.attempts + 1 : Nat) := by
  unfold record LinkCheck.done
  split_ifs <;> simp_all [LinkState.done]

end Attempt

/-! ## From one attempt to the next -/

namespace LinkTask

variable {t t' : LinkTask} {x : Attempt} {xs : List Attempt}

/-- The task after an attempt. -/
def settle (s : LinkSettings) (x : Attempt) (t : LinkTask) : LinkTask :=
  ({ t with calls := t.calls + (x.calls s).length } : LinkTask).resume s .get x.final

/-- A task that is about to make an attempt. -/
structure Ready (t : LinkTask) : Prop where
  /-- The link is not finished. -/
  not_done : t.check.done = false
  /-- The task waits for its turn, or for the next attempt. -/
  waits : t.stage = .queued ∨ ∃ delay, t.stage = .resting delay

/-- How a task settles an attempt. -/
inductive Settles (s : LinkSettings) (t : LinkTask) (x : Attempt) : LinkTask → Prop
  /-- The attempt finishes the link. -/
  | finish {t' : LinkTask} (hcheck : t'.check = x.record s t.check)
    (hfinal : ∀ message, x.final ≠ .escape message)
    (hdone : x.succeeds = true ∨ t.check.maxAttempts ≤ (t.check.attempts + 1 : Nat))
    (hstage : t'.stage = .ended) : Settles s t x t'
  /-- There is another attempt after a rest. -/
  | rest {t' : LinkTask} (delay : Binary64) (hcheck : t'.check = x.record s t.check)
    (hcalls : t'.calls = t.calls + (x.calls s).length) (hfails : x.succeeds = false)
    (hleft : (t.check.attempts + 1 : Nat) < t.check.maxAttempts)
    (hwait : s.wait? (t.check.attempts + 1) = some delay) (hstage : t'.stage = .resting delay) :
    Settles s t x t'
  /-- The rest before another attempt would be too long. -/
  | overflow {t' : LinkTask} (hcheck : t'.check = x.record s t.check) (hfails : x.succeeds = false)
    (hleft : (t.check.attempts + 1 : Nat) < t.check.maxAttempts)
    (hwait : s.wait? (t.check.attempts + 1) = none) (hstage : t'.stage = .broken .waitRange) :
    Settles s t x t'
  /-- The probe broke down. -/
  | escape {t' : LinkTask} {message : String} (hfinal : x.final = .escape message)
    (hcheck : t'.check = t.check) (hstage : t'.stage = .broken (.probe message)) : Settles s t x t'

/-- A task settles an attempt in one of these ways. -/
theorem settles_settle (hdone : t.check.done = false) (x : Attempt) :
    Settles s t x (t.settle s x) := by
  have hresumes := resumes_resume (s := s)
    (t := { t with calls := t.calls + (x.calls s).length }) hdone .get x.final
  unfold settle
  generalize hfinal : x.final = a at hresumes ⊢
  generalize LinkTask.resume _ _ _ _ = t' at hresumes ⊢
  have hrecord : ∀ {c}, t.check.Records s a c → c = x.record s t.check := fun hc =>
    Attempt.eq_record (hfinal ▸ hc) hdone
  -- An attempt that leaves the link unfinished is in vain and leaves another one.
  have hmore : ∀ {c}, t.check.Records s a c → c.done = false → x.succeeds = false ∧
      ((t.check.attempts + 1 : Nat) : Int) < t.check.maxAttempts := fun hc hnot => by
    rw [hrecord hc, Bool.eq_false_iff, ne_eq, Attempt.done_record] at hnot
    exact ⟨Bool.eq_false_iff.2 fun h => hnot (.inl h), Int.not_le.1 fun h => hnot (.inr h)⟩
  cases hresumes with
  | fallback hm => cases hm
  | finish hc hdone' =>
    have hanswer : ∀ message, x.final ≠ .escape message := fun message h => by
      rw [← hfinal, h] at hc
      cases hc
    exact .finish (hrecord hc) hanswer (Attempt.done_record.1 (hrecord hc ▸ hdone')) rfl
  | rest hc hnot hwait =>
    obtain ⟨hfails, hleft⟩ := hmore hc hnot
    rw [(hc.attempts_eq hdone).2.2] at hwait
    exact .rest _ (hrecord hc) rfl hfails hleft hwait rfl
  | overflow hc hnot hwait =>
    obtain ⟨hfails, hleft⟩ := hmore hc hnot
    rw [(hc.attempts_eq hdone).2.2] at hwait
    exact .overflow (hrecord hc) hfails hleft hwait rfl
  | escape message => exact .escape hfinal rfl rfl

/-- What is seen when a task has settled an attempt. -/
def restDeeds (t : LinkTask) : List Deed :=
  match t.stage with
  | .resting delay => [.rest delay]
  | _ => []

/-- A task that has settled an attempt is at rest, or it waits for the next attempt. -/
theorem Settles.atRest_or (h : t.Settles s x t') : t'.atRest = true ∧ t'.restDeeds = [] ∨
    ∃ delay, t'.stage = .resting delay ∧ t'.Ready ∧
      s.wait? (t.check.attempts + 1) = some delay ∧ t'.check.attempts = t.check.attempts + 1 ∧
      (t'.check.attempts : Int) < t'.check.maxAttempts ∧
      t'.check.maxAttempts = t.check.maxAttempts := by
  cases h with
  | finish hcheck hfinal hdone hstage => simp [atRest, restDeeds, hstage]
  | rest delay hcheck hcalls hfails hleft hwait hstage =>
    have hdone : t'.check.done = false := by
      rw [hcheck, Bool.eq_false_iff, ne_eq, Attempt.done_record]
      simp [hfails]
      omega
    refine .inr ⟨delay, hstage, ⟨hdone, .inr ⟨delay, hstage⟩⟩, hwait, ?_⟩
    rw [hcheck]
    exact ⟨rfl, hleft, rfl⟩
  | overflow hcheck hfails hleft hwait hstage => simp [atRest, restDeeds, hstage]
  | escape hfinal hcheck hstage => simp [atRest, restDeeds, hstage]

/-- A task that rests has settled an attempt in vain. -/
theorem Settles.of_resting {delay : Binary64} (h : t.Settles s x t')
    (hstage : t'.stage = .resting delay) : t'.check = x.record s t.check ∧
      t'.calls = t.calls + (x.calls s).length ∧ x.succeeds = false ∧
      (t.check.attempts + 1 : Nat) < t.check.maxAttempts ∧
      s.wait? (t.check.attempts + 1) = some delay := by
  cases h with
  | rest delay' hcheck hcalls hfails hleft hwait hstage' =>
    rw [hstage'] at hstage
    obtain rfl := Stage.resting.inj hstage
    exact ⟨hcheck, hcalls, hfails, hleft, hwait⟩
  | finish _ _ _ hstage' => simp [hstage'] at hstage
  | overflow _ _ _ _ hstage' => simp [hstage'] at hstage
  | escape _ _ hstage' => simp [hstage'] at hstage

/-- A task that is about to make an attempt makes the first request of it. -/
theorem Ready.step?_eq (h : t.Ready) : t.step? s answers = some (t.ask s .head) := by
  unfold step?
  obtain hstage | ⟨delay, hstage⟩ := h.waits
  · simp [hstage, begin, h.not_done]
  · simp [hstage]

/-- How a task goes on with an answer does not depend on its stage. -/
theorem resume_stage (s : LinkSettings) (m : Method) (a : Answer) (t : LinkTask) (stage : Stage) :
    ({ t with stage := stage } : LinkTask).resume s m a = t.resume s m a := by
  cases a <;> simp only [resume, conclude, ask]

/-- A task goes on with an answer that is no rejection as with one for the content. -/
theorem resume_head {a : Answer} (h : a.rejects = false) (t : LinkTask) :
    t.resume s .head a = t.resume s .get a := by
  cases a with
  | status n => simp [resume, show headRejected n = false from h]
  | _ => rfl

/-- A task asks for the content where the request for the status alone was rejected. -/
theorem resume_of_rejects {a : Answer} (h : a.rejects = true) (t : LinkTask) :
    t.resume s .head a = t.ask s .get := by
  cases a with
  | status n => simp [resume, show headRejected n = true from h]
  | _ => cases h

/-- A task settles an attempt once the deciding answer has come. -/
theorem goes_settle_of_answered (answers : Nat → Method → Answer)
    (hdone : t.check.done = false) {m : Method} {a : Answer} {k : Nat}
    (ha : x.final = a) (hk : t.calls + (x.calls s).length = k)
    (hm : m = .head → a.rejects = false) :
    Goes s answers { t with stage := .answered m a, calls := k } (t.settle s x).restDeeds
      (t.settle s x) := by
  subst ha hk
  let u : LinkTask := { t with calls := t.calls + (x.calls s).length }
  have hstep : step? s answers { u with stage := .answered m x.final } =
      some (t.settle s x) := by
    refine congrArg some ((resume_stage s m x.final u _).trans ?_)
    cases m with
    | head => exact resume_head (hm rfl) u
    | get => rfl
  have hdeeds : deeds { u with stage := .answered m x.final } (t.settle s x) =
      (t.settle s x).restDeeds := by
    cases settles_settle (s := s) hdone x <;>
      simp [deeds, entriesOf, restDeeds, TrialEntry.deed, *]
  have hgoes := Goes.step hstep (.refl _)
  rwa [hdeeds, List.append_nil] at hgoes

/-- A request that there is time for calls the probe, and an answer comes. -/
theorem goes_ask {m : Method} (htime : s.timeout.le (.zero false) = false)
    (hstep : t.step? s answers = some (t.ask s m)) :
    Goes s answers t [.call m]
      { t with stage := .answered m (answers t.calls m), calls := t.calls + 1 } := by
  have hask : t.ask s m = { t with stage := .asking m, calls := t.calls + 1 } :=
    if_neg (by simp [htime])
  have hdeeds : deeds t (t.ask s m) = [.call m] := by
    simp [hask, deeds, entriesOf, TrialEntry.deed]
  have hanswer : (t.ask s m).step? s answers =
      some { t with stage := .answered m (answers t.calls m), calls := t.calls + 1 } := by
    rw [hask]
    rfl
  have hgoes := Goes.step hstep (.step hanswer (.refl _))
  rwa [hdeeds] at hgoes

/-- A request that there is no time for is late at once. -/
theorem goes_ask_late {m : Method} (htime : s.timeout.le (.zero false) = true)
    (hstep : t.step? s answers = some (t.ask s m)) :
    Goes s answers t [] { t with stage := .answered m .late } := by
  have hask : t.ask s m = { t with stage := .answered m .late } := if_pos htime
  have hgoes := Goes.step hstep (.refl _)
  rwa [hask] at hgoes

/-- A task that is about to make an attempt makes it and settles it. -/
theorem goes_settle (h : t.Ready) :
    Goes s answers t ((Attempt.ofCall s answers t.calls).deeds s ++
      (t.settle s (.ofCall s answers t.calls)).restDeeds)
      (t.settle s (.ofCall s answers t.calls)) := by
  have hfirst : t.step? s answers = _ := h.step?_eq
  unfold Attempt.ofCall
  split_ifs with htime hrejects
  · have hcalls : t.calls + (Attempt.calls s ⟨[.head], .late⟩).length = t.calls := by
      simp [Attempt.calls, htime]
    have hsettle := goes_settle_of_answered answers (m := .head) h.not_done rfl hcalls
      (fun _ => rfl)
    simpa [Attempt.deeds, Attempt.calls, htime] using (goes_ask_late htime hfirst).trans hsettle
  · have hcalls : t.calls +
        (Attempt.calls s ⟨[.head, .get], answers (t.calls + 1) .get⟩).length = t.calls + 2 := by
      simp [Attempt.calls, htime]
    have hsettle := goes_settle_of_answered answers (m := .get) h.not_done rfl hcalls
      (fun hm => nomatch hm)
    let u : LinkTask :=
      { t with stage := .answered .head (answers t.calls .head), calls := t.calls + 1 }
    have hsecond : u.step? s answers = some (u.ask s .get) :=
      congrArg some (resume_of_rejects hrejects u)
    have hcontent := (goes_ask (Bool.eq_false_iff.2 htime) hsecond).trans hsettle
    simpa [Attempt.deeds, Attempt.calls, htime] using
      (goes_ask (Bool.eq_false_iff.2 htime) hfirst).trans hcontent
  · have hcalls : t.calls +
        (Attempt.calls s ⟨[.head], answers t.calls .head⟩).length = t.calls + 1 := by
      simp [Attempt.calls, htime]
    have hsettle := goes_settle_of_answered answers (m := .head) h.not_done rfl hcalls
      (fun _ => Bool.eq_false_iff.2 hrejects)
    simpa [Attempt.deeds, Attempt.calls, htime] using
      (goes_ask (Bool.eq_false_iff.2 htime) hfirst).trans hsettle

/-! ## Rows of attempts -/

/-- A course unfolds into attempts: each is settled, and after a rest the next one is made. -/
inductive Unfolds (s : LinkSettings) (answers : Nat → Method → Answer) :
    LinkTask → List Attempt → LinkTask → Prop
  /-- After the last attempt the task is at rest. -/
  | last {t t' : LinkTask} {x : Attempt} (hx : .ofCall s answers t.calls = x)
    (hsettles : t.Settles s x t') (hrest : t'.atRest = true) : Unfolds s answers t [x] t'
  /-- There is another attempt after a rest. -/
  | next {t u t' : LinkTask} {x y : Attempt} {ys : List Attempt} {delay : Binary64}
    (hx : .ofCall s answers t.calls = x) (hsettles : t.Settles s x u)
    (hstage : u.stage = .resting delay) (h : Unfolds s answers u (y :: ys) t') :
    Unfolds s answers t (x :: y :: ys) t'

/-- A course starts with an attempt. -/
theorem Unfolds.exists_cons (h : Unfolds s answers t xs t') : ∃ y ys, xs = y :: ys := by
  cases h with
  | last => exact ⟨_, _, rfl⟩
  | next => exact ⟨_, _, rfl⟩

/-- Every course unfolds, and its calls and rests are those of the attempts. -/
theorem exists_unfolds (s : LinkSettings) (answers : Nat → Method → Answer) (h : t.Ready) :
    ∃ xs t', Unfolds s answers t xs t' ∧ t'.atRest = true ∧
      Goes s answers t (Attempt.rowDeeds s (t.check.attempts + 1) xs) t' := by
  generalize hleft : (t.check.maxAttempts - t.check.attempts).toNat = left
  induction left using Nat.strongRecOn generalizing t with
  | ind left ih =>
  have hgoes : Goes s answers t _ _ := goes_settle h
  have hsettles := settles_settle (s := s) h.not_done (.ofCall s answers t.calls)
  generalize hx : Attempt.ofCall s answers t.calls = x at hgoes hsettles
  generalize t.settle s x = u at hgoes hsettles
  obtain ⟨hrest, hnone⟩ | ⟨delay, hstage, hready, hwait, hattempts, hlt, hmax⟩ := hsettles.atRest_or
  · refine ⟨[x], u, .last hx hsettles hrest, hrest, ?_⟩
    simpa [hnone, Attempt.rowDeeds] using hgoes
  · -- There are fewer attempts left.
    obtain ⟨xs, t', hunfolds, hrest, hgoes'⟩ := ih _ (by omega) hready rfl
    obtain ⟨y, ys, rfl⟩ := hunfolds.exists_cons
    refine ⟨x :: y :: ys, t', .next hx hsettles hstage hunfolds, hrest, ?_⟩
    rw [hattempts] at hgoes'
    have hboth := hgoes.trans hgoes'
    rw [restDeeds, hstage, s.eq_delay_of_wait? hwait, List.append_assoc] at hboth
    exact hboth

/-- A course unfolds into the attempts of a row. -/
theorem Unfolds.eq_row (h : Unfolds s answers t xs t') :
    xs = Attempt.row s answers xs.length t.calls := by
  induction h with
  | last hx => simp only [List.length_singleton, Attempt.row, hx]
  | next hx hsettles hstage h ih =>
    obtain ⟨-, hcalls, -⟩ := hsettles.of_resting hstage
    rw [hcalls, ← hx] at ih
    rw [List.length_cons, Attempt.row, ← ih, hx]

/-- What precedes the last attempt of a course. -/
structure Precedes (s : LinkSettings) (t : LinkTask) (ys : List Attempt) (u : LinkTask) : Prop where
  /-- Each attempt is counted. -/
  attempts_eq : u.check.attempts = t.check.attempts + ys.length
  /-- The number of attempts that are allowed stays. -/
  maxAttempts_eq : u.check.maxAttempts = t.check.maxAttempts
  /-- Each attempt is in vain. -/
  fails : ∀ y ∈ ys, y.succeeds = false
  /-- Each attempt leaves another one. -/
  lt : ys ≠ [] → (u.check.attempts : Int) < u.check.maxAttempts
  /-- The rest after each attempt can be counted. -/
  wait_eq : ∀ i, t.check.attempts < i → i ≤ u.check.attempts → s.wait? i = some (s.delay i)

/-- The last attempt of a course is settled, and those before it are in vain. -/
theorem Unfolds.exists_last (h : Unfolds s answers t xs t') :
    ∃ ys x u, xs = ys ++ [x] ∧ t.Precedes s ys u ∧ x = .ofCall s answers u.calls ∧
      u.Settles s x t' := by
  induction h with
  | @last t t' x hx hsettles hrest =>
    have hnone : t.Precedes s [] t := ⟨rfl, rfl, nofun, nofun, fun i hlt hle => by omega⟩
    exact ⟨[], x, t, rfl, hnone, hx.symm, hsettles⟩
  | @next t v t' x y ys delay hx hsettles hstage h ih =>
    obtain ⟨zs, z, u, hzs, hpre, hz, hlast⟩ := ih
    obtain ⟨hcheck, hcalls, hfails, hleft, hwait⟩ := hsettles.of_resting hstage
    have hattempts : v.check.attempts = t.check.attempts + 1 := by simp [hcheck]
    have hmax : v.check.maxAttempts = t.check.maxAttempts := by simp [hcheck]
    refine ⟨x :: zs, z, u, by rw [hzs, List.cons_append], ⟨?_, ?_, ?_, ?_, ?_⟩, hz, hlast⟩
    · rw [hpre.attempts_eq, hattempts, List.length_cons]
      omega
    · rw [hpre.maxAttempts_eq, hmax]
    · exact List.forall_mem_cons.2 ⟨hfails, hpre.fails⟩
    · intro _
      by_cases hzs' : zs = []
      · rw [hpre.attempts_eq, hpre.maxAttempts_eq, hzs', hmax, hattempts, List.length_nil]
        exact hleft
      · exact hpre.lt hzs'
    · intro i hlt hle
      by_cases hi : i = t.check.attempts + 1
      · rw [hi, hwait, ← s.eq_delay_of_wait? hwait]
      · exact hpre.wait_eq i (by omega) hle

/-! ## What a link comes to -/

/-- A link has made attempts of a row until it was finished: the record that it ends with, and what
is seen of it. -/
structure Account (s : LinkSettings) (row : List Attempt) (c : LinkCheck) (ds : List Deed) :
    Prop where
  /-- The attempts go up to the first that succeeds; if none does, they are all of the row. -/
  attempts_eq : c.attempts = Attempt.made row
  /-- The link is resolved if an attempt of the row succeeds, and has failed otherwise. -/
  state_eq : c.state = if row.any Attempt.succeeds then .resolved else .failed
  /-- The probe begins with the requests of the attempts that there is time for, and between two
  attempts there is a rest. -/
  deeds_eq : ds = Attempt.rowDeeds s 1 (row.take c.attempts)
  /-- The rest after each attempt but the last can be counted. -/
  wait_eq : ∀ i, 0 < i → i < c.attempts → s.wait? i = some (s.delay i)
  /-- The status and the reason are those of the last attempt. -/
  last_eq : ∃ x, (row.take c.attempts).getLast? = some x ∧ c.status = x.status? ∧
    c.reason = x.reason? s
  /-- There is no reason exactly where the link is resolved. -/
  reason_iff : c.reason = none ↔ c.state = .resolved

/-- The account of a link that is finished. -/
theorem Unfolds.account (h : Unfolds s answers t xs t') (hattempts : t.check.attempts = 0)
    {m : Nat} (hmax : t.check.maxAttempts = (m + 1 : Nat)) (hend : t'.stage = .ended) :
    Account s (Attempt.row s answers (m + 1) t.calls) t'.check (Attempt.rowDeeds s 1 xs) := by
  obtain ⟨ys, x, u, hxs, hpre, -, hlast⟩ := h.exists_last
  cases hlast with
  | finish hcheck hfinal hdone hstage =>
    have hu : u.check.attempts = ys.length := by rw [hpre.attempts_eq, hattempts, Nat.zero_add]
    have hlength : xs.length = ys.length + 1 := by simp [hxs]
    have hle : xs.length ≤ m + 1 := by
      rcases ys with - | ⟨y, ys⟩
      · simp [hlength]
      · have hlt := hpre.lt (List.cons_ne_nil y ys)
        rw [hpre.maxAttempts_eq, hmax, hu] at hlt
        omega
    -- The attempts that were made are the beginning of the row.
    have htake : (Attempt.row s answers (m + 1) t.calls).take xs.length = xs := by
      rw [Attempt.take_row, Nat.min_eq_left hle]
      exact h.eq_row.symm
    have hlengthRow := Attempt.length_row s answers (m + 1) t.calls
    generalize Attempt.row s answers (m + 1) t.calls = row at htake hlengthRow
    obtain ⟨zs, hzs⟩ : ∃ zs, row = ys ++ x :: zs := by
      refine ⟨row.drop xs.length, ?_⟩
      rw [← List.singleton_append, ← List.append_assoc, ← hxs]
      conv_lhs => rw [← List.take_append_drop xs.length row, htake]
    have hlast : x.succeeds = true ∨ zs = [] := by
      refine hdone.imp_right fun hmade => ?_
      rw [hpre.maxAttempts_eq, hmax, hu] at hmade
      rw [hzs, List.length_append, List.length_cons] at hlengthRow
      exact List.length_eq_zero_iff.1 (by omega)
    have hmade : t'.check.attempts = xs.length := by
      rw [hcheck, Attempt.record_attempts, hlength, hu]
    have hstate : t'.check.state = if x.succeeds then .resolved else .failed := by
      rw [hcheck, Attempt.record]
      obtain hx | hx := hdone
      · simp [hx]
      · simp only [if_pos hx]
    refine ⟨?_, ?_, ?_, ?_, ⟨x, ?_, ?_, ?_⟩, ?_⟩
    · rw [hmade, hzs, Attempt.made_append_cons hpre.fails hlast, hlength]
    · rw [hstate, hzs, Attempt.any_append_cons hpre.fails hlast]
    · rw [hmade, htake]
    · intro i hpos hlt
      exact hpre.wait_eq i (by omega) (by omega)
    · rw [hmade, htake, hxs, List.getLast?_concat]
    · rw [hcheck, Attempt.record_status]
    · rw [hcheck, Attempt.record_reason]
    · rw [hstate, hcheck, Attempt.record_reason]
      refine (Attempt.reason?_eq_none_iff hfinal).trans ?_
      cases x.succeeds <;> simp
  | rest _ _ _ _ _ _ hstage => simp [hstage] at hend
  | overflow _ _ _ _ hstage => simp [hstage] at hend
  | escape _ _ hstage => simp [hstage] at hend

/-- The account of a task without an attempt, once its link is finished. -/
theorem Ready.account (h : t.Ready) (hattempts : t.check.attempts = 0) {m n : Nat}
    (hmax : t.check.maxAttempts = (m + 1 : Nat)) (hend : (alone s answers n t).stage = .ended) :
    Account s (Attempt.row s answers (m + 1) t.calls) (alone s answers n t).check
      (trace s answers n t) := by
  obtain ⟨xs, t', hunfolds, hrest, hgoes⟩ := exists_unfolds s answers h
  -- The course has come where it unfolds to.
  have hstops : (alone s answers n t).atRest = true := by simp [atRest, hend]
  obtain ⟨heq, hseen⟩ := hgoes.eq_of_atRest hrest hstops
  rw [heq] at hend ⊢
  rw [hseen, hattempts]
  exact hunfolds.account hattempts hmax hend

/-- A task is about to make its first attempt. -/
theorem ready_fresh (s : LinkSettings) (url : String) : (fresh s url).Ready := ⟨rfl, .inl rfl⟩

/-- The number of attempts that are allowed is one more than that of retries. -/
theorem maxAttempts_fresh (hretries : 0 ≤ s.retries) (url : String) :
    (fresh s url).check.maxAttempts = (s.retries.toNat + 1 : Nat) := by
  show s.retries + 1 = _
  omega

/-- Whatever the answers to its requests are, a link that is tried alone and is finished has made
attempts up to the first that succeeds, or as many as are allowed. It is resolved in the first case
and has failed in the second. The probe began with each request of these attempts, or with none of
them where there was no time for any; between two attempts there was a rest, which doubled each
time; and status and reason are those of the last attempt. -/
theorem account_of_ended (s : LinkSettings) (answers : Nat → Method → Answer) (url : String)
    (n : Nat) (hretries : 0 ≤ s.retries) (hend : (alone s answers n (fresh s url)).stage = .ended) :
    Account s (Attempt.row s answers (s.retries.toNat + 1) 0)
      (alone s answers n (fresh s url)).check (trace s answers n (fresh s url)) :=
  (ready_fresh s url).account rfl (maxAttempts_fresh hretries url) hend

/-- A link whose first attempt asks for the content too, in vain, and whose second one succeeds. -/
theorem account_of_ended_second :
    let s := { LinkSettings.standard with retries := 1 }
    let answers : Nat → Method → Answer := fun k m =>
      .status (if m = .get then 500 else if k = 0 then 405 else 200)
    let t := alone s answers 8 (fresh s "http://a")
    0 ≤ s.retries ∧ t.stage = .ended ∧ Account s (Attempt.row s answers 2 0) t.check
      [.call .head, .call .get, .rest (s.delay 1), .call .head] := by
  intro s answers t
  have hend : t.stage = .ended := by decide +kernel
  have haccount := account_of_ended s answers "http://a" 8 (by decide) hend
  have hseen : trace s answers 8 (fresh s "http://a") =
      [.call .head, .call .get, .rest (s.delay 1), .call .head] := by decide +kernel
  rw [hseen] at haccount
  exact ⟨by decide, hend, haccount⟩

/-- Without time for a request an attempt is made, and the probe never begins with it. -/
theorem trace_without_time :
    let s := { LinkSettings.standard with retries := 0, timeout := .zero false }
    let answers : Nat → Method → Answer := fun _ _ => .status 200
    let t := alone s answers 2 (fresh s "http://a")
    t.stage = .ended ∧ t.check.attempts = 1 ∧
      trace s answers 2 (fresh s "http://a") ≠
        ((Attempt.row s answers 1 0).flatMap Attempt.methods).map .call := by
  decide +kernel

end LinkTask

end CheckDoc
