import CheckDoc.Link.Batch

/-!
# Trials

A trial runs a batch on a clock that starts at zero and only moves when nothing else is left to do
at the present moment. What is due within a nanosecond is due now. The tasks take turns: first they
all get one to begin, in the order of the links, and then each gets another when an answer has come
for it, or when it waits to begin and a slot is free again. A batch whose time is over, or for which
a signal to stop has been seen, is told to stop before any task goes on with an answer. The signal
is looked for twenty times a second.

Every move of a trial is an event of its batch, the loss of a turn that came to nothing, or a step
of its clock.
-/

namespace CheckDoc

/-- The signal that stops a trial before its time is over. -/
inductive StopSignal where
  /-- There is none to look for. -/
  | absent
  /-- It never comes. -/
  | unset
  /-- It comes at a time. -/
  | given (time : Binary64)
  /-- It was there before the start. -/
  | already
  deriving DecidableEq

/-- What a trial depends on. -/
structure TrialSetup where
  /-- How links are tried. -/
  settings : LinkSettings
  /-- How the probe behaves. -/
  behaviour : Behaviour
  /-- The time for the batch, where it is limited. -/
  deadline : Option Binary64
  /-- The signal to stop. -/
  signal : StopSignal

/-- What is recorded of a trial. -/
inductive TrialEntry where
  /-- The probe was called at a time. -/
  | request (url : String) (m : Method) (time : Binary64)
  /-- A task rests for some seconds. -/
  | rest (url : String) (delay : Binary64)
  deriving DecidableEq

/-- What is due for a task, and when. -/
structure Alarm where
  /-- The time. -/
  time : Binary64
  /-- What happens then. -/
  event : BatchEvent

/-- A batch on a clock. -/
structure Trial where
  /-- The batch. -/
  batch : Batch
  /-- The present time. -/
  now : Binary64
  /-- What is due for each task. -/
  alarms : List (Option Alarm)
  /-- The tasks whose turn it is, in order. -/
  turns : List Nat
  /-- When the signal is looked for next. -/
  poll : Binary64
  /-- What was recorded, the latest first. -/
  log : List TrialEntry

/-- The step of the clock: what is due within it is due now. -/
def clockStep : Binary64 := .ofRatio false 1 1000000000

/-- The time between two looks for the signal. -/
def pollInterval : Binary64 := .ofRatio false 1 20

/-- Whether a time has come. One that is no number does not lie ahead, so it has. -/
def isDue (now time : Binary64) : Bool := time.le now || !(now.add clockStep).le time

/-- The time after a delay, which counts only where it is positive. -/
def later (now delay : Binary64) : Binary64 :=
  if delay.le (.zero false) then now else now.add delay

/-- The first of some times. -/
def earliest? (times : List Binary64) : Option Binary64 :=
  match times with
  | [] => none
  | t :: more => some (more.foldl (fun a b => if b.lt a then b else a) t)

namespace TrialSetup

/-- What is due for the task of an index as it stands now. An answer is late where the time for a
request is over when it comes, unless it comes at once. -/
def alarm? (u : TrialSetup) (now : Binary64) (i : Nat) (t : LinkTask) : Option Alarm :=
  match t.stage with
  | .asking m =>
    let limit := now.add u.settings.timeout
    match u.behaviour t.check.url (t.calls - 1) m with
    | .never => some ⟨limit, .answer i .late⟩
    | .after delay a =>
      let time := later now delay
      let inTime := delay.le (.zero false) || time.lt limit
      some (if inTime then ⟨time, .answer i a⟩ else ⟨limit, .answer i .late⟩)
  | .resting delay => some ⟨later now delay, .wake i⟩
  | _ => none

/-- Whether the signal to stop is there. -/
def signalled (u : TrialSetup) (now : Binary64) : Bool :=
  match u.signal with
  | .given time => isDue now time
  | .already => true
  | _ => false

/-- Whether the signal is looked for. -/
def polls (u : TrialSetup) : Bool := u.signal ≠ .absent

end TrialSetup

/-- What is recorded when a task takes a step. -/
def entriesOf (now : Binary64) (before after : LinkTask) : List TrialEntry :=
  match after.stage with
  | .asking m => if before.calls < after.calls then [.request after.check.url m now] else []
  | .resting delay => [.rest after.check.url delay]
  | _ => []

/-- The task that an event is about. -/
def BatchEvent.task? : BatchEvent → Option Nat
  | .start i | .answer i _ | .resume i | .wake i => some i
  | .stop | .notice => none

namespace Trial

/-- The start of a trial. Without links it is over, and a signal that is there already stops it
before any request. -/
def start (u : TrialSetup) (urls : List String) : Trial :=
  let batch := Batch.ofUrls u.settings urls
  let stage : BatchStage :=
    if batch.tasks.isEmpty then .reported false
    else if u.signal = .already then .reported true
    else if u.settings.concurrency < 0 then .raised .slots
    else .running
  ⟨{ batch with stage := stage }, .zero false, batch.tasks.map fun _ => none,
    List.range batch.tasks.length, .zero false, []⟩

/-- The task that gets a turn when a slot is free again. -/
def nextToBegin? (b : Batch) (turns : List Nat) : Option Nat :=
  (List.range b.tasks.length).find? fun i =>
    !turns.contains i && (b.tasks[i]?.any fun t => t.stage = .queued)

/-- Whether a task can go on with an answer. -/
def hasAnswer (t : LinkTask) : Bool :=
  match t.stage with
  | .answered _ _ => true
  | _ => false

/-- The turns after an event that changes a batch: the task has had its turn, gets another where it
has an answer, and may leave its slot to a task that waits. -/
def turnsAfter (turns : List Nat) (before after : Batch) (e : BatchEvent) : List Nat :=
  match e.task? with
  | none => turns
  | some i =>
    let rest := if turns.head? = some i then turns.tail else turns
    let again := if after.tasks[i]?.any hasAnswer then [i] else []
    let waiting :=
      if after.slotsTaken < before.slotsTaken then (nextToBegin? after rest).toList else []
    rest ++ again ++ waiting

/-- The trial after an event of its batch, `none` where the event cannot happen. -/
def event? (u : TrialSetup) (r : Trial) (e : BatchEvent) : Option Trial :=
  (r.batch.step? u.settings e).map fun batch =>
    let turns := turnsAfter r.turns r.batch batch e
    match e.task? with
    | none =>
      { r with
        batch := batch
        turns := turns
        alarms := (r.alarms.zip batch.tasks).map fun (a, t) => if t.atRest then none else a }
    | some i =>
      match r.batch.tasks[i]?, batch.tasks[i]? with
      | some before, some after =>
        { r with
          batch := batch
          turns := turns
          alarms := r.alarms.set i (u.alarm? r.now i after)
          log := entriesOf r.now before after ++ r.log }
      | _, _ => { r with batch := batch, turns := turns }

/-- Where the task stands whose turn it is. -/
def turnStage? (r : Trial) : Option Stage := do
  let i ← r.turns.head?
  let t ← r.batch.tasks[i]?
  pure t.stage

/-- The first thing that is due. -/
def dueEvent? (r : Trial) : Option BatchEvent :=
  r.alarms.findSome? fun a =>
    match a with
    | some a => if isDue r.now a.time then some a.event else none
    | none => none

/-- Whether the batch is to be told to stop now. -/
def stopDue (u : TrialSetup) (r : Trial) : Bool :=
  (u.deadline.map fun d => isDue r.now d).getD false ||
    (u.polls && isDue r.now r.poll && u.signalled r.now)

/-- The events to try at the present moment, the first that can happen first. -/
def candidates (u : TrialSetup) (r : Trial) : List BatchEvent :=
  let begins := r.turnStage? = some .queued
  let turn := r.turns.head?.toList
  [BatchEvent.notice] ++ (if begins then turn.map .start else []) ++
    (if begins then [] else r.dueEvent?.toList ++ if r.stopDue u then [BatchEvent.stop] else []) ++
    (if begins then [] else turn.map .resume)

/-- Skips the looks for the signal before a time: gives the time to go to, and the next look. -/
def skipPolls : Nat → Binary64 → Binary64 → Binary64 × Binary64
  | 0, poll, time => (time, poll)
  | n + 1, poll, time =>
    if time.le poll then (time, poll)
    else if isDue poll time then (poll, poll)
    else skipPolls n (poll.add pollInterval) time

/-- A bound on the number of looks before a time. -/
def pollBound (poll time : Binary64) : Nat :=
  (time.truncate?.getD 0 - poll.truncate?.getD 0 + 2).toNat * 21

/-- The time that the clock goes to when nothing is left to do now. -/
def nextTime? (u : TrialSetup) (r : Trial) : Option Binary64 :=
  let alarms := r.alarms.filterMap fun a => a.map Alarm.time
  let limits := if r.batch.stage = .running then
      u.deadline.toList ++
        match u.signal with
        | .given time => if u.signalled r.now then [r.poll] else [time]
        | _ => []
    else []
  match earliest? (alarms ++ limits) with
  | some time => if time = .nan then none else some time
  | none => none

/-- The next move of a trial, `none` where nothing is ever going to happen. -/
def move? (u : TrialSetup) (r : Trial) : Option Trial :=
  match (r.candidates u).findSome? (r.event? u) with
  | some r' => some r'
  | none =>
    if r.batch.isOver then none
    else if !r.turns.isEmpty then some { r with turns := r.turns.tail }
    else if u.polls && isDue r.now r.poll then
      some { r with poll := r.now.add pollInterval }
    else
      (r.nextTime? u).map fun time =>
        if u.polls then
          let (now, poll) := skipPolls (pollBound r.poll time) r.poll time
          { r with now := now, poll := poll }
        else { r with now := time }

/-- Makes moves, at most a number of them. -/
def run (u : TrialSetup) : Nat → Trial → Trial
  | 0, r => r
  | n + 1, r =>
    match r.move? u with
    | none => r
    | some r' => run u n r'

/-- A number of moves that is enough for a trial. -/
def moveBound (u : TrialSetup) (links : Nat) : Nat :=
  16 * (links + 1) * (LinkTask.stepBound u.settings + 2)

/-- The end of the trial of some links. -/
def ofUrls (u : TrialSetup) (urls : List String) : Trial :=
  run u (moveBound u urls.length) (start u urls)

end Trial

/-- What a trial gives. -/
structure TrialOutcome where
  /-- The report on the links. -/
  report : LinkReport
  /-- What was recorded, in order. -/
  log : List TrialEntry
  /-- The time of the end. -/
  elapsed : Binary64

/-- Why a trial gives nothing. -/
inductive TrialFailure where
  /-- It broke down. -/
  | raised (e : Escape)
  /-- It waits for ever. -/
  | endless
  deriving DecidableEq

/-- Tries some links. -/
def TrialSetup.outcome (u : TrialSetup) (urls : List String) : Except TrialFailure TrialOutcome :=
  let r := Trial.ofUrls u urls
  match r.batch.stage with
  | .reported truncated => .ok ⟨⟨r.batch.checks, truncated⟩, r.log.reverse, r.now⟩
  | .raised e => .error (.raised e)
  | _ => .error .endless

end CheckDoc
