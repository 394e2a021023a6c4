import CheckDoc.Link.Task

/-!
# Batches of links

The links of a batch have one task each and share a number of slots. The events of a batch come in
any order that `Batch.step?` allows: a task takes a slot and begins, an answer comes, a task goes
on. From outside, the batch can be told to stop once, and the end of the tasks is noticed as an
event of its own. A batch that was told to stop still waits for the tasks that had an answer.
-/

namespace CheckDoc

/-- Where a batch stands. -/
inductive BatchStage where
  /-- The tasks are on their way. -/
  | running
  /-- The tasks were told to stop. -/
  | stopping
  /-- The batch is over. -/
  | reported (truncated : Bool)
  /-- The batch broke down. -/
  | raised (e : Escape)
  deriving DecidableEq

/-- A batch of links. -/
structure Batch where
  /-- The tasks in the order of the links. -/
  tasks : List LinkTask
  /-- Where the batch stands. -/
  stage : BatchStage
  deriving DecidableEq

/-- What happens in a batch. -/
inductive BatchEvent where
  /-- A task takes a slot and begins. -/
  | start (i : Nat)
  /-- An answer comes for a task. -/
  | answer (i : Nat) (a : Answer)
  /-- A task goes on with its answer. -/
  | resume (i : Nat)
  /-- The rest of a task is over. -/
  | wake (i : Nat)
  /-- The batch is told to stop. -/
  | stop
  /-- The end of the tasks is noticed. -/
  | notice
  deriving DecidableEq

/-- The outcome of a batch. -/
structure LinkReport where
  /-- The records of the links in order. -/
  checks : List LinkCheck
  /-- Whether the batch was told to stop. -/
  truncated : Bool
  deriving DecidableEq

namespace LinkReport

/-- The links that are unreachable. -/
def failed (r : LinkReport) : List LinkCheck := r.checks.filter fun c => c.state = .failed

/-- The links that were not tried to their end. -/
def unfinished (r : LinkReport) : List LinkCheck := r.checks.filter fun c => !c.done

end LinkReport

namespace Batch

/-- The batch of some links, where repetitions count once. -/
def ofUrls (s : LinkSettings) (urls : List String) : Batch :=
  ⟨urls.eraseDups.map (LinkTask.fresh s), .running⟩

/-- The records of the links. -/
def checks (b : Batch) : List LinkCheck := b.tasks.map (·.check)

/-- The number of slots that are taken. -/
def slotsTaken (b : Batch) : Nat := b.tasks.countP LinkTask.holdsSlot

/-- Whether a batch is over. -/
def isOver (b : Batch) : Bool :=
  match b.stage with
  | .reported _ | .raised _ => true
  | _ => false

/-- Replaces the task of an index by the outcome of a step that its stage may allow. -/
def advance (b : Batch) (i : Nat) (step : LinkTask → Option LinkTask) : Option Batch :=
  if b.isOver then none
  else
    (b.tasks[i]?.bind step).map fun t => { b with tasks := b.tasks.set i t }

/-- What the first broken task broke down with. -/
def firstBreak? (b : Batch) : Option Escape :=
  b.tasks.findSome? fun t =>
    match t.stage with
    | .broken e => some e
    | _ => none

/-- The batch after an event, `none` where the event cannot happen. -/
def step? (s : LinkSettings) (b : Batch) : BatchEvent → Option Batch
  | .start i =>
    if (b.slotsTaken : Int) < s.concurrency then
      b.advance i fun t => if t.stage = .queued then some (t.begin s) else none
    else none
  | .answer i a =>
    b.advance i fun t =>
      match t.stage with
      | .asking m => some { t with stage := .answered m a }
      | _ => none
  | .resume i =>
    b.advance i fun t =>
      match t.stage with
      | .answered m a => some (t.resume s m a)
      | _ => none
  | .wake i =>
    b.advance i fun t =>
      match t.stage with
      | .resting _ => some (t.ask s .head)
      | _ => none
  | .stop =>
    if b.stage = .running then some ⟨b.tasks.map LinkTask.stop, .stopping⟩ else none
  | .notice =>
    match b.stage with
    | .running =>
      match b.firstBreak? with
      | some e => some { b with stage := .raised e }
      | none =>
        if b.tasks.all LinkTask.atRest then some { b with stage := .reported false } else none
    | .stopping =>
      if b.tasks.all LinkTask.atRest then some { b with stage := .reported true } else none
    | _ => none

/-- The report of a batch that is over. -/
def report? (b : Batch) : Option LinkReport :=
  match b.stage with
  | .reported truncated => some ⟨b.checks, truncated⟩
  | _ => none

/-- The batches that can be reached from a batch. -/
inductive Reaches (s : LinkSettings) : Batch → Batch → Prop where
  /-- Without an event. -/
  | refl (b : Batch) : Reaches s b b
  /-- By one more event. -/
  | tail {b c d : Batch} (e : BatchEvent) : Reaches s b c → c.step? s e = some d → Reaches s b d

end Batch

end CheckDoc
