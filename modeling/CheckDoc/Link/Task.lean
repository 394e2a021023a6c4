import CheckDoc.Link.Probe

/-!
# The task of a link

A task takes one link through its attempts. An attempt asks for the status alone; where that is
rejected it asks for the content too. After an attempt in vain the task rests, and then makes the
next one. An answer has two steps: it comes, and the task goes on with it. In between a task can
still be told to stop.

`LinkTask.alone` is the course of a task that nothing stops.
-/

namespace CheckDoc

/-- Where a task stands. -/
inductive Stage where
  /-- It waits for its turn. -/
  | queued
  /-- A request is out. -/
  | asking (m : Method)
  /-- An answer has come. -/
  | answered (m : Method) (a : Answer)
  /-- It waits before the next attempt. -/
  | resting (delay : Binary64)
  /-- The link is finished. -/
  | ended
  /-- It was stopped. -/
  | stopped
  /-- It broke down. -/
  | broken (e : Escape)
  deriving DecidableEq

/-- The task of a link. -/
structure LinkTask where
  /-- The record of the link. -/
  check : LinkCheck
  /-- Where the task stands. -/
  stage : Stage
  /-- The number of requests that the probe has begun with. -/
  calls : Nat
  deriving DecidableEq

namespace LinkTask

/-- The task of a link that has not been tried. -/
def fresh (s : LinkSettings) (url : String) : LinkTask := ⟨.fresh url (s.retries + 1), .queued, 0⟩

/-- Whether a task has a slot: it has begun and goes on. -/
def holdsSlot (t : LinkTask) : Bool :=
  match t.stage with
  | .asking _ | .answered _ _ | .resting _ => true
  | _ => false

/-- Whether a task does nothing more. -/
def atRest (t : LinkTask) : Bool :=
  match t.stage with
  | .ended | .stopped | .broken _ => true
  | _ => false

/-- Issues a request. Without any time for it the request is late at once, before the probe begins
with it. -/
def ask (s : LinkSettings) (m : Method) (t : LinkTask) : LinkTask :=
  if s.timeout.le (.zero false) then { t with stage := .answered m .late }
  else { t with stage := .asking m, calls := t.calls + 1 }

/-- Begins, unless the link is finished already. -/
def begin (s : LinkSettings) (t : LinkTask) : LinkTask :=
  if t.check.done then { t with stage := .ended } else t.ask s .head

/-- Records an attempt and goes on: with a rest, unless the link is finished. -/
def conclude (s : LinkSettings) (t : LinkTask) (record : EStateM AlreadyFinished LinkCheck Unit) :
    LinkTask :=
  match record.run t.check with
  | .error e c => { t with check := c, stage := .broken (.finished e) }
  | .ok _ c =>
    if c.done then { t with check := c, stage := .ended }
    else
      match s.wait? c.attempts with
      | some delay => { t with check := c, stage := .resting delay }
      | none => { t with check := c, stage := .broken .waitRange }

/-- Goes on with the answer that has come. -/
def resume (s : LinkSettings) (m : Method) (a : Answer) (t : LinkTask) : LinkTask :=
  match a with
  | .status n =>
    if m = .head && headRejected n then t.ask s .get
    else if isSuccess n then t.conclude s (LinkCheck.succeed n)
    else t.conclude s (LinkCheck.fail ("HTTP status " ++ toString n) (some n))
  | .fault f => t.conclude s (LinkCheck.fail (f.reason s) none)
  | .late => t.conclude s (LinkCheck.fail (timeoutReason s) none)
  | .escape message => { t with stage := .broken (.probe message) }

/-- Stops. A request is given up; an answer that has come is still taken, unless the time for it
had passed, and then the task goes on to the end of its link. -/
def stop (t : LinkTask) : LinkTask :=
  match t.stage with
  | .queued | .asking _ | .answered _ .late | .resting _ => { t with stage := .stopped }
  | _ => t

/-- The next step of a task that nothing stops and whose requests have the given answers; `none`
where it is at rest. -/
def step? (s : LinkSettings) (answers : Nat → Method → Answer) (t : LinkTask) : Option LinkTask :=
  match t.stage with
  | .queued => some (t.begin s)
  | .asking m => some { t with stage := .answered m (answers (t.calls - 1) m) }
  | .answered m a => some (t.resume s m a)
  | .resting _ => some (t.ask s .head)
  | .ended | .stopped | .broken _ => none

/-- The course of a task that nothing stops, for a number of steps. -/
def alone (s : LinkSettings) (answers : Nat → Method → Answer) : Nat → LinkTask → LinkTask
  | 0, t => t
  | n + 1, t =>
    match t.step? s answers with
    | none => t
    | some t' => alone s answers n t'

/-- A number of steps that is enough for a task: an attempt has at most five. -/
def stepBound (s : LinkSettings) : Nat := 5 * (s.retries.toNat + 1) + 1

end LinkTask

end CheckDoc
