/-!
# The progress of a link

A link is tried until an attempt succeeds or no attempts are left. `LinkCheck.succeed` and
`LinkCheck.fail` record one attempt each, in place; a link that is resolved or has failed takes no
more.
-/

namespace CheckDoc

/-- How far a link has come. -/
inductive LinkState where
  /-- Not tried yet. -/
  | pending
  /-- Tried in vain, with attempts left. -/
  | retrying
  /-- Reached. -/
  | resolved
  /-- Tried in vain as often as allowed. -/
  | failed
  deriving DecidableEq

/-- The name of a state. -/
def LinkState.name : LinkState → String
  | .pending => "pending"
  | .retrying => "retrying"
  | .resolved => "resolved"
  | .failed => "failed"

/-- Whether a state is final. -/
def LinkState.done : LinkState → Bool
  | .resolved | .failed => true
  | _ => false

/-- The record of a link. -/
structure LinkCheck where
  /-- The link. -/
  url : String
  /-- The number of attempts that are allowed; the first one is always made. -/
  maxAttempts : Int
  /-- How far the link has come. -/
  state : LinkState
  /-- The number of attempts. -/
  attempts : Nat
  /-- The status that the last attempt was answered with. -/
  status : Option Int
  /-- Why the last attempt failed. -/
  reason : Option String
  deriving DecidableEq

/-- An attempt was recorded on a link that takes no more. -/
structure AlreadyFinished where
  /-- The link. -/
  url : String
  /-- How the link ended. -/
  state : LinkState
  deriving DecidableEq

/-- The wording of a refused attempt. -/
def AlreadyFinished.message (e : AlreadyFinished) : String :=
  "Link check for " ++ e.url ++ " already finished (" ++ e.state.name ++ ")"

namespace LinkCheck

/-- A link that has not been tried. -/
def fresh (url : String) (maxAttempts : Int) : LinkCheck :=
  ⟨url, maxAttempts, .pending, 0, none, none⟩

/-- Whether the link takes no more attempts. -/
def done (c : LinkCheck) : Bool := c.state.done

/-- Counts an attempt, in place, unless the link takes no more. -/
def beginAttempt : EStateM AlreadyFinished LinkCheck Unit := do
  let c ← get
  if c.done then throw ⟨c.url, c.state⟩
  set { c with attempts := c.attempts + 1 }

/-- Records an attempt that was answered well, in place. -/
def succeed (status : Int) : EStateM AlreadyFinished LinkCheck Unit := do
  beginAttempt
  modify fun c => { c with status := some status }
  modify fun c => { c with reason := none }
  modify fun c => { c with state := .resolved }

/-- Records an attempt in vain, in place. -/
def fail (reason : String) (status : Option Int) : EStateM AlreadyFinished LinkCheck Unit := do
  beginAttempt
  modify fun c => { c with status := status }
  modify fun c => { c with reason := some reason }
  modify fun c =>
    { c with state := if c.maxAttempts ≤ (c.attempts : Int) then .failed else .retrying }

end LinkCheck

end CheckDoc
