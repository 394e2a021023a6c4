import CheckDoc.Config.Basic
import CheckDoc.Link.Progress

/-!
# Requests and their answers

A probe issues one request for a link. It answers with a status or with a fault; it may also answer
too late, or fail in a way that no attempt accounts for.
-/

namespace CheckDoc

/-- The methods of requests. -/
inductive Method where
  /-- For the status alone. -/
  | head
  /-- For the content too. -/
  | get
  deriving DecidableEq

/-- The name of a method. -/
def Method.name : Method → String
  | .head => "HEAD"
  | .get => "GET"

/-- Why a request has no status. -/
inductive ProbeFault where
  /-- The transport gave up waiting. -/
  | timedOut
  /-- The redirects did not end. -/
  | redirects
  /-- There was no connection. -/
  | connection (message : String)
  /-- The link is malformed. -/
  | malformed (message : String)
  /-- Some other fault, of a kind that stands in for a missing message. -/
  | other (kind message : String)
  deriving DecidableEq

/-- What ends the trial of links as a whole. -/
inductive Escape where
  /-- The probe broke down. -/
  | probe (message : String)
  /-- The wait before an attempt is too long to be counted. -/
  | waitRange
  /-- An attempt was recorded on a link that takes no more. -/
  | finished (e : AlreadyFinished)
  /-- The number of links to try at the same time is negative. -/
  | slots
  deriving DecidableEq

/-- The wording of what ends a trial. -/
def Escape.message : Escape → String
  | .probe message => message
  | .waitRange => "int too large to convert to float"
  | .finished e => e.message
  | .slots => "Semaphore initial value must be >= 0"

/-- What an attempt learns from a request. -/
inductive Answer where
  /-- A status. -/
  | status (n : Int)
  /-- A fault. -/
  | fault (f : ProbeFault)
  /-- No answer within the time of a request. -/
  | late
  /-- The probe broke down. -/
  | escape (message : String)
  deriving DecidableEq

/-- What a probe does with a request. -/
inductive Reply where
  /-- It answers after some seconds. -/
  | after (delay : Binary64) (answer : Answer)
  /-- It never answers. -/
  | never

/-- How a probe behaves: the reply to a request depends on the link, on the number of earlier
requests for it, and on the method. -/
abbrev Behaviour := String → Nat → Method → Reply

/-- The statuses that reject a request without content. -/
def headRejected (status : Int) : Bool := status = 405 || status = 501

/-- Whether a status is a success. -/
def isSuccess (status : Int) : Bool := 200 ≤ status && status < 400

/-- The reason of a request that took too long. -/
def timeoutReason (s : LinkSettings) : String := "timed out after " ++ s.timeout.general ++ "s"

/-- The reason of a fault. -/
def ProbeFault.reason (s : LinkSettings) : ProbeFault → String
  | .timedOut => timeoutReason s
  | .redirects => "more than " ++ toString s.maxRedirects ++ " redirects"
  | .connection message => "connection failed: " ++ message
  | .malformed message => "invalid URL: " ++ message
  | .other kind message => if message = "" then kind else message

/-- The wait after a number of attempts: it doubles with each of them. -/
def LinkSettings.wait? (s : LinkSettings) (attempts : Nat) : Option Binary64 :=
  (Binary64.ofInt? (Nat.pow 2 (attempts - 1))).map s.backoff.mul

end CheckDoc
