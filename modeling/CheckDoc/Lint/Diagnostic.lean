/-!
# Diagnostics

A diagnostic says what is wrong at a place of a Check, and which rule found it. A Check fails where
one of its diagnostics is an error. A report has one line for each diagnostic.
-/

namespace CheckDoc

/-- How serious a diagnostic is. -/
inductive Severity where
  /-- The Check fails. -/
  | error
  /-- The Check may pass all the same. -/
  | warning
  deriving DecidableEq

/-- The name of a severity. -/
def Severity.name : Severity → String
  | .error => "error"
  | .warning => "warning"

/-- What is wrong at a place of a Check. -/
structure Diagnostic where
  /-- The identifier of the Check. -/
  check : String
  /-- The place. -/
  path : String
  /-- The name of the rule. -/
  rule : String
  /-- How serious it is. -/
  severity : Severity
  /-- What is wrong. -/
  message : String
  deriving DecidableEq

/-- Whether a diagnostic is an error. -/
def Diagnostic.isError (d : Diagnostic) : Bool := d.severity = .error

/-- The line of a diagnostic in a report. -/
def Diagnostic.line (d : Diagnostic) : String :=
  let mark := match d.severity with
    | .error => ""
    | .warning => "warning: "
  d.check ++ "  - " ++ d.path ++ " - " ++ mark ++ d.message

/-- What comes out for a Check as a whole. -/
inductive Verdict where
  /-- No diagnostic is an error. -/
  | pass
  /-- Some diagnostic is an error. -/
  | fail
  deriving DecidableEq

/-- The name of a verdict. -/
def Verdict.name : Verdict → String
  | .pass => "pass"
  | .fail => "fail"

/-- The verdict on some diagnostics. -/
def Verdict.of (ds : List Diagnostic) : Verdict :=
  if ds.any Diagnostic.isError then .fail else .pass

end CheckDoc
