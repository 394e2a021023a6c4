import CheckDoc.Link.Extraction
import CheckDoc.Link.Trial
import CheckDoc.Lint.Finding

/-!
# The links of a Check

The links of a Check are those of its description and then those of its remediation. A link that
stands in both belongs to the description. Every unreachable link is a finding, and one more finding
says how many links were not tried to their end.
-/

namespace CheckDoc

/-- The links of a Check in order, without repetitions. -/
def Check.links (c : Check) : List String :=
  (Link.extract c.description ++ Link.extract c.remediation).eraseDups

/-- The field that a link of a Check belongs to. -/
def Check.linkField (c : Check) (url : String) : LinkField :=
  if (Link.extract c.description).contains url then .description else .remediation

/-- What a report on the links of a Check says. -/
def LinkReport.findings (c : Check) (r : LinkReport) : List Finding :=
  (r.failed.map fun l => .badLink (c.linkField l.url) l.url (l.reason.getD "")) ++
    if r.truncated then [.linksUnfinished r.unfinished.length r.checks.length] else []

/-- What a host adds to the settings when links are tried. -/
structure LinkHost where
  /-- How the probe behaves. -/
  behaviour : Behaviour
  /-- The time for all links, in place of that of the settings. -/
  deadline : Option Binary64
  /-- The signal to stop. -/
  signal : StopSignal

/-- What a trial depends on at a host. -/
def LinkHost.setup (h : LinkHost) (s : LinkSettings) : TrialSetup :=
  ⟨s, h.behaviour, h.deadline <|> s.deadline, h.signal⟩

/-- A host without a network: there is no connection. -/
def LinkHost.offline : LinkHost where
  behaviour := fun _ _ _ => .after (.zero false) (.fault (.connection "no network"))
  deadline := none
  signal := .absent

end CheckDoc
