import CheckDoc.Document.Names
import CheckDoc.Text.NameSet

/-!
# Settings

What a run can be configured with: whether reading is strict, which rules run, which names are
known, and how links are tried.
-/

namespace CheckDoc

/-- How links are tried. Times are in seconds. -/
structure LinkSettings where
  /-- The time that one request may take. -/
  timeout : Binary64
  /-- The number of attempts after the first. -/
  retries : Int
  /-- The wait before the second attempt; each further one waits twice as long. -/
  backoff : Binary64
  /-- The number of redirects that are followed. -/
  maxRedirects : Int
  /-- The number of links that are tried at the same time. -/
  concurrency : Int
  /-- The time for all links of a Check; `none` where there is no limit. -/
  deadline : Option Binary64
  deriving DecidableEq

/-- The default for links. -/
def LinkSettings.standard : LinkSettings where
  timeout := .ofNat 10
  retries := 2
  backoff := .ofRatio false 1 2
  maxRedirects := 5
  concurrency := 8
  deadline := some (.ofNat 60)

/-- Which rules run: the selected ones, or all where none are named, less the skipped ones. -/
structure RuleFilter where
  /-- The names of the rules to run; `none` selects all. -/
  selected : Option (List String)
  /-- The names of the rules to skip. -/
  skipped : List String
  deriving DecidableEq

/-- The filter that lets all rules run. -/
def RuleFilter.all : RuleFilter := ⟨none, []⟩

/-- The configuration of a run. -/
structure Settings where
  /-- Whether unknown keys of a Check are refused. -/
  strict : Bool
  /-- The rules that run when nothing else is asked for. -/
  rules : RuleFilter
  /-- The identifiers of the environment. -/
  env : List String
  /-- The known kinds of targets. -/
  targetTypes : List String
  /-- The known providers. -/
  providers : List String
  /-- How links are tried. -/
  links : LinkSettings
  deriving DecidableEq

/-- The default settings. -/
def Settings.standard : Settings where
  strict := true
  rules := .all
  env := nameSet defaultEnv
  targetTypes := nameSet ["cluster", "host"]
  providers := nameSet ["aws", "azure", "gcp", "kvm", "vmware", "nutanix", "default"]
  links := .standard

end CheckDoc
