import CheckDoc.Config.Basic
import CheckDoc.Yaml.Data

/-!
# Reading settings

Settings are read from a YAML mapping, and what it does not set keeps its default. The unknown keys
are reported first and together. A number is checked against its least value and then brought to
its type: a time becomes a floating point number, a count loses its fraction, and either may fail
where the number is too large, infinite or none.
-/

namespace CheckDoc

open Yaml (Data DataError)

/-- The section of the settings that an entry stands in. -/
inductive Section where
  /-- The whole mapping. -/
  | top
  /-- The section on rules. -/
  | rules
  /-- The section on links. -/
  | links
  deriving DecidableEq

/-- What is reported as a defect of the configuration. -/
inductive ConfigCause where
  /-- The text is not YAML. -/
  | notYaml (report : String)
  /-- The text holds no mapping. -/
  | notMapping
  /-- Keys that mean nothing. -/
  | unknownKeys (s : Section) (keys : List String)
  /-- A section is no mapping. -/
  | sectionKind (s : Section)
  /-- An entry is no list of texts. -/
  | notStrings (s : Section) (key : String)
  /-- An entry is no truth value. -/
  | notBoolean (key : String)
  /-- An entry is no number. -/
  | notNumber (key : String)
  /-- A number is too small. -/
  | tooSmall (key : String) (least : Nat)

/-- Why no settings are read. -/
inductive SettingsError where
  /-- The configuration, which is named by a label, has a defect. -/
  | config (label : String) (cause : ConfigCause)
  /-- An unknown key is no text, but of the named type. -/
  | keyType (found : String)
  /-- Two unknown keys have no order. -/
  | keyOrder (left right : String)
  /-- Unknown keys are dates, not all of which have a time. -/
  | dateOrder
  /-- Unknown keys are times, not all of which have a zone. -/
  | zoneOrder
  /-- A number is too large for a floating point number. -/
  | floatRange
  /-- A count is infinite. -/
  | infiniteCount
  /-- A count is no number. -/
  | noCount
  /-- A scalar does not fit its tag. -/
  | build (report : String) (e : Yaml.BuildError)
  /-- A number in the text, in an escape or a version, is out of range. -/
  | number (f : Yaml.NumberFault)

/-- The label of a section. -/
def Section.label (label : String) : Section → String
  | .top => label
  | .rules => label ++ ": rules"
  | .links => label ++ ": links"

/-- The wording of a defect of the configuration `label`. -/
def ConfigCause.message (label : String) : ConfigCause → String
  | .notYaml report => "Invalid YAML in " ++ label ++ ": " ++ report
  | .notMapping => label ++ ": configuration must be a YAML mapping"
  | .unknownKeys .top keys => label ++ ": unknown configuration key(s): " ++ ", ".intercalate keys
  | .unknownKeys s keys => s.label label ++ ": unknown key(s): " ++ ", ".intercalate keys
  | .sectionKind .links => label ++ ": links must be a YAML mapping"
  | .sectionKind _ => label ++ ": 'rules' must be a mapping"
  | .notStrings s key => s.label label ++ ": '" ++ key ++ "' must be a list of strings"
  | .notBoolean key => label ++ ": '" ++ key ++ "' must be a boolean"
  | .notNumber key => Section.links.label label ++ ": '" ++ key ++ "' must be a number"
  | .tooSmall key least =>
    Section.links.label label ++ ": '" ++ key ++ "' must be at least " ++ toString least

/-- The report of an error. -/
def SettingsError.message : SettingsError → String
  | .config label cause => cause.message label
  | .keyType found => "sequence item 0: expected str instance, " ++ found ++ " found"
  | .keyOrder left right =>
    "'<' not supported between instances of '" ++ left ++ "' and '" ++ right ++ "'"
  | .dateOrder => "can't compare datetime.datetime to datetime.date"
  | .zoneOrder => "can't compare offset-naive and offset-aware datetimes"
  | .floatRange => "int too large to convert to float"
  | .infiniteCount => "cannot convert float infinity to integer"
  | .noCount => "cannot convert float NaN to integer"
  | .build report _ => report
  | .number f => f.message

namespace Settings

/-- The entries of a mapping. -/
abbrev Entries := List (Data × Data)

/-- What is read of a configuration. -/
abbrev Read (α : Type) := Except SettingsError α

/-- The value of an entry. -/
def entry? (entries : Entries) (key : String) : Option Data :=
  (entries.find? fun e => e.1.sameKey (.scalar (.str key))).map (·.2)

/-- The text of a key. -/
def keyText? : Data → Option String
  | .scalar (.str s) => some s
  | _ => none

/-- Whether data is a number or a truth value. -/
def isNumeric : Data → Bool
  | .scalar (.int _) | .scalar (.float _) | .scalar (.bool _) => true
  | _ => false

/-- The kind of a date. -/
def momentKind? : Data → Option Yaml.MomentKind
  | .moment kind _ => some kind
  | _ => none

/-- Fails where dates have no order. -/
def checkOrder (kinds : List Yaml.MomentKind) : Read Unit :=
  if kinds.contains .date && kinds.any (· ≠ .date) then .error .dateOrder
  else if kinds.contains .local_ && kinds.contains .zoned then .error .zoneOrder
  else .ok ()

/-- Whether one number is less than another. -/
def numberLt : Data → Data → Bool
  | .scalar (.float x), .scalar (.float y) => x.lt y
  | .scalar (.float x), .scalar (.int n) => x.ltInt n
  | .scalar (.float x), .scalar (.bool b) => x.ltInt b.toInt
  | .scalar (.int n), .scalar (.float x) => Binary64.intLt n x
  | .scalar (.bool b), .scalar (.float x) => Binary64.intLt b.toInt x
  | .scalar (.int m), .scalar (.int n) => decide (m < n)
  | .scalar (.int m), .scalar (.bool b) => decide (m < b.toInt)
  | .scalar (.bool b), .scalar (.int n) => decide (b.toInt < n)
  | .scalar (.bool b), .scalar (.bool c) => decide (b.toInt < c.toInt)
  | _, _ => false

/-- Fails where a mapping has unknown keys. -/
def checkKeys (label : String) (s : Section) (known : List String) (entries : Entries) :
    Read Unit :=
  let unknown := (entries.map (·.1)).filter fun k =>
    !(known.any fun name => k.sameKey (.scalar (.str name)))
  let names := unknown.filterMap keyText?
  match unknown with
  | [] => .ok ()
  | first :: more =>
    if names.length = unknown.length then
      .error (.config label (.unknownKeys s (nameSet names)))
    else if more.isEmpty then .error (.keyType first.typeName)
    else if unknown.all isNumeric then
      let least := more.foldl (fun a b => if numberLt b a then b else a) first
      .error (.keyType least.typeName)
    else
      let kinds := unknown.filterMap momentKind?
      if kinds.length = unknown.length then do
        checkOrder kinds
        throw (.keyType first.typeName)
      else
        match more.find? fun k => k.typeName ≠ first.typeName with
        | some other => .error (.keyOrder other.typeName first.typeName)
        | none => .error (.keyType first.typeName)

/-- The texts of a list. -/
def strings (label : String) (s : Section) (key : String) (d : Data) : Read (List String) :=
  match d with
  | .list items =>
    let names := items.filterMap keyText?
    if names.length = items.length then .ok (nameSet names)
    else .error (.config label (.notStrings s key))
  | _ => .error (.config label (.notStrings s key))

/-- Reads an entry that may be missing. -/
def optional {α : Type} (entries : Entries) (key : String) (standard : α)
    (read : Data → Read α) : Read α :=
  match entry? entries key with
  | none => .ok standard
  | some d => read d

/-- A number that is at least `least`. A number that is none passes. -/
def number (label : String) (least : Nat) (key : String) (d : Data) : Read Scalar :=
  match d with
  | .scalar (.int n) =>
    if n < least then .error (.config label (.tooSmall key least)) else .ok (.int n)
  | .scalar (.float x) =>
    if x.ltInt least then .error (.config label (.tooSmall key least)) else .ok (.float x)
  | _ => .error (.config label (.notNumber key))

/-- A time in seconds. -/
def time (label : String) (key : String) (d : Data) : Read Binary64 := do
  match ← number label 0 key d with
  | .int n =>
    match Binary64.ofInt? n with
    | some x => pure x
    | none => throw .floatRange
  | .float x => pure x
  | _ => throw (.config label (.notNumber key))

/-- A count. -/
def count (label : String) (least : Nat) (key : String) (d : Data) : Read Int := do
  match ← number label least key d with
  | .int n => pure n
  | .float x =>
    match x.truncate? with
    | some n => pure n
    | none => throw (if x.isInfinite then .infiniteCount else .noCount)
  | _ => throw (.config label (.notNumber key))

/-- The limit on the time for all links, which null takes away. -/
def deadline (label : String) (d : Data) : Read (Option Binary64) :=
  match d with
  | .null => .ok none
  | d => some <$> time label "deadline" d

/-- Reads the section on links. -/
def readLinks (label : String) (d : Data) : Read LinkSettings := do
  let .mapping es := d | throw (.config label (.sectionKind .links))
  checkKeys label .links
    ["timeout", "retries", "backoff", "max-redirects", "concurrency", "deadline"] es
  let standard := LinkSettings.standard
  let limit ← optional es "deadline" standard.deadline (deadline label)
  let timeout ← optional es "timeout" standard.timeout (time label "timeout")
  let retries ← optional es "retries" standard.retries (count label 0 "retries")
  let backoff ← optional es "backoff" standard.backoff (time label "backoff")
  let maxRedirects ←
    optional es "max-redirects" standard.maxRedirects (count label 0 "max-redirects")
  let concurrency ← optional es "concurrency" standard.concurrency (count label 1 "concurrency")
  pure ⟨timeout, retries, backoff, maxRedirects, concurrency, limit⟩

/-- Reads the section on rules; its other keys mean nothing. -/
def readRules (label : String) (d : Data) : Read RuleFilter := do
  let .mapping es := d | throw (.config label (.sectionKind .rules))
  let selected ← optional es "include" none fun d => some <$> strings label .rules "include" d
  let skipped ← optional es "exclude" [] (strings label .rules "exclude")
  pure ⟨selected, skipped⟩

/-- Reads a truth value. -/
def boolean (label : String) (key : String) (d : Data) : Read Bool :=
  match d with
  | .scalar (.bool b) => .ok b
  | _ => .error (.config label (.notBoolean key))

/-- Reads settings from data; nothing gives the default settings. -/
def ofData (label : String) (d : Data) : Read Settings :=
  match d with
  | .null => .ok .standard
  | .mapping es => do
    checkKeys label .top
      ["strict", "rules", "env-identifiers", "target-types", "providers", "links"] es
    let standard := Settings.standard
    let filter ← optional es "rules" standard.rules (readRules label)
    let env ← optional es "env-identifiers" standard.env fun d =>
      (fun names => nameSet (standard.env ++ names)) <$> strings label .top "env-identifiers" d
    let targetTypes ←
      optional es "target-types" standard.targetTypes (strings label .top "target-types")
    let providers ← optional es "providers" standard.providers (strings label .top "providers")
    let strict ← optional es "strict" standard.strict (boolean label "strict")
    let links ← optional es "links" standard.links (readLinks label)
    pure ⟨strict, filter, env, targetTypes, providers, links⟩
  | _ => .error (.config label .notMapping)

/-- Reads settings from a text that is named by a label. -/
def parse (label text : String) : Read Settings :=
  match Yaml.readData text.toList with
  | .ok d => ofData label d
  | .error (.read (.character c index)) =>
    .error (.config label (.notYaml (Yaml.unacceptableReport c index)))
  | .error (.read (.fault f)) =>
    match f.problem with
    | .number n => .error (.number n)
    | _ => .error (.config label (.notYaml (f.report text.toList)))
  | .error (.build (.fault f)) => .error (.config label (.notYaml (f.report text.toList)))
  | .error (.build e) => .error (.build (e.message text.toList) e)

end Settings

end CheckDoc
