import CheckDoc.Config.Reader
import CheckDoc.Proofs.Outcome
import Mathlib.Tactic.SplitIfs

/-!
# What comes of a configuration

A text gives settings or a defect of the configuration, unless something goes wrong in it that is
not told of as a defect (`Settings.Escapes`): its data cannot be built, unknown keys have no row of
names, or a number cannot be brought to its type. Where any of this is in a text, no settings come
of it (`Settings.parse_cases`).
-/

namespace CheckDoc

/-- The times of settings for links. -/
def LinkSettings.times (l : LinkSettings) : List Binary64 :=
  [l.timeout, l.backoff] ++ l.deadline.toList

/-- The times are the time of a request, the wait, and the limit if there is one. -/
theorem LinkSettings.mem_times_iff {l : LinkSettings} {x : Binary64} :
    x ∈ l.times ↔ x = l.timeout ∨ x = l.backoff ∨ l.deadline = some x := by
  rw [times, List.mem_append, List.mem_cons, List.mem_singleton, Option.mem_toList,
    or_assoc]

namespace Settings

open Yaml (Data)

/-! ## What can go wrong -/

/-- The keys of the whole configuration. -/
def topKeys : List String :=
  ["strict", "rules", "env-identifiers", "target-types", "providers", "links"]

/-- The keys of the section on links. -/
def linkKeys : List String :=
  ["timeout", "retries", "backoff", "max-redirects", "concurrency", "deadline"]

/-- The times in the section on links. -/
def timeKeys : List String := ["deadline", "timeout", "backoff"]

/-- The counts in the section on links. -/
def countKeys : List String := ["retries", "max-redirects", "concurrency"]

/-- A key of a mapping that is none of the known texts. -/
structure IsUnknown (known : List String) (es : Entries) (k : Data) : Prop where
  /-- It is a key of the mapping. -/
  mem : k ∈ es.map (·.1)
  /-- It is not known. -/
  ne : ∀ name ∈ known, k ≠ .scalar (.str name)

/-- Unknown keys whose names cannot be sorted or put in a row. -/
inductive KeyFailure (known : List String) (es : Entries) : SettingsError → Prop
  /-- A key that is no text. -/
  | kind {k : Data} (hk : IsUnknown known es k) (htext : keyText? k = none) :
    KeyFailure known es (.keyType k.typeName)
  /-- Keys of two types. -/
  | order {k k' : Data} (hk : IsUnknown known es k) (hk' : IsUnknown known es k')
    (hne : k.typeName ≠ k'.typeName) : KeyFailure known es (.keyOrder k.typeName k'.typeName)
  /-- A date without a time, and one with a time. -/
  | date {kind : Yaml.MomentKind} {t t' : String} (hk : IsUnknown known es (.moment .date t))
    (hk' : IsUnknown known es (.moment kind t')) (hkind : kind ≠ .date) :
    KeyFailure known es .dateOrder
  /-- A time of no zone, and one of a zone. -/
  | zone {t t' : String} (hk : IsUnknown known es (.moment .local_ t))
    (hk' : IsUnknown known es (.moment .zoned t')) : KeyFailure known es .zoneOrder

/-- Numbers that are not too small and cannot be brought to their type. -/
inductive NumberFailure (ls : Entries) : SettingsError → Prop
  /-- A time that is too large for a floating point number. -/
  | range {key : String} {n : Int} (hkey : key ∈ timeKeys)
    (hentry : entry? ls key = some (.scalar (.int n))) (hleast : 0 ≤ n)
    (hrange : Binary64.ofInt? n = none) : NumberFailure ls .floatRange
  /-- A count that is infinite. -/
  | infinite {key : String} (hkey : key ∈ countKeys)
    (hentry : entry? ls key = some (.scalar (.float (.infinite false)))) :
    NumberFailure ls .infiniteCount
  /-- A count that is no number. -/
  | nan {key : String} (hkey : key ∈ countKeys)
    (hentry : entry? ls key = some (.scalar (.float .nan))) : NumberFailure ls .noCount

/-- The entries of the section on links. -/
def HasLinks (d : Data) (ls : Entries) : Prop :=
  ∃ es, d = .mapping es ∧ entry? es "links" = some (.mapping ls)

/-- What goes wrong in data without being a defect of the configuration. -/
inductive DataFailure (d : Data) : SettingsError → Prop
  /-- The unknown keys of the whole configuration. -/
  | keys {es : Entries} {e : SettingsError} (hes : d = .mapping es)
    (he : KeyFailure topKeys es e) : DataFailure d e
  /-- The unknown keys of the section on links. -/
  | linkKeys {ls : Entries} {e : SettingsError} (hls : HasLinks d ls)
    (he : KeyFailure linkKeys ls e) : DataFailure d e
  /-- A number of the section on links. -/
  | linkNumber {ls : Entries} {e : SettingsError} (hls : HasLinks d ls)
    (he : NumberFailure ls e) : DataFailure d e

/-- What goes wrong in a text without being a defect of the configuration. -/
inductive Escapes (text : String) : SettingsError → Prop
  /-- A scalar does not fit its tag. -/
  | build {e : Yaml.BuildError} (hdata : Yaml.readData text.toList = .error (.build e))
    (hfault : ∀ f, e ≠ .fault f) : Escapes text (.build (e.message text.toList) e)
  /-- A number in an escape or a version is out of range. -/
  | number {f : Yaml.Fault} {n : Yaml.NumberFault}
    (hdata : Yaml.readData text.toList = .error (.read (.fault f))) (hn : f.problem = .number n) :
    Escapes text (.number n)
  /-- The data of the text. -/
  | data {d : Data} {e : SettingsError} (hdata : Yaml.readData text.toList = .ok d)
    (he : DataFailure d e) : Escapes text e

/-- An error is a defect of the configuration. -/
def IsDefect (label : String) (e : SettingsError) : Prop := ∃ cause, e = .config label cause

/-! ## Keys -/

variable {known : List String} {es ls : Entries} {k : Data} {e : SettingsError} {label : String}

/-- Only a text is the same key as a text. -/
theorem sameKey_str_iff {name : String} :
    k.sameKey (.scalar (.str name)) = true ↔ k = .scalar (.str name) := by
  cases k with
  | scalar v => cases v <;> simp [Data.sameKey, Scalar.alike]
  | _ => simp [Data.sameKey]

/-- The unknown keys are those that are the same as no known one. -/
theorem mem_unknown_iff :
    k ∈ ((es.map (·.1)).filter fun k =>
        !(known.any fun name => k.sameKey (.scalar (.str name)))) ↔ IsUnknown known es k := by
  rw [List.mem_filter, Bool.not_eq_true', List.any_eq_false]
  simp only [sameKey_str_iff]
  exact ⟨fun h => ⟨h.1, h.2⟩, fun h => ⟨h.mem, h.ne⟩⟩

/-- Where names go missing from a row, some key is no text. -/
theorem exists_keyText?_eq_none {ks : List Data}
    (h : (ks.filterMap keyText?).length ≠ ks.length) : ∃ k ∈ ks, keyText? k = none := by
  rw [ne_eq, List.filterMap_length_eq_length] at h
  simpa using h

/-- The least of some keys is one of them. -/
theorem foldl_least_mem (first : Data) (more : List Data) :
    more.foldl (fun a b => if numberLt b a then b else a) first ∈ first :: more := by
  induction more generalizing first with
  | nil => exact List.mem_singleton_self first
  | cons k more ih =>
    rw [List.foldl_cons]
    have hmem := ih (if numberLt k first then k else first)
    split_ifs at hmem ⊢
    · exact List.mem_cons_of_mem first hmem
    · rcases List.mem_cons.1 hmem with heq | hmem
      · rw [heq]
        exact List.mem_cons_self
      · exact List.mem_cons_of_mem _ (List.mem_cons_of_mem _ hmem)

/-- The kinds of dates among some keys. -/
theorem exists_moment_of_mem {ks : List Data} {kind : Yaml.MomentKind}
    (h : kind ∈ ks.filterMap momentKind?) : ∃ t, Data.moment kind t ∈ ks := by
  obtain ⟨k, hk, hkind⟩ := List.mem_filterMap.1 h
  cases k with
  | moment kind' t =>
    obtain rfl := Option.some.inj hkind
    exact ⟨t, hk⟩
  | _ => cases hkind

/-- Dates among unknown keys have no order where some have no time, or some have a zone. -/
theorem meets_checkOrder {ks : List Data} (hks : ∀ k ∈ ks, IsUnknown known es k) :
    Meets (KeyFailure known es) (fun _ => True) (checkOrder (ks.filterMap momentKind?)) := by
  unfold checkOrder
  split_ifs with hdate hzone
  · rw [Bool.and_eq_true, List.contains_iff_mem, List.any_eq_true] at hdate
    obtain ⟨hdate, kind, hkind, hne⟩ := hdate
    obtain ⟨t, ht⟩ := exists_moment_of_mem hdate
    obtain ⟨t', ht'⟩ := exists_moment_of_mem hkind
    exact .error (.date (hks _ ht) (hks _ ht') (of_decide_eq_true hne))
  · rw [Bool.and_eq_true, List.contains_iff_mem, List.contains_iff_mem] at hzone
    obtain ⟨t, ht⟩ := exists_moment_of_mem hzone.1
    obtain ⟨t', ht'⟩ := exists_moment_of_mem hzone.2
    exact .error (.zone (hks _ ht) (hks _ ht'))
  · exact .ok trivial

/-- Texts are told by the name of their type. -/
theorem keyText?_eq_none_iff : keyText? k = none ↔ k.typeName ≠ "str" := by
  cases k with
  | scalar v => cases v <;> simp [keyText?, Data.typeName]
  | moment kind t => cases kind <;> simp [keyText?, Data.typeName]
  | _ => simp [keyText?, Data.typeName]

/-- A number or a truth value is no text. -/
theorem keyText?_of_isNumeric (h : isNumeric k = true) : keyText? k = none := by
  cases k with
  | scalar v => cases v <;> first | rfl | cases h
  | _ => cases h

/-- The unknown keys of a mapping are a defect, or they fail in a way of their own. -/
theorem meets_checkKeys (label : String) (s : Section) (known : List String) (es : Entries) :
    Meets (fun e => IsDefect label e ∨ KeyFailure known es e)
      (fun _ => ∀ k, ¬ IsUnknown known es k) (checkKeys label s known es) := by
  unfold checkKeys
  have hunknown : ∀ k, k ∈ ((es.map (·.1)).filter fun k =>
      !(known.any fun name => k.sameKey (.scalar (.str name)))) ↔ IsUnknown known es k :=
    fun k => mem_unknown_iff
  generalize ((es.map (·.1)).filter fun k =>
      !(known.any fun name => k.sameKey (.scalar (.str name)))) = unknown at hunknown ⊢
  dsimp only
  cases unknown with
  | nil => exact .ok fun k hk => nomatch (hunknown k).2 hk
  | cons first more =>
    dsimp only
    have hfirst := (hunknown first).1 List.mem_cons_self
    split_ifs with htexts hsingle hnumeric hmoments
    · exact .error (.inl ⟨_, rfl⟩)
    · -- The only unknown key is no text.
      obtain rfl := List.isEmpty_iff.1 hsingle
      obtain ⟨k, hk, htext⟩ := exists_keyText?_eq_none htexts
      obtain rfl := List.mem_singleton.1 hk
      exact .error (.inr (.kind hfirst htext))
    · -- Of numbers the least one is reported.
      have hleast := foldl_least_mem first more
      have hnumber := List.all_eq_true.1 hnumeric _ hleast
      exact .error (.inr (.kind ((hunknown _).1 hleast) (keyText?_of_isNumeric hnumber)))
    · -- Dates may have no order.
      have horder := meets_checkOrder fun k hk => (hunknown k).1 hk
      refine (horder.mono fun _ => .inr).bind fun _ _ => .error (.inr (.kind hfirst ?_))
      have hmoment := List.filterMap_length_eq_length.1 hmoments first List.mem_cons_self
      cases first with
      | moment kind t => rfl
      | _ => cases hmoment
    · split
      · -- Two keys of different types.
        rename_i other hother
        have hne := List.find?_some hother
        have hmem := (hunknown other).1
          (List.mem_cons_of_mem first (List.mem_of_find?_eq_some hother))
        exact .error (.inr (.order hmem hfirst (of_decide_eq_true hne)))
      · -- All keys have the type of the one that is no text.
        rename_i hnone
        obtain ⟨k, hk, htext⟩ := exists_keyText?_eq_none htexts
        have htype : k.typeName = first.typeName := by
          rcases List.mem_cons.1 hk with rfl | hk
          · rfl
          · simpa using List.find?_eq_none.1 hnone k hk
        rw [keyText?_eq_none_iff, htype, ← keyText?_eq_none_iff] at htext
        exact .error (.inr (.kind hfirst htext))

/-! ## Numbers -/

variable {α : Type} {p : SettingsError → Prop} {least : Nat} {key : String} {d : Data}

/-- A number that is not less than a natural number. -/
def AtLeast (least : Nat) : Scalar → Prop
  | .int n => (least : Int) ≤ n
  | .float x => x.ltInt least = false
  | _ => False

/-- A time is read from data. -/
inductive IsTime : Data → Binary64 → Prop
  /-- An integer, rounded. -/
  | int {n : Int} {x : Binary64} (hleast : 0 ≤ n) (hx : Binary64.ofInt? n = some x) :
    IsTime (.scalar (.int n)) x
  /-- A floating point number. -/
  | float {x : Binary64} (hleast : x.ltInt 0 = false) : IsTime (.scalar (.float x)) x

/-- A count of at least `least` is read from data. -/
inductive IsCount (least : Nat) : Data → Int → Prop
  /-- An integer. -/
  | int {n : Int} (hleast : least ≤ n) : IsCount least (.scalar (.int n)) n
  /-- A floating point number without its fraction. -/
  | float {x : Binary64} {n : Int} (hleast : x.ltInt least = false) (hn : x.truncate? = some n) :
    IsCount least (.scalar (.float x)) n

/-- A limit on the time is read from data. -/
inductive IsDeadline : Data → Option Binary64 → Prop
  /-- There is none. -/
  | null : IsDeadline .null none
  /-- There is one. -/
  | time {d : Data} {x : Binary64} (h : IsTime d x) : IsDeadline d (some x)

/-- A number that is read is the data itself, and not less than its least value. -/
theorem meets_number (label : String) (least : Nat) (key : String) (d : Data) :
    Meets (IsDefect label) (fun v => d = .scalar v ∧ AtLeast least v)
      (number label least key d) := by
  unfold number
  split
  · split_ifs with hlt
    · exact .error ⟨_, rfl⟩
    · exact .ok ⟨rfl, Int.not_lt.1 hlt⟩
  · split_ifs with hlt
    · exact .error ⟨_, rfl⟩
    · exact .ok ⟨rfl, Bool.eq_false_iff.2 hlt⟩
  · exact .error ⟨_, rfl⟩

/-- Reading a time. -/
theorem meets_time (label key : String) (d : Data) :
    Meets (fun e => IsDefect label e ∨
        e = .floatRange ∧ ∃ n, d = .scalar (.int n) ∧ 0 ≤ n ∧ Binary64.ofInt? n = none)
      (IsTime d) (time label key d) := by
  -- The rounding is a variable: its application would be evaluated, and with it `2 ^ 1074`.
  obtain ⟨round, hround⟩ : ∃ round, round = Binary64.ofInt? := ⟨_, rfl⟩
  unfold time
  rw [← hround]
  refine ((meets_number label 0 key d).mono fun _ => .inl).bind fun v hv => ?_
  obtain ⟨rfl, hleast⟩ := hv
  cases v with
  | int n =>
    dsimp only
    cases hx : round n with
    | none => exact .error (.inr ⟨rfl, n, rfl, hleast, hx⟩)
    | some x => exact .ok (.int hleast (hround ▸ hx))
  | float x =>
    rw [AtLeast, Int.natCast_zero] at hleast
    exact .ok (.float hleast)
  | _ => exact hleast.elim

/-- Reading a count. -/
theorem meets_count (label : String) (least : Nat) (key : String) (d : Data) :
    Meets (fun e => IsDefect label e ∨
        (e = .infiniteCount ∧ d = .scalar (.float (.infinite false))) ∨
        (e = .noCount ∧ d = .scalar (.float .nan)))
      (IsCount least d) (count label least key d) := by
  refine ((meets_number label least key d).mono fun _ => .inl).bind fun v hv => ?_
  obtain ⟨rfl, hleast⟩ := hv
  cases v with
  | int n => exact .ok (.int hleast)
  | float x =>
    cases x with
    | nan => exact .error (.inr (.inr ⟨rfl, rfl⟩))
    | infinite neg =>
      -- A negative infinity is less than any least value.
      cases neg with
      | true => cases hleast
      | false => exact .error (.inr (.inl ⟨rfl, rfl⟩))
    | finite neg place => exact .ok (.float hleast rfl)
  | _ => exact hleast.elim

/-- Reading the limit on the time. -/
theorem meets_deadline (label : String) (d : Data) :
    Meets (fun e => IsDefect label e ∨
        e = .floatRange ∧ ∃ n, d = .scalar (.int n) ∧ 0 ≤ n ∧ Binary64.ofInt? n = none)
      (IsDeadline d) (deadline label d) := by
  unfold deadline
  split
  · exact .ok .null
  · exact (meets_time label "deadline" _).map fun x hx => .time hx

/-! ## Sections -/

/-- An entry that may be missing is read: the default stands for a missing one. -/
inductive IsEntry (es : Entries) (key : String) (standard : α) (is : Data → α → Prop) : α → Prop
  /-- It is missing. -/
  | missing (h : entry? es key = none) : IsEntry es key standard is standard
  /-- It is set. -/
  | set {d : Data} {a : α} (h : entry? es key = some d) (ha : is d a) :
    IsEntry es key standard is a

/-- What is read of an entry that is set is read from its value. -/
theorem IsEntry.of_set {standard a : α} {is : Data → α → Prop} (h : IsEntry es key standard is a)
    (hd : entry? es key = some d) : is d a := by
  cases h with
  | missing hmissing =>
    rw [hmissing] at hd
    cases hd
  | set hset ha =>
    rw [hset] at hd
    exact Option.some.inj hd ▸ ha

/-- What holds of the default, and of what is read of a value that is set, holds of an entry. -/
theorem IsEntry.elim {standard a : α} {is : Data → α → Prop} {q : α → Prop}
    (h : IsEntry es key standard is a) (hstandard : q standard)
    (his : ∀ d, entry? es key = some d → is d a → q a) : q a := by
  cases h with
  | missing => exact hstandard
  | set hset ha => exact his _ hset ha

/-- Reading an entry that may be missing. -/
theorem meets_optional {is : Data → α → Prop} (es : Entries) (key : String) (standard : α)
    {read : Data → Read α} (hread : ∀ d, entry? es key = some d → Meets p (is d) (read d)) :
    Meets p (IsEntry es key standard is) (optional es key standard read) := by
  unfold optional
  cases hentry : entry? es key with
  | none => exact .ok (.missing hentry)
  | some d => exact (hread d hentry).weaken fun a ha => .set hentry ha

/-- Reading an entry of which nothing else is said. -/
theorem meets_optional_defect {read : Data → Read α} (es : Entries) (key : String) (standard : α)
    (hread : ∀ d, Meets (IsDefect label) (fun _ => True) (read d)) :
    Meets (IsDefect label) (fun _ => True) (optional es key standard read) :=
  (meets_optional es key standard fun d _ => hread d).weaken fun _ _ => trivial

/-- The settings for links are read from the entries of a section. -/
structure IsLinks (ls : Entries) (l : LinkSettings) : Prop where
  /-- No key is unknown. -/
  keys : ∀ k, ¬ IsUnknown linkKeys ls k
  /-- The limit on the time for all links. -/
  deadline : IsEntry ls "deadline" LinkSettings.standard.deadline IsDeadline l.deadline
  /-- The time of a request. -/
  timeout : IsEntry ls "timeout" LinkSettings.standard.timeout IsTime l.timeout
  /-- The number of further attempts. -/
  retries : IsEntry ls "retries" LinkSettings.standard.retries (IsCount 0) l.retries
  /-- The wait before the second attempt. -/
  backoff : IsEntry ls "backoff" LinkSettings.standard.backoff IsTime l.backoff
  /-- The number of redirects. -/
  maxRedirects :
    IsEntry ls "max-redirects" LinkSettings.standard.maxRedirects (IsCount 0) l.maxRedirects
  /-- The number of links that are tried at the same time. -/
  concurrency :
    IsEntry ls "concurrency" LinkSettings.standard.concurrency (IsCount 1) l.concurrency

/-- Some key is unknown where unknown keys fail. -/
theorem KeyFailure.exists_isUnknown (h : KeyFailure known es e) : ∃ k, IsUnknown known es k := by
  cases h with
  | kind hk | order hk | date hk | zone hk => exact ⟨_, hk⟩


/-- Reading the section on links. -/
theorem meets_readLinks (label : String) (d : Data) :
    Meets (fun e => IsDefect label e ∨
        ∃ ls, d = .mapping ls ∧ (KeyFailure linkKeys ls e ∨ NumberFailure ls e))
      (fun l => ∃ ls, d = .mapping ls ∧ IsLinks ls l) (readLinks label d) := by
  unfold readLinks
  split
  · rename_i ls
    -- A number fails in the entry that it stands in.
    have htime : ∀ key ∈ timeKeys, ∀ d, entry? ls key = some d → ∀ e, IsDefect label e ∨
        (e = .floatRange ∧ ∃ n, d = .scalar (.int n) ∧ 0 ≤ n ∧ Binary64.ofInt? n = none) →
        IsDefect label e ∨ NumberFailure ls e := by
      rintro key hkey d hentry e (hdefect | ⟨rfl, n, rfl, hleast, hrange⟩)
      · exact .inl hdefect
      · exact .inr (.range hkey hentry hleast hrange)
    have hcount : ∀ key ∈ countKeys, ∀ least d, entry? ls key = some d →
        Meets (fun e => IsDefect label e ∨ NumberFailure ls e) (IsCount least d)
          (count label least key d) := by
      intro key hkey least d hentry
      refine (meets_count label least key d).mono ?_
      rintro e (hdefect | ⟨rfl, rfl⟩ | ⟨rfl, rfl⟩)
      · exact .inl hdefect
      · exact .inr (.infinite hkey hentry)
      · exact .inr (.nan hkey hentry)
    refine Meets.bind ((meets_checkKeys label .links linkKeys ls).mono ?_) fun _ hkeys => ?_
    · rintro e (hdefect | hfailure)
      · exact .inl hdefect
      · exact .inr ⟨ls, rfl, .inl hfailure⟩
    have hnumbers : ∀ e, IsDefect label e ∨ NumberFailure ls e → IsDefect label e ∨
        ∃ ls', Data.mapping ls = .mapping ls' ∧
          (KeyFailure linkKeys ls' e ∨ NumberFailure ls' e) := by
      rintro e (hdefect | hfailure)
      · exact .inl hdefect
      · exact .inr ⟨ls, rfl, .inr hfailure⟩
    refine Meets.mono ?_ hnumbers
    refine (meets_optional ls "deadline" _ fun d hd => (meets_deadline label d).mono
      (htime _ (by decide) d hd)).bind fun limit hlimit => ?_
    refine (meets_optional ls "timeout" _ fun d hd => (meets_time label "timeout" d).mono
      (htime _ (by decide) d hd)).bind fun timeout htimeout => ?_
    refine (meets_optional ls "retries" _ (hcount _ (by decide) 0)).bind fun retries hretries => ?_
    refine (meets_optional ls "backoff" _ fun d hd => (meets_time label "backoff" d).mono
      (htime _ (by decide) d hd)).bind fun backoff hbackoff => ?_
    refine (meets_optional ls "max-redirects" _ (hcount _ (by decide) 0)).bind
      fun maxRedirects hmaxRedirects => ?_
    refine (meets_optional ls "concurrency" _ (hcount _ (by decide) 1)).bind
      fun concurrency hconcurrency => ?_
    exact .ok ⟨ls, rfl, hkeys, hlimit, htimeout, hretries, hbackoff, hmaxRedirects, hconcurrency⟩
  · exact .error (.inl ⟨_, rfl⟩)

/-- A time that is set, other than to null, is one of the times. -/
theorem IsLinks.exists_time {l : LinkSettings} (h : IsLinks ls l) (hkey : key ∈ timeKeys)
    (hentry : entry? ls key = some d) (hnull : d ≠ .null) : ∃ x ∈ l.times, IsTime d x := by
  rw [timeKeys, List.mem_cons, List.mem_cons, List.mem_singleton] at hkey
  obtain rfl | rfl | rfl := hkey
  · have hdeadline := h.deadline.of_set hentry
    generalize hlimit : l.deadline = limit at hdeadline
    cases hdeadline with
    | null => exact absurd rfl hnull
    | time htime => exact ⟨_, LinkSettings.mem_times_iff.2 (.inr (.inr hlimit)), htime⟩
  · exact ⟨_, LinkSettings.mem_times_iff.2 (.inl rfl), h.timeout.of_set hentry⟩
  · exact ⟨_, LinkSettings.mem_times_iff.2 (.inr (.inl rfl)), h.backoff.of_set hentry⟩

/-- A count that is set is read from its value. -/
theorem IsLinks.exists_count {l : LinkSettings} (h : IsLinks ls l) (hkey : key ∈ countKeys)
    (hentry : entry? ls key = some d) : ∃ least n, IsCount least d n := by
  rw [countKeys, List.mem_cons, List.mem_cons, List.mem_singleton] at hkey
  obtain rfl | rfl | rfl := hkey
  · exact ⟨_, _, h.retries.of_set hentry⟩
  · exact ⟨_, _, h.maxRedirects.of_set hentry⟩
  · exact ⟨_, _, h.concurrency.of_set hentry⟩

/-- Numbers that are read do not fail. -/
theorem IsLinks.not_numberFailure {l : LinkSettings} (h : IsLinks ls l) : ¬ NumberFailure ls e := by
  intro hfailure
  cases hfailure with
  | range hkey hentry _ hrange =>
    obtain ⟨x, -, hx⟩ := h.exists_time hkey hentry (fun hnull => nomatch hnull)
    cases hx with
    | int _ hround =>
      rw [hrange] at hround
      cases hround
  | infinite hkey hentry =>
    obtain ⟨least, n, hn⟩ := h.exists_count hkey hentry
    cases hn with
    | float _ htruncate => cases htruncate
  | nan hkey hentry =>
    obtain ⟨least, n, hn⟩ := h.exists_count hkey hentry
    cases hn with
    | float _ htruncate => cases htruncate

/-- Reading a list of texts. -/
theorem meets_strings (label : String) (s : Section) (key : String) (d : Data) :
    Meets (IsDefect label) (fun _ => True) (strings label s key d) := by
  unfold strings
  split
  · dsimp only
    split_ifs
    · exact .ok trivial
    · exact .error ⟨_, rfl⟩
  · exact .error ⟨_, rfl⟩

/-- Reading a truth value. -/
theorem meets_boolean (label key : String) (d : Data) :
    Meets (IsDefect label) (fun _ => True) (boolean label key d) := by
  unfold boolean
  split
  · exact .ok trivial
  · exact .error ⟨_, rfl⟩

/-- Reading the section on rules. -/
theorem meets_readRules (label : String) (d : Data) :
    Meets (IsDefect label) (fun _ => True) (readRules label d) := by
  unfold readRules
  split
  · rename_i es
    refine (meets_optional_defect es "include" none fun d =>
      (meets_strings label .rules "include" d).map fun _ _ => trivial).bind fun _ _ => ?_
    exact (meets_optional_defect es "exclude" [] (meets_strings label .rules "exclude")).bind
      fun _ _ => .ok trivial
  · exact .error ⟨_, rfl⟩

/-! ## The whole configuration -/

/-- Settings are read from data. -/
structure IsRead (d : Data) (st : Settings) : Prop where
  /-- No key is unknown. -/
  keys : ∀ es, d = .mapping es → ∀ k, ¬ IsUnknown topKeys es k
  /-- The section on links is read, or the default stands for a missing one. -/
  links : (∀ ls, ¬ HasLinks d ls) ∧ st.links = .standard ∨ ∃ ls, HasLinks d ls ∧ IsLinks ls st.links

/-- The section on links of a mapping. -/
theorem hasLinks_mapping_iff :
    HasLinks (.mapping es) ls ↔ entry? es "links" = some (.mapping ls) := by
  constructor
  · rintro ⟨es', hes, hentry⟩
    cases hes
    exact hentry
  · exact fun hentry => ⟨es, rfl, hentry⟩

/-- Data has one section on links. -/
theorem HasLinks.eq {ls' : Entries} (h : HasLinks d ls) (h' : HasLinks d ls') : ls = ls' := by
  obtain ⟨es, rfl, hes⟩ := h
  obtain ⟨es', heq, hes'⟩ := h'
  cases heq
  rw [hes, Option.some.injEq] at hes'
  exact Data.mapping.inj hes'

/-- The settings for links are read from the section on links. -/
theorem IsRead.isLinks {st : Settings} (h : IsRead d st) (hls : HasLinks d ls) :
    IsLinks ls st.links := by
  obtain ⟨hnone, -⟩ | ⟨ls', hls', hlinks⟩ := h.links
  · exact absurd hls (hnone ls)
  · rwa [hls.eq hls']

/-- Where settings are read, nothing goes wrong. -/
theorem IsRead.not_dataFailure {st : Settings} (h : IsRead d st) : ¬ DataFailure d e := by
  intro hfailure
  cases hfailure with
  | keys hes he =>
    obtain ⟨k, hk⟩ := he.exists_isUnknown
    exact h.keys _ hes k hk
  | linkKeys hls he =>
    obtain ⟨k, hk⟩ := he.exists_isUnknown
    exact (h.isLinks hls).keys k hk
  | linkNumber hls he => exact (h.isLinks hls).not_numberFailure he

/-- Reading a mapping, with what is told of its keys and of its section on links: all other failures
are defects. -/
theorem meets_ofData_mapping {q : Data → LinkSettings → Prop}
    (hdefect : ∀ e, IsDefect label e → p e)
    (hkeys : Meets p (fun _ => ∀ k, ¬ IsUnknown topKeys es k) (checkKeys label .top topKeys es))
    (hlinks : (∀ k, ¬ IsUnknown topKeys es k) → ∀ d, entry? es "links" = some d →
      Meets p (q d) (readLinks label d)) :
    Meets p (fun st => (∀ k, ¬ IsUnknown topKeys es k) ∧
        IsEntry es "links" LinkSettings.standard q st.links) (ofData label (.mapping es)) := by
  rw [ofData]
  refine Meets.bind hkeys fun _ hkeys => ?_
  refine ((meets_optional_defect es "rules" _ (meets_readRules label)).mono hdefect).bind
    fun filter _ => ?_
  refine ((meets_optional_defect es "env-identifiers" _ fun d =>
    (meets_strings label .top "env-identifiers" d).map fun _ _ => trivial).mono hdefect).bind
      fun env _ => ?_
  refine ((meets_optional_defect es "target-types" _
    (meets_strings label .top "target-types")).mono hdefect).bind fun targetTypes _ => ?_
  refine ((meets_optional_defect es "providers" _
    (meets_strings label .top "providers")).mono hdefect).bind fun providers _ => ?_
  refine ((meets_optional_defect es "strict" _ (meets_boolean label "strict")).mono hdefect).bind
    fun strict _ => ?_
  exact (meets_optional es "links" _ (hlinks hkeys)).bind fun links hlinks => .ok ⟨hkeys, hlinks⟩

/-- Reading the whole configuration. -/
theorem meets_ofData (label : String) (d : Data) :
    Meets (fun e => IsDefect label e ∨ DataFailure d e) (IsRead d) (ofData label d) := by
  cases d with
  | null =>
    refine .ok ⟨fun es hes => ?_, .inl ⟨?_, rfl⟩⟩
    · cases hes
    · rintro ls ⟨es, hes, -⟩
      cases hes
  | mapping es =>
    refine (meets_ofData_mapping (fun _ => .inl) ((meets_checkKeys label .top topKeys es).mono
      fun e => Or.imp id (.keys rfl)) fun _ d hd => (meets_readLinks label d).mono ?_).weaken ?_
    · rintro e (hdefect | ⟨ls, rfl, hkeys | hnumber⟩)
      · exact .inl hdefect
      · exact .inr (.linkKeys (hasLinks_mapping_iff.2 hd) hkeys)
      · exact .inr (.linkNumber (hasLinks_mapping_iff.2 hd) hnumber)
    · rintro st ⟨hkeys, hlinks⟩
      refine ⟨fun es' hes' => ?_, ?_⟩
      · cases hes'
        exact hkeys
      · generalize st.links = links at hlinks ⊢
        cases hlinks with
        | missing hmissing =>
          refine .inl ⟨fun ls hls => ?_, rfl⟩
          rw [hasLinks_mapping_iff, hmissing] at hls
          cases hls
        | set hset hlinks =>
          obtain ⟨ls, rfl, hlinks⟩ := hlinks
          exact .inr ⟨ls, hasLinks_mapping_iff.2 hset, hlinks⟩
  | _ => exact .error (.inl ⟨_, rfl⟩)

/-- Reading a configuration from a text. -/
theorem meets_parse (label text : String) :
    Meets (fun e => IsDefect label e ∨ Escapes text e)
      (fun st => ∃ d, Yaml.readData text.toList = .ok d ∧ IsRead d st) (parse label text) := by
  unfold parse
  split
  · rename_i d hdata
    refine ((meets_ofData label d).mono fun e => ?_).weaken fun st hst => ⟨d, hdata, hst⟩
    exact Or.imp id (.data hdata)
  · exact .error (.inl ⟨_, rfl⟩)
  · rename_i f hdata
    split
    · rename_i n hn
      exact .error (.inr (.number hdata hn))
    · exact .error (.inl ⟨_, rfl⟩)
  · exact .error (.inl ⟨_, rfl⟩)
  · rename_i e hfault hdata
    exact .error (.inr (.build hdata hfault))

/-- Settings that come of a text are read from its data. -/
theorem exists_isRead_of_parse {text : String} {st : Settings} (h : parse label text = .ok st) :
    ∃ d, Yaml.readData text.toList = .ok d ∧ IsRead d st :=
  (meets_parse label text).of_eq_ok h

/-- A text gives settings only where nothing goes wrong in it; otherwise it has a defect, or it
fails in one of the ways that are not told of as defects. -/
theorem parse_cases (label text : String) :
    (∃ st, parse label text = .ok st ∧ ∀ e, ¬ Escapes text e) ∨
      (∃ cause, parse label text = .error (.config label cause)) ∨
        ∃ e, Escapes text e ∧ parse label text = .error e := by
  have hmeets := meets_parse label text
  generalize hparse : parse label text = outcome at hmeets
  cases hmeets with
  | ok hread =>
    obtain ⟨d, hdata, hread⟩ := hread
    refine .inl ⟨_, rfl, fun e he => ?_⟩
    cases he with
    | build hfailed | number hfailed =>
      rw [hdata] at hfailed
      cases hfailed
    | data hdata' he =>
      rw [hdata, Except.ok.injEq] at hdata'
      exact hread.not_dataFailure (hdata' ▸ he)
  | error he =>
    obtain ⟨cause, rfl⟩ | hescapes := he
    · exact .inr (.inl ⟨cause, rfl⟩)
    · exact .inr (.inr ⟨_, hescapes, rfl⟩)

/-- Whether no settings are read although there is no defect of the configuration. -/
def breaksDown : Read Settings → Bool
  | .ok _ => false
  | .error (.config _ _) => false
  | .error _ => true

/-- Not every text gives settings or has a defect. -/
theorem not_parse_ok_or_config : ¬ ∀ label text : String, (∃ st, parse label text = .ok st) ∨
    ∃ cause, parse label text = .error (.config label cause) := by
  intro hall
  -- The only key of the configuration is a number, which has no place in a row of names.
  have hkey : breaksDown (parse "<string>" "1: 2") = true := by decide +kernel
  obtain ⟨st, hst⟩ | ⟨cause, hcause⟩ := hall "<string>" "1: 2"
  · rw [hst] at hkey
    cases hkey
  · rw [hcause] at hkey
    cases hkey

end Settings

end CheckDoc
