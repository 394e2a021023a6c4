import CheckDoc.Proofs.Config.Reading
import Mathlib.Tactic.ByContra

/-!
# The keys of a configuration

An entry of a configuration is ignored where the same comes of the configuration whatever value
stands there (`Settings.Ignores`). The keys of the whole configuration and those of its section on
links are checked, so that no settings are read where one of them is unknown; and each known key is
read, since a text in its place can be what nothing is read from. The keys of the section on rules
are not checked. So of a configuration from which settings are read exactly those entries are
ignored that stand in the section on rules under an unknown key (`Settings.keys_of_parse`).
-/

namespace CheckDoc

/-- The key of a section in the whole configuration. -/
def Section.key? : Section → Option String
  | .top => none
  | .rules => some "rules"
  | .links => some "links"

/-- The keys of a section that mean something. -/
def Section.keys : Section → List String
  | .top => Settings.topKeys
  | .rules => ["include", "exclude"]
  | .links => Settings.linkKeys

namespace Settings

open Yaml (Data)

/-- The entries of a section. -/
def sectionOf? (s : Section) (d : Data) : Option Entries :=
  match d, s.key? with
  | .mapping es, none => some es
  | .mapping es, some key =>
    match entry? es key with
    | some (.mapping ss) => some ss
    | _ => none
  | _, _ => none

/-- A configuration with the value `v` under the key `k` of a section. -/
def withValue (s : Section) (k v : Data) (d : Data) : Data :=
  match d, s.key? with
  | .mapping es, none => .mapping (Data.put es k v)
  | .mapping es, some key =>
    match entry? es key with
    | some (.mapping ss) => .mapping (Data.put es (.scalar (.str key)) (.mapping (Data.put ss k v)))
    | _ => d
  | d, _ => d

/-- What stands under a key of a section makes no difference. -/
def Ignores (label : String) (d : Data) (s : Section) (k : Data) : Prop :=
  ∀ v, ofData label (withValue s k v d) = ofData label d

/-- Of the sections whose keys are checked, all unknown keys are texts. -/
def UnknownAreTexts (d : Data) : Prop :=
  ∀ s, s ≠ .rules → ∀ es, sectionOf? s d = some es → ∀ k, IsUnknown s.keys es k →
    ∃ name, k = .scalar (.str name)

variable {label name : String} {d k v : Data} {s : Section} {es ss : Entries} {known : List String}
  {e : SettingsError} {st : Settings}

/-! ## Entries -/

/-- A key with a text is that text. -/
theorem eq_of_keyText? (h : keyText? k = some name) : k = .scalar (.str name) := by
  cases k with
  | scalar v =>
    cases v with
    | str text =>
      obtain rfl := Option.some.inj h
      rfl
    | _ => cases h
  | _ => cases h

/-- The same key as a text is that text only. -/
theorem str_sameKey_iff : (Data.scalar (.str name)).sameKey k = true ↔ k = .scalar (.str name) := by
  cases k with
  | scalar v => cases v <;> simp [Data.sameKey, Scalar.alike, eq_comm]
  | _ => simp [Data.sameKey]

/-- Where values are replaced, entries are found under the same keys as before. -/
theorem find?_map_value (es : Entries) (k v : Data) (p : Data → Bool) :
    ((es.map fun e => if e.1.sameKey k then (e.1, v) else e).find? fun e => p e.1) =
      (es.find? fun e => p e.1).map fun e => if e.1.sameKey k then (e.1, v) else e := by
  have hkey : ((fun e => p e.1) ∘ fun e : Data × Data => if e.1.sameKey k then (e.1, v) else e) =
      fun e => p e.1 := by
    funext e
    simp only [Function.comp]
    split_ifs <;> rfl
  rw [List.find?_map, hkey]

/-- What is put under a text is found there. -/
theorem entry?_put_self (es : Entries) (name : String) (v : Data) :
    entry? (Data.put es (.scalar (.str name)) v) name = some v := by
  unfold entry? Data.put
  split_ifs with hany
  · -- The value under the key is replaced.
    obtain ⟨e, he⟩ := Option.isSome_iff_exists.1 (List.find?_isSome.2 (List.any_eq_true.1 hany))
    have hkey := List.find?_some he
    rw [find?_map_value es _ v fun k => k.sameKey (.scalar (.str name)), he, Option.map_some,
      if_pos hkey]
    rfl
  · -- The key is new and comes last.
    have hnone : (es.find? fun e => e.1.sameKey (.scalar (.str name))) = none :=
      List.find?_eq_none.2 fun e he hkey => hany (List.any_eq_true.2 ⟨e, he, hkey⟩)
    rw [List.find?_append, hnone, List.find?_singleton, if_pos (sameKey_str_iff.2 rfl)]
    rfl

/-- What is put under a key is not found under another text. -/
theorem entry?_put_of_ne (es : Entries) (v : Data) (hne : k ≠ .scalar (.str name)) :
    entry? (Data.put es k v) name = entry? es name := by
  unfold entry? Data.put
  split_ifs with hany
  · rw [find?_map_value es k v fun k => k.sameKey (.scalar (.str name)), Option.map_map]
    refine Option.map_congr fun e he => ?_
    have hsame := List.find?_some he
    have hkey : e.1 = .scalar (.str name) := sameKey_str_iff.1 hsame
    have hnot : ¬ e.1.sameKey k = true := fun hsame => hne (str_sameKey_iff.1 (hkey ▸ hsame))
    rw [Function.comp, if_neg hnot]
  · have hnot : ¬ k.sameKey (.scalar (.str name)) = true := fun hsame => hne (sameKey_str_iff.1 hsame)
    rw [List.find?_append, List.find?_singleton, if_neg hnot, Option.or_none]

/-- What is put under a text that is a key leaves the keys. -/
theorem map_fst_put (h : entry? es name = some d) (v : Data) :
    (Data.put es (.scalar (.str name)) v).map (·.1) = es.map (·.1) := by
  obtain ⟨e, he, -⟩ := Option.map_eq_some_iff.1 h
  have hany : (es.any fun e => e.1.sameKey (.scalar (.str name))) = true :=
    List.any_eq_true.2 (List.find?_isSome.1 (Option.isSome_of_mem he))
  rw [Data.put, if_pos hany, List.map_map]
  refine List.map_congr_left fun e _ => ?_
  simp only [Function.comp]
  split_ifs <;> rfl

/-! ## Sections -/

/-- The whole configuration is its own section. -/
theorem sectionOf?_top_iff : sectionOf? .top d = some es ↔ d = .mapping es := by
  cases d <;> simp [sectionOf?, Section.key?]

/-- Any other section is a mapping under its key. -/
theorem sectionOf?_inner_iff {key : String} (hs : s.key? = some key) :
    sectionOf? s d = some ss ↔
      ∃ es, d = .mapping es ∧ entry? es key = some (.mapping ss) := by
  cases d with
  | mapping es =>
    simp only [sectionOf?, hs, Data.mapping.injEq]
    constructor
    · intro h
      split at h
      · rename_i found hentry
        obtain rfl := Option.some.inj h
        exact ⟨es, rfl, hentry⟩
      · cases h
    · rintro ⟨_, rfl, hentry⟩
      rw [hentry]
  | _ => simp [sectionOf?]

/-- A value that is put into a section stands there. -/
theorem sectionOf?_withValue (h : sectionOf? s d = some es) (k v : Data) :
    sectionOf? s (withValue s k v d) = some (Data.put es k v) := by
  cases hs : s.key? with
  | none =>
    cases s <;> cases hs
    obtain rfl := sectionOf?_top_iff.1 h
    rfl
  | some key =>
    obtain ⟨outer, rfl, hentry⟩ := (sectionOf?_inner_iff hs).1 h
    have hvalue : withValue s k v (.mapping outer) =
        .mapping (Data.put outer (.scalar (.str key)) (.mapping (Data.put es k v))) := by
      simp only [withValue, hs, hentry]
    exact (sectionOf?_inner_iff hs).2 ⟨_, hvalue, entry?_put_self ..⟩

/-! ## Known keys are read -/

/-- Where an entry is read that is set, its value is read. -/
theorem read_of_optional {α : Type} {standard a : α} {read : Data → Read α}
    (h : optional es name standard read = .ok a) (hd : entry? es name = some d) :
    read d = .ok a := by
  rwa [optional, hd] at h

/-- Where settings are read, those for links are read from their section. -/
theorem isLinks_of_ofData (h : ofData label d = .ok st) (hs : sectionOf? .links d = some es) :
    IsLinks es st.links := by
  have hread : IsRead d st := (meets_ofData label d).of_eq_ok h
  obtain ⟨outer, rfl, hentry⟩ := (sectionOf?_inner_iff rfl).1 hs
  exact hread.isLinks (hasLinks_mapping_iff.2 hentry)

/-- Nothing is read where a text stands under a known key. -/
theorem entry?_ne_text (h : ofData label d = .ok st) (hs : sectionOf? s d = some es)
    (hname : name ∈ s.keys) (text : String) : entry? es name ≠ some (.scalar (.str text)) := by
  intro htext
  cases s with
  | top =>
    obtain rfl := sectionOf?_top_iff.1 hs
    simp only [ofData, bind_eq_ok_iff] at h
    obtain ⟨_, -, _, hrules, _, henv, _, htypes, _, hproviders, _, hstrict, _, hlinks, -⟩ := h
    simp only [Section.keys, topKeys, List.mem_cons, List.not_mem_nil, or_false] at hname
    obtain rfl | rfl | rfl | rfl | rfl | rfl := hname
    · cases read_of_optional hstrict htext
    · cases read_of_optional hrules htext
    · cases read_of_optional henv htext
    · cases read_of_optional htypes htext
    · cases read_of_optional hproviders htext
    · cases read_of_optional hlinks htext
  | rules =>
    obtain ⟨outer, rfl, hentry⟩ := (sectionOf?_inner_iff rfl).1 hs
    simp only [ofData, bind_eq_ok_iff] at h
    obtain ⟨_, -, _, hrules, -⟩ := h
    have hread := read_of_optional hrules hentry
    simp only [readRules, bind_eq_ok_iff] at hread
    obtain ⟨_, hinclude, _, hexclude, -⟩ := hread
    simp only [Section.keys, List.mem_cons, List.not_mem_nil, or_false] at hname
    obtain rfl | rfl := hname
    · cases read_of_optional hinclude htext
    · cases read_of_optional hexclude htext
  | links =>
    have hlinks := isLinks_of_ofData h hs
    -- A text is neither a time nor a count.
    have hkind : name ∈ timeKeys ∨ name ∈ countKeys := by
      simp only [Section.keys, linkKeys, List.mem_cons, List.not_mem_nil, or_false] at hname
      obtain rfl | rfl | rfl | rfl | rfl | rfl := hname <;> decide
    obtain htime | hcount := hkind
    · obtain ⟨x, -, hx⟩ := hlinks.exists_time htime htext (by simp)
      cases hx
    · obtain ⟨least, n, hn⟩ := hlinks.exists_count hcount htext
      cases hn

/-! ## Unknown keys of the section on rules are not read -/

/-- The check of keys looks at the keys only. -/
theorem checkKeys_congr {es' : Entries} (h : es.map (·.1) = es'.map (·.1)) (label : String)
    (s : Section) (known : List String) :
    checkKeys label s known es = checkKeys label s known es' := by
  unfold checkKeys
  rw [h]

/-- An entry is read alike where the same stands under its key. -/
theorem optional_congr {α : Type} {es' : Entries} (h : entry? es name = entry? es' name)
    (standard : α) (read : Data → Read α) :
    optional es name standard read = optional es' name standard read := by
  rw [optional, optional, h]

/-- The section on rules is read alike whatever stands under an unknown key. -/
theorem readRules_put (h : IsUnknown Section.rules.keys ss k) (v : Data) :
    readRules label (.mapping (Data.put ss k v)) = readRules label (.mapping ss) := by
  have hsame : ∀ name ∈ Section.rules.keys, entry? (Data.put ss k v) name = entry? ss name :=
    fun name hname => entry?_put_of_ne ss v (h.ne name hname)
  rw [readRules, readRules]
  simp only [optional_congr (hsame "include" (by decide)),
    optional_congr (hsame "exclude" (by decide))]

/-- An unknown key of the section on rules is ignored. -/
theorem ignores_of_isUnknown (hs : sectionOf? .rules d = some ss)
    (h : IsUnknown Section.rules.keys ss k) : Ignores label d .rules k := by
  intro v
  obtain ⟨es, rfl, hentry⟩ := (sectionOf?_inner_iff rfl).1 hs
  -- The keys of the configuration are the same, and so is all that is read beside the section.
  have hvalue : withValue .rules k v (.mapping es) =
      .mapping (Data.put es (.scalar (.str "rules")) (.mapping (Data.put ss k v))) := by
    simp only [withValue, Section.key?, hentry]
  have hother : ∀ name, name ≠ "rules" → entry?
      (Data.put es (.scalar (.str "rules")) (.mapping (Data.put ss k v))) name = entry? es name :=
    fun name hname => entry?_put_of_ne es _ fun heq => hname (by simpa using heq.symm)
  have hrules : ∀ standard, optional
      (Data.put es (.scalar (.str "rules")) (.mapping (Data.put ss k v))) "rules" standard
        (readRules label) = optional es "rules" standard (readRules label) := by
    intro standard
    rw [optional, optional, entry?_put_self, hentry]
    exact readRules_put h v
  rw [hvalue, ofData, ofData, checkKeys_congr (map_fst_put hentry _)]
  simp only [hrules, optional_congr (hother "env-identifiers" (by decide)),
    optional_congr (hother "target-types" (by decide)),
    optional_congr (hother "providers" (by decide)), optional_congr (hother "strict" (by decide)),
    optional_congr (hother "links" (by decide))]

/-! ## Unknown keys of the other sections are reported -/

/-- Unknown keys that are texts do not fail in a way of their own. -/
theorem not_keyFailure_of_texts
    (h : ∀ k, IsUnknown known es k → ∃ name, k = .scalar (.str name)) : ¬ KeyFailure known es e := by
  intro hfailure
  cases hfailure with
  | kind hk htext =>
    obtain ⟨name, rfl⟩ := h _ hk
    cases htext
  | order hk hk' hne =>
    obtain ⟨name, rfl⟩ := h _ hk
    obtain ⟨name', rfl⟩ := h _ hk'
    exact hne rfl
  | date hk | zone hk =>
    obtain ⟨name, hname⟩ := h _ hk
    cases hname

/-- Unknown keys that are texts are a defect. -/
theorem meets_checkKeys_of_texts (label : String) (s : Section)
    (h : ∀ k, IsUnknown known es k → ∃ name, k = .scalar (.str name)) :
    Meets (IsDefect label) (fun _ => ∀ k, ¬ IsUnknown known es k) (checkKeys label s known es) :=
  (meets_checkKeys label s known es).mono fun _ he => he.resolve_right (not_keyFailure_of_texts h)

/-- Where settings are read, no key is unknown outside of the section on rules. -/
theorem not_isUnknown_of_ofData (h : ofData label d = .ok st) (hs : sectionOf? s d = some es)
    (hrules : s ≠ .rules) (k : Data) : ¬ IsUnknown s.keys es k := by
  cases s with
  | top => exact ((meets_ofData label d).of_eq_ok h).keys es (sectionOf?_top_iff.1 hs) k
  | rules => exact absurd rfl hrules
  | links => exact (isLinks_of_ofData h hs).keys k

/-- Where a key is unknown outside of the section on rules, and all such keys are texts, there is a
defect. -/
theorem exists_defect_of_isUnknown (htexts : UnknownAreTexts d) (hs : sectionOf? s d = some es)
    (hrules : s ≠ .rules) (hk : IsUnknown s.keys es k) :
    ∃ cause, ofData label d = .error (.config label cause) := by
  obtain ⟨outer, rfl⟩ : ∃ outer, d = .mapping outer := by
    cases d with
    | mapping outer => exact ⟨outer, rfl⟩
    | _ => cases hs
  have htop := meets_checkKeys_of_texts label .top
    (htexts .top (by decide) outer (sectionOf?_top_iff.2 rfl))
  have hmeets := meets_ofData_mapping (q := fun _ _ => True) (fun _ he => he) htop ?_
  · generalize houtcome : ofData label (.mapping outer) = outcome at hmeets
    cases hmeets with
    | error he =>
      obtain ⟨cause, rfl⟩ := he
      exact ⟨cause, rfl⟩
    | ok => exact absurd hk (not_isUnknown_of_ofData houtcome hs hrules k)
  · -- With no unknown key in the whole configuration, the section on links is reached.
    intro hnone links hentry
    cases s with
    | top =>
      obtain rfl := Data.mapping.inj (sectionOf?_top_iff.1 hs)
      exact absurd hk (hnone k)
    | rules => exact absurd rfl hrules
    | links =>
      obtain ⟨_, houter, hsection⟩ := (sectionOf?_inner_iff rfl).1 hs
      obtain rfl := Data.mapping.inj houter
      obtain rfl := Option.some.inj (hentry.symm.trans hsection)
      have hchecked := meets_checkKeys_of_texts label .links (htexts .links hrules es hs)
      rw [readLinks]
      exact hchecked.bind fun _ hnone => absurd hk (hnone k)

/-! ## What is ignored -/

/-- Of a configuration from which settings are read an entry is ignored only where it stands in the
section on rules under an unknown key. -/
theorem ignores_iff (h : ofData label d = .ok st) (hs : sectionOf? s d = some es)
    (hmem : k ∈ es.map (·.1)) : Ignores label d s k ↔ s = .rules ∧ IsUnknown s.keys es k := by
  constructor
  · intro hignores
    have hunknown : IsUnknown s.keys es k := by
      refine ⟨hmem, fun name hname hk => ?_⟩
      -- A text under a known key is not ignored, since nothing is read from it.
      have hread : ofData label (withValue s k (.scalar (.str "")) d) = .ok st :=
        (hignores _).trans h
      refine entry?_ne_text hread (sectionOf?_withValue hs k _) hname "" ?_
      rw [hk]
      exact entry?_put_self es name _
    exact ⟨by_contra fun hrules => not_isUnknown_of_ofData h hs hrules k hunknown, hunknown⟩
  · rintro ⟨rfl, hunknown⟩
    exact ignores_of_isUnknown hs hunknown

/-- A configuration with an unknown key outside of the section on rules gives no settings, and has a
defect where all such keys are texts. Of a configuration from which settings are read those entries
are ignored that stand in the section on rules under an unknown key, and no others. -/
theorem keys_of_parse {label text : String} {d : Data} (hdata : Yaml.readData text.toList = .ok d) :
    (∀ s es k, s ≠ .rules → sectionOf? s d = some es → IsUnknown s.keys es k →
      (∀ st, parse label text ≠ .ok st) ∧
        (UnknownAreTexts d → ∃ cause, parse label text = .error (.config label cause))) ∧
    ∀ st, parse label text = .ok st → ∀ s es k, sectionOf? s d = some es → k ∈ es.map (·.1) →
      (Ignores label d s k ↔ s = .rules ∧ IsUnknown s.keys es k) := by
  have hparse : parse label text = ofData label d := by rw [parse, hdata]
  rw [hparse]
  refine ⟨fun s es k hrules hs hk => ⟨fun st h => ?_, fun htexts => ?_⟩, ?_⟩
  · exact not_isUnknown_of_ofData h hs hrules k hk
  · exact exists_defect_of_isUnknown htexts hs hrules hk
  · exact fun st h s es k hs hmem => ignores_iff h hs hmem

/-- Settings are read of a configuration with an unknown key in the section on rules. -/
theorem exists_parse_exclud : ∃ d es st,
    Yaml.readData "rules:\n  exclud: []".toList = .ok d ∧
      parse "conf" "rules:\n  exclud: []" = .ok st ∧ sectionOf? .rules d = some es ∧
        IsUnknown Section.rules.keys es (.scalar (.str "exclud")) := by
  have hkeys : ((Yaml.readData "rules:\n  exclud: []".toList).toOption.bind
      (sectionOf? .rules)).map (fun es => es.map fun e => keyText? e.1) = some [some "exclud"] := by
    decide +kernel
  have hparse : (parse "conf" "rules:\n  exclud: []").toOption.isSome = true := by decide +kernel
  cases hst : parse "conf" "rules:\n  exclud: []" with
  | error e =>
    rw [hst] at hparse
    cases hparse
  | ok st =>
    obtain ⟨d, hdata, -⟩ := exists_isRead_of_parse hst
    rw [hdata] at hkeys
    obtain ⟨es, hs, hnames⟩ := Option.map_eq_some_iff.1 hkeys
    obtain ⟨e, rfl, hname⟩ := List.map_eq_singleton_iff.1 hnames
    have hkey : e.1 = .scalar (.str "exclud") := eq_of_keyText? hname
    refine ⟨d, [e], st, hdata, rfl, hs, ⟨by simp [hkey], fun name hmem heq => ?_⟩⟩
    cases heq
    exact absurd hmem (by decide)

/-- The keys of a configuration with an unknown key in the section on rules. -/
theorem keys_of_parse_exclud : ∃ d, Yaml.readData "rules:\n  exclud: []".toList = .ok d ∧
    (∀ s es k, s ≠ .rules → sectionOf? s d = some es → IsUnknown s.keys es k →
      (∀ st, parse "conf" "rules:\n  exclud: []" ≠ .ok st) ∧
        (UnknownAreTexts d →
          ∃ cause, parse "conf" "rules:\n  exclud: []" = .error (.config "conf" cause))) ∧
    ∀ st, parse "conf" "rules:\n  exclud: []" = .ok st → ∀ s es k, sectionOf? s d = some es →
      k ∈ es.map (·.1) → (Ignores "conf" d s k ↔ s = .rules ∧ IsUnknown s.keys es k) := by
  obtain ⟨d, -, -, hdata, -⟩ := exists_parse_exclud
  exact ⟨d, hdata, keys_of_parse hdata⟩

/-- A key of a section can be unknown where settings are read. -/
theorem not_isKnown_of_parse : ¬ ∀ (label text : String) (d : Data) (st : Settings),
    Yaml.readData text.toList = .ok d → parse label text = .ok st →
      ∀ s es, sectionOf? s d = some es → ∀ k, ¬ IsUnknown s.keys es k := by
  intro hall
  obtain ⟨d, es, st, hdata, hparse, hs, hk⟩ := exists_parse_exclud
  exact hall _ _ d st hdata hparse .rules es hs _ hk

end Settings

end CheckDoc
