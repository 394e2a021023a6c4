import CheckDoc.Cli.Run
import CheckDoc.Proofs.Lint.Lines
import Mathlib.Algebra.Order.BigOperators.Group.List

/-!
# The lines of a report

A report has a line for each diagnostic, and as many lines in print unless one of them has a line
break. `Settings.lines_of_run` says when that is: where the identifier of the Check has one, or one
of the texts that the line takes over as they are. The messages of the rules are fixed but for these
texts, and where a fault shows what it has read, it quotes it; the exception is a character that a
backslash in a string does not escape. A string that continues on the next line after a backslash
breaks its own report (`Settings.not_isLine_of_load`).
-/

namespace CheckDoc

open Text

/-- What the lines on a Check take over has no line break. -/
structure Check.GivesLines (c : Check) (s : Settings) (h : LinkHost) : Prop where
  /-- The identifier. -/
  id : IsLine c.id
  /-- The names. -/
  label : ∀ t, c.HasLabel s t → IsLine t
  /-- The characters after a backslash that escapes nothing. -/
  escape : ∀ place position esc, c.HasEscape place position esc → esc ∉ lineBreaks
  /-- What the probe says about links. -/
  reason : ∀ field url reason,
    linkRule.Finds s h (c.subject s.env) (.badLink field url reason) → IsLine reason

/-! ## Printed lines -/

/-- There is a line break after each line in print, and those within the lines. -/
theorem Cli.countP_textOf (lines : List String) :
    (textOf lines).toList.countP (· ∈ lineBreaks) =
      lines.length + (lines.map fun l => l.toList.countP (· ∈ lineBreaks)).sum := by
  induction lines with
  | nil => rfl
  | cons l lines ih =>
    have hcons : (textOf (l :: lines)).toList = l.toList ++ '\n' :: (textOf lines).toList := by
      simp [textOf, String.toList_join]
    rw [hcons, List.countP_append, List.countP_cons_of_pos (by decide), ih, List.length_cons,
      List.map_cons, List.sum_cons]
    omega

/-- In print there are as many lines as there should be where each of them is one. -/
theorem Cli.countP_textOf_eq_length_iff {lines : List String} :
    (textOf lines).toList.countP (· ∈ lineBreaks) = lines.length ↔ ∀ l ∈ lines, IsLine l := by
  have hline (l : String) : l.toList.countP (· ∈ lineBreaks) = 0 ↔ IsLine l := by
    rw [List.countP_eq_zero]
    simp only [decide_eq_true_eq]
    exact ⟨fun h b hb hmem => h b hmem hb, fun h b hmem hb => h b hb hmem⟩
  rw [countP_textOf, Nat.add_eq_left, List.sum_eq_zero_iff, List.forall_mem_map]
  exact forall₂_congr fun l _ => hline l

/-! ## Reports -/

variable {c : Check} {s : Settings} {f : RuleFilter} {h : LinkHost} {x : Finding}

/-- A text that a line takes over has no line break where the Check gives none. -/
theorem Check.GivesLines.isLine (hc : c.GivesLines s h) {t : String} (ht : c.Provides s h x t) :
    IsLine t := by
  cases ht with
  | label hlabel => exact hc.label t hlabel
  | escape _ hesc =>
    intro b hb hmem
    rw [String.toList_singleton, List.mem_singleton] at hmem
    exact hc.escape _ _ _ hesc (hmem ▸ hb)
  | reason hx hfound => exact hc.reason _ _ _ (hx ▸ hfound)
  | line hline => exact hline

/-- A Check with one expectation, which has an expression. -/
def Check.ofExpect (id text : String) : Check where
  id := id
  name := ""
  group := ""
  description := ""
  remediation := ""
  metadata := none
  facts := []
  values := []
  expectations := [⟨"e", some text, none, none, none, none⟩]
  premium := none

/-- The document of a Check with a string that continues on the next line after a backslash. -/
def Check.continuedDocument : String :=
  "\x7b'id': 'A', 'name': '', 'group': '', 'description': '', 'remediation': '', 'facts': [], " ++
    "'expectations': [\x7b'name': 'e', 'expect': \"\\\"\\\\\\n\\\"\"\x7d]\x7d"

/-- The document is that of a Check. -/
theorem Check.load_continuedDocument :
    load true (.text continuedDocument) = .ok (ofExpect "A" "\"\\\n\"") :=
  eq_ok_of_toOption (by decide +kernel)

namespace Settings

/-- The diagnostics of a run are those of the findings of its rules. -/
theorem exists_finds_of_run {r : LintResult} (hr : s.run f h c = .ok r) {d : Diagnostic}
    (hd : d ∈ r.diagnostics) : ∃ q ∈ s.registry.rules, ∃ x,
      q.Finds s h (c.subject s.env) x ∧ d = x.diagnostic c.id q.name := by
  obtain ⟨-, -, hds⟩ := exists_run_iff.1 ⟨r, hr, rfl⟩
  rw [hds] at hd
  obtain ⟨q, hq, hd⟩ := List.mem_flatMap.1 hd
  exact ⟨q, List.mem_of_mem_filter hq, Rule.mem_reported_iff.1 hd⟩

/-- Each line of the report on a Check is that of a finding, and a line break stands in it exactly
where it stands in the identifier of the Check or in one of the texts that the line takes over:
names, a character after a backslash that escapes nothing, and what the probe says about a link. The
printed report has as many lines as there are diagnostics exactly where no line has a line break,
and so it is where the Check gives none. -/
theorem lines_of_run (s : Settings) (f : RuleFilter) (h : LinkHost) (c : Check) (r : LintResult)
    (hr : s.run f h c = .ok r) :
    (∀ d ∈ r.diagnostics, ∃ q ∈ s.registry.rules, ∃ x,
      (q.Finds s h (c.subject s.env) x ∧ d = x.diagnostic c.id q.name) ∧
      (∀ b ∈ lineBreaks, b ∈ d.line.toList ↔ ∃ t ∈ c.id :: x.texts, b ∈ t.toList) ∧
      ∀ t ∈ x.texts, c.Provides s h x t) ∧
    ((Cli.textOf (report r.diagnostics)).toList.countP (· ∈ lineBreaks) = r.diagnostics.length ↔
      ∀ d ∈ r.diagnostics, IsLine d.line) ∧
    (c.GivesLines s h → ∀ d ∈ r.diagnostics, IsLine d.line) := by
  have htaken : ∀ x q b, b ∈ lineBreaks →
      (b ∈ (Finding.diagnostic c.id q x).line.toList ↔ ∃ t ∈ c.id :: x.texts, b ∈ t.toList) :=
    fun x q b hb => x.takesFrom_line c.id q b (lineBreak_class hb).1
  refine ⟨fun d hd => ?_, ?_, fun hc d hd => ?_⟩
  · obtain ⟨q, hq, x, hx, rfl⟩ := exists_finds_of_run hr hd
    exact ⟨q, hq, x, ⟨hx, rfl⟩, htaken x q.name, hx.provides hq⟩
  · have hlength : r.diagnostics.length = (report r.diagnostics).length :=
      (List.length_map Diagnostic.line).symm
    rw [hlength, Cli.countP_textOf_eq_length_iff, report, List.forall_mem_map]
  · obtain ⟨q, hq, x, hx, rfl⟩ := exists_finds_of_run hr hd
    intro b hb hmem
    obtain ⟨t, ht, hbt⟩ := (htaken x q.name b hb).1 hmem
    rcases List.mem_cons.1 ht with rfl | ht
    · exact hc.id b hb hbt
    · exact hc.isLine (hx.provides hq t ht) b hb hbt

/-- A Check that gives no line breaks: its expression has a backslash before a letter. -/
theorem givesLines_ofExpect_letter :
    (Check.ofExpect "A" "\"\\d\"").GivesLines standard .offline := by
  refine ⟨by decide, fun t ht => ?_, fun place position esc => ?_, fun field url reason => ?_⟩
  · have hnames (names : List String) (hall : ∀ t ∈ names, IsLine t) :
        ∀ t ∈ nameSet names, IsLine t := fun t ht => hall t (mem_nameSet.1 ht)
    cases ht with
    | fact hf => cases hf
    | value hv => cases hv
    | expectation he =>
      obtain rfl := List.mem_singleton.1 he
      decide
    | targetType hm _ | provider hm _ => cases hm
    | known hknown =>
      simp only [List.mem_append] at hknown
      rcases hknown with (henv | htarget) | hprovider
      · exact hnames defaultEnv (by decide) t henv
      · exact hnames ["cluster", "host"] (by decide) t htarget
      · exact hnames ["aws", "azure", "gcp", "kvm", "vmware", "nutanix", "default"] (by decide) t
          hprovider
  · have hfaults : (Check.ofExpect "A" "\"\\d\"").sites.map Site.fault? =
        [some ⟨.invalidEscape 'd', ⟨1, 3⟩⟩] := by decide +kernel
    rintro ⟨site, hsite, -, hfault⟩
    have hmem := List.mem_map_of_mem (f := Site.fault?) hsite
    rw [hfaults, hfault, List.mem_singleton] at hmem
    cases hmem
    decide
  · intro hfound
    have hlinks : (Check.ofExpect "A" "\"\\d\"").links = [] := by decide +kernel
    rcases Check.cases_of_linkRule hfound with ⟨_, _, _, -, hurl⟩ | ⟨_, _, heq⟩
    · rw [hlinks] at hurl
      cases hurl
    · cases heq

/-- The report on it shows the letter, on its one line. -/
theorem lines_of_run_letter :
    ∃ r, standard.run (.only ["valid-expression"]) .offline (.ofExpect "A" "\"\\d\"") = .ok r ∧
      report r.diagnostics =
        ["A  - expectations.e.expect - Invalid escape sequence: '\\d' (line 1, position 3)"] ∧
      (Cli.textOf (report r.diagnostics)).toList.countP (· ∈ lineBreaks) = 1 := by
  have hreport : (standard.run (.only ["valid-expression"]) .offline
      (.ofExpect "A" "\"\\d\"")).toOption.map (fun r => report r.diagnostics) = some
        ["A  - expectations.e.expect - Invalid escape sequence: '\\d' (line 1, position 3)"] := by
    decide +kernel
  obtain ⟨r, hr, hlines⟩ := exists_of_map_toOption hreport
  obtain ⟨-, hcount, hclean⟩ := lines_of_run standard _ .offline _ r hr
  have hlength : r.diagnostics.length = 1 := by
    rw [← List.length_map Diagnostic.line]
    exact congrArg List.length hlines
  exact ⟨r, hr, hlines, (hcount.2 (hclean givesLines_ofExpect_letter)).trans hlength⟩

/-- The report on a document with one diagnostic and two lines. -/
theorem not_isLine_of_load :
    ¬ ∀ (s : Settings) (f : RuleFilter) (h : LinkHost) (source : Source) (c : Check)
      (r : LintResult), Check.load s.strict source = .ok c → s.run f h c = .ok r →
        (∀ d ∈ r.diagnostics, '\n' ∉ d.line.toList) ∧
          (Cli.textOf (report r.diagnostics)).toList.count '\n' = r.diagnostics.length := by
  intro hall
  have hreport : (standard.run (.only ["valid-expression"]) .offline
      (.ofExpect "A" "\"\\\n\"")).toOption.map (fun r => report r.diagnostics) = some
        ["A  - expectations.e.expect - Invalid escape sequence: '\\\n' (line 1, position 3)"] := by
    decide +kernel
  obtain ⟨r, hr, hlines⟩ := exists_of_map_toOption hreport
  obtain ⟨hclean, -⟩ := hall standard _ .offline _ _ r Check.load_continuedDocument hr
  have hline : ∀ l ∈ report r.diagnostics, '\n' ∉ l.toList := List.forall_mem_map.2 hclean
  rw [hlines] at hline
  exact hline _ List.mem_cons_self (by decide)

end Settings

end CheckDoc
