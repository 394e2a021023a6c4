import CheckDoc.Lint.Run
import CheckDoc.Proofs.Link.Report
import CheckDoc.Proofs.Outcome

/-!
# The diagnostics on the links of a Check

The diagnostics of the rule on links account for every link of a Check, whatever the probe answers
and at whatever moment the batch is told to stop (`Check.linkDiagnostics_account`): a link that
failed has its error, the links that were not tried to their end have one together, and where there
is no error at all each link was answered with a success at last.
-/

namespace CheckDoc

/-- The error for a link that failed. -/
def Check.failureError (c : Check) (k : LinkCheck) : Diagnostic :=
  ⟨c.id, if k.url ∈ Link.extract c.description then "description" else "remediation",
    "link-validity", .error, "Invalid link (" ++ k.url ++ "): " ++ k.reason.getD ""⟩

/-- The error for the links that were not tried to their end. -/
def Check.truncationError (c : Check) (r : LinkReport) : Diagnostic :=
  ⟨c.id, "links", "link-validity", .error,
    "Link check truncated: " ++ toString r.unfinished.length ++ " of " ++
      toString r.checks.length ++ " link(s) not checked"⟩

/-- What the diagnostics `ds` on the links of a Check have to say after the events `es`, of which
`r` is the report. -/
structure Check.LinkAccount (c : Check) (s : LinkSettings) (es : List BatchEvent) (r : LinkReport)
    (ds : List Diagnostic) : Prop where
  /-- There is a record for each link, in the order of the links. -/
  urls_eq : r.checks.map (·.url) = c.links
  /-- The links that failed have one error each, in that order, and one more follows exactly where
  the report is truncated. -/
  diagnostics_eq : ds = (r.checks.filter (·.state = .failed)).map c.failureError ++
    if r.truncated then [c.truncationError r] else []
  /-- A link fails for a reason. -/
  reason : ∀ k ∈ r.checks, k.state = .failed → k.reason.isSome = true
  /-- The report is truncated exactly where the batch was told to stop. -/
  truncated_iff : r.truncated = true ↔ .stop ∈ es
  /-- Each link is resolved, failed or unfinished. -/
  count_eq : r.checks.countP (·.state = .resolved) + r.failed.length + r.unfinished.length =
    c.links.length
  /-- Without a diagnostic each link is resolved: the last answer that came for it is a status from
  200 to 399, that of the last of its attempts. There is one more of them than retries at most; the
  first is made whatever the settings say. -/
  resolved : ds = [] → ∀ (i : Nat) (url : String), c.links[i]? = some url → ∃ k n,
    r.checks[i]? = some k ∧ k.url = url ∧ k.state = .resolved ∧
      (k.attempts : Int) ≤ max 1 (s.retries + 1) ∧ k.status = some n ∧
      Batch.lastAnswer? i es = some (.status n) ∧ 200 ≤ n ∧ n ≤ 399

variable {c : Check} {s : LinkSettings} {r : LinkReport}

/-- The findings on a report are an error for each link that failed, and one for the rest. -/
theorem LinkReport.diagnostics_findings (c : Check) (r : LinkReport) :
    (r.findings c).map (Finding.diagnostic c.id linkRule.name) =
      (r.checks.filter (·.state = .failed)).map c.failureError ++
        if r.truncated then [c.truncationError r] else [] := by
  have hfield : ∀ url, (c.linkField url).name =
      if url ∈ Link.extract c.description then "description" else "remediation" := fun url => by
    by_cases hurl : url ∈ Link.extract c.description <;>
      simp [Check.linkField, hurl, LinkField.name]
  have herror : ∀ k : LinkCheck, Finding.diagnostic c.id linkRule.name
      (.badLink (c.linkField k.url) k.url (k.reason.getD "")) = c.failureError k := fun k =>
    congrArg (fun path => (⟨c.id, path, "link-validity", .error,
      "Invalid link (" ++ k.url ++ "): " ++ k.reason.getD ""⟩ : Diagnostic)) (hfield k.url)
  have htruncated : Finding.diagnostic c.id linkRule.name
      (.linksUnfinished r.unfinished.length r.checks.length) = c.truncationError r := rfl
  rw [findings, List.map_append, List.map_map, failed, Function.comp_def]
  simp only [herror]
  cases r.truncated with
  | true => simp only [if_true, List.map_cons, List.map_nil, htruncated]
  | false => simp only [Bool.false_eq_true, if_false, List.map_nil]

/-- A report without findings is not truncated, and no link in it failed. -/
theorem LinkReport.of_diagnostics_eq_nil
    (h : (r.findings c).map (Finding.diagnostic c.id linkRule.name) = []) :
    r.truncated = false ∧ ∀ k ∈ r.checks, k.state ≠ .failed := by
  rw [diagnostics_findings, List.append_eq_nil_iff, List.map_eq_nil_iff] at h
  obtain ⟨hfailed, htruncated⟩ := h
  refine ⟨Bool.eq_false_iff.2 fun ht => ?_, fun k hk hstate => ?_⟩
  · rw [if_pos ht] at htruncated
    cases htruncated
  · have hmem : k ∈ r.checks.filter (·.state = .failed) :=
      List.mem_filter.2 ⟨hk, decide_eq_true hstate⟩
    rw [hfailed] at hmem
    cases hmem

/-- The report on a run of the links of a Check has its account. -/
theorem Check.linkAccount_of_run {es : List BatchEvent} {b : Batch}
    (hrun : Batch.Run s (fun _ _ => True) (.ofUrls s c.links) es b) (hr : b.report? = some r) :
    c.LinkAccount s es r ((r.findings c).map (Finding.diagnostic c.id linkRule.name)) := by
  have hinv : b.Inv s c.links := hrun.inv (Batch.inv_ofUrls s c.links)
  obtain ⟨hstage, hchecks⟩ := Batch.report?_eq_some_iff.1 hr
  have hurls : r.checks.map (·.url) = c.links := by
    rw [hinv.urls_of_report? hr, links, eraseDups_eq_self (nodup_eraseDups _)]
  refine ⟨hurls, r.diagnostics_findings c, ?_, ?_, ?_, fun hsilent i url hurl => ?_⟩
  · rw [hchecks]
    exact List.forall_mem_map.2 fun t ht => (hinv.sound t ht).reason_of_failed
  · rw [hrun.stop_mem_iff, hstage]
    simp
  · rw [r.count_add_count, ← hurls, List.length_map]
  · obtain ⟨htruncated, hnotFailed⟩ := LinkReport.of_diagnostics_eq_nil hsilent
    rw [← hurls, List.getElem?_map, Option.map_eq_some_iff] at hurl
    obtain ⟨k, hk, hurl⟩ := hurl
    have hmem := List.mem_of_getElem? hk
    -- The link is finished and did not fail.
    have hresolved : k.state = .resolved := by
      have hdone := hinv.done_of_report? hr htruncated k hmem
      have hne := hnotFailed k hmem
      cases hstate : k.state <;> simp_all [LinkCheck.done, LinkState.done]
    rw [hchecks, Batch.checks, List.getElem?_map, Option.map_eq_some_iff] at hk
    obtain ⟨t, ht, rfl⟩ := hk
    obtain ⟨n, hlast, hstatus, hn⟩ := (hrun.answered i t ht).resolved hresolved
    refine ⟨t.check, n, ?_, hurl, hresolved, ?_, hstatus, hlast, isSuccess_iff.1 hn⟩
    · rw [hchecks, Batch.checks, List.getElem?_map, ht]
      rfl
    · exact (hinv.sound t (List.mem_of_getElem? ht)).attempts_le

/-- The diagnostics on the links of a Check account for all of them: whatever answers come, in
whatever order, and at whatever moment the batch is told to stop. What the rule on links finds at a
host, for each behaviour of the probe, each deadline and each signal, is such an account. -/
theorem Check.linkDiagnostics_account (c : Check) (s : Settings) :
    (∀ es b r, Batch.Run s.links (fun _ _ => True) (.ofUrls s.links c.links) es b →
      b.report? = some r →
      c.LinkAccount s.links es r ((r.findings c).map (Finding.diagnostic c.id linkRule.name))) ∧
    ∀ (h : LinkHost) found log, linkRule.findings s h (c.subject s.env) = .ok (found, log) →
      ∃ es b r, Batch.Run s.links (fun _ _ => True) (.ofUrls s.links c.links) es b ∧
        b.report? = some r ∧
        c.LinkAccount s.links es r (found.map (Finding.diagnostic c.id linkRule.name)) := by
  refine ⟨fun es b r => c.linkAccount_of_run, fun h found log hfound => ?_⟩
  have hrun : ∃ es b r, Batch.Run s.links (fun _ _ => True) (.ofUrls s.links c.links) es b ∧
      b.report? = some r ∧ found = r.findings c := by
    unfold Rule.findings at hfound
    simp only [linkRule, Check.subject] at hfound
    split at hfound
    · rename_i hnil
      cases hfound
      rw [hnil]
      exact ⟨_, _, _, Batch.Run.nil.snoc trivial (Batch.step?_eq_some_iff.2
        (.finish rfl rfl (by simp [Batch.ofUrls]))), rfl, rfl⟩
    · obtain ⟨o, ho, hfound⟩ := map_eq_ok_iff.1 hfound
      cases hfound
      obtain ⟨es, b, hrun, hr⟩ := TrialSetup.exists_run_of_outcome ho
      exact ⟨es, b, o.report, hrun, hr, rfl⟩
  obtain ⟨es, b, r, hrun, hr, rfl⟩ := hrun
  exact ⟨es, b, r, hrun, hr, c.linkAccount_of_run hrun hr⟩

/-- Two links, and a batch that is told to stop when the answer for one of them has come but not yet
been taken; and a host whose signal to stop is there before the start. -/
theorem Check.linkDiagnostics_account_stopped :
    let c : Check :=
      ⟨"1.1", "clock", "base", "See http://a, or http://b.", "", none, [], [], [], none⟩
    let s := { Settings.standard with links := { LinkSettings.standard with retries := 0 } }
    let r : LinkReport := ⟨[⟨"http://a", 1, .failed, 1, some 404, some "HTTP status 404"⟩,
      .fresh "http://b" 1], true⟩
    let es : List BatchEvent :=
      [.start 0, .start 1, .answer 0 (.status 404), .stop, .resume 0, .notice]
    (∃ b, Batch.Run s.links (fun _ _ => True) (.ofUrls s.links c.links) es b ∧
      b.report? = some r ∧
      c.LinkAccount s.links es r ((r.findings c).map (Finding.diagnostic c.id linkRule.name))) ∧
    ∃ found log, linkRule.findings s { LinkHost.offline with signal := .already }
        (c.subject s.env) = .ok (found, log) ∧
      ∃ es b r, Batch.Run s.links (fun _ _ => True) (.ofUrls s.links c.links) es b ∧
        b.report? = some r ∧ c.LinkAccount s.links es r [⟨"1.1", "links", "link-validity", .error,
          "Link check truncated: 2 of 2 link(s) not checked"⟩] := by
  intro c s r es
  have hlinks : c.links = ["http://a", "http://b"] := by decide +kernel
  let a (stage : Stage) (calls : Nat) : LinkTask := ⟨.fresh "http://a" 1, stage, calls⟩
  let b (stage : Stage) (calls : Nat) : LinkTask := ⟨.fresh "http://b" 1, stage, calls⟩
  let a' : LinkTask :=
    ⟨⟨"http://a", 1, .failed, 1, some 404, some "HTTP status 404"⟩, .ended, 1⟩
  have hanswered : Batch.Run s.links (fun _ _ => True) (.ofUrls s.links c.links)
      [.start 0, .start 1, .answer 0 (.status 404)]
      ⟨[a (.answered .head (.status 404)) 1, b (.asking .head) 1], .running⟩ := by
    rw [hlinks]
    exact ((Batch.Run.nil.snoc trivial (d := ⟨[a (.asking .head) 1, b .queued 0], .running⟩)
      (by decide +kernel)).snoc trivial
      (d := ⟨[a (.asking .head) 1, b (.asking .head) 1], .running⟩) (by decide +kernel)).snoc
        trivial (by decide +kernel)
  have hreported : Batch.Run s.links (fun _ _ => True) (.ofUrls s.links c.links) es
      ⟨[a', b .stopped 1], .reported true⟩ :=
    ((hanswered.snoc trivial (e := .stop)
      (d := ⟨[a (.answered .head (.status 404)) 1, b .stopped 1], .stopping⟩)
      (by decide +kernel)).snoc trivial (e := .resume 0)
      (d := ⟨[a', b .stopped 1], .stopping⟩) (by decide +kernel)).snoc trivial
      (e := .notice) (by decide +kernel)
  refine ⟨⟨_, hreported, rfl, (c.linkDiagnostics_account s).1 _ _ _ hreported rfl⟩, ?_⟩
  have hds : (linkRule.findings s { LinkHost.offline with signal := .already }
      (c.subject s.env)).toOption.map (fun x => x.1.map (Finding.diagnostic c.id linkRule.name)) =
        some [⟨"1.1", "links", "link-validity", .error,
          "Link check truncated: 2 of 2 link(s) not checked"⟩] := by decide +kernel
  obtain ⟨x, hfound, hdiagnostics⟩ := exists_of_map_toOption hds
  refine ⟨x.1, x.2, hfound, ?_⟩
  rw [← hdiagnostics]
  exact (c.linkDiagnostics_account s).2 _ _ _ hfound

end CheckDoc
