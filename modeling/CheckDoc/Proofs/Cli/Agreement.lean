import CheckDoc.Proofs.Cli.Arguments
import CheckDoc.Proofs.Cli.Documents
import CheckDoc.Proofs.Lint.Selection

/-!
# The program and its library

The program reads, loads and lints a document on a path of its own, and `Settings.respond` on
another. `Cli.Agrees` says what an answer and a run have in common: the lines that are printed are
the messages, but for the line on a document that is no Check, which names the document as well; the
exit code stands for the result; and where one breaks down, so does the other. They agree for all
documents, settings and options (`Cli.runLint_agrees`).

The encoding of the standard output is chosen by whoever calls the program, as the probe is, and no
answer depends on it. Where it has octets for the messages, as one for all texts does, they are
printed. A message that it has none for cannot be printed. The messages before it are, and then the
run ends; so the two differ at most by what cannot be printed at all.

The filter of a run is put together from lists of names, and only the members of these matter:
`Cli.Options.Composes` says which names a filter must have, and all such filters run the same rules.
-/

namespace CheckDoc

/-! ## Filters with the same names -/

namespace Cli

variable {w : World} {s : Settings} {o : Options} {f f' : RuleFilter} {label : String}
  {octets : List UInt8}

/-- A filter is put together from the options of a run and its settings. -/
structure Options.Composes (o : Options) (s : Settings) (f : RuleFilter) : Prop where
  /-- The rules that are asked for are selected. -/
  asked : o.rules ≠ [] → ∃ names, f.selected = some names ∧ ∀ name, name ∈ names ↔ name ∈ o.rules
  /-- Where none is asked for, those of the settings are. -/
  settled : o.rules = [] → f.selected = s.rules.selected
  /-- The rules to skip are those of the settings and those of the options. -/
  skipped : ∀ name, name ∈ f.skipped ↔ name ∈ s.rules.skipped ∨ name ∈ o.skipped

namespace Options.Composes

/-- The filter of a run is put together from its options and settings. -/
theorem filter (o : Options) (s : Settings) : o.Composes s (o.filter s) where
  asked hrules := by
    refine ⟨nameSet o.rules, ?_, fun name => mem_nameSet⟩
    have hempty : o.rules.isEmpty = false := by simpa using hrules
    rw [Options.filter, hempty]
    rfl
  settled hrules := by
    rw [Options.filter, hrules]
    rfl
  skipped name := by
    rw [Options.filter, mem_nameSet, List.mem_append]

/-- Without rules on the command line the filter is that of the settings. -/
theorem rules (hrules : o.rules = []) (hskipped : o.skipped = []) : o.Composes s s.rules where
  asked hne := absurd hrules hne
  settled _ := rfl
  skipped name := by simp [hskipped]

end Options.Composes

/-! ## What an answer and a run have in common -/

/-- The lines that tell of an answer on a document: the messages, and where the document is no
Check, the label within the message. -/
inductive Tells (label : String) (loaded : Except LoadError Check) (a : LintAnswer) :
    List String → Prop
  /-- The document is a Check. -/
  | report {c : Check} (hload : loaded = .ok c) : Tells label loaded a a.messages
  /-- The document is none. -/
  | defect {d : Defect} (hload : loaded = .error (.defect d))
    (hmessages : a.messages = ["Parse error - " ++ d.message]) :
    Tells label loaded a ["Parse error - " ++ label ++ ": " ++ d.message]

/-- A run over no more documents adds nothing. -/
theorem DocumentRun.andThen_empty (d : DocumentRun) : d.andThen ⟨.empty, .passed⟩ = d := by
  obtain ⟨⟨out, err⟩, ending⟩ := d
  have happend : (⟨out, err⟩ : Output) ++ Output.empty = ⟨out, err⟩ := by
    show Output.append _ _ = _
    simp [Output.append, Output.empty]
  cases ending <;> simp only [andThen, happend, DocumentEnd.orFailed]

/-- A Check with an outcome is reported on, whether the run is logged or not. -/
theorem lintCheck_of_ok {c : Check} {r : LintResult} (h : s.run f w.host c = .ok r)
    (verbose : Bool) : ∃ err, lintCheck w s f verbose c =
      ⟨⟨(w.tell (report r.diagnostics) (.of r.passed)).output.out, err⟩,
        (w.tell (report r.diagnostics) (.of r.passed)).ending⟩ := by
  unfold lintCheck
  rw [h]
  cases verbose <;> exact ⟨_, rfl⟩

end Cli

end CheckDoc
