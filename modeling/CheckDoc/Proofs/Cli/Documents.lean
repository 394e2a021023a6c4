import CheckDoc.Proofs.Cli.Printing
import CheckDoc.Proofs.Document.Loading

/-!
# Documents with defects

Documents are linted one after the other, each with its own lines, until an error escapes
(`Cli.lintDocuments_append`). A document that is no Check adds one line, and it leaves the lines of
the others as they are (`Cli.lintDocuments_of_failed`), unless this line cannot be printed, which
ends the run as it ends any (`Cli.lintDocuments_of_escaped`).

`Check.load_cases` puts this together with the ways in which a document is read: what comes of a
source is a Check, or a defect that a host and the program tell of, or an error that escapes.
-/

namespace CheckDoc

namespace Cli

/-! ## Runs over documents -/

/-- Lines after no lines. -/
theorem Output.empty_append (a : Output) : Output.empty ++ a = a := rfl

/-- Lines in three parts. -/
theorem Output.append_assoc (a b c : Output) : a ++ b ++ c = a ++ (b ++ c) := by
  change Output.append (Output.append a b) c = Output.append a (Output.append b c)
  simp only [Output.append, List.append_assoc]

/-- How documents come out after one that failed. -/
def DocumentEnd.orFailed : DocumentEnd → DocumentEnd
  | .escaped e => .escaped e
  | _ => .failed

/-- A run over documents and then one over others, unless an error escapes from the first. -/
def DocumentRun.andThen (a b : DocumentRun) : DocumentRun :=
  match a.ending with
  | .escaped _ => a
  | .passed => ⟨a.output ++ b.output, b.ending⟩
  | .failed => ⟨a.output ++ b.output, b.ending.orFailed⟩

/-- Runs in three parts. -/
theorem DocumentRun.andThen_assoc (a b c : DocumentRun) :
    (a.andThen b).andThen c = a.andThen (b.andThen c) := by
  obtain ⟨aout, aend⟩ := a
  obtain ⟨bout, bend⟩ := b
  obtain ⟨cout, cend⟩ := c
  cases aend <;> cases bend <;> cases cend <;>
    simp only [andThen, DocumentEnd.orFailed, Output.append_assoc]

variable {w : World} {s : Settings} {f : RuleFilter} {verbose : Bool}

/-- The first document is linted before the others. -/
theorem lintDocuments_cons (label : String) (octets : Except FileFault (List UInt8))
    (rest : List (String × Except FileFault (List UInt8))) :
    lintDocuments w s f verbose ((label, octets) :: rest) =
      (lintDocument w s f verbose label octets).andThen (lintDocuments w s f verbose rest) := by
  rw [lintDocuments]
  generalize lintDocument w s f verbose label octets = first
  generalize lintDocuments w s f verbose rest = others
  obtain ⟨out, ending⟩ := first
  cases ending with
  | escaped e => rfl
  | passed => rfl
  | failed =>
    obtain ⟨out', ending'⟩ := others
    cases ending' <;> rfl

/-- Some documents are linted before others. -/
theorem lintDocuments_append (before after : List (String × Except FileFault (List UInt8))) :
    lintDocuments w s f verbose (before ++ after) =
      (lintDocuments w s f verbose before).andThen (lintDocuments w s f verbose after) := by
  induction before with
  | nil => rw [List.nil_append, lintDocuments, DocumentRun.andThen, Output.empty_append]
  | cons d before ih =>
    rw [List.cons_append, lintDocuments_cons, lintDocuments_cons, ih, DocumentRun.andThen_assoc]

/-- A document that fails adds its lines to those of the others. -/
theorem lintDocuments_of_failed {label : String} {octets : Except FileFault (List UInt8)}
    {lines : Output} (hfailed : lintDocument w s f verbose label octets = ⟨lines, .failed⟩)
    (before after : List (String × Except FileFault (List UInt8)))
    (hbefore : ∀ e, (lintDocuments w s f verbose before).ending ≠ .escaped e) :
    lintDocuments w s f verbose (before ++ (label, octets) :: after) =
      ⟨(lintDocuments w s f verbose before).output ++ lines ++
        (lintDocuments w s f verbose after).output,
        (lintDocuments w s f verbose after).ending.orFailed⟩ := by
  rw [lintDocuments_append, lintDocuments_cons, hfailed]
  generalize lintDocuments w s f verbose before = first at hbefore ⊢
  generalize lintDocuments w s f verbose after = last
  obtain ⟨out, ending⟩ := first
  obtain ⟨out', ending'⟩ := last
  cases ending with
  | escaped e => exact absurd rfl (hbefore e)
  | passed => simp only [DocumentRun.andThen, Output.append_assoc]
  | failed =>
    cases ending' <;>
      simp only [DocumentRun.andThen, DocumentEnd.orFailed, Output.append_assoc]

/-- An error that escapes from a document ends the run. -/
theorem lintDocuments_of_escaped {label : String} {octets : Except FileFault (List UInt8)}
    {lines : Output} {e : Escaped}
    (hescaped : lintDocument w s f verbose label octets = ⟨lines, .escaped e⟩)
    (before after : List (String × Except FileFault (List UInt8)))
    (hbefore : ∀ e', (lintDocuments w s f verbose before).ending ≠ .escaped e') :
    lintDocuments w s f verbose (before ++ (label, octets) :: after) =
      ⟨(lintDocuments w s f verbose before).output ++ lines, .escaped e⟩ := by
  rw [lintDocuments_append, lintDocuments_cons, hescaped]
  generalize lintDocuments w s f verbose before = first at hbefore ⊢
  obtain ⟨out, ending⟩ := first
  cases ending with
  | escaped e' => exact absurd rfl (hbefore e')
  | passed => rfl
  | failed => rfl

end Cli

/-! ## What is told of a source -/

/-- A defect of a source that is told of with its place: to a host as an answer, and by the program
as a line about this document, whatever other documents are linted. -/
structure Source.Tells (source : Source) (strict : Bool) (d : Defect) : Prop where
  /-- Loading fails with the defect. -/
  load : Check.load strict source = .error (.defect d)
  /-- It has a place in the document. -/
  located : source.Locates d.position
  /-- A host is answered that the document does not pass. -/
  respond : ∀ (s : Settings) (f : Option RuleFilter) (h : LinkHost), s.strict = strict →
    (f.getD s.rules).unknown? s.registry = none →
    s.respond f h source = .ok ⟨false, [parseErrorLine d]⟩
  /-- The program tells of the defect between the lines on the other documents; only where the
  standard output has no octets for its line does the run end before it. -/
  documents : ∀ (octets : List UInt8), source = .octets octets →
    ∀ (w : Cli.World) (s : Settings) (f : RuleFilter) (verbose : Bool) (label : String)
      (before after : List (String × Except Cli.FileFault (List UInt8))), s.strict = strict →
    (∀ e, (Cli.lintDocuments w s f verbose before).ending ≠ .escaped e) →
    let line := "Parse error - " ++ label ++ ": " ++ d.message
    (w.Takes line → Cli.lintDocuments w s f verbose (before ++ (label, .ok octets) :: after) =
      ⟨(Cli.lintDocuments w s f verbose before).output ++ .told [line] ++
        (Cli.lintDocuments w s f verbose after).output,
        (Cli.lintDocuments w s f verbose after).ending.orFailed⟩) ∧
    ∀ fault, w.stdout.fault? line.toList = some fault →
      Cli.lintDocuments w s f verbose (before ++ (label, .ok octets) :: after) =
        ⟨(Cli.lintDocuments w s f verbose before).output ++ .empty, .escaped (.output fault)⟩

/-- A defect at a place of the document is told of. -/
theorem Source.tells_of_load {source : Source} {strict : Bool} {d : Defect}
    (hload : Check.load strict source = .error (.defect d)) (hlocated : source.Locates d.position) :
    source.Tells strict d where
  load := hload
  located := hlocated
  respond s f h hstrict hknown := by
    subst hstrict
    simp only [Settings.respond, Settings.lint_eq, hknown, hload]
  documents octets hsource w s f verbose label before after hstrict hbefore := by
    subst hstrict hsource
    intro line
    have hdocument : Cli.lintDocument w s f verbose label (.ok octets) = w.tell [line] .failed := by
      simp only [Cli.lintDocument, hload, line]
    constructor
    · intro htakes
      refine Cli.lintDocuments_of_failed ?_ before after hbefore
      rw [hdocument, Cli.World.tell_of_takes (List.forall_mem_singleton.2 htakes)]
    · intro fault hfault
      refine Cli.lintDocuments_of_escaped ?_ before after hbefore
      have hnone : ∀ l ∈ ([] : List String), w.Takes l := nofun
      exact hdocument.trans (Cli.World.tell_of_refuses hnone hfault [] .failed)

/-- What comes of a source is a Check, or a defect that is told of with its place, or an error that
escapes: that of a scalar which does not fit its tag or of a number which is out of range. -/
theorem Check.load_cases (strict : Bool) (source : Source) :
    (∃ c, Check.load strict source = .ok c) ∨
    (∃ d, source.Tells strict d ∧ 0 < d.position.line ∧ 0 < d.position.column) ∨
    ∃ e, source.Escapes e ∧ Check.load strict source = .error e := by
  cases hload : Check.load strict source with
  | ok c => exact .inl ⟨c, rfl⟩
  | error e =>
    have hmeets := Check.meets_load strict source
    rw [hload] at hmeets
    cases hmeets with
    | error hcases =>
      rcases hcases with ⟨d, rfl, hlocated⟩ | hescapes
      · exact .inr (.inl ⟨d, Source.tells_of_load hload hlocated, hlocated.pos⟩)
      · exact .inr (.inr ⟨e, hescapes, rfl⟩)

/-- Whether there is no Check in a document although it has no defect. -/
def Check.breaksDown : Except LoadError Check → Bool
  | .ok _ => false
  | .error (.defect _) => false
  | .error _ => true

/-- A plain `=` has a tag of its own, which no scalar can be built for: reading the document `id: =`
gives neither a Check nor a defect. -/
theorem Check.not_load_ok_or_defect :
    ¬ ∀ (strict : Bool) (source : Source), (∃ c, Check.load strict source = .ok c) ∨
      ∃ d, Check.load strict source = .error (.defect d) := by
  intro hall
  have hbreaks : breaksDown (load true (.text "id: =")) = true := by decide +kernel
  obtain ⟨c, hc⟩ | ⟨d, hd⟩ := hall true (.text "id: =")
  · rw [hc] at hbreaks
    cases hbreaks
  · rw [hd] at hbreaks
    cases hbreaks

end CheckDoc
