import CheckDoc.Proofs.Cli.Agreement
import CheckDoc.Proofs.Text.NameSet

/-!
# Directories of documents

A run over a directory lints each of its documents, whatever comes out for the others: its lines are
those of the runs over each document alone, in the order of the paths, and it fails where one of
them does (`Cli.runLint_directory`). This is said of documents from which no error escapes
(`Cli.Handled`).

Two things end such a run early. Before any document is read, each entry of the directory is looked
at, and an entry that cannot be looked at ends the run with nothing printed, although one that
cannot be read is only told of (`Cli.not_runLint_directory`). And a line that the standard output
has no octets for ends the run as it ends the run over that document alone.

A document is alone in a world where the directory holds no other one (`Cli.IsAlone`), such as the
world in which the others are taken away (`Cli.World.alone`).
-/

namespace CheckDoc

/-- A run without the rule on links has an outcome. -/
theorem Settings.exists_run_of_not_asks {s : Settings} {f : RuleFilter} (hf : f.KnownTo s.registry)
    (hlinks : ¬ f.Asks linkRule.name) (h : LinkHost) (c : Check) : ∃ r, s.run f h c = .ok r := by
  have hreturns : ∀ r ∈ s.registry.rules, f.Asks r.name → r.Returns s h (c.subject s.env) := by
    intro r hr hasked
    have hne : r ≠ linkRule := fun heq => hlinks (heq ▸ hasked)
    have hstructural := (mem_registry_rules.1 hr).resolve_right hne
    exact ⟨_, _, Rule.findings_of_not_cancellable s h _
      (cancellable_of_mem_structuralRules s r hstructural)⟩
  obtain ⟨r, hr, -⟩ := exists_run_iff.2 ⟨hf, hreturns, rfl⟩
  exact ⟨r, hr⟩

namespace Cli

/-! ## Documents -/

/-- What can be read of a document, where no error escapes from it. -/
inductive Handled (strict : Bool) : Except FileFault (List UInt8) → Prop
  /-- It cannot be read. -/
  | unreadable (fault : FileFault) : Handled strict (.error fault)
  /-- It has a defect. -/
  | defect {octets : List UInt8} {d : Defect}
    (hload : Check.load strict (.octets octets) = .error (.defect d)) :
    Handled strict (.ok octets)
  /-- It is a Check. -/
  | check {octets : List UInt8} {c : Check}
    (hload : Check.load strict (.octets octets) = .ok c) : Handled strict (.ok octets)

/-- What can be read of a document that fails. -/
inductive Fails (s : Settings) (f : RuleFilter) (h : LinkHost) :
    Except FileFault (List UInt8) → Prop
  /-- It cannot be read. -/
  | unreadable (fault : FileFault) : Fails s f h (.error fault)
  /-- It has a defect. -/
  | defect {octets : List UInt8} {d : Defect}
    (hload : Check.load s.strict (.octets octets) = .error (.defect d)) :
    Fails s f h (.ok octets)
  /-- It is a Check that does not pass. -/
  | lint {octets : List UInt8} {c : Check} {r : LintResult}
    (hload : Check.load s.strict (.octets octets) = .ok c) (hrun : s.run f h c = .ok r)
    (hpassed : r.passed = false) : Fails s f h (.ok octets)

/-- Outputs one after the other. -/
def Output.concat (outputs : List Output) : Output :=
  ⟨outputs.flatMap (·.out), outputs.flatMap (·.err)⟩

/-- An output before others. -/
theorem Output.concat_cons (a : Output) (outputs : List Output) :
    concat (a :: outputs) = a ++ concat outputs := rfl

/-- Outputs before others. -/
theorem Output.concat_append (outputs outputs' : List Output) :
    concat (outputs ++ outputs') = concat outputs ++ concat outputs' := by
  show Output.mk _ _ = Output.append _ _
  simp only [concat, Output.append, List.flatMap_append]

/-- One output. -/
theorem Output.concat_singleton (a : Output) : concat [a] = a := by
  simp only [concat, List.flatMap_singleton]

/-- A run that goes on from one that failed. -/
theorem DocumentRun.andThen_of_failed {a b : DocumentRun} (h : a.ending = .failed) :
    a.andThen b = ⟨a.output ++ b.output, b.ending.orFailed⟩ := by
  rw [andThen, h]

/-- A run that goes on from one that passed. -/
theorem DocumentRun.andThen_of_passed {a b : DocumentRun} (h : a.ending = .passed) :
    a.andThen b = ⟨a.output ++ b.output, b.ending⟩ := by
  rw [andThen, h]

variable {w v : World} {s : Settings} {o : Options} {f : RuleFilter} {verbose : Bool}
  {label directory path p : String} {names : List String}

/-- A document comes out as it does, or a line on it cannot be printed. -/
theorem World.tell_ending (w : World) (lines : List String) (ending : DocumentEnd) :
    (w.tell lines ending).ending = ending ∨
      ∃ fault, (w.tell lines ending).ending = .escaped (.output fault) := by
  obtain htaken | ⟨before, line, after, fault, rfl, htaken, hfault⟩ := w.takes_or lines
  · rw [tell_of_takes htaken]
    exact .inl rfl
  · rw [tell_of_refuses htaken hfault]
    exact .inr ⟨fault, rfl⟩

/-- A document from which no error escapes comes out as failed or as passed, unless a line on it
cannot be printed. -/
theorem lintDocument_ending (w : World) (verbose : Bool) (label : String)
    (hf : f.KnownTo s.registry) (hlinks : ¬ f.Asks linkRule.name)
    {octets : Except FileFault (List UInt8)} (h : Handled s.strict octets) :
    (Fails s f w.host octets ∧ (lintDocument w s f verbose label octets).ending = .failed) ∨
      (¬ Fails s f w.host octets ∧ (lintDocument w s f verbose label octets).ending = .passed) ∨
      ∃ fault, (lintDocument w s f verbose label octets).ending = .escaped (.output fault) := by
  cases h with
  | unreadable fault => exact .inl ⟨.unreadable fault, rfl⟩
  | defect hload =>
    rw [lintDocument, hload]
    obtain hending | hescaped := w.tell_ending _ _
    · exact .inl ⟨.defect hload, hending⟩
    · exact .inr (.inr hescaped)
  | @check octets c hload =>
    obtain ⟨r, hrun⟩ := Settings.exists_run_of_not_asks hf hlinks w.host c
    obtain ⟨err, hlint⟩ := lintCheck_of_ok (w := w) hrun verbose
    have hdocument : lintDocument w s f verbose label (.ok octets) = lintCheck w s f verbose c := by
      simp only [lintDocument, hload]
    rw [hdocument, hlint]
    obtain hending | hescaped := w.tell_ending (report r.diagnostics) (.of r.passed)
    · dsimp only
      rw [hending]
      cases hpassed : r.passed with
      | false => exact .inl ⟨.lint hload hrun hpassed, rfl⟩
      | true =>
        refine .inr (.inl ⟨fun hfails => ?_, rfl⟩)
        cases hfails with
        | defect hload' =>
          rw [hload] at hload'
          cases hload'
        | lint hload' hrun' hpassed' =>
          rw [hload] at hload'
          cases hload'
          rw [hrun] at hrun'
          cases hrun'
          rw [hpassed] at hpassed'
          cases hpassed'
    · exact .inr (.inr hescaped)

/-- Documents from which no error escapes are all linted, and the run fails where one of them
does. -/
theorem lintDocuments_of_forall {documents : List (String × Except FileFault (List UInt8))}
    (hdocuments : ∀ d ∈ documents, ∀ e, (lintDocument w s f verbose d.1 d.2).ending ≠ .escaped e) :
    (lintDocuments w s f verbose documents).output =
        .concat (documents.map fun d => (lintDocument w s f verbose d.1 d.2).output) ∧
      (((∃ d ∈ documents, (lintDocument w s f verbose d.1 d.2).ending = .failed) ∧
          (lintDocuments w s f verbose documents).ending = .failed) ∨
        ((∀ d ∈ documents, (lintDocument w s f verbose d.1 d.2).ending = .passed) ∧
          (lintDocuments w s f verbose documents).ending = .passed)) := by
  induction documents with
  | nil => exact ⟨rfl, .inr ⟨nofun, rfl⟩⟩
  | cons d documents ih =>
    obtain ⟨hd, hrest⟩ := List.forall_mem_cons.1 hdocuments
    obtain ⟨houtput, hending⟩ := ih hrest
    rw [lintDocuments_cons, List.map_cons, Output.concat_cons, ← houtput]
    cases hfirst : (lintDocument w s f verbose d.1 d.2).ending with
    | escaped e => exact absurd hfirst (hd e)
    | failed =>
      rw [DocumentRun.andThen_of_failed hfirst]
      refine ⟨rfl, .inl ⟨⟨d, List.mem_cons_self, hfirst⟩, ?_⟩⟩
      obtain ⟨-, hending⟩ | ⟨-, hending⟩ := hending <;>
        exact congrArg DocumentEnd.orFailed hending
    | passed =>
      rw [DocumentRun.andThen_of_passed hfirst]
      refine ⟨rfl, hending.imp ?_ ?_⟩
      · rintro ⟨⟨d', hd', hfails⟩, hending⟩
        exact ⟨⟨d', List.mem_cons_of_mem d hd', hfails⟩, hending⟩
      · rintro ⟨hall, hending⟩
        exact ⟨List.forall_mem_cons.2 ⟨hfirst, hall⟩, hending⟩

/-- Documents are linted up to the first one from which an error escapes. -/
theorem lintDocuments_of_first_escaped {d : String × Except FileFault (List UInt8)} {e : Escaped}
    {before : List (String × Except FileFault (List UInt8))}
    (hbefore : ∀ d ∈ before, ∀ e, (lintDocument w s f verbose d.1 d.2).ending ≠ .escaped e)
    (hd : (lintDocument w s f verbose d.1 d.2).ending = .escaped e)
    (after : List (String × Except FileFault (List UInt8))) :
    lintDocuments w s f verbose (before ++ d :: after) =
      ⟨.concat ((before ++ [d]).map fun d => (lintDocument w s f verbose d.1 d.2).output),
        .escaped e⟩ := by
  obtain ⟨houtput, hending⟩ := lintDocuments_of_forall hbefore
  have hnot : ∀ e', (lintDocuments w s f verbose before).ending ≠ .escaped e' := by
    rintro e' heq
    obtain ⟨-, h⟩ | ⟨-, h⟩ := hending <;> cases heq.symm.trans h
  have hlast : lintDocument w s f verbose d.1 d.2 =
      ⟨(lintDocument w s f verbose d.1 d.2).output, .escaped e⟩ := by rw [← hd]
  rw [lintDocuments_of_escaped hlast before after hnot, houtput, List.map_append,
    Output.concat_append, List.map_singleton, Output.concat_singleton]

/-! ## Paths of documents -/

/-- A document stands at a name in a directory: a file with one of the suffixes. -/
structure IsDocument (view : View) (directory name : String) : Prop where
  /-- It has one of the suffixes. -/
  suffix : suffixOf name ∈ documentSuffixes
  /-- It is a file. -/
  isFile : view.isFile (childPath directory name) = .ok true

/-- The entry at a name in a directory can be looked at. -/
def IsLookedAt (view : View) (directory name : String) : Prop :=
  ∃ b, view.isFile (childPath directory name) = .ok b

/-- After an entry that can be looked at come the others, and it is a document or not. -/
theorem documentNames_cons {view : View} {name : String} {isFile : Bool}
    (h : view.isFile (childPath directory name) = .ok isFile) (rest : List String) :
    documentNames view directory (name :: rest) =
      (documentNames view directory rest).map fun found =>
        if isFile && documentSuffixes.contains (suffixOf name) then name :: found else found := by
  rw [documentNames, h]
  rfl

/-- Where all entries of a directory can be looked at, the documents among them are found. -/
theorem documentNames_of_looked {view : View}
    (h : ∀ name ∈ names, IsLookedAt view directory name) :
    ∃ found, documentNames view directory names = .ok found ∧
      ∀ name, name ∈ found ↔ name ∈ names ∧ IsDocument view directory name := by
  induction names with
  | nil => exact ⟨[], rfl, by simp⟩
  | cons n names ih =>
    obtain ⟨⟨isFile, hn⟩, hrest⟩ := List.forall_mem_cons.1 h
    obtain ⟨found, hfound, hmem⟩ := ih hrest
    have hiff : (isFile && documentSuffixes.contains (suffixOf n)) = true ↔
        IsDocument view directory n := by
      rw [Bool.and_eq_true, List.contains_iff_mem]
      exact ⟨fun ⟨hfile, hsuffix⟩ => ⟨hsuffix, hfile ▸ hn⟩,
        fun hdocument => ⟨Except.ok.inj (hn.symm.trans hdocument.isFile), hdocument.suffix⟩⟩
    refine ⟨_, by rw [documentNames_cons hn, hfound]; rfl, fun name => ?_⟩
    split_ifs with hdocument
    · rw [List.mem_cons, hmem, List.mem_cons, or_and_right]
      refine or_congr_left (iff_self_and.2 ?_)
      rintro rfl
      exact hiff.1 hdocument
    · rw [hmem, List.mem_cons, or_and_right, iff_or_self]
      rintro ⟨rfl, hname⟩
      exact absurd (hiff.2 hname) hdocument

/-- The first entry of a directory that cannot be looked at ends the scan. -/
theorem documentNames_of_fault {view : View} {before after : List String} {name : String}
    {fault : FileFault} (hbefore : ∀ n ∈ before, IsLookedAt view directory n)
    (hfault : view.isFile (childPath directory name) = .error fault) :
    documentNames view directory (before ++ name :: after) =
      .error (.file fault (childPath directory name)) := by
  induction before with
  | nil =>
    rw [List.nil_append, documentNames, hfault]
    rfl
  | cons n before ih =>
    obtain ⟨⟨isFile, hn⟩, hrest⟩ := List.forall_mem_cons.1 hbefore
    rw [List.cons_append, documentNames_cons hn, ih hrest]
    rfl

/-- The paths of names in a directory are in the order of the names. -/
theorem nameBefore_childPath {a b : String} (h : nameBefore a b = true) :
    nameBefore (childPath directory a) (childPath directory b) = true := by
  unfold childPath
  split_ifs
  · exact h
  · exact nameBefore_append directory h
  · exact nameBefore_append (directory ++ "/") h

variable {documents : List String}

/-- The entries of a directory are all looked at, or up to the first one that cannot be. -/
theorem looked_or_fault (view : View) (directory : String) (names : List String) :
    (∀ name ∈ names, IsLookedAt view directory name) ∨
      ∃ before name after fault, names = before ++ name :: after ∧
        (∀ n ∈ before, IsLookedAt view directory n) ∧
        view.isFile (childPath directory name) = .error fault := by
  refine (forall_or_exists_first (IsLookedAt view directory) names).imp id ?_
  rintro ⟨before, name, after, hnames, hbefore, hname⟩
  cases hfile : view.isFile (childPath directory name) with
  | ok b => exact absurd ⟨b, hfile⟩ hname
  | error fault => exact ⟨before, name, after, fault, hnames, hbefore, hfile⟩

/-- What is found in a directory: the documents are the files whose names have one of the suffixes,
in the strict order of their paths. -/
structure Found (view : View) (directory : String) (names documents : List String) : Prop where
  /-- The documents are the files whose names have one of the suffixes. -/
  mem_iff : ∀ p, p ∈ documents ↔
    ∃ name ∈ names, IsDocument view directory name ∧ childPath directory name = p
  /-- They are in the strict order of their paths. -/
  pairwise : documents.Pairwise fun p q => nameBefore p q = true

/-- Where all entries can be looked at, the documents of a directory are found. -/
theorem exists_found {view : View} (h : ∀ name ∈ names, IsLookedAt view directory name) :
    ∃ documents, documentsIn view directory names = .ok documents ∧
      Found view directory names documents := by
  obtain ⟨found, hfound, hmem⟩ := documentNames_of_looked h
  refine ⟨(nameSet found).map (childPath directory), by rw [documentsIn, hfound]; rfl,
    fun p => ?_, List.pairwise_map.2 ((pairwise_nameSet found).imp nameBefore_childPath)⟩
  simp only [List.mem_map, mem_nameSet, hmem, and_assoc]

/-- The first entry that cannot be looked at ends the scan of a directory. -/
theorem documentsIn_of_fault {view : View} {before after : List String} {name : String}
    {fault : FileFault} (hbefore : ∀ n ∈ before, IsLookedAt view directory n)
    (hfault : view.isFile (childPath directory name) = .error fault) :
    documentsIn view directory (before ++ name :: after) =
      .error (.file fault (childPath directory name)) := by
  rw [documentsIn, documentNames_of_fault hbefore hfault]
  rfl

/-- The documents of a directory differ. -/
theorem Found.nodup {view : View} (h : Found view directory names documents) : documents.Nodup :=
  h.pairwise.imp fun h => ne_of_nameBefore h

/-! ## Documents alone -/

/-- In the world `v` a document of `w` is the only one in its directory. -/
structure IsAlone (w v : World) (directory p : String) : Prop where
  /-- The directory holds no other document. -/
  listing : ∃ names, v.view directory = .ok (.directory names) ∧
    documentsIn v.view directory names = .ok [p]
  /-- The document is the same. -/
  read : v.view.read p = w.view.read p
  /-- Lines are printed in the same encoding. -/
  stdout : v.stdout = w.stdout
  /-- Links are tried in the same way. -/
  host : v.host = w.host

/-- The world without the other documents in the directory of a document. -/
def World.alone (w : World) (directory : String) (names documents : List String) (p : String) :
    World :=
  { w with
    view := fun path =>
      if path = directory then
        .ok (.directory
          (names.filter fun name => childPath directory name ∉ documents.filter (· ≠ p)))
      else if path ∈ documents.filter (· ≠ p) then .error .missing
      else w.view path }

namespace World

/-- What is left in the directory. -/
theorem alone_directory (w : World) (directory : String) (names documents : List String)
    (p : String) : (w.alone directory names documents p).view directory = .ok (.directory
      (names.filter fun name => childPath directory name ∉ documents.filter (· ≠ p))) :=
  if_pos rfl

/-- What is not taken away is seen as before. -/
theorem alone_view {q : String} (hq : q ≠ directory) (hnot : q ∉ documents.filter (· ≠ p)) :
    (w.alone directory names documents p).view q = w.view q := by
  rw [alone]
  simp only [if_neg hq, if_neg hnot]

/-- What is not taken away is looked at as before. -/
theorem alone_isFile {q : String} (hq : q ≠ directory) (hnot : q ∉ documents.filter (· ≠ p)) :
    (w.alone directory names documents p).view.isFile q = w.view.isFile q := by
  rw [View.isFile, alone_view hq hnot, ← View.isFile]

end World

/-- No file stands at the path of a directory. -/
theorem View.ne_of_isFile {view : View} {q : String} (hfile : view.isFile q = .ok true)
    (hdirectory : view directory = .ok (.directory names)) : q ≠ directory := by
  rintro rfl
  rw [View.isFile, hdirectory] at hfile
  cases hfile

/-- Where the others are taken away, what is left can be looked at. -/
theorem isLookedAt_alone (hlooked : ∀ name ∈ names, IsLookedAt w.view directory name) :
    ∀ name ∈ names.filter fun name => childPath directory name ∉ documents.filter (· ≠ p),
      IsLookedAt (w.alone directory names documents p).view directory name := by
  intro name hname
  rw [List.mem_filter, decide_eq_true_eq] at hname
  by_cases hself : childPath directory name = directory
  · exact ⟨false, by rw [View.isFile, hself, World.alone_directory]⟩
  · obtain ⟨b, hb⟩ := hlooked name hname.1
    exact ⟨b, by rw [World.alone_isFile hself hname.2, hb]⟩

/-- Where the others are taken away, one document is left. -/
theorem mem_left_iff (hdirectory : w.view directory = .ok (.directory names))
    (hfound : Found w.view directory names documents) (hp : p ∈ documents) (q : String) :
    (∃ name ∈ names.filter fun name => childPath directory name ∉ documents.filter (· ≠ p),
      IsDocument (w.alone directory names documents p).view directory name ∧
        childPath directory name = q) ↔ q = p := by
  have hothers : ∀ q, q ∈ documents.filter (· ≠ p) ↔ q ∈ documents ∧ q ≠ p := fun q => by simp
  constructor
  · rintro ⟨name, hname, hdocument, rfl⟩
    rw [List.mem_filter, decide_eq_true_eq] at hname
    have hfile := hdocument.isFile
    rw [World.alone_isFile (View.ne_of_isFile hfile (World.alone_directory ..)) hname.2] at hfile
    by_contra hother
    exact hname.2 ((hothers _).2
      ⟨(hfound.mem_iff _).2 ⟨name, hname.1, ⟨hdocument.suffix, hfile⟩, rfl⟩, hother⟩)
  · rintro rfl
    obtain ⟨name, hname, hdocument, hpath⟩ := (hfound.mem_iff q).1 hp
    have hnot : childPath directory name ∉ documents.filter (· ≠ q) := fun h =>
      ((hothers _).1 h).2 hpath
    refine ⟨name, List.mem_filter.2 ⟨hname, decide_eq_true hnot⟩, ⟨hdocument.suffix, ?_⟩, hpath⟩
    rw [World.alone_isFile (View.ne_of_isFile hdocument.isFile hdirectory) hnot]
    exact hdocument.isFile

/-- Without the others a document is alone. -/
theorem isAlone_alone (hdirectory : w.view directory = .ok (.directory names))
    (hlooked : ∀ name ∈ names, IsLookedAt w.view directory name)
    (hfound : Found w.view directory names documents) (hp : p ∈ documents) :
    IsAlone w (w.alone directory names documents p) directory p := by
  obtain ⟨left, hleft, hfound'⟩ := exists_found (isLookedAt_alone hlooked)
  have hsingle : left = [p] := by
    rw [← List.perm_singleton,
      List.perm_ext_iff_of_nodup hfound'.nodup (List.nodup_singleton p)]
    intro q
    rw [List.mem_singleton, hfound'.mem_iff, mem_left_iff hdirectory hfound hp]
  obtain ⟨name, -, hdocument, hpath⟩ := (hfound.mem_iff p).1 hp
  have hne : p ≠ directory := View.ne_of_isFile (hpath ▸ hdocument.isFile) hdirectory
  refine ⟨⟨_, World.alone_directory .., hsingle ▸ hleft⟩, ?_, rfl, rfl⟩
  rw [View.read, View.read, World.alone_view hne (by simp)]

/-! ## Runs over directories -/

/-- A document is linted in the same way where lines are printed and links are tried in the same
way. -/
theorem lintDocument_congr (hstdout : v.stdout = w.stdout) (hhost : v.host = w.host)
    (octets : Except FileFault (List UInt8)) :
    lintDocument v s f verbose label octets = lintDocument w s f verbose label octets := by
  have htell : v.tell = w.tell := funext₂ (World.tell_congr hstdout)
  unfold lintDocument lintCheck
  rw [hhost, htell]

/-- A run over a directory ends with the first entry that cannot be looked at. -/
theorem runLint_of_fault {before after : List String} {name : String} {fault : FileFault}
    (hpath : o.path = some path)
    (hdirectory : w.view (normalPath path) = .ok (.directory (before ++ name :: after)))
    (hknown : (o.filter s).KnownTo s.registry)
    (hbefore : ∀ n ∈ before, IsLookedAt w.view (normalPath path) n)
    (hfault : w.view.isFile (childPath (normalPath path) name) = .error fault) :
    runLint w s o = ⟨.empty, .escaped (.file fault (childPath (normalPath path) name))⟩ := by
  unfold runLint
  dsimp only
  rw [hpath, RuleFilter.unknown?_eq_none_iff.2 hknown]
  dsimp only
  rw [hdirectory]
  dsimp only
  rw [documentsIn_of_fault hbefore hfault]

/-- A run over a directory lints its documents. -/
theorem runLint_of_documents (hpath : o.path = some path)
    (hdirectory : w.view (normalPath path) = .ok (.directory names))
    (hdocuments : documentsIn w.view (normalPath path) names = .ok documents)
    (hsome : documents ≠ []) (hknown : (o.filter s).KnownTo s.registry) :
    runLint w s o = (lintDocuments w s (o.filter s) o.verbose
      (documents.map fun p => (p, w.view.read p))).run := by
  unfold runLint
  dsimp only
  rw [hpath, RuleFilter.unknown?_eq_none_iff.2 hknown]
  dsimp only
  rw [hdirectory]
  dsimp only
  rw [hdocuments]
  cases documents with
  | nil => exact absurd rfl hsome
  | cons p rest => rfl

/-- A run over a directory with one document lints it. -/
theorem runLint_of_isAlone (hpath : o.path = some path) (hknown : (o.filter s).KnownTo s.registry)
    (h : IsAlone w v (normalPath path) p) :
    runLint v s o =
      (lintDocument w s (o.filter s) o.verbose p (w.view.read p)).run := by
  obtain ⟨names, hdirectory, hdocuments⟩ := h.listing
  rw [runLint_of_documents hpath hdirectory hdocuments (List.cons_ne_nil p []) hknown,
    List.map_singleton, lintDocuments_cons, h.read, lintDocument_congr h.stdout h.host]
  exact congrArg DocumentRun.run (DocumentRun.andThen_empty _)

/-- A run over documents ends as they come out. -/
theorem DocumentRun.run_ending_eq_escaped_iff {d : DocumentRun} {e : Escaped} :
    d.run.ending = .escaped e ↔ d.ending = .escaped e := by
  obtain ⟨output, ending⟩ := d
  cases ending <;> simp [run]

/-- How a run over the documents of a directory comes out, given the runs over each of them
alone. -/
inductive Merges (w : World) (s : Settings) (o : Options) (documents : List String)
    (alone : String → Run) : Run → Prop
  /-- Every document is linted, and the run fails where one of them does. -/
  | all {r : Run} (hall : ∀ p ∈ documents, ∀ e, (alone p).ending ≠ .escaped e)
    (houtput : r.output = .concat (documents.map fun p => (alone p).output))
    (hending : ((∃ p ∈ documents, Fails s (o.filter s) w.host (w.view.read p)) ∧
        r.ending = .code 1) ∨
      ((∀ p ∈ documents, ¬ Fails s (o.filter s) w.host (w.view.read p)) ∧ r.ending = .code 0)) :
    Merges w s o documents alone r
  /-- A line on a document cannot be printed, and the run ends as that over the document alone. -/
  | cut {before after : List String} {p : String} {fault : Text.EncodingFault}
    (hdocuments : documents = before ++ p :: after)
    (hbefore : ∀ q ∈ before, ∀ e, (alone q).ending ≠ .escaped e)
    (hp : (alone p).ending = .escaped (.output fault)) :
    Merges w s o documents alone
      ⟨.concat ((before ++ [p]).map fun q => (alone q).output), .escaped (.output fault)⟩

/-- Only the runs over the documents matter. -/
theorem Merges.congr {alone alone' : String → Run} {r : Run} (h : Merges w s o documents alone r)
    (heq : ∀ p ∈ documents, alone p = alone' p) : Merges w s o documents alone' r := by
  cases h with
  | all hall houtput hending =>
    refine .all (fun p hp => heq p hp ▸ hall p hp) ?_ hending
    rw [houtput, List.map_congr_left fun p hp => by rw [heq p hp]]
  | @cut before after p fault hdocuments hbefore hp =>
    subst hdocuments
    have hfirst : ∀ q ∈ before ++ [p], alone q = alone' q := fun q hq =>
      heq q (by simp only [List.mem_append, List.mem_cons] at hq ⊢; tauto)
    have houtput : (before ++ [p]).map (fun q => (alone q).output) =
        (before ++ [p]).map fun q => (alone' q).output :=
      List.map_congr_left fun q hq => by rw [hfirst q hq]
    rw [houtput]
    refine .cut rfl (fun q hq => hfirst q (List.mem_append_left _ hq) ▸ hbefore q hq) ?_
    exact hfirst p (List.mem_append_right _ List.mem_cons_self) ▸ hp

/-- Where no error escapes from the runs over the documents, all documents are linted. -/
theorem Merges.of_not_escaped {alone : String → Run} {r : Run} (h : Merges w s o documents alone r)
    (hnot : ∀ p ∈ documents, ∀ e, (alone p).ending ≠ .escaped e) :
    r.output = .concat (documents.map fun p => (alone p).output) ∧
      ((∃ p ∈ documents, Fails s (o.filter s) w.host (w.view.read p)) ∧ r.ending = .code 1 ∨
        (∀ p ∈ documents, ¬ Fails s (o.filter s) w.host (w.view.read p)) ∧ r.ending = .code 0) := by
  cases h with
  | all hall houtput hending => exact ⟨houtput, hending⟩
  | cut hdocuments hbefore hp =>
    exact absurd hp (hnot _ (hdocuments ▸ List.mem_append_right _ List.mem_cons_self) _)

/-- A run over documents from which no error escapes, without the rule on links, is put together
from the runs over each of them. -/
theorem merges_lintDocuments (hknown : (o.filter s).KnownTo s.registry)
    (hlinks : ¬ (o.filter s).Asks linkRule.name)
    (hhandled : ∀ p ∈ documents, Handled s.strict (w.view.read p)) :
    Merges w s o documents
      (fun p => (lintDocument w s (o.filter s) o.verbose p (w.view.read p)).run)
      (lintDocuments w s (o.filter s) o.verbose
        (documents.map fun p => (p, w.view.read p))).run := by
  have hending := fun p (hp : p ∈ documents) =>
    lintDocument_ending w o.verbose p hknown hlinks (hhandled p hp)
  obtain hall | ⟨before, p, after, rfl, hbefore, hp⟩ := forall_or_exists_first
    (fun p => ∀ e, (lintDocument w s (o.filter s) o.verbose p (w.view.read p)).ending ≠ .escaped e)
    documents
  · have hall' : ∀ d ∈ documents.map fun p => (p, w.view.read p), ∀ e,
        (lintDocument w s (o.filter s) o.verbose d.1 d.2).ending ≠ .escaped e :=
      List.forall_mem_map.2 hall
    obtain ⟨houtput, hcode⟩ := lintDocuments_of_forall hall'
    refine .all (fun p hp e heq => hall p hp e (DocumentRun.run_ending_eq_escaped_iff.1 heq)) ?_ ?_
    · rw [DocumentRun.run, houtput, List.map_map]
      rfl
    · rw [DocumentRun.run]
      refine hcode.imp ?_ ?_
      · rintro ⟨⟨d, hd, hfailed⟩, hcode⟩
        obtain ⟨p, hp, rfl⟩ := List.mem_map.1 hd
        refine ⟨⟨p, hp, ?_⟩, by rw [hcode]⟩
        obtain ⟨hfails, -⟩ | ⟨-, hpassed⟩ | ⟨fault, hescaped⟩ := hending p hp
        · exact hfails
        · cases hfailed.symm.trans hpassed
        · exact absurd hescaped (hall p hp _)
      · rintro ⟨hpassed, hcode⟩
        refine ⟨fun p hp => ?_, by rw [hcode]⟩
        obtain ⟨-, hfailed⟩ | ⟨hnot, -⟩ | ⟨fault, hescaped⟩ := hending p hp
        · cases (hpassed _ (List.mem_map_of_mem hp)).symm.trans hfailed
        · exact hnot
        · exact absurd hescaped (hall p hp _)
  · have hmem : p ∈ before ++ p :: after := List.mem_append_right _ List.mem_cons_self
    obtain ⟨fault, hescaped⟩ : ∃ fault,
        (lintDocument w s (o.filter s) o.verbose p (w.view.read p)).ending =
          .escaped (.output fault) := by
      obtain ⟨-, hfailed⟩ | ⟨-, hpassed⟩ | hescaped := hending p hmem
      · exact absurd (fun e heq => by cases hfailed.symm.trans heq) hp
      · exact absurd (fun e heq => by cases hpassed.symm.trans heq) hp
      · exact hescaped
    have hbefore' : ∀ d ∈ before.map fun p => (p, w.view.read p), ∀ e,
        (lintDocument w s (o.filter s) o.verbose d.1 d.2).ending ≠ .escaped e :=
      List.forall_mem_map.2 hbefore
    have hrun := lintDocuments_of_first_escaped (d := (p, w.view.read p)) hbefore' hescaped
      (after.map fun p => (p, w.view.read p))
    have hlines : ((before.map fun p => (p, w.view.read p)) ++ [(p, w.view.read p)]).map
          (fun d => (lintDocument w s (o.filter s) o.verbose d.1 d.2).output) =
        (before ++ [p]).map fun q =>
          (lintDocument w s (o.filter s) o.verbose q (w.view.read q)).run.output := by
      rw [List.map_append, List.map_append, List.map_map]
      rfl
    rw [List.map_append, List.map_cons, hrun, hlines]
    exact .cut rfl
      (fun q hq e heq => hbefore q hq e (DocumentRun.run_ending_eq_escaped_iff.1 heq))
      (DocumentRun.run_ending_eq_escaped_iff.2 hescaped)

/-- A run over a directory of documents from which no error escapes, without the rule on links. The
first entry that cannot be looked at ends it, and then nothing is printed. Otherwise it has the
lines of the runs over each document alone, under the same settings and in the order of the paths,
and it ends with 1 where a document fails and with 0 otherwise; only a line that cannot be printed
ends it before, as it ends the run over that document alone. Each document is alone in a world
without the others. The words for the options make the program run like this under the settings that
it reads. -/
theorem runLint_directory (hpath : o.path = some path)
    (hdirectory : w.view (normalPath path) = .ok (.directory names))
    (hsome : ∃ name ∈ names, IsDocument w.view (normalPath path) name)
    (hhandled : ∀ name ∈ names, IsDocument w.view (normalPath path) name →
      Handled s.strict (w.view.read (childPath (normalPath path) name)))
    (hknown : (o.filter s).KnownTo s.registry) (hlinks : ¬ (o.filter s).Asks linkRule.name) :
    ((∃ before name after fault, names = before ++ name :: after ∧
        (∀ n ∈ before, IsLookedAt w.view (normalPath path) n) ∧
        w.view.isFile (childPath (normalPath path) name) = .error fault ∧
        runLint w s o = ⟨.empty, .escaped (.file fault (childPath (normalPath path) name))⟩) ∨
      (∀ name ∈ names, IsLookedAt w.view (normalPath path) name) ∧
        ∃ documents, documentsIn w.view (normalPath path) names = .ok documents ∧
          Found w.view (normalPath path) names documents ∧
          (∀ alone : String → World,
            (∀ p ∈ documents, IsAlone w (alone p) (normalPath path) p) →
            Merges w s o documents (fun p => runLint (alone p) s o) (runLint w s o)) ∧
          ∀ p ∈ documents,
            IsAlone w (w.alone (normalPath path) names documents p) (normalPath path) p) ∧
    ∀ v, o.Plain → readSettings v o = .ok s →
      run v (Command.lint.word :: o.words) = runLint v s o := by
  refine ⟨?_, fun v hplain hsettings => ?_⟩
  · obtain hlooked | ⟨before, name, after, fault, rfl, hbefore, hfault⟩ :=
      looked_or_fault w.view (normalPath path) names
    · obtain ⟨documents, hdocuments, hfound⟩ := exists_found hlooked
      have hne : documents ≠ [] := by
        obtain ⟨name, hname, hdocument⟩ := hsome
        exact List.ne_nil_of_mem ((hfound.mem_iff _).2 ⟨name, hname, hdocument, rfl⟩)
      have hhandled' : ∀ p ∈ documents, Handled s.strict (w.view.read p) := by
        intro p hp
        obtain ⟨name, hname, hdocument, rfl⟩ := (hfound.mem_iff p).1 hp
        exact hhandled name hname hdocument
      refine .inr ⟨hlooked, documents, hdocuments, hfound, fun alone halone => ?_,
        fun p => isAlone_alone hdirectory hlooked hfound⟩
      rw [runLint_of_documents hpath hdirectory hdocuments hne hknown]
      refine (merges_lintDocuments hknown hlinks hhandled').congr fun p hp => ?_
      exact (runLint_of_isAlone hpath hknown (halone p hp)).symm
    · exact .inl ⟨before, name, after, fault, rfl, hbefore, hfault,
        runLint_of_fault hpath hdirectory hknown hbefore hfault⟩
  · rw [run, Request.ofArguments_words hplain]
    dsimp only
    rw [runCommand, hsettings]

/-! ## Two documents and a text -/

/-- The names in a directory of two documents. -/
def checkNames : List String := ["a.yaml", "b.yml", "notes.txt"]

/-- The paths of the documents. -/
def checkPaths : List String := ["checks/a.yaml", "checks/b.yml"]

/-- A working directory with two documents in a directory, of which the second is no UTF-8 text. -/
def checksWorld (first : Except FileFault Entry) : World where
  cwd := "/work"
  view path :=
    if path = "checks" then .ok (.directory checkNames)
    else if path = "checks/a.yaml" then first
    else if path = "checks/b.yml" then .ok (.file [0xFF])
    else .error .missing
  stdin := []
  stdout := .utf8
  host := .offline

/-- The options of a run over the directory without the rule on links. -/
def checksOptions : Options := ⟨[], ["link-validity"], none, false, some "checks"⟩

/-- The path of the directory is in its normal form. -/
theorem normalPath_checks : normalPath "checks" = "checks" := by decide

section

variable (first : Except FileFault Entry)

/-- The options name a known rule. -/
theorem knownTo_checksOptions :
    (checksOptions.filter .standard).KnownTo Settings.standard.registry :=
  RuleFilter.unknown?_eq_none_iff.1 (by decide +kernel)

/-- The options skip the rule on links. -/
theorem not_asks_checksOptions : ¬ (checksOptions.filter .standard).Asks linkRule.name :=
  fun hasks => hasks.not_skipped (mem_nameSet.2 (by decide))

/-- There is no configuration in the working directory. -/
theorem readSettings_checksWorld :
    readSettings (checksWorld first) checksOptions = .ok .standard := by
  have hpath : (checksWorld first).configPath = "/work/.checklint.yaml" :=
    (by decide +kernel : childPath "/work" configName = "/work/.checklint.yaml")
  have hconfig : (checksWorld first).view (checksWorld first).configPath = .error .missing := by
    rw [hpath]
    rfl
  unfold readSettings
  simp only [checksOptions, hconfig]
  rfl

/-- The second document stands in the directory. -/
theorem isDocument_checksWorld : IsDocument (checksWorld first).view "checks" "b.yml" :=
  ⟨by decide, rfl⟩

/-- The second document has a defect, of which a line can be printed. -/
theorem exists_load_checksWorld : ∃ d,
    Check.load Settings.standard.strict (.octets [0xFF]) = .error (.defect d) ∧
      (checksWorld first).Takes ("Parse error - " ++ "checks/b.yml" ++ ": " ++ d.message) := by
  refine ⟨_, rfl, ?_⟩
  show Text.Encoding.utf8.fault? _ = none
  decide +kernel

/-- No error escapes from what is read of the second document. -/
theorem handled_checksWorld :
    Handled Settings.standard.strict ((checksWorld first).view.read "checks/b.yml") := by
  obtain ⟨d, hload, -⟩ := exists_load_checksWorld first
  exact .defect hload

end

/-- The entries of the directory can be looked at where the first document can be. -/
theorem isLookedAt_checksWorld (entry : Entry) : ∀ name ∈ checkNames,
    IsLookedAt (checksWorld (.ok entry)).view "checks" name := by
  rw [checkNames, List.forall_mem_cons, List.forall_mem_cons, List.forall_mem_singleton]
  refine ⟨?_, ⟨true, rfl⟩, ⟨false, rfl⟩⟩
  cases entry with
  | file octets | locked fault => exact ⟨true, rfl⟩
  | _ => exact ⟨false, rfl⟩

/-- Both documents are found where the first one may not be read. -/
theorem documentsIn_checksWorld :
    documentsIn (checksWorld (.ok (.locked .denied))).view "checks" checkNames =
      .ok checkPaths := by
  have hnames : nameSet checkNames.dropLast = checkNames.dropLast := by
    rw [nameSet, eraseDups_eq_self (by decide)]
    exact List.mergeSort_of_pairwise (by decide)
  have hfound : documentNames (checksWorld (.ok (.locked .denied))).view "checks" checkNames =
      .ok checkNames.dropLast := rfl
  rw [documentsIn, hfound]
  exact congrArg (fun names => Except.ok (names.map (childPath "checks"))) hnames

/-- Each of the documents fails. -/
theorem ending_checksWorld {v : World} (hp : p ∈ checkPaths)
    (halone : IsAlone (checksWorld (.ok (.locked .denied))) v "checks" p) :
    (runLint v .standard checksOptions).ending = .code 1 := by
  rw [runLint_of_isAlone rfl knownTo_checksOptions (normalPath_checks ▸ halone)]
  clear halone
  revert p
  rw [checkPaths, List.forall_mem_cons, List.forall_mem_singleton]
  refine ⟨rfl, ?_⟩
  obtain ⟨d, hload, htakes⟩ := exists_load_checksWorld (.ok (.locked .denied))
  have hread : (checksWorld (.ok (.locked .denied))).view.read "checks/b.yml" = .ok [0xFF] := rfl
  rw [hread, lintDocument, hload]
  dsimp only
  rw [World.tell_of_takes (List.forall_mem_singleton.2 htakes)]
  rfl

/-- A directory with a document that may not be read and one that is no UTF-8 text: both are told
of, as each alone is, and the run fails. -/
theorem runLint_directory_two :
    let w := checksWorld (.ok (.locked .denied))
    (runLint w .standard checksOptions).output = .concat (checkPaths.map fun p =>
        (runLint (w.alone "checks" checkNames checkPaths p) .standard checksOptions).output) ∧
      (runLint w .standard checksOptions).ending = .code 1 ∧
      run w ["lint", "checks", "--exclude-rule", "link-validity"] =
        runLint w .standard checksOptions := by
  intro w
  have hlooked : ∀ name ∈ checkNames, IsLookedAt w.view (normalPath "checks") name :=
    normalPath_checks.symm ▸ isLookedAt_checksWorld (.locked .denied)
  have hsome : ∃ name ∈ checkNames, IsDocument w.view (normalPath "checks") name :=
    ⟨"b.yml", by decide, normalPath_checks.symm ▸ isDocument_checksWorld _⟩
  have hhandled : ∀ name ∈ checkNames, IsDocument w.view (normalPath "checks") name →
      Handled Settings.standard.strict (w.view.read (childPath (normalPath "checks") name)) := by
    rw [normalPath_checks, checkNames, List.forall_mem_cons, List.forall_mem_cons,
      List.forall_mem_singleton]
    exact ⟨fun _ => .unreadable .denied, fun _ => handled_checksWorld _,
      fun hdocument => absurd hdocument.suffix (by decide)⟩
  obtain ⟨hfault | ⟨-, documents, hdocuments, -, hmerges, halone⟩, hrun⟩ :=
    runLint_directory (w := w) (s := .standard) (o := checksOptions) rfl
      (congrArg w.view normalPath_checks) hsome hhandled knownTo_checksOptions
      not_asks_checksOptions
  · obtain ⟨before, name, after, fault, heq, -, hfault, -⟩ := hfault
    obtain ⟨b, hb⟩ := hlooked name (heq ▸ List.mem_append_right _ List.mem_cons_self)
    cases hb.symm.trans hfault
  rw [normalPath_checks] at hdocuments hmerges halone
  obtain rfl : checkPaths = documents :=
    Except.ok.inj (documentsIn_checksWorld.symm.trans hdocuments)
  obtain ⟨houtput, hending⟩ := (hmerges _ halone).of_not_escaped fun p hp e he => by
    cases (ending_checksWorld hp (halone p hp)).symm.trans he
  refine ⟨houtput, ?_, hrun w ⟨by decide, by decide⟩ (readSettings_checksWorld _)⟩
  obtain ⟨-, hending⟩ | ⟨hnone, -⟩ := hending
  · exact hending
  · exact absurd (.unreadable .denied) (hnone "checks/a.yaml" List.mem_cons_self)

/-- An entry that may not be looked at ends a run over a directory, whatever is read of the
documents. -/
theorem not_runLint_directory :
    ¬ ∀ (w : World) (s : Settings) (o : Options) (path : String) (names : List String),
      o.path = some path → w.view (normalPath path) = .ok (.directory names) →
      (∃ name ∈ names, IsDocument w.view (normalPath path) name) →
      (∀ name ∈ names, suffixOf name ∈ documentSuffixes →
        Handled s.strict (w.view.read (childPath (normalPath path) name))) →
      (o.filter s).KnownTo s.registry → ¬ (o.filter s).Asks linkRule.name →
      (runLint w s o).ending = .code 0 ∨ (runLint w s o).ending = .code 1 := by
  intro hall
  let w := checksWorld (.error .denied)
  have hdirectory : w.view (normalPath "checks") =
      .ok (.directory ([] ++ "a.yaml" :: ["b.yml", "notes.txt"])) :=
    congrArg w.view normalPath_checks
  have hfault : w.view.isFile (childPath (normalPath "checks") "a.yaml") = .error .denied := by
    rw [normalPath_checks]
    rfl
  have hhandled : ∀ name ∈ checkNames, suffixOf name ∈ documentSuffixes →
      Handled Settings.standard.strict (w.view.read (childPath (normalPath "checks") name)) := by
    rw [normalPath_checks, checkNames, List.forall_mem_cons, List.forall_mem_cons,
      List.forall_mem_singleton]
    exact ⟨fun _ => .unreadable .denied, fun _ => handled_checksWorld _,
      fun hsuffix => absurd hsuffix (by decide)⟩
  have hcode := hall w .standard checksOptions "checks" checkNames rfl hdirectory
    ⟨"b.yml", by decide, normalPath_checks.symm ▸ isDocument_checksWorld _⟩ hhandled
    knownTo_checksOptions not_asks_checksOptions
  rw [runLint_of_fault rfl hdirectory knownTo_checksOptions nofun hfault] at hcode
  obtain hcode | hcode := hcode <;> cases hcode

end Cli

end CheckDoc
