import CheckDoc.Cli.Arguments

/-!
# Arguments that stand for options

Options are written as words: the path, each rule after its option, the configuration after its own,
and the option to log. Where no value looks like an option, the words are read back as the options
(`Request.ofArguments_words`).
-/

namespace CheckDoc.Cli

/-- Whether a word does not look like an option. -/
def IsPlain (word : String) : Prop := word.toList.head? ≠ some '-'

instance : DecidablePred IsPlain := fun _ => inferInstanceAs (Decidable (_ ≠ _))

/-- The long spelling of an option. -/
def Flag.word (f : Flag) : String := f.spellings.getLast?.getD ""

/-- The options with a value that are asked for, in the order of the words. -/
def Options.values (o : Options) : List (Flag × String) :=
  o.rules.map (Flag.rule, ·) ++ o.skipped.map (Flag.excludeRule, ·) ++
    o.config.toList.map (Flag.config, ·)

/-- The options with a value are three. -/
theorem Options.flag_of_mem_values {o : Options} {v : Flag × String} (hv : v ∈ o.values) :
    v.1 = .rule ∨ v.1 = .excludeRule ∨ v.1 = .config := by
  simp only [values, List.mem_append, List.mem_map] at hv
  rcases hv with (⟨_, -, rfl⟩ | ⟨_, -, rfl⟩) | ⟨_, -, rfl⟩
  · exact .inl rfl
  · exact .inr (.inl rfl)
  · exact .inr (.inr rfl)

/-- The words for some options, after that for the command. -/
def Options.words (o : Options) : List String :=
  o.path.toList ++ o.values.flatMap (fun v => [v.1.word, v.2]) ++
    if o.verbose then [Flag.verbose.word] else []

/-- Whether no value of some options looks like an option. -/
structure Options.Plain (o : Options) : Prop where
  /-- The path does not. -/
  path : ∀ path ∈ o.path, IsPlain path
  /-- The rules and the configuration do not. -/
  values : ∀ v ∈ o.values, IsPlain v.2

/-! ## Words -/

section

variable {p : Page} {ws : List Word} {rest : List String}

/-- A word that does not look like an option stands for itself. -/
theorem Page.classify_of_isPlain {w : String} (h : IsPlain w) : p.classify w = .ok (.plain w) :=
  if_pos h

/-- A word that does not look like an option does not end the options. -/
theorem IsPlain.ne_dashes {w : String} (h : IsPlain w) : w ≠ "--" := by
  rintro rfl
  exact h rfl

/-- The long spelling of an option stands for it. -/
theorem classify_word {f : Flag} (hf : f ∈ (Page.command .lint).flags) :
    f.word ≠ "--" ∧ (Page.command .lint).classify f.word = .ok (.option f false none) := by
  simp only [Page.flags, List.mem_cons, List.not_mem_nil, or_false] at hf
  rcases hf with rfl | rfl | rfl | rfl | rfl
  all_goals exact ⟨by decide, rfl⟩

/-- The words of a page start with what the first one stands for. -/
theorem Page.words_cons {w : String} {meaning : Word} {after : Option (List String)}
    (hw : w ≠ "--") (hmeaning : p.classify w = .ok meaning) (h : p.words rest = .ok (ws, after)) :
    p.words (w :: rest) = .ok (meaning :: ws, after) := by
  rw [Page.words, if_neg hw, hmeaning]
  show (p.words rest).bind _ = _
  rw [h]
  rfl

/-- An option with its value stands for both, in front of more words. -/
theorem words_values {values : List (Flag × String)}
    (hflags : ∀ v ∈ values, v.1 ∈ (Page.command .lint).flags) (hplain : ∀ v ∈ values, IsPlain v.2)
    (h : (Page.command .lint).words rest = .ok (ws, none)) :
    (Page.command .lint).words (values.flatMap (fun v => [v.1.word, v.2]) ++ rest) =
      .ok (values.flatMap (fun v => [.option v.1 false none, .plain v.2]) ++ ws, none) := by
  induction values with
  | nil => exact h
  | cons v values ih =>
    rw [List.forall_mem_cons] at hflags hplain
    obtain ⟨hword, hmeaning⟩ := classify_word hflags.1
    exact Page.words_cons hword hmeaning (Page.words_cons hplain.1.ne_dashes
      (Page.classify_of_isPlain hplain.1) (ih hflags.2 hplain.2))

end

/-! ## Options -/

/-- Options with their values are taken in order. -/
theorem read_values {p : Page} {r : Reading} {values : List (Flag × String)}
    (hvalues : ∀ v ∈ values, v.1.takesValue = true) (rest : List Word) :
    ∃ atPath, p.read r (values.flatMap (fun v => [.option v.1 false none, .plain v.2]) ++ rest) =
      p.read { r with
        options := values.foldl (fun o v => o.set v.1 v.2) r.options, atPath := atPath } rest := by
  induction values generalizing r with
  | nil => exact ⟨r.atPath, rfl⟩
  | cons v values ih =>
    rw [List.forall_mem_cons] at hvalues
    obtain ⟨atPath, hread⟩ := ih (r := { r with
      options := r.options.set v.1 v.2, atPath := false }) hvalues.2
    refine ⟨atPath, ?_⟩
    rw [List.flatMap_cons, List.append_assoc]
    show p.read r (.option v.1 false none :: .plain v.2 :: _) = _
    rw [Page.read, if_pos hvalues.1]
    exact hread

/-- The rules that are asked for add up. -/
theorem foldl_set_rule (names : List String) (o : Options) :
    names.foldl (fun o name => o.set .rule name) o = { o with rules := o.rules ++ names } := by
  induction names generalizing o with
  | nil => simp
  | cons name names ih =>
    rw [List.foldl_cons, ih]
    simp [Options.set]

/-- The rules that are skipped add up. -/
theorem foldl_set_excludeRule (names : List String) (o : Options) :
    names.foldl (fun o name => o.set .excludeRule name) o =
      { o with skipped := o.skipped ++ names } := by
  induction names generalizing o with
  | nil => simp
  | cons name names ih =>
    rw [List.foldl_cons, ih]
    simp [Options.set]

/-- The values of some options set them. -/
theorem foldl_set_values (o : Options) (path : Option String) :
    o.values.foldl (fun o v => o.set v.1 v.2) { Options.none with path := path } =
      { o with verbose := false, path := path } := by
  obtain ⟨rules, skipped, config, verbose, path'⟩ := o
  simp only [Options.values, List.foldl_append, List.foldl_map, foldl_set_rule,
    foldl_set_excludeRule, Options.none, List.nil_append]
  cases config <;> rfl

/-- What the words for some options stand for. -/
def Options.meanings (o : Options) : List Word :=
  o.path.toList.map .plain ++ (o.values.flatMap (fun v => [.option v.1 false .none, .plain v.2]) ++
    if o.verbose then [.option .verbose false .none] else [])

/-- The words for some options stand for the options and their values. -/
theorem words_eq_meanings {o : Options} (h : o.Plain) :
    (Page.command .lint).words o.words = .ok (o.meanings, none) := by
  have hflags : ∀ v ∈ o.values, v.1 ∈ (Page.command .lint).flags := by
    intro v hv
    rcases Options.flag_of_mem_values hv with hflag | hflag | hflag <;> rw [hflag] <;> decide
  have hverbose : (Page.command .lint).words (if o.verbose then [Flag.verbose.word] else []) =
      .ok (if o.verbose then [.option .verbose false none] else [], none) := by
    cases o.verbose <;> rfl
  have hvalues := words_values hflags h.values hverbose
  rw [Options.words, Options.meanings, List.append_assoc]
  cases hpath : o.path with
  | none => exact hvalues
  | some path =>
    have hplain := h.path path hpath
    exact Page.words_cons hplain.ne_dashes (Page.classify_of_isPlain hplain) hvalues

/-- The words for some options are read as them. -/
theorem read_meanings (o : Options) : ∃ pathFree atPath,
    (Page.command .lint).read ⟨.none, true, false, []⟩ o.meanings =
      .ok ⟨o, pathFree, atPath, []⟩ := by
  have hvalues : ∀ v ∈ o.values, v.1.takesValue = true := by
    intro v hv
    rcases Options.flag_of_mem_values hv with hflag | hflag | hflag <;> rw [hflag] <;> rfl
  -- After the path the values are read, and then the option to log.
  have hrest : ∀ pathFree atPath, ∃ atPath',
      (Page.command .lint).read ⟨{ Options.none with path := o.path }, pathFree, atPath, []⟩
        (o.values.flatMap (fun v => [.option v.1 false none, .plain v.2]) ++
          if o.verbose then [.option .verbose false none] else []) =
        .ok ⟨o, pathFree, atPath', []⟩ := by
    intro pathFree atPath
    obtain ⟨atPath', hread⟩ := read_values (p := .command .lint)
      (r := ⟨{ Options.none with path := o.path }, pathFree, atPath, []⟩) hvalues
      (if o.verbose then [.option .verbose false none] else [])
    rw [foldl_set_values] at hread
    rw [hread]
    obtain ⟨rules, skipped, config, verbose, path⟩ := o
    cases verbose with
    | false => exact ⟨atPath', rfl⟩
    | true => exact ⟨false, rfl⟩
  unfold Options.meanings
  cases hpath : o.path with
  | none =>
    rw [hpath] at hrest
    obtain ⟨atPath, hread⟩ := hrest true false
    exact ⟨true, atPath, hread⟩
  | some path =>
    rw [hpath] at hrest
    obtain ⟨atPath, hread⟩ := hrest false true
    exact ⟨false, atPath, hread⟩

/-- Options are read back from their words. -/
theorem Request.ofArguments_words {o : Options} (h : o.Plain) :
    Request.ofArguments (Command.lint.word :: o.words) = .ok (.run .lint o) := by
  obtain ⟨pathFree, atPath, hread⟩ := read_meanings o
  have hcommand : Command.lint.read o.words = .ok ⟨o, pathFree, atPath, []⟩ := by
    rw [Command.read, words_eq_meanings h]
    show ((Page.command .lint).read ⟨.none, true, false, []⟩ o.meanings).bind _ = _
    rw [hread]
    rfl
  show readCommand [] Command.lint.word o.words = _
  have hfind : (Command.all.find? fun c => c.word = Command.lint.word) = some .lint := by decide
  rw [readCommand, hfind]
  dsimp only
  rw [hcommand]
  rfl

end CheckDoc.Cli
