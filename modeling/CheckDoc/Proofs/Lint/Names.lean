import CheckDoc.Proofs.Lint.Rules
import Mathlib.Data.List.Dedup

/-!
# Names that are repeated

The rule on names tells of each name that an entry before it in the same section has, and of each
value that has the name of a fact. `Subject.repeated` reads a section with the names that it has
seen; here it is the list of those names of the section that occur in front of their own place
(`Subject.repeated_eq_repeats`), so that a name is repeated once less than it occurs
(`count_repeats`), and together with the distinct names the repeats make up the section
(`repeats_perm`). A report tells by its place and its wording which section and which name it is
about, so that reports can be counted (`Check.nameDiagnostics_eq`).
-/

namespace CheckDoc

variable {c : Check} {env : List String} {s t : NamedSection} {m n : String}
  {names front seen : List String}

/-! ## Repeats in a list -/

/-- The names of a list that occur in front of their own place, in order. -/
def repeats (names : List String) : List String :=
  (names.zipIdx.filter fun p => p.1 ∈ names.take p.2).map Prod.fst

namespace Subject

/-- What is repeated behind the names of `front`, which have been seen. -/
theorem repeated_append (hseen : ∀ m, m ∈ seen ↔ m ∈ front) :
    repeated seen names =
      ((names.zipIdx front.length).filter fun p => p.1 ∈ (front ++ names).take p.2).map
        Prod.fst := by
  induction names generalizing front seen with
  | nil => rfl
  | cons n names ih =>
    have hmore : ∀ m, m ∈ n :: seen ↔ m ∈ front ++ [n] := fun m => by
      rw [List.mem_cons, List.mem_append, List.mem_singleton, hseen, or_comm]
    have hrest := ih hmore
    rw [List.length_append, List.length_singleton, List.append_assoc, List.singleton_append]
      at hrest
    rw [repeated, hrest, List.zipIdx_cons, List.filter_cons, List.take_left]
    -- The name itself is repeated where `front` has it.
    by_cases hn : n ∈ front
    · simp [hn, hseen]
    · simp [hn, hseen]

/-- The names that are repeated are those that occur in front of their own place. -/
theorem repeated_eq_repeats (names : List String) : repeated [] names = repeats names :=
  repeated_append fun m => (Iff.rfl : m ∈ [] ↔ m ∈ [])

/-- A name is repeated as often as it occurs, but for the first time where it has not been seen. -/
theorem count_repeated (n : String) (seen names : List String) :
    (repeated seen names).count n = names.count n - if n ∈ seen then 0 else 1 := by
  induction names generalizing seen with
  | nil => simp [repeated]
  | cons m names ih =>
    rw [repeated, List.count_append, ih, List.count_cons]
    by_cases hm : m = n
    · subst hm
      by_cases hseen : m ∈ seen
      · simp [hseen, Nat.add_comm]
      · simp [hseen]
    · have hn : n ≠ m := Ne.symm hm
      by_cases hseen : m ∈ seen
      · simp [hm, hn, hseen]
      · simp [hm, hn, hseen]

end Subject

/-- A name is repeated once less than it occurs. -/
theorem count_repeats (n : String) (names : List String) :
    (repeats names).count n = names.count n - 1 := by
  rw [← Subject.repeated_eq_repeats, Subject.count_repeated, if_neg List.not_mem_nil]

/-- The repeats and the distinct names make up the list. -/
theorem repeats_perm (names : List String) : (repeats names ++ names.dedup).Perm names := by
  rw [List.perm_iff_count]
  intro n
  rw [List.count_append, count_repeats, List.count_dedup]
  have hpos : n ∈ names ↔ 0 < names.count n := List.count_pos_iff.symm
  split_ifs with hn
  · rw [hpos] at hn
    omega
  · rw [hpos] at hn
    omega

/-- There are as many repeats as there are names less the distinct ones. -/
theorem length_repeats (names : List String) :
    (repeats names).length = names.length - names.dedup.length := by
  have hlength := (repeats_perm names).length_eq
  rw [List.length_append] at hlength
  omega

/-! ## The diagnostics of the rule -/

/-- The diagnostics of the rule on names. -/
def Check.nameDiagnostics (c : Check) (env : List String) : List Diagnostic :=
  (c.subject env).uniqueNames.map (Finding.diagnostic c.id "unique-names")

/-- The names of a section in order. -/
def Check.namesOf (c : Check) : NamedSection → List String
  | .facts => c.facts.map (·.name)
  | .values => c.values.map (·.name)
  | .expectations => c.expectations.map (·.name)

/-- The diagnostic on a name that an entry in front of it has. -/
def Check.duplicate (c : Check) (s : NamedSection) (n : String) : Diagnostic :=
  ⟨c.id, s.key ++ "." ++ n, "unique-names", .error,
    "Duplicate " ++ s.entry ++ " name '" ++ n ++ "'"⟩

/-- The diagnostic on a value that has the name of a fact. -/
def Check.collision (c : Check) (n : String) : Diagnostic :=
  ⟨c.id, "values." ++ n, "unique-names", .error,
    "Value name '" ++ n ++ "' collides with a fact of the same name"⟩

namespace Check

/-- The diagnostics on the repeats of a section. -/
def duplicates (c : Check) (s : NamedSection) : List Diagnostic :=
  (repeats (c.namesOf s)).map (c.duplicate s)

/-- The diagnostics on the values that have the name of a fact. -/
def collisions (c : Check) : List Diagnostic :=
  ((c.namesOf .values).filter fun n => n ∈ c.namesOf .facts).map c.collision

/-- The rule goes through the sections and then through the values once more. -/
theorem nameDiagnostics_eq_append (c : Check) (env : List String) :
    c.nameDiagnostics env =
      c.duplicates .facts ++ c.duplicates .values ++ c.duplicates .expectations ++
        c.collisions := by
  have hcontains : (c.facts.map (·.name)).contains = fun n => decide (n ∈ c.namesOf .facts) := by
    funext n
    exact List.contains_eq_mem n _
  simp only [nameDiagnostics, Subject.uniqueNames, Check.subject, List.map_append, List.map_map,
    Subject.repeated_eq_repeats, hcontains]
  rfl

/-! ## Reports told apart -/

/-- The place of a diagnostic on a repeated name begins as the key of the section does. -/
theorem head?_path_duplicate (c : Check) (s : NamedSection) (n : String) :
    (c.duplicate s n).path.toList.head? = s.key.toList.head? := by
  have hkey : s.key.toList.head? ≠ none := by cases s <;> decide
  obtain ⟨k, hk⟩ := Option.ne_none_iff_exists'.1 hkey
  rw [duplicate, String.toList_append, String.toList_append, List.append_assoc, List.head?_append,
    hk, Option.some_or]

/-- A diagnostic whose place is in a section is about a repeated name of it. -/
theorem duplicate_eq_of_path (h : (c.duplicate s m).path = t.key ++ "." ++ n) : s = t ∧ m = n := by
  have hhead : s.key.toList.head? = t.key.toList.head? := by
    rw [← head?_path_duplicate c s m, h, ← head?_path_duplicate c t n]
    rfl
  have hst : s = t := by
    revert hhead
    cases s <;> cases t <;> decide
  subst hst
  exact ⟨rfl, String.append_right_inj _ |>.1 h⟩

/-- A diagnostic tells its section and its name. -/
theorem duplicate_inj : c.duplicate s m = c.duplicate t n ↔ s = t ∧ m = n := by
  constructor
  · intro h
    exact duplicate_eq_of_path (congrArg Diagnostic.path h)
  · rintro ⟨rfl, rfl⟩
    rfl

/-- A diagnostic on a value with the name of a fact tells the name. -/
theorem collision_inj : c.collision m = c.collision n ↔ m = n := by
  constructor
  · intro h
    exact String.append_right_inj _ |>.1 (congrArg Diagnostic.path h)
  · rintro rfl
    rfl

/-- The wording of a repeated name is not that of a value with the name of a fact. -/
theorem duplicate_ne_collision : c.duplicate s m ≠ c.collision n := by
  intro h
  have hhead := congrArg (fun d => d.message.toList.head?) h
  simp [duplicate, collision, String.toList_append] at hhead

/-- How often a section is told of a repeated name. -/
theorem count_duplicates (c : Check) (s t : NamedSection) (n : String) :
    (c.duplicates s).count (c.duplicate t n) = if s = t then (c.namesOf t).count n - 1 else 0 := by
  split_ifs with hst
  · subst hst
    rw [duplicates, List.count_map_of_injective _ _ fun _ _ h => (duplicate_inj.1 h).2,
      count_repeats]
  · refine List.count_eq_zero.2 fun hmem => ?_
    obtain ⟨m, -, heq⟩ := List.mem_map.1 hmem
    exact hst (duplicate_inj.1 heq).1

/-- How many diagnostics on the repeats of a section are about a section. -/
theorem countP_duplicates (c : Check) (s t : NamedSection) :
    (c.duplicates s).countP (fun d => d ∈ (c.namesOf t).map (c.duplicate t)) =
      if s = t then (c.namesOf t).length - (c.namesOf t).dedup.length else 0 := by
  split_ifs with hst
  · subst hst
    rw [← length_repeats, ← List.length_map (c.duplicate s), ← duplicates, List.countP_eq_length]
    intro d hd
    -- Every repeat is a name of the section.
    obtain ⟨n, hn, rfl⟩ := List.mem_map.1 hd
    have hmem : n ∈ c.namesOf s := (repeats_perm _).subset (List.mem_append_left _ hn)
    exact decide_eq_true (List.mem_map_of_mem hmem)
  · refine List.countP_eq_zero.2 fun d hd hmem => ?_
    obtain ⟨m, -, rfl⟩ := List.mem_map.1 hd
    obtain ⟨n, -, heq⟩ := List.mem_map.1 (of_decide_eq_true hmem)
    exact hst (duplicate_inj.1 heq).1.symm

/-- No value with the name of a fact is told of as a repeated name. -/
theorem duplicate_notMem_collisions : c.duplicate s n ∉ c.collisions := by
  intro hmem
  obtain ⟨m, -, heq⟩ := List.mem_map.1 hmem
  exact duplicate_ne_collision heq.symm

/-- No repeated name is told of as a value with the name of a fact. -/
theorem collision_notMem_duplicates : c.collision n ∉ c.duplicates s := by
  intro hmem
  obtain ⟨m, -, heq⟩ := List.mem_map.1 hmem
  exact duplicate_ne_collision heq

/-- How often a value with the name of a fact is told of. -/
theorem count_collisions (c : Check) (n : String) :
    c.collisions.count (c.collision n) =
      if n ∈ c.namesOf .facts then (c.namesOf .values).count n else 0 := by
  rw [collisions, List.count_map_of_injective _ _ fun _ _ => collision_inj.1]
  split_ifs with hn
  · exact List.count_filter (decide_eq_true hn)
  · exact List.count_eq_zero.2 fun hmem => hn (by simpa using (List.mem_filter.1 hmem).2)

/-- No value with the name of a fact is told of as a repeated name of a section. -/
theorem countP_collisions (c : Check) (s : NamedSection) :
    c.collisions.countP (fun d => d ∈ (c.namesOf s).map (c.duplicate s)) = 0 := by
  refine List.countP_eq_zero.2 fun d hd hmem => ?_
  obtain ⟨m, -, rfl⟩ := List.mem_map.1 (of_decide_eq_true hmem)
  exact duplicate_notMem_collisions hd

/-- Of an expectation it is told only that its name is repeated. -/
theorem eq_duplicate_of_path {d : Diagnostic} (hd : d ∈ c.nameDiagnostics env)
    (hpath : d.path = "expectations." ++ n) : d = c.duplicate .expectations n := by
  have hduplicates : ∀ s, d ∈ c.duplicates s → d = c.duplicate .expectations n := by
    intro s hs
    obtain ⟨m, -, rfl⟩ := List.mem_map.1 hs
    obtain ⟨rfl, rfl⟩ := duplicate_eq_of_path (t := .expectations) hpath
    rfl
  rw [nameDiagnostics_eq_append] at hd
  simp only [List.mem_append] at hd
  rcases hd with ((hd | hd) | hd) | hd
  · exact hduplicates _ hd
  · exact hduplicates _ hd
  · exact hduplicates _ hd
  · -- Values have places of their own.
    obtain ⟨m, -, rfl⟩ := List.mem_map.1 hd
    have hhead := congrArg (fun p => p.toList.head?) hpath
    simp [collision, String.toList_append] at hhead

/-- The rule on names tells first of the repeated names of the facts, then of those of the values
and of the expectations, and then of the values that have the name of a fact, each in the order of
its list. A name that occurs `m` times in a section is told of `m - 1` times there, and a section as
often as it has names less the distinct ones; each value with the name of a fact is told of, also
where its name is repeated. Nothing is told exactly where the names of each section differ and no
value has the name of a fact, and of an expectation only that an expectation in front of it has its
name. -/
theorem nameDiagnostics_eq (c : Check) (env : List String) :
    (c.nameDiagnostics env =
      ([.facts, .values, .expectations].flatMap fun s =>
        (repeats (c.namesOf s)).map (c.duplicate s)) ++
      ((c.namesOf .values).filter fun n => n ∈ c.namesOf .facts).map c.collision) ∧
    (∀ s n, (c.nameDiagnostics env).count (c.duplicate s n) = (c.namesOf s).count n - 1) ∧
    (∀ s, (c.nameDiagnostics env).countP (fun d => d ∈ (c.namesOf s).map (c.duplicate s)) =
      (c.namesOf s).length - (c.namesOf s).dedup.length) ∧
    (∀ n, (c.nameDiagnostics env).count (c.collision n) =
      if n ∈ c.namesOf .facts then (c.namesOf .values).count n else 0) ∧
    (c.nameDiagnostics env = [] ↔ c.HasUniqueNames) ∧
    (∀ d ∈ c.nameDiagnostics env, ∀ n, d.path = "expectations." ++ n →
      d = c.duplicate .expectations n) := by
  have happend := c.nameDiagnostics_eq_append env
  refine ⟨?_, fun s n => ?_, fun s => ?_, fun n => ?_, ?_, fun d hd n => eq_duplicate_of_path hd⟩
  · rw [happend]
    simp [duplicates, collisions, List.append_assoc]
  · have hnone := List.count_eq_zero.2 (duplicate_notMem_collisions (c := c) (s := s) (n := n))
    rw [happend]
    simp only [List.count_append, count_duplicates, hnone]
    cases s <;> simp
  · rw [happend]
    simp only [List.countP_append, countP_duplicates, countP_collisions]
    cases s <;> simp
  · have hnone := fun s =>
      List.count_eq_zero.2 (collision_notMem_duplicates (c := c) (s := s) (n := n))
    rw [happend]
    simp only [List.count_append, hnone, count_collisions, Nat.zero_add]
  · rw [nameDiagnostics, List.map_eq_nil_iff, Check.uniqueNames_eq_nil_iff]

end Check

end CheckDoc
