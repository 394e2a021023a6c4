import CheckDoc.Proofs.Document.Sites

/-!
# Each expression has its own site

An `Address` says where an expression stands in a Check, and `Check.SiteAt` what the site at an
address is: it depends on nothing but the text there. `Check.located` lists the addresses of a Check
with their sites. Without the addresses it is the list of all sites (`map_snd_located`), it has
exactly the sites at addresses (`mem_located`), and its addresses ascend in the order of the
document (`ascends_located`).

A message in which a segment is not closed has one address as a whole. The segments that are closed
in front of that one have no sites.
-/

namespace CheckDoc

/-- The places of a Check where an expression can stand. -/
inductive Address where
  /-- A condition of a value, by their indices. -/
  | condition (value index : Nat)
  /-- An expression field of an expectation. -/
  | field (expectation : Nat) (field : ExprField)
  /-- A segment of a message, where all segments are closed. -/
  | segment (expectation : Nat) (field : MessageField) (index : Nat)
  /-- A message with a segment that is not closed. -/
  | message (expectation : Nat) (field : MessageField)

namespace Address

/-- The numbers that order the addresses of a document. -/
def key : Address → List Nat
  | condition i j => [0, i, j]
  | field i f => [1, i, 0, ExprField.all.idxOf f]
  | segment i f k => [1, i, 1, MessageField.all.idxOf f, k]
  | message i f => [1, i, 1, MessageField.all.idxOf f]

/-- The order of the document: values before expectations, and the expression fields of an
expectation before its messages. -/
def Before (a b : Address) : Prop := a.key < b.key

end Address

/-- The site at an address of a Check is made of the text there, and of the name of the value or
expectation that the text belongs to. -/
inductive Check.SiteAt (c : Check) : Address → Site → Prop
  /-- The text of a condition. -/
  | condition {i j : Nat} {v : Value} {k : Condition} (hv : c.values[i]? = some v)
    (hk : v.conditions[j]? = some k) :
    c.SiteAt (.condition i j) ⟨.condition v.name j, k.when, Tree.expr <$> Expr.parse k.when⟩
  /-- The text of an expression field that is set. -/
  | field {i : Nat} {x : Expectation} {f : ExprField} {t : String}
    (hx : c.expectations[i]? = some x) (ht : x.expr? f = some t) :
    c.SiteAt (.field i f) ⟨.expr x.name f, t, f.parse t⟩
  /-- The text of a segment; a fault in it is told at its place in the message. -/
  | segment {i k : Nat} {x : Expectation} {f : MessageField} {template : String}
    {segments : List Segment} {s : Segment} (hx : c.expectations[i]? = some x)
    (hf : x.message? f = some template) (hcut : Segment.Cut .start template.toList segments)
    (hs : segments[k]? = some s) :
    c.SiteAt (.segment i f k) ⟨.message x.name f, s.source,
      Tree.expr <$> (Expr.parse s.source).mapError fun fault =>
        ⟨fault.cause, s.origin.within fault.position⟩⟩
  /-- A message whose segment behind `front` is not closed. -/
  | message {i : Nat} {x : Expectation} {f : MessageField} {template : String} {front : List Char}
    (hx : c.expectations[i]? = some x) (hf : x.message? f = some template)
    (hopen : Segment.OpenAfter .start template.toList front) :
    c.SiteAt (.message i f) ⟨.message x.name f, template,
      .error ⟨.unterminatedSegment, Position.start.after front⟩⟩

/-! ## The sites with their addresses -/

/-- The sites of a template with their addresses. -/
def templateLocated (i : Nat) (f : MessageField) (place : SitePlace) (template : String) :
    List (Address × Site) :=
  match Segment.ofTemplate template with
  | .error fault => [(.message i f, ⟨place, template, .error fault⟩)]
  | .ok segments => segments.zipIdx.map fun (s, k) => (.segment i f k, s.site place)

/-- The sites of the `i`-th value with their addresses. -/
def Value.located (v : Value) (i : Nat) : List (Address × Site) :=
  v.conditions.zipIdx.map fun (k, j) => (.condition i j, v.site j k)

/-- The sites of the `i`-th expectation with their addresses. -/
def Expectation.located (x : Expectation) (i : Nat) : List (Address × Site) :=
  (ExprField.all.flatMap fun f =>
    (x.expr? f).toList.map fun t => (.field i f, x.site f t)) ++
  MessageField.all.flatMap fun f =>
    (x.message? f).toList.flatMap (templateLocated i f (.message x.name f))

/-- The sites of a Check with their addresses. -/
def Check.located (c : Check) : List (Address × Site) :=
  (c.values.zipIdx.flatMap fun (v, i) => v.located i) ++
    c.expectations.zipIdx.flatMap fun (x, i) => x.located i

/-- What the elements of a list give with addresses, their addresses aside. -/
theorem map_snd_flatMap_zipIdx {α β γ : Type} (l : List α) {f : α → Nat → List (β × γ)}
    {g : α → List γ} (hf : ∀ x i, (f x i).map (·.2) = g x) :
    (l.zipIdx.flatMap fun (x, i) => f x i).map (·.2) = l.flatMap g := by
  simp only [List.map_flatMap, hf]
  conv_rhs => rw [← List.zipIdx_map_fst 0 l, List.flatMap_map]

/-- The sites of a template, their addresses aside. -/
theorem map_snd_templateLocated (i : Nat) (f : MessageField) (place : SitePlace)
    (template : String) :
    (templateLocated i f place template).map (·.2) = templateSites place template := by
  unfold templateLocated templateSites
  cases Segment.ofTemplate template with
  | error fault => rfl
  | ok segments =>
    have hfst : (segments.zipIdx.map fun x => x.1.site place) = segments.map (·.site place) := by
      conv_rhs => rw [← List.zipIdx_map_fst 0 segments, List.map_map]
      rfl
    simp only [List.map_map, Function.comp_def, hfst]
    rfl

/-- The sites of a value, their addresses aside. -/
theorem Value.map_snd_located (v : Value) (i : Nat) : (v.located i).map (·.2) = v.sites := by
  rw [Value.located, List.map_map]
  rfl

/-- The sites of an expectation, their addresses aside. -/
theorem Expectation.map_snd_located (x : Expectation) (i : Nat) :
    (x.located i).map (·.2) = x.sites := by
  simp only [Expectation.located, Expectation.sites, List.map_append, List.map_flatMap,
    List.map_map, map_snd_templateLocated]
  rfl

/-- The sites of a Check, their addresses aside. -/
theorem Check.map_snd_located (c : Check) : c.located.map (·.2) = c.sites := by
  rw [Check.located, Check.sites, List.map_append,
    map_snd_flatMap_zipIdx _ Value.map_snd_located,
    map_snd_flatMap_zipIdx _ Expectation.map_snd_located]

/-! ## What is located -/

/-- The site of a segment is read from its text alone. -/
theorem Segment.site_eq (place : SitePlace) (s : Segment) :
    s.site place = ⟨place, s.source, Tree.expr <$> (Expr.parse s.source).mapError fun fault =>
      ⟨fault.cause, s.origin.within fault.position⟩⟩ := by
  have hparse : s.parse = (Expr.parse s.source).mapError fun fault =>
      ⟨fault.cause, s.origin.within fault.position⟩ := by
    unfold Segment.parse
    cases Expr.parse s.source with
    | ok e => rfl
    | error fault => rfl
  rw [Segment.site, hparse]

/-- The sites of a template are those of its segments, or that of the whole where one of them is not
closed. -/
theorem mem_templateLocated {i : Nat} {f : MessageField} {place : SitePlace} {template : String}
    {a : Address} {s : Site} :
    (a, s) ∈ templateLocated i f place template ↔
      (∃ segments, Segment.Cut .start template.toList segments ∧
        ∃ k segment, segments[k]? = some segment ∧ a = .segment i f k ∧ s = segment.site place) ∨
      ∃ front, Segment.OpenAfter .start template.toList front ∧ a = .message i f ∧
        s = ⟨place, template, .error ⟨.unterminatedSegment, Position.start.after front⟩⟩ := by
  unfold templateLocated
  simp only [← Segment.scan_eq_ok_iff]
  cases hscan : Segment.ofTemplate template with
  | error fault =>
    rw [Segment.ofTemplate] at hscan
    simp only [hscan, List.mem_singleton, Prod.mk.injEq]
    constructor
    · rintro ⟨rfl, rfl⟩
      obtain ⟨front, hopen, rfl⟩ := Segment.scan_eq_error_iff.1 hscan
      exact .inr ⟨front, hopen, rfl, rfl⟩
    · rintro (⟨_, hcut, -⟩ | ⟨front, hopen, rfl, rfl⟩)
      · cases hcut
      · have hfault := hscan.symm.trans hopen.scan_eq
        rw [Except.error.inj hfault]
        exact ⟨rfl, rfl⟩
  | ok segments =>
    rw [Segment.ofTemplate] at hscan
    simp only [List.mem_map, Prod.exists, List.mem_zipIdx_iff_getElem?, Prod.mk.injEq]
    constructor
    · rintro ⟨segment, k, hk, rfl, rfl⟩
      exact .inl ⟨segments, hscan, k, segment, hk, rfl, rfl⟩
    · rintro (⟨_, hcut, k, segment, hk, rfl, rfl⟩ | ⟨front, hopen, -⟩)
      · rw [hscan] at hcut
        cases hcut
        exact ⟨segment, k, hk, rfl, rfl⟩
      · rw [hopen.scan_eq] at hscan
        cases hscan

/-- The sites of a value are at its conditions. -/
theorem Value.mem_located {v : Value} {i : Nat} {a : Address} {s : Site} :
    (a, s) ∈ v.located i ↔
      ∃ j k, v.conditions[j]? = some k ∧ a = .condition i j ∧ s = v.site j k := by
  simp only [Value.located, List.mem_map, Prod.exists, List.mem_zipIdx_iff_getElem?,
    Prod.mk.injEq]
  constructor
  · rintro ⟨k, j, hk, rfl, rfl⟩
    exact ⟨j, k, hk, rfl, rfl⟩
  · rintro ⟨j, k, hk, rfl, rfl⟩
    exact ⟨k, j, hk, rfl, rfl⟩

/-- The sites of an expectation are at its fields. -/
theorem Expectation.mem_located {x : Expectation} {i : Nat} {a : Address} {s : Site} :
    (a, s) ∈ x.located i ↔
      (∃ f t, x.expr? f = some t ∧ a = .field i f ∧ s = x.site f t) ∨
      ∃ f template, x.message? f = some template ∧
        (a, s) ∈ templateLocated i f (.message x.name f) template := by
  have hexpr : ∀ f : ExprField, f ∈ ExprField.all := fun f => by cases f <;> decide
  have hmessage : ∀ f : MessageField, f ∈ MessageField.all := fun f => by cases f <;> decide
  simp only [Expectation.located, List.mem_append, List.mem_flatMap, List.mem_map,
    Option.mem_toList, hexpr, hmessage, true_and, Prod.mk.injEq, eq_comm]

/-- What is located is at its address. -/
theorem Check.mem_located {c : Check} {a : Address} {s : Site} :
    (a, s) ∈ c.located ↔ c.SiteAt a s := by
  simp only [Check.located, List.mem_append, List.mem_flatMap, Prod.exists,
    List.mem_zipIdx_iff_getElem?, Value.mem_located, Expectation.mem_located, mem_templateLocated]
  constructor
  · rintro (⟨v, i, hv, j, k, hk, rfl, rfl⟩ | ⟨x, i, hx, ⟨f, t, ht, rfl, rfl⟩ |
      ⟨f, template, hf, ⟨segments, hcut, k, segment, hk, rfl, rfl⟩ | ⟨front, hopen, rfl, rfl⟩⟩⟩)
    · exact .condition hv hk
    · exact .field hx ht
    · rw [Segment.site_eq]
      exact .segment hx hf hcut hk
    · exact .message hx hf hopen
  · intro h
    cases h with
    | condition hv hk => exact .inl ⟨_, _, hv, _, _, hk, rfl, rfl⟩
    | field hx ht => exact .inr ⟨_, _, hx, .inl ⟨_, _, ht, rfl, rfl⟩⟩
    | segment hx hf hcut hs =>
      exact .inr ⟨_, _, hx, .inr ⟨_, _, hf, .inl ⟨_, hcut, _, _, hs, rfl,
        (Segment.site_eq _ _).symm⟩⟩⟩
    | message hx hf hopen => exact .inr ⟨_, _, hx, .inr ⟨_, _, hf, .inr ⟨_, hopen, rfl, rfl⟩⟩⟩

/-! ## The order of the addresses -/

/-- Addresses that ascend in the order of the document, all of them with numbers that begin with
`p`. -/
structure Ascends (p : List Nat) (l : List (Address × Site)) : Prop where
  /-- Each address is before the later ones. -/
  order : l.Pairwise fun x y => x.1.Before y.1
  /-- The addresses have a part of the document in common. -/
  common : ∀ x ∈ l, p <+: x.1.key

/-- A single address ascends. -/
theorem ascends_singleton {p : List Nat} {x : Address × Site} (hx : p <+: x.1.key) :
    Ascends p [x] :=
  ⟨List.pairwise_singleton _ _, fun _ hy => List.mem_singleton.1 hy ▸ hx⟩

/-- Addresses in an earlier part of the document are before those in a later one. -/
theorem before_of_prefix {p : List Nat} {m n : Nat} {a b : Address} (hmn : m < n)
    (ha : p ++ [m] <+: a.key) (hb : p ++ [n] <+: b.key) : a.Before b := by
  obtain ⟨s, hs⟩ := ha
  obtain ⟨t, ht⟩ := hb
  rw [Address.Before, ← hs, ← ht, List.append_assoc, List.append_assoc]
  exact List.append_left_lt (List.cons_lt_cons_iff.2 (.inl hmn))

/-- Addresses that ascend in parts of the document, one for each element of a list, ascend where the
parts do. -/
theorem ascends_flatMap {α : Type} {p : List Nat} {l : List α} {f : α → List (Address × Site)}
    (rank : α → Nat) (hrank : l.Pairwise fun x y => rank x < rank y)
    (hf : ∀ x ∈ l, Ascends (p ++ [rank x]) (f x)) : Ascends p (l.flatMap f) where
  order := by
    refine List.pairwise_flatMap.2 ⟨fun x hx => (hf x hx).order, ?_⟩
    -- Addresses of two parts differ first in the ranks of the parts.
    refine hrank.imp_of_mem fun {x y} hx hy hxy a ha b hb => ?_
    exact before_of_prefix hxy ((hf x hx).common a ha) ((hf y hy).common b hb)
  common a ha := by
    obtain ⟨x, hx, ha⟩ := List.mem_flatMap.1 ha
    exact (List.prefix_append p _).trans ((hf x hx).common a ha)

/-- Addresses in two parts of the document. -/
theorem Ascends.append {p : List Nat} {m n : Nat} {l r : List (Address × Site)}
    (hl : Ascends (p ++ [m]) l) (hr : Ascends (p ++ [n]) r) (hmn : m < n) :
    Ascends p (l ++ r) where
  order := List.pairwise_append.2 ⟨hl.order, hr.order, fun a ha b hb =>
    before_of_prefix hmn (hl.common a ha) (hr.common b hb)⟩
  common a ha := by
    rcases List.mem_append.1 ha with ha | ha
    · exact (List.prefix_append p _).trans (hl.common a ha)
    · exact (List.prefix_append p _).trans (hr.common a ha)

/-- The numbers of the elements of a list ascend. -/
theorem pairwise_snd_zipIdx {α : Type} (l : List α) :
    l.zipIdx.Pairwise fun x y => x.2 < y.2 := by
  have hrange : (l.zipIdx.map (·.2)).Pairwise (· < ·) := by
    rw [List.zipIdx_map_snd]
    exact List.pairwise_lt_range' 1
  exact List.pairwise_map.1 hrange

/-- The addresses of a template ascend. -/
theorem ascends_templateLocated (i : Nat) (f : MessageField) (place : SitePlace)
    (template : String) :
    Ascends [1, i, 1, MessageField.all.idxOf f] (templateLocated i f place template) := by
  unfold templateLocated
  split
  · exact ascends_singleton (List.prefix_refl _)
  · rw [List.map_eq_flatMap]
    exact ascends_flatMap (·.2) (pairwise_snd_zipIdx _) fun ⟨_, k⟩ _ =>
      ascends_singleton (List.prefix_refl [1, i, 1, MessageField.all.idxOf f, k])

/-- The addresses of a value ascend. -/
theorem Value.ascends_located (v : Value) (i : Nat) : Ascends [0, i] (v.located i) := by
  rw [Value.located, List.map_eq_flatMap]
  exact ascends_flatMap (·.2) (pairwise_snd_zipIdx _) fun ⟨_, j⟩ _ =>
    ascends_singleton (List.prefix_refl [0, i, j])

/-- What an optional text gives ascends where it does for every text. -/
theorem ascends_toList {p : List Nat} {o : Option String} {f : String → List (Address × Site)}
    (hf : ∀ t, Ascends p (f t)) : Ascends p (o.toList.flatMap f) := by
  cases o with
  | none => exact ⟨.nil, fun _ hx => absurd hx List.not_mem_nil⟩
  | some t =>
    rw [Option.toList_some, List.flatMap_singleton]
    exact hf t

/-- The addresses of an expectation ascend. -/
theorem Expectation.ascends_located (x : Expectation) (i : Nat) :
    Ascends [1, i] (x.located i) := by
  have hfields : ExprField.all.Pairwise fun f g =>
      ExprField.all.idxOf f < ExprField.all.idxOf g := by
    decide
  have hmessages : MessageField.all.Pairwise fun f g =>
      MessageField.all.idxOf f < MessageField.all.idxOf g := by
    decide
  refine Ascends.append (m := 0) (n := 1) (ascends_flatMap _ hfields fun f _ => ?_)
    (ascends_flatMap _ hmessages fun f _ => ?_) Nat.zero_lt_one
  · rw [List.map_eq_flatMap]
    exact ascends_toList fun t => ascends_singleton (List.prefix_refl _)
  · exact ascends_toList fun t => ascends_templateLocated i f _ t

/-- The addresses of a Check ascend. -/
theorem Check.ascends_located (c : Check) : Ascends [] c.located :=
  Ascends.append (m := 0) (n := 1)
    (ascends_flatMap (·.2) (pairwise_snd_zipIdx _) fun x _ => x.1.ascends_located x.2)
    (ascends_flatMap (·.2) (pairwise_snd_zipIdx _) fun x _ => x.1.ascends_located x.2)
    Nat.zero_lt_one

/-! ## The sites of a Check -/

/-- A site has a tree or a fault, and not both. -/
theorem Site.xor_tree_fault (s : Site) : Xor s.tree?.isSome s.fault?.isSome := by
  unfold Site.tree? Site.fault?
  cases s.outcome with
  | ok tree => simp [Except.toOption, Xor]
  | error fault => simp [Except.toOption, Xor]

/-- The sites of a Check stand at its addresses in the order of the document, one at each, and the
site at an address is read from the text there alone. -/
theorem Check.exists_located (c : Check) :
    ∃ located : List (Address × Site), located.map (·.2) = c.sites ∧
      (located.Pairwise fun x y => x.1.Before y.1) ∧
      (∀ a s, (a, s) ∈ located ↔ c.SiteAt a s) ∧
      ∀ s ∈ c.sites, Xor s.tree?.isSome s.fault?.isSome :=
  ⟨c.located, c.map_snd_located, c.ascends_located.order, fun _ _ => Check.mem_located,
    fun s _ => s.xor_tree_fault⟩

/-- A message with a segment that is closed and one that is not: the first one has no site. -/
theorem Check.not_exists_site_of_closed :
    ¬ ∀ (c : Check) (x : Expectation) (f : MessageField) (template : String) (front : List Char)
      (segments : List Segment) (s : Segment), x ∈ c.expectations →
      x.message? f = some template → front <+: template.toList →
      Segment.Cut .start front segments → s ∈ segments →
      ∃ site ∈ c.sites, site.place = .message x.name f ∧ site.source = s.source := by
  intro hall
  let x : Expectation :=
    ⟨"e", some "facts.x", none, none, some "Got $\x7bfacts.x\x7d of $\x7boops", none⟩
  let c : Check := ⟨"id", "name", "group", "", "", none, [], [], [x], none⟩
  have hcut : Segment.Cut .start "Got $\x7bfacts.x\x7d of ".toList [⟨"facts.x", ⟨1, 7⟩⟩] :=
    Segment.scan_eq_ok_iff.1 (by cbv)
  have hopen : Segment.OpenAfter .start "Got $\x7bfacts.x\x7d of $\x7boops".toList
      "Got $\x7bfacts.x\x7d of ".toList := ⟨⟨_, hcut⟩, "oops".toList, by decide, by decide⟩
  have hfront : "Got $\x7bfacts.x\x7d of ".toList <+:
      "Got $\x7bfacts.x\x7d of $\x7boops".toList := by decide
  obtain ⟨site, hsite, hplace, hsource⟩ := hall c x .failure _ _ _ _ (List.mem_singleton_self x)
    rfl hfront hcut (List.mem_singleton_self _)
  rcases Check.cases_of_mem_sites hsite with ⟨v, hv, -⟩ | ⟨y, -, f, t, -, rfl⟩ |
    ⟨y, hy, f, template, hf, ⟨segments, hcut', segment, -, rfl⟩ | ⟨-, fault, rfl⟩⟩
  · cases hv
  · cases hplace
  · -- The message of the site is that of the expectation, and its last segment is open.
    obtain rfl := List.mem_singleton.1 hy
    obtain rfl : f = .failure := (SitePlace.message.inj hplace).2
    obtain rfl := Option.some.inj hf
    have hscan := hcut'.scan_eq.symm.trans hopen.scan_eq
    cases hscan
  · -- The site of an open message holds all of the message.
    obtain rfl := List.mem_singleton.1 hy
    obtain rfl : f = .failure := (SitePlace.message.inj hplace).2
    obtain rfl := Option.some.inj hf
    have hne : "Got $\x7bfacts.x\x7d of $\x7boops" ≠ "facts.x" := by decide
    exact hne hsource

end CheckDoc
