import CheckDoc.Proofs.Expr.Segments

/-!
# Templates and their parts

A template is put together from a text and from segments with a text behind each (`Parts`). It has
segments exactly where it can be taken apart so that no text holds an opening and no segment holds a
closing brace; there is one way at most to do so, and each segment stands at the place of its first
character. Otherwise some opening has no closing brace behind it, what is in front of the first of
these can be taken apart, and the fault stands there (`ofTemplate_parts`).

The scan is told of by cuts already, which carry places along; here they are read as parts, with
offsets into the whole template (`cut_iff_parts`).
-/

namespace CheckDoc.Segment

open Position (ofOffset after_append)

/-- The parts of a template. -/
structure Parts where
  /-- The text in front. -/
  front : List Char
  /-- The segments, each with the text behind it. -/
  rest : List (List Char × List Char)

namespace Parts

/-- The template that is put together from parts. -/
def text (d : Parts) : List Char :=
  d.front ++ d.rest.flatMap fun p => opening ++ p.1 ++ '\x7d' :: p.2

/-- The offset at which the segment `i` begins: its opening follows the segments before it. -/
def offset (d : Parts) (i : Nat) : Nat := (text ⟨d.front, d.rest.take i⟩ ++ opening).length

/-- The segments with the places at which they begin in the template. -/
def segments (d : Parts) : List Segment :=
  d.rest.zipIdx.map fun p => ⟨String.ofList p.1.1, ofOffset d.text (d.offset p.2)⟩

/-- The texts hold no opening, and the segments hold no closing brace. -/
structure Proper (d : Parts) : Prop where
  /-- The text in front holds no opening. -/
  front : ¬ opening <:+: d.front
  /-- No segment holds a closing brace. -/
  inside : ∀ p ∈ d.rest, '\x7d' ∉ p.1
  /-- No text behind a segment holds an opening. -/
  behind : ∀ p ∈ d.rest, ¬ opening <:+: p.2

variable {d d' : Parts} {t body behind : List Char} {more : List (List Char × List Char)}

/-- A template without segments. -/
theorem text_nil (t : List Char) : text ⟨t, []⟩ = t := List.append_nil t

/-- A template is its first text and segment, and the template that goes on behind them. -/
theorem text_cons (t body behind : List Char) (more : List (List Char × List Char)) :
    text ⟨t, (body, behind) :: more⟩ = t ++ opening ++ body ++ '\x7d' :: text ⟨behind, more⟩ := by
  simp [text]

/-- The segments of a template divide it. -/
theorem text_append (t body behind : List Char) (before more : List (List Char × List Char)) :
    text ⟨t, before ++ (body, behind) :: more⟩ =
      text ⟨t, before⟩ ++ opening ++ body ++ '\x7d' :: text ⟨behind, more⟩ := by
  simp [text]

/-- Text without an opening is proper. -/
theorem proper_nil_iff : Proper ⟨t, []⟩ ↔ ¬ opening <:+: t :=
  ⟨Proper.front, fun h => ⟨h, by simp, by simp⟩⟩

/-- The first text and segment are proper, and so are the parts behind them. -/
theorem proper_cons_iff : Proper ⟨t, (body, behind) :: more⟩ ↔
    ¬ opening <:+: t ∧ '\x7d' ∉ body ∧ Proper ⟨behind, more⟩ := by
  constructor
  · rintro ⟨hfront, hinside, hbehind⟩
    rw [List.forall_mem_cons] at hinside hbehind
    exact ⟨hfront, hinside.1, hbehind.1, hinside.2, hbehind.2⟩
  · rintro ⟨ht, hbody, hfront, hinside, hbehind⟩
    exact ⟨ht, List.forall_mem_cons.2 ⟨hbody, hinside⟩, List.forall_mem_cons.2 ⟨hfront, hbehind⟩⟩

/-! ## Places -/

/-- The segments of a template that begins at `p`, told by counting. -/
def segmentsFrom (p : Position) (d : Parts) : List Segment :=
  d.rest.zipIdx.map fun q =>
    ⟨String.ofList q.1.1, p.after (text ⟨d.front, d.rest.take q.2⟩ ++ opening)⟩

/-- The first segment, and the segments behind it. -/
theorem segmentsFrom_cons (p : Position) (t body behind : List Char)
    (more : List (List Char × List Char)) :
    segmentsFrom p ⟨t, (body, behind) :: more⟩ =
      ⟨String.ofList body, p.after (t ++ opening)⟩ ::
        segmentsFrom (p.after (t ++ opening ++ body ++ ['\x7d'])) ⟨behind, more⟩ := by
  -- What is in front of a later segment is the first segment and what lies between the two.
  have hplace : ∀ i, p.after (text ⟨t, (body, behind) :: more.take i⟩ ++ opening) =
      (p.after (t ++ opening ++ body ++ ['\x7d'])).after (text ⟨behind, more.take i⟩ ++ opening) := by
    intro i
    rw [← after_append, text_cons]
    simp only [List.append_assoc, List.cons_append, List.nil_append]
  simp only [segmentsFrom, List.zipIdx_cons', List.map_cons, List.take_zero, text_nil,
    List.map_map, List.cons.injEq, true_and]
  exact List.map_congr_left fun q _ => congrArg (Segment.mk (String.ofList q.1.1)) (hplace q.2)

/-- The template goes on with a segment behind the segments before it and its opening. -/
theorem prefix_text {i : Nat} (hi : i < d.rest.length) :
    text ⟨d.front, d.rest.take i⟩ ++ opening <+: d.text := by
  have hsplit : d.rest.take i ++ d.rest[i] :: d.rest.drop (i + 1) = d.rest := by
    rw [← List.drop_eq_getElem_cons hi, List.take_append_drop]
  have htext := text_append d.front d.rest[i].1 d.rest[i].2 (d.rest.take i) (d.rest.drop (i + 1))
  rw [hsplit, List.append_assoc _ d.rest[i].1] at htext
  exact htext ▸ List.prefix_append _ _

/-- Counting from the start of a template arrives at the places of its segments. -/
theorem segmentsFrom_start (d : Parts) : d.segmentsFrom .start = d.segments := by
  refine List.map_congr_left fun q hq => congrArg (Segment.mk (String.ofList q.1.1)) ?_
  have hstarts := prefix_text (List.mem_zipIdx' hq).1
  rw [← Position.after_take, offset, ← List.prefix_iff_eq_take.1 hstarts]

/-! ## Only one way -/

/-- An opening in front of an opening is that one, or does not reach into it. -/
theorem opening_prefix_of_append {u s : List Char} (h : opening <+: u ++ (opening ++ s)) :
    u = [] ∨ opening <+: u := by
  match u with
  | [] => exact .inl rfl
  | [c] => simp [opening] at h
  | c :: c' :: u =>
    obtain ⟨rfl, rfl⟩ : '$' = c ∧ '\x7b' = c' := by simpa [opening] using h
    exact .inr ⟨u, rfl⟩

/-- The text in front of the first opening is determined. -/
theorem eq_of_opening {t t' s s' : List Char} (ht : ¬ opening <:+: t) (ht' : ¬ opening <:+: t')
    (h : t ++ (opening ++ s) = t' ++ (opening ++ s')) : t = t' ∧ s = s' := by
  -- One of the texts extends the other; were it longer, it would hold the opening behind that one.
  have hextends : ∀ {t u s s' : List Char}, ¬ opening <:+: t ++ u →
      opening ++ s = u ++ (opening ++ s') → u = [] := by
    intro t u s s' hno heq
    refine (opening_prefix_of_append ⟨s, heq⟩).resolve_right fun hstarts => hno ?_
    exact hstarts.isInfix.trans (List.suffix_append t u).isInfix
  obtain ⟨u, rfl, hu⟩ | ⟨u, rfl, hu⟩ := List.append_eq_append_iff.1 h
  · obtain rfl := hextends ht' hu
    exact ⟨(List.append_nil t).symm, List.append_cancel_left hu⟩
  · obtain rfl := hextends ht hu
    exact ⟨List.append_nil t', (List.append_cancel_left hu).symm⟩

/-- The segment in front of the first closing brace is determined. -/
theorem eq_of_brace {s s' rest rest' : List Char} (hs : '\x7d' ∉ s) (hs' : '\x7d' ∉ s')
    (h : s ++ '\x7d' :: rest = s' ++ '\x7d' :: rest') : s = s' ∧ rest = rest' := by
  obtain ⟨htake, hdrop⟩ := takeWhile_brace hs rest
  obtain ⟨htake', hdrop'⟩ := takeWhile_brace hs' rest'
  rw [h] at htake hdrop
  exact ⟨htake.symm.trans htake', (List.cons.inj (hdrop.symm.trans hdrop')).2⟩

/-- A template can be taken apart in one way only. -/
theorem Proper.eq_of_text_eq (h : d.Proper) (h' : d'.Proper) (heq : d.text = d'.text) : d = d' := by
  obtain ⟨t, rest⟩ := d
  induction rest generalizing t d' with
  | nil =>
    obtain ⟨t', _ | ⟨⟨body', behind'⟩, more'⟩⟩ := d'
    · rw [text_nil, text_nil] at heq
      rw [heq]
    · -- A segment would put an opening into the text of the other template.
      rw [text_nil, text_cons, List.append_assoc] at heq
      exact absurd ⟨t', _, heq.symm⟩ h.front
  | cons p more ih =>
    obtain ⟨body, behind⟩ := p
    obtain ⟨t', _ | ⟨⟨body', behind'⟩, more'⟩⟩ := d'
    · rw [text_nil, text_cons, List.append_assoc] at heq
      exact absurd ⟨t, _, heq⟩ h'.front
    · obtain ⟨ht, hbody, hmore⟩ := proper_cons_iff.1 h
      obtain ⟨ht', hbody', hmore'⟩ := proper_cons_iff.1 h'
      simp only [text_cons, List.append_assoc] at heq
      obtain ⟨rfl, hrest⟩ := eq_of_opening ht ht' heq
      obtain ⟨rfl, htail⟩ := eq_of_brace hbody hbody' hrest
      obtain ⟨rfl, rfl⟩ := Parts.mk.inj (ih hmore' behind hmore htail)
      rfl

end Parts

open Parts

/-! ## Cuts and faults -/

/-- The cuts of a text are the ways to take it apart. -/
theorem cut_iff_parts {p : Position} {s : List Char} {segments : List Segment} :
    Cut p s segments ↔ ∃ d : Parts, d.Proper ∧ d.text = s ∧ segments = d.segmentsFrom p := by
  constructor
  · intro h
    induction h with
    | @text p t ht => exact ⟨⟨t, []⟩, proper_nil_iff.2 ht, text_nil t, rfl⟩
    | @segment p t body rest more ht hbody _ ih =>
      obtain ⟨⟨behind, parts⟩, hproper, rfl, rfl⟩ := ih
      exact ⟨⟨t, (body, behind) :: parts⟩, proper_cons_iff.2 ⟨ht, hbody, hproper⟩,
        text_cons .., (segmentsFrom_cons ..).symm⟩
  · rintro ⟨⟨t, rest⟩, hproper, rfl, rfl⟩
    induction rest generalizing p t with
    | nil =>
      rw [text_nil]
      exact .text (proper_nil_iff.1 hproper)
    | cons q more ih =>
      obtain ⟨ht, hbody, hmore⟩ := proper_cons_iff.1 hproper
      rw [text_cons, segmentsFrom_cons]
      exact .segment ht hbody (ih q.2 hmore)

/-- An opening stands in a text at an offset, and no closing brace stands behind it. -/
def IsUnclosed (s : List Char) (k : Nat) : Prop := opening <+: s.drop k ∧ '\x7d' ∉ s.drop k

/-- Where a text is taken apart, each opening has a closing brace behind it. -/
theorem Parts.Proper.not_isUnclosed {d : Parts} (h : d.Proper) (k : Nat) :
    ¬ IsUnclosed d.text k := by
  obtain ⟨t, rest⟩ := d
  rintro ⟨hopening, hbrace⟩
  induction rest generalizing t k with
  | nil =>
    rw [text_nil] at hopening
    exact h.front (hopening.isInfix.trans (List.drop_suffix k t).isInfix)
  | cons p more ih =>
    obtain ⟨-, -, hmore⟩ := proper_cons_iff.1 h
    have hsplit : text ⟨t, p :: more⟩ =
        (t ++ opening ++ p.1 ++ ['\x7d']) ++ text ⟨p.2, more⟩ := by
      rw [text_cons, List.append_cons]
    -- The offset is behind the first segment, or else the closing brace of that follows it.
    obtain hlt | hle := Nat.lt_or_ge (t ++ opening ++ p.1).length k
    · have hpast : (t ++ opening ++ p.1 ++ ['\x7d']).length ≤ k := by
        rw [List.length_append]
        exact hlt
      rw [hsplit, List.drop_append, List.drop_eq_nil_of_le hpast, List.nil_append]
        at hopening hbrace
      exact ih _ _ hmore hopening hbrace
    · refine hbrace ?_
      rw [text_cons, List.drop_append_of_le_length hle]
      exact List.mem_append_right _ List.mem_cons_self

/-- A text is scanned with a fault at an opening, which is the first that no closing brace
follows. -/
theorem openAfter_iff {p : Position} {s front : List Char} :
    OpenAfter p s front ↔ ∃ k, front = s.take k ∧ IsUnclosed s k ∧
      (∀ j < k, ¬ IsUnclosed s j) ∧ ∃ d : Parts, d.Proper ∧ d.text = s.take k := by
  constructor
  · rintro ⟨⟨segments, hcut⟩, body, rfl, hbody⟩
    obtain ⟨d, hproper, rfl, -⟩ := cut_iff_parts.1 hcut
    have htake : (d.text ++ opening ++ body).take d.text.length = d.text := by
      rw [List.append_assoc, List.take_left]
    refine ⟨d.text.length, htake.symm, ?_, fun j hj => ?_, d, hproper, htake.symm⟩
    · rw [IsUnclosed, List.append_assoc, List.drop_left]
      exact ⟨List.prefix_append _ _, by simpa [opening] using hbody⟩
    · -- An opening further in front is one of a segment, and has the closing brace of that.
      rintro ⟨hopening, hbrace⟩
      rw [List.append_assoc, List.drop_append_of_le_length hj.le] at hopening hbrace
      obtain hnil | hstarts := opening_prefix_of_append hopening
      · exact absurd hj (Nat.not_lt.2 (List.drop_eq_nil_iff.1 hnil))
      · exact hproper.not_isUnclosed j ⟨hstarts, fun hmem => hbrace (List.mem_append_left _ hmem)⟩
  · rintro ⟨k, rfl, ⟨⟨body, hopening⟩, hbrace⟩, -, d, hproper, htext⟩
    refine ⟨⟨_, cut_iff_parts.2 ⟨d, hproper, htext, rfl⟩⟩, body, ?_, ?_⟩
    · rw [List.append_assoc, hopening, List.take_append_drop]
    · rw [← hopening] at hbrace
      exact fun hmem => hbrace (List.mem_append_right _ hmem)

/-- A template has segments exactly where it can be taken apart, which goes in one way at most, and
each stands at the place of its first character. Otherwise some opening has no closing brace behind
it: what is in front of the first one can be taken apart, and the fault stands there. -/
theorem ofTemplate_parts (template : String) :
    (∀ segments, ofTemplate template = .ok segments ↔
      ∃ d : Parts, d.Proper ∧ d.text = template.toList ∧ segments = d.segments) ∧
    (∀ d d' : Parts, d.Proper ∧ d.text = template.toList →
      d'.Proper ∧ d'.text = template.toList → d = d') ∧
    ∀ fault, ofTemplate template = .error fault ↔ ∃ k, IsUnclosed template.toList k ∧
      (∀ j < k, ¬ IsUnclosed template.toList j) ∧
      (∃ d : Parts, d.Proper ∧ d.text = template.toList.take k) ∧
      fault = ⟨.unterminatedSegment, ofOffset template.toList k⟩ := by
  refine ⟨fun segments => ?_, fun d d' h h' => ?_, fun fault => ?_⟩
  · rw [ofTemplate, scan_eq_ok_iff, cut_iff_parts]
    simp only [segmentsFrom_start]
  · exact h.1.eq_of_text_eq h'.1 (h.2.trans h'.2.symm)
  · rw [ofTemplate, scan_eq_error_iff]
    simp only [openAfter_iff, ← Position.after_take]
    constructor
    · rintro ⟨_, ⟨k, rfl, hunclosed, hfirst, hparts⟩, rfl⟩
      exact ⟨k, hunclosed, hfirst, hparts, rfl⟩
    · rintro ⟨k, hunclosed, hfirst, hparts, rfl⟩
      exact ⟨_, ⟨k, rfl, hunclosed, hfirst, hparts⟩, rfl⟩

end CheckDoc.Segment
