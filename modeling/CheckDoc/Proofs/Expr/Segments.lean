import CheckDoc.Expr.Template
import CheckDoc.Proofs.Outcome
import CheckDoc.Proofs.Text.Position
import Mathlib.Data.List.Infix
import Mathlib.Data.List.TakeWhile

/-!
# The segments of a template

`Cut` says how a template is made of text without an opening and of closed segments.
`Segment.scan` finds exactly these cuts (`scan_eq_ok_iff`): it stops at the first opening, which no
text in front of a segment can hold, and at the first closing brace, which no segment can hold. A
text that is not cut is cut up to an opening that is not closed, where the scan fails
(`scan_eq_error_iff`).
-/

namespace CheckDoc.Segment

open Position (after_append)

/-- The opening of a segment. -/
def opening : List Char := ['$', '\x7b']

/-- The cut of a text that begins at `p` into segments and text around them. -/
inductive Cut : Position → List Char → List Segment → Prop
  /-- A text without an opening has no segment. -/
  | text {p t} (closed : ¬ opening <:+: t) : Cut p t []
  /-- A text without an opening, then a segment without a closing brace, then its closing brace. -/
  | segment {p t body rest more} (closed : ¬ opening <:+: t) (inside : '\x7d' ∉ body)
    (tail : Cut (p.after (t ++ opening ++ body ++ ['\x7d'])) rest more) :
    Cut p (t ++ opening ++ body ++ '\x7d' :: rest)
      (⟨String.ofList body, p.after (t ++ opening)⟩ :: more)

/-- Where no segment opens, the scan goes on with the next character. -/
theorem scan_text {p : Position} {c : Char} {cs : List Char}
    (h : ¬ (c = '$' ∧ cs.head? = some '\x7b')) : scan p (c :: cs) = scan (p.advance c) cs := by
  rw [scan, if_neg h]

/-- The text of a segment goes up to the first closing brace. -/
theorem takeWhile_brace {body : List Char} (h : '\x7d' ∉ body) (rest : List Char) :
    (body ++ '\x7d' :: rest).takeWhile (· ≠ '\x7d') = body ∧
      (body ++ '\x7d' :: rest).dropWhile (· ≠ '\x7d') = '\x7d' :: rest := by
  have hall : ∀ c ∈ body, decide (c ≠ '\x7d') = true := fun c hc => by
    simpa using ne_of_mem_of_not_mem hc h
  rw [List.takeWhile_append_of_pos hall, List.dropWhile_append_of_pos hall]
  simp

/-- A segment is scanned up to its closing brace. -/
theorem scan_segment {p : Position} {body rest : List Char} (h : '\x7d' ∉ body) :
    scan p (opening ++ body ++ '\x7d' :: rest) =
      (⟨String.ofList body, p.after opening⟩ :: ·) <$>
        scan (p.after (opening ++ body ++ ['\x7d'])) rest := by
  obtain ⟨htake, hdrop⟩ := takeWhile_brace h rest
  have hcons : opening ++ body ++ '\x7d' :: rest = '$' :: '\x7b' :: (body ++ '\x7d' :: rest) := rfl
  have hafter : p.after (opening ++ body ++ ['\x7d']) =
      (p.after opening).after (body ++ ['\x7d']) := by
    rw [List.append_assoc, after_append]
  rw [hcons, hafter, scan, if_pos ⟨rfl, rfl⟩]
  simp only [List.drop_one, List.tail_cons]
  split
  · rename_i hr
    rw [List.drop_one, List.tail_cons, hdrop] at hr
    cases hr
  · rename_i brace rest' hr
    rw [List.drop_one, List.tail_cons, hdrop] at hr
    obtain ⟨rfl, rfl⟩ := List.cons.inj hr
    rw [htake]
    rfl

/-- An opening without a closing brace is a fault. -/
theorem scan_unclosed {p : Position} {body : List Char} (h : '\x7d' ∉ body) :
    scan p (opening ++ body) = .error ⟨.unterminatedSegment, p⟩ := by
  have hdrop : body.dropWhile (· ≠ '\x7d') = [] := by
    rw [List.dropWhile_eq_nil_iff]
    exact fun c hc => by simpa using ne_of_mem_of_not_mem hc h
  have hcons : opening ++ body = '$' :: '\x7b' :: body := rfl
  rw [hcons, scan, if_pos ⟨rfl, rfl⟩]
  simp only [List.drop_one, List.tail_cons]
  split
  · rfl
  · rename_i brace rest hr
    rw [List.drop_one, List.tail_cons, hdrop] at hr
    cases hr

/-- Text without an opening is passed over, up to an opening. -/
theorem scan_append {p : Position} {t s : List Char} (h : ¬ opening <:+: t)
    (hs : s = [] ∨ opening <+: s) : scan p (t ++ s) = scan (p.after t) s := by
  induction t generalizing p with
  | nil => rfl
  | cons c cs ih =>
    have hcs : ¬ opening <:+: cs := fun hi => h (hi.trans (List.suffix_cons c cs).isInfix)
    -- No opening starts within the text, nor with its last character and the first one after it.
    have hc : ¬ (c = '$' ∧ (cs ++ s).head? = some '\x7b') := by
      rintro ⟨rfl, hhead⟩
      cases cs with
      | nil =>
        rcases hs with rfl | ⟨_, rfl⟩
        · simp at hhead
        · simp [opening] at hhead
      | cons d ds =>
        obtain rfl : d = '\x7b' := by simpa using hhead
        exact h ⟨[], ds, rfl⟩
    rw [List.cons_append, scan_text hc, ih hcs]
    rfl

/-- A text has no opening, or a first one. -/
theorem exists_first_opening (s : List Char) :
    ¬ opening <:+: s ∨ ∃ t rest, s = t ++ opening ++ rest ∧ ¬ opening <:+: t := by
  induction s with
  | nil => exact .inl (by simp [opening])
  | cons c cs ih =>
    by_cases hopen : opening <+: c :: cs
    · obtain ⟨rest, hrest⟩ := hopen
      exact .inr ⟨[], rest, hrest.symm, by simp [opening]⟩
    · rcases ih with hno | ⟨t, rest, rfl, ht⟩
      · exact .inl fun hi => (List.infix_cons_iff.1 hi).elim hopen hno
      · refine .inr ⟨c :: t, rest, rfl, fun hi => ?_⟩
        -- An opening in `c :: t` is one of the whole text at `c`, or lies in `t`.
        refine (List.infix_cons_iff.1 hi).elim (fun hprefix => hopen ?_) ht
        rw [List.append_assoc]
        exact hprefix.trans (List.prefix_append (c :: t) (opening ++ rest))

/-- A text ends without a closing brace, or has a first one. -/
theorem exists_first_brace (s : List Char) :
    '\x7d' ∉ s ∨ ∃ body rest, s = body ++ '\x7d' :: rest ∧ '\x7d' ∉ body := by
  by_cases h : '\x7d' ∈ s
  · obtain ⟨body, rest, hs, hbody⟩ := List.eq_append_cons_of_mem h
    exact .inr ⟨body, rest, hs, hbody⟩
  · exact .inl h

/-- What is in front of an opening is scanned before it. -/
theorem Cut.scan_append {p : Position} {front rest : List Char} {segments : List Segment}
    (h : Cut p front segments) (hrest : rest = [] ∨ opening <+: rest) :
    scan p (front ++ rest) = (segments ++ ·) <$> scan (p.after front) rest := by
  induction h with
  | @text p t hno =>
    rw [Segment.scan_append hno hrest]
    cases scan (p.after t) rest with
    | error fault => rfl
    | ok more => rfl
  | @segment p t body tail more ht hbody _ ih =>
    have hsplit : t ++ opening ++ body ++ '\x7d' :: tail ++ rest =
        t ++ (opening ++ body ++ '\x7d' :: (tail ++ rest)) := by simp
    have hplace : (p.after t).after (opening ++ body ++ ['\x7d']) =
        p.after (t ++ opening ++ body ++ ['\x7d']) := by
      rw [← after_append]
      simp only [List.append_assoc]
    have hend : (p.after (t ++ opening ++ body ++ ['\x7d'])).after tail =
        p.after (t ++ opening ++ body ++ '\x7d' :: tail) := by
      rw [← after_append]
      simp only [List.append_assoc, List.singleton_append]
    rw [hsplit, Segment.scan_append ht (.inr ⟨_, (List.append_assoc _ _ _).symm⟩),
      scan_segment hbody, hplace, ih, hend, ← after_append]
    cases scan (p.after (t ++ opening ++ body ++ '\x7d' :: tail)) rest with
    | error fault => rfl
    | ok more => rfl

/-- A text in which the segment that opens after `front` is not closed. -/
structure OpenAfter (p : Position) (s front : List Char) : Prop where
  /-- In front of it all segments are closed. -/
  cut : ∃ segments, Cut p front segments
  /-- Behind its opening there is no closing brace. -/
  inside : ∃ body, s = front ++ opening ++ body ∧ '\x7d' ∉ body

/-- A text is cut into segments, or some segment of it is not closed. -/
theorem cut_or_openAfter (p : Position) (s : List Char) :
    (∃ segments, Cut p s segments) ∨ ∃ front, OpenAfter p s front := by
  -- A cut goes on after a closing brace, so the induction is on the length.
  induction hn : s.length using Nat.strong_induction_on generalizing p s with
  | _ n ih =>
  rcases exists_first_opening s with hno | ⟨t, rest, rfl, ht⟩
  · exact .inl ⟨[], .text hno⟩
  rcases exists_first_brace rest with hnone | ⟨body, tail, rfl, hbody⟩
  · exact .inr ⟨t, ⟨[], .text ht⟩, rest, rfl, hnone⟩
  have hlength : tail.length < n := by
    simp only [← hn, List.length_append, List.length_cons]
    omega
  have hassoc : t ++ opening ++ (body ++ '\x7d' :: tail) =
      t ++ opening ++ body ++ '\x7d' :: tail := (List.append_assoc _ _ _).symm
  rw [hassoc]
  rcases ih _ hlength (p.after (t ++ opening ++ body ++ ['\x7d'])) tail rfl with
    ⟨more, hmore⟩ | ⟨front, ⟨more, hmore⟩, last, rfl, hlast⟩
  · exact .inl ⟨_, .segment ht hbody hmore⟩
  · exact .inr ⟨_, ⟨_, .segment ht hbody hmore⟩, last, by simp, hlast⟩

/-- The scan of a text that is cut. -/
theorem Cut.scan_eq {p : Position} {s : List Char} {segments : List Segment}
    (h : Cut p s segments) : scan p s = .ok segments := by
  have hscan : scan p (s ++ []) = (segments ++ ·) <$> scan (p.after s) [] :=
    h.scan_append (.inl rfl)
  rw [List.append_nil, scan] at hscan
  rw [hscan]
  exact congrArg _ (List.append_nil segments)

/-- The scan of a text with an open segment. -/
theorem OpenAfter.scan_eq {p : Position} {s front : List Char} (h : OpenAfter p s front) :
    scan p s = .error ⟨.unterminatedSegment, p.after front⟩ := by
  obtain ⟨⟨segments, hcut⟩, body, rfl, hbody⟩ := h
  rw [List.append_assoc, hcut.scan_append (.inr (List.prefix_append _ _)), scan_unclosed hbody]
  rfl

/-- The scan finds exactly the cuts of a template. -/
theorem scan_eq_ok_iff {p : Position} {s : List Char} {segments : List Segment} :
    scan p s = .ok segments ↔ Cut p s segments := by
  refine ⟨fun h => ?_, Cut.scan_eq⟩
  rcases cut_or_openAfter p s with ⟨found, hcut⟩ | ⟨front, hopen⟩
  · rw [hcut.scan_eq] at h
    cases h
    exact hcut
  · rw [hopen.scan_eq] at h
    cases h

/-- The scan fails at an opening that no brace closes. -/
theorem scan_eq_error_iff {p : Position} {s : List Char} {fault : SyntaxFault} :
    scan p s = .error fault ↔
      ∃ front, OpenAfter p s front ∧ fault = ⟨.unterminatedSegment, p.after front⟩ := by
  constructor
  · intro h
    rcases cut_or_openAfter p s with ⟨segments, hcut⟩ | ⟨front, hopen⟩
    · rw [hcut.scan_eq] at h
      cases h
    · rw [hopen.scan_eq] at h
      cases h
      exact ⟨front, hopen, rfl⟩
  · rintro ⟨front, hopen, rfl⟩
    exact hopen.scan_eq

end CheckDoc.Segment
