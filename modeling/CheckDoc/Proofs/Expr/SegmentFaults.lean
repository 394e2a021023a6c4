import CheckDoc.Proofs.Expr.Embedding
import CheckDoc.Proofs.Expr.Viability

/-!
# Faults in segments

Two counts of lines and columns meet at a fault of a segment: that of the lexer, which begins anew
with the text of the segment, and that of the template. Every fault of an expression stands at an
offset of its text: a fault of a token in its characters, any other at a token or at the end
(`Expr.exists_offset`). A segment stands in its template after the segments before it
(`Segment.Cut.exists_split`). So the fault stands at the sum of the offsets
(`Segment.parse_eq_error_place`).
-/

namespace CheckDoc

/-- Every fault of an expression stands at an offset of its text. -/
theorem Expr.exists_offset {source : String} {fault : SyntaxFault}
    (h : Expr.parse source = .error fault) :
    ∃ k ≤ source.toList.length, fault.position = .ofOffset source.toList k := by
  rcases bind_eq_error_iff.1 h with hlexical | ⟨stream, htokens, hfault⟩
  · obtain ⟨-, front, back, hsource, hplace⟩ := TokenStream.scan_eq_error hlexical
    refine ⟨front.length, ?_, ?_⟩
    · rw [hsource, List.length_append]
      exact Nat.le_add_right _ _
    · rw [hsource, hplace, Position.ofOffset_append]
  · have hblames := (Expr.blamed_of_ofTokens hfault).blames (TokenStream.pairwise_precedes htokens)
    have hmem := hblames.mem
    obtain ⟨ks, hplaces, -, hle⟩ := TokenStream.exists_offsets htokens
    rw [hplaces] at hmem
    obtain ⟨k, hk, hplace⟩ := List.mem_map.1 hmem
    exact ⟨k, hle k hk, hplace.symm⟩

namespace Segment

/-- A segment of a cut stands between its opening and its closing brace, after the text that the
segments before it are cut from. -/
theorem Cut.exists_split {p : Position} {s : List Char} {earlier later : List Segment}
    {segment : Segment} (h : Cut p s (earlier ++ segment :: later)) :
    ∃ front back, s = front ++ opening ++ segment.source.toList ++ '\x7d' :: back ∧
      Cut p front earlier ∧ segment.origin = p.after (front ++ opening) := by
  generalize hsegments : earlier ++ segment :: later = segments at h
  induction h generalizing earlier with
  | text _ => simp at hsegments
  | @segment p t body rest more closed inside tail ih =>
    cases earlier with
    | nil =>
      obtain ⟨rfl, -⟩ := List.cons.inj hsegments
      exact ⟨t, rest, by rw [String.toList_ofList], .text closed, rfl⟩
    | cons first earlier =>
      obtain ⟨rfl, hmore⟩ := List.cons.inj hsegments
      obtain ⟨front, back, rfl, hcut, horigin⟩ := ih hmore
      refine ⟨t ++ opening ++ body ++ '\x7d' :: front, back, ?_, .segment closed inside hcut, ?_⟩
      · simp only [List.append_assoc, List.cons_append]
      · rw [horigin, ← Position.after_append]
        simp only [List.append_assoc, List.cons_append, List.nil_append]

/-- The place in a template of an offset of a segment that begins after `front`. -/
theorem within_ofOffset {front source back : List Char} {k : Nat} (hk : k ≤ source.length) :
    (Position.start.after front).within (.ofOffset source k) =
      .ofOffset (front ++ source ++ back) (front.length + k) := by
  have hsplit : front ++ source ++ back = front ++ source.take k ++ (source.drop k ++ back) := by
    calc front ++ source ++ back = front ++ (source.take k ++ source.drop k) ++ back := by
          rw [List.take_append_drop]
      _ = front ++ source.take k ++ (source.drop k ++ back) := by simp only [List.append_assoc]
  have hlength : front.length + k = (front ++ source.take k).length := by
    rw [List.length_append, List.length_take, Nat.min_eq_left hk]
  rw [← Position.after_take, Position.within_after_start, hsplit, hlength,
    Position.ofOffset_append, Position.after_append]

/-- Each segment of a template stands between an opening and the next closing brace, after the
segments before it, at the place of the first character of its text. Where this text is no
expression, the fault stands at an offset `k` of it, and the segment has the same fault at the
place of the character of the template that stands `k` characters after the first one. -/
theorem parse_eq_error_place (template : String) (earlier later : List Segment)
    (segment : Segment) (h : ofTemplate template = .ok (earlier ++ segment :: later)) :
    ∃ front back,
      template.toList = front ++ opening ++ segment.source.toList ++ '\x7d' :: back ∧
      ofTemplate (String.ofList front) = .ok earlier ∧
      segment.origin = .ofOffset template.toList (front ++ opening).length ∧
      ∀ fault, Expr.parse segment.source = .error fault →
        ∃ k ≤ segment.source.toList.length,
          fault.position = .ofOffset segment.source.toList k ∧
          segment.parse = .error
            ⟨fault.cause, .ofOffset template.toList ((front ++ opening).length + k)⟩ := by
  obtain ⟨front, back, htext, hcut, horigin⟩ := (scan_eq_ok_iff.1 h).exists_split
  refine ⟨front, back, htext, ?_, ?_, fun fault hfault => ?_⟩
  · rw [ofTemplate, String.toList_ofList]
    exact hcut.scan_eq
  · rw [horigin, htext, List.append_assoc _ segment.source.toList, Position.ofOffset_append]
  · obtain ⟨k, hk, hplace⟩ := Expr.exists_offset hfault
    refine ⟨k, hk, hplace, ?_⟩
    rw [parse_of_fault hfault, horigin, hplace, within_ofOffset hk, htext]

/-- In a segment on the second line of a template the fault of the text `!` stands on this line,
after the text. -/
theorem parse_eq_error_place_exclamation :
    ofTemplate (embed "Got\n" "!" ".") = .ok [⟨"!", ⟨2, 3⟩⟩] ∧
      Expr.parse "!" = .error ⟨.unexpectedEnd, ⟨1, 2⟩⟩ ∧
      parse ⟨"!", ⟨2, 3⟩⟩ = .error ⟨.unexpectedEnd, ⟨2, 4⟩⟩ := by
  have hsegments : ofTemplate (embed "Got\n" "!" ".") = .ok ([] ++ ⟨"!", ⟨2, 3⟩⟩ :: []) :=
    ofTemplate_embed_of_not_mem (by decide) (by decide) (by decide)
  obtain ⟨-, hfault⟩ := Expr.parse_exclamation
  obtain ⟨front, back, htext, -, horigin, hplace⟩ := parse_eq_error_place _ _ _ _ hsegments
  obtain ⟨k, hk, hinner, hparse⟩ := hplace _ hfault
  have hend : k = 1 := by
    have hall : ∀ k ≤ 1, (⟨1, 2⟩ : Position) = .ofOffset ['!'] k → k = 1 := by decide
    exact hall k hk hinner
  -- The place of the segment tells its offset in the template.
  have hstarts : front ++ opening <+: (embed "Got\n" "!" ".").toList := by
    rw [htext, List.append_assoc]
    exact List.prefix_append _ _
  have hnext : ∀ n ≤ (embed "Got\n" "!" ".").toList.length,
      (⟨2, 3⟩ : Position) = .ofOffset (embed "Got\n" "!" ".").toList n →
        Position.ofOffset (embed "Got\n" "!" ".").toList (n + 1) = ⟨2, 4⟩ := by decide
  rw [hend, hnext _ hstarts.length_le horigin] at hparse
  exact ⟨hsegments, hfault, hparse⟩

end Segment

end CheckDoc
