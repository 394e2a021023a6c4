import CheckDoc.Proofs.Expr.Quoting
import CheckDoc.Proofs.Expr.RoundTrip
import CheckDoc.Proofs.Expr.Segments

/-!
# Expressions in templates

An expression in a template runs to the first closing brace, wherever that stands. Braces are no
tokens of expressions (`Phrase.Derives.isBrace_eq_false`), so a closing brace in the text of one
stands in a string, and what is in front of it is no text of an expression
(`Expr.exists_fault_of_brace`). Hence a template holds exactly the expressions whose text has no
closing brace (`Segment.ofTemplate_embed`); one that compares with the text of a brace is lost
(`Segment.not_ofTemplate_embed`).
-/

namespace CheckDoc

open Quoting (outside)

/-! ## Braces in expressions -/

/-- Whether a kind is that of a brace. -/
def TokenKind.isBrace : TokenKind → Bool
  | .leftBrace | .rightBrace => true
  | _ => false

/-- Braces are told by their characters. -/
theorem marks_isBrace : Marks TokenKind.isBrace fun c => c = '\x7b' || c = '\x7d' where
  symbol := by decide
  kind k hk := by
    cases k <;> first | decide | cases hk
  char c hc := by
    rw [Bool.or_eq_true, decide_eq_true_eq, decide_eq_true_eq] at hc
    rcases hc with rfl | rfl <;> decide

/-- A literal is no brace. -/
theorem Token.isBrace_eq_false {t : Token} {v : Scalar} (h : t.constant? = some v) :
    t.kind.isBrace = false :=
  marks_isBrace.kind_eq_false (Token.kind_not_mem_symbols h)

/-- The items of a list hold no brace. -/
theorem Items.isBrace_eq_false {ts : List Token} {vs : List Scalar} (h : Items ts vs) :
    ∀ t ∈ ts, t.kind.isBrace = false := by
  induction h with
  | one literal => exact List.forall_mem_singleton.2 (Token.isBrace_eq_false literal)
  | cons literal hcomma _ ih =>
    exact List.forall_mem_cons.2
      ⟨Token.isBrace_eq_false literal, List.forall_mem_cons.2 ⟨by rw [hcomma]; rfl, ih⟩⟩

/-- No phrase holds a brace. -/
theorem Phrase.Derives.isBrace_eq_false {p : Phrase} {ts : List Token} {e : Expr}
    (h : p.Derives ts e) : ∀ t ∈ ts, t.kind.isBrace = false := by
  have hkind : ∀ {t : Token} {k : TokenKind}, t.kind = k → k.isBrace = false →
      t.kind.isBrace = false := fun ht hk => ht ▸ hk
  induction h with
  | disjunction _ _ ihHead ihTail => exact List.forall_mem_append.2 ⟨ihHead, ihTail⟩
  | disjunctsNil => exact List.forall_mem_nil _
  | disjunctsCons hor _ _ ihHead ihTail =>
    exact List.forall_mem_cons.2 ⟨hkind hor rfl, List.forall_mem_append.2 ⟨ihHead, ihTail⟩⟩
  | conjunction _ _ ihHead ihTail => exact List.forall_mem_append.2 ⟨ihHead, ihTail⟩
  | conjunctsNil => exact List.forall_mem_nil _
  | conjunctsCons hand _ _ ihHead ihTail =>
    exact List.forall_mem_cons.2 ⟨hkind hand rfl, List.forall_mem_append.2 ⟨ihHead, ihTail⟩⟩
  | negation _ ih => exact ih
  | not hnot _ ih => exact List.forall_mem_cons.2 ⟨hkind hnot rfl, ih⟩
  | comparison _ ih => exact ih
  | compare _ hop _ ihLeft ihRight =>
    exact List.forall_mem_append.2 ⟨ihLeft, List.forall_mem_cons.2 ⟨hkind hop rfl, ihRight⟩⟩
  | literal hliteral => exact List.forall_mem_singleton.2 (Token.isBrace_eq_false hliteral)
  | emptyList hopen hclose =>
    exact List.forall_mem_cons.2
      ⟨hkind hopen rfl, List.forall_mem_singleton.2 (hkind hclose rfl)⟩
  | list hopen items hclose =>
    exact List.forall_mem_cons.2 ⟨hkind hopen rfl, List.forall_mem_append.2
      ⟨items.isBrace_eq_false, List.forall_mem_singleton.2 (hkind hclose rfl)⟩⟩
  | reference hhead _ hdot hname =>
    exact List.forall_mem_cons.2 ⟨hkind hhead rfl, List.forall_mem_cons.2
      ⟨hkind hdot rfl, List.forall_mem_singleton.2 (hkind hname rfl)⟩⟩
  | parens hopen _ hclose ih =>
    exact List.forall_mem_cons.2 ⟨hkind hopen rfl, List.forall_mem_append.2
      ⟨ih, List.forall_mem_singleton.2 (hkind hclose rfl)⟩⟩

namespace Expr

/-- The text of an expression ends outside of strings, and no brace in it stands outside of them. -/
theorem brace_not_mem_unquoted {source : String} {e : Expr} (h : Expr.parse source = .ok e) :
    outside.after source.toList = outside ∧ '\x7d' ∉ outside.unquoted source.toList := by
  obtain ⟨stream, htokens, -⟩ := bind_eq_ok_iff.1 h
  have hspells := TokenStream.spells_of_scan htokens
  have hderives := (((parse_eq_ok_iff htokens).1 e).1 h).derives
  have hcount := hspells.countP_unquoted marks_isBrace
  rw [List.countP_map] at hcount
  have hnone : stream.tokens.countP ((fun w : Word => w.1.isBrace) ∘ Token.word) = 0 :=
    List.countP_eq_zero.2 fun t ht => by simp [Token.word, hderives.isBrace_eq_false t ht]
  rw [hnone, List.countP_eq_zero] at hcount
  exact ⟨hspells.after_eq, fun hmem => hcount _ hmem rfl⟩

/-- What stands in front of a closing brace in the text of an expression is no text of one: it ends
in a string. -/
theorem exists_fault_of_brace {source : String} {e : Expr} {body rest : List Char}
    (h : Expr.parse source = .ok e) (hsource : source.toList = body ++ '\x7d' :: rest) :
    ∃ fault, Expr.parse (String.ofList body) = .error fault := by
  cases hbody : Expr.parse (String.ofList body) with
  | error fault => exact ⟨fault, rfl⟩
  | ok e' =>
    have hafter := (brace_not_mem_unquoted hbody).1
    have hno := (brace_not_mem_unquoted h).2
    rw [String.toList_ofList] at hafter
    rw [hsource, Quoting.unquoted_append, hafter] at hno
    exact absurd (List.mem_append_right _ List.mem_cons_self) hno

end Expr

/-! ## Expressions in templates -/

namespace Segment

open Position (after_append)

/-- A template that holds the text of one expression. -/
def embed (before source after : String) : String :=
  before ++ String.ofList opening ++ source ++ "\x7d" ++ after

variable {before source after : String} {e : Expr}

/-- The characters of a template that holds an expression. -/
theorem toList_embed (before source after : String) : (embed before source after).toList =
    before.toList ++ opening ++ source.toList ++ '\x7d' :: after.toList := by
  unfold embed
  simp only [String.toList_append, String.toList_ofList, List.append_assoc]
  rfl

/-- After a text without an opening a segment is scanned, and then the rest. -/
theorem scan_text_segment {p : Position} {t body rest : List Char} (ht : ¬ opening <:+: t)
    (hbody : '\x7d' ∉ body) :
    scan p (t ++ opening ++ body ++ '\x7d' :: rest) =
      (⟨String.ofList body, p.after (t ++ opening)⟩ :: ·) <$>
        scan (p.after (t ++ opening ++ body ++ ['\x7d'])) rest := by
  have hsplit : t ++ opening ++ body ++ '\x7d' :: rest =
      t ++ (opening ++ body ++ '\x7d' :: rest) := by simp only [List.append_assoc]
  have hend : p.after (t ++ opening ++ body ++ ['\x7d']) =
      (p.after t).after (opening ++ body ++ ['\x7d']) := by
    rw [← after_append]
    simp only [List.append_assoc]
  have hopens : opening <+: opening ++ body ++ '\x7d' :: rest := ⟨_, (List.append_assoc _ _ _).symm⟩
  rw [hsplit, scan_append ht (.inr hopens), scan_segment hbody, ← after_append, hend]

/-- A segment that holds the text of an expression is read as it. -/
theorem parse_of_source {origin : Position} (h : Expr.parse source = .ok e) :
    parse ⟨source, origin⟩ = .ok e := by
  rw [parse, h]

/-- A segment that holds no text of an expression has a fault, at its place in the template. -/
theorem parse_of_fault {origin : Position} {fault : SyntaxFault}
    (h : Expr.parse source = .error fault) :
    parse ⟨source, origin⟩ = .error ⟨fault.cause, origin.within fault.position⟩ := by
  rw [parse, h]

/-- An expression whose text has no closing brace is the one segment of the template. -/
theorem ofTemplate_embed_of_not_mem (hbefore : ¬ opening <:+: before.toList)
    (hafter : ¬ opening <:+: after.toList) (hbrace : '\x7d' ∉ source.toList) :
    ofTemplate (embed before source after) =
      .ok [⟨source, Position.start.after (before.toList ++ opening)⟩] := by
  rw [ofTemplate, toList_embed, scan_text_segment hbefore hbrace, (Cut.text hafter).scan_eq,
    String.ofList_toList]
  rfl

/-- Where the text of an expression has a closing brace, the first segment of the template is no
expression. -/
theorem exists_fault_of_mem (h : Expr.parse source = .ok e)
    (hbefore : ¬ opening <:+: before.toList) (hbrace : '\x7d' ∈ source.toList)
    {segments : List Segment} (hsegments : ofTemplate (embed before source after) = .ok segments) :
    ∃ first more fault, segments = first :: more ∧ first.parse = .error fault := by
  obtain ⟨body, rest, hsource, hbody⟩ := List.eq_append_cons_of_mem hbrace
  have htext : (embed before source after).toList =
      before.toList ++ opening ++ body ++ '\x7d' :: (rest ++ '\x7d' :: after.toList) := by
    rw [toList_embed, hsource]
    simp only [List.append_assoc, List.cons_append]
  rw [ofTemplate, htext, scan_text_segment hbefore hbody] at hsegments
  obtain ⟨more, -, rfl⟩ := map_eq_ok_iff.1 hsegments
  obtain ⟨fault, hfault⟩ := Expr.exists_fault_of_brace h hsource
  exact ⟨_, more, _, rfl, parse_of_fault hfault⟩

/-- A template that holds the text of an expression between texts without an opening has this text
as its one segment, which is read as the expression, exactly where the text has no closing brace. In
every other case the template has no segments, or the first one is no expression. -/
theorem ofTemplate_embed (h : Expr.parse source = .ok e) (hbefore : ¬ opening <:+: before.toList)
    (hafter : ¬ opening <:+: after.toList) :
    ((∃ segment, ofTemplate (embed before source after) = .ok [segment] ∧
      segment.parse = .ok e) ↔ '\x7d' ∉ source.toList) ∧
    ('\x7d' ∉ source.toList → ofTemplate (embed before source after) =
      .ok [⟨source, Position.start.after (before.toList ++ opening)⟩]) ∧
    ('\x7d' ∈ source.toList → ∀ segments,
      ofTemplate (embed before source after) = .ok segments →
        ∃ first more fault, segments = first :: more ∧ first.parse = .error fault) := by
  refine ⟨⟨?_, fun hbrace => ⟨_, ofTemplate_embed_of_not_mem hbefore hafter hbrace,
    parse_of_source h⟩⟩, ofTemplate_embed_of_not_mem hbefore hafter,
    fun hbrace segments hsegments => exists_fault_of_mem h hbefore hbrace hsegments⟩
  rintro ⟨segment, hsegment, hparse⟩ hbrace
  obtain ⟨first, more, fault, hfirst, hfault⟩ := exists_fault_of_mem h hbefore hbrace hsegment
  obtain ⟨rfl, -⟩ := List.cons.inj hfirst
  cases hparse.symm.trans hfault

/-- A comparison of a fact with a text is read back from its text. -/
theorem parse_compare_fact (s : String) :
    Expr.parse (Expr.compare .eq (.reference ⟨.facts, "x"⟩) (.literal (.str s))).render =
      .ok (.compare .eq (.reference ⟨.facts, "x"⟩) (.literal (.str s))) :=
  Expr.parse_render_of_wellFormed {
    constants := List.forall_mem_singleton.2 trivial
    names := List.forall_mem_singleton.2
      (isName_iff.2 ⟨⟨'x', [], rfl, by decide, List.forall_mem_nil _⟩, by decide⟩)
    ordersNoList := ⟨nofun, trivial, trivial⟩ }

/-- A comparison with the text `ok` is the one segment of the template that holds it. -/
theorem ofTemplate_embed_ok :
    ofTemplate (embed "Got " "facts.x == \"ok\"" ".") = .ok [⟨"facts.x == \"ok\"", ⟨1, 7⟩⟩] :=
  (ofTemplate_embed (parse_compare_fact "ok") (by decide) (by decide)).2.1 (by decide)

/-- Not every expression can stand in a template: a comparison with the text of a closing brace is
cut at this brace. -/
theorem not_ofTemplate_embed :
    ¬ ∀ (before source after : String) (e : Expr), Expr.parse source = .ok e →
      '$' ∉ before.toList → '$' ∉ after.toList →
        ∃ segment, ofTemplate (embed before source after) = .ok [segment] ∧
          segment.parse = .ok e := by
  intro hall
  have hparse := parse_compare_fact "\x7d"
  have hbrace : '\x7d' ∈ ("facts.x == \"\x7d\"" : String).toList := by decide
  obtain ⟨segment, hsegment, hread⟩ := hall "Got " _ "" _ hparse (by decide) (by decide)
  obtain ⟨first, more, fault, hfirst, hfault⟩ :=
    exists_fault_of_mem hparse (by decide) hbrace hsegment
  obtain ⟨rfl, -⟩ := List.cons.inj hfirst
  cases hread.symm.trans hfault

end Segment

end CheckDoc
