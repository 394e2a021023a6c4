import CheckDoc.Proofs.Expr.RoundTrip
import Mathlib.Data.List.Infix

/-!
# References and their tokens

A reference is written as a name, a point and a name. `dottedNames` collects these from a row of
tokens, at whatever place they begin and whatever stands around them. No phrase starts or ends with
a point, so nothing is collected across the border of two phrases (`ShowsReferences.append`). By
induction on the derivation the references of a tree are those that its tokens show
(`Phrase.Derives.shows`): none is lost, invented, repeated or moved
(`references_eq_dottedNames`).
-/

namespace CheckDoc

/-- The name of the scope of a reference, and the identifier. -/
def Reference.names (r : Reference) : String × String := (r.scope.name, r.identifier)

/-- The names on both sides of a point with which some tokens start. -/
def dottedHead? : List Token → Option (String × String)
  | t :: d :: name :: _ =>
    if t.kind = .identifier ∧ d.kind = .dot ∧ name.kind = .identifier then some (t.value, name.value)
    else none
  | _ => none

/-- The names on both sides of each point between two names of some tokens, from left to right. -/
def dottedNames (ts : List Token) : List (String × String) := ts.tails.filterMap dottedHead?

/-- What begins with the first token is collected first. -/
theorem dottedNames_cons (t : Token) (ts : List Token) :
    dottedNames (t :: ts) = (dottedHead? (t :: ts)).toList ++ dottedNames ts := by
  unfold dottedNames
  rw [List.tails_cons, List.filterMap_cons]
  cases dottedHead? (t :: ts) with
  | none => rfl
  | some names => rfl

/-- What begins with the first of some tokens lies in them, where no point stands at their end or
right after it. -/
theorem dottedHead?_append {t : Token} {ts us : List Token}
    (hlast : ∀ x ∈ (t :: ts).getLast?, x.kind ≠ .dot) (hhead : ∀ x ∈ us.head?, x.kind ≠ .dot) :
    dottedHead? (t :: ts ++ us) = dottedHead? (t :: ts) := by
  rcases ts with _ | ⟨d, _ | ⟨name, ts⟩⟩
  · rcases us with _ | ⟨u, _ | ⟨v, us⟩⟩
    · rfl
    · rfl
    · have hu : u.kind ≠ .dot := hhead u rfl
      exact if_neg fun h => hu h.2.1
  · have hd : d.kind ≠ .dot := hlast d rfl
    rcases us with _ | ⟨u, us⟩
    · rfl
    · exact if_neg fun h => hd h.2.1
  · rfl

/-- Whether some tokens neither start nor end with a point, and show some references. -/
structure ShowsReferences (ts : List Token) (rs : List Reference) : Prop where
  /-- The first token is no point. -/
  head : ∀ t ∈ ts.head?, t.kind ≠ .dot
  /-- The last token is no point. -/
  last : ∀ t ∈ ts.getLast?, t.kind ≠ .dot
  /-- The names on both sides of points are those of the references. -/
  names : dottedNames ts = rs.map Reference.names

namespace ShowsReferences

variable {ts us : List Token} {rs rs' : List Reference} {t : Token}

/-- No tokens show no references. -/
theorem nil : ShowsReferences [] [] := ⟨by simp, by simp, rfl⟩

/-- A token that is no point shows no reference. -/
theorem single (ht : t.kind ≠ .dot) : ShowsReferences [t] [] :=
  ⟨by simpa using ht, by simpa using ht, rfl⟩

/-- Nothing is collected across the border of two rows of tokens. -/
theorem dottedNames_append (hlast : ∀ x ∈ ts.getLast?, x.kind ≠ .dot)
    (hhead : ∀ x ∈ us.head?, x.kind ≠ .dot) :
    dottedNames (ts ++ us) = dottedNames ts ++ dottedNames us := by
  induction ts with
  | nil => rfl
  | cons t ts ih =>
    have hrest : ∀ x ∈ ts.getLast?, x.kind ≠ .dot := fun x hx => hlast x (by
      cases ts with
      | nil => cases hx
      | cons u ts => exact hx)
    rw [dottedNames_cons, List.append_assoc, ← ih hrest, ← dottedHead?_append hlast hhead]
    exact dottedNames_cons t (ts ++ us)

/-- Two rows of tokens show the references of both. -/
theorem append (h : ShowsReferences ts rs) (h' : ShowsReferences us rs') :
    ShowsReferences (ts ++ us) (rs ++ rs') where
  head := by
    cases ts with
    | nil => exact h'.head
    | cons t ts => exact h.head
  last := by
    intro x hx
    rw [List.getLast?_append, Option.mem_def, Option.or_eq_some_iff] at hx
    rcases hx with hx | ⟨-, hx⟩
    · exact h'.last x hx
    · exact h.last x hx
  names := by rw [dottedNames_append h.last h'.head, h.names, h'.names, List.map_append]

/-- A token that is no point may stand in front. -/
theorem cons (ht : t.kind ≠ .dot) (h : ShowsReferences ts rs) : ShowsReferences (t :: ts) rs :=
  (single ht).append h

/-- A token that is no point may stand in between. -/
theorem between (ht : t.kind ≠ .dot) (h : ShowsReferences ts rs) (h' : ShowsReferences us rs') :
    ShowsReferences (ts ++ t :: us) (rs ++ rs') :=
  h.append (h'.cons ht)

/-- Two tokens that are no points may stand around. -/
theorem enclosed {u : Token} (ht : t.kind ≠ .dot) (hu : u.kind ≠ .dot)
    (h : ShowsReferences ts rs) : ShowsReferences (t :: (ts ++ [u])) rs := by
  have hclosed := h.append (single hu)
  rw [List.append_nil] at hclosed
  exact hclosed.cons ht

end ShowsReferences

/-! ## The tokens of a tree -/

/-- A token of another kind is no point. -/
theorem Token.kind_ne_dot {t : Token} {k : TokenKind} (ht : t.kind = k) (hk : k ≠ .dot) :
    t.kind ≠ .dot :=
  ht ▸ hk

/-- A literal is no point. -/
theorem Token.kind_ne_dot_of_constant {t : Token} {v : Scalar} (h : t.constant? = some v) :
    t.kind ≠ .dot := by
  intro hdot
  simp [constant?, hdot] at h

/-- The items of a list show no references. -/
theorem Items.showsReferences {ts : List Token} {vs : List Scalar} (h : Items ts vs) :
    ShowsReferences ts [] := by
  induction h with
  | one literal => exact .single (Token.kind_ne_dot_of_constant literal)
  | cons literal hcomma _ ih =>
    exact (ih.cons (Token.kind_ne_dot hcomma (by decide))).cons
      (Token.kind_ne_dot_of_constant literal)

/-- The name of a scope stands for it. -/
theorem Scope.name_of_ofName? {s : String} {scope : Scope} (h : ofName? s = some scope) :
    scope.name = s := by
  unfold ofName? at h
  split_ifs at h with hfacts hvalues henv
  · cases h
    exact hfacts.symm
  · cases h
    exact hvalues.symm
  · cases h
    exact henv.symm

/-- A name, a point and a name show the reference that they stand for. -/
theorem showsReferences_reference {t d name : Token} {scope : Scope} (hhead : t.kind = .identifier)
    (hscope : Scope.ofName? t.value = some scope) (hdot : d.kind = .dot)
    (hname : name.kind = .identifier) :
    ShowsReferences [t, d, name] [⟨scope, name.value⟩] where
  head := by simp [hhead]
  last := by simp [hname]
  names := by
    have hfirst : dottedHead? [t, d, name] = some (t.value, name.value) :=
      if_pos ⟨hhead, hdot, hname⟩
    rw [dottedNames_cons, hfirst, ← Scope.name_of_ofName? hscope]
    rfl

namespace Phrase

/-- Whether some tokens show the references of a tree, but for those of the tree on the left that the
rest of a row knows. -/
def Shows (p : Phrase) (ts : List Token) (e : Expr) : Prop :=
  ∃ rs, ShowsReferences ts rs ∧ e.references = (p.left?.map Expr.references).getD [] ++ rs

variable {p row : Phrase} {ts us vs : List Token} {e left : Expr}

/-- A phrase without a tree on its left shows all references. -/
theorem shows_iff (hp : p.left? = none) : p.Shows ts e ↔ ShowsReferences ts e.references := by
  unfold Shows
  rw [hp]
  constructor
  · rintro ⟨rs, hrs, he⟩
    have he : e.references = rs := he
    rwa [he]
  · intro h
    exact ⟨e.references, h, rfl⟩

/-- The rest of a row shows what comes after the tree on its left. -/
theorem shows_row_iff (hrow : row.left? = some left) :
    row.Shows ts e ↔ ∃ rs, ShowsReferences ts rs ∧ e.references = left.references ++ rs := by
  unfold Shows
  rw [hrow]
  rfl

/-- The head of a row and its rest show the references of the whole row. -/
theorem Shows.append (htail : row.Shows vs e) (hrow : row.left? = some left)
    (hhead : ShowsReferences us left.references) :
    ShowsReferences (us ++ vs) e.references := by
  obtain ⟨rs, hrs, he⟩ := (shows_row_iff hrow).1 htail
  rw [he]
  exact hhead.append hrs

/-- An operator, an operand and the rest of a row are the rest of a row with a smaller tree on its
left. -/
theorem Shows.cons {more : Phrase} {t : Token} {right joined : Expr} (htail : more.Shows vs e)
    (hmore : more.left? = some joined) (hrow : row.left? = some left)
    (hjoined : joined.references = left.references ++ right.references) (ht : t.kind ≠ .dot)
    (hhead : ShowsReferences us right.references) : row.Shows (t :: (us ++ vs)) e := by
  obtain ⟨rs, hrs, he⟩ := (shows_row_iff hmore).1 htail
  refine (shows_row_iff hrow).2 ⟨right.references ++ rs, (hhead.append hrs).cons ht, ?_⟩
  rw [he, hjoined, List.append_assoc]

/-- The references of a tree are those that its tokens show, after those of the tree on the left of
a row. -/
theorem Derives.shows (h : p.Derives ts e) : p.Shows ts e := by
  -- The tree on the left of a row grows with each operand, so what its tokens show is carried apart
  -- from what the rest shows.
  induction h with
  | disjunction _ _ ihHead ihTail =>
    exact (shows_iff rfl).2 (ihTail.append rfl ((shows_iff rfl).1 ihHead))
  | disjunctsNil => exact (shows_row_iff rfl).2 ⟨[], .nil, (List.append_nil _).symm⟩
  | disjunctsCons hor _ _ ihHead ihTail =>
    exact ihTail.cons rfl rfl rfl (Token.kind_ne_dot hor (by decide)) ((shows_iff rfl).1 ihHead)
  | conjunction _ _ ihHead ihTail =>
    exact (shows_iff rfl).2 (ihTail.append rfl ((shows_iff rfl).1 ihHead))
  | conjunctsNil => exact (shows_row_iff rfl).2 ⟨[], .nil, (List.append_nil _).symm⟩
  | conjunctsCons hand _ _ ihHead ihTail =>
    exact ihTail.cons rfl rfl rfl (Token.kind_ne_dot hand (by decide)) ((shows_iff rfl).1 ihHead)
  | negation _ ih => exact ih
  | not hnot _ ih =>
    have hbody := (shows_iff rfl).1 ih
    exact (shows_iff rfl).2 (hbody.cons (Token.kind_ne_dot hnot (by decide)))
  | comparison _ ih => exact ih
  | compare _ hop _ ihLeft ihRight =>
    have hleft := (shows_iff rfl).1 ihLeft
    have hright := (shows_iff rfl).1 ihRight
    exact (shows_iff rfl).2 (hleft.between (Token.kind_ne_dot hop (by simp)) hright)
  | literal hliteral =>
    exact (shows_iff rfl).2 (.single (Token.kind_ne_dot_of_constant hliteral))
  | emptyList hopen hclose =>
    have hmarks := ShowsReferences.nil.enclosed (Token.kind_ne_dot hopen (by decide))
      (Token.kind_ne_dot hclose (by decide))
    exact (shows_iff rfl).2 hmarks
  | list hopen items hclose =>
    have hmarks := items.showsReferences.enclosed (Token.kind_ne_dot hopen (by decide))
      (Token.kind_ne_dot hclose (by decide))
    exact (shows_iff rfl).2 hmarks
  | reference hhead hscope hdot hname =>
    exact (shows_iff rfl).2 (showsReferences_reference hhead hscope hdot hname)
  | parens hopen _ hclose ih =>
    have hbody := (shows_iff rfl).1 ih
    exact (shows_iff rfl).2 (hbody.enclosed (Token.kind_ne_dot hopen (by decide))
      (Token.kind_ne_dot hclose (by decide)))

/-- The references of a disjunction are those that its tokens show. -/
theorem Derives.showsReferences (h : Derives .disjunction ts e) :
    ShowsReferences ts e.references :=
  (shows_iff rfl).1 h.shows

end Phrase

/-- A block shows no references. -/
theorem Block.showsReferences {ts : List Token} {v : Scalar} (h : Block ts v) :
    ShowsReferences ts [] := by
  cases h with
  | @mk t u w v hopen literal hclose =>
    exact (ShowsReferences.single (Token.kind_ne_dot_of_constant literal)).enclosed
      (Token.kind_ne_dot hopen (by decide)) (Token.kind_ne_dot hclose (by decide))

/-- An arm shows the references of its condition. -/
theorem Arm.showsReferences {ts : List Token} {b : Branch} (h : Arm ts b) :
    ShowsReferences ts b.condition.references := by
  cases h with
  | mk hif hcondition hblock =>
    have hrow := hcondition.showsReferences.append hblock.showsReferences
    rw [List.append_nil] at hrow
    exact hrow.cons (Token.kind_ne_dot hif (by decide))

/-- The rest of a choice shows the references of its conditions. -/
theorem Arms.showsReferences {ts : List Token} {bs : List Branch} {o : Option Scalar}
    (h : Arms ts bs o) : ShowsReferences ts (bs.flatMap (·.condition.references)) := by
  induction h with
  | nil => exact .nil
  | otherwise helse hblock => exact hblock.showsReferences.cons (Token.kind_ne_dot helse (by decide))
  | cons helse head _ ih =>
    rw [List.flatMap_cons]
    exact (head.showsReferences.append ih).cons (Token.kind_ne_dot helse (by decide))

/-- A choice shows the references of its conditions. -/
theorem Choice.Derives.showsReferences {ts : List Token} {c : Choice} (h : Choice.Derives ts c) :
    ShowsReferences ts c.references := by
  cases h with
  | mk head tail =>
    unfold Choice.references
    rw [List.flatMap_cons]
    exact head.showsReferences.append tail.showsReferences

/-- The references of what is read from a text, with their repetitions, are the names on both sides
of points among the tokens of the text, from left to right. -/
theorem references_eq_dottedNames :
    (∀ source e, Expr.parse source = .ok e → ∃ stream, tokenize source = .ok stream ∧
      e.references.map Reference.names = dottedNames stream.tokens) ∧
    ∀ source c, Choice.parse source = .ok c → ∃ stream, tokenize source = .ok stream ∧
      c.references.map Reference.names = dottedNames stream.tokens := by
  constructor
  · intro source e h
    obtain ⟨stream, htokens, -⟩ := bind_eq_ok_iff.1 h
    have hderives := (((parse_eq_ok_iff htokens).1 e).1 h).derives
    exact ⟨stream, htokens, hderives.showsReferences.names.symm⟩
  · intro source c h
    obtain ⟨stream, htokens, -⟩ := bind_eq_ok_iff.1 h
    have hderives := (((parse_eq_ok_iff htokens).2 c).1 h).derives
    exact ⟨stream, htokens, hderives.showsReferences.names.symm⟩

/-- A reference that occurs twice is found twice among the tokens, on both sides of another one. -/
theorem references_eq_dottedNames_twice :
    Expr.parse "facts.x == values.y && !facts.x" = .ok (.and
      (.compare .eq (.reference ⟨.facts, "x"⟩) (.reference ⟨.values, "y"⟩))
      (.not (.reference ⟨.facts, "x"⟩))) ∧
    ∃ stream, tokenize "facts.x == values.y && !facts.x" = .ok stream ∧
      dottedNames stream.tokens = [("facts", "x"), ("values", "y"), ("facts", "x")] := by
  have hx : IsName "x" :=
    isName_iff.2 ⟨⟨'x', [], rfl, by decide, List.forall_mem_nil _⟩, by decide⟩
  have hy : IsName "y" :=
    isName_iff.2 ⟨⟨'y', [], rfl, by decide, List.forall_mem_nil _⟩, by decide⟩
  have hwell : Expr.WellFormed (.and
      (.compare .eq (.reference ⟨.facts, "x"⟩) (.reference ⟨.values, "y"⟩))
      (.not (.reference ⟨.facts, "x"⟩))) := {
    constants := List.forall_mem_nil _
    names := List.forall_mem_cons.2 ⟨hx, List.forall_mem_cons.2
      ⟨hy, List.forall_mem_singleton.2 hx⟩⟩
    ordersNoList := ⟨⟨nofun, trivial, trivial⟩, trivial⟩ }
  have hparse : Expr.parse "facts.x == values.y && !facts.x" = .ok _ :=
    Expr.parse_render_of_wellFormed hwell
  obtain ⟨stream, htokens, hnames⟩ := references_eq_dottedNames.1 _ _ hparse
  exact ⟨hparse, stream, htokens, hnames.symm⟩

end CheckDoc
