import CheckDoc.Proofs.Document.Index
import Mathlib.Data.List.Basic

/-!
# Paths name fields

The path of a field is put together from names that may hold any characters, those of other paths
included. A path can be read from its end all the same: the name of the field has no point, and the
index of a condition no bracket. So the path determines the field (`SitePlace.path_injective`), its
last part is the name of the field (`Site.field_eq`), and where names are not repeated only the
segments of one message share a path (`Check.located_path_eq_iff`).
-/

namespace CheckDoc

/-! ## The last mark of a text -/

section LastMark

variable {x : Char} {front front' back back' : List Char}

/-- A text has one last occurrence of a mark. -/
theorem eq_of_last_mark (hback : x ∉ back) (hback' : x ∉ back')
    (h : front ++ x :: back = front' ++ x :: back') : front = front' ∧ back = back' := by
  -- Were one front longer, the mark behind it would stand in the back of the other.
  rcases List.append_eq_append_iff.1 h with ⟨more, rfl, htail⟩ | ⟨more, rfl, htail⟩
  · cases more with
    | nil => exact ⟨(List.append_nil _).symm, (List.cons.inj htail).2⟩
    | cons y more =>
      have hmem : x ∈ back := by
        rw [(List.cons.inj htail).2]
        exact List.mem_append_right _ List.mem_cons_self
      exact absurd hmem hback
  · cases more with
    | nil => exact ⟨List.append_nil _, (List.cons.inj htail).2.symm⟩
    | cons y more =>
      have hmem : x ∈ back' := by
        rw [(List.cons.inj htail).2]
        exact List.mem_append_right _ List.mem_cons_self
      exact absurd hmem hback'

/-- The part after the last point. -/
theorem afterLastDot_append (front : List Char) (hback : '.' ∉ back) :
    afterLastDot (front ++ '.' :: back) = back := by
  have hrest : ∀ c ∈ back.reverse, decide (c ≠ '.') = true := fun c hc =>
    decide_eq_true fun heq => hback (heq ▸ List.mem_reverse.1 hc)
  rw [afterLastDot, List.reverse_append, List.reverse_cons, List.append_assoc,
    List.takeWhile_append_of_pos hrest]
  simp

end LastMark

/-! ## The parts of a path -/

/-- The expression fields have names of their own. -/
theorem ExprField.name_injective : Function.Injective ExprField.name := by
  intro f g
  cases f <;> cases g <;> decide

/-- The message fields have names of their own. -/
theorem MessageField.name_injective : Function.Injective MessageField.name := by
  intro f g
  cases f <;> cases g <;> decide

/-- No expression field has the name of a message field. -/
theorem ExprField.name_ne (f : ExprField) (g : MessageField) : f.name ≠ g.name := by
  cases f <;> cases g <;> decide

namespace SitePlace

/-- The path of the condition or expectation that the field belongs to. -/
def parent : SitePlace → String
  | condition v i => "values." ++ v ++ ".conditions[" ++ toString i ++ "]"
  | expr e _ => "expectations." ++ e
  | message e _ => "expectations." ++ e

/-- The name of the field stands behind a point. -/
theorem toList_path (p : SitePlace) :
    p.path.toList = p.parent.toList ++ '.' :: p.fieldName.toList := by
  have hdot (front back : String) :
      (front ++ "." ++ back).toList = front.toList ++ '.' :: back.toList := by
    rw [String.toList_append, String.toList_append, List.append_assoc]
    rfl
  cases p with
  | condition v i =>
    have hend : "].when" = "]" ++ "." ++ "when" := by decide
    show ("values." ++ v ++ ".conditions[" ++ toString i ++ "].when").toList = _
    rw [hend, ← String.append_assoc, ← String.append_assoc]
    exact hdot _ _
  | expr e f => exact hdot _ _
  | message e f => exact hdot _ _

/-- The name of a field has no point. -/
theorem dot_not_mem_fieldName (p : SitePlace) : '.' ∉ p.fieldName.toList := by
  cases p with
  | condition v i =>
    show '.' ∉ "when".toList
    decide
  | expr e f =>
    show '.' ∉ f.name.toList
    cases f <;> decide
  | message e f =>
    show '.' ∉ f.name.toList
    cases f <;> decide

/-- The path of a condition tells the name of its value, whatever it holds, and its index. -/
theorem parent_condition_inj {v w : String} {i j : Nat}
    (h : (condition v i).parent = (condition w j).parent) : v = w ∧ i = j := by
  have hsplit : ∀ (v : String) (i : Nat), (condition v i).parent.toList =
      ("values.".toList ++ v.toList ++ ".conditions".toList) ++ '[' ::
        (Nat.toDigits 10 i ++ [']']) := fun v i => by
    have hopen : ".conditions[".toList = ".conditions".toList ++ ['['] := by decide
    have hclose : "]".toList = [']'] := by decide
    show ("values." ++ v ++ ".conditions[" ++ toString i ++ "]").toList = _
    simp only [String.toList_append, Nat.toString_eq_repr, Nat.toList_repr, hopen, hclose,
      List.append_assoc, List.cons_append, List.nil_append]
  have hindex : ∀ i : Nat, '[' ∉ Nat.toDigits 10 i ++ [']'] := fun i hmem => by
    rcases List.mem_append.1 hmem with hdigit | hclose
    · exact absurd (Nat.isDigit_of_mem_toDigits (by decide) (by decide) hdigit) (by decide)
    · exact absurd (List.mem_singleton.1 hclose) (by decide)
  have hlists := congrArg String.toList h
  rw [hsplit, hsplit] at hlists
  obtain ⟨hvalue, hbracket⟩ := eq_of_last_mark (hindex i) (hindex j) hlists
  have hdigits : Nat.toDigits 10 i = Nat.toDigits 10 j := List.append_cancel_right hbracket
  refine ⟨?_, ?_⟩
  · exact String.toList_inj.1 (List.append_cancel_left (List.append_cancel_right hvalue))
  · calc i = Nat.ofDigitChars 10 (Nat.toDigits 10 i) 0 := Nat.ofDigitChars_ten_toDigits.symm
      _ = Nat.ofDigitChars 10 (Nat.toDigits 10 j) 0 := by rw [hdigits]
      _ = j := Nat.ofDigitChars_ten_toDigits

/-- No path of a value is one of an expectation. -/
theorem parent_condition_ne (v e : String) (i : Nat) :
    (condition v i).parent ≠ "expectations." ++ e := by
  intro h
  have hhead : ("values." ++ v ++ ".conditions[" ++ toString i ++ "]").toList.head? =
      ("expectations." ++ e).toList.head? := congrArg (fun s : String => s.toList.head?) h
  have hvalue : "values.".toList = 'v' :: "alues.".toList := by decide
  have hexpectation : "expectations.".toList = 'e' :: "xpectations.".toList := by decide
  simp only [String.toList_append, hvalue, hexpectation, List.cons_append, List.head?_cons,
    Option.some.injEq] at hhead
  exact absurd hhead (by decide)

/-- The path of a field determines the field. -/
theorem path_injective : Function.Injective path := by
  intro p q h
  have hlists : p.path.toList = q.path.toList := congrArg String.toList h
  rw [toList_path, toList_path] at hlists
  obtain ⟨hparents, hnames⟩ :=
    eq_of_last_mark p.dot_not_mem_fieldName q.dot_not_mem_fieldName hlists
  have hparent : p.parent = q.parent := String.toList_inj.1 hparents
  have hname : p.fieldName = q.fieldName := String.toList_inj.1 hnames
  have hexpectation : ∀ {e e' : String}, "expectations." ++ e = "expectations." ++ e' → e = e' :=
    fun heq => (String.append_right_inj _).1 heq
  cases p with
  | condition v i =>
    cases q with
    | condition w j =>
      obtain ⟨rfl, rfl⟩ := parent_condition_inj hparent
      rfl
    | expr e f => exact absurd hparent (parent_condition_ne v e i)
    | message e f => exact absurd hparent (parent_condition_ne v e i)
  | expr e f =>
    cases q with
    | condition w j => exact absurd hparent.symm (parent_condition_ne w e j)
    | expr e' f' =>
      obtain rfl := hexpectation hparent
      obtain rfl := ExprField.name_injective hname
      rfl
    | message e' f' => exact absurd hname (f.name_ne f')
  | message e f =>
    cases q with
    | condition w j => exact absurd hparent.symm (parent_condition_ne w e j)
    | expr e' f' => exact absurd hname.symm (f'.name_ne f)
    | message e' f' =>
      obtain rfl := hexpectation hparent
      obtain rfl := MessageField.name_injective hname
      rfl

end SitePlace

/-- The last part of the path of a site is the name of its field. -/
theorem Site.field_eq (s : Site) : s.field = s.place.fieldName := by
  rw [field, path, SitePlace.toList_path, afterLastDot_append _ s.place.dot_not_mem_fieldName,
    String.ofList_toList]

/-! ## The fields of a Check -/

namespace Address

/-- The name of the field at an address. -/
def fieldName : Address → String
  | condition _ _ => "when"
  | field _ f => f.name
  | segment _ f _ => f.name
  | message _ f => f.name

/-- Two addresses are those of segments of one message of one expectation. -/
def SameMessage (a b : Address) : Prop :=
  ∃ i f k l, a = segment i f k ∧ b = segment i f l

end Address

variable {c : Check} {a b : Address} {s t : Site}

/-- The field of a site is the one at its address. -/
theorem Check.SiteAt.fieldName_eq (h : c.SiteAt a s) : s.place.fieldName = a.fieldName := by
  cases h with
  | condition hv hk => rfl
  | field hx ht => rfl
  | segment hx hf hcut hs => rfl
  | message hx hf hopen => rfl

/-- Segments of one message stand in the same field. -/
theorem Check.SiteAt.place_eq_of_sameMessage (ha : c.SiteAt a s) (hb : c.SiteAt b t)
    (h : a.SameMessage b) : s.place = t.place := by
  obtain ⟨i, f, k, l, rfl, rfl⟩ := h
  cases ha with
  | segment hx =>
    cases hb with
    | segment hy => rw [Option.some.inj (hx.symm.trans hy)]

/-- Entries with names of their own are told by their names. -/
theorem eq_of_name_eq {α : Type} {name : α → String} {l : List α} (h : (l.map name).Nodup)
    {i j : Nat} {x y : α} (hx : l[i]? = some x) (hy : l[j]? = some y) (hname : name x = name y) :
    i = j := by
  have hi : (l.map name)[i]? = some (name x) := by rw [List.getElem?_map, hx, Option.map_some]
  have hj : (l.map name)[j]? = some (name x) := by
    rw [List.getElem?_map, hy, Option.map_some, hname]
  exact (List.getElem?_inj (List.getElem?_eq_some_iff.1 hi).1 h).1 (hi.trans hj.symm)

/-- Where names are not repeated, a message that is cut into segments has none that is open. -/
theorem Check.not_openAfter_of_cut {i j : Nat} {e e' : Expectation} {f : MessageField}
    {template template' : String} {segments : List Segment} {front : List Char}
    (hexpectations : (c.expectations.map (·.name)).Nodup) (he : c.expectations[i]? = some e)
    (he' : c.expectations[j]? = some e') (hname : e.name = e'.name)
    (hf : e.message? f = some template) (hf' : e'.message? f = some template')
    (hcut : Segment.Cut .start template.toList segments) :
    ¬ Segment.OpenAfter .start template'.toList front := by
  intro hopen
  obtain rfl := eq_of_name_eq hexpectations he he' hname
  obtain rfl := Option.some.inj (he.symm.trans he')
  obtain rfl := Option.some.inj (hf.symm.trans hf')
  exact absurd (hcut.scan_eq.symm.trans hopen.scan_eq) nofun

/-- Where names are not repeated, two sites that stand in the same field have the same address or
are segments of one message. -/
theorem Check.SiteAt.eq_or_sameMessage (hvalues : (c.values.map (·.name)).Nodup)
    (hexpectations : (c.expectations.map (·.name)).Nodup) (ha : c.SiteAt a s) (hb : c.SiteAt b t)
    (h : s.place = t.place) : a = b ∨ a.SameMessage b := by
  cases ha with
  | condition hv hk =>
    cases hb with
    | condition hw hl =>
      obtain ⟨hname, rfl⟩ := SitePlace.condition.inj h
      rw [eq_of_name_eq hvalues hv hw hname]
      exact .inl rfl
    | field => cases h
    | segment => cases h
    | message => cases h
  | field hx ht =>
    cases hb with
    | condition => cases h
    | field hy hu =>
      obtain ⟨hname, rfl⟩ := SitePlace.expr.inj h
      rw [eq_of_name_eq hexpectations hx hy hname]
      exact .inl rfl
    | segment => cases h
    | message => cases h
  | segment hx hf hcut hs =>
    cases hb with
    | condition => cases h
    | field => cases h
    | segment hy hg hcut' hs' =>
      obtain ⟨hname, rfl⟩ := SitePlace.message.inj h
      rw [eq_of_name_eq hexpectations hx hy hname]
      exact .inr ⟨_, _, _, _, rfl, rfl⟩
    | message hy hg hopen =>
      obtain ⟨hname, rfl⟩ := SitePlace.message.inj h
      exact absurd hopen (Check.not_openAfter_of_cut hexpectations hx hy hname hf hg hcut)
  | message hx hf hopen =>
    cases hb with
    | condition => cases h
    | field => cases h
    | segment hy hg hcut hs =>
      obtain ⟨hname, rfl⟩ := SitePlace.message.inj h
      exact absurd hopen (Check.not_openAfter_of_cut hexpectations hy hx hname.symm hg hf hcut)
    | message hy hg hopen' =>
      obtain ⟨hname, rfl⟩ := SitePlace.message.inj h
      rw [eq_of_name_eq hexpectations hx hy hname]
      exact .inl rfl

/-- Every site of a Check is at its address, and the last part of its path is the name of the field
there. Where no name of a value and none of an expectation is repeated, whatever characters the
names hold, two sites have the same path exactly where they are segments of one message of one
expectation. -/
theorem Check.located_path_eq_iff (c : Check) :
    c.located.map (·.2) = c.sites ∧
    (∀ x ∈ c.located, c.SiteAt x.1 x.2 ∧ x.2.field = x.1.fieldName) ∧
    ((c.values.map (·.name)).Nodup → (c.expectations.map (·.name)).Nodup →
      c.located.Pairwise fun x y => x.2.path = y.2.path ↔ x.1.SameMessage y.1) := by
  refine ⟨c.map_snd_located, fun x hx => ?_, fun hvalues hexpectations => ?_⟩
  · have hsite : c.SiteAt x.1 x.2 := Check.mem_located.1 hx
    exact ⟨hsite, x.2.field_eq.trans hsite.fieldName_eq⟩
  · refine c.ascends_located.order.imp_of_mem fun {x y} hx hy hbefore => ?_
    have hxSite : c.SiteAt x.1 x.2 := Check.mem_located.1 hx
    have hySite : c.SiteAt y.1 y.2 := Check.mem_located.1 hy
    constructor
    · intro hpath
      -- The addresses ascend, so they differ.
      have hne : x.1 ≠ y.1 := fun heq => List.lt_irrefl y.1.key (heq ▸ hbefore)
      exact (hxSite.eq_or_sameMessage hvalues hexpectations hySite
        (SitePlace.path_injective hpath)).resolve_left hne
    · intro hsame
      exact congrArg SitePlace.path (hxSite.place_eq_of_sameMessage hySite hsame)

/-- A value and an expectation whose names end like the paths of others, a message with two
segments, and one with an open segment. -/
theorem Check.located_path_eq_iff_nested :
    let c : Check := ⟨"1", "paths", "base", "", "", none, [],
      [⟨"a", .scalar (.int 0), [⟨.scalar (.int 1), "facts.x"⟩]⟩,
        ⟨"a.conditions[0].when", .scalar (.int 0), [⟨.scalar (.int 1), "facts.x"⟩]⟩],
      [⟨"e", some "facts.x", none, none, some "$\x7bfacts.x\x7d and $\x7bfacts.y\x7d", none⟩,
        ⟨"e.expect", some "facts.x", none, none, some "$\x7b", none⟩], none⟩
    (c.values.map (·.name)).Nodup ∧ (c.expectations.map (·.name)).Nodup ∧
      c.located.Pairwise fun x y => x.2.path = y.2.path ↔ x.1.SameMessage y.1 := by
  intro c
  have hvalues : (c.values.map (·.name)).Nodup := by decide
  have hexpectations : (c.expectations.map (·.name)).Nodup := by decide
  exact ⟨hvalues, hexpectations, c.located_path_eq_iff.2.2 hvalues hexpectations⟩

end CheckDoc
