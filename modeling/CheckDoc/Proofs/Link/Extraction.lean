import CheckDoc.Link.Extraction
import CheckDoc.Proofs.Text.NameSet
import Mathlib.Data.List.DropRight
import Mathlib.Data.List.Forall2
import Mathlib.Data.List.TakeWhile

/-!
# The links of a text

`IsLink` is the form of a link, told apart from the scan: a scheme, and a row of items behind it.
The scan takes at a place the longest link that stands there (`linkPrefix?_append`) and goes on
behind it. So it takes from a text the leftmost and longest links that do not overlap (`Leftmost`),
of which there is one choice only, and no link of the text begins outside of them
(`extract_leftmost`).

The punctuation is cut from a link after it is taken. What is left is a row of items still, but the
row may be empty: then only a scheme is left, which is no link. Every other link that is extracted
from a text is extracted from itself (`extract_of_mem_extract`).
-/

namespace CheckDoc.Link

/-! ## The form of links -/

/-- The schemes of links. -/
def schemes : List (List Char) := ["http://".toList, "https://".toList]

/-- A row of items: plain characters, and pairs of parentheses around them. -/
inductive Items : List Char → Prop
  /-- There is none. -/
  | nil : Items []
  /-- A plain character comes first. -/
  | plain {c : Char} {s : List Char} (hc : isPlain c = true) (hs : Items s) : Items (c :: s)
  /-- A pair of parentheses comes first. -/
  | group {inner s : List Char} (hinner : ∀ c ∈ inner, isPlain c = true) (hs : Items s) :
    Items ('(' :: (inner ++ ')' :: s))

/-- A link is a scheme with one or more items. -/
inductive IsLink : List Char → Prop
  /-- The items follow the scheme. -/
  | mk {scheme items : List Char} (hscheme : scheme ∈ schemes) (hitems : Items items)
    (hne : items ≠ []) : IsLink (scheme ++ items)

/-- A link stands in a text at an offset. -/
def StandsAt (text : List Char) (i : Nat) (link : List Char) : Prop :=
  IsLink link ∧ link <+: text.drop i

/-- The longest link that stands in a text at an offset. -/
structure IsLongestAt (text : List Char) (i : Nat) (link : List Char) : Prop where
  /-- It stands there. -/
  stands : StandsAt text i link
  /-- No longer one stands there. -/
  longest : ∀ other, StandsAt text i other → other.length ≤ link.length

/-- The leftmost and longest links of a text from the offset `k` on that do not overlap, each with
its offset. -/
inductive Leftmost (text : List Char) : Nat → List (Nat × List Char) → Prop
  /-- No link begins from there on. -/
  | none {k : Nat} (hnone : ∀ i, k ≤ i → ∀ link, ¬ StandsAt text i link) : Leftmost text k []
  /-- The longest link at the first offset at which one begins, and then the links behind it. -/
  | link {k i : Nat} {link : List Char} {more : List (Nat × List Char)} (hle : k ≤ i)
    (hfirst : ∀ j, k ≤ j → j < i → ∀ other, ¬ StandsAt text j other)
    (hlongest : IsLongestAt text i link) (hmore : Leftmost text (i + link.length) more) :
    Leftmost text k ((i, link) :: more)

/-! ## Items -/

variable {s t rest inner items link scheme text : List Char} {k i : Nat}
  {ms : List (Nat × List Char)}

/-- Parentheses are not plain. -/
theorem isPlain_parentheses : isPlain '(' = false ∧ isPlain ')' = false := by decide

/-- A group is read up to its closing parenthesis. -/
theorem group?_append (h : ∀ c ∈ inner, isPlain c = true) (rest : List Char) :
    group? (inner ++ ')' :: rest) = some (inner, rest) := by
  have hclose : ¬ isPlain ')' = true := Bool.eq_false_iff.1 isPlain_parentheses.2
  rw [group?, List.dropWhile_append_of_pos h, List.dropWhile_cons_of_neg hclose,
    List.takeWhile_append_of_pos h, List.takeWhile_cons_of_neg hclose, List.append_nil]
  rfl

/-- What is read as a group are plain characters up to a closing parenthesis. -/
theorem eq_of_group? (h : group? s = some (inner, rest)) :
    s = inner ++ ')' :: rest ∧ ∀ c ∈ inner, isPlain c = true := by
  unfold group? at h
  split at h
  · rename_i after hdrop
    rw [Option.some.injEq, Prod.mk.injEq] at h
    obtain ⟨rfl, rfl⟩ := h
    rw [← hdrop, List.takeWhile_append_dropWhile]
    exact ⟨rfl, fun c hc => List.mem_takeWhile_imp hc⟩
  · cases h

/-- A row of items is read as a whole, and then the items behind it. -/
theorem itemsPrefix_append (h : Items t) (rest : List Char) :
    itemsPrefix (t ++ rest) = t ++ itemsPrefix rest := by
  induction h with
  | nil => rfl
  | plain hc _ ih =>
    rw [List.cons_append, itemsPrefix, if_pos hc, ih]
    rfl
  | @group inner s hinner _ ih =>
    have hsplit : '(' :: (inner ++ ')' :: s) ++ rest = '(' :: (inner ++ ')' :: (s ++ rest)) := by
      simp
    have hopen : ¬ isPlain '(' = true := Bool.eq_false_iff.1 isPlain_parentheses.1
    rw [hsplit, itemsPrefix, if_neg hopen, if_pos rfl]
    split
    · rename_i inner' after hgroup
      rw [group?_append hinner, Option.some.injEq, Prod.mk.injEq] at hgroup
      obtain ⟨rfl, rfl⟩ := hgroup
      rw [ih]
      simp
    · rename_i hgroup
      rw [group?_append hinner] at hgroup
      cases hgroup

/-- What is read at the start of a text is a row of items. -/
theorem items_itemsPrefix (s : List Char) : Items (itemsPrefix s) := by
  fun_induction itemsPrefix s with
  | case1 => exact .nil
  | case2 c rest hc ih => exact .plain hc ih
  | case3 rest inner after hgroup _ ih =>
    rw [List.cons_append]
    exact .group (eq_of_group? hgroup).2 ih
  | case4 | case5 => exact .nil

/-- The text starts with the items that are read. -/
theorem itemsPrefix_isPrefix (s : List Char) : itemsPrefix s <+: s := by
  fun_induction itemsPrefix s with
  | case1 => exact List.prefix_rfl
  | case2 c rest hc ih => exact (List.prefix_cons_inj c).2 ih
  | case3 rest inner after hgroup _ ih =>
    obtain ⟨rfl, -⟩ := eq_of_group? hgroup
    rw [List.cons_append, List.prefix_cons_inj, List.prefix_append_right_inj,
      List.prefix_cons_inj]
    exact ih
  | case4 | case5 => exact List.nil_prefix

/-- A row of items stays one without its last character, unless that closes a group. -/
theorem Items.of_concat {c : Char} (h : Items (s ++ [c])) (hc : c ≠ ')') : Items s := by
  generalize hs : s ++ [c] = t at h
  -- The last character is that of the row behind the first item, where there is such a row.
  induction h generalizing s with
  | nil => exact absurd hs (by simp)
  | @plain d t hd ht ih =>
    cases s with
    | nil => exact .nil
    | cons d' s =>
      obtain ⟨rfl, rfl⟩ := List.cons.inj hs
      exact .plain hd (ih rfl)
  | @group inner t hinner ht ih =>
    obtain rfl | ⟨t, d, rfl⟩ := List.eq_nil_or_concat' t
    · -- The row ends with the group.
      have hsplit : s ++ [c] = '(' :: inner ++ [')'] := hs
      exact absurd (List.singleton_inj.1 (List.append_inj' hsplit rfl).2) hc
    · have hsplit : s ++ [c] = '(' :: (inner ++ ')' :: t) ++ [d] := by simp [hs]
      obtain ⟨rfl, hcd⟩ := List.append_inj' hsplit rfl
      exact .group hinner (ih (by rw [hcd]))

/-! ## Links -/

/-- There are two schemes. -/
theorem mem_schemes_iff :
    scheme ∈ schemes ↔ scheme = "http://".toList ∨ scheme = "https://".toList := by
  simp only [schemes, List.mem_cons, List.not_mem_nil, or_false]

/-- The scheme in front of a text is read. -/
theorem scheme?_append (h : scheme ∈ schemes) (rest : List Char) :
    scheme? (scheme ++ rest) = some (scheme, rest) := by
  obtain rfl | rfl := mem_schemes_iff.1 h <;> rfl

/-- What is read as a scheme stands in front. -/
theorem eq_of_scheme? (h : scheme? s = some (scheme, rest)) :
    scheme ∈ schemes ∧ s = scheme ++ rest := by
  unfold scheme? at h
  split at h
  · obtain ⟨rfl, rfl⟩ := Prod.mk.inj (Option.some.inj h)
    exact ⟨List.mem_cons_self, rfl⟩
  · obtain ⟨rfl, rfl⟩ := Prod.mk.inj (Option.some.inj h)
    exact ⟨List.mem_cons_of_mem _ List.mem_cons_self, rfl⟩
  · cases h

/-- Where a text starts with a link, it is read, and the items behind it. -/
theorem linkPrefix?_append (h : IsLink link) (rest : List Char) :
    linkPrefix? (link ++ rest) = some (link ++ itemsPrefix rest) := by
  obtain ⟨hscheme, hitems, hne⟩ := h
  rw [linkPrefix?, List.append_assoc, scheme?_append hscheme]
  dsimp only
  rw [itemsPrefix_append hitems]
  split
  · rename_i hnil
    exact absurd (List.append_eq_nil_iff.1 hnil).1 hne
  · rw [List.append_assoc]

/-- What is read as a link is one that the text starts with. -/
theorem isLink_of_linkPrefix? (h : linkPrefix? s = some link) : IsLink link ∧ link <+: s := by
  unfold linkPrefix? at h
  split at h
  · cases h
  · rename_i scheme rest hread
    obtain ⟨hscheme, rfl⟩ := eq_of_scheme? hread
    split at h
    · cases h
    · rename_i hne
      obtain rfl := Option.some.inj h
      exact ⟨.mk hscheme (items_itemsPrefix rest) hne,
        (List.prefix_append_right_inj scheme).2 (itemsPrefix_isPrefix rest)⟩

/-- What is read as a link at an offset is the longest one there. -/
theorem isLongestAt_of_linkPrefix? (h : linkPrefix? (text.drop i) = some link) :
    IsLongestAt text i link where
  stands := isLink_of_linkPrefix? h
  longest := by
    rintro other ⟨hother, rest, hrest⟩
    rw [← hrest, linkPrefix?_append hother, Option.some.injEq] at h
    rw [← h, List.length_append]
    exact Nat.le_add_right _ _

/-- Where no link is read, none stands. -/
theorem not_standsAt_of_linkPrefix? (h : linkPrefix? (text.drop i) = none) :
    ¬ StandsAt text i link := by
  rintro ⟨hlink, rest, hrest⟩
  rw [← hrest, linkPrefix?_append hlink] at h
  cases h

/-- A link is not empty. -/
theorem IsLink.length_pos (h : IsLink link) : 0 < link.length := by
  obtain ⟨-, -, hne⟩ := h
  rw [List.length_append]
  exact Nat.add_pos_right _ (List.length_pos_iff.2 hne)

/-- Of two links that are the longest at an offset there is one only. -/
theorem IsLongestAt.eq {other : List Char} (h : IsLongestAt text i link)
    (h' : IsLongestAt text i other) : link = other := by
  have hlength : link.length = other.length :=
    Nat.le_antisymm (h'.longest _ h.stands) (h.longest _ h'.stands)
  exact (List.prefix_of_prefix_length_le h.stands.2 h'.stands.2 hlength.le).eq_of_length hlength

/-! ## The scan -/

/-- Where no link begins at an offset, those from the next one on are those from there on. -/
theorem Leftmost.of_succ (hnone : ∀ link, ¬ StandsAt text k link)
    (h : Leftmost text (k + 1) ms) : Leftmost text k ms := by
  -- An offset from `k` on is `k` itself, or one from the next on.
  have hk : ∀ {j : Nat} {link : List Char}, k ≤ j → StandsAt text j link → k + 1 ≤ j :=
    fun hle hstands => Nat.lt_of_le_of_ne hle fun heq => hnone _ (heq ▸ hstands)
  cases h with
  | none hmore => exact .none fun i hi link hstands => hmore i (hk hi hstands) link hstands
  | link hle hfirst hlongest hmore =>
    refine .link (Nat.le_of_succ_le hle) (fun j hj hji other hstands => ?_) hlongest hmore
    exact hfirst j (hk hj hstands) hji other hstands

/-- The leftmost and longest links are determined by the text. -/
theorem Leftmost.eq {ms' : List (Nat × List Char)} (h : Leftmost text k ms)
    (h' : Leftmost text k ms') : ms = ms' := by
  induction h generalizing ms' with
  | none hnone =>
    cases h' with
    | none => rfl
    | link hle _ hlongest => exact absurd hlongest.stands (hnone _ hle _)
  | @link k i link more hle hfirst hlongest _ ih =>
    cases h' with
    | none hnone => exact absurd hlongest.stands (hnone _ hle _)
    | @link _ i' link' _ hle' hfirst' hlongest' hmore' =>
      -- The first offset at which a link stands is the same, and so is the longest link there.
      obtain hlt | rfl | hlt := Nat.lt_trichotomy i i'
      · exact absurd hlongest.stands (hfirst' i hle hlt _)
      · obtain rfl := hlongest.eq hlongest'
        rw [ih hmore']
      · exact absurd hlongest'.stands (hfirst i' hle' hlt _)

/-- Every link of the text begins within one of the leftmost and longest ones. -/
theorem Leftmost.covers (h : Leftmost text k ms) (hk : k ≤ i) (hstands : StandsAt text i link) :
    ∃ m ∈ ms, m.1 ≤ i ∧ i < m.1 + m.2.length := by
  induction h with
  | none hnone => exact absurd hstands (hnone i hk link)
  | @link k j taken more _ hfirst _ _ ih =>
    by_cases hlt : i < j
    · exact absurd hstands (hfirst i hk hlt link)
    by_cases hwithin : i < j + taken.length
    · exact ⟨(j, taken), List.mem_cons_self, Nat.le_of_not_lt hlt, hwithin⟩
    · obtain ⟨m, hm, hcovers⟩ := ih (Nat.le_of_not_lt hwithin)
      exact ⟨m, List.mem_cons_of_mem _ hm, hcovers⟩

/-- Each of the leftmost and longest links is the longest at its offset. -/
theorem Leftmost.isLongestAt (h : Leftmost text k ms) (hm : (i, link) ∈ ms) :
    IsLongestAt text i link := by
  induction h with
  | none => cases hm
  | link _ _ hlongest _ ih =>
    obtain heq | hm := List.mem_cons.1 hm
    · obtain ⟨rfl, rfl⟩ := Prod.mk.inj heq
      exact hlongest
    · exact ih hm

/-- Characters that are skipped are dropped. -/
theorem matchesFrom_eq_drop (n : Nat) (s : List Char) :
    matchesFrom n s = matchesFrom 0 (s.drop n) := by
  induction s generalizing n with
  | nil => rw [List.drop_nil, matchesFrom, matchesFrom]
  | cons c rest ih =>
    cases n with
    | zero => rfl
    | succ n => rw [matchesFrom, ih, List.drop_succ_cons]

/-- The scan takes the link that is read, and goes on behind it. -/
theorem matchesFrom_of_link (h : linkPrefix? s = some link) :
    matchesFrom 0 s = link :: matchesFrom 0 (s.drop link.length) := by
  have hpos := (isLink_of_linkPrefix? h).1.length_pos
  cases s with
  | nil => cases h
  | cons c rest =>
    -- The first character is read already, so that one less is skipped.
    obtain ⟨n, hn⟩ := Nat.exists_eq_add_one.2 hpos
    rw [matchesFrom, h]
    dsimp only
    rw [matchesFrom_eq_drop, hn, List.drop_succ_cons, Nat.add_sub_cancel]

/-- The scan from an offset on takes the leftmost and longest links. -/
theorem exists_leftmost (text : List Char) (k : Nat) :
    ∃ ms, Leftmost text k ms ∧ matchesFrom 0 (text.drop k) = ms.map (·.2) := by
  -- The scan goes on behind a link, so the induction is on the length of what is left.
  induction hn : text.length - k using Nat.strong_induction_on generalizing k with
  | _ n ih =>
  cases hread : linkPrefix? (text.drop k) with
  | some link =>
    have hlongest := isLongestAt_of_linkPrefix? hread
    have hpos := hlongest.stands.1.length_pos
    have hle := hlongest.stands.2.length_le
    rw [List.length_drop] at hle
    obtain ⟨more, hmore, hmatches⟩ := ih _ (by omega) (k + link.length) rfl
    refine ⟨(k, link) :: more, .link (Nat.le_refl k) (fun j hj hjk => ?_) hlongest hmore, ?_⟩
    · exact absurd hjk (Nat.not_lt.2 hj)
    · rw [matchesFrom_of_link hread, List.drop_drop, hmatches]
      rfl
  | none =>
    have hnone : ∀ link, ¬ StandsAt text k link := fun _ => not_standsAt_of_linkPrefix? hread
    cases hdrop : text.drop k with
    | nil =>
      -- Behind the end of the text there is no character for a link.
      refine ⟨[], .none fun i hi link hstands => ?_, rfl⟩
      have hstarts := hstands.2
      rw [List.drop_eq_nil_of_le ((List.drop_eq_nil_iff.1 hdrop).trans hi)] at hstarts
      exact hstands.1.length_pos.ne' (List.length_eq_zero_iff.2 (List.prefix_nil.1 hstarts))
    | cons c rest =>
      have hlt : k < text.length := by
        rw [← Nat.not_le, ← List.drop_eq_nil_iff, hdrop]
        exact List.cons_ne_nil c rest
      have hrest : text.drop (k + 1) = rest := by
        rw [← List.drop_drop, hdrop]
        rfl
      obtain ⟨ms, hms, hmatches⟩ := ih _ (by omega) (k + 1) rfl
      refine ⟨ms, hms.of_succ hnone, ?_⟩
      rw [← hmatches, hrest, matchesFrom, ← hdrop, hread]

/-! ## Punctuation -/

/-- `t` is `s` without all punctuation at its end. -/
structure IsStripped (s t : List Char) : Prop where
  /-- Punctuation is cut from the end. -/
  tail : ∃ tail, s = t ++ tail ∧ ∀ c ∈ tail, c ∈ endPunctuation
  /-- No punctuation is left there. -/
  last : ∀ c ∈ t.getLast?, c ∉ endPunctuation

/-- The punctuation at the end is dropped. -/
theorem isStripped_dropPunctuation (s : List Char) : IsStripped s (dropPunctuation s) where
  tail := by
    refine ⟨s.rtakeWhile endPunctuation.contains, ?_, fun c hc => ?_⟩
    · exact List.rdropWhile_append_rtakeWhile.symm
    · exact List.contains_iff_mem.1 (List.mem_rtakeWhile_imp hc)
  last := by
    intro c hc hmem
    have hne : dropPunctuation s ≠ [] := fun hnil => by
      rw [hnil] at hc
      cases hc
    rw [List.getLast?_eq_some_getLast hne, Option.mem_some_iff] at hc
    exact List.rdropWhile_last_not _ s hne (hc ▸ List.contains_iff_mem.2 hmem)

/-- A text without punctuation at its end stays as it is. -/
theorem dropPunctuation_eq_self (h : ∀ c ∈ s.getLast?, c ∉ endPunctuation) :
    dropPunctuation s = s := by
  refine List.rdropWhile_eq_self_iff.2 fun hne hlast => ?_
  exact h _ (List.getLast?_eq_some_getLast hne) (List.contains_iff_mem.1 hlast)

/-- A row of items stays one without punctuation at its end. -/
theorem Items.of_append {tail : List Char} (h : Items (s ++ tail))
    (htail : ∀ c ∈ tail, c ∈ endPunctuation) : Items s := by
  induction tail using List.reverseRecOn with
  | nil => rwa [List.append_nil] at h
  | append_singleton tail c ih =>
    have hc : c ∈ endPunctuation := htail c (by simp)
    have hclose : c ≠ ')' := fun heq => absurd (heq ▸ hc) (by decide)
    rw [← List.append_assoc] at h
    exact ih (h.of_concat hclose) fun d hd => htail d (List.mem_append_left _ hd)

/-- A scheme does not end with punctuation. -/
theorem last_of_mem_schemes (h : scheme ∈ schemes) : ∀ c ∈ scheme.getLast?, c ∉ endPunctuation := by
  have hlast : scheme.getLast? = some '/' := by
    obtain rfl | rfl := mem_schemes_iff.1 h <;> rfl
  intro c hc
  obtain rfl := Option.some.inj (hlast.symm.trans hc)
  decide

/-- Punctuation is cut from the items of a link, and not from its scheme. -/
theorem IsStripped.exists_items (h : IsStripped link t) (hlink : IsLink link) :
    ∃ scheme ∈ schemes, ∃ items, Items items ∧ t = scheme ++ items := by
  obtain @⟨scheme, items, hscheme, hitems, -⟩ := hlink
  obtain ⟨tail, hsplit, htail⟩ := h.tail
  obtain ⟨kept, rfl, rfl⟩ | ⟨cut, rfl, rfl⟩ := List.append_eq_append_iff.1 hsplit
  · exact ⟨scheme, hscheme, kept, hitems.of_append htail, rfl⟩
  · -- Were some of the scheme cut, it would end with punctuation.
    obtain rfl | ⟨cut, c, rfl⟩ := List.eq_nil_or_concat' cut
    · exact ⟨t ++ [], hscheme, [], .nil, by simp⟩
    · exact absurd (htail c (by simp)) (last_of_mem_schemes hscheme c (by simp))

/-! ## Parentheses -/

/-- Whether a character is a parenthesis. -/
def isParenthesis (c : Char) : Bool := c = '(' || c = ')'

/-- The parentheses of a text come in pairs, none of which stands in another. -/
def IsPaired (s : List Char) : Prop :=
  ∃ n, s.filter isParenthesis = (List.replicate n ['(', ')']).flatten

/-- Plain characters are no parentheses. -/
theorem isParenthesis_of_isPlain {c : Char} (h : isPlain c = true) : isParenthesis c = false := by
  have hopen : c ≠ '(' := fun heq => by simp [heq, isPlain_parentheses.1] at h
  have hclose : c ≠ ')' := fun heq => by simp [heq, isPlain_parentheses.2] at h
  simp [isParenthesis, hopen, hclose]

/-- The parentheses of a row of items come in pairs. -/
theorem Items.isPaired (h : Items s) : IsPaired s := by
  induction h with
  | nil => exact ⟨0, rfl⟩
  | plain hc _ ih =>
    obtain ⟨n, hn⟩ := ih
    exact ⟨n, by rw [List.filter_cons_of_neg (by simp [isParenthesis_of_isPlain hc]), hn]⟩
  | @group inner s hinner _ ih =>
    obtain ⟨n, hn⟩ := ih
    have hnone : inner.filter isParenthesis = [] :=
      List.filter_eq_nil_iff.2 fun c hc => by simp [isParenthesis_of_isPlain (hinner c hc)]
    refine ⟨n + 1, ?_⟩
    rw [List.filter_cons_of_pos rfl, List.filter_append, hnone, List.filter_cons_of_pos rfl, hn]
    rfl

/-- The parentheses of a scheme with a row of items come in pairs. -/
theorem isPaired_append (hscheme : scheme ∈ schemes) (hitems : Items items) :
    IsPaired (scheme ++ items) := by
  obtain ⟨n, hn⟩ := hitems.isPaired
  have hnone : scheme.filter isParenthesis = [] := by
    obtain rfl | rfl := mem_schemes_iff.1 hscheme <;> decide
  exact ⟨n, by rw [List.filter_append, hnone, hn, List.nil_append]⟩

/-! ## What is extracted -/

/-- A link is taken from a text: it is one of the leftmost and longest ones. -/
def IsTaken (text : List Char) (i : Nat) (link : List Char) : Prop :=
  ∃ ms, Leftmost text 0 ms ∧ (i, link) ∈ ms

/-- What is extracted is a link that is taken, without the punctuation at its end. -/
theorem exists_isTaken_of_mem_extract {text u : String} (h : u ∈ extract text) :
    ∃ i link, IsTaken text.toList i link ∧ IsStripped link u.toList := by
  obtain ⟨ms, hms, hmatches⟩ := exists_leftmost text.toList 0
  rw [extract, List.mem_eraseDups, List.mem_map] at h
  obtain ⟨link, hlink, rfl⟩ := h
  rw [List.drop_zero] at hmatches
  rw [hmatches] at hlink
  obtain ⟨⟨i, link⟩, hm, rfl⟩ := List.mem_map.1 hlink
  refine ⟨i, link, ⟨ms, hms, hm⟩, ?_⟩
  rw [String.toList_ofList]
  exact isStripped_dropPunctuation link

/-- A link without punctuation at its end is extracted from itself. -/
theorem extract_of_isLink {u : String} (h : IsLink u.toList)
    (hlast : ∀ c ∈ u.toList.getLast?, c ∉ endPunctuation) : extract u = [u] := by
  have hread : linkPrefix? u.toList = some u.toList := by
    have happend := linkPrefix?_append h []
    rwa [itemsPrefix, List.append_nil] at happend
  have hmatches : matchesFrom 0 u.toList = [u.toList] := by
    rw [matchesFrom_of_link hread, List.drop_length, matchesFrom]
  rw [extract, hmatches, List.map_singleton, dropPunctuation_eq_self hlast, String.ofList_toList]
  exact eraseDups_eq_self (List.pairwise_singleton _ u)

/-- Nothing is extracted from a scheme alone. -/
theorem extract_of_mem_schemes {u : String} (h : u.toList ∈ schemes) : extract u = [] := by
  have hnone : matchesFrom 0 u.toList = [] := by
    obtain heq | heq := mem_schemes_iff.1 h <;> rw [heq] <;> decide +kernel
  rw [extract, hnone]
  rfl

/-- The links of a text are its leftmost and longest ones that do not overlap, which are determined
by the text. Without the punctuation at their ends, and without repetitions, they are extracted in
the order in which they first occur. Their parentheses come in pairs, and no link of the text begins
outside of those that are taken. -/
theorem extract_leftmost (text : String) :
    ∃ ms, (∀ ms', Leftmost text.toList 0 ms' ↔ ms' = ms) ∧
      (∃ urls : List String, List.Forall₂ (fun m u => IsStripped m.2 u.toList) ms urls ∧
        FirstOccurrences (extract text) urls) ∧
      (∀ u ∈ extract text, IsPaired u.toList) ∧
      ∀ i link, StandsAt text.toList i link → ∃ m ∈ ms, m.1 ≤ i ∧ i < m.1 + m.2.length := by
  obtain ⟨ms, hms, hmatches⟩ := exists_leftmost text.toList 0
  refine ⟨ms, fun ms' => ⟨fun h => h.eq hms, fun heq => heq ▸ hms⟩, ?_, fun u hu => ?_,
    fun i link hstands => hms.covers (Nat.zero_le i) hstands⟩
  · refine ⟨ms.map fun m => String.ofList (dropPunctuation m.2), ?_, ?_⟩
    · rw [List.forall₂_map_right_iff, List.forall₂_same]
      intro m _
      rw [String.toList_ofList]
      exact isStripped_dropPunctuation m.2
    · rw [List.drop_zero] at hmatches
      rw [extract, hmatches, List.map_map]
      exact firstOccurrences_eraseDups _
  · obtain ⟨i, link, ⟨ms', hms', hm⟩, hstripped⟩ := exists_isTaken_of_mem_extract hu
    obtain ⟨scheme, hscheme, items, hitems, heq⟩ :=
      hstripped.exists_items (hms'.isLongestAt hm).stands.1
    rw [heq]
    exact isPaired_append hscheme hitems

/-- What is extracted from a text does not end with punctuation. It is a link, and then it is
extracted from itself, or it is the scheme of a link that was taken with nothing but punctuation
behind its scheme, and then nothing is extracted from it. -/
theorem extract_of_mem_extract {text u : String} (h : u ∈ extract text) :
    (∀ c ∈ u.toList.getLast?, c ∉ endPunctuation) ∧
      (extract u = [u] ∧ IsLink u.toList ∨
        extract u = [] ∧ u.toList ∈ schemes ∧ ∃ i tail, IsTaken text.toList i (u.toList ++ tail) ∧
          ∀ c ∈ tail, c ∈ endPunctuation) := by
  obtain ⟨i, link, htaken, hstripped⟩ := exists_isTaken_of_mem_extract h
  have hlink : IsLink link := by
    obtain ⟨ms, hms, hm⟩ := htaken
    exact (hms.isLongestAt hm).stands.1
  obtain ⟨scheme, hscheme, items, hitems, hu⟩ := hstripped.exists_items hlink
  refine ⟨hstripped.last, ?_⟩
  -- The punctuation was all that followed the scheme, or an item is left.
  by_cases hne : items = []
  · rw [hne, List.append_nil] at hu
    have hmem : u.toList ∈ schemes := hu ▸ hscheme
    obtain ⟨tail, rfl, htail⟩ := hstripped.tail
    exact .inr ⟨extract_of_mem_schemes hmem, hmem, i, tail, htaken, htail⟩
  · have hlink : IsLink u.toList := hu ▸ .mk hscheme hitems hne
    exact .inl ⟨extract_of_isLink hlink hstripped.last, hlink⟩

/-- A link in a sentence is extracted from itself. -/
theorem extract_of_mem_extract_sentence :
    "http://a_(b)" ∈ extract "See http://a_(b)., not http://..." ∧
      (∀ c ∈ "http://a_(b)".toList.getLast?, c ∉ endPunctuation) ∧
      (extract "http://a_(b)" = ["http://a_(b)"] ∧ IsLink "http://a_(b)".toList ∨
        extract "http://a_(b)" = [] ∧ "http://a_(b)".toList ∈ schemes ∧
          ∃ i tail, IsTaken "See http://a_(b)., not http://...".toList i
              ("http://a_(b)".toList ++ tail) ∧ ∀ c ∈ tail, c ∈ endPunctuation) := by
  have hextract : extract "See http://a_(b)., not http://..." = ["http://a_(b)", "http://"] := by
    decide +kernel
  have hmem : "http://a_(b)" ∈ extract "See http://a_(b)., not http://..." := by
    rw [hextract]
    exact List.mem_cons_self
  exact ⟨hmem, extract_of_mem_extract hmem⟩

/-- Not all that is extracted from a text is extracted from itself. -/
theorem not_extract_eq_singleton :
    ¬ ∀ text u : String, u ∈ extract text → extract u = [u] := by
  intro hall
  have hextract : extract "http://." = ["http://"] := by decide +kernel
  have hscheme : extract "http://" = [] := extract_of_mem_schemes List.mem_cons_self
  have hself := hall "http://." "http://" (hextract ▸ List.mem_cons_self)
  rw [hscheme] at hself
  cases hself

end CheckDoc.Link
