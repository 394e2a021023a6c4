import CheckDoc.Text.NameSet
import Mathlib.Data.List.Basic
import Mathlib.Data.List.Induction
import Mathlib.Logic.Function.Defs

/-!
# Sets of names in their order

The names of a set are in the strict order of their code points (`pairwise_nameSet`), and so are
names with the same text in front of each (`nameBefore_append`). Texts whose repetitions are dropped
stay in the order in which they first occur (`firstOccurrences_eraseDups`).
-/

namespace CheckDoc

/-- Characters stand for different code points. -/
theorem Text.codeOf_injective : Function.Injective Text.codeOf := by
  intro c d h
  -- No character is itself half of a pair.
  have hchar : ∀ c : Char, c.toNat < 0xD800 ∨ 0xDFFF < c.toNat ∧ c.toNat < 0x110000 :=
    fun c => c.valid
  have hc := hchar c
  have hd := hchar d
  have hnat : c.toNat = d.toNat := by
    unfold codeOf isHalf standInShift at h
    simp only [Bool.and_eq_true, decide_eq_true_eq] at h
    split_ifs at h <;> omega
  exact Char.toNat_inj.1 hnat

/-! ## Names without repetitions -/

/-- What is left of names after their repetitions are dropped differs. -/
theorem nodup_eraseDups (xs : List String) : xs.eraseDups.Nodup := by
  match xs with
  | [] => exact List.nodup_nil
  | x :: xs =>
    rw [List.eraseDups_cons, List.nodup_cons]
    refine ⟨fun hmem => ?_, nodup_eraseDups _⟩
    simpa using (List.mem_filter.1 (List.mem_eraseDups.1 hmem)).2
termination_by xs.length
decreasing_by exact Nat.lt_succ_of_le (List.length_filter_le _ _)

/-- Names that differ have no repetitions to drop. -/
theorem eraseDups_eq_self {xs : List String} (h : xs.Nodup) : xs.eraseDups = xs := by
  induction xs with
  | nil => rfl
  | cons x xs ih =>
    obtain ⟨hx, hxs⟩ := List.nodup_cons.1 h
    have hfilter : (xs.filter fun y => !y == x) = xs := List.filter_eq_self.2 fun y hy => by
      have hne : y ≠ x := fun heq => hx (heq ▸ hy)
      simp [hne]
    rw [List.eraseDups_cons, hfilter, ih hxs]

/-- The members of `ys` once each, in the order in which they first occur there. -/
structure FirstOccurrences (xs ys : List String) : Prop where
  /-- None is repeated. -/
  nodup : xs.Nodup
  /-- They are the members of `ys`. -/
  mem_iff : ∀ x, x ∈ xs ↔ x ∈ ys
  /-- What first occurs earlier comes earlier. -/
  ordered : xs.Pairwise fun x y => ys.idxOf x < ys.idxOf y

/-- One more text is kept at the end where it has not occurred. -/
theorem eraseDups_concat (xs : List String) (x : String) :
    (xs ++ [x]).eraseDups = xs.eraseDups ++ if x ∈ xs then [] else [x] := by
  rw [List.eraseDups_append, List.removeAll]
  split_ifs with hx
  · simp [hx]
  · simp [hx, eraseDups_eq_self (List.pairwise_singleton _ x)]

/-- Without its repetitions a list keeps the order in which its members first occur. -/
theorem firstOccurrences_eraseDups (ys : List String) : FirstOccurrences ys.eraseDups ys where
  nodup := nodup_eraseDups ys
  mem_iff _ := List.mem_eraseDups
  ordered := by
    induction ys using List.reverseRecOn with
    | nil => exact List.Pairwise.nil
    | append_singleton ys y ih =>
      -- The places of the earlier members stay, and a new member is behind all of them.
      have hplace : ∀ x ∈ ys.eraseDups, (ys ++ [y]).idxOf x = ys.idxOf x := fun x hx =>
        List.idxOf_append_of_mem (List.mem_eraseDups.1 hx)
      have hearlier : ys.eraseDups.Pairwise fun x z =>
          (ys ++ [y]).idxOf x < (ys ++ [y]).idxOf z :=
        ih.imp_of_mem fun hx hz hlt => by rwa [hplace _ hx, hplace _ hz]
      rw [eraseDups_concat]
      split_ifs with hy
      · rwa [List.append_nil]
      · refine List.pairwise_append.2 ⟨hearlier, List.pairwise_singleton _ _, ?_⟩
        intro x hx z hz
        obtain rfl := List.mem_singleton.1 hz
        rw [hplace x hx, List.idxOf_append_of_notMem hy]
        exact Nat.lt_add_right _ (List.idxOf_lt_length_of_mem (List.mem_eraseDups.1 hx))

/-- The names of a set differ. -/
theorem nodup_nameSet (names : List String) : (nameSet names).Nodup :=
  (List.mergeSort_perm _ _).nodup_iff.2 (nodup_eraseDups names)

/-! ## The order of names -/

variable {a b c : String}

/-- A name that is before another one differs from it. -/
theorem ne_of_nameBefore (h : nameBefore a b = true) : a ≠ b := by
  rintro rfl
  exact List.lt_irrefl _ (of_decide_eq_true h)

/-- A name before a second one is also before every name that the second one is before. -/
theorem nameBefore_trans (hab : nameBefore a b = true) (hbc : nameBefore b c = true) :
    nameBefore a c = true :=
  decide_eq_true (List.lt_trans (of_decide_eq_true hab) (of_decide_eq_true hbc))

/-- Of two names that differ one is before the other. -/
theorem nameBefore_of_not (h : (!nameBefore b a) = true) (hne : a ≠ b) :
    nameBefore a b = true := by
  rw [Bool.not_eq_true', nameBefore, decide_eq_false_iff_not] at h
  refine decide_eq_true (Decidable.not_not.1 fun hnot => hne ?_)
  have hcodes := List.le_antisymm (List.not_lt.1 h) (List.not_lt.1 hnot)
  exact String.toList_inj.1 (List.map_injective_iff.2 Text.codeOf_injective hcodes)

/-- Names with the same text in front of each are in the order of the names. -/
theorem nameBefore_append (front : String) (h : nameBefore a b = true) :
    nameBefore (front ++ a) (front ++ b) = true := by
  rw [nameBefore, String.toList_append, String.toList_append, List.map_append, List.map_append]
  exact decide_eq_true (List.append_left_lt (of_decide_eq_true h))

/-- The names of a set are in strict order. -/
theorem pairwise_nameSet (names : List String) :
    (nameSet names).Pairwise fun a b => nameBefore a b = true := by
  have hle : (nameSet names).Pairwise fun a b => (!nameBefore b a) = true := by
    refine List.pairwise_mergeSort (fun a b c hab hbc => ?_) (fun a b => ?_) _
    · rw [Bool.not_eq_true', nameBefore, decide_eq_false_iff_not] at hab hbc ⊢
      exact List.not_lt.2 (List.le_trans (List.not_lt.1 hab) (List.not_lt.1 hbc))
    · rw [Bool.or_eq_true, Bool.not_eq_true', Bool.not_eq_true', nameBefore, nameBefore,
        decide_eq_false_iff_not, decide_eq_false_iff_not]
      exact (List.le_total _ _).imp List.not_lt.2 List.not_lt.2
  exact hle.imp₂ (fun a b => nameBefore_of_not) (nodup_nameSet names)

end CheckDoc
