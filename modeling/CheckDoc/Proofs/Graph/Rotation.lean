import CheckDoc.Graph.Cycles
import CheckDoc.Proofs.Text.NameSet
import Mathlib.Data.List.Rotate

/-!
# The rotation that stands for a cycle

A cycle can be written from each of its nodes on. `Digraph.rotated` writes it from its smallest node
on (`head?_rotated`), which is the same list for all ways to write one cycle and another one for
every other cycle (`rotated_eq_rotated_iff`).
-/

namespace CheckDoc.Digraph

variable {a b n : String} {c d names : List String}

/-! ## The smallest name -/

/-- Whether a name is the smallest of some names in the order of code points. -/
structure IsSmallest (n : String) (names : List String) : Prop where
  /-- It is one of them. -/
  mem : n ∈ names
  /-- It is before all the others. -/
  before : ∀ m ∈ names, m ≠ n → nameBefore n m = true

/-- Only one name is the smallest. -/
theorem IsSmallest.eq (ha : IsSmallest a names) (hb : IsSmallest b names) : a = b := by
  by_contra hne
  have hab := ha.before b hb.mem (Ne.symm hne)
  have hba := hb.before a ha.mem hne
  exact ne_of_nameBefore (nameBefore_trans hab hba) rfl

/-- The smallest name does not depend on the order of the names. -/
theorem IsSmallest.of_perm (h : IsSmallest n c) (hperm : c.Perm d) : IsSmallest n d :=
  ⟨hperm.subset h.mem, fun m hm => h.before m (hperm.symm.subset hm)⟩

/-- The smaller of two names. -/
theorem isSmallest_smaller (a b : String) : IsSmallest (smaller a b) [a, b] := by
  unfold smaller
  split_ifs with hba
  · refine ⟨by simp, fun m hm hne => ?_⟩
    obtain rfl : m = a := by simpa [hne] using hm
    exact hba
  · refine ⟨by simp, fun m hm hne => ?_⟩
    obtain rfl : m = b := by simpa [hne] using hm
    exact nameBefore_of_not (by simpa using hba) (Ne.symm hne)

/-- The smallest of some names and of the smaller one of two others is that of all of them. -/
theorem IsSmallest.of_smaller (h : IsSmallest n (smaller a b :: names)) :
    IsSmallest n (a :: b :: names) := by
  have hpair := isSmallest_smaller a b
  refine ⟨?_, fun m hm hne => ?_⟩
  · rcases List.mem_cons.1 h.mem with rfl | hn
    · exact List.mem_append_left names hpair.mem
    · exact List.mem_append_right [a, b] hn
  · rcases List.mem_append.1 (show m ∈ [a, b] ++ names from hm) with hm | hm
    · -- The smaller one of the two stands between the smallest one and the other.
      by_cases hms : m = smaller a b
      · exact h.before m (List.mem_cons.2 (.inl hms)) hne
      · have hsm := hpair.before m hm hms
        by_cases hsn : smaller a b = n
        · exact hsn ▸ hsm
        · exact nameBefore_trans (h.before _ List.mem_cons_self hsn) hsm
    · exact h.before m (List.mem_cons_of_mem _ hm) hne

/-- The smallest name so far, taken through a list. -/
theorem isSmallest_foldl (n : String) (ns : List String) :
    IsSmallest (ns.foldl smaller n) (n :: ns) := by
  induction ns generalizing n with
  | nil => exact ⟨List.mem_singleton_self n, fun m hm hne => absurd (List.mem_singleton.1 hm) hne⟩
  | cons m ns ih => exact (ih (smaller n m)).of_smaller

/-- The smallest one of a list that is not empty. -/
theorem isSmallest_smallest (h : names ≠ []) : IsSmallest (smallest names) names := by
  obtain ⟨n, ns, rfl⟩ := List.exists_cons_of_ne_nil h
  exact isSmallest_foldl n ns

/-! ## Rotations -/

/-- Rotations of one another that begin with the same node are equal where no node is repeated. -/
theorem eq_of_isRotated (hnodup : c.Nodup) (hrot : c.IsRotated d) (hhead : c.head? = d.head?) :
    c = d := by
  obtain ⟨k, rfl⟩ := hrot
  rcases eq_or_ne c [] with rfl | hne
  · exact (List.rotate_nil k).symm
  -- The node at the place of the cut is the first one, so the cut is in front of it.
  have hpos : 0 < c.length := List.length_pos_of_ne_nil hne
  have hlt : k % c.length < c.length := Nat.mod_lt _ hpos
  rw [← List.rotate_mod, List.head?_rotate hlt, List.head?_eq_getElem?,
    List.getElem?_eq_getElem hpos, List.getElem?_eq_getElem hlt, Option.some_inj,
    hnodup.getElem_inj_iff] at hhead
  rw [← List.rotate_mod, ← hhead, List.rotate_zero]

/-- The rotation that stands for a cycle is one. -/
theorem isRotated_rotated (c : List String) : c.IsRotated (rotated c) := by
  let k := c.idxOf (smallest c)
  have hcut : (c.take k ++ c.drop k).IsRotated (c.drop k ++ c.take k) := List.isRotated_append
  rwa [List.take_append_drop] at hcut

/-- The rotation that stands for a cycle begins with the smallest node. -/
theorem head?_rotated (hne : c ≠ []) : (rotated c).head? = some (smallest c) := by
  have hlt := List.idxOf_lt_length_of_mem (isSmallest_smallest hne).mem
  unfold rotated
  dsimp only
  rw [List.drop_eq_getElem_cons hlt, List.getElem_idxOf, List.cons_append, List.head?_cons]

/-- Lists for which the same rotation stands are rotations of one another. -/
theorem isRotated_of_rotated_eq (h : rotated c = rotated d) : c.IsRotated d :=
  (h ▸ isRotated_rotated c).trans (isRotated_rotated d).symm

/-- The same rotation stands for a list without repetition and for its rotations. -/
theorem rotated_eq_of_isRotated (hnodup : c.Nodup) (hrot : c.IsRotated d) :
    rotated c = rotated d := by
  rcases eq_or_ne c [] with rfl | hne
  · rw [List.isRotated_nil_iff'.1 hrot]
  have hned : d ≠ [] := fun hnil => hne (List.isRotated_nil_iff.1 (hnil ▸ hrot))
  have hc := isRotated_rotated c
  have hd := isRotated_rotated d
  -- Both have the same nodes, hence the same smallest one to begin with.
  have hsmallest : smallest c = smallest d :=
    ((isSmallest_smallest hne).of_perm hrot.perm).eq (isSmallest_smallest hned)
  refine eq_of_isRotated (hc.nodup_iff.1 hnodup) (hc.symm.trans (hrot.trans hd)) ?_
  rw [head?_rotated hne, head?_rotated hned, hsmallest]

/-- Where no node is repeated, the same rotation stands for two lists exactly when they are
rotations of one another. -/
theorem rotated_eq_rotated_iff (hnodup : c.Nodup) : rotated c = rotated d ↔ c.IsRotated d :=
  ⟨isRotated_of_rotated_eq, rotated_eq_of_isRotated hnodup⟩

-- Where the smallest name is repeated, the rotation may begin with either place.
example : rotated ["a", "b", "a", "c"] ≠ rotated ["a", "c", "a", "b"] := by decide +kernel

/-- The rotation that stands for a list of names without repetition is a canonical form. It is that
of another list exactly when one list is a rotation of the other, and it is itself the rotation that
begins with the smallest name, in the order of code points. -/
theorem rotated_canonical (hne : c ≠ []) (hnodup : c.Nodup) :
    (rotated c = rotated d ↔ c.IsRotated d) ∧
    (rotated c).IsRotated c ∧ ∃ n, (rotated c).head? = some n ∧ IsSmallest n c := by
  refine ⟨rotated_eq_rotated_iff hnodup, (isRotated_rotated c).symm, smallest c, ?_, ?_⟩
  · exact head?_rotated hne
  · exact isSmallest_smallest hne

/-- The two cycles through three nodes, one of them written from two of its nodes on. -/
theorem rotated_canonical_three :
    rotated ["b", "c", "a"] = rotated ["c", "a", "b"] ∧
    rotated ["b", "c", "a"] ≠ rotated ["c", "b", "a"] ∧
    (rotated ["b", "c", "a"]).IsRotated ["b", "c", "a"] ∧
    (rotated ["b", "c", "a"]).head? = some "a" := by
  have hne : ["b", "c", "a"] ≠ [] := List.cons_ne_nil _ _
  have hnodup : ["b", "c", "a"].Nodup := by decide
  obtain ⟨hsame, hrotated, n, hhead, hn⟩ := rotated_canonical (d := ["c", "a", "b"]) hne hnodup
  obtain ⟨hother, -⟩ := rotated_canonical (d := ["c", "b", "a"]) hne hnodup
  have ha : IsSmallest "a" ["b", "c", "a"] := ⟨by decide, by decide +kernel⟩
  exact ⟨hsame.2 (by decide +kernel), mt hother.1 (by decide +kernel), hrotated,
    hn.eq ha ▸ hhead⟩

end CheckDoc.Digraph
