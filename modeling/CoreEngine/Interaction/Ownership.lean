import Mathlib.Data.List.Nodup
import Mathlib.Data.Set.Insert
import Mathlib.Logic.Function.Basic

/-!
# Exclusive ownership

Resources are handed out by a pool that marks what it has handed out. If every holder takes only
what is not marked and gives back only what it holds, then no resource has two holders.
-/

namespace CoreEngine.Interaction

variable {ι R : Type} {held : ι → List R} {marked : Set R}

/-- What is held is marked, and held by one holder only, once. -/
structure Exclusive (held : ι → List R) (marked : Set R) : Prop where
  marked_of_held : ∀ i, ∀ r ∈ held i, r ∈ marked
  holder_unique : ∀ i j r, r ∈ held i → r ∈ held j → i = j
  nodup : ∀ i, (held i).Nodup

theorem exclusive_nil (marked : Set R) : Exclusive (fun _ : ι ↦ []) marked where
  marked_of_held := nofun
  holder_unique := nofun
  nodup _ := List.nodup_nil

variable [DecidableEq ι]

theorem Exclusive.take (hexclusive : Exclusive held marked) (i : ι) {r : R} (hfree : r ∉ marked) :
    Exclusive (Function.update held i (r :: held i)) (insert r marked) := by
  have hnobody (j : ι) : r ∉ held j := fun hr ↦ hfree (hexclusive.marked_of_held j r hr)
  have hmem (j : ι) (s : R) (hs : s ∈ Function.update held i (r :: held i) j) :
      (j = i ∧ s = r) ∨ s ∈ held j := by
    by_cases hj : j = i
    · subst hj
      rw [Function.update_self] at hs
      rcases List.mem_cons.1 hs with hr | hheld
      · exact Or.inl ⟨rfl, hr⟩
      · exact Or.inr hheld
    · rw [Function.update_of_ne hj] at hs
      exact Or.inr hs
  refine ⟨fun j s hs ↦ ?_, fun j k s hj hk ↦ ?_, fun j ↦ ?_⟩
  · rcases hmem j s hs with ⟨-, rfl⟩ | hheld
    · exact Set.mem_insert s marked
    · exact Set.mem_insert_of_mem r (hexclusive.marked_of_held j s hheld)
  · rcases hmem j s hj with ⟨rfl, rfl⟩ | hheld
    · rcases hmem k s hk with ⟨rfl, -⟩ | hheld
      · rfl
      · exact absurd hheld (hnobody k)
    · rcases hmem k s hk with ⟨rfl, rfl⟩ | hheld'
      · exact absurd hheld (hnobody j)
      · exact hexclusive.holder_unique j k s hheld hheld'
  · by_cases hj : j = i
    · subst hj
      rw [Function.update_self]
      exact List.nodup_cons.2 ⟨hnobody j, hexclusive.nodup j⟩
    · rw [Function.update_of_ne hj]
      exact hexclusive.nodup j

theorem Exclusive.give [DecidableEq R] (hexclusive : Exclusive held marked) {i : ι} {r : R}
    (hheld : r ∈ held i) :
    Exclusive (Function.update held i ((held i).erase r)) (marked \ {r}) := by
  have hmem (j : ι) (s : R) (hs : s ∈ Function.update held i ((held i).erase r) j) :
      s ∈ held j ∧ s ≠ r := by
    by_cases hj : j = i
    · subst hj
      rw [Function.update_self] at hs
      have herase := (hexclusive.nodup j).mem_erase_iff.1 hs
      exact ⟨herase.2, herase.1⟩
    · rw [Function.update_of_ne hj] at hs
      refine ⟨hs, ?_⟩
      rintro rfl
      exact hj (hexclusive.holder_unique j i s hs hheld)
  refine ⟨fun j s hs ↦ ?_, fun j k s hj hk ↦ ?_, fun j ↦ ?_⟩
  · exact ⟨hexclusive.marked_of_held j s (hmem j s hs).1, (hmem j s hs).2⟩
  · exact hexclusive.holder_unique j k s (hmem j s hj).1 (hmem k s hk).1
  · by_cases hj : j = i
    · subst hj
      rw [Function.update_self]
      exact (hexclusive.nodup j).erase r
    · rw [Function.update_of_ne hj]
      exact hexclusive.nodup j

end CoreEngine.Interaction
