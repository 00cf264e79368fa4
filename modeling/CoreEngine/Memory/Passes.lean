import Mathlib.Data.List.Dedup
import Mathlib.Data.List.Basic
import Mathlib.Data.Nat.Notation

/-!
# Passes over rows

A cursor goes over the same rows several times, and each pass may stop early. What it returns in all is without
repetition exactly if no two passes share a row.
-/

namespace CoreEngine.Memory

variable {α : Type} {rows : List α} {passes : List ℕ}

/-- What the passes return, one after the other; each is given by its number of rows. -/
def passesOver (rows : List α) (passes : List ℕ) : List α := passes.flatMap rows.take

theorem passesOver_concat (passes : List ℕ) (n : ℕ) :
    passesOver rows (passes ++ [n]) = passesOver rows passes ++ rows.take n := by
  simp [passesOver]

/-- A pass goes on to the next row. -/
theorem passesOver_next {n : ℕ} {row : α} (hrow : rows[n]? = some row) :
    passesOver rows (passes ++ [n + 1]) = passesOver rows (passes ++ [n]) ++ [row] := by
  rw [passesOver_concat, passesOver_concat, List.take_add_one, hrow, List.append_assoc]
  rfl

/-- A pass begins with the first row. -/
theorem passesOver_first {row : α} (hrow : rows[0]? = some row) :
    passesOver rows (passes ++ [1]) = passesOver rows passes ++ [row] := by
  rw [passesOver_next hrow, passesOver_concat, List.take_zero, List.append_nil]

/-- The rows that two passes share are those of the shorter one. -/
theorem mem_take_min {m n : ℕ} {row : α} : row ∈ rows.take (min m n) ↔ row ∈ rows.take m ∧ row ∈ rows.take n := by
  constructor
  · intro hrow
    exact ⟨List.take_subset_take_left rows (Nat.min_le_left m n) hrow,
      List.take_subset_take_left rows (Nat.min_le_right m n) hrow⟩
  · rintro ⟨hm, hn⟩
    rcases Nat.le_total m n with hle | hle
    · rwa [Nat.min_eq_left hle]
    · rwa [Nat.min_eq_right hle]

/-- The rows of interest come without repetition exactly if no two passes share one. -/
theorem nodup_filter_passesOver_iff (hrows : rows.Nodup) (p : α → Bool) :
    ((passesOver rows passes).filter p).Nodup ↔
      passes.Pairwise fun m n ↦ ∀ row ∈ rows.take (min m n), p row = false := by
  have hpass (n : ℕ) : ((rows.take n).filter p).Nodup := (hrows.sublist (List.take_sublist n rows)).filter p
  rw [passesOver, List.filter_flatMap, List.nodup_flatMap]
  have hshared (m n : ℕ) : Function.onFun List.Disjoint (fun n ↦ (rows.take n).filter p) m n ↔
      ∀ row ∈ rows.take (min m n), p row = false := by
    constructor
    · intro hdisjoint row hrow
      obtain ⟨hm, hn⟩ := mem_take_min.1 hrow
      by_contra hp
      have htrue : p row = true := eq_true_of_ne_false hp
      exact hdisjoint (List.mem_filter.2 ⟨hm, htrue⟩) (List.mem_filter.2 ⟨hn, htrue⟩)
    · intro hnone row hm hn
      obtain ⟨hm, htrue⟩ := List.mem_filter.1 hm
      have hfalse := hnone row (mem_take_min.2 ⟨hm, (List.mem_filter.1 hn).1⟩)
      exact Bool.false_ne_true (hfalse.symm.trans htrue)
  exact (and_iff_right fun n _ ↦ hpass n).trans (List.Pairwise.iff hshared)

/-- Without repetition a list is its own reduction, and only then. -/
theorem perm_map_dedup_iff {β : Type} [DecidableEq α] (f : α → β) (list : List α) :
    (list.map f).Perm (list.dedup.map f) ↔ list.Nodup := by
  constructor
  · intro hperm
    have hlength : list.dedup.length = list.length := by simpa using hperm.length_eq.symm
    rw [← (List.dedup_sublist list).eq_of_length hlength]
    exact List.nodup_dedup list
  · intro hnodup
    rw [hnodup.dedup]

end CoreEngine.Memory
