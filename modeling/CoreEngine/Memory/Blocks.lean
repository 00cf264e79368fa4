import Mathlib.Data.List.AList
import Mathlib.Algebra.BigOperators.Group.Finset.Piecewise
import Mathlib.Algebra.Order.BigOperators.Group.List
import Mathlib.Algebra.Order.Group.Multiset
import Mathlib.Algebra.Order.Ring.Nat

/-!
# Blocks of memory

A heap has a content for each address that is in use, and an allocator takes one that is not. Every block is
accounted for once: it is owned, or lost, when nobody can reach it any more.
-/

namespace CoreEngine.Memory

/-- The allocated blocks, each with its content. -/
abbrev Heap (α : Type) := AList fun _ : ℕ ↦ α

structure Allocator (α : Type) where
  pick : Heap α → ℕ
  fresh (heap : Heap α) : pick heap ∉ heap

/-- An allocator that never goes below a block. -/
def Allocator.above {α : Type} : Allocator α where
  pick heap := heap.keys.sum + 1
  fresh heap hmem := by
    have hle : heap.keys.sum + 1 ≤ heap.keys.sum := List.le_sum_of_mem hmem
    omega

namespace Heap

variable {α : Type}

/-- Only an allocated block can be freed. -/
def free (heap : Heap α) (address : ℕ) : Option (Heap α) :=
  if address ∈ heap then some (heap.erase address) else none

/-- Every block is owned or lost, and none of them twice. -/
def Accounts (heap : Heap α) (owned lost : Multiset ℕ) : Prop := (heap.keys : Multiset ℕ) = owned + lost

variable {heap : Heap α} {owned owned' lost : Multiset ℕ} {address : ℕ}

theorem Accounts.mem (haccounts : Accounts heap owned lost) (howned : address ∈ owned) : address ∈ heap := by
  have hmem : address ∈ (heap.keys : Multiset ℕ) := haccounts ▸ Multiset.mem_add.2 (.inl howned)
  exact Multiset.mem_coe.1 hmem

theorem Accounts.nodup (haccounts : Accounts heap owned lost) : (owned + lost).Nodup :=
  haccounts ▸ Multiset.coe_nodup.2 heap.keys_nodup

/-- The last pointer to a block is overwritten. -/
theorem Accounts.lose (haccounts : Accounts heap (owned' + owned) lost) : Accounts heap owned (owned' + lost) := by
  unfold Accounts at haccounts ⊢
  rw [haccounts, add_comm owned', add_assoc]

theorem Accounts.alloc (haccounts : Accounts heap owned lost) (hfresh : address ∉ heap) (content : α) :
    Accounts (heap.insert address content) (address ::ₘ owned) lost := by
  unfold Accounts at haccounts ⊢
  rw [AList.keys_insert, List.erase_of_not_mem hfresh, ← Multiset.cons_coe, haccounts, Multiset.cons_add]

theorem Accounts.write (haccounts : Accounts heap owned lost) (howned : address ∈ owned) (content : α) :
    Accounts (heap.insert address content) owned lost := by
  unfold Accounts at haccounts ⊢
  rw [← haccounts, AList.keys_insert, Multiset.coe_eq_coe]
  exact (List.perm_cons_erase (Accounts.mem haccounts howned)).symm

theorem Accounts.free (haccounts : Accounts heap (address ::ₘ owned) lost) :
    heap.free address = some (heap.erase address) ∧ Accounts (heap.erase address) owned lost := by
  refine ⟨if_pos (haccounts.mem (Multiset.mem_cons_self address owned)), ?_⟩
  unfold Accounts at haccounts ⊢
  rw [AList.keys_erase, ← Multiset.coe_erase, haccounts, Multiset.cons_add, Multiset.erase_cons_head]

end Heap

/-- The contents of a new block leave the others alone. -/
theorem Heap.lookup_insert_of_mem {α : Type} {heap : Heap α} {address fresh : ℕ} (hmem : address ∈ heap)
    (hfresh : fresh ∉ heap) (content : α) : (heap.insert fresh content).lookup address = heap.lookup address :=
  AList.lookup_insert_ne fun heq ↦ hfresh (heq ▸ hmem)

/-- One summand is replaced. -/
theorem exists_sum_update {ι β M : Type} [Fintype ι] [DecidableEq ι] [AddCommMonoid M] (g : β → M)
    (f : ι → β) (i : ι) (value : β) :
    ∃ rest, ∑ j, g (f j) = g (f i) + rest ∧ ∑ j, g (Function.update f i value j) = g value + rest := by
  have hupdate : ∑ j, g (Function.update f i value j) = ∑ j, Function.update (g ∘ f) i (g value) j := by
    rw [← Function.comp_update]
    rfl
  refine ⟨∑ j ∈ Finset.univ.erase i, g (f j), (Finset.add_sum_erase _ (g ∘ f) (Finset.mem_univ i)).symm, ?_⟩
  rw [hupdate, Finset.sum_update_of_mem (Finset.mem_univ i), Finset.sdiff_singleton_eq_erase]
  rfl

end CoreEngine.Memory
