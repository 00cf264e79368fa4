import CoreEngine.Interaction.Interleaving
import Mathlib.Data.Finset.Card
import Mathlib.Data.Fintype.Card
import Mathlib.Data.Set.Insert

/-!
# Resources that are all in use

The counterpart of exclusive ownership: whatever a pool has marked is held by somebody. If no holder has
more than one resource of a kind, then it takes as many holders as there are resources to use the kind up.
The second part lets one task of many run on its own, which is how a configuration is built in which
everything is in use.
-/

namespace CoreEngine.Interaction

section Covered

variable {ι R : Type} {held : ι → List R} {marked : Set R}

/-- What is marked is held. -/
def Covered (held : ι → List R) (marked : Set R) : Prop := ∀ r ∈ marked, ∃ i, r ∈ held i

theorem covered_empty (held : ι → List R) : Covered held ∅ := fun _ hr ↦ absurd hr (Set.notMem_empty _)

theorem Covered.take [DecidableEq ι] (hcovered : Covered held marked) (i : ι) (r : R) :
    Covered (Function.update held i (r :: held i)) (insert r marked) := by
  intro s hs
  by_cases hr : s = r
  · refine ⟨i, ?_⟩
    rw [Function.update_self, hr]
    exact List.mem_cons_self
  · obtain ⟨j, hj⟩ := hcovered s (Set.mem_of_mem_insert_of_ne hs hr)
    refine ⟨j, ?_⟩
    by_cases hji : j = i
    · subst hji
      rw [Function.update_self]
      exact List.mem_cons_of_mem _ hj
    · rw [Function.update_of_ne hji]
      exact hj

/-- A resource that is given back may be one that somebody else holds as well. -/
theorem Covered.give [DecidableEq ι] [DecidableEq R] (hcovered : Covered held marked) (i : ι) (r : R) :
    Covered (Function.update held i ((held i).erase r)) (marked \ {r}) := by
  intro s hs
  obtain ⟨j, hj⟩ := hcovered s hs.1
  refine ⟨j, ?_⟩
  by_cases hji : j = i
  · subst hji
    rw [Function.update_self]
    exact (List.mem_erase_of_ne hs.2).2 hj
  · rw [Function.update_of_ne hji]
    exact hj

/-- With fewer holders than resources of a kind, of which no holder has two, one resource is free. -/
theorem Covered.exists_free [Fintype ι] {kind : Finset R} (hcovered : Covered held marked)
    (hone : ∀ i, ∀ r ∈ held i, ∀ s ∈ held i, r ∈ kind → s ∈ kind → r = s)
    (hcard : Fintype.card ι < kind.card) : ∃ r ∈ kind, r ∉ marked := by
  by_contra hnone
  have hmarked : ∀ r ∈ kind, r ∈ marked := by
    intro r hr
    by_contra hfree
    exact hnone ⟨r, hr, hfree⟩
  obtain ⟨r, hr⟩ : kind.Nonempty := Finset.card_pos.1 (by omega)
  have : Nonempty ι := ⟨(hcovered r (hmarked r hr)).choose⟩
  choose! holder hholder using hcovered
  have hinjective : Set.InjOn holder kind := by
    intro r hr s hs hsame
    apply hone (holder r) r (hholder r (hmarked r hr)) s _ hr hs
    rw [hsame]
    exact hholder s (hmarked s hs)
  have hle : kind.card ≤ (Finset.univ : Finset ι).card :=
    Finset.card_le_card_of_injOn holder (fun _ _ ↦ Finset.mem_coe.2 (Finset.mem_univ _)) hinjective
  rw [Finset.card_univ] at hle
  omega

end Covered

namespace Config

open Program (Offers)

variable {S : Signature} {ι σ G α : Type} {env : Environment S ι σ} {M : Monitor S G} {i : ι}

/-- While the others stand still, task `i` can go on until it is about to perform `op`, and the shared state
moves along with it. -/
inductive ComesTo (env : Environment S ι σ) (i : ι) (op : S.Op) : Program S α → σ → σ → Prop
  | here {program : Program S α} {next : S.Answer op → Program S α} {shared : σ}
      (hoffers : Offers program op next) : ComesTo env i op program shared shared
  | call {op' : S.Op} {next : S.Answer op' → Program S α} {shared mid final : σ} (answer : S.Answer op')
      (henv : env shared i op' answer mid) (hrest : ComesTo env i op (next answer) mid final) :
      ComesTo env i op (.call op' next) shared final
  | bound {next : ℕ → Program S α} {shared final : σ} (count : ℕ)
      (hrest : ComesTo env i op (next count) shared final) : ComesTo env i op (.bound next) shared final

variable [DecidableEq ι]

theorem Reach.comesTo {op : S.Op} {start config : Config S ι σ G α} {program : Program S α} {shared : σ}
    (hcomes : ComesTo env i op program config.shared shared)
    (hreach : Reach env M (fun _ _ _ _ _ ↦ True) start config)
    (htask : ∀ op next, Offers program op next → Offers (config.tasks i) op next) :
    ∃ final, Reach env M (fun _ _ _ _ _ ↦ True) start final ∧ final.shared = shared ∧
      (∃ next, Offers (final.tasks i) op next) ∧ ∀ j, j ≠ i → final.tasks j = config.tasks j := by
  generalize hshared : config.shared = before at hcomes
  induction hcomes generalizing config with
  | here hoffers => exact ⟨config, hreach, hshared, ⟨_, htask _ _ hoffers⟩, fun _ _ ↦ rfl⟩
  | @call op' next before mid after answer henv hrest ih =>
    subst hshared
    have hstep := hreach.step (htask _ _ (.call op' next)) henv trivial
    obtain ⟨final, hreached, hfinal, hoffers, hothers⟩ := ih hstep (by simp [advance]) rfl
    refine ⟨final, hreached, hfinal, hoffers, fun j hj ↦ ?_⟩
    rw [hothers j hj]
    exact Function.update_of_ne hj ..
  | bound count hrest ih =>
    exact ih hreach (fun op next hoffers ↦ htask op next (.bound count hoffers)) hshared

end Config

end CoreEngine.Interaction
