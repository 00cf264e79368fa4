import Mathlib.Data.List.Induction
import Mathlib.Logic.Function.Basic

/-!
# Tables of entries with owners

A table keeps a map from keys to values for each owner. Edits set or delete one entry, or all entries of an
owner. Where keys and values pass through fields that hold only part of them, the edits that arrive are
narrower than those that were sent; this is when the table does not show it.
-/

namespace CoreEngine.Memory

variable {ι κ ν : Type}

abbrev Table (ι κ ν : Type) := ι → κ → Option ν

inductive Edit (ι κ ν : Type)
  | reset (owner : ι)
  | set (owner : ι) (key : κ) (value : ν)
  | delete (owner : ι) (key : κ)
  deriving DecidableEq, Repr

namespace Edit

variable [DecidableEq ι] [DecidableEq κ]

def apply (table : Table ι κ ν) : Edit ι κ ν → Table ι κ ν
  | .reset owner => Function.update table owner fun _ ↦ none
  | .set owner key value => Function.update table owner (Function.update (table owner) key (some value))
  | .delete owner key => Function.update table owner (Function.update (table owner) key none)

/-- The edit that arrives when keys and values are cut down on the way. -/
def narrow (cutKey : κ → κ) (cutValue : ν → ν) : Edit ι κ ν → Edit ι κ ν
  | .reset owner => .reset owner
  | .set owner key value => .set owner (cutKey key) (cutValue value)
  | .delete owner key => .delete owner (cutKey key)

/-- The edit is not cut down, or neither form of it changes anything. -/
def Lossless (cutKey : κ → κ) (cutValue : ν → ν) (table : Table ι κ ν) (edit : Edit ι κ ν) : Prop :=
  edit.narrow cutKey cutValue = edit ∨
    edit.apply table = table ∧ (edit.narrow cutKey cutValue).apply table = table

theorem update_eq_self_of_eq {table : Table ι κ ν} {owner : ι} {key : κ} {value : Option ν}
    (hvalue : table owner key = value) :
    Function.update table owner (Function.update (table owner) key value) = table := by
  rw [← hvalue, Function.update_eq_self, Function.update_eq_self]

/-- Two entries of one owner have the same effect only if they are the same, or have none. -/
theorem update_update_eq {table : Table ι κ ν} {owner : ι} {key key' : κ} {value value' : Option ν}
    (hequal : Function.update table owner (Function.update (table owner) key' value') =
      Function.update table owner (Function.update (table owner) key value)) :
    key' = key ∧ value' = value ∨ table owner key = value ∧ table owner key' = value' := by
  have hmaps := Function.update_injective table owner hequal
  have hkey := congrFun hmaps key
  have hkey' := congrFun hmaps key'
  rw [Function.update_self] at hkey hkey'
  by_cases hsame : key' = key
  · subst hsame
    rw [Function.update_self] at hkey
    exact .inl ⟨rfl, hkey⟩
  · rw [Function.update_of_ne (Ne.symm hsame)] at hkey
    rw [Function.update_of_ne hsame] at hkey'
    exact .inr ⟨hkey, hkey'.symm⟩

theorem apply_narrow_eq_iff {cutKey : κ → κ} {cutValue : ν → ν} {table : Table ι κ ν} (edit : Edit ι κ ν) :
    (edit.narrow cutKey cutValue).apply table = edit.apply table ↔ edit.Lossless cutKey cutValue table := by
  constructor
  · intro hequal
    cases edit with
    | reset owner => exact .inl rfl
    | set owner key value =>
      rcases update_update_eq hequal with ⟨hkey, hvalue⟩ | ⟨hvalue, hvalue'⟩
      · left
        rw [narrow, hkey, Option.some.inj hvalue]
      · exact .inr ⟨update_eq_self_of_eq hvalue, update_eq_self_of_eq hvalue'⟩
    | delete owner key =>
      rcases update_update_eq hequal with ⟨hkey, -⟩ | ⟨hvalue, hvalue'⟩
      · left
        rw [narrow, hkey]
      · exact .inr ⟨update_eq_self_of_eq hvalue, update_eq_self_of_eq hvalue'⟩
  · rintro (hsame | ⟨hfull, hcut⟩)
    · rw [hsame]
    · exact hcut.trans hfull.symm

/-- The table after a history. -/
def applyAll (table : Table ι κ ν) (edits : List (Edit ι κ ν)) : Table ι κ ν := edits.foldl apply table

theorem applyAll_concat (table : Table ι κ ν) (edits : List (Edit ι κ ν)) (edit : Edit ι κ ν) :
    applyAll table (edits ++ [edit]) = edit.apply (applyAll table edits) := by
  simp [applyAll]

/-- A history looks the same after every step exactly when each edit is lossless where it is made. -/
theorem applyAll_narrow_eq_iff {α : Type} (edit : α → Edit ι κ ν) (cutKey : κ → κ) (cutValue : ν → ν)
    (table : Table ι κ ν) (history : List α) :
    (∀ before, before <+: history →
        applyAll table (before.map fun x ↦ (edit x).narrow cutKey cutValue) = applyAll table (before.map edit)) ↔
      ∀ before x, before ++ [x] <+: history →
        (edit x).Lossless cutKey cutValue (applyAll table (before.map edit)) := by
  induction history using List.reverseRecOn with
  | nil =>
    refine iff_of_true ?_ ?_
    · intro before hbefore
      rw [List.prefix_nil.1 hbefore]
      rfl
    · intro before x hbefore
      exact absurd (List.prefix_nil.1 hbefore) (by simp)
  | append_singleton history x ih =>
    simp only [List.prefix_concat_iff, or_imp, forall_and, forall_eq]
    rw [ih]
    apply and_congr_left
    intro hlossless
    have hbefore := ih.2 hlossless history (List.prefix_refl _)
    rw [List.map_append, List.map_append, List.map_singleton, List.map_singleton, applyAll_concat, applyAll_concat,
      hbefore, apply_narrow_eq_iff]
    constructor
    · intro hlast before y hequal
      obtain ⟨rfl, hy⟩ := List.append_inj' hequal rfl
      obtain rfl := List.singleton_inj.1 hy
      exact hlast
    · intro hlast
      exact hlast history x rfl

end Edit

end CoreEngine.Memory
