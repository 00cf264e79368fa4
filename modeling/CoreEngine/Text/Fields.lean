import Mathlib.Data.List.Basic
import Mathlib.Data.Nat.Notation

/-!
# Fields of a text

A text is split at its separators. The fields are the parts that are not empty, and a scanner that goes
through the text once finds them in this order.
-/

namespace CoreEngine.Text

variable {α : Type} [DecidableEq α]

/-- The parts between the separators, without the empty ones. -/
def fields (sep : α) (text : List α) : List (List α) := (text.splitOn sep).filter (· ≠ [])

/-- A scanner for the fields; `buf` is what it has of the next one. -/
def scanFields (sep : α) (buf : List α) : List α → List (List α)
  | [] => if buf = [] then [] else [buf]
  | c :: text =>
      if c = sep then if buf = [] then scanFields sep [] text else buf :: scanFields sep [] text
      else scanFields sep (buf ++ [c]) text

variable {sep : α} {buf : List α}

theorem fields_of_notMem (hbuf : sep ∉ buf) : fields sep buf = if buf = [] then [] else [buf] := by
  unfold fields
  rw [List.splitOn_eq_singleton hbuf]
  by_cases hempty : buf = []
  · simp [hempty]
  · simp [hempty]

/-- The text may be taken apart at a separator. -/
theorem fields_append_cons (front back : List α) :
    fields sep (front ++ sep :: back) = fields sep front ++ fields sep back := by
  unfold fields
  rw [List.splitOn_append_cons_self, List.filter_append]

/-- The scanner finds the fields of what it has, and of the rest. -/
theorem scanFields_eq_fields (hbuf : sep ∉ buf) (text : List α) :
    scanFields sep buf text = fields sep (buf ++ text) := by
  induction text generalizing buf with
  | nil =>
    rw [List.append_nil, fields_of_notMem hbuf]
    rfl
  | cons c text ih =>
    unfold scanFields
    by_cases hc : c = sep
    · have hrest : scanFields sep [] text = fields sep text := ih List.not_mem_nil
      rw [if_pos hc, hc, fields_append_cons, fields_of_notMem hbuf, hrest]
      by_cases hempty : buf = []
      · simp [hempty]
      · simp [hempty]
    · have hnext : sep ∉ buf ++ [c] := by simp [hbuf, Ne.symm hc]
      rw [if_neg hc, ih hnext, List.append_assoc, List.singleton_append]

end CoreEngine.Text
