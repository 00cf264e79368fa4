import Mathlib.Algebra.Order.Ring.Nat
import Mathlib.Data.List.Basic
import Mathlib.Data.Nat.Notation

/-!
# Lines in pieces

A reader with a buffer of `m` characters gets a line in pieces: full ones while there is enough of it left,
and then the rest, which is empty if the length of the line is a multiple of `m`. Two loops put the lines
together again, with a terminator after each piece that is not full. One goes on as long as there are lines;
the other takes an empty piece for an empty line, and stops.
-/

namespace CoreEngine.Text

variable {α : Type}

/-- The next piece, and what is left of the lines. -/
def nextPiece (m : ℕ) : List (List α) → List α × List (List α)
  | [] => ([], [])
  | line :: lines => if line.length < m then (line, lines) else (line.take m, line.drop m :: lines)

/-- What is put after a piece. -/
def terminator (m : ℕ) (eol piece : List α) : List α := if piece.length = m then [] else eol

/-- The lines, each with its terminator. -/
def joinLines (eol : List α) (lines : List (List α)) : List α := lines.flatMap (· ++ eol)

/-- What the loop that stops at an empty piece makes of the lines; `last` is what it adds for that piece. -/
def joinUntilEmpty (m : ℕ) (eol last : List α) : List (List α) → List α
  | [] => []
  | line :: lines => if m ∣ line.length then line ++ last else line ++ eol ++ joinUntilEmpty m eol last lines

variable {m : ℕ} {eol last : List α}

theorem nextPiece_of_lt {line : List α} (hlt : line.length < m) (lines : List (List α)) :
    nextPiece m (line :: lines) = (line, lines) := if_pos hlt

theorem nextPiece_of_le {line : List α} (hle : m ≤ line.length) (lines : List (List α)) :
    nextPiece m (line :: lines) = (line.take m, line.drop m :: lines) := if_neg (Nat.not_lt.2 hle)

theorem terminator_of_lt {piece : List α} (hlt : piece.length < m) : terminator m eol piece = eol :=
  if_neg (Nat.ne_of_lt hlt)

theorem terminator_take {line : List α} (hle : m ≤ line.length) : terminator m eol (line.take m) = [] :=
  if_pos (by rw [List.length_take, Nat.min_eq_left hle])

/-- A piece is empty only at the start of an empty line. -/
theorem nextPiece_eq_nil_iff (hm : 0 < m) (line : List α) (lines : List (List α)) :
    (nextPiece m (line :: lines)).1 = [] ↔ line = [] := by
  by_cases hlt : line.length < m
  · rw [nextPiece_of_lt hlt]
  · rw [nextPiece_of_le (Nat.not_lt.1 hlt), List.take_eq_nil_iff]
    exact or_iff_right (Nat.ne_of_gt hm)

/-- Every piece brings the end of the lines nearer. -/
theorem length_nextPiece_lt (hm : 0 < m) (line : List α) (lines : List (List α)) :
    ((nextPiece m (line :: lines)).2.map (·.length + 1)).sum < ((line :: lines).map (·.length + 1)).sum := by
  by_cases hlt : line.length < m
  · simp only [nextPiece_of_lt hlt, List.map_cons, List.sum_cons]
    omega
  · simp only [nextPiece_of_le (Nat.not_lt.1 hlt), List.map_cons, List.sum_cons, List.length_drop]
    omega

/-- An empty line stays until its piece is read. -/
theorem nil_mem_nextPiece {line : List α} (hline : line ≠ []) {lines : List (List α)} (hnil : [] ∈ line :: lines) :
    [] ∈ (nextPiece m (line :: lines)).2 := by
  have hlines : [] ∈ lines := (List.mem_cons.1 hnil).resolve_left (Ne.symm hline)
  by_cases hlt : line.length < m
  · rwa [nextPiece_of_lt hlt]
  · rw [nextPiece_of_le (Nat.not_lt.1 hlt)]
    exact List.mem_cons_of_mem _ hlines

theorem joinLines_ne_nil (heol : eol ≠ []) {lines : List (List α)} (hlines : lines ≠ []) :
    joinLines eol lines ≠ [] := by
  obtain ⟨line, rest, rfl⟩ := List.exists_cons_of_ne_nil hlines
  simp [joinLines, heol]

/-- Without the last terminator, the lines are separated by terminators. -/
theorem dropLast_joinLines (sep : α) {lines : List (List α)} (hlines : lines ≠ []) :
    (joinLines [sep] lines).dropLast = [sep].intercalate lines := by
  induction lines with
  | nil => exact absurd rfl hlines
  | cons line lines ih =>
    have hjoin : joinLines [sep] (line :: lines) = line ++ [sep] ++ joinLines [sep] lines := List.flatMap_cons
    rw [hjoin]
    cases lines with
    | nil => simp [joinLines]
    | cons next lines =>
      have hnext : joinLines [sep] (next :: lines) ≠ [] :=
        joinLines_ne_nil (List.cons_ne_nil _ _) (List.cons_ne_nil _ _)
      rw [List.dropLast_append_of_ne_nil hnext, ih (List.cons_ne_nil _ _), List.intercalate_cons_cons]

/-- The loop that reads on makes one step. -/
theorem joinLines_nextPiece (line : List α) (lines : List (List α)) :
    joinLines eol (line :: lines) = (nextPiece m (line :: lines)).1 ++
      terminator m eol (nextPiece m (line :: lines)).1 ++ joinLines eol (nextPiece m (line :: lines)).2 := by
  by_cases hlt : line.length < m
  · rw [nextPiece_of_lt hlt, terminator_of_lt hlt]
    exact List.flatMap_cons
  · have hle := Nat.not_lt.1 hlt
    rw [nextPiece_of_le hle, terminator_take hle]
    simp only [joinLines, List.flatMap_cons, List.append_nil, ← List.append_assoc, List.take_append_drop]

/-- The loop that stops at an empty piece makes one step. -/
theorem joinUntilEmpty_nextPiece {line : List α} (hline : line ≠ []) (lines : List (List α)) :
    joinUntilEmpty m eol last (line :: lines) = (nextPiece m (line :: lines)).1 ++
      terminator m eol (nextPiece m (line :: lines)).1 ++
      joinUntilEmpty m eol last (nextPiece m (line :: lines)).2 := by
  by_cases hlt : line.length < m
  · have hdvd : ¬m ∣ line.length := Nat.not_dvd_of_pos_of_lt (List.length_pos_iff.2 hline) hlt
    rw [nextPiece_of_lt hlt, terminator_of_lt hlt, joinUntilEmpty, if_neg hdvd]
  · have hle := Nat.not_lt.1 hlt
    have hdvd : m ∣ (line.drop m).length ↔ m ∣ line.length := by
      rw [List.length_drop]
      exact Nat.dvd_sub_iff_left hle (Nat.dvd_refl m)
    rw [nextPiece_of_le hle, terminator_take hle, joinUntilEmpty, joinUntilEmpty, if_congr hdvd rfl rfl]
    split
    · rw [← List.append_assoc, List.append_nil, List.take_append_drop]
    · simp only [← List.append_assoc, List.append_nil, List.take_append_drop]

theorem joinUntilEmpty_nil (lines : List (List α)) : joinUntilEmpty m eol last ([] :: lines) = last :=
  if_pos (Nat.dvd_zero m)

/-- All lines arrive, up to the empty one, exactly when no line fills its pieces. -/
theorem joinUntilEmpty_eq_iff (heol : eol ≠ []) (lines rest : List (List α)) :
    joinUntilEmpty m eol last (lines ++ [] :: rest) = joinLines eol lines ++ last ↔
      ∀ line ∈ lines, ¬m ∣ line.length := by
  induction lines with
  | nil => exact iff_of_true (joinUntilEmpty_nil rest) (List.forall_mem_nil _)
  | cons line lines ih =>
    have hjoin : joinLines eol (line :: lines) = line ++ eol ++ joinLines eol lines := List.flatMap_cons
    rw [List.cons_append, joinUntilEmpty, hjoin, List.forall_mem_cons]
    by_cases hdvd : m ∣ line.length
    · rw [if_pos hdvd]
      refine iff_of_false ?_ fun hall ↦ hall.1 hdvd
      intro hequal
      have hlength := congrArg List.length hequal
      have hpos := List.length_pos_iff.2 heol
      simp only [List.length_append] at hlength
      omega
    · rw [if_neg hdvd, List.append_assoc (line ++ eol), List.append_cancel_left_eq, ih]
      exact (and_iff_right hdvd).symm

section Separated

variable [BEq α] [LawfulBEq α] {sep : α} {lines others : List (List α)}

/-- Cut at its separators, a joined list falls into the pieces of its lines. -/
theorem splitOn_intercalate_pieces (hlines : lines ≠ []) :
    ([sep].intercalate lines).splitOn sep = lines.flatMap (·.splitOn sep) := by
  induction lines with
  | nil => exact absurd rfl hlines
  | cons line lines ih =>
    cases lines with
    | nil => simp
    | cons next lines =>
      rw [List.intercalate_cons_cons, List.append_assoc, List.singleton_append, List.splitOn_append_cons_self,
        ih (List.cons_ne_nil _ _)]
      rfl

/-- Two lists are joined to one string exactly if their lines have the same pieces, in the same order. -/
theorem intercalate_eq_iff (hlines : lines ≠ []) (hothers : others ≠ []) :
    [sep].intercalate lines = [sep].intercalate others ↔
      lines.flatMap (·.splitOn sep) = others.flatMap (·.splitOn sep) := by
  constructor
  · intro hequal
    rw [← splitOn_intercalate_pieces hlines, hequal, splitOn_intercalate_pieces hothers]
  · intro hequal
    calc [sep].intercalate lines
        = [sep].intercalate (([sep].intercalate lines).splitOn sep) := (List.intercalate_splitOn sep).symm
      _ = [sep].intercalate (([sep].intercalate others).splitOn sep) := by
        rw [splitOn_intercalate_pieces hlines, hequal, splitOn_intercalate_pieces hothers]
      _ = [sep].intercalate others := List.intercalate_splitOn sep

end Separated

end CoreEngine.Text
