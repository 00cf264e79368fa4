import Mathlib.Data.List.Basic
import Mathlib.Data.List.TakeWhile

/-!
# Gaps between words

A text whose words are separated by runs of blanks: its first words, the gaps behind them, and the text
in which each of these gaps is a single separator.
-/

namespace CoreEngine.Text

section Gaps

variable {α : Type} (blank : α → Bool) (sep : α)

def firstWord (text : List α) : List α := text.takeWhile (!blank ·)

/-- The blanks behind the first word. -/
def firstGap (text : List α) : List α := (text.dropWhile (!blank ·)).takeWhile blank

def afterGap (text : List α) : List α := (text.dropWhile (!blank ·)).dropWhile blank

/-- The gaps behind the first `n` words. -/
def gaps : ℕ → List α → List (List α)
  | 0, _ => []
  | n + 1, text => firstGap blank text :: gaps n (afterGap blank text)

/-- The text with one separator for each of the gaps behind its first `n` words. -/
def squeeze : ℕ → List α → List α
  | 0, text => text
  | n + 1, text => firstWord blank text ++
      if firstGap blank text = [] then [] else sep :: squeeze n (afterGap blank text)

/-- Neither the first nor the last character is a blank. -/
structure Trimmed (text : List α) : Prop where
  head : ∀ c ∈ text.head?, blank c = false
  last : ∀ c ∈ text.getLast?, blank c = false

end Gaps

variable {α : Type} {blank : α → Bool} {sep : α} {text : List α}

theorem blank_of_mem_firstWord {c : α} (hc : c ∈ firstWord blank text) : blank c = false := by
  simpa using List.mem_takeWhile_imp hc

theorem blank_of_mem_firstGap {c : α} (hc : c ∈ firstGap blank text) : blank c = true :=
  List.mem_takeWhile_imp hc

variable (blank) in
theorem firstGap_append_afterGap (text : List α) :
    firstGap blank text ++ afterGap blank text = text.dropWhile (!blank ·) :=
  List.takeWhile_append_dropWhile

variable (blank) in
theorem firstWord_append (text : List α) :
    firstWord blank text ++ (firstGap blank text ++ afterGap blank text) = text := by
  rw [firstGap_append_afterGap]
  exact List.takeWhile_append_dropWhile

theorem blank_head_afterGap {c : α} (hc : c ∈ (afterGap blank text).head?) : blank c = false := by
  have hhead := List.head?_dropWhile_not blank (text.dropWhile (!blank ·))
  unfold afterGap at hc
  rw [Option.mem_def.1 hc] at hhead
  exact hhead

/-- Where no gap is, the text has ended. -/
theorem afterGap_eq_nil (hgap : firstGap blank text = []) : afterGap blank text = [] := by
  have hhead := List.head?_dropWhile_not (!blank ·) text
  have hsplit := firstGap_append_afterGap blank text
  rw [hgap, List.nil_append] at hsplit
  cases hrest : afterGap blank text with
  | nil => rfl
  | cons c rest =>
    have hmem : c ∈ (afterGap blank text).head? := by
      rw [hrest]
      rfl
    have hplain := blank_head_afterGap hmem
    rw [← hsplit, hrest] at hhead
    simp [hplain] at hhead

/-- A text without a gap is a word. -/
theorem firstWord_eq_self (hgap : firstGap blank text = []) : firstWord blank text = text := by
  have hsplit := firstWord_append blank text
  rw [hgap, afterGap_eq_nil hgap, List.append_nil, List.append_nil] at hsplit
  exact hsplit

theorem squeeze_of_firstGap_nil (n : ℕ) (hgap : firstGap blank text = []) : squeeze blank sep n text = text := by
  cases n with
  | zero => rfl
  | succ n =>
    unfold squeeze
    rw [if_pos hgap, firstWord_eq_self hgap, List.append_nil]

theorem squeeze_of_firstGap_ne_nil (n : ℕ) (hgap : firstGap blank text ≠ []) :
    squeeze blank sep (n + 1) text =
      firstWord blank text ++ sep :: squeeze blank sep n (afterGap blank text) := by
  rw [squeeze, if_neg hgap]

/-- The gaps of an empty text are empty. -/
theorem eq_nil_of_mem_gaps_nil {n : ℕ} {gap : List α} (hgap : gap ∈ gaps blank n []) : gap = [] := by
  induction n with
  | zero => cases hgap
  | succ n ih =>
    rcases List.mem_cons.1 hgap with rfl | hgap
    · rfl
    · exact ih hgap

section Separator

variable {word : List α} (hword : ∀ c ∈ word, blank c = false) (hsep : blank sep = true)
include hword hsep

theorem firstWord_append_cons (rest : List α) : firstWord blank (word ++ sep :: rest) = word := by
  unfold firstWord
  rw [List.takeWhile_append_of_pos (by simpa using hword), List.takeWhile_cons_of_neg (by simp [hsep]),
    List.append_nil]

theorem dropWhile_append_cons (rest : List α) :
    (word ++ sep :: rest).dropWhile (!blank ·) = sep :: rest := by
  rw [List.dropWhile_append_of_pos (by simpa using hword), List.dropWhile_cons_of_neg (by simp [hsep])]

end Separator

/-- The first word stays. -/
theorem firstWord_squeeze (hsep : blank sep = true) (n : ℕ) (text : List α) :
    firstWord blank (squeeze blank sep n text) = firstWord blank text := by
  cases n with
  | zero => rfl
  | succ n =>
    by_cases hgap : firstGap blank text = []
    · rw [squeeze_of_firstGap_nil _ hgap]
    · rw [squeeze_of_firstGap_ne_nil n hgap]
      exact firstWord_append_cons (fun _ ↦ blank_of_mem_firstWord) hsep _

namespace Trimmed

/-- A gap is followed by a word. -/
theorem afterGap_ne_nil (htrimmed : Trimmed blank text) (hgap : firstGap blank text ≠ []) :
    Text.afterGap blank text ≠ [] := by
  intro hrest
  have hsplit := firstWord_append blank text
  rw [hrest, List.append_nil] at hsplit
  have hlast : (firstGap blank text).getLast hgap ∈ text.getLast? := by
    calc text.getLast? = (firstWord blank text ++ firstGap blank text).getLast? := by rw [hsplit]
      _ = (firstGap blank text).getLast? := List.getLast?_append_of_ne_nil _ hgap
      _ = some ((firstGap blank text).getLast hgap) := List.getLast?_eq_some_getLast hgap
  have hplain := htrimmed.last _ hlast
  rw [blank_of_mem_firstGap (List.getLast_mem hgap)] at hplain
  cases hplain

theorem afterGap (htrimmed : Trimmed blank text) : Trimmed blank (afterGap blank text) where
  head _ hc := blank_head_afterGap hc
  last c hc := by
    have hne : Text.afterGap blank text ≠ [] := by
      intro hnil
      rw [hnil] at hc
      cases hc
    apply htrimmed.last
    rw [← firstWord_append blank text, List.getLast?_append_of_ne_nil _ (by simp [hne]),
      List.getLast?_append_of_ne_nil _ hne]
    exact hc

theorem firstWord_ne_nil (htrimmed : Trimmed blank text) (hne : text ≠ []) : firstWord blank text ≠ [] := by
  cases text with
  | nil => exact absurd rfl hne
  | cons c text => simp [firstWord, htrimmed.head c rfl]

end Trimmed

end CoreEngine.Text
