import Mathlib.Data.List.Basic
import Mathlib.Data.List.Infix

/-!
# Quoted words

A text is read as words that are separated by a separator or stand between two equal quotes. The reader
goes through the text once. It keeps an empty word between quotes, and no other empty word.
-/

namespace CoreEngine.Text

variable {α : Type}

/-- How far the reader is: the quote that is open, what it has of the next word, and the words
before it. -/
structure Reader (α : Type) where
  quote : Option α
  word : List α
  found : List (List α)

namespace Reader

/-- Nothing is read yet. -/
def start : Reader α := ⟨none, [], []⟩

/-- The words, when the text ends here. -/
def atEnd (reader : Reader α) : List (List α) :=
  if reader.word = [] then reader.found else reader.found ++ [reader.word]

theorem found_prefix_atEnd (reader : Reader α) : reader.found <+: reader.atEnd := by
  by_cases hword : reader.word = []
  · simp [atEnd, hword]
  · simp [atEnd, hword]

theorem length_atEnd_le (reader : Reader α) : reader.atEnd.length ≤ reader.found.length + 1 := by
  by_cases hword : reader.word = []
  · simp [atEnd, hword]
  · simp [atEnd, hword]

/-- It makes no difference whether an empty word is kept at the end, unless it is among the first `n`. -/
theorem take_atEnd_eq_iff (reader : Reader α) (n : ℕ) :
    reader.atEnd.take n = (reader.found ++ [reader.word]).take n ↔ reader.word ≠ [] ∨ n ≤ reader.found.length := by
  by_cases hword : reader.word = []
  · have hend : reader.atEnd = reader.found := by simp [atEnd, hword]
    rw [hend]
    constructor
    · intro htake
      have hlength := congrArg List.length htake
      simp only [List.length_take, List.length_append, List.length_singleton] at hlength
      exact Or.inr (by omega)
    · rintro (hne | hn)
      · exact absurd hword hne
      · rw [List.take_append_of_le_length hn]
  · have hend : reader.atEnd = reader.found ++ [reader.word] := by simp [atEnd, hword]
    simp [hend, hword]

variable [DecidableEq α] (sep : α) (isQuote : α → Bool)

def read (reader : Reader α) (c : α) : Reader α :=
  match reader.quote with
  | none =>
      if c = sep then ⟨none, [], reader.atEnd⟩
      else if isQuote c = true then ⟨some c, [], reader.found⟩
      else ⟨none, reader.word ++ [c], reader.found⟩
  | some quote =>
      if c = quote then ⟨none, [], reader.found ++ [reader.word]⟩
      else ⟨some quote, reader.word ++ [c], reader.found⟩

def readAll (reader : Reader α) (text : List α) : Reader α := text.foldl (read sep isQuote) reader

variable {sep isQuote} {reader : Reader α} {text rest : List α} {c : α}

@[simp]
theorem readAll_nil : reader.readAll sep isQuote [] = reader := rfl

@[simp]
theorem readAll_cons :
    reader.readAll sep isQuote (c :: text) = (reader.read sep isQuote c).readAll sep isQuote text := rfl

theorem readAll_append :
    reader.readAll sep isQuote (text ++ rest) = (reader.readAll sep isQuote text).readAll sep isQuote rest := by
  simp [readAll, List.foldl_append]

variable (sep isQuote) in
/-- A character adds at most one word to those that are found. -/
theorem found_read (reader : Reader α) (c : α) :
    reader.found <+: (reader.read sep isQuote c).found ∧
      (reader.read sep isQuote c).found.length ≤ reader.found.length + 1 := by
  cases hopen : reader.quote with
  | none =>
    by_cases hc : c = sep
    · simp [read, hopen, hc, found_prefix_atEnd, length_atEnd_le]
    · by_cases hquote : isQuote c = true
      · simp [read, hopen, hc, hquote]
      · simp [read, hopen, hc, hquote]
  | some quote =>
    by_cases hc : c = quote
    · simp [read, hopen, hc]
    · simp [read, hopen, hc]

theorem found_prefix_readAll (reader : Reader α) (text : List α) :
    reader.found <+: (reader.readAll sep isQuote text).found := by
  induction text generalizing reader with
  | nil => exact List.prefix_rfl
  | cons c text ih => exact (reader.found_read sep isQuote c).1.trans (ih _)

/-- Characters that mean nothing to the reader go into the word. -/
theorem readAll_of_plain (hplain : ∀ c ∈ text, c ≠ sep ∧ isQuote c = false ∧ reader.quote ≠ some c) :
    reader.readAll sep isQuote text = { reader with word := reader.word ++ text } := by
  induction text generalizing reader with
  | nil => simp
  | cons c text ih =>
    obtain ⟨hsep, hquote, hopen⟩ := hplain c (by simp)
    have hread : reader.read sep isQuote c = { reader with word := reader.word ++ [c] } := by
      cases hstate : reader.quote with
      | none => simp [read, hstate, hsep, hquote]
      | some quote =>
        have hne : c ≠ quote := by
          intro heq
          exact hopen (by rw [hstate, heq])
        simp [read, hstate, hne]
    have hrest : readAll sep isQuote { reader with word := reader.word ++ [c] } text =
        { reader with word := reader.word ++ [c] ++ text } := ih fun d hd ↦ hplain d (by simp [hd])
    rw [readAll_cons, hread, hrest, List.append_assoc, List.singleton_append]

/-- Between quotes every other character goes into the word. -/
theorem readAll_of_quote {quote : α} (hopen : reader.quote = some quote) (hplain : quote ∉ text) :
    reader.readAll sep isQuote text = { reader with word := reader.word ++ text } := by
  induction text generalizing reader with
  | nil => simp
  | cons c text ih =>
    have hne : c ≠ quote := by
      intro heq
      exact hplain (by simp [heq])
    have hread : reader.read sep isQuote c = { reader with word := reader.word ++ [c] } := by
      simp [read, hopen, hne]
    have hrest : readAll sep isQuote { reader with word := reader.word ++ [c] } text =
        { reader with word := reader.word ++ [c] ++ text } := ih hopen fun hmem ↦ hplain (by simp [hmem])
    rw [readAll_cons, hread, hrest, List.append_assoc, List.singleton_append]

end Reader

section Writing

variable (sep : α) (isQuote : α → Bool)

/-- A word as it is written: bare or between quotes. -/
structure Written where
  word : List α
  quote : Option α
  bare : quote = none → word ≠ [] ∧ ∀ c ∈ word, c ≠ sep ∧ isQuote c = false
  quoted : ∀ c, quote = some c → isQuote c = true ∧ c ∉ word

variable {sep isQuote}

def Written.text (written : Written sep isQuote) : List α :=
  match written.quote with
  | none => written.word
  | some quote => quote :: (written.word ++ [quote])

/-- A line: each word is followed by separators, at least one of them between two words. -/
def line : List (Written sep isQuote × ℕ) → List α
  | [] => []
  | [(written, gap)] => written.text ++ List.replicate gap sep
  | (written, gap) :: next :: rest =>
      written.text ++ (List.replicate (gap + 1) sep ++ line (next :: rest))

variable {c : α}

theorem Written.mem_text {written : Written sep isQuote} (hc : c ∈ written.text) :
    isQuote c = true ∨ c ∈ written.word := by
  cases hstyle : written.quote with
  | none =>
    rw [Written.text, hstyle] at hc
    exact Or.inr hc
  | some quote =>
    have hquote := (written.quoted quote hstyle).1
    simp only [Written.text, hstyle, List.mem_cons, List.mem_append, List.not_mem_nil, or_false] at hc
    rcases hc with rfl | hword | rfl
    · exact Or.inl hquote
    · exact Or.inr hword
    · exact Or.inl hquote

/-- A line consists of separators, quotes and the characters of its words. -/
theorem mem_line {words : List (Written sep isQuote × ℕ)} (hc : c ∈ line words) :
    c = sep ∨ isQuote c = true ∨ ∃ written ∈ words, c ∈ written.1.word := by
  induction words with
  | nil => cases hc
  | cons first words ih =>
    obtain ⟨written, gap⟩ := first
    have hline : c ∈ written.text ∨ c = sep ∨ c ∈ line words := by
      cases words with
      | nil =>
        simp only [line, List.mem_append, List.mem_replicate] at hc
        tauto
      | cons next words =>
        simp only [line, List.mem_append, List.mem_replicate] at hc
        tauto
    rcases hline with htext | hsep | hrest
    · rcases Written.mem_text htext with hquote | hword
      · exact Or.inr (Or.inl hquote)
      · exact Or.inr (Or.inr ⟨_, List.mem_cons_self, hword⟩)
    · exact Or.inl hsep
    · rcases ih hrest with hsep | hquote | ⟨other, hother, hword⟩
      · exact Or.inl hsep
      · exact Or.inr (Or.inl hquote)
      · exact Or.inr (Or.inr ⟨other, List.mem_cons_of_mem _ hother, hword⟩)

end Writing

namespace Reader

variable [DecidableEq α] {sep : α} {isQuote : α → Bool}

/-- Separators alone make no word. -/
theorem readAll_replicate (found : List (List α)) (n : ℕ) :
    readAll sep isQuote ⟨none, [], found⟩ (List.replicate n sep) = ⟨none, [], found⟩ := by
  induction n with
  | zero => rfl
  | succ n ih =>
    have hread : read sep isQuote ⟨none, [], found⟩ sep = ⟨none, [], found⟩ := by simp [read, atEnd]
    rw [List.replicate_succ, readAll_cons, hread, ih]

/-- A written word is read back, at the end of the text or at a separator. -/
theorem readAll_text (hsep : isQuote sep = false) (written : Written sep isQuote) (found : List (List α)) :
    (readAll sep isQuote ⟨none, [], found⟩ written.text).quote = none ∧
      (readAll sep isQuote ⟨none, [], found⟩ written.text).atEnd = found ++ [written.word] := by
  cases hstyle : written.quote with
  | none =>
    obtain ⟨hne, hfree⟩ := written.bare hstyle
    have htext : written.text = written.word := by simp [Written.text, hstyle]
    rw [htext, readAll_of_plain fun c hc ↦ ⟨(hfree c hc).1, (hfree c hc).2, by simp⟩]
    simp [atEnd, hne]
  | some quote =>
    obtain ⟨hquote, hfree⟩ := written.quoted quote hstyle
    have htext : written.text = quote :: (written.word ++ [quote]) := by simp [Written.text, hstyle]
    have hne : quote ≠ sep := by
      rintro rfl
      simp [hsep] at hquote
    have hopen : read sep isQuote ⟨none, [], found⟩ quote = ⟨some quote, [], found⟩ := by
      simp [read, hne, hquote]
    rw [htext, readAll_cons, hopen, readAll_append, readAll_of_quote rfl hfree]
    simp [read, atEnd]

theorem readAll_text_replicate (hsep : isQuote sep = false) (written : Written sep isQuote)
    (found : List (List α)) (gap : ℕ) :
    readAll sep isQuote ⟨none, [], found⟩ (written.text ++ List.replicate (gap + 1) sep) =
      ⟨none, [], found ++ [written.word]⟩ := by
  obtain ⟨hclosed, hword⟩ := readAll_text hsep written found
  have hread : (readAll sep isQuote ⟨none, [], found⟩ written.text).read sep isQuote sep =
      ⟨none, [], found ++ [written.word]⟩ := by
    simp [read, hclosed, hword]
  rw [readAll_append, List.replicate_succ, readAll_cons, hread, readAll_replicate]

/-- The words of a line are read back. -/
theorem atEnd_readAll_line (hsep : isQuote sep = false) (words : List (Written sep isQuote × ℕ))
    (found : List (List α)) :
    (readAll sep isQuote ⟨none, [], found⟩ (line words)).atEnd = found ++ words.map (·.1.word) := by
  induction words generalizing found with
  | nil => simp [line, atEnd]
  | cons first words ih =>
    obtain ⟨written, gap⟩ := first
    cases words with
    | nil =>
      cases gap with
      | zero => simp [line, readAll_text hsep]
      | succ gap => simp [line, readAll_text_replicate hsep, atEnd]
    | cons next words =>
      have hline : line ((written, gap) :: next :: words) =
          (written.text ++ List.replicate (gap + 1) sep) ++ line (next :: words) := by
        simp [line]
      rw [hline, readAll_append, readAll_text_replicate hsep, ih]
      simp

end Reader

section Ends

variable [DecidableEq α] (sep : α) (isQuote : α → Bool)

/-- The quote that is open after a text. -/
def openQuote (text : List α) : Option α :=
  text.foldl (fun quote c ↦ if quote = some c then none else if quote = none ∧ isQuote c = true then some c
    else quote) none

/-- The last character of a text belongs to a word. -/
def endsInWord (text : List α) : Bool :=
  match text.getLast?, openQuote isQuote text.dropLast with
  | none, _ => false
  | some c, none => c ≠ sep ∧ isQuote c = false
  | some c, some quote => c ≠ quote

/-- The last character of a text ends a word: it closes a quote, or is a separator outside quotes right
after a bare word. -/
def endsWord (text : List α) : Bool :=
  match text.getLast?, openQuote isQuote text.dropLast with
  | none, _ => false
  | some c, none => c = sep ∧ endsInWord sep isQuote text.dropLast = true
  | some c, some quote => c = quote

/-- The number of words that end in a text. -/
def endedWords (text : List α) : ℕ := text.inits.countP (endsWord sep isQuote)

variable {sep isQuote}

theorem openQuote_concat (text : List α) (c : α) : openQuote isQuote (text ++ [c]) =
    if openQuote isQuote text = some c then none
    else if openQuote isQuote text = none ∧ isQuote c = true then some c else openQuote isQuote text := by
  unfold openQuote
  rw [List.foldl_append, List.foldl_cons, List.foldl_nil]

theorem endedWords_concat (text : List α) (c : α) : endedWords sep isQuote (text ++ [c]) =
    endedWords sep isQuote text + if endsWord sep isQuote (text ++ [c]) = true then 1 else 0 := by
  unfold endedWords
  rw [List.inits_append, List.countP_append]
  simp [List.countP_singleton]

namespace Reader

/-- What the reader has after a text, in terms of the text. -/
theorem readAll_start (hsep : isQuote sep = false) (text : List α) :
    (start.readAll sep isQuote text).quote = openQuote isQuote text ∧
      ((start.readAll sep isQuote text).word ≠ [] ↔ endsInWord sep isQuote text = true) ∧
      (start.readAll sep isQuote text).found.length = endedWords sep isQuote text := by
  induction text using List.reverseRecOn with
  | nil => simp [start, openQuote, endsInWord, endsWord, endedWords]
  | append_singleton text c ih =>
    obtain ⟨hquote, hword, hfound⟩ := ih
    have hread : start.readAll sep isQuote (text ++ [c]) = (start.readAll sep isQuote text).read sep isQuote c := by
      rw [readAll_append, readAll_cons, readAll_nil]
    rw [hread, openQuote_concat, endedWords_concat, ← hfound, ← hquote]
    cases hopen : (start.readAll sep isQuote text).quote with
    | none =>
      rw [hopen] at hquote
      have hin : endsInWord sep isQuote (text ++ [c]) = decide (c ≠ sep ∧ isQuote c = false) := by
        simp [endsInWord, ← hquote]
      have hends : endsWord sep isQuote (text ++ [c]) =
          decide (c = sep ∧ (start.readAll sep isQuote text).word ≠ []) := by
        simp [endsWord, ← hquote, hword]
      rw [hin, hends]
      by_cases hc : c = sep
      · by_cases hempty : (start.readAll sep isQuote text).word = []
        · simp [read, hopen, hc, hsep, atEnd, hempty]
        · simp [read, hopen, hc, hsep, atEnd, hempty]
      · by_cases hmark : isQuote c = true
        · simp [read, hopen, hc, hmark]
        · simp [read, hopen, hc, hmark]
    | some quote =>
      rw [hopen] at hquote
      have hin : endsInWord sep isQuote (text ++ [c]) = decide (c ≠ quote) := by
        simp [endsInWord, ← hquote]
      have hends : endsWord sep isQuote (text ++ [c]) = decide (c = quote) := by
        simp [endsWord, ← hquote]
      rw [hin, hends]
      by_cases hc : c = quote
      · simp [read, hopen, hc]
      · simp [read, hopen, hc, Ne.symm hc]

end Reader

end Ends

end CoreEngine.Text
