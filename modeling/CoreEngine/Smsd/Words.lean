import CoreEngine.Smsd.CString
import Mathlib.Data.List.TakeDrop
import Mathlib.Data.List.TakeWhile

/-!
# Words

What `sscanf` and the hand-written splits find in a line that is made of words.
-/

namespace CoreEngine.Smsd

/-- A word: what one `%s` conversion reads, up to the next space. -/
def IsWord (s : CString) : Prop := s ≠ [] ∧ ∀ c ∈ s, CString.isspace c = false

variable {s t rest : CString}

instance (s : CString) : Decidable (IsWord s) := inferInstanceAs (Decidable (_ ∧ _))

/-- What follows a word: nothing, or a space and more. -/
def EndsWord (rest : CString) : Prop := ∀ c ∈ rest.head?, CString.isspace c = true

instance (rest : CString) : Decidable (EndsWord rest) :=
  decidable_of_iff (rest.head?.all CString.isspace = true) (Option.all_eq_true _ _)

theorem IsWord.takeWhile (hword : IsWord s) (hrest : EndsWord rest) :
    (s ++ rest).takeWhile (!CString.isspace ·) = s := by
  rw [List.takeWhile_append_of_pos fun c hc ↦ by simp [hword.2 c hc]]
  cases rest with
  | nil => simp
  | cons c rest => simp [hrest c rfl]

theorem IsWord.dropWhile (hword : IsWord s) (hrest : EndsWord rest) :
    (s ++ rest).dropWhile (!CString.isspace ·) = rest := by
  rw [List.dropWhile_append_of_pos fun c hc ↦ by simp [hword.2 c hc]]
  cases rest with
  | nil => simp
  | cons c rest => simp [hrest c rfl]

/-- Leading space before a word is skipped. -/
theorem IsWord.skip (hword : IsWord s) : (s ++ rest).dropWhile CString.isspace = s ++ rest := by
  obtain ⟨hne, hspace⟩ := hword
  cases s with
  | nil => exact absurd rfl hne
  | cons c s => simp [hspace c]

theorem IsWord.scanWord (hword : IsWord s) (hrest : EndsWord rest) :
    CString.scanWord (s ++ rest) = some (s, rest) := by
  unfold CString.scanWord
  rw [hword.skip]
  cases hs : s ++ rest with
  | nil => exact absurd (List.append_eq_nil_iff.1 hs).1 hword.1
  | cons c tail =>
    simp only [List.span_eq_takeWhile_dropWhile]
    rw [← hs, hword.takeWhile hrest, hword.dropWhile hrest]

theorem scanWord_cons_of_isspace {c : Char} (hspace : CString.isspace c = true) :
    CString.scanWord (c :: s) = CString.scanWord s := by
  unfold CString.scanWord
  rw [List.dropWhile_cons_of_pos hspace]

theorem IsWord.scanWord_last (hword : IsWord s) : CString.scanWord s = some (s, []) := by
  have hscan : CString.scanWord (s ++ []) = some (s, []) := hword.scanWord nofun
  rwa [List.append_nil] at hscan

/-- `sscanf` finds the two words of `<s> <t>`. -/
theorem scanWords_pair (hs : IsWord s) (ht : IsWord t) :
    CString.scanWords 2 (s ++ ' ' :: t) = [s, t] := by
  have hrest : EndsWord (' ' :: t) := by
    rintro c ⟨⟩
    rfl
  unfold CString.scanWords
  rw [hs.scanWord hrest]
  simp only [CString.scanWords]
  rw [scanWord_cons_of_isspace rfl, ht.scanWord_last]

/-- The first word that `sscanf` stores. -/
theorem IsWord.head_scanWords (hword : IsWord s) (hrest : EndsWord rest) (n : ℕ) :
    (CString.scanWords (n + 1) (s ++ rest)).head? = some s := by
  unfold CString.scanWords
  rw [hword.scanWord hrest]
  rfl

section Split

/-- The words of a text: the longest pieces without space. -/
def words (s : CString) : List CString := (s.splitOnP CString.isspace).filter (· ≠ [])

theorem words_cons_of_isspace {c : Char} (hspace : CString.isspace c = true) : words (c :: s) = words s := by
  simp [words, List.splitOnP_cons_eq_if_modifyHead, hspace]

theorem words_dropWhile (s : CString) : words (s.dropWhile CString.isspace) = words s := by
  induction s with
  | nil => rfl
  | cons c s ih =>
    by_cases hspace : CString.isspace c = true
    · rw [List.dropWhile_cons_of_pos hspace, ih, words_cons_of_isspace hspace]
    · rw [List.dropWhile_cons_of_neg hspace]

theorem scanWord_eq_none (hscan : CString.scanWord s = none) : s.dropWhile CString.isspace = [] := by
  unfold CString.scanWord at hscan
  cases hs : s.dropWhile CString.isspace with
  | nil => rfl
  | cons c tail => simp [hs] at hscan

theorem scanWord_spec {word : CString} (hscan : CString.scanWord s = some (word, rest)) :
    s.dropWhile CString.isspace = word ++ rest ∧ IsWord word ∧ EndsWord rest := by
  unfold CString.scanWord at hscan
  cases hs : s.dropWhile CString.isspace with
  | nil => simp [hs] at hscan
  | cons c tail =>
    rw [hs] at hscan
    simp only [List.span_eq_takeWhile_dropWhile, Option.some.injEq, Prod.mk.injEq] at hscan
    obtain ⟨rfl, rfl⟩ := hscan
    have hhead : CString.isspace c = false := by
      have hnot := List.head?_dropWhile_not CString.isspace s
      simpa [hs] using hnot
    refine ⟨(List.takeWhile_append_dropWhile).symm, ⟨?_, ?_⟩, ?_⟩
    · simp [hhead]
    · intro d hd
      simpa using List.mem_takeWhile_imp hd
    · intro d hd
      have hnot := List.head?_dropWhile_not (fun c ↦ !CString.isspace c) (c :: tail)
      rw [hd] at hnot
      simpa using hnot

theorem words_of_scanWord {word : CString} (hscan : CString.scanWord s = some (word, rest)) :
    words s = word :: words rest := by
  obtain ⟨hs, hword, hends⟩ := scanWord_spec hscan
  rw [← words_dropWhile s, hs]
  cases rest with
  | nil =>
    rw [List.append_nil, words, List.splitOnP_eq_singleton hword.2]
    simp [words, hword.1]
  | cons c tail =>
    have hspace : CString.isspace c = true := hends c rfl
    rw [words_cons_of_isspace hspace, words,
      List.splitOnP_append_cons_of_forall_mem hword.2 c hspace tail]
    simp [words, hword.1]

/-- `sscanf` stores the first words of its input. -/
theorem scanWords_eq_take (n : ℕ) (s : CString) : CString.scanWords n s = (words s).take n := by
  induction n generalizing s with
  | zero => rfl
  | succ n ih =>
    unfold CString.scanWords
    cases hscan : CString.scanWord s with
    | none =>
      rw [← words_dropWhile s, scanWord_eq_none hscan]
      rfl
    | some pair =>
      obtain ⟨word, rest⟩ := pair
      rw [words_of_scanWord hscan, List.take_succ_cons, ← ih rest]

/-- The first word, and the space before the next one, take their room in the text. -/
theorem length_of_scanWord {word : CString} (hscan : CString.scanWord s = some (word, rest)) :
    word.length + rest.length ≤ s.length := by
  have hlength := congrArg List.length (scanWord_spec hscan).1
  have hdrop := List.length_dropWhile_le CString.isspace s
  rw [List.length_append] at hlength
  omega

theorem length_le_of_mem_scanWords {word : CString} {n : ℕ} (hword : word ∈ CString.scanWords n s) :
    word.length ≤ s.length := by
  induction n generalizing s with
  | zero => cases hword
  | succ n ih =>
    unfold CString.scanWords at hword
    cases hscan : CString.scanWord s with
    | none => simp [hscan] at hword
    | some pair =>
      obtain ⟨first, rest⟩ := pair
      have hlength := length_of_scanWord hscan
      simp only [hscan, List.mem_cons] at hword
      rcases hword with rfl | hrest
      · omega
      · have hle := ih hrest
        omega

/-- Two words of a text are separated by space. -/
theorem length_of_scanWords_pair {first second : CString}
    (hscan : CString.scanWords 2 s = [first, second]) : first.length + 1 + second.length ≤ s.length := by
  unfold CString.scanWords at hscan
  cases hfirst : CString.scanWord s with
  | none => simp [hfirst] at hscan
  | some pair =>
    obtain ⟨word, rest⟩ := pair
    simp only [hfirst, List.cons.injEq] at hscan
    obtain ⟨rfl, hrest⟩ := hscan
    unfold CString.scanWords at hrest
    cases hsecond : CString.scanWord rest with
    | none => simp [hsecond] at hrest
    | some pair =>
      obtain ⟨word', rest'⟩ := pair
      simp only [hsecond, List.cons.injEq] at hrest
      obtain ⟨rfl, -⟩ := hrest
      obtain ⟨hs, hword', -⟩ := scanWord_spec hsecond
      have hends := (scanWord_spec hfirst).2.2
      have hlength := length_of_scanWord hfirst
      cases rest with
      | nil => simp [CString.scanWord] at hsecond
      | cons c tail =>
        rw [List.dropWhile_cons_of_pos (hends c rfl)] at hs
        have htail := congrArg List.length hs
        have hdrop := List.length_dropWhile_le CString.isspace tail
        simp only [List.length_append, List.length_cons] at htail hlength
        omega

end Split

section Cut

theorem cut_eq_none {c : Char} : CString.cut c s = none ↔ c ∉ s := by
  simp [CString.cut]

theorem cut_cons (c : Char) (s : CString) : CString.cut c (c :: s) = some ([], s) := by
  simp [CString.cut]

theorem eq_append_of_cut {c : Char} {parts : CString × CString} (hcut : s.cut c = some parts) :
    s = parts.1 ++ c :: parts.2 := by
  unfold CString.cut at hcut
  split at hcut
  · next hmem =>
    cases hcut
    have hdrop : s.dropWhile (· ≠ c) ≠ [] := by
      intro hnil
      have hall := List.dropWhile_eq_nil_iff.1 hnil c hmem
      simp at hall
    cases hrest : s.dropWhile (· ≠ c) with
    | nil => exact absurd hrest hdrop
    | cons d tail =>
      have hhead := List.head?_dropWhile_not (fun d ↦ decide (d ≠ c)) s
      rw [hrest] at hhead
      have hd : d = c := by simpa using hhead
      calc s = s.takeWhile (· ≠ c) ++ s.dropWhile (· ≠ c) :=
            (List.takeWhile_append_dropWhile).symm
        _ = s.takeWhile (· ≠ c) ++ c :: tail := by rw [hrest, hd]
  · cases hcut

/-- A text without the character goes to the first part. -/
theorem cut_append_left {c : Char} (hc : c ∉ s) (t : CString) :
    CString.cut c (s ++ t) = (CString.cut c t).map fun parts ↦ (s ++ parts.1, parts.2) := by
  have hall : ∀ d ∈ s, decide (d ≠ c) = true := by
    intro d hd
    simp only [ne_eq, decide_not, Bool.not_eq_eq_eq_not, Bool.not_true, decide_eq_false_iff_not]
    rintro rfl
    exact hc hd
  unfold CString.cut
  by_cases hmem : c ∈ t
  · rw [if_pos hmem, if_pos (List.mem_append_right s hmem), List.takeWhile_append_of_pos hall,
      List.dropWhile_append_of_pos hall]
    rfl
  · rw [if_neg hmem, if_neg (by simp [hmem, hc])]
    rfl

theorem cut_append {c : Char} (hc : c ∉ s) : CString.cut c (s ++ c :: t) = some (s, t) := by
  rw [cut_append_left hc, cut_cons, Option.map_some, List.append_nil]

/-- A word has no space that it could be cut at. -/
theorem IsWord.cut (hword : IsWord s) : CString.cut ' ' (s ++ rest) =
    (CString.cut ' ' rest).map fun parts ↦ (s ++ parts.1, parts.2) := by
  apply cut_append_left
  intro hmem
  have hspace := hword.2 ' ' hmem
  exact absurd hspace (by decide)

theorem cut_pair (hs : IsWord s) : CString.cut ' ' (s ++ ' ' :: t) = some (s, t) := by
  rw [hs.cut, cut_cons, Option.map_some, List.append_nil]

theorem cut_fst_eq_nil {parts : CString × CString} (hcut : rest.cut ' ' = some parts) :
    parts.1 = [] ↔ rest.head? = some ' ' := by
  cases rest with
  | nil => cases hcut
  | cons c rest =>
    by_cases hc : c = ' '
    · rw [hc, cut_cons] at hcut
      cases hcut
      simp [hc]
    · have hrest := eq_append_of_cut hcut
      constructor
      · intro hnil
        rw [hnil] at hrest
        cases hrest
        exact absurd rfl hc
      · intro hhead
        cases hhead
        exact absurd rfl hc

end Cut

end CoreEngine.Smsd
