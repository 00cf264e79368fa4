import CoreEngine.Smsd.CString
import Mathlib.Data.List.TakeWhile
import Mathlib.Tactic.NormNum

/-!
# Numerals

`atol` reads a numeral in base 10, `strtol` with base 0 in the base that its first characters ask for.
-/

namespace CoreEngine.Smsd

namespace CString

/-- What a number is at least when it no longer fits into a `long`, with the given sign. -/
def limit (sign : Int) : ℕ := if sign = 1 then 2 ^ 63 - 1 else 2 ^ 63

/-- A number that is read the same in base 10 and in the base that its first characters ask for: it does
not start with a zero, or is zero in hexadecimal, or is below eight, or exceeds a `long` even in
octal. -/
def Unambiguous (s : CString) : Prop :=
  let (sign, s) := scanSign (s.dropWhile isspace)
  match scanBase s with
  | (10, _) => True
  | (16, s) => ofDigits 16 (digits 16 s) = 0
  | (_, s) => ofDigits 10 (digits 10 s) < 8 ∨ limit sign ≤ ofDigits 8 (digits 8 s)

variable {base base' a b : ℕ} {s : CString}

/-- Reading on in a numeral after the digits of `n`. -/
def readOn (base : ℕ) (n : ℕ) (s : CString) : ℕ := s.foldl (fun n c ↦ n * base + digitValue c) n

theorem le_readOn (hbase : 0 < base) : a ≤ readOn base a s := by
  induction s generalizing a with
  | nil => exact Nat.le_refl a
  | cons c s ih =>
    calc a ≤ a * base := Nat.le_mul_of_pos_right a hbase
      _ ≤ a * base + digitValue c := Nat.le_add_right _ _
      _ ≤ readOn base a (c :: s) := ih

/-- Reading on in decimal keeps ahead of reading on in octal. -/
theorem readOn_add_le (hab : a ≤ b) : readOn 8 a (digits 8 s) + (b - a) ≤ readOn 10 b s := by
  induction s generalizing a b with
  | nil =>
    have hsum : a + (b - a) = b := Nat.add_sub_of_le hab
    exact hsum.le
  | cons c s ih =>
    have hgrows : b ≤ readOn 10 b (c :: s) := le_readOn (by decide)
    by_cases hc : digitValue c < 8
    · have hoctal : readOn 8 a (digits 8 (c :: s)) = readOn 8 (a * 8 + digitValue c) (digits 8 s) := by
        simp [digits, hc, readOn]
      have hnext : readOn 8 (a * 8 + digitValue c) (digits 8 s) +
          (b * 10 + digitValue c - (a * 8 + digitValue c)) ≤ readOn 10 b (c :: s) := ih (by omega)
      omega
    · have hoctal : readOn 8 a (digits 8 (c :: s)) = a := by
        simp [digits, hc, readOn]
      omega

/-- Both bases agree on a numeral below eight only. -/
theorem readOn_eq_iff (ha : a < 8) : readOn 8 a (digits 8 s) = readOn 10 a s ↔ readOn 10 a s < 8 := by
  induction s generalizing a with
  | nil => simp [readOn, digits, ha]
  | cons c s ih =>
    have hgrows : a * 10 + digitValue c ≤ readOn 10 a (c :: s) := le_readOn (by decide)
    by_cases hc : digitValue c < 8
    · have hoctal : readOn 8 a (digits 8 (c :: s)) = readOn 8 (a * 8 + digitValue c) (digits 8 s) := by
        simp [digits, hc, readOn]
      rw [hoctal]
      by_cases hzero : a = 0
      · subst hzero
        simpa [readOn] using ih (a := digitValue c) hc
      · have hahead : readOn 8 (a * 8 + digitValue c) (digits 8 s) +
            (a * 10 + digitValue c - (a * 8 + digitValue c)) ≤ readOn 10 a (c :: s) :=
          readOn_add_le (by omega)
        omega
    · have hoctal : readOn 8 a (digits 8 (c :: s)) = a := by
        simp [digits, hc, readOn]
      omega

theorem digits_digits (s : CString) : digits 8 (digits 10 s) = digits 8 s := by
  unfold digits
  rw [List.takeWhile_takeWhile]
  congr 1
  funext c
  simp
  omega

theorem clampLong_eq_iff {o d : ℕ} (hle : o ≤ d) {sign : Int} (hsign : sign = 1 ∨ sign = -1) :
    clampLong (sign * o) = clampLong (sign * d) ↔ o = d ∨ limit sign ≤ o := by
  unfold clampLong limit
  rcases hsign with rfl | rfl
  · norm_num
    omega
  · norm_num
    omega

theorem clampLong_eq_zero_iff {n : ℕ} {sign : Int} (hsign : sign = 1 ∨ sign = -1) :
    clampLong (sign * n) = clampLong (sign * 0) ↔ n = 0 := by
  unfold clampLong
  rcases hsign with rfl | rfl
  · norm_num
    omega
  · norm_num
    omega

theorem scanSign_fst (s : CString) : (scanSign s).1 = 1 ∨ (scanSign s).1 = -1 := by
  unfold scanSign
  split
  · exact Or.inr rfl
  · exact Or.inl rfl
  · exact Or.inl rfl

/-- An octal numeral read in base 8 and in base 10. -/
theorem octal_eq_iff {sign : Int} (hsign : sign = 1 ∨ sign = -1) (s : CString) :
    clampLong (sign * ofDigits 8 (digits 8 s)) = clampLong (sign * ofDigits 10 (digits 10 s)) ↔
      ofDigits 10 (digits 10 s) < 8 ∨ limit sign ≤ ofDigits 8 (digits 8 s) := by
  have hle : ofDigits 8 (digits 8 s) ≤ ofDigits 10 (digits 10 s) := by
    rw [← digits_digits]
    exact readOn_add_le (Nat.le_refl 0)
  have heq : ofDigits 8 (digits 8 s) = ofDigits 10 (digits 10 s) ↔ ofDigits 10 (digits 10 s) < 8 := by
    rw [← digits_digits]
    exact readOn_eq_iff (by decide)
  rw [clampLong_eq_iff hle hsign, heq]

/-- A hexadecimal numeral stops at its `x` when it is read in base 10. -/
theorem ofDigits_zero_cons {c : Char} (hc : 10 ≤ digitValue c) (s : CString) :
    ofDigits 10 (digits 10 ('0' :: c :: s)) = 0 := by
  have hzero : digitValue '0' = 0 := by decide
  have hstop : ¬digitValue c < 10 := by omega
  simp [digits, ofDigits, hzero, hstop]

/-- The three kinds of numerals. -/
theorem scanBase_cases (s : CString) :
    (∃ x hex, 10 ≤ digitValue x ∧ s = '0' :: x :: hex ∧ scanBase s = (16, hex)) ∨
      scanBase s = (8, s) ∨ scanBase s = (10, s) := by
  fun_cases scanBase s with
  | case1 c s hc => exact Or.inl ⟨'x', c :: s, by decide, rfl, rfl⟩
  | case2 c s hc => exact Or.inr (Or.inl rfl)
  | case3 c s hc => exact Or.inl ⟨'X', c :: s, by decide, rfl, rfl⟩
  | case4 c s hc => exact Or.inr (Or.inl rfl)
  | case5 s _ _ => exact Or.inr (Or.inl rfl)
  | case6 s _ _ _ => exact Or.inr (Or.inr rfl)

theorem strtol_eq_atol_iff (s : CString) : strtol s = atol s ↔ Unambiguous s := by
  unfold strtol atol Unambiguous
  have hsign := scanSign_fst (s.dropWhile isspace)
  generalize scanSign (s.dropWhile isspace) = number at hsign ⊢
  obtain ⟨sign, s⟩ := number
  rcases scanBase_cases s with ⟨x, hex, hx, rfl, hbase⟩ | hbase | hbase
  · simp only [hbase]
    rw [ofDigits_zero_cons hx]
    exact clampLong_eq_zero_iff hsign
  · simp only [hbase]
    exact octal_eq_iff hsign s
  · simp only [hbase]

/-- An `int` holds the number. -/
def FitsInt (n : Int) : Prop := -2 ^ 31 ≤ n ∧ n < 2 ^ 31

instance (n : Int) : Decidable (FitsInt n) := inferInstanceAs (Decidable (_ ∧ _))

theorem int32_eq_self_iff (n : Int) : int32 n = n ↔ FitsInt n := by
  unfold int32 FitsInt
  rw [Int.bmod_eq_iff (by decide)]
  constructor
  · intro h
    omega
  · intro h
    exact ⟨by omega, by omega, by simp⟩

/-- What `%d` stores of a number that no `int` holds. -/
example : (scanInt "9999999999".toList).map Prod.fst = some 1410065407 := by decide +kernel

/-- A numeral with so many digits. -/
theorem readOn_lt {base : ℕ} (n : ℕ) {s : CString} (hs : ∀ c ∈ s, digitValue c < base) :
    readOn base n s < (n + 1) * base ^ s.length := by
  induction s generalizing n with
  | nil => simp [readOn]
  | cons c s ih =>
    have hc : digitValue c < base := hs c List.mem_cons_self
    calc readOn base n (c :: s) = readOn base (n * base + digitValue c) s := rfl
      _ < (n * base + digitValue c + 1) * base ^ s.length := ih _ fun d hd ↦ hs d (List.mem_cons_of_mem c hd)
      _ ≤ (n + 1) * base * base ^ s.length := by
        apply Nat.mul_le_mul_right
        rw [Nat.add_mul, Nat.one_mul]
        omega
      _ = (n + 1) * base ^ (c :: s).length := by
        rw [List.length_cons, Nat.pow_succ', Nat.mul_assoc]

theorem ofDigits_digits_lt (base : ℕ) (s : CString) (hbase : 0 < base) :
    ofDigits base (digits base s) < base ^ s.length := by
  have hdigits : ∀ c ∈ digits base s, digitValue c < base := by
    intro c hc
    simpa using List.mem_takeWhile_imp hc
  calc ofDigits base (digits base s) = readOn base 0 (digits base s) := rfl
    _ < (0 + 1) * base ^ (digits base s).length := readOn_lt 0 hdigits
    _ = base ^ (digits base s).length := by rw [Nat.zero_add, Nat.one_mul]
    _ ≤ base ^ s.length := Nat.pow_le_pow_right hbase (List.takeWhile_sublist _).length_le

theorem length_scanSign_le (s : CString) : (scanSign s).2.length ≤ s.length := by
  unfold scanSign
  split <;> simp

theorem natAbs_scanSign (s : CString) : (scanSign s).1.natAbs = 1 :=
  Int.natAbs_eq_iff.2 (scanSign_fst s)

theorem natAbs_clampLong_le (n : Int) : (clampLong n).natAbs ≤ n.natAbs := by
  unfold clampLong
  omega

/-- The size of a number that is read from a string. -/
theorem natAbs_atol_lt (s : CString) : (atol s).natAbs < 10 ^ s.length := by
  calc (atol s).natAbs
      ≤ ((scanSign (s.dropWhile isspace)).1 *
          ofDigits 10 (digits 10 (scanSign (s.dropWhile isspace)).2)).natAbs := natAbs_clampLong_le _
    _ = ofDigits 10 (digits 10 (scanSign (s.dropWhile isspace)).2) := by
      rw [Int.natAbs_mul, natAbs_scanSign, Nat.one_mul, Int.natAbs_natCast]
    _ < 10 ^ (scanSign (s.dropWhile isspace)).2.length := ofDigits_digits_lt 10 _ (by decide)
    _ ≤ 10 ^ s.length := by
      apply Nat.pow_le_pow_right (by decide)
      exact (length_scanSign_le _).trans (List.dropWhile_suffix _).length_le

section Printed

variable {c d : Char}

theorem toNat_of_isDigit (hc : c.isDigit = true) : 48 ≤ c.toNat ∧ c.toNat ≤ 57 := by
  simpa [Char.isDigit_iff_toNat] using hc

theorem ne_of_isDigit (hc : c.isDigit = true) (hd : d.toNat < 48) : c ≠ d := by
  rintro rfl
  have hrange := toNat_of_isDigit hc
  omega

theorem digitValue_of_isDigit (hc : c.isDigit = true) : digitValue c = c.toNat - '0'.toNat :=
  if_pos hc

theorem digitValue_lt_ten (hc : c.isDigit = true) : digitValue c < 10 := by
  have hrange := toNat_of_isDigit hc
  have hzero : '0'.toNat = 48 := rfl
  rw [digitValue_of_isDigit hc]
  omega

theorem isspace_of_isDigit (hc : c.isDigit = true) : isspace c = false := by
  have hne (d : Char) (hd : d.toNat < 48) := ne_of_isDigit hc hd
  simp [isspace, hne ' ' (by decide), hne '\t' (by decide), hne '\n' (by decide), hne '\r' (by decide),
    hne '\u000b' (by decide), hne '\u000c' (by decide)]

theorem isDigit_toDigits (n : ℕ) : ∀ c ∈ Nat.toDigits 10 n, c.isDigit = true :=
  fun _ hc ↦ Nat.isDigit_of_mem_toDigits (by decide) (by decide) hc

/-- The digits that a text starts with. -/
theorem digits_append (hs : ∀ c ∈ s, c.isDigit = true) (rest : CString)
    (hrest : ∀ c ∈ rest.head?, 10 ≤ digitValue c) :
    digits 10 (s ++ rest) = s := by
  unfold digits
  rw [List.takeWhile_append_of_pos fun c hc ↦ decide_eq_true (digitValue_lt_ten (hs c hc))]
  cases rest with
  | nil => rw [List.takeWhile_nil, List.append_nil]
  | cons d rest =>
    have hd : ¬digitValue d < 10 := Nat.not_lt.2 (hrest d rfl)
    rw [List.takeWhile_cons_of_neg (by simpa using hd), List.append_nil]

/-- The sign that a number is printed with. -/
theorem scanSign_append (n : Int) (hne : s ≠ []) (hs : ∀ c ∈ s, c.isDigit = true) (rest : CString) :
    scanSign (((if n < 0 then '-' :: s else s) ++ rest).dropWhile isspace) =
      (if n < 0 then -1 else 1, s ++ rest) := by
  by_cases hn : n < 0
  · rw [if_pos hn, if_pos hn]
    rfl
  · obtain ⟨c, s, rfl⟩ := List.exists_cons_of_ne_nil hne
    have hc : c.isDigit = true := hs c List.mem_cons_self
    rw [if_neg hn, if_neg hn, List.cons_append, List.dropWhile_cons_of_neg (by simp [isspace_of_isDigit hc])]
    unfold scanSign
    split
    · rename_i heq
      exact absurd (List.cons.inj heq).1 (ne_of_isDigit hc (by decide))
    · rename_i heq
      exact absurd (List.cons.inj heq).1 (ne_of_isDigit hc (by decide))
    · rfl

theorem ofDigits_toDigits (n : ℕ) : ofDigits 10 (Nat.toDigits 10 n) = n := by
  have hsame : ∀ (s : CString) (start : ℕ), (∀ c ∈ s, c.isDigit = true) →
      s.foldl (fun n c ↦ n * 10 + digitValue c) start = Nat.ofDigitChars 10 s start := by
    intro s
    induction s with
    | nil => exact fun _ _ ↦ rfl
    | cons c s ih =>
      intro start hs
      obtain ⟨hc, hrest⟩ := List.forall_mem_cons.1 hs
      rw [List.foldl_cons, Nat.ofDigitChars_cons, ih _ hrest, digitValue_of_isDigit hc, Nat.mul_comm]
  calc ofDigits 10 (Nat.toDigits 10 n)
      = Nat.ofDigitChars 10 (Nat.toDigits 10 n) 0 := hsame _ 0 (isDigit_toDigits n)
    _ = n := Nat.ofDigitChars_ten_toDigits

theorem ofDigits_zeros_append (count : ℕ) (s : CString) :
    ofDigits 10 (List.replicate count '0' ++ s) = ofDigits 10 s := by
  induction count with
  | zero => rfl
  | succ count ih =>
    rw [← ih]
    rfl

theorem sign_mul_natAbs (n : Int) : (if n < 0 then -1 else 1) * (n.natAbs : Int) = n := by
  split_ifs <;> omega

/-- A number that is printed with leading zeros is read back. -/
theorem scanNumber_showInt4 (n : Int) {rest : CString} (hrest : ∀ c ∈ rest.head?, 10 ≤ digitValue c) :
    (scanNumber (showInt4 n ++ rest)).map Prod.fst = some n := by
  have hzeros (count : ℕ) : ∀ c ∈ List.replicate count '0' ++ Nat.toDigits 10 n.natAbs, c.isDigit = true := by
    intro c hc
    rcases List.mem_append.1 hc with hc | hc
    · rw [List.eq_of_mem_replicate hc]
      rfl
    · exact isDigit_toDigits _ c hc
  have hshown : ∃ count, showInt4 n = if n < 0 then '-' :: (List.replicate count '0' ++ Nat.toDigits 10 n.natAbs)
      else List.replicate count '0' ++ Nat.toDigits 10 n.natAbs := by
    unfold showInt4
    by_cases hn : n < 0
    · exact ⟨3 - (Nat.toDigits 10 n.natAbs).length, by simp only [if_pos hn]⟩
    · exact ⟨4 - (Nat.toDigits 10 n.natAbs).length, by simp only [if_neg hn]⟩
  obtain ⟨count, hshown⟩ := hshown
  have hne : List.replicate count '0' ++ Nat.toDigits 10 n.natAbs ≠ [] := by
    simp [Nat.toDigits_ne_nil]
  have hvalue := ofDigits_zeros_append count (Nat.toDigits 10 n.natAbs)
  have hdigits := digits_append (hzeros count) rest hrest
  unfold scanNumber
  rw [hshown, scanSign_append n hne (hzeros count) rest]
  simp only [hdigits]
  rw [ofDigits_toDigits] at hvalue
  obtain ⟨c, number, hnumber⟩ := List.exists_cons_of_ne_nil hne
  rw [hnumber] at hvalue ⊢
  simp only [Option.map_some, hvalue, sign_mul_natAbs]

end Printed

end CString
end CoreEngine.Smsd
