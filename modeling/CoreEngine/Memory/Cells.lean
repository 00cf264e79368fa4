import Mathlib.Data.List.TakeWhile
import Mathlib.Data.Nat.Notation
import Mathlib.Logic.Function.Basic

/-!
# Character arrays

Arrays of characters with a fixed capacity, read and written through an index that need not be in
range. An access out of range has no result. The loops of C code over such arrays are total: a loop
that moves in one direction leaves the array after at most `capacity + 1` steps, which is the number of
rounds it is given.
-/

namespace CoreEngine.Memory

/-- An array of characters. -/
abbrev Cells (capacity : ℕ) := Fin capacity → Char

/-- The character that ends a string. -/
def nul : Char := Char.ofNat 0

variable {n m : ℕ}

namespace Cells

def load (a : Cells n) (i : Int) : Option Char :=
  if h : 0 ≤ i ∧ i.toNat < n then some (a ⟨i.toNat, h.2⟩) else none

def store (a : Cells n) (i : Int) (c : Char) : Option (Cells n) :=
  if h : 0 ≤ i ∧ i.toNat < n then some (Function.update a ⟨i.toNat, h.2⟩ c) else none

/-- `while (*p && pred(*p)) p++`. -/
def skip (a : Cells n) (pred : Char → Bool) : ℕ → Int → Option Int
  | 0, _ => none
  | rounds + 1, p => do
      let c ← a.load p
      if c ≠ nul ∧ pred c = true then a.skip pred rounds (p + 1) else some p

/-- `while (*p && pred(*p)) *q++ = f(*p++)`, with the last values of `p` and `q`. -/
def copy (src : Cells n) (pred : Char → Bool) (f : Char → Char) :
    ℕ → Int → Int → Cells m → Option (Int × Int × Cells m)
  | 0, _, _, _ => none
  | rounds + 1, p, q, dst => do
      let c ← src.load p
      if c ≠ nul ∧ pred c = true then do
        let dst ← dst.store q (f c)
        src.copy pred f rounds (p + 1) (q + 1) dst
      else some (p, q, dst)

/-- `for (; *p; p++) if (pred(*p)) *p = f(*p)`. -/
def rewrite (pred : Char → Bool) (f : Char → Char) : ℕ → Int → Cells n → Option (Cells n)
  | 0, _, _ => none
  | rounds + 1, p, a => do
      let c ← a.load p
      if c ≠ nul then
        (if pred c = true then a.store p (f c) else some a).bind (rewrite pred f rounds (p + 1))
      else some a

/-- `while (test(p) && *p && pred(*p)) *p-- = '\0'`. -/
def trim (test : Int → Bool) (pred : Char → Bool) : ℕ → Int → Cells n → Option (Cells n)
  | 0, _, _ => none
  | rounds + 1, p, a =>
      if test p = true then do
        let c ← a.load p
        if c ≠ nul ∧ pred c = true then do
          let a ← a.store p nul
          trim test pred rounds (p - 1) a
        else some a
      else some a

/-- `strcpy(dst + q, src + p)`. -/
def strcpy (dst : Cells m) (q : Int) (src : Cells n) (p : Int) : Option (Cells m) := do
  let (_, q, dst) ← src.copy (fun _ ↦ true) id (n + 1) p q dst
  dst.store q nul

/-- `strlen(a)`. -/
def strlen (a : Cells n) : Option Int := a.skip (fun _ ↦ true) (n + 1) 0

/-- The string from an index on. -/
def text (a : Cells n) : ℕ → Int → Option (List Char)
  | 0, _ => none
  | rounds + 1, p => do
      let c ← a.load p
      if c ≠ nul then (a.text rounds (p + 1)).map (c :: ·) else some []

section Access

variable {a a' : Cells n} {i j : Int} {c : Char}

theorem load_eq_none (hi : i < 0) : a.load i = none := by
  unfold load
  rw [dif_neg (by omega)]

theorem lt_of_load (hload : a.load i = some c) : 0 ≤ i ∧ i < n := by
  unfold load at hload
  split at hload
  · omega
  · cases hload

theorem load_store (hstore : a.store i c = some a') (j : Int) :
    a'.load j = if j = i then some c else a.load j := by
  unfold store at hstore
  split at hstore
  case isTrue hi =>
    cases hstore
    unfold load
    by_cases hj : 0 ≤ j ∧ j.toNat < n
    · rw [dif_pos hj, dif_pos hj]
      by_cases hij : j = i
      · subst hij
        simp
      · have hne : (⟨j.toNat, hj.2⟩ : Fin n) ≠ ⟨i.toNat, hi.2⟩ := by
          intro heq
          have hval := congrArg Fin.val heq
          simp only at hval
          omega
        rw [Function.update_of_ne hne, if_neg hij]
    · have hij : j ≠ i := by
        rintro rfl
        exact hj hi
      rw [dif_neg hj, dif_neg hj, if_neg hij]
  case isFalse => cases hstore

theorem exists_store (a : Cells n) (c : Char) (hi : 0 ≤ i) (hin : i < n) :
    ∃ a', a.store i c = some a' := by
  unfold store
  rw [dif_pos ⟨hi, by omega⟩]
  exact ⟨_, rfl⟩

theorem exists_store_of_load {d : Char} (hload : a.load i = some d) (c : Char) :
    ∃ a', a.store i c = some a' :=
  exists_store a c (lt_of_load hload).1 (lt_of_load hload).2

end Access

/-- From the given index on, the array holds a string and its terminator. -/
def Holds (a : Cells n) : Int → List Char → Prop
  | p, [] => a.load p = some nul
  | p, c :: s => a.load p = some c ∧ c ≠ nul ∧ a.Holds (p + 1) s

section Holds

variable {a a' b : Cells n} {p q : Int} {s t : List Char} {c : Char}

theorem Holds.le (hholds : a.Holds p s) : 0 ≤ p ∧ p + s.length < n := by
  induction s generalizing p with
  | nil =>
    have hbounds := lt_of_load hholds
    simpa using hbounds
  | cons c s ih =>
    have hfirst := lt_of_load hholds.1
    have hrest := ih hholds.2.2
    rw [List.length_cons]
    omega

/-- A string stays where nothing is written. -/
theorem Holds.of_load_eq (hholds : a.Holds p s) (hload : ∀ j, p ≤ j → b.load j = a.load j) :
    b.Holds p s := by
  induction s generalizing p with
  | nil => exact (hload p (by omega)).trans hholds
  | cons c s ih =>
    refine ⟨(hload p (by omega)).trans hholds.1, hholds.2.1, ih hholds.2.2 fun j hj ↦ ?_⟩
    exact hload j (by omega)

/-- The part of a string from the end of its first part on. -/
theorem Holds.drop (hholds : a.Holds p (s ++ t)) : a.Holds (p + s.length) t := by
  induction s generalizing p with
  | nil => simpa using hholds
  | cons c s ih =>
    have hrest := ih hholds.2.2
    have hindex : p + (c :: s).length = p + 1 + s.length := by
      rw [List.length_cons]
      omega
    rw [hindex]
    exact hrest

theorem Holds.ne_nul (hholds : a.Holds p s) (hc : c ∈ s) : c ≠ nul := by
  induction s generalizing p with
  | nil => cases hc
  | cons d s ih =>
    rcases List.mem_cons.1 hc with rfl | hc
    · exact hholds.2.1
    · exact ih hholds.2.2 hc

/-- A terminator cuts a string. -/
theorem Holds.store_nul (hholds : a.Holds p (s ++ t)) (hstore : a.store (p + s.length) nul = some a') :
    a'.Holds p s := by
  induction s generalizing p with
  | nil =>
    have hload := load_store hstore p
    simpa [Holds] using hload
  | cons c s ih =>
    have hindex : p + (c :: s).length = p + 1 + s.length := by
      rw [List.length_cons]
      omega
    rw [hindex] at hstore
    refine ⟨?_, hholds.2.1, ih hholds.2.2 hstore⟩
    rw [load_store hstore p, if_neg (by omega)]
    exact hholds.1

/-- What is written behind a string does not change it. -/
theorem Holds.store_behind {i : Int} (hholds : a.Holds p s) (hstore : a.store i c = some a')
    (hi : p + s.length < i) : a'.Holds p s := by
  induction s generalizing p with
  | nil =>
    rw [List.length_nil] at hi
    show a'.load p = some nul
    rw [load_store hstore p, if_neg (by omega)]
    exact hholds
  | cons d s ih =>
    rw [List.length_cons] at hi
    refine ⟨?_, hholds.2.1, ih hholds.2.2 (by omega)⟩
    rw [load_store hstore p, if_neg (by omega)]
    exact hholds.1

theorem Holds.dropWhile (hholds : a.Holds p s) (pred : Char → Bool) :
    a.Holds (p + (s.takeWhile pred).length) (s.dropWhile pred) := by
  apply Holds.drop
  rw [List.takeWhile_append_dropWhile]
  exact hholds

end Holds

/-- The array that holds a string from its beginning, and terminators after it. -/
def ofString (s : List Char) : Cells n := fun i ↦ s.getD i nul

theorem load_ofString (s : List Char) {i : ℕ} (hi : i < n) :
    (ofString s : Cells n).load i = some (s.getD i nul) := by
  unfold load
  rw [dif_pos ⟨by omega, by simpa using hi⟩]
  simp [ofString]

theorem holds_ofString {s : List Char} (hroom : s.length < n) (hnul : ∀ c ∈ s, c ≠ nul) :
    (ofString s : Cells n).Holds 0 s := by
  have hsuffix (t rest : List Char) (hsplit : s = t ++ rest) : (ofString s : Cells n).Holds t.length rest := by
    induction rest generalizing t with
    | nil =>
      have hend : t.length = s.length := by rw [hsplit, List.append_nil]
      show (ofString s : Cells n).load t.length = some nul
      rw [load_ofString s (by omega), hend]
      simp
    | cons c rest ih =>
      have hlength : t.length < s.length := by
        rw [hsplit, List.length_append, List.length_cons]
        omega
      refine ⟨?_, hnul c (by simp [hsplit]), ?_⟩
      · rw [load_ofString s (by omega)]
        simp [hsplit]
      · have hnext := ih (t ++ [c]) (by simp [hsplit])
        rw [List.length_append, List.length_singleton] at hnext
        exact hnext
  exact hsuffix [] s rfl

/-- From the given index on, the array holds the given characters. -/
def Starts (a : Cells n) : Int → List Char → Prop
  | _, [] => True
  | p, c :: s => a.load p = some c ∧ a.Starts (p + 1) s

/-- Characters and a terminator make a string. -/
theorem Starts.store_nul {a a' : Cells n} {p : Int} {s : List Char} (hstarts : a.Starts p s)
    (hnul : ∀ c ∈ s, c ≠ nul) (hstore : a.store (p + s.length) nul = some a') : a'.Holds p s := by
  induction s generalizing p with
  | nil =>
    have hload := load_store hstore p
    simpa [Holds] using hload
  | cons c s ih =>
    have hindex : p + (c :: s).length = p + 1 + s.length := by
      rw [List.length_cons]
      omega
    rw [hindex] at hstore
    refine ⟨?_, hnul c (by simp), ih hstarts.2 (fun d hd ↦ hnul d (by simp [hd])) hstore⟩
    rw [load_store hstore p, if_neg (by omega)]
    exact hstarts.1

section Starts

variable {a a' : Cells n} {p : Int} {s t : List Char} {c : Char}

theorem Holds.starts (hholds : a.Holds p (s ++ t)) : a.Starts p s := by
  induction s generalizing p with
  | nil => trivial
  | cons c s ih => exact ⟨hholds.1, ih hholds.2.2⟩

theorem Starts.append (hs : a.Starts p s) (ht : a.Starts (p + s.length) t) : a.Starts p (s ++ t) := by
  induction s generalizing p with
  | nil => simpa using ht
  | cons c s ih =>
    have hindex : p + (c :: s).length = p + 1 + s.length := by
      rw [List.length_cons]
      omega
    rw [hindex] at ht
    exact ⟨hs.1, ih hs.2 ht⟩

/-- Characters before a string belong to it. -/
theorem Starts.holds_append (hs : a.Starts p s) (hnul : ∀ c ∈ s, c ≠ nul) (ht : a.Holds (p + s.length) t) :
    a.Holds p (s ++ t) := by
  induction s generalizing p with
  | nil => simpa using ht
  | cons c s ih =>
    have hindex : p + (c :: s).length = p + 1 + s.length := by
      rw [List.length_cons]
      omega
    rw [hindex] at ht
    exact ⟨hs.1, hnul c (by simp), ih hs.2 (fun d hd ↦ hnul d (by simp [hd])) ht⟩

/-- A string stays where it is when something is written before it. -/
theorem Holds.store_before {i : Int} (hholds : a.Holds p s) (hstore : a.store i c = some a') (hi : i < p) :
    a'.Holds p s := by
  apply hholds.of_load_eq
  intro j hj
  rw [load_store hstore j, if_neg (by omega)]

end Starts

section Loops

variable {a : Cells n} {p q : Int} {s : List Char} {pred : Char → Bool} {f : Char → Char} {rounds : ℕ}

theorem skip_eq (hholds : a.Holds p s) (hrounds : s.length < rounds) :
    a.skip pred rounds p = some (p + (s.takeWhile pred).length) := by
  induction s generalizing p rounds with
  | nil =>
    obtain ⟨rounds, rfl⟩ : ∃ k, rounds = k + 1 := ⟨rounds - 1, by omega⟩
    have hload : a.load p = some nul := hholds
    simp [skip, hload]
  | cons c s ih =>
    obtain ⟨rounds, rfl⟩ : ∃ k, rounds = k + 1 := ⟨rounds - 1, by omega⟩
    obtain ⟨hload, hc, hrest⟩ := hholds
    rw [List.length_cons] at hrounds
    by_cases hpred : pred c = true
    · have hskip := ih hrest (by omega : s.length < rounds)
      simp only [skip, hload, Option.bind_eq_bind, Option.bind_some, hskip, List.takeWhile_cons_of_pos hpred,
        List.length_cons]
      rw [if_pos ⟨hc, hpred⟩]
      congr 1
      omega
    · simp [skip, hload, hpred]

/-- What is copied is the longest part of the string that satisfies the test. -/
theorem exists_copy (hholds : a.Holds p s) (hq : 0 ≤ q)
    (hroom : q + (s.takeWhile pred).length ≤ m) (hrounds : s.length < rounds) (dst : Cells m) :
    ∃ dst' : Cells m, a.copy pred f rounds p q dst =
        some (p + (s.takeWhile pred).length, q + (s.takeWhile pred).length, dst') ∧
      (∀ j < q, dst'.load j = dst.load j) ∧ dst'.Starts q ((s.takeWhile pred).map f) := by
  induction s generalizing p q rounds dst with
  | nil =>
    obtain ⟨rounds, rfl⟩ : ∃ k, rounds = k + 1 := ⟨rounds - 1, by omega⟩
    have hload : a.load p = some nul := hholds
    exact ⟨dst, by simp [copy, hload], fun _ _ ↦ rfl, trivial⟩
  | cons c s ih =>
    obtain ⟨rounds, rfl⟩ : ∃ k, rounds = k + 1 := ⟨rounds - 1, by omega⟩
    obtain ⟨hload, hc, hrest⟩ := hholds
    rw [List.length_cons] at hrounds
    by_cases hpred : pred c = true
    · rw [List.takeWhile_cons_of_pos hpred, List.length_cons] at hroom
      obtain ⟨dst₁, hstore⟩ := exists_store dst (f c) hq (by omega)
      obtain ⟨dst', hcopy, hframe, hstarts⟩ := ih hrest (by omega : 0 ≤ q + 1) (by omega)
        (by omega : s.length < rounds) dst₁
      refine ⟨dst', ?_, ?_, ?_⟩
      · simp only [copy, hload, Option.bind_eq_bind, Option.bind_some, List.takeWhile_cons_of_pos hpred,
          List.length_cons]
        have hp : p + 1 + (s.takeWhile pred).length = p + ((s.takeWhile pred).length + 1 : ℕ) := by omega
        have hq : q + 1 + (s.takeWhile pred).length = q + ((s.takeWhile pred).length + 1 : ℕ) := by omega
        rw [if_pos ⟨hc, hpred⟩, hstore, Option.bind_some, hcopy, hp, hq]
      · intro j hj
        rw [hframe j (by omega), load_store hstore j, if_neg (by omega)]
      · rw [List.takeWhile_cons_of_pos hpred]
        refine ⟨?_, hstarts⟩
        rw [hframe q (by omega), load_store hstore q, if_pos rfl]
    · refine ⟨dst, ?_, fun _ _ ↦ rfl, ?_⟩
      · simp [copy, hload, hpred]
      · rw [List.takeWhile_cons_of_neg hpred]
        trivial

/-- The same into the beginning of an array, with a terminator. -/
theorem exists_copy_store (hholds : a.Holds p s) (hroom : (s.takeWhile pred).length < m)
    (hf : ∀ c, c ≠ nul → f c ≠ nul) (dst : Cells m) :
    ∃ dst₁ dst' : Cells m, a.copy pred f (n + 1) p 0 dst =
        some (p + (s.takeWhile pred).length, ((s.takeWhile pred).length : Int), dst₁) ∧
      dst₁.store (s.takeWhile pred).length nul = some dst' ∧ dst'.Holds 0 ((s.takeWhile pred).map f) := by
  have hbounds := hholds.le
  have hlength : (0 : Int) + (s.takeWhile pred).length ≤ m := by omega
  obtain ⟨dst₁, hcopy, -, hstarts⟩ := exists_copy (f := f) hholds (Int.le_refl 0) hlength
    (by omega : s.length < n + 1) dst
  rw [Int.zero_add] at hcopy
  obtain ⟨dst', hstore⟩ := exists_store dst₁ nul (by omega) (Int.ofNat_lt.2 hroom)
  refine ⟨dst₁, dst', hcopy, hstore, hstarts.store_nul ?_ ?_⟩
  · intro d hd
    obtain ⟨c, hc, rfl⟩ := List.mem_map.1 hd
    exact hf c (hholds.ne_nul (List.takeWhile_prefix pred |>.subset hc))
  · rw [List.length_map, Int.zero_add]
    exact hstore

theorem exists_strcpy (hholds : a.Holds p s) (hroom : s.length < m) (dst : Cells m) :
    ∃ dst', dst.strcpy 0 a p = some dst' ∧ dst'.Holds 0 s := by
  have hall : s.takeWhile (fun _ ↦ true) = s := List.takeWhile_eq_self_iff.2 fun _ _ ↦ rfl
  have hlength : (s.takeWhile fun _ ↦ true).length < m := by rwa [hall]
  obtain ⟨dst₁, dst', hcopy, hstore, hresult⟩ := exists_copy_store (f := id) hholds hlength (fun _ hc ↦ hc) dst
  rw [hall] at hcopy hstore hresult
  refine ⟨dst', ?_, by simpa using hresult⟩
  simp [strcpy, hcopy, hstore]

theorem text_eq (hholds : a.Holds p s) (hrounds : s.length < rounds) : a.text rounds p = some s := by
  induction s generalizing p rounds with
  | nil =>
    obtain ⟨rounds, rfl⟩ : ∃ k, rounds = k + 1 := ⟨rounds - 1, by omega⟩
    have hload : a.load p = some nul := hholds
    simp [text, hload]
  | cons c s ih =>
    obtain ⟨rounds, rfl⟩ : ∃ k, rounds = k + 1 := ⟨rounds - 1, by omega⟩
    obtain ⟨hload, hc, hrest⟩ := hholds
    rw [List.length_cons] at hrounds
    simp [text, hload, hc, ih hrest (by omega : s.length < rounds)]

theorem strlen_eq (hholds : a.Holds 0 s) : a.strlen = some (s.length : Int) := by
  have hbounds := hholds.le
  have hall : s.takeWhile (fun _ ↦ true) = s := List.takeWhile_eq_self_iff.2 fun _ _ ↦ rfl
  unfold strlen
  rw [skip_eq hholds (by omega), hall, Int.zero_add]

theorem exists_rewrite (hholds : a.Holds p s) (hf : ∀ c, c ≠ nul → f c ≠ nul)
    (hfixed : ∀ c, pred c = false → f c = c) (hrounds : s.length < rounds) :
    ∃ a', rewrite pred f rounds p a = some a' ∧ (∀ j < p, a'.load j = a.load j) ∧
      a'.Holds p (s.map f) := by
  induction s generalizing a p rounds with
  | nil =>
    obtain ⟨rounds, rfl⟩ : ∃ k, rounds = k + 1 := ⟨rounds - 1, by omega⟩
    have hload : a.load p = some nul := hholds
    exact ⟨a, by simp [rewrite, hload], fun _ _ ↦ rfl, hholds⟩
  | cons c s ih =>
    obtain ⟨rounds, rfl⟩ : ∃ k, rounds = k + 1 := ⟨rounds - 1, by omega⟩
    obtain ⟨hload, hc, hrest⟩ := hholds
    rw [List.length_cons] at hrounds
    -- whether the character is written or not, the array holds its image afterwards
    have hround : ∃ a₁, (if pred c = true then a.store p (f c) else some a) = some a₁ ∧
        ∀ j, a₁.load j = if j = p then some (f c) else a.load j := by
      by_cases hpred : pred c = true
      · obtain ⟨a₁, hstore⟩ := exists_store_of_load hload (f c)
        exact ⟨a₁, by rw [if_pos hpred, hstore], load_store hstore⟩
      · refine ⟨a, if_neg hpred, fun j ↦ ?_⟩
        by_cases hj : j = p
        · rw [if_pos hj, hj, hload, hfixed c (eq_false_of_ne_true hpred)]
        · rw [if_neg hj]
    obtain ⟨a₁, hstore, hload₁⟩ := hround
    have hrest₁ : a₁.Holds (p + 1) s := by
      apply hrest.of_load_eq
      intro j hj
      rw [hload₁ j, if_neg (by omega)]
    obtain ⟨a', hrewrite, hframe, hholds'⟩ := ih hrest₁ (by omega : s.length < rounds)
    refine ⟨a', ?_, ?_, ?_, hf c hc, hholds'⟩
    · simp only [rewrite, hload, Option.bind_eq_bind, Option.bind_some]
      rw [if_pos hc, hstore, Option.bind_some, hrewrite]
    · intro j hj
      rw [hframe j (by omega), hload₁ j, if_neg (by omega)]
    · rw [hframe p (by omega), hload₁ p, if_pos rfl]

section Trim

variable {test : Int → Bool} {r : List Char}

/-- The last character of a string. -/
theorem Holds.load_last {c : Char} (hholds : a.Holds 0 (c :: r).reverse) :
    a.load ((c :: r).length - 1 : Int) = some c ∧ c ≠ nul := by
  rw [List.reverse_cons] at hholds
  have hlast := hholds.drop
  rw [List.length_reverse, Int.zero_add] at hlast
  rw [List.length_cons]
  refine ⟨?_, hlast.2.1⟩
  rw [← hlast.1]
  congr 1
  omega

/-- Trimming a string from its end, if it stops inside the array. -/
theorem exists_trim (hholds : a.Holds 0 r.reverse) (htest : ∀ p, 0 ≤ p → test p = true)
    (hstop : r.dropWhile pred ≠ [] ∨ test (-1) = false) (hrounds : r.length < rounds) :
    ∃ a', trim test pred rounds (r.length - 1) a = some a' ∧ a'.Holds 0 (r.dropWhile pred).reverse := by
  induction r generalizing a rounds with
  | nil =>
    obtain ⟨rounds, rfl⟩ : ∃ k, rounds = k + 1 := ⟨rounds - 1, by omega⟩
    have hend : test (-1) = false := hstop.resolve_left (fun hne ↦ hne rfl)
    exact ⟨a, by simp [trim, hend], hholds⟩
  | cons c r ih =>
    obtain ⟨rounds, rfl⟩ : ∃ k, rounds = k + 1 := ⟨rounds - 1, by omega⟩
    obtain ⟨hload, hc⟩ := hholds.load_last
    have hinside : test ((c :: r).length - 1) = true := by
      apply htest
      rw [List.length_cons]
      omega
    rw [List.length_cons] at hrounds
    by_cases hpred : pred c = true
    · obtain ⟨a₁, hstore⟩ := exists_store_of_load hload nul
      have hshorter : a₁.Holds 0 r.reverse := by
        rw [List.reverse_cons] at hholds
        apply hholds.store_nul
        rw [List.length_reverse, Int.zero_add, ← hstore]
        congr 1
        rw [List.length_cons]
        omega
      rw [List.dropWhile_cons_of_pos hpred] at hstop
      obtain ⟨a', htrim, hresult⟩ := ih hshorter hstop (by omega : r.length < rounds)
      refine ⟨a', ?_, by rwa [List.dropWhile_cons_of_pos hpred]⟩
      have hprev : ((c :: r).length : Int) - 1 - 1 = r.length - 1 := by
        rw [List.length_cons]
        omega
      simp only [trim]
      rw [if_pos hinside, hload]
      simp only [Option.bind_eq_bind, Option.bind_some]
      rw [if_pos ⟨hc, hpred⟩, hstore, Option.bind_some, hprev, htrim]
    · refine ⟨a, ?_, by rwa [List.dropWhile_cons_of_neg hpred]⟩
      simp only [trim]
      rw [if_pos hinside, hload]
      simp [hpred]

/-- Trimming everything leaves the array at its lower end, unless that is tested. -/
theorem trim_eq_none (hholds : a.Holds 0 r.reverse) (htest : ∀ p, test p = true)
    (hall : r.dropWhile pred = []) : trim test pred rounds (r.length - 1) a = none := by
  induction r generalizing a rounds with
  | nil =>
    cases rounds with
    | zero => rfl
    | succ rounds =>
      have hload : a.load (([] : List Char).length - 1) = none := load_eq_none (by simp)
      simp only [trim]
      rw [if_pos (htest _), hload]
      rfl
  | cons c r ih =>
    cases rounds with
    | zero => rfl
    | succ rounds =>
      obtain ⟨hload, hc⟩ := hholds.load_last
      have hpred : pred c = true := by
        by_contra hnot
        rw [List.dropWhile_cons_of_neg hnot] at hall
        cases hall
      obtain ⟨a₁, hstore⟩ := exists_store_of_load hload nul
      have hshorter : a₁.Holds 0 r.reverse := by
        rw [List.reverse_cons] at hholds
        apply hholds.store_nul
        rw [List.length_reverse, Int.zero_add, ← hstore]
        congr 1
        rw [List.length_cons]
        omega
      rw [List.dropWhile_cons_of_pos hpred] at hall
      have hprev : ((c :: r).length : Int) - 1 - 1 = r.length - 1 := by
        rw [List.length_cons]
        omega
      simp only [trim]
      rw [if_pos (htest _), hload]
      simp only [Option.bind_eq_bind, Option.bind_some]
      rw [if_pos ⟨hc, hpred⟩, hstore, Option.bind_some, hprev]
      exact ih hshorter hall

end Trim

end Loops

end Cells

end CoreEngine.Memory
