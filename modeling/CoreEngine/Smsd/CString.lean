import Mathlib.Algebra.Order.Ring.Nat
import Mathlib.Data.Nat.Notation
import Mathlib.Data.List.Basic

/-!
# C strings

The contents of NUL-terminated strings, up to the terminator, and the library functions of the
daemon that work on them. Characters are bytes in the C locale.
-/

namespace CoreEngine.Smsd

/-- The characters of a C string before its terminating NUL. -/
abbrev CString := List Char

/-- A property of the characters of a string is decided by looking at these, not at all characters. -/
instance (priority := 2000) {p : Char → Prop} [DecidablePred p] (s : CString) : Decidable (∀ c ∈ s, p c) :=
  List.decidableBAll p s

namespace CString

/-- `BUFSIZ` of the C library. -/
def bufsiz : ℕ := 8192

def isspace (c : Char) : Bool := c = ' ' || c = '\t' || c = '\n' || c = '\u000b' || c = '\u000c' || c = '\r'

/-- Spaces and tabs, the blanks the hand-written tokenisers look for. -/
def isblank (c : Char) : Bool := c = ' ' || c = '\t'

def tolower (s : CString) : CString := s.map Char.toLower

def toupper (s : CString) : CString := s.map Char.toUpper

/-- `strncpy` into a buffer that is terminated after `n` characters. -/
def strncpy (s : CString) (n : ℕ) : CString := s.take n

/-- Split at the first occurrence of `c`, which belongs to neither part: `p = strchr(s, c)`,
then `*p = '\0'` and `p + 1`. -/
def cut (c : Char) (s : CString) : Option (CString × CString) :=
  if c ∈ s then some (s.takeWhile (· ≠ c), (s.dropWhile (· ≠ c)).drop 1) else none

/-- One `%s` conversion: the next word and what follows it. -/
def scanWord (s : CString) : Option (CString × CString) :=
  match s.dropWhile isspace with
  | [] => none
  | c :: rest => some ((c :: rest).span (!isspace ·))

/-- The words that `sscanf` stores for a format of `n` conversions `%s`; their number is its
result. At the end of the input `sscanf` returns `EOF` instead of zero, which no caller tells
apart. -/
def scanWords : ℕ → CString → List CString
  | 0, _ => []
  | n + 1, s =>
      match scanWord s with
      | none => []
      | some (word, rest) => word :: scanWords n rest

def digitValue (c : Char) : ℕ :=
  if c.isDigit then c.toNat - '0'.toNat
  else if 'a' ≤ c ∧ c ≤ 'z' then c.toNat - 'a'.toNat + 10
  else if 'A' ≤ c ∧ c ≤ 'Z' then c.toNat - 'A'.toNat + 10
  else 36

def digits (base : ℕ) (s : CString) : CString := s.takeWhile (digitValue · < base)

def ofDigits (base : ℕ) (s : CString) : ℕ := s.foldl (fun n c ↦ n * base + digitValue c) 0

/-- The sign that a number may start with, and what follows it. -/
def scanSign : CString → Int × CString
  | '-' :: s => (-1, s)
  | '+' :: s => (1, s)
  | s => (1, s)

/-- The values a 64-bit `long` saturates at. -/
def clampLong (n : Int) : Int := max (-2 ^ 63) (min n (2 ^ 63 - 1))

/-- The base that `strtol` reads off the digits when it is called with base 0. -/
def scanBase : CString → ℕ × CString
  | '0' :: 'x' :: c :: s => if digitValue c < 16 then (16, c :: s) else (8, '0' :: 'x' :: c :: s)
  | '0' :: 'X' :: c :: s => if digitValue c < 16 then (16, c :: s) else (8, '0' :: 'X' :: c :: s)
  | '0' :: s => (8, '0' :: s)
  | s => (10, s)

/-- `strtol(s, NULL, 0)`. -/
def strtol (s : CString) : Int :=
  let (sign, s) := scanSign (s.dropWhile isspace)
  let (base, s) := scanBase s
  clampLong (sign * ofDigits base (digits base s))

/-- `atol(s)`, which is `strtol(s, NULL, 10)`. -/
def atol (s : CString) : Int :=
  let (sign, s) := scanSign (s.dropWhile isspace)
  clampLong (sign * ofDigits 10 (digits 10 s))

/-- The value of a `long` stored in an `int`. -/
def int32 (n : Int) : Int := n.bmod (2 ^ 32)

/-- The decimal number that a text starts with, and what follows it. -/
def scanNumber (s : CString) : Option (Int × CString) :=
  let (sign, s) := scanSign (s.dropWhile isspace)
  match digits 10 s with
  | [] => none
  | c :: number => some (sign * ofDigits 10 (c :: number), s.drop (number.length + 1))

/-- One `%d` conversion: the number, which passes through a `long` into an `int`, and what follows it. -/
def scanInt (s : CString) : Option (Int × CString) :=
  (scanNumber s).map fun number ↦ (int32 (clampLong number.1), number.2)

/-- `%lu` of a `long`. -/
def showUnsignedLong (n : Int) : CString := Nat.toDigits 10 (n % 2 ^ 64).toNat

/-- `%d` of an `int`. -/
def showInt (n : Int) : CString :=
  if n < 0 then '-' :: Nat.toDigits 10 n.natAbs else Nat.toDigits 10 n.natAbs

/-- `%04d` of an `int`. -/
def showInt4 (n : Int) : CString :=
  let text := Nat.toDigits 10 n.natAbs
  if n < 0 then '-' :: (List.replicate (3 - text.length) '0' ++ text)
  else List.replicate (4 - text.length) '0' ++ text

/-- `gpul_str_append`: a null first argument counts as empty. -/
def strAppend (s : Option CString) (suffix : CString) : Option CString := some (s.getD [] ++ suffix)

end CString

end CoreEngine.Smsd
