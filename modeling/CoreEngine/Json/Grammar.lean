import Mathlib.Data.List.Basic
import Mathlib.Data.List.Induction

/-!
# The grammar of JSON

Which texts are JSON, and what they denote. A list of elements or members is read from the left, so the
rules for lists add at the end.
-/

namespace CoreEngine

/-- A JSON value. A string is a list of code points; a number is the text that denotes it. -/
inductive Json
  | null
  | bool (b : Bool)
  | num (text : List Char)
  | str (points : List ℕ)
  | arr (items : List Json)
  | obj (members : List (List ℕ × Json))

namespace Json

section Tokens

def isBlank (c : Char) : Bool := c = ' ' ∨ c = '\t' ∨ c = '\n' ∨ c = '\r'

def Blank (text : List Char) : Prop := ∀ c ∈ text, isBlank c = true

instance (text : List Char) : Decidable (Blank text) := List.decidableBAll _ text

def Digits (text : List Char) : Prop := text ≠ [] ∧ ∀ c ∈ text, c.isDigit = true

/-- No leading zeros. -/
def IsInt (text : List Char) : Prop := text = ['0'] ∨ Digits text ∧ text.head? ≠ some '0'

def IsFrac (text : List Char) : Prop := text = [] ∨ ∃ digits, Digits digits ∧ text = '.' :: digits

def IsExp (text : List Char) : Prop :=
  text = [] ∨ ∃ e sign digits, (e = 'e' ∨ e = 'E') ∧ (sign = [] ∨ sign = ['+'] ∨ sign = ['-']) ∧
    Digits digits ∧ text = e :: (sign ++ digits)

/-- An optional sign, an integer, an optional fraction and an optional exponent. -/
def IsNumber (text : List Char) : Prop :=
  ∃ sign int frac exp, (sign = [] ∨ sign = ['-']) ∧ IsInt int ∧ IsFrac frac ∧ IsExp exp ∧
    text = sign ++ int ++ frac ++ exp

def hexDigit (c : Char) : Option ℕ :=
  if '0' ≤ c ∧ c ≤ '9' then some (c.toNat - '0'.toNat)
  else if 'a' ≤ c ∧ c ≤ 'f' then some (c.toNat - 'a'.toNat + 10)
  else if 'A' ≤ c ∧ c ≤ 'F' then some (c.toNat - 'A'.toNat + 10)
  else none

def hexValue (text : List Char) : ℕ := text.foldl (fun n c ↦ n * 16 + (hexDigit c).getD 0) 0

/-- What a backslash and a letter stand for. -/
def escaped (c : Char) : Option ℕ :=
  match c with
  | '"' => some 0x22
  | '\\' => some 0x5c
  | '/' => some 0x2f
  | 'b' => some 0x08
  | 'f' => some 0x0c
  | 'n' => some 0x0a
  | 'r' => some 0x0d
  | 't' => some 0x09
  | _ => none

/-- A character that stands for itself in a string. -/
def isPlain (c : Char) : Bool := c ≠ '"' ∧ c ≠ '\\' ∧ 0x20 ≤ c.toNat

/-- One character of a string, as it is written. -/
inductive CharText : List Char → ℕ → Prop
  | plain {c : Char} (hc : isPlain c = true) : CharText [c] c.toNat
  | escape {c : Char} {n : ℕ} (hc : escaped c = some n) : CharText ['\\', c] n
  | hex {digits : List Char} (hlength : digits.length = 4) (hdigits : ∀ c ∈ digits, (hexDigit c).isSome) :
      CharText ('\\' :: 'u' :: digits) (hexValue digits)

inductive CharsText : List Char → List ℕ → Prop
  | nil : CharsText [] []
  | snoc {text next : List Char} {units : List ℕ} {n : ℕ} (htext : CharsText text units)
      (hnext : CharText next n) : CharsText (text ++ next) (units ++ [n])

/-- Two escapes that are a surrogate pair denote one code point. -/
def combine : List ℕ → List ℕ
  | high :: low :: rest =>
      if 0xd800 ≤ high ∧ high < 0xdc00 ∧ 0xdc00 ≤ low ∧ low < 0xe000 then
        (0x10000 + (high - 0xd800) * 0x400 + (low - 0xdc00)) :: combine rest
      else high :: combine (low :: rest)
  | units => units

/-- What stands between the quotes of a string. -/
def StringBody (text : List Char) (points : List ℕ) : Prop :=
  ∃ units, CharsText text units ∧ combine units = points

/-- A name and the colon after it. -/
def NameText (text : List Char) (name : List ℕ) : Prop :=
  ∃ before body after, Blank before ∧ StringBody body name ∧ Blank after ∧
    text = before ++ '"' :: body ++ '"' :: after ++ [':']

end Tokens

section Values

mutual

inductive Value : List Char → Json → Prop
  | null : Value ['n', 'u', 'l', 'l'] .null
  | true : Value ['t', 'r', 'u', 'e'] (.bool true)
  | false : Value ['f', 'a', 'l', 's', 'e'] (.bool false)
  | num {text : List Char} (htext : IsNumber text) : Value text (.num text)
  | str {text : List Char} {points : List ℕ} (htext : StringBody text points) :
      Value ('"' :: text ++ ['"']) (.str points)
  | emptyArr {text : List Char} (htext : Blank text) : Value ('[' :: text ++ [']']) (.arr [])
  | arr {text : List Char} {items : List Json} (htext : Elements text items) :
      Value ('[' :: text ++ [']']) (.arr items)
  | emptyObj {text : List Char} (htext : Blank text) : Value ('\x7b' :: text ++ ['\x7d']) (.obj [])
  | obj {text : List Char} {members : List (List ℕ × Json)} (htext : Members text members) :
      Value ('\x7b' :: text ++ ['\x7d']) (.obj members)

inductive Elements : List Char → List Json → Prop
  | single {before text after : List Char} {v : Json} (hbefore : Blank before) (hvalue : Value text v)
      (hafter : Blank after) : Elements (before ++ text ++ after) [v]
  | snoc {first before text after : List Char} {items : List Json} {v : Json} (hfirst : Elements first items)
      (hbefore : Blank before) (hvalue : Value text v) (hafter : Blank after) :
      Elements (first ++ ',' :: (before ++ text ++ after)) (items ++ [v])

inductive Members : List Char → List (List ℕ × Json) → Prop
  | single {label before text after : List Char} {name : List ℕ} {v : Json} (hname : NameText label name)
      (hbefore : Blank before) (hvalue : Value text v) (hafter : Blank after) :
      Members (label ++ (before ++ text ++ after)) [(name, v)]
  | snoc {first label before text after : List Char} {members : List (List ℕ × Json)} {name : List ℕ}
      {v : Json} (hfirst : Members first members) (hname : NameText label name) (hbefore : Blank before)
      (hvalue : Value text v) (hafter : Blank after) :
      Members (first ++ ',' :: (label ++ (before ++ text ++ after))) (members ++ [(name, v)])

end

/-- A whole text. -/
def Document (text : List Char) (v : Json) : Prop :=
  ∃ before body after, Blank before ∧ Value body v ∧ Blank after ∧ text = before ++ body ++ after

/-- What may follow a name and its colon: a value, and further members. -/
inductive Rest (name : List ℕ) : List Char → List (List ℕ × Json) → Prop
  | value {before text after : List Char} {v : Json} (hbefore : Blank before) (hvalue : Value text v)
      (hafter : Blank after) : Rest name (before ++ text ++ after) [(name, v)]
  | snoc {first label before text after : List Char} {members : List (List ℕ × Json)} {next : List ℕ}
      {v : Json} (hfirst : Rest name first members) (hname : NameText label next) (hbefore : Blank before)
      (hvalue : Value text v) (hafter : Blank after) :
      Rest name (first ++ ',' :: (label ++ (before ++ text ++ after))) (members ++ [(next, v)])

end Values

section Blanks

variable {before text after : List Char}

theorem Blank.append (hbefore : Blank before) (hafter : Blank after) : Blank (before ++ after) := by
  intro c hc
  rcases List.mem_append.1 hc with hc | hc
  · exact hbefore c hc
  · exact hafter c hc

theorem NameText.pad {name : List ℕ} (htext : NameText text name) (hbefore : Blank before) :
    NameText (before ++ text) name := by
  obtain ⟨blank, body, after, hblank, hbody, hafter, rfl⟩ := htext
  exact ⟨before ++ blank, body, after, hbefore.append hblank, hbody, hafter, by simp⟩

theorem Elements.pad_left (hbefore : Blank before) {text : List Char} {items : List Json}
    (htext : Elements text items) : Elements (before ++ text) items :=
  match htext with
  | .single hblank hvalue hafter => by
    rw [← List.append_assoc, ← List.append_assoc]
    exact .single (hbefore.append hblank) hvalue hafter
  | .snoc hfirst hblank hvalue hafter => by
    rw [← List.append_assoc]
    exact (pad_left hbefore hfirst).snoc hblank hvalue hafter

theorem Elements.pad_right {items : List Json} (htext : Elements text items) (hafter : Blank after) :
    Elements (text ++ after) items := by
  cases htext with
  | single hblank hvalue hlast =>
    rw [List.append_assoc _ _ after]
    exact .single hblank hvalue (hlast.append hafter)
  | snoc hfirst hblank hvalue hlast =>
    rw [List.append_assoc, List.cons_append, List.append_assoc _ _ after]
    exact .snoc hfirst hblank hvalue (hlast.append hafter)

theorem Members.pad_left (hbefore : Blank before) {text : List Char} {members : List (List ℕ × Json)}
    (htext : Members text members) : Members (before ++ text) members :=
  match htext with
  | .single hname hblank hvalue hafter => by
    rw [← List.append_assoc]
    exact .single (hname.pad hbefore) hblank hvalue hafter
  | .snoc hfirst hname hblank hvalue hafter => by
    rw [← List.append_assoc]
    exact (pad_left hbefore hfirst).snoc hname hblank hvalue hafter

theorem Members.pad_right {members : List (List ℕ × Json)} (htext : Members text members)
    (hafter : Blank after) : Members (text ++ after) members := by
  cases htext with
  | single hname hblank hvalue hlast =>
    rw [List.append_assoc, List.append_assoc _ _ after]
    exact .single hname hblank hvalue (hlast.append hafter)
  | snoc hfirst hname hblank hvalue hlast =>
    rw [List.append_assoc, List.cons_append, List.append_assoc, List.append_assoc _ _ after]
    exact .snoc hfirst hname hblank hvalue (hlast.append hafter)

end Blanks

section Plain

/-- The code points of a text. -/
def points (text : List Char) : List ℕ := text.map Char.toNat

/-- No character is half of a surrogate pair. -/
theorem combine_points (text : List Char) : combine (points text) = points text := by
  induction text with
  | nil => rfl
  | cons c rest ih =>
    cases rest with
    | nil => rfl
    | cons d rest =>
      have hpair : ¬(0xd800 ≤ c.toNat ∧ c.toNat < 0xdc00 ∧ 0xdc00 ≤ d.toNat ∧ d.toNat < 0xe000) := by
        have hvalid : c.toNat < 0xd800 ∨ 0xdfff < c.toNat ∧ c.toNat < 0x110000 := c.valid
        omega
      calc
        _ = c.toNat :: combine (points (d :: rest)) := if_neg hpair
        _ = _ := by rw [ih]; rfl

/-- A text written character by character. -/
theorem stringBody_flatMap {write : Char → List Char} {text : List Char}
    (hwrite : ∀ c ∈ text, CharText (write c) c.toNat) : StringBody (text.flatMap write) (points text) := by
  refine ⟨points text, ?_, combine_points text⟩
  induction text using List.reverseRecOn with
  | nil => exact .nil
  | append_singleton text c ih =>
    have hfirst : ∀ d ∈ text, CharText (write d) d.toNat := fun d hd ↦ hwrite d (by simp [hd])
    have hlast : CharText (write c) c.toNat := hwrite c (by simp)
    rw [points, List.map_append, List.flatMap_append, List.flatMap_singleton]
    exact (ih hfirst).snoc hlast

/-- A text without quotes, backslashes and control characters stands for itself. -/
theorem stringBody_of_isPlain {text : List Char} (htext : ∀ c ∈ text, isPlain c = true) :
    StringBody text (points text) := by
  have hbody := stringBody_flatMap fun c hc ↦ CharText.plain (htext c hc)
  rwa [List.flatMap_singleton'] at hbody

def hexChar (n : ℕ) : Char := Char.ofNat (if n < 10 then '0'.toNat + n else 'a'.toNat + (n - 10))

def escapeChar (c : Char) : List Char :=
  if c = '"' ∨ c = '\\' then ['\\', c]
  else if c.toNat < 0x20 then ['\\', 'u', '0', '0', hexChar (c.toNat / 16), hexChar (c.toNat % 16)]
  else [c]

/-- Escapes what cannot stand for itself in a string. -/
def escape (text : List Char) : List Char := text.flatMap escapeChar

theorem charText_escapeChar (c : Char) : CharText (escapeChar c) c.toNat := by
  unfold escapeChar
  split_ifs with hspecial hcontrol
  · rcases hspecial with rfl | rfl <;> exact .escape rfl
  · have hdigits : ∀ n < 0x20, hexValue ['0', '0', hexChar (n / 16), hexChar (n % 16)] = n ∧
        ['0', '0', hexChar (n / 16), hexChar (n % 16)].all fun d ↦ (hexDigit d).isSome := by decide
    obtain ⟨hvalue, hall⟩ := hdigits c.toNat hcontrol
    have hhex := CharText.hex (by rfl) (List.all_eq_true.1 hall)
    rwa [hvalue] at hhex
  · refine .plain ?_
    rw [not_or] at hspecial
    simpa [isPlain, hspecial] using hcontrol

/-- An escaped text denotes the original. -/
theorem stringBody_escape (text : List Char) : StringBody (escape text) (points text) :=
  stringBody_flatMap fun c _ ↦ charText_escapeChar c

end Plain

end Json

end CoreEngine
