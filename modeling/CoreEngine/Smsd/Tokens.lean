import CoreEngine.Memory.Cells
import CoreEngine.Smsd.Dispatch

/-!
# The two tokenisers

Request lines and lines of the configuration file are split into a word and an argument by two pieces
of code that were copied from each other (`CheckVerb` of `verb.c`, `createConfig` of `smsconfig.c`). They
work with pointers into arrays of `BUFSIZ` characters. An access outside an array has no result here.
-/

namespace CoreEngine.Smsd

open CoreEngine.Memory

/-- An array of `BUFSIZ` characters. -/
abbrev LineBuffer := Cells CString.bufsiz

section Splitting

/-- Rounds enough for any loop over such an array. -/
def rounds : ℕ := CString.bufsiz + 1

/-- The characters that end what is looked at of a line. -/
def isStop (c : Char) : Bool := c = '#' || c = '\r' || c = '\n'

/-- `if ((p = strpbrk(buf, "#\r\n"))) *p = '\0'`. -/
def cutLine (buf : LineBuffer) : Option LineBuffer := do
  let p ← buf.skip (!isStop ·) rounds 0
  let c ← buf.load p
  if c ≠ nul then buf.store p nul else some buf

/-- The splitting code of `CheckVerb`, with the arrays `cmd` and `arg` before and after. -/
def checkVerbSplit (buf cmd arg : LineBuffer) : Option (LineBuffer × LineBuffer) := do
  let buf ← cutLine buf
  let p ← buf.skip CString.isblank rounds 0
  let (p, q, cmd) ← buf.copy (!CString.isblank ·) Char.toUpper rounds p 0 cmd
  let cmd ← cmd.store q nul
  let c ← buf.load p
  if c ≠ nul then do
    let p ← buf.skip CString.isblank rounds p
    let arg ← arg.strcpy 0 buf p
    let len ← arg.strlen
    let arg ← Cells.trim (fun _ ↦ true) CString.isblank rounds (len - 1) arg
    some (cmd, arg)
  else do
    let arg ← arg.store 0 nul
    some (cmd, arg)

/-- The splitting code of `createConfig`. The inner `none` is a line without a word, which is
skipped. -/
def createConfigSplit (buf tmp cmd arg : LineBuffer) : Option (Option (LineBuffer × LineBuffer)) := do
  let tmp ← tmp.strcpy 0 buf 0
  let tmp ← cutLine tmp
  let p ← tmp.skip CString.isblank rounds 0
  let (p, q, cmd) ← tmp.copy (!CString.isblank ·) id rounds p 0 cmd
  let cmd ← cmd.store q nul
  let c ← cmd.load 0
  if c = nul then some none else do
    let p ← tmp.skip CString.isblank rounds p
    let arg ← arg.strcpy 0 tmp p
    let len ← arg.strlen
    let arg ← Cells.trim (0 ≤ ·) CString.isblank rounds (len - 1) arg
    let cmd ← Cells.rewrite Char.isUpper Char.toLower rounds 0 cmd
    some (some (cmd, arg))

end Splitting

/-- What follows the word of a line. -/
def afterWord (line : CString) : CString :=
  ((line.takeWhile (!isStop ·)).dropWhile CString.isblank).dropWhile (!CString.isblank ·)

/-- Both tokenisers stay inside their arrays and find the word and the argument of the line, the one
in upper case, the other in lower case. -/
def SameGrammar (buf tmp cmd arg : LineBuffer) (line : CString) : Prop :=
  (∃ cmd' arg', checkVerbSplit buf cmd arg = some (cmd', arg') ∧
    cmd'.Holds 0 (CString.toupper (splitLine line).1) ∧ arg'.Holds 0 (splitLine line).2) ∧
  if (splitLine line).1 = [] then createConfigSplit buf tmp cmd arg = some none
  else ∃ cmd' arg', createConfigSplit buf tmp cmd arg = some (some (cmd', arg')) ∧
    cmd'.Holds 0 (CString.tolower (splitLine line).1) ∧ arg'.Holds 0 (splitLine line).2

section Pieces

theorem toUpper_ne_nul {c : Char} (hc : c ≠ nul) : c.toUpper ≠ nul := by
  unfold Char.toUpper
  split
  case isTrue hlower =>
    intro heq
    have hval := congrArg (fun c : Char ↦ c.val.toNat) heq
    have hfirst := UInt32.le_iff_toNat_le.1 hlower.1
    have hlast := UInt32.le_iff_toNat_le.1 hlower.2
    simp [nul, UInt32.toNat_add] at hval hfirst hlast
    omega
  case isFalse => exact hc

theorem toLower_ne_nul {c : Char} (hc : c ≠ nul) : c.toLower ≠ nul := by
  unfold Char.toLower
  split
  case isTrue hupper =>
    intro heq
    have hval := congrArg (fun c : Char ↦ c.val.toNat) heq
    have hfirst := UInt32.le_iff_toNat_le.1 hupper.1
    have hlast := UInt32.le_iff_toNat_le.1 hupper.2
    simp [nul, UInt32.toNat_add] at hval hfirst hlast
    omega
  case isFalse => exact hc

theorem toLower_of_not_isUpper {c : Char} (hc : c.isUpper = false) : c.toLower = c := by
  unfold Char.toLower
  rw [dif_neg]
  exact of_decide_eq_false hc

variable {buf : LineBuffer} {line : CString}

theorem exists_cutLine (hline : buf.Holds 0 line) :
    ∃ buf', cutLine buf = some buf' ∧ buf'.Holds 0 (line.takeWhile (!isStop ·)) := by
  have hbounds := hline.le
  have hrounds : line.length < rounds := by
    unfold rounds
    omega
  have hstop := hline.dropWhile (!isStop ·)
  have hsplit : line.takeWhile (!isStop ·) ++ line.dropWhile (!isStop ·) = line :=
    List.takeWhile_append_dropWhile
  unfold cutLine
  rw [Cells.skip_eq hline hrounds]
  simp only [Option.bind_eq_bind, Option.bind_some]
  cases hrest : line.dropWhile (!isStop ·) with
  | nil =>
    rw [hrest] at hstop hsplit
    rw [List.append_nil] at hsplit
    have hload : buf.load (0 + (line.takeWhile (!isStop ·)).length) = some nul := hstop
    rw [hload, Option.bind_some, if_neg (fun hne ↦ hne rfl)]
    exact ⟨buf, rfl, by rwa [hsplit]⟩
  | cons c rest =>
    rw [hrest] at hstop
    obtain ⟨buf', hstore⟩ := Cells.exists_store_of_load hstop.1 nul
    rw [hstop.1, Option.bind_some, if_pos hstop.2.1]
    rw [← hsplit] at hline
    exact ⟨buf', hstore, hline.store_nul hstore⟩

/-- The word of a line, as it is copied. -/
theorem exists_word {f : Char → Char} {text : CString} (htext : buf.Holds 0 text)
    (hf : ∀ c, c ≠ nul → f c ≠ nul) (cmd : LineBuffer) :
    ∃ p₀ p q cmd₁ cmd', buf.skip CString.isblank rounds 0 = some p₀ ∧
      buf.copy (!CString.isblank ·) f rounds p₀ 0 cmd = some (p, q, cmd₁) ∧
      cmd₁.store q nul = some cmd' ∧
      cmd'.Holds 0 (((text.dropWhile CString.isblank).takeWhile (!CString.isblank ·)).map f) ∧
      buf.Holds p ((text.dropWhile CString.isblank).dropWhile (!CString.isblank ·)) := by
  have hbounds := htext.le
  have hrounds : text.length < rounds := by
    unfold rounds
    omega
  have hstart := htext.dropWhile CString.isblank
  have hroom : ((text.dropWhile CString.isblank).takeWhile (!CString.isblank ·)).length < CString.bufsiz := by
    calc
      _ ≤ (text.dropWhile CString.isblank).length := (List.takeWhile_prefix _).length_le
      _ ≤ text.length := List.length_dropWhile_le _ _
      _ < CString.bufsiz := by omega
  obtain ⟨cmd₁, cmd', hcopy, hstore, hcmd⟩ := Cells.exists_copy_store hstart hroom hf cmd
  exact ⟨_, _, _, cmd₁, cmd', Cells.skip_eq htext hrounds, hcopy, hstore, hcmd, hstart.dropWhile _⟩

/-- The argument of a line, before it is trimmed. -/
theorem exists_argument {p : Int} {rest : CString} (hrest : buf.Holds p rest) (arg : LineBuffer) :
    ∃ p' arg', buf.skip CString.isblank rounds p = some p' ∧ arg.strcpy 0 buf p' = some arg' ∧
      arg'.Holds 0 (rest.dropWhile CString.isblank) := by
  have hbounds := hrest.le
  have hrounds : rest.length < rounds := by
    unfold rounds
    omega
  have hroom : (rest.dropWhile CString.isblank).length < CString.bufsiz := by
    calc
      _ ≤ rest.length := List.length_dropWhile_le _ _
      _ < CString.bufsiz := by omega
  obtain ⟨arg', hcopy, harg⟩ := Cells.exists_strcpy (hrest.dropWhile CString.isblank) hroom arg
  exact ⟨_, arg', Cells.skip_eq hrest hrounds, hcopy, harg⟩

/-- After its leading blanks an argument is empty or has a character that trimming stops at. -/
theorem dropWhile_reverse_eq_nil {rest : CString}
    (hblank : (rest.dropWhile CString.isblank).reverse.dropWhile CString.isblank = []) :
    rest.dropWhile CString.isblank = [] := by
  have hall := List.dropWhile_eq_nil_iff.1 hblank
  cases hrest : rest.dropWhile CString.isblank with
  | nil => rfl
  | cons c tail =>
    have hhead := List.head?_dropWhile_not CString.isblank rest
    have hc : CString.isblank c = true := hall c (by simp [hrest])
    rw [hrest] at hhead
    simp [hc] at hhead

/-- The end of an argument is found in an array that holds it. -/
theorem exists_trimmed {arg : LineBuffer} {text : CString} {test : Int → Bool} (harg : arg.Holds 0 text)
    (htest : ∀ p, 0 ≤ p → test p = true)
    (hstop : text.reverse.dropWhile CString.isblank ≠ [] ∨ test (-1) = false) :
    ∃ arg', Cells.trim test CString.isblank rounds (text.length - 1) arg = some arg' ∧
      arg'.Holds 0 (text.reverse.dropWhile CString.isblank).reverse := by
  have hbounds := harg.le
  have hrounds : text.reverse.length < rounds := by
    rw [List.length_reverse]
    unfold rounds
    omega
  have hreverse : arg.Holds 0 text.reverse.reverse := by rwa [List.reverse_reverse]
  obtain ⟨arg', htrim, hresult⟩ := Cells.exists_trim hreverse htest hstop hrounds
  rw [List.length_reverse] at htrim
  exact ⟨arg', htrim, hresult⟩

end Pieces

section Tokenisers

variable {buf tmp cmd arg : LineBuffer} {line : CString}

/-- `CheckVerb` splits a line unless its word is followed by nothing but blanks. -/
theorem checkVerbSplit_spec (hline : buf.Holds 0 line)
    (hargument : afterWord line = [] ∨ (afterWord line).dropWhile CString.isblank ≠ []) :
    ∃ cmd' arg', checkVerbSplit buf cmd arg = some (cmd', arg') ∧
      cmd'.Holds 0 (CString.toupper (splitLine line).1) ∧ arg'.Holds 0 (splitLine line).2 := by
  obtain ⟨buf', hcut, htext⟩ := exists_cutLine hline
  obtain ⟨p₀, p, q, cmd₁, cmd', hskip, hcopy, hstore, hcmd, hrest⟩ :=
    exists_word htext (fun _ ↦ toUpper_ne_nul) cmd
  unfold checkVerbSplit
  simp only [Option.bind_eq_bind, hcut, Option.bind_some, hskip, hcopy, hstore]
  have hafter : buf'.Holds p (afterWord line) := hrest
  cases hcase : afterWord line with
  | nil =>
    rw [hcase] at hafter
    have hload : buf'.load p = some nul := hafter
    obtain ⟨arg', hempty⟩ := Cells.exists_store arg nul (Int.le_refl 0) (by decide : (0 : Int) < CString.bufsiz)
    have harg : arg'.Holds 0 [] := by
      have hzero := Cells.load_store hempty 0
      rwa [if_pos rfl] at hzero
    have hnone : (splitLine line).2 = [] := by
      show ((((afterWord line).dropWhile CString.isblank).reverse.dropWhile CString.isblank).reverse) = []
      rw [hcase]
      rfl
    rw [hload, Option.bind_some, if_neg (fun hne ↦ hne rfl), hempty, hnone]
    exact ⟨cmd', arg', rfl, hcmd, harg⟩
  | cons c rest =>
    have hstop : ((afterWord line).dropWhile CString.isblank).reverse.dropWhile CString.isblank ≠ [] := by
      intro hblank
      rcases hargument with hnil | hne
      · rw [hcase] at hnil
        cases hnil
      · exact hne (dropWhile_reverse_eq_nil hblank)
    obtain ⟨p', arg₁, hskip', hstrcpy, harg₁⟩ := exists_argument hafter arg
    obtain ⟨arg', htrim, harg⟩ := exists_trimmed harg₁ (fun _ _ ↦ rfl) (Or.inl hstop)
    rw [hcase] at hafter
    rw [hafter.1, Option.bind_some, if_pos hafter.2.1, hskip', Option.bind_some, hstrcpy, Option.bind_some,
      Cells.strlen_eq harg₁, Option.bind_some, htrim]
    exact ⟨cmd', arg', rfl, hcmd, harg⟩

/-- It reads before the array `arg` when that is empty because only blanks follow the word. -/
theorem checkVerbSplit_eq_none (hline : buf.Holds 0 line) (hafter : afterWord line ≠ [])
    (hblank : (afterWord line).dropWhile CString.isblank = []) : checkVerbSplit buf cmd arg = none := by
  obtain ⟨buf', hcut, htext⟩ := exists_cutLine hline
  obtain ⟨p₀, p, q, cmd₁, cmd', hskip, hcopy, hstore, hcmd, hrest⟩ :=
    exists_word htext (fun _ ↦ toUpper_ne_nul) cmd
  have hholds : buf'.Holds p (afterWord line) := hrest
  obtain ⟨p', arg', hskip', hstrcpy, harg⟩ := exists_argument hholds arg
  rw [hblank] at harg
  have htrim : Cells.trim (fun _ ↦ true) CString.isblank rounds (([] : CString).length - 1) arg' = none :=
    Cells.trim_eq_none (r := []) harg (fun _ ↦ rfl) rfl
  unfold checkVerbSplit
  simp only [Option.bind_eq_bind, hcut, Option.bind_some, hskip, hcopy, hstore]
  cases hcase : afterWord line with
  | nil => exact absurd hcase hafter
  | cons c rest =>
    rw [hcase] at hholds
    rw [hholds.1, Option.bind_some, if_pos hholds.2.1, hskip', Option.bind_some, hstrcpy, Option.bind_some,
      Cells.strlen_eq harg, Option.bind_some, htrim]
    rfl

/-- `createConfig` skips a line without a word. -/
theorem createConfigSplit_skips (hline : buf.Holds 0 line) (hword : (splitLine line).1 = []) :
    createConfigSplit buf tmp cmd arg = some none := by
  obtain ⟨tmp₀, hstrcpy, htmp⟩ := Cells.exists_strcpy hline (by have := hline.le; omega) tmp
  obtain ⟨tmp', hcut, htext⟩ := exists_cutLine htmp
  obtain ⟨p₀, p, q, cmd₁, cmd', hskip, hcopy, hstore, hcmd, -⟩ := exists_word (f := id) htext (fun _ hc ↦ hc) cmd
  have hempty : cmd'.load 0 = some nul := by
    have hholds : cmd'.Holds 0 ((splitLine line).1.map id) := hcmd
    rw [hword] at hholds
    exact hholds
  unfold createConfigSplit
  simp only [Option.bind_eq_bind, hstrcpy, hcut, Option.bind_some, hskip, hcopy, hstore, hempty]
  rfl

/-- `createConfig` splits every other line. -/
theorem createConfigSplit_spec (hline : buf.Holds 0 line) (hword : (splitLine line).1 ≠ []) :
    ∃ cmd' arg', createConfigSplit buf tmp cmd arg = some (some (cmd', arg')) ∧
      cmd'.Holds 0 (CString.tolower (splitLine line).1) ∧ arg'.Holds 0 (splitLine line).2 := by
  obtain ⟨tmp₀, hstrcpy, htmp⟩ := Cells.exists_strcpy hline (by have := hline.le; omega) tmp
  obtain ⟨tmp', hcut, htext⟩ := exists_cutLine htmp
  obtain ⟨p₀, p, q, cmd₁, cmd₂, hskip, hcopy, hstore, hcmd, hrest⟩ :=
    exists_word (f := id) htext (fun _ hc ↦ hc) cmd
  have hholds : cmd₂.Holds 0 (splitLine line).1 := by
    have hmap : cmd₂.Holds 0 ((splitLine line).1.map id) := hcmd
    rwa [List.map_id] at hmap
  have hafter : tmp'.Holds p (afterWord line) := hrest
  obtain ⟨p', arg₁, hskip', hstrcpy', harg₁⟩ := exists_argument hafter arg
  have htest : ∀ p : Int, 0 ≤ p → decide (0 ≤ p) = true := fun _ ↦ decide_eq_true
  have hend : decide ((0 : Int) ≤ -1) = false := rfl
  obtain ⟨arg', htrim, harg⟩ := exists_trimmed harg₁ htest (Or.inr hend)
  have hrounds : (splitLine line).1.length < rounds := by
    have hbounds := hholds.le
    unfold rounds
    omega
  have hfixed : ∀ c : Char, c.isUpper = false → c.toLower = c := fun _ ↦ toLower_of_not_isUpper
  obtain ⟨cmd', hrewrite, -, hlower⟩ := Cells.exists_rewrite hholds (fun _ ↦ toLower_ne_nul) hfixed hrounds
  have hfirst : ∃ c, cmd₂.load 0 = some c ∧ c ≠ nul := by
    cases hcase : (splitLine line).1 with
    | nil => exact absurd hcase hword
    | cons c rest =>
      rw [hcase] at hholds
      exact ⟨c, hholds.1, hholds.2.1⟩
  obtain ⟨c, hload, hc⟩ := hfirst
  unfold createConfigSplit
  simp only [Option.bind_eq_bind, hstrcpy, hcut, Option.bind_some, hskip, hcopy, hstore, hload]
  rw [if_neg hc, hskip', Option.bind_some, hstrcpy', Option.bind_some, Cells.strlen_eq harg₁, Option.bind_some,
    htrim, Option.bind_some, hrewrite]
  exact ⟨cmd', arg', rfl, hlower, harg⟩

end Tokenisers

section Agreement

variable {buf tmp cmd arg : LineBuffer} {line : CString}

theorem not_sameGrammar (hline : buf.Holds 0 line) (hafter : afterWord line ≠ [])
    (hblank : ∀ c ∈ afterWord line, CString.isblank c = true) : ¬SameGrammar buf tmp cmd arg line := by
  rintro ⟨⟨cmd', arg', hsplit, -⟩, -⟩
  rw [checkVerbSplit_eq_none hline hafter (List.dropWhile_eq_nil_iff.2 hblank)] at hsplit
  cases hsplit

/-- On every line, whatever the arrays held before, the two tokenisers stay inside their arrays and
agree up to letter case, unless the word of the line is followed by blanks and nothing else. -/
theorem same_grammar_iff (hline : buf.Holds 0 line) :
    SameGrammar buf tmp cmd arg line ↔
      ¬(afterWord line ≠ [] ∧ ∀ c ∈ afterWord line, CString.isblank c = true) := by
  constructor
  · rintro hsame ⟨hafter, hblank⟩
    exact not_sameGrammar hline hafter hblank hsame
  · intro hnot
    constructor
    · apply checkVerbSplit_spec hline
      by_cases hafter : afterWord line = []
      · exact Or.inl hafter
      · right
        intro hblank
        exact hnot ⟨hafter, List.dropWhile_eq_nil_iff.1 hblank⟩
    · by_cases hword : (splitLine line).1 = []
      · rw [if_pos hword]
        exact createConfigSplit_skips hline hword
      · rw [if_neg hword]
        exact createConfigSplit_spec hline hword

end Agreement

/-- A request line, in arrays that held nothing before. -/
theorem same_grammar_iff_getasset :
    SameGrammar (Cells.ofString "GETASSET ABC123".toList) (Cells.ofString []) (Cells.ofString [])
        (Cells.ofString []) "GETASSET ABC123".toList ↔
      ¬(afterWord "GETASSET ABC123".toList ≠ [] ∧
        ∀ c ∈ afterWord "GETASSET ABC123".toList, CString.isblank c = true) :=
  same_grammar_iff (Cells.holds_ofString (by decide) (by decide))

/-- A word with a blank after it. -/
theorem trailing_blank_underruns :
    ¬SameGrammar (Cells.ofString "STAT ".toList) (Cells.ofString []) (Cells.ofString [])
      (Cells.ofString []) "STAT ".toList :=
  not_sameGrammar (Cells.holds_ofString (by decide) (by decide)) (by decide) (by decide)

end CoreEngine.Smsd
