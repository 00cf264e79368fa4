import CoreEngine.Smsd.Identifier
import CoreEngine.Smsd.Refusal
import CoreEngine.Text.Spacing

/-!
# Blanks between arguments

Five functions take their argument apart by hand, at spaces or at blanks. What they take out of it should
not depend on how many blanks separate the parts.
-/

namespace CoreEngine.Smsd

open Text (firstWord firstGap afterGap gaps squeeze Trimmed)

/-- What a handler takes out of its argument: whether it goes on with the request, the texts that it hands
on, and the dates of a report. -/
structure Extracted where
  accepted : Bool
  texts : List CString
  dates : Int × Int
  deriving DecidableEq, Repr

namespace Extracted

def refused : Extracted := ⟨false, [], (0, 0)⟩

/-- An identifier and what is to be done with the device. -/
def pair (parts : CString × CString) : Extracted := ⟨true, [parts.1, parts.2], (0, 0)⟩

def report (sdid : CString) (dates : Int × Int) : Extracted := ⟨true, [sdid], dates⟩

end Extracted

/-- The functions that take their argument apart without `sscanf`, or before it. -/
inductive Splitter
  | doSdIpUp
  | smsexec
  | execScript
  | getReport
  | doSnmpTest
  deriving DecidableEq, Repr

namespace Splitter

def extract (params : CString) : Splitter → Extracted
  | doSdIpUp => ((params.cut ' ').filter (·.2 ≠ [])).elim .refused .pair
  | smsexec => (splitArgument params).elim .refused .pair
  | execScript => (splitArgument params).elim .refused .pair
  | getReport => (params.cut ' ').elim (.report params (0, 0)) fun parts ↦ .report parts.1 (reportDates parts.2)
  | doSnmpTest => ⟨!Handler.doSnmpTest.refuses params, snmpParams 4 params, (0, 0)⟩

/-- The number of arguments with another one behind them. -/
def leading : Splitter → ℕ
  | doSdIpUp | smsexec | execScript => 1
  | getReport => 2
  | doSnmpTest => 3

/-- The gaps that the function reads as one space. -/
def Reads (params : CString) : Splitter → Prop
  | doSdIpUp => firstGap CString.isblank params = [] ∨ firstGap CString.isblank params = [' ']
  | smsexec => '\t' ∉ firstGap CString.isblank params
  | execScript => '\t' ∉ firstGap CString.isblank params
  | getReport => (firstGap CString.isblank params).head? ≠ some '\t'
  | doSnmpTest => ∀ gap ∈ gaps CString.isblank 3 params, gap.length ≤ 1

instance (splitter : Splitter) (params : CString) : Decidable (splitter.Reads params) := by
  cases splitter <;> (unfold Reads; infer_instance)

end Splitter

/-- The function that takes the argument of a handler apart. -/
def Handler.splitter : Handler → Option Splitter
  | .doSdIpUp => some .doSdIpUp
  | .doJsSmsexec => some .smsexec
  | .doJsExecScript | .doJsAExecScript => some .execScript
  | .doGetReport => some .getReport
  | .doSnmpTest => some .doSnmpTest
  | _ => none

section Handlers

variable {params params' : CString}

/-- What is taken out shows whether the request was refused, and otherwise the parts. -/
theorem elim_pair_inj {first second : Option (CString × CString)} :
    first.elim Extracted.refused .pair = second.elim Extracted.refused .pair ↔ first = second := by
  cases first with
  | none => cases second <;> simp [Extracted.refused, Extracted.pair]
  | some first => cases second <;> simp [Extracted.refused, Extracted.pair, Prod.ext_iff]

theorem report_inj {sdid sdid' : CString} {dates dates' : Int × Int} :
    Extracted.report sdid dates = .report sdid' dates' ↔ sdid = sdid' ∧ dates = dates' := by
  simp [Extracted.report]

theorem extract_getReport (params : CString) : Splitter.getReport.extract params =
    .report ((params.cut ' ').elim params (·.1)) ((params.cut ' ').elim (0, 0) (reportDates ·.2)) := by
  unfold Splitter.extract
  cases params.cut ' ' <;> rfl

theorem extract_doSnmpTest : Splitter.doSnmpTest.extract params = Splitter.doSnmpTest.extract params' ↔
    snmpParams 4 params = snmpParams 4 params' := by
  simp only [Splitter.extract, Extracted.mk.injEq, and_true]
  constructor
  · exact fun hextract ↦ hextract.2
  · intro hparams
    exact ⟨by simp only [Handler.refuses, hparams], hparams⟩

theorem getReport_eq (params : CString) : getReport params =
    getReportFor ((params.cut ' ').elim params (·.1)) ((params.cut ' ').elim (0, 0) (reportDates ·.2)) := by
  unfold getReport
  cases params.cut ' ' <;> rfl

theorem doSdIpUp_eq (params : CString) : doSdIpUp params = (do
    countUp .totalpppipup
    closeUserSocket
    ((params.cut ' ').filter (·.2 ≠ [])).elim (pure 0) fun parts ↦ do
      let result ← updateIP parts.1 parts.2
      if result ≠ 0 then countUp .totalerrorpppipup
      pure 0) := by
  unfold doSdIpUp
  cases params.cut ' ' with
  | none => rfl
  | some parts =>
    by_cases hrest : parts.2 = []
    · simp [hrest, Option.filter]
    · simp [hrest, Option.filter]

/-- A handler does with its argument what it does with the texts it takes out of it. -/
theorem run_eq_of_extract {handler : Handler} {splitter : Splitter} (hsplitter : handler.splitter = some splitter)
    (hextract : splitter.extract params = splitter.extract params') : handler.run params = handler.run params' := by
  cases handler <;> simp only [Handler.splitter, Option.some.injEq, reduceCtorEq] at hsplitter <;> subst hsplitter
  case doGetReport =>
    rw [extract_getReport, extract_getReport, report_inj] at hextract
    simp only [Handler.run, doGetReport, getReport_eq, hextract]
  case doSdIpUp => simp only [Handler.run, doSdIpUp_eq, elim_pair_inj.1 hextract]
  case doSnmpTest => simp only [Handler.run, doSnmpTest, extract_doSnmpTest.1 hextract]
  case doJsSmsexec => simp only [Handler.run, smsexec, elim_pair_inj.1 hextract]
  case doJsExecScript => simp only [Handler.run, execScript, elim_pair_inj.1 hextract]
  case doJsAExecScript => simp only [Handler.run, execScript, elim_pair_inj.1 hextract]

end Handlers

section Gap

variable {arg tail : CString}

/-- An argument that is handed to a handler neither starts nor ends with a blank. -/
theorem trimmed_splitLine (line : CString) : Trimmed CString.isblank (splitLine line).2 where
  head c hc := by
    unfold splitLine at hc
    let start := ((line.takeWhile fun c ↦ !(c = '#' || c = '\r' || c = '\n')).dropWhile
      CString.isblank).dropWhile (!CString.isblank ·)
    obtain ⟨blanks, hblanks⟩ : ((start.dropWhile CString.isblank).reverse.dropWhile
        CString.isblank).reverse <+: start.dropWhile CString.isblank := by
      rw [← List.reverse_suffix, List.reverse_reverse]
      exact List.dropWhile_suffix _
    have hhead := List.head?_dropWhile_not CString.isblank start
    rw [← hblanks, List.head?_append, Option.mem_def.1 hc] at hhead
    exact hhead
  last := isblank_getLast_splitLine line

theorem space_notMem_firstWord : ' ' ∉ firstWord CString.isblank arg := by
  intro hmem
  have hblank := Text.blank_of_mem_firstWord hmem
  exact absurd hblank (by decide)

theorem gap_cases (arg : CString) : firstGap CString.isblank arg = [] ∨
    (∃ tail, firstGap CString.isblank arg = ' ' :: tail) ∨
      ∃ tail, firstGap CString.isblank arg = '\t' :: tail := by
  cases hgap : firstGap CString.isblank arg with
  | nil => exact Or.inl rfl
  | cons c tail =>
    have hblank : CString.isblank c = true :=
      Text.blank_of_mem_firstGap (by rw [hgap]; exact List.mem_cons_self ..)
    simp only [CString.isblank, Bool.or_eq_true, decide_eq_true_eq] at hblank
    rcases hblank with rfl | rfl
    · exact Or.inr (Or.inl ⟨tail, rfl⟩)
    · exact Or.inr (Or.inr ⟨tail, rfl⟩)

/-- A gap that begins with a space ends the identifier; the rest of it is left to the other part. -/
theorem cut_of_space (hgap : firstGap CString.isblank arg = ' ' :: tail) :
    arg.cut ' ' = some (firstWord CString.isblank arg, tail ++ afterGap CString.isblank arg) := by
  calc arg.cut ' '
      = CString.cut ' '
          (firstWord CString.isblank arg ++ (firstGap CString.isblank arg ++ afterGap CString.isblank arg)) := by
        rw [Text.firstWord_append]
    _ = _ := by rw [hgap, List.cons_append, cut_append space_notMem_firstWord]

/-- A gap that begins with a tab belongs to the identifier. -/
theorem cut_of_tab (hgap : firstGap CString.isblank arg = '\t' :: tail) {parts : CString × CString}
    (hcut : arg.cut ' ' = some parts) : parts.1 ≠ firstWord CString.isblank arg := by
  rw [← Text.firstWord_append CString.isblank arg, hgap, cut_append_left space_notMem_firstWord] at hcut
  obtain ⟨others, hothers, rfl⟩ := Option.map_eq_some_iff.1 hcut
  intro hword
  rw [List.append_right_eq_self, cut_fst_eq_nil hothers] at hword
  simp at hword

theorem cut_squeeze (n : ℕ) (hgap : firstGap CString.isblank arg ≠ []) :
    CString.cut ' ' (squeeze CString.isblank ' ' (n + 1) arg) =
      some (firstWord CString.isblank arg, squeeze CString.isblank ' ' n (afterGap CString.isblank arg)) := by
  rw [Text.squeeze_of_firstGap_ne_nil n hgap, cut_append space_notMem_firstWord]

end Gap

section Pairs

variable {arg tail : CString}

theorem doSdIpUp_reads_iff (htrimmed : Trimmed CString.isblank arg) :
    Splitter.doSdIpUp.extract (squeeze CString.isblank ' ' 1 arg) = Splitter.doSdIpUp.extract arg ↔
      Splitter.doSdIpUp.Reads arg := by
  simp only [Splitter.extract, Splitter.Reads]
  rw [elim_pair_inj]
  rcases gap_cases arg with hgap | ⟨tail, hgap⟩ | ⟨tail, hgap⟩
  · simp [Text.squeeze_of_firstGap_nil 1 hgap, hgap]
  · have hne : firstGap CString.isblank arg ≠ [] := by simp [hgap]
    have hrest := htrimmed.afterGap_ne_nil hne
    rw [cut_squeeze 0 hne, cut_of_space hgap, hgap]
    simp [Option.filter, squeeze, hrest]
  · have hne : firstGap CString.isblank arg ≠ [] := by simp [hgap]
    have hrest := htrimmed.afterGap_ne_nil hne
    rw [cut_squeeze 0 hne, hgap]
    cases hcut : arg.cut ' ' with
    | none => simp [Option.filter, squeeze, hrest]
    | some parts =>
      have hword := cut_of_tab hgap hcut
      by_cases hnil : parts.2 = []
      · simp [Option.filter, squeeze, hrest, hnil]
      · simp [Option.filter, squeeze, hrest, hnil, Prod.ext_iff, Ne.symm hword]

theorem spaces_iff (hgap : firstGap CString.isblank arg = ' ' :: tail) :
    tail.dropWhile (· = ' ') = [] ↔ '\t' ∉ firstGap CString.isblank arg := by
  rw [List.dropWhile_eq_nil_iff, hgap]
  constructor
  · intro hspaces htab
    have hspace := hspaces '\t' (by simpa using htab)
    exact absurd hspace (by decide)
  · intro htab c hc
    have hblank : CString.isblank c = true :=
      Text.blank_of_mem_firstGap (by rw [hgap]; exact List.mem_cons_of_mem _ hc)
    simp only [CString.isblank, Bool.or_eq_true, decide_eq_true_eq] at hblank
    rcases hblank with rfl | rfl
    · rfl
    · exact absurd (List.mem_cons_of_mem _ hc) htab

/-- Spaces are skipped before the second part, and tabs are not. -/
theorem splitArgument_reads_iff (htrimmed : Trimmed CString.isblank arg) :
    splitArgument (squeeze CString.isblank ' ' 1 arg) = splitArgument arg ↔
      '\t' ∉ firstGap CString.isblank arg := by
  have hskip : (afterGap CString.isblank arg).dropWhile (· = ' ') = afterGap CString.isblank arg := by
    rw [List.dropWhile_eq_self_iff]
    intro hlength hspace
    have hplain := Text.blank_head_afterGap (List.head?_eq_getElem? ▸ List.getElem?_eq_getElem hlength)
    rw [of_decide_eq_true hspace] at hplain
    exact absurd hplain (by decide)
  by_cases hgap : firstGap CString.isblank arg = []
  · simp [Text.squeeze_of_firstGap_nil 1 hgap, hgap]
  · have hrest := htrimmed.afterGap_ne_nil hgap
    have hsqueezed : splitArgument (squeeze CString.isblank ' ' 1 arg) =
        some (firstWord CString.isblank arg, afterGap CString.isblank arg) := by
      unfold splitArgument
      rw [cut_squeeze 0 hgap, Option.bind_some, squeeze, hskip, if_neg hrest]
    rw [hsqueezed]
    rcases gap_cases arg with hnil | ⟨tail, hspace⟩ | ⟨tail, htab⟩
    · exact absurd hnil hgap
    · rw [← spaces_iff hspace]
      unfold splitArgument
      rw [cut_of_space hspace, Option.bind_some, List.dropWhile_append, hskip]
      by_cases hspaces : tail.dropWhile (· = ' ') = []
      · simp [hspaces, hrest]
      · simp [hspaces, hrest]
    · have hother : some (firstWord CString.isblank arg, afterGap CString.isblank arg) ≠ splitArgument arg := by
        intro hsplit
        obtain ⟨parts, hcut, hparts⟩ := Option.bind_eq_some_iff.1 hsplit.symm
        apply cut_of_tab htab hcut
        by_cases hnil : parts.2.dropWhile (· = ' ') = []
        · simp [hnil] at hparts
        · simp only [hnil, if_false, Option.some.injEq, Prod.mk.injEq] at hparts
          exact hparts.1
      simp [hother, htab]

end Pairs

section Dates

variable {b b' : Char}

theorem isspace_of_isblank (hb : CString.isblank b = true) : CString.isspace b = true := by
  simp only [CString.isblank, Bool.or_eq_true, decide_eq_true_eq] at hb
  rcases hb with rfl | rfl <;> rfl

theorem digitValue_of_isblank (hb : CString.isblank b = true) : CString.digitValue b = 36 := by
  simp only [CString.isblank, Bool.or_eq_true, decide_eq_true_eq] at hb
  rcases hb with rfl | rfl <;> decide

theorem scanSign_append {s : CString} (hs : s ≠ []) (rest : CString) :
    CString.scanSign (s ++ rest) = ((CString.scanSign s).1, (CString.scanSign s).2 ++ rest) := by
  cases s with
  | nil => exact absurd rfl hs
  | cons c s =>
    by_cases hminus : c = '-'
    · rw [hminus]
      rfl
    · by_cases hplus : c = '+'
      · rw [hplus]
        rfl
      · have hsign (t : CString) : CString.scanSign (c :: t) = (1, c :: t) := by
          unfold CString.scanSign
          split
          · next heq => exact absurd (List.cons.inj heq).1 hminus
          · next heq => exact absurd (List.cons.inj heq).1 hplus
          · rfl
        rw [List.cons_append, hsign, hsign, List.cons_append]

theorem digits_append_blank (hb : CString.isblank b = true) (s rest : CString) :
    CString.digits 10 (s ++ b :: rest) = CString.digits 10 s := by
  unfold CString.digits
  rw [List.takeWhile_append, List.takeWhile_cons_of_neg (by simp [digitValue_of_isblank hb]), List.append_nil]
  split
  · next hall => exact ((List.takeWhile_prefix _).eq_of_length hall).symm
  · rfl

/-- A number ends before a blank; blanks before it are skipped. -/
theorem scanNumber_append_blank (hb : CString.isblank b = true) (s rest : CString) :
    CString.scanNumber (s ++ b :: rest) = if s.dropWhile CString.isspace = [] then CString.scanNumber rest
      else (CString.scanNumber s).map fun number ↦ (number.1, number.2 ++ b :: rest) := by
  have hdrop : (s ++ b :: rest).dropWhile CString.isspace =
      if s.dropWhile CString.isspace = [] then rest.dropWhile CString.isspace
      else s.dropWhile CString.isspace ++ b :: rest := by
    rw [List.dropWhile_append, List.dropWhile_cons_of_pos (isspace_of_isblank hb)]
    simp
  unfold CString.scanNumber
  rw [hdrop]
  by_cases hs : s.dropWhile CString.isspace = []
  · rw [if_pos hs, if_pos hs]
  · rw [if_neg hs, if_neg hs, scanSign_append hs]
    simp only [digits_append_blank hb]
    cases hdigits : CString.digits 10 (CString.scanSign (s.dropWhile CString.isspace)).2 with
    | nil => rfl
    | cons c number =>
      have hlength : number.length + 1 ≤ (CString.scanSign (s.dropWhile CString.isspace)).2.length := by
        have hle := (List.takeWhile_prefix (CString.digitValue · < 10)
          (l := (CString.scanSign (s.dropWhile CString.isspace)).2)).length_le
        have hnumber := congrArg List.length hdigits
        unfold CString.digits at hnumber
        rw [hnumber] at hle
        exact hle
      simp only [Option.map_some, List.drop_append_of_le_length hlength]

theorem scanInt_append_blank (hb : CString.isblank b = true) (s rest : CString) :
    CString.scanInt (s ++ b :: rest) = if s.dropWhile CString.isspace = [] then CString.scanInt rest
      else (CString.scanInt s).map fun number ↦ (number.1, number.2 ++ b :: rest) := by
  unfold CString.scanInt
  rw [scanNumber_append_blank hb]
  split_ifs
  · rfl
  · cases CString.scanNumber s <;> rfl

/-- The dates are read over the blanks between them. -/
theorem reportDates_append_blank (hb : CString.isblank b = true) (hb' : CString.isblank b' = true) (s : CString)
    {rest rest' : CString} (hrest : CString.scanInt rest = CString.scanInt rest') :
    reportDates (s ++ b :: rest) = reportDates (s ++ b' :: rest') := by
  unfold reportDates
  rw [scanInt_append_blank hb, scanInt_append_blank hb', hrest]
  by_cases hs : s.dropWhile CString.isspace = []
  · rw [if_pos hs, if_pos hs]
  · rw [if_neg hs, if_neg hs]
    cases CString.scanInt s with
    | none => rfl
    | some number =>
      simp only [Option.map_some]
      rw [scanInt_append_blank hb, scanInt_append_blank hb', hrest]
      by_cases hnumber : number.2.dropWhile CString.isspace = []
      · rw [if_pos hnumber, if_pos hnumber]
      · rw [if_neg hnumber, if_neg hnumber]
        cases CString.scanInt number.2 <;> rfl

/-- Blanks before a number do not count. -/
theorem scanInt_blanks {gap : CString} (hgap : ∀ c ∈ gap, CString.isblank c = true) (rest : CString) :
    CString.scanInt (gap ++ rest) = CString.scanInt rest := by
  unfold CString.scanInt CString.scanNumber
  rw [List.dropWhile_append_of_pos fun c hc ↦ isspace_of_isblank (hgap c hc)]

/-- One space between the dates is as good as any gap. -/
theorem reportDates_squeeze (text : CString) :
    reportDates (squeeze CString.isblank ' ' 1 text) = reportDates text := by
  by_cases hgap : firstGap CString.isblank text = []
  · rw [Text.squeeze_of_firstGap_nil 1 hgap]
  · obtain ⟨c, tail, htail⟩ := List.exists_cons_of_ne_nil hgap
    have hblank (d : Char) (hd : d ∈ c :: tail) : CString.isblank d = true :=
      Text.blank_of_mem_firstGap (by rw [htail]; exact hd)
    have hskip : CString.scanInt (afterGap CString.isblank text) =
        CString.scanInt (tail ++ afterGap CString.isblank text) :=
      (scanInt_blanks (fun d hd ↦ hblank d (List.mem_cons_of_mem c hd)) _).symm
    calc reportDates (squeeze CString.isblank ' ' 1 text)
        = reportDates (firstWord CString.isblank text ++ ' ' :: afterGap CString.isblank text) := by
          rw [Text.squeeze_of_firstGap_ne_nil 0 hgap, squeeze]
      _ = reportDates (firstWord CString.isblank text ++ c :: (tail ++ afterGap CString.isblank text)) :=
          reportDates_append_blank rfl (hblank c (List.mem_cons_self ..)) _ hskip
      _ = reportDates text := by
          rw [← List.cons_append, ← htail, Text.firstWord_append]

end Dates

section Lists

variable {arg : CString}

theorem getReport_reads_iff :
    Splitter.getReport.extract (squeeze CString.isblank ' ' 2 arg) = Splitter.getReport.extract arg ↔
      Splitter.getReport.Reads arg := by
  rw [extract_getReport, extract_getReport, report_inj, Splitter.Reads]
  rcases gap_cases arg with hgap | ⟨tail, hgap⟩ | ⟨tail, hgap⟩
  · simp [Text.squeeze_of_firstGap_nil 2 hgap, hgap]
  · have hne : firstGap CString.isblank arg ≠ [] := by simp [hgap]
    have htail : CString.scanInt (tail ++ afterGap CString.isblank arg) =
        CString.scanInt (afterGap CString.isblank arg) :=
      scanInt_blanks (fun c hc ↦ Text.blank_of_mem_firstGap (by rw [hgap]; exact List.mem_cons_of_mem _ hc)) _
    have hdates : reportDates (tail ++ afterGap CString.isblank arg) =
        reportDates (afterGap CString.isblank arg) := by
      unfold reportDates
      rw [htail]
    rw [cut_squeeze 1 hne, cut_of_space hgap, hgap]
    simp [reportDates_squeeze, hdates]
  · have hne : firstGap CString.isblank arg ≠ [] := by simp [hgap]
    rw [cut_squeeze 1 hne, hgap]
    cases hcut : arg.cut ' ' with
    | none =>
      have hword : firstWord CString.isblank arg ≠ arg := by
        intro hself
        have hsplit := Text.firstWord_append CString.isblank arg
        rw [hself, List.append_right_eq_self] at hsplit
        exact hne (List.append_eq_nil_iff.1 hsplit).1
      simp [hword]
    | some parts =>
      have hword := cut_of_tab hgap hcut
      simp [Ne.symm hword]

theorem snmpParams_succ (n : ℕ) (s : CString) : snmpParams (n + 1) s =
    firstWord CString.isblank s :: snmpParams n ((s.dropWhile (!CString.isblank ·)).drop 1) := rfl

theorem snmpParams_append_space (n : ℕ) {word : CString} (hword : ∀ c ∈ word, CString.isblank c = false)
    (rest : CString) : snmpParams (n + 1) (word ++ ' ' :: rest) = word :: snmpParams n rest := by
  have hspace : CString.isblank ' ' = true := rfl
  rw [snmpParams_succ, Text.firstWord_append_cons hword hspace, Text.dropWhile_append_cons hword hspace]
  rfl

/-- Every blank ends a parameter, so that a second one makes the next parameter empty. -/
theorem snmpParams_squeeze_iff (n : ℕ) (htrimmed : Trimmed CString.isblank arg) :
    snmpParams (n + 1) (squeeze CString.isblank ' ' n arg) = snmpParams (n + 1) arg ↔
      ∀ gap ∈ gaps CString.isblank n arg, gap.length ≤ 1 := by
  induction n generalizing arg with
  | zero => simp [squeeze, gaps]
  | succ n ih =>
    by_cases hgap : firstGap CString.isblank arg = []
    · have hgaps : ∀ gap ∈ gaps CString.isblank (n + 1) arg, gap.length ≤ 1 := by
        intro gap hmem
        unfold gaps at hmem
        rw [Text.afterGap_eq_nil hgap, hgap, List.mem_cons] at hmem
        rcases hmem with rfl | hmem
        · exact Nat.zero_le 1
        · rw [Text.eq_nil_of_mem_gaps_nil hmem]
          exact Nat.zero_le 1
      rw [Text.squeeze_of_firstGap_nil _ hgap]
      exact iff_of_true rfl hgaps
    · obtain ⟨c, tail, htail⟩ := List.exists_cons_of_ne_nil hgap
      rw [Text.squeeze_of_firstGap_ne_nil n hgap,
        snmpParams_append_space _ fun c hc ↦ Text.blank_of_mem_firstWord hc, snmpParams_succ _ arg,
        ← Text.firstGap_append_afterGap, htail]
      simp only [List.cons_append, List.drop_succ_cons, List.drop_zero, List.cons.injEq, true_and, gaps,
        List.forall_mem_cons, htail]
      cases tail with
      | nil => simp [ih htrimmed.afterGap]
      | cons d tail =>
        have hmem : d ∈ firstGap CString.isblank arg := by simp [htail]
        have hd : CString.isblank d = true := Text.blank_of_mem_firstGap hmem
        have hne := htrimmed.afterGap.firstWord_ne_nil (htrimmed.afterGap_ne_nil hgap)
        have hfirst : firstWord CString.isblank (d :: tail ++ afterGap CString.isblank arg) = [] := by
          simp [firstWord, hd]
        rw [snmpParams_succ, snmpParams_succ, Text.firstWord_squeeze rfl, hfirst]
        simp [hne]

end Lists

/-- A gap between arguments means what one space means exactly where the function reads it so: SDIPUP wants a
single space, `smsexec` and `exec_script` any number of spaces but no tab, GETREPORT a gap that does not begin
with a tab, and SNMPTEST single blanks. -/
theorem squeezed_alike_iff (splitter : Splitter) (line : CString) :
    splitter.extract (squeeze CString.isblank ' ' splitter.leading (splitLine line).2) =
      splitter.extract (splitLine line).2 ↔ splitter.Reads (splitLine line).2 := by
  have htrimmed := trimmed_splitLine line
  cases splitter with
  | doSdIpUp => exact doSdIpUp_reads_iff htrimmed
  | smsexec => exact elim_pair_inj.trans (splitArgument_reads_iff htrimmed)
  | execScript => exact elim_pair_inj.trans (splitArgument_reads_iff htrimmed)
  | getReport => exact getReport_reads_iff
  | doSnmpTest => exact extract_doSnmpTest.trans (snmpParams_squeeze_iff 3 htrimmed)

/-- With two spaces the second one belongs to the address. -/
theorem sdIpUp_two_spaces : ¬∀ (splitter : Splitter) (line : CString),
    splitter.extract (squeeze CString.isblank ' ' splitter.leading (splitLine line).2) =
      splitter.extract (splitLine line).2 := by
  intro halike
  have hextract := halike .doSdIpUp "SDIPUP SD1  10.0.0.1".toList
  exact absurd hextract (by decide)

end CoreEngine.Smsd
