import CoreEngine.Smsd.Numerals
import CoreEngine.Smsd.Reload
import CoreEngine.Text.Fields
import Mathlib.Data.List.GetD

/-!
# The nightly backup

`main` splits the time of the backup and its period at their colons, in buffers of a fixed size, and hands
the scheduler a delay and a period in milliseconds. `createConfig` has looked at neither string.
-/

namespace CoreEngine.Smsd

section Numbers

/-- A short string is a short number. -/
theorem natAbs_atoi_lt {s : CString} (hs : s.length < 5) : (atoi s).natAbs < 10 ^ 4 := by
  have hatol : (CString.atol s).natAbs < 10 ^ 4 :=
    (CString.natAbs_atol_lt s).trans_le (Nat.pow_le_pow_right (by decide) (by omega))
  have hfits : CString.FitsInt (CString.atol s) := by
    unfold CString.FitsInt
    omega
  unfold atoi
  rwa [(CString.int32_eq_self_iff _).2 hfits]

end Numbers

section Backup

/-- What ends the daemon: a copy from NULL, or one that does not fit into its buffer. -/
inductive Fault
  | null
  | overflow (size length : ℕ)
  deriving DecidableEq, Repr

/-- `strcpy` into a buffer of `size` characters, which holds the terminator too. -/
def strcpy (size : ℕ) : Option CString → Except Fault CString
  | none => .error .null
  | some text => if text.length < size then .ok text else .error (.overflow size text.length)

/-- What the calls of `strtok` return, up to NULL. -/
def strtok (delim : Char) (text : CString) : List CString := Text.scanFields delim [] text

/-- Three variables of `main`, as far as its loop has assigned them. -/
structure Clock where
  hour : Option Int
  min : Option Int
  sec : Option Int
  deriving DecidableEq, Repr

/-- Three numbers. -/
structure Hms where
  hour : Int
  min : Int
  sec : Int
  deriving DecidableEq, Repr

namespace Clock

def unassigned : Clock := ⟨none, none, none⟩

/-- The `switch` of the loop. -/
def assign (clock : Clock) (i : ℕ) (n : Int) : Clock :=
  match i with
  | 0 => { clock with hour := some n }
  | 1 => { clock with min := some n }
  | 2 => { clock with sec := some n }
  | _ => clock

/-- The loop over the tokens, from the one with number `i` on: each is copied before it is read. -/
def split (clock : Clock) (i : ℕ) : List CString → Except Fault Clock
  | [] => .ok clock
  | result :: results => do
      let token ← strcpy 5 (some result)
      (clock.assign i (atoi token)).split (i + 1) results

/-- The values of the variables. One that was not assigned has what the stack held. -/
def values (clock : Clock) (stack : Hms) : Hms :=
  ⟨clock.hour.getD stack.hour, clock.min.getD stack.min, clock.sec.getD stack.sec⟩

end Clock

/-- A setting is copied and taken apart. -/
def readClock (setting : Option CString) : Except Fault Clock := do
  let text ← strcpy 15 setting
  Clock.unassigned.split 0 (strtok ':' text)

/-- `GPUL_MILLI_PER_SEC`. -/
def milliPerSec : Int := 1000

/-- `hour * 3600 + min * 60 + sec`, in an `int`. -/
def Hms.freq (t : Hms) : Int :=
  CString.int32 (CString.int32 (CString.int32 (t.hour * 3600) + CString.int32 (t.min * 60)) + t.sec)

/-- What `main` reads for the backup, and the delay and the period that it hands the scheduler. -/
structure NightlySave where
  time : Clock
  period : Clock
  freq : Int
  startDelay : Int
  taskPeriod : Int
  deriving DecidableEq, Repr

/-- `gpul_sched_milliseconds_to_date`. -/
abbrev MillisecondsToDate := Int → Int → Int → Int

/-- What `main` does about the backup; `stack` and `stack'` are what its variables hold at first. -/
def nightlySave (toDate : MillisecondsToDate) (stack stack' : Hms) (config : FileConf) :
    Except Fault (Option NightlySave) := do
  if config.numbers .nightlySaveConf = 0 then
    return none
  else
    let time ← readClock (config.texts .saveAllConfTime)
    let period ← readClock (config.texts .saveAllConfFreq)
    let start := time.values stack
    let freq := (period.values stack').freq
    return some
      { time := time
        period := period
        freq := freq
        startDelay := toDate start.hour start.min start.sec
        taskPeriod := CString.int32 (freq * milliPerSec) }

end Backup

section Spec

/-- The seconds of a duration. -/
def Hms.seconds (t : Hms) : Int := 3600 * t.hour + 60 * t.min + t.sec

/-- All three variables are assigned, with these numbers. -/
def Hms.clock (t : Hms) : Clock := ⟨some t.hour, some t.min, some t.sec⟩

/-- The first three fields of a setting. -/
def Hms.ReadFrom (t : Hms) (setting : Option CString) : Prop :=
  ∃ text, setting = some text ∧ ((Text.fields ':' text).take 3).map atoi = [t.hour, t.min, t.sec]

/-- The backup is scheduled as configured. -/
def AsConfigured (toDate : MillisecondsToDate) (config : FileConf) (outcome : Except Fault (Option NightlySave)) :
    Prop :=
  ∃ save time period, outcome = .ok (some save) ∧
    Hms.ReadFrom time (config.texts .saveAllConfTime) ∧ save.time = time.clock ∧
    Hms.ReadFrom period (config.texts .saveAllConfFreq) ∧ save.period = period.clock ∧
    save.startDelay = toDate time.hour time.min time.sec ∧
    save.freq = period.seconds ∧ save.taskPeriod = 1000 * period.seconds

/-- The numbers of the first three fields. -/
def hmsOf (text : CString) : Hms :=
  let number (i : ℕ) : Int := atoi ((Text.fields ':' text).getD i [])
  ⟨number 0, number 1, number 2⟩

/-- A setting that fits into the buffers, and has an hour, a minute and a second. -/
structure Splits (text : CString) : Prop where
  length : text.length < 15
  fields : ∀ field ∈ Text.fields ':' text, field.length < 5
  three : 3 ≤ (Text.fields ':' text).length

/-- The settings with which the backup is scheduled as configured: the period also fits into an `int` when it
is counted in milliseconds. -/
structure Schedulable (time freq : Option CString) : Prop where
  time : ∃ text, time = some text ∧ Splits text
  freq : ∃ text, freq = some text ∧ Splits text ∧ CString.FitsInt (1000 * (hmsOf text).seconds)

end Spec

section Reading

theorem strcpy_eq_ok {size : ℕ} {setting : Option CString} {text : CString} :
    strcpy size setting = .ok text ↔ setting = some text ∧ text.length < size := by
  cases setting with
  | none => simp [strcpy]
  | some s =>
    unfold strcpy
    by_cases hs : s.length < size
    · simp only [if_pos hs, Except.ok.injEq, Option.some.injEq]
      exact ⟨fun heq ↦ ⟨heq, heq ▸ hs⟩, And.left⟩
    · simp only [if_neg hs, reduceCtorEq, Option.some.injEq, false_iff, not_and]
      intro heq
      rwa [← heq]

namespace Clock

/-- The variables after the tokens from number `i` on. -/
def assignAll (clock : Clock) (i : ℕ) : List CString → Clock
  | [] => clock
  | result :: results => (clock.assign i (atoi result)).assignAll (i + 1) results

theorem split_eq_ok {clock clock' : Clock} {i : ℕ} {results : List CString} :
    clock.split i results = .ok clock' ↔
      (∀ result ∈ results, result.length < 5) ∧ clock' = clock.assignAll i results := by
  induction results generalizing clock i with
  | nil => simp [split, assignAll, eq_comm]
  | cons result results ih =>
    unfold split
    cases hcopy : strcpy 5 (some result) with
    | error fault =>
      have hlong : ¬result.length < 5 := fun hlt ↦ by simp [strcpy, hlt] at hcopy
      simp [Except.bind, bind, hlong]
    | ok token =>
      obtain ⟨hresult, hlt⟩ := strcpy_eq_ok.1 hcopy
      obtain rfl := Option.some.inj hresult
      simp [Except.bind, bind, ih, assignAll, hlt]

/-- From the fourth token on nothing is assigned. -/
theorem assignAll_of_le (clock : Clock) {i : ℕ} (hi : 3 ≤ i) (results : List CString) :
    clock.assignAll i results = clock := by
  induction results generalizing i with
  | nil => rfl
  | cons result results ih =>
    have hassign : clock.assign i (atoi result) = clock := by
      unfold assign
      split
      all_goals first | omega | rfl
    rw [assignAll, hassign, ih (by omega)]

/-- The variables after all tokens. -/
theorem assignAll_unassigned (results : List CString) :
    unassigned.assignAll 0 results = ⟨results[0]?.map atoi, results[1]?.map atoi, results[2]?.map atoi⟩ := by
  match results with
  | [] => rfl
  | [_] => rfl
  | [_, _] => rfl
  | hour :: min :: sec :: results =>
    simp only [assignAll]
    rw [assignAll_of_le _ (by decide)]
    rfl

end Clock

theorem readClock_eq_ok {setting : Option CString} {clock : Clock} :
    readClock setting = .ok clock ↔ ∃ text, setting = some text ∧ text.length < 15 ∧
      (∀ field ∈ Text.fields ':' text, field.length < 5) ∧
      clock = Clock.unassigned.assignAll 0 (Text.fields ':' text) := by
  unfold readClock
  cases hcopy : strcpy 15 setting with
  | error fault =>
    have hnone : ∀ text, setting = some text → ¬text.length < 15 := by
      intro text hsetting hlt
      rw [strcpy_eq_ok.2 ⟨hsetting, hlt⟩] at hcopy
      exact nomatch hcopy
    simp only [bind, Except.bind, reduceCtorEq, false_iff, not_exists, not_and]
    intro text hsetting hlt
    exact absurd hlt (hnone text hsetting)
  | ok text =>
    obtain ⟨rfl, hlt⟩ := strcpy_eq_ok.1 hcopy
    have hfields : strtok ':' text = Text.fields ':' text := Text.scanFields_eq_fields List.not_mem_nil text
    simp [bind, Except.bind, Clock.split_eq_ok, hfields, hlt]

/-- Three numbers are read exactly when there are three fields for them. -/
theorem assignAll_eq_clock_iff (results : List CString) (t : Hms) :
    Clock.unassigned.assignAll 0 results = t.clock ↔ (results.take 3).map atoi = [t.hour, t.min, t.sec] := by
  rw [Clock.assignAll_unassigned]
  match results with
  | [] => simp [Hms.clock]
  | [_] => simp [Hms.clock]
  | [_, _] => simp [Hms.clock]
  | _ :: _ :: _ :: _ => simp [Hms.clock]

theorem readFrom_iff {text : CString} {t : Hms} :
    t.ReadFrom (some text) ↔ 3 ≤ (Text.fields ':' text).length ∧ t = hmsOf text := by
  unfold Hms.ReadFrom hmsOf
  simp only [Option.some.injEq, exists_eq_left']
  match Text.fields ':' text with
  | [] => simp
  | [_] => simp
  | [_, _] => simp
  | hour :: min :: sec :: _ =>
    obtain ⟨h, m, s⟩ := t
    simp [eq_comm]

/-- Reading a setting gives all three numbers exactly when it splits. -/
theorem readClock_eq_clock_iff {setting : Option CString} {t : Hms} :
    t.ReadFrom setting ∧ readClock setting = .ok t.clock ↔
      ∃ text, setting = some text ∧ Splits text ∧ t = hmsOf text := by
  constructor
  · rintro ⟨hreads, hread⟩
    obtain ⟨text, rfl, hlength, hfields, -⟩ := readClock_eq_ok.1 hread
    obtain ⟨hthree, ht⟩ := readFrom_iff.1 hreads
    exact ⟨text, rfl, ⟨hlength, hfields, hthree⟩, ht⟩
  · rintro ⟨text, rfl, hsplits, ht⟩
    have hreads : t.ReadFrom (some text) := readFrom_iff.2 ⟨hsplits.three, ht⟩
    refine ⟨hreads, readClock_eq_ok.2 ⟨text, rfl, hsplits.length, hsplits.fields, ?_⟩⟩
    obtain ⟨text', heq, hnumbers⟩ := hreads
    obtain rfl := Option.some.inj heq
    exact ((assignAll_eq_clock_iff _ t).2 hnumbers).symm

end Reading

section Period

theorem natAbs_hmsOf_lt {text : CString} (hsplits : Splits text) :
    (hmsOf text).hour.natAbs < 10 ^ 4 ∧ (hmsOf text).min.natAbs < 10 ^ 4 ∧ (hmsOf text).sec.natAbs < 10 ^ 4 := by
  have hfield (i : ℕ) : (atoi ((Text.fields ':' text).getD i [])).natAbs < 10 ^ 4 := by
    apply natAbs_atoi_lt
    by_cases hi : i < (Text.fields ':' text).length
    · rw [List.getD_eq_getElem _ _ hi]
      exact hsplits.fields _ (List.getElem_mem hi)
    · rw [List.getD_eq_default _ _ (Nat.not_lt.1 hi)]
      decide
  exact ⟨hfield 0, hfield 1, hfield 2⟩

/-- Counted in seconds, no period that fits into the buffers is too long for an `int`. -/
theorem freq_eq_seconds {text : CString} (hsplits : Splits text) : (hmsOf text).freq = (hmsOf text).seconds := by
  obtain ⟨hhour, hmin, hsec⟩ := natAbs_hmsOf_lt hsplits
  generalize hmsOf text = t at hhour hmin hsec
  have hfits {n : Int} (hn : n.natAbs < 2 ^ 31) : CString.int32 n = n := by
    apply (CString.int32_eq_self_iff n).2
    unfold CString.FitsInt
    omega
  unfold Hms.freq Hms.seconds
  rw [hfits (by omega : (t.hour * 3600).natAbs < 2 ^ 31), hfits (by omega : (t.min * 60).natAbs < 2 ^ 31),
    hfits (by omega : (t.hour * 3600 + t.min * 60).natAbs < 2 ^ 31),
    hfits (by omega : (t.hour * 3600 + t.min * 60 + t.sec).natAbs < 2 ^ 31)]
  omega

/-- Counted in milliseconds, it may be. -/
theorem taskPeriod_eq_iff {text : CString} (hsplits : Splits text) :
    CString.int32 ((hmsOf text).freq * milliPerSec) = 1000 * (hmsOf text).seconds ↔
      CString.FitsInt (1000 * (hmsOf text).seconds) := by
  have hproduct : (hmsOf text).freq * milliPerSec = 1000 * (hmsOf text).seconds := by
    rw [freq_eq_seconds hsplits, Int.mul_comm]
    rfl
  rw [hproduct, CString.int32_eq_self_iff]

end Period

section Main

variable {memory : Memory} {roles : Roles} {file : List Char} {config : FileConf}

/-- A string of an accepted configuration: what its last directive gave it. -/
theorem text_of_accepted (hcreate : (createConfig memory roles (some file)).config = some config)
    {text : TextField} (htext : text ≠ .fmcRepository ∧ text ≠ .fmcEntities2files) (hdomain : text ≠ .domain) :
    config.texts text = lastGiven textGiven (statements (configLines file)) text := by
  obtain ⟨s, hall, rfl, -⟩ := createConfig_eq_some hcreate
  rw [← texts_of_all hall htext]
  unfold FileConf.withDomain
  split_ifs
  · simp [FileConf.setText, hdomain]
  · rfl

/-- With the flag set, both settings are read. -/
theorem nightlySave_eq_some {toDate : MillisecondsToDate} {stack stack' : Hms}
    (hflag : config.numbers .nightlySaveConf ≠ 0) {save : NightlySave} :
    nightlySave toDate stack stack' config = .ok (some save) ↔
      ∃ time period, readClock (config.texts .saveAllConfTime) = .ok time ∧
        readClock (config.texts .saveAllConfFreq) = .ok period ∧
        save = ⟨time, period, (period.values stack').freq,
          toDate (time.values stack).hour (time.values stack).min (time.values stack).sec,
          CString.int32 ((period.values stack').freq * milliPerSec)⟩ := by
  unfold nightlySave
  rw [if_neg hflag]
  cases readClock (config.texts .saveAllConfTime) with
  | error fault => simp [bind, Except.bind]
  | ok time =>
    cases readClock (config.texts .saveAllConfFreq) with
    | error fault => simp [bind, Except.bind]
    | ok period => simp [bind, Except.bind, pure, Except.pure, eq_comm]

/-- The backup of an accepted configuration is scheduled as configured exactly when both settings fit, have
three fields, and the period in milliseconds fits into an `int`. -/
theorem asConfigured_iff (hcreate : (createConfig memory roles (some file)).config = some config)
    (hflag : config.numbers .nightlySaveConf ≠ 0) (toDate : MillisecondsToDate) (stack stack' : Hms) :
    AsConfigured toDate config (nightlySave toDate stack stack' config) ↔
      Schedulable (lastGiven textGiven (statements (configLines file)) .saveAllConfTime)
        (lastGiven textGiven (statements (configLines file)) .saveAllConfFreq) := by
  rw [← text_of_accepted hcreate (by decide) (by decide), ← text_of_accepted hcreate (by decide) (by decide)]
  constructor
  · rintro ⟨save, time, period, hsave, htime, hclock, hperiod, hclock', -, -, htask⟩
    obtain ⟨clock, clock', hread, hread', rfl⟩ := (nightlySave_eq_some hflag).1 hsave
    obtain rfl : clock = time.clock := hclock
    obtain rfl : clock' = period.clock := hclock'
    obtain ⟨text, htext, hsplits, -⟩ := readClock_eq_clock_iff.1 ⟨htime, hread⟩
    obtain ⟨text', htext', hsplits', rfl⟩ := readClock_eq_clock_iff.1 ⟨hperiod, hread'⟩
    exact ⟨⟨text, htext, hsplits⟩, text', htext', hsplits', (taskPeriod_eq_iff hsplits').1 htask⟩
  · rintro ⟨⟨text, htext, hsplits⟩, text', htext', hsplits', hfits⟩
    obtain ⟨htime, hread⟩ := readClock_eq_clock_iff.2 ⟨text, htext, hsplits, rfl⟩
    obtain ⟨hperiod, hread'⟩ := readClock_eq_clock_iff.2 ⟨text', htext', hsplits', rfl⟩
    exact ⟨_, hmsOf text, hmsOf text', (nightlySave_eq_some hflag).2 ⟨_, _, hread, hread', rfl⟩, htime, rfl,
      hperiod, rfl, rfl, freq_eq_seconds hsplits', (taskPeriod_eq_iff hsplits').2 hfits⟩

end Main

section Plain

/-- The plain file with a backup at eight o'clock. -/
def backupFile (freq : String) : List CString :=
  plainFileWith ["nightly-save-conf 1", "save-all-conf-time 08:00:00", freq]

/-- What the backup needs of a configuration. -/
def backupSettings (config : FileConf) : Int × Option CString × Option CString :=
  (config.numbers .nightlySaveConf, config.texts .saveAllConfTime, config.texts .saveAllConfFreq)

/-- What a file says about the backup. -/
def settingsGiven (file : List Statement) : Option CString × Option CString :=
  (lastGiven textGiven file .saveAllConfTime, lastGiven textGiven file .saveAllConfFreq)

/-- Every day is possible. -/
theorem asConfigured_iff_daily : ∃ config,
    (createConfig (filledMemory none) .initial
        (some (unlines (backupFile "save-all-conf-freq 24:00:00")))).config = some config ∧
      AsConfigured (fun _ _ _ ↦ 0) config (nightlySave (fun _ _ _ ↦ 0) ⟨0, 0, 0⟩ ⟨0, 0, 0⟩ config) := by
  have hruns : (createConfig (filledMemory none) .initial
      (some (unlines (backupFile "save-all-conf-freq 24:00:00")))).config.any
        (fun config ↦ config.numbers .nightlySaveConf = 1) = true ∧
      settingsGiven (statements (configLines (unlines (backupFile "save-all-conf-freq 24:00:00")))) =
        (some "08:00:00".toList, some "24:00:00".toList) := by
    decide +kernel
  obtain ⟨hany, hgiven⟩ := hruns
  obtain ⟨config, hconfig, hnumber⟩ := (Option.any_eq_true _ _).1 hany
  have hflag : config.numbers .nightlySaveConf = 1 := of_decide_eq_true hnumber
  obtain ⟨htime, hfreq⟩ := Prod.mk.inj hgiven
  refine ⟨config, hconfig, (asConfigured_iff hconfig (by rw [hflag]; decide) _ _ _).2 ?_⟩
  rw [htime, hfreq]
  have hsplits {text : CString} (htext : text ∈ ["08:00:00".toList, "24:00:00".toList]) : Splits text := by
    have hall : ∀ text ∈ ["08:00:00".toList, "24:00:00".toList], text.length < 15 ∧
        (∀ field ∈ Text.fields ':' text, field.length < 5) ∧ 3 ≤ (Text.fields ':' text).length := by
      decide +kernel
    obtain ⟨hlength, hfields, hthree⟩ := hall text htext
    exact ⟨hlength, hfields, hthree⟩
  constructor
  · exact ⟨_, rfl, hsplits (by simp)⟩
  · exact ⟨_, rfl, hsplits (by simp), by decide +kernel⟩

/-- Every 25 days is not: the scheduler is given a negative period. -/
theorem taskPeriod_negative : ∃ config,
    (createConfig (filledMemory none) .initial
        (some (unlines (backupFile "save-all-conf-freq 600:00:00")))).config = some config ∧
      config.numbers .nightlySaveConf ≠ 0 ∧ ∀ toDate stack stack',
        nightlySave toDate stack stack' config = .ok (some
          ⟨⟨some 8, some 0, some 0⟩, ⟨some 600, some 0, some 0⟩, 2160000, toDate 8 0 0, -2134967296⟩) ∧
          ¬AsConfigured toDate config (nightlySave toDate stack stack' config) := by
  have hany : (createConfig (filledMemory none) .initial
      (some (unlines (backupFile "save-all-conf-freq 600:00:00")))).config.any
        (fun config ↦ backupSettings config = (1, some "08:00:00".toList, some "600:00:00".toList)) = true := by
    decide +kernel
  obtain ⟨config, hconfig, hsettings⟩ := (Option.any_eq_true _ _).1 hany
  obtain ⟨hnumber, htime, hfreq⟩ : config.numbers .nightlySaveConf = 1 ∧
      config.texts .saveAllConfTime = some "08:00:00".toList ∧
      config.texts .saveAllConfFreq = some "600:00:00".toList := by
    simpa [backupSettings] using of_decide_eq_true hsettings
  have hflag : config.numbers .nightlySaveConf ≠ 0 := by
    rw [hnumber]
    decide
  have hread : readClock (some "08:00:00".toList) = .ok ⟨some 8, some 0, some 0⟩ := by decide +kernel
  have hread' : readClock (some "600:00:00".toList) = .ok ⟨some 600, some 0, some 0⟩ := by decide +kernel
  refine ⟨config, hconfig, hflag, fun toDate stack stack' ↦ ?_⟩
  have hsave : nightlySave toDate stack stack' config = .ok (some
      ⟨⟨some 8, some 0, some 0⟩, ⟨some 600, some 0, some 0⟩, 2160000, toDate 8 0 0, -2134967296⟩) := by
    rw [nightlySave_eq_some hflag, htime, hfreq]
    exact ⟨_, _, hread, hread', rfl⟩
  refine ⟨hsave, ?_⟩
  rintro ⟨save, time, period, hok, -, -, -, hclock, -, -, htask⟩
  rw [hsave] at hok
  obtain rfl := Option.some.inj (Except.ok.inj hok)
  obtain rfl : period = ⟨600, 0, 0⟩ := by
    obtain ⟨hour, min, sec⟩ := period
    simpa [Hms.clock, eq_comm] using hclock
  have hexact : (-2134967296 : Int) = 1000 * Hms.seconds ⟨600, 0, 0⟩ := htask
  exact absurd hexact (by decide)

end Plain

end CoreEngine.Smsd
