import CoreEngine.Smsd.ConfigFile
import Mathlib.Data.List.Induction

/-!
# Accesses while a configuration is loaded

The accesses of `createConfig` to the elements of its arrays and to the arguments stay in bounds exactly for
the files whose statements are in order: no directive of a section before the first header of its kind, and
no path without an argument.
-/

namespace CoreEngine.Smsd

section Statements

/-- A directive with its argument. -/
abbrev Statement := Directive × CString

def Line.statement (line : Line) : Option Statement :=
  if line.cmd = [] then none else (directiveOf line.cmd).map fun directive ↦ (directive, line.arg)

/-- The statements of a file, in their order. -/
def statements (lines : List Line) : List Statement := lines.filterMap Line.statement

def Directive.opensSms : Directive → Bool
  | .smsSection _ => true
  | _ => false

def Directive.opensSyslog : Directive → Bool
  | .syslogSection _ => true
  | _ => false

/-- The directive belongs to a section of `smsArray`. -/
def Directive.inSms : Directive → Bool
  | .sms _ | .mask => true
  | _ => false

def Directive.inSyslog : Directive → Bool
  | .syslogServer => true
  | _ => false

def Directive.isPath : Directive → Bool
  | .path _ => true
  | _ => false

/-- No directive of a section stands before the first header of its kind, and no path is empty. -/
inductive Orderly : List Statement → Prop
  | nil : Orderly []
  | snoc {before : List Statement} {s : Statement} (hbefore : Orderly before)
      (hsms : s.1.inSms = true → ∃ t ∈ before, t.1.opensSms = true)
      (hsyslog : s.1.inSyslog = true → ∃ t ∈ before, t.1.opensSyslog = true)
      (hpath : s.1.isPath = true → s.2 ≠ []) : Orderly (before ++ [s])

theorem orderly_concat {before : List Statement} {s : Statement} : Orderly (before ++ [s]) ↔
    Orderly before ∧ (s.1.inSms = true → ∃ t ∈ before, t.1.opensSms = true) ∧
      (s.1.inSyslog = true → ∃ t ∈ before, t.1.opensSyslog = true) ∧ (s.1.isPath = true → s.2 ≠ []) := by
  constructor
  · intro horderly
    generalize hall : before ++ [s] = all at horderly
    cases horderly with
    | nil => simp at hall
    | snoc hbefore hsms hsyslog hpath =>
      obtain ⟨rfl, hs⟩ := List.append_inj' hall rfl
      obtain rfl := List.singleton_inj.1 hs
      exact ⟨hbefore, hsms, hsyslog, hpath⟩
  · rintro ⟨hbefore, hsms, hsyslog, hpath⟩
    exact .snoc hbefore hsms hsyslog hpath

theorem statements_concat (before : List Line) (line : Line) :
    statements (before ++ [line]) = statements before ++ line.statement.toList := by
  cases hline : line.statement <;> simp [statements, hline]

theorem orderly_append_toList {before : List Statement} {s : Option Statement} :
    Orderly (before ++ s.toList) ↔ Orderly before ∧
      ∀ t ∈ s, (t.1.inSms = true → ∃ u ∈ before, u.1.opensSms = true) ∧
        (t.1.inSyslog = true → ∃ u ∈ before, u.1.opensSyslog = true) ∧ (t.1.isPath = true → t.2 ≠ []) := by
  cases s with
  | none => simp
  | some t => simp [orderly_concat]

end Statements

section Bounds

def AllInBounds (accesses : List Access) : Prop := ∀ access ∈ accesses, access.InBounds

theorem allInBounds_append {accesses more : List Access} :
    AllInBounds (accesses ++ more) ↔ AllInBounds accesses ∧ AllInBounds more := by
  simp [AllInBounds, or_imp, forall_and]

theorem allInBounds_replicate {access : Access} {count : ℕ} (hcount : 0 < count) :
    AllInBounds (List.replicate count access) ↔ access.InBounds := by
  simp [AllInBounds, Nat.pos_iff_ne_zero.1 hcount]

theorem allInBounds_singleton {access : Access} : AllInBounds [access] ↔ access.InBounds :=
  List.forall_mem_singleton

/-- There is a last element. -/
theorem inBounds_sms_last {n : ℕ} : (Access.sms (n - 1) n).InBounds ↔ 0 < n := by
  simp only [Access.InBounds]
  omega

theorem inBounds_syslog_last {n : ℕ} : (Access.syslog (n - 1) n).InBounds ↔ 0 < n := by
  simp only [Access.InBounds]
  omega

theorem inBounds_text_last {arg : CString} : (Access.text (arg.length - 1) arg.length).InBounds ↔ arg ≠ [] := by
  rw [← List.length_pos_iff_ne_nil]
  simp only [Access.InBounds]
  omega

/-- The loop over trailing blanks stays within the argument. -/
theorem allInBounds_trimFrom {arg : CString} {i : ℕ} (hi : i ≤ arg.length) : AllInBounds (trimFrom arg i).2 := by
  induction i with
  | zero => simp [trimFrom, AllInBounds]
  | succ i ih =>
    have hfirst : (Access.text i arg.length).InBounds := by
      simp only [Access.InBounds]
      omega
    unfold trimFrom
    split_ifs
    · exact List.forall_mem_cons.2 ⟨hfirst, ih (by omega)⟩
    · exact List.forall_mem_singleton.2 hfirst

theorem allInBounds_splitConfigLine (buf : CString) : AllInBounds (splitConfigLine buf).accesses :=
  allInBounds_trimFrom (Nat.le_refl _)

/-- What has been accessed when the loop goes on, or the daemon dies. -/
def reached (outcome : Loading ⊕ List Access) : List Access := outcome.elim Loading.accesses id

variable {memory : Memory}

namespace Loading

theorem reached_setSms (s : Loading) (values : List (SmsField × CString)) {count : ℕ} (hcount : 0 < count) :
    AllInBounds (reached (s.setSms values count)) ↔ AllInBounds s.accesses ∧ 0 < s.config.smsNumber := by
  have hone : AllInBounds [Access.sms (s.config.smsNumber - 1) s.config.smsNumber] ↔ 0 < s.config.smsNumber :=
    allInBounds_singleton.trans inBounds_sms_last
  unfold setSms
  split_ifs
  · exact allInBounds_append.trans (and_congr_right' hone)
  · exact allInBounds_append.trans
      (and_congr_right' ((allInBounds_replicate hcount).trans inBounds_sms_last))

theorem reached_setSyslog (s : Loading) (text : CString) :
    AllInBounds (reached (s.setSyslog text)) ↔ AllInBounds s.accesses ∧ 0 < s.config.syslogNumber := by
  have hone : AllInBounds [Access.syslog (s.config.syslogNumber - 1) s.config.syslogNumber] ↔
      0 < s.config.syslogNumber := allInBounds_singleton.trans inBounds_syslog_last
  unfold setSyslog
  split_ifs
  · exact allInBounds_append.trans (and_congr_right' hone)
  · exact allInBounds_append.trans (and_congr_right' hone)

/-- The character before the terminator is there unless the path is empty. -/
theorem reached_setPath (s : Loading) (field : TextField) (arg : CString) :
    AllInBounds (s.setPath memory field arg).accesses ↔ AllInBounds s.accesses ∧ arg ≠ [] := by
  have hreplicate (count : ℕ) (hcount : 0 < count) :
      AllInBounds (List.replicate count (Access.text (arg.length - 1) arg.length)) ↔ arg ≠ [] :=
    (allInBounds_replicate hcount).trans inBounds_text_last
  unfold setPath
  split_ifs
  · exact allInBounds_append.trans (and_congr_right' (hreplicate 2 (by decide)))
  · exact allInBounds_append.trans (and_congr_right' (hreplicate 1 (by decide)))

/-- The arrays grow with the headers. -/
structure Tracks (config : FileConf) (before : List Statement) : Prop where
  sms : 0 < config.smsNumber ↔ ∃ t ∈ before, t.1.opensSms = true
  syslog : 0 < config.syslogNumber ↔ ∃ t ∈ before, t.1.opensSyslog = true

/-- One directive. -/
theorem reached_apply {s : Loading} {before : List Statement} (hs : Tracks s.config before) (directive : Directive)
    (arg : CString) : AllInBounds (reached (s.apply memory directive arg)) ↔ AllInBounds s.accesses ∧
      (directive.inSms = true → ∃ t ∈ before, t.1.opensSms = true) ∧
      (directive.inSyslog = true → ∃ t ∈ before, t.1.opensSyslog = true) ∧ (directive.isPath = true → arg ≠ []) := by
  rw [← hs.sms, ← hs.syslog]
  cases directive with
  | sms field => simp [apply, reached_setSms, Directive.inSms, Directive.inSyslog, Directive.isPath]
  | mask => simp [apply, reached_setSms, Directive.inSms, Directive.inSyslog, Directive.isPath]
  | syslogServer => simp [apply, reached_setSyslog, Directive.inSms, Directive.inSyslog, Directive.isPath]
  | path field =>
    have hpath : AllInBounds (reached (s.apply memory (.path field) arg)) ↔ _ :=
      reached_setPath s field arg
    simpa [Directive.inSms, Directive.inSyslog, Directive.isPath] using hpath
  | _ => simp [apply, reached, Directive.inSms, Directive.inSyslog, Directive.isPath]

theorem length_modifyLast {α : Type} (f : α → α) {l : List α} (hl : l.length ≠ 0) :
    (l.modifyLast f).length = l.length := by
  induction l using List.reverseRecOn with
  | nil => exact absurd rfl hl
  | append_singleton l a => simp [List.modifyLast_concat]

/-- A field of the last element changes nothing else. -/
theorem setSms_eq_inl {s s' : Loading} {values : List (SmsField × CString)} {count : ℕ}
    (hset : s.setSms values count = .inl s') : s.config.smsNumber ≠ 0 ∧ s'.roles = s.roles ∧
      s'.config = { s.config with smsArray := s'.config.smsArray } ∧
      s'.config.smsArray = s.config.smsArray.modifyLast fun sms ↦
        values.foldl (fun sms value ↦ Function.update sms value.1 (.text value.2)) sms := by
  unfold setSms at hset
  split_ifs at hset with hnone
  rw [← Sum.inl.inj hset]
  exact ⟨hnone, rfl, rfl, rfl⟩

theorem setSyslog_eq_inl {s s' : Loading} {text : CString} (hset : s.setSyslog text = .inl s') :
    s.config.syslogNumber ≠ 0 ∧ s'.roles = s.roles ∧
      s'.config = { s.config with syslogArray := s'.config.syslogArray } ∧
      s'.config.syslogArray = s.config.syslogArray.modifyLast fun syslog ↦
        Function.update syslog .syslogAddIp (.text text) := by
  unfold setSyslog at hset
  split_ifs at hset with hnone
  rw [← Sum.inl.inj hset]
  exact ⟨hnone, rfl, rfl, rfl⟩

theorem setPath_eq (s : Loading) (memory : Memory) (field : TextField) (arg : CString) :
    (s.setPath memory field arg).roles = s.roles ∧
      ∃ text, (s.setPath memory field arg).config = s.config.setText field text := by
  unfold setPath
  split_ifs
  · exact ⟨rfl, arg.dropLast, rfl⟩
  · exact ⟨rfl, arg, rfl⟩

/-- A directive is no error and no line. -/
theorem frame_apply {s s' : Loading} {directive : Directive} {arg : CString}
    (happly : s.apply memory directive arg = .inl s') : s'.err = s.err ∧ s'.lines = s.lines := by
  cases directive <;> simp only [apply, setSms, setSyslog, setPath] at happly
  case path | sms | mask | syslogServer =>
    split_ifs at happly <;> cases happly <;> exact ⟨rfl, rfl⟩
  all_goals
    rw [← Sum.inl.inj happly]
    exact ⟨rfl, rfl⟩

/-- The arrays only grow at a header. -/
theorem numbers_apply {s s' : Loading} {directive : Directive} {arg : CString}
    (happly : s.apply memory directive arg = .inl s') :
    s'.config.smsNumber = s.config.smsNumber + (if directive.opensSms then 1 else 0) ∧
      s'.config.syslogNumber = s.config.syslogNumber + (if directive.opensSyslog then 1 else 0) := by
  have hsms {values : List (SmsField × CString)} {count : ℕ} (hset : s.setSms values count = .inl s') :
      s'.config.smsNumber = s.config.smsNumber ∧ s'.config.syslogNumber = s.config.syslogNumber := by
    obtain ⟨hnone, -, hconfig, harray⟩ := setSms_eq_inl hset
    rw [hconfig, harray]
    exact ⟨length_modifyLast _ hnone, rfl⟩
  cases directive with
  | sms field => exact hsms happly
  | mask => exact hsms happly
  | syslogServer =>
    obtain ⟨hnone, -, hconfig, harray⟩ := setSyslog_eq_inl happly
    rw [hconfig, harray]
    exact ⟨rfl, length_modifyLast _ hnone⟩
  | path field =>
    obtain rfl := Sum.inl.inj happly
    obtain ⟨-, text, hconfig⟩ := setPath_eq s memory field arg
    rw [hconfig]
    exact ⟨rfl, rfl⟩
  | smsSection disaster =>
    obtain rfl := Sum.inl.inj happly
    exact ⟨List.length_append, rfl⟩
  | syslogSection disaster =>
    obtain rfl := Sum.inl.inj happly
    exact ⟨rfl, List.length_append⟩
  | _ =>
    obtain rfl := Sum.inl.inj happly
    exact ⟨rfl, rfl⟩

theorem tracks_apply {s s' : Loading} {before : List Statement} (hs : Tracks s.config before)
    {directive : Directive} {arg : CString} (happly : s.apply memory directive arg = .inl s') :
    Tracks s'.config (before ++ [(directive, arg)]) := by
  obtain ⟨hsms, hsyslog⟩ := numbers_apply happly
  constructor
  · rw [hsms]
    cases hopens : directive.opensSms <;> simp [hopens, hs.sms]
  · rw [hsyslog]
    cases hopens : directive.opensSyslog <;> simp [hopens, hs.syslog]

/-- The daemon dies at an access out of bounds. -/
theorem not_allInBounds_setSms {s : Loading} {values : List (SmsField × CString)} {count : ℕ}
    {accesses : List Access} (hcount : 0 < count) (hdied : s.setSms values count = .inr accesses) :
    ¬AllInBounds accesses := by
  have hreached := reached_setSms s values hcount
  rw [hdied] at hreached
  intro hall
  have hpos := (hreached.1 hall).2
  unfold setSms at hdied
  rw [if_neg (Nat.pos_iff_ne_zero.1 hpos)] at hdied
  exact nomatch hdied

theorem not_allInBounds_setSyslog {s : Loading} {text : CString} {accesses : List Access}
    (hdied : s.setSyslog text = .inr accesses) : ¬AllInBounds accesses := by
  have hreached := reached_setSyslog s text
  rw [hdied] at hreached
  intro hall
  have hpos := (hreached.1 hall).2
  unfold setSyslog at hdied
  rw [if_neg (Nat.pos_iff_ne_zero.1 hpos)] at hdied
  exact nomatch hdied

theorem not_allInBounds_line {s : Loading} {line : Line} {accesses : List Access}
    (hdied : s.line memory line = .inr accesses) : ¬AllInBounds accesses := by
  unfold Loading.line at hdied
  by_cases hcmd : line.cmd = []
  · rw [if_pos hcmd] at hdied
    exact nomatch hdied
  · rw [if_neg hcmd] at hdied
    cases hdirective : directiveOf line.cmd with
    | none =>
      rw [hdirective] at hdied
      exact nomatch hdied
    | some directive =>
      rw [hdirective] at hdied
      cases directive with
      | sms field => exact not_allInBounds_setSms (by decide) hdied
      | mask => exact not_allInBounds_setSms (by decide) hdied
      | syslogServer => exact not_allInBounds_setSyslog hdied
      | _ => exact nomatch hdied

/-- One round of the loop. -/
theorem reached_line {s : Loading} {before : List Statement} (hs : Tracks s.config before) {line : Line}
    (hline : AllInBounds line.accesses) :
    AllInBounds (reached (s.line memory line)) ↔ AllInBounds s.accesses ∧
      ∀ t ∈ line.statement, (t.1.inSms = true → ∃ u ∈ before, u.1.opensSms = true) ∧
        (t.1.inSyslog = true → ∃ u ∈ before, u.1.opensSyslog = true) ∧
        (t.1.isPath = true → t.2 ≠ []) := by
  have hreach : AllInBounds (s.accesses ++ line.accesses) ↔ AllInBounds s.accesses :=
    allInBounds_append.trans (and_iff_left hline)
  unfold Loading.line Line.statement
  by_cases hcmd : line.cmd = []
  · rw [if_pos hcmd, if_pos hcmd]
    exact (and_iff_left fun t ht ↦ nomatch ht).symm
  · rw [if_neg hcmd, if_neg hcmd]
    cases hdirective : directiveOf line.cmd with
    | none => exact hreach.trans (and_iff_left fun t ht ↦ nomatch ht).symm
    | some directive =>
      have hreached : Tracks ({ s with lines := s.lines + 1 }.reach line.accesses).config before := hs
      simp only [reached_apply hreached, Option.map_some, Option.mem_def, Option.some.injEq, forall_eq']
      exact and_congr_left' hreach

/-- A round without a statement leaves the configuration alone; one with a statement applies it. -/
theorem line_cases {s s' : Loading} {line : Line} (hline : s.line memory line = .inl s') :
    line.statement = none ∧ s'.config = s.config ∧ s'.roles = s.roles ∨
    ∃ (directive : Directive) (arg : CString) (s₀ : Loading), line.statement = some (directive, arg) ∧
      s₀.config = s.config ∧ s₀.roles = s.roles ∧ s₀.apply memory directive arg = .inl s' := by
  unfold Loading.line at hline
  unfold Line.statement
  by_cases hcmd : line.cmd = []
  · rw [if_pos hcmd] at hline ⊢
    obtain rfl := Sum.inl.inj hline
    exact .inl ⟨rfl, rfl, rfl⟩
  · rw [if_neg hcmd] at hline ⊢
    cases hdirective : directiveOf line.cmd with
    | none =>
      rw [hdirective] at hline
      obtain rfl := Sum.inl.inj hline
      exact .inl ⟨rfl, rfl, rfl⟩
    | some directive =>
      rw [hdirective] at hline
      exact .inr ⟨directive, line.arg, { s with lines := s.lines + 1 }.reach line.accesses, rfl, rfl, rfl, hline⟩

theorem all_concat (s : Loading) (before : List Line) (line : Line) :
    s.all memory (before ++ [line]) =
      (s.all memory before).elim (fun s ↦ s.line memory line) .inr := by
  induction before generalizing s with
  | nil => cases hline : s.line memory line <;> simp [all, hline]
  | cons first before ih =>
    simp only [List.cons_append, all]
    cases s.line memory first with
    | inl s' => exact ih s'
    | inr accesses => rfl

/-- What holds at the start and is kept by every directive holds at the end of the loop. -/
theorem all_induction {P : List Statement → FileConf → Roles → Prop} {roles : Roles}
    (hstart : P [] .default roles)
    (hstep : ∀ before (s s' : Loading) directive arg, P before s.config s.roles →
      s.apply memory directive arg = .inl s' → P (before ++ [(directive, arg)]) s'.config s'.roles)
    {lines : List Line} {s : Loading} (hall : (start roles).all memory lines = .inl s) :
    P (statements lines) s.config s.roles := by
  induction lines using List.reverseRecOn generalizing s with
  | nil =>
    obtain rfl := Sum.inl.inj hall
    exact hstart
  | append_singleton before line ih =>
    rw [all_concat] at hall
    rw [statements_concat]
    cases hbefore : (start roles).all memory before with
    | inr accesses =>
      rw [hbefore] at hall
      exact nomatch hall
    | inl s₁ =>
      rw [hbefore] at hall
      have hs₁ := ih hbefore
      rcases line_cases hall with ⟨hnone, hconfig, hroles⟩ | ⟨directive, arg, s₀, hsome, hconfig, hroles, happly⟩
      · rw [hnone, hconfig, hroles]
        simpa using hs₁
      · rw [← hconfig, ← hroles] at hs₁
        rw [hsome]
        exact hstep _ s₀ s directive arg hs₁ happly

theorem tracks_all {roles : Roles} {lines : List Line} {s : Loading}
    (hall : (start roles).all memory lines = .inl s) : Tracks s.config (statements lines) := by
  apply all_induction (P := fun before config _ ↦ Tracks config before) ?_ ?_ hall
  · constructor <;> simp [FileConf.default, FileConf.smsNumber, FileConf.syslogNumber]
  · intro before s s' directive arg hs happly
    exact tracks_apply hs happly

theorem not_allInBounds_all {s : Loading} {lines : List Line} {accesses : List Access}
    (hdied : s.all memory lines = .inr accesses) : ¬AllInBounds accesses := by
  induction lines generalizing s with
  | nil => exact nomatch hdied
  | cons line lines ih =>
    unfold all at hdied
    cases hline : s.line memory line with
    | inl s' =>
      rw [hline] at hdied
      exact ih hdied
    | inr accesses' =>
      rw [hline] at hdied
      obtain rfl := Sum.inr.inj hdied
      exact not_allInBounds_line hline

/-- The accesses of the loop are in bounds exactly when the statements are in order. -/
theorem reached_all (roles : Roles) {lines : List Line} (hlines : ∀ line ∈ lines, AllInBounds line.accesses) :
    AllInBounds (reached ((start roles).all memory lines)) ↔ Orderly (statements lines) := by
  induction lines using List.reverseRecOn with
  | nil => exact iff_of_true (fun access haccess ↦ nomatch haccess) .nil
  | append_singleton before line ih =>
    have hbounds := ih fun line hline ↦ hlines line (by simp [hline])
    have hline : AllInBounds line.accesses := hlines line (by simp)
    rw [all_concat, statements_concat, orderly_append_toList]
    cases hall : (start roles).all memory before with
    | inl s =>
      rw [hall] at hbounds
      exact (reached_line (tracks_all hall) hline).trans (and_congr_left' hbounds)
    | inr accesses =>
      rw [hall] at hbounds
      have hdied := not_allInBounds_all hall
      exact iff_of_false hdied fun horderly ↦ hdied (hbounds.2 horderly.1)

end Loading

theorem Check.allInBounds_need {holds : Bool} {checks : List Check}
    (hchecks : holds = true → AllInBounds (Check.all checks).2) :
    AllInBounds (Check.all (.need holds :: checks)).2 := by
  unfold Check.all
  split_ifs with hholds
  · exact hchecks hholds
  · exact List.forall_mem_nil _

theorem Check.allInBounds_field {access : Access} {pointer : Pointer} {checks : List Check}
    (haccess : access.InBounds) (hchecks : AllInBounds (Check.all checks).2) :
    AllInBounds (Check.all (.field access pointer :: checks)).2 := by
  unfold Check.all
  split_ifs
  · exact allInBounds_singleton.2 haccess
  · exact List.forall_mem_cons.2 ⟨haccess, hchecks⟩

/-- The elements that are checked are there, because the numbers are checked before. -/
theorem Check.allInBounds_mandatory (config : FileConf) : AllInBounds (Check.all config.mandatory).2 := by
  have hsyslogs {i : ℕ} (hi : i < config.syslogNumber) : (Access.syslog i config.syslogNumber).InBounds :=
    ⟨Int.natCast_nonneg i, Int.ofNat_lt.2 hi⟩
  have hsmss {i : ℕ} (hi : i < config.smsNumber) : (Access.sms i config.smsNumber).InBounds :=
    ⟨Int.natCast_nonneg i, Int.ofNat_lt.2 hi⟩
  unfold FileConf.mandatory
  apply allInBounds_need
  intro hsyslog
  apply allInBounds_field (hsyslogs (Nat.pos_of_ne_zero (of_decide_eq_true hsyslog)))
  apply allInBounds_need
  intro htwo
  have htwo : config.syslogNumber = 2 := of_decide_eq_true htwo
  apply allInBounds_field (hsyslogs (by omega))
  apply allInBounds_need
  intro hsms
  have hsms : 0 < config.smsNumber := Nat.pos_of_ne_zero (of_decide_eq_true hsms)
  iterate 3 apply allInBounds_field (hsmss hsms)
  apply allInBounds_need
  intro htwo
  have htwo : config.smsNumber = 2 := of_decide_eq_true htwo
  iterate 3 apply allInBounds_field (hsmss (by omega))
  iterate 4 refine allInBounds_need fun _ ↦ ?_
  exact List.forall_mem_nil _

/-- Loading a configuration stays within its arrays and arguments exactly when its statements are in
order. -/
theorem accesses_inBounds_iff (memory : Memory) (roles : Roles) (file : List Char) :
    (∀ access ∈ (createConfig memory roles (some file)).accesses, access.InBounds) ↔
      Orderly (statements (configLines file)) := by
  have hlines : ∀ line ∈ configLines file, AllInBounds line.accesses := by
    intro line hline
    obtain ⟨buf, -, rfl⟩ := List.mem_map.1 hline
    exact allInBounds_splitConfigLine buf
  rw [← @Loading.reached_all memory roles _ hlines]
  change AllInBounds _ ↔ _
  unfold createConfig
  cases hall : (Loading.start roles).all memory (configLines file) with
  | inr accesses =>
    simp only [hall]
    rfl
  | inl s =>
    simp only [hall, Sum.elim_inl]
    unfold Loading.finish
    split_ifs
    · rfl
    · exact allInBounds_append.trans (and_iff_left (Check.allInBounds_mandatory s.config))

/-- A file that starts with the address of a syslog server. -/
theorem accesses_outOfBounds_syslog : ¬∀ access ∈ (createConfig
    ⟨fun _ _ ↦ none, fun _ _ ↦ none, fun _ ↦ 0, fun _ ↦ '\x00'⟩ .initial
    (some "syslog-server 10.0.0.1\n[syslog]\n".toList)).accesses, access.InBounds := by
  decide +kernel

end Bounds

end CoreEngine.Smsd
