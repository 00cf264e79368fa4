import CoreEngine.Smsd.ConfigAccess

/-!
# The sections of a configuration

What an accepted configuration holds in its arrays: an element for each section, a pointer set by the last
directive of its section, or left as the memory was; and the globals that tell the sections apart.
-/

namespace CoreEngine.Smsd

section Sections

/-- The sections of one kind. A header opens a section; other statements belong to the last one. -/
def addStatement (opens : Directive → Bool) (sections : List (List Statement)) (s : Statement) :
    List (List Statement) :=
  if opens s.1 then sections ++ [[]] else sections.modifyLast (· ++ [s])

def sectionsOf (opens : Directive → Bool) (statements : List Statement) : List (List Statement) :=
  statements.foldl (addStatement opens) []

theorem sectionsOf_concat (opens : Directive → Bool) (before : List Statement) (s : Statement) :
    sectionsOf opens (before ++ [s]) = addStatement opens (sectionsOf opens before) s := by
  simp [sectionsOf]

variable {ι : Type}

/-- What the last statement that gives a pointer a string gives it. -/
def lastGiven (given : Statement → ι → Option CString) (statements : List Statement) (field : ι) :
    Option CString :=
  statements.reverse.findSome? fun s ↦ given s field

theorem lastGiven_concat (given : Statement → ι → Option CString) (statements : List Statement) (s : Statement)
    (field : ι) :
    lastGiven given (statements ++ [s]) field = (given s field).or (lastGiven given statements field) := by
  cases hs : given s field <;> simp [lastGiven, hs]

variable (given : ℕ → Statement → ι → Option CString) (leftover : ℕ → ι → Leftover)

/-- A pointer is set by its section, or left as it was. -/
def pointerOf (part : List Statement) (i : ℕ) (field : ι) : Pointer :=
  (lastGiven (given i) part field).elim (leftover i field).pointer .text

/-- The elements that belong to the sections. -/
def elements (sections : List (List Statement)) : List (ι → Pointer) :=
  sections.mapIdx fun i part ↦ pointerOf given leftover part i

/-- What a statement writes to an element. -/
def write (given : Statement → ι → Option CString) (s : Statement) (element : ι → Pointer) (field : ι) :
    Pointer :=
  (given s field).elim (element field) .text

theorem elements_open (sections : List (List Statement)) : elements given leftover (sections ++ [[]]) =
    elements given leftover sections ++ [fun field ↦ (leftover sections.length field).pointer] := by
  rw [elements, List.mapIdx_concat]
  rfl

theorem elements_modifyLast (sections : List (List Statement)) (s : Statement) :
    elements given leftover (sections.modifyLast (· ++ [s])) =
      (elements given leftover sections).modifyLast (write (given (sections.length - 1)) s) := by
  induction sections using List.reverseRecOn with
  | nil => rfl
  | append_singleton sections last =>
    unfold elements
    rw [List.modifyLast_concat, List.mapIdx_concat, List.mapIdx_concat, List.modifyLast_concat,
      List.length_append, List.length_singleton, Nat.add_sub_cancel]
    congr 2
    funext field
    simp only [pointerOf, write, lastGiven_concat]
    cases given sections.length s field <;> rfl

theorem modifyLast_eq_self {α : Type} {f : α → α} (hf : ∀ a, f a = a) (l : List α) : l.modifyLast f = l := by
  induction l using List.reverseRecOn with
  | nil => rfl
  | append_singleton l a => rw [List.modifyLast_concat, hf]

end Sections

section Arrays

variable {memory : Memory}

/-- What a statement gives a pointer of its section. -/
def smsGiven (memory : Memory) (i : ℕ) : Statement → SmsField → Option CString
  | (.sms field, arg), field' => if field' = field then some arg else none
  | (.mask, arg), .smsMaskIp => some arg
  | (.mask, arg), .smsInvertedMaskIp => some (memory.invertedMask i arg)
  | _, _ => none

def syslogGiven : Statement → SyslogField → Option CString
  | (.syslogServer, arg), .syslogAddIp => some arg
  | _, _ => none

/-- An array after one more statement. -/
def extend {ι : Type} (opens : Directive → Bool) (given : ℕ → Statement → ι → Option CString)
    (leftover : ℕ → ι → Leftover) (s : Statement) (array : List (ι → Pointer)) : List (ι → Pointer) :=
  if opens s.1 then array ++ [fun field ↦ (leftover array.length field).pointer]
  else array.modifyLast (write (given (array.length - 1)) s)

theorem extend_elements {ι : Type} (opens : Directive → Bool) (given : ℕ → Statement → ι → Option CString)
    (leftover : ℕ → ι → Leftover) (before : List Statement) (s : Statement) :
    extend opens given leftover s (elements given leftover (sectionsOf opens before)) =
      elements given leftover (sectionsOf opens (before ++ [s])) := by
  rw [sectionsOf_concat]
  unfold extend addStatement
  split_ifs
  · rw [elements_open]
    simp [elements]
  · rw [elements_modifyLast]
    simp [elements]

/-- A statement that gives nothing leaves the array as it is. -/
theorem extend_of_none {ι : Type} {opens : Directive → Bool} {given : ℕ → Statement → ι → Option CString}
    {leftover : ℕ → ι → Leftover} {s : Statement} {array : List (ι → Pointer)} (hopens : opens s.1 = false)
    (hgiven : ∀ i field, given i s field = none) : extend opens given leftover s array = array := by
  rw [extend, hopens]
  apply modifyLast_eq_self
  intro element
  funext field
  simp [write, hgiven]

theorem write_sms (i : ℕ) (field : SmsField) (arg : CString) : write (smsGiven memory i) (.sms field, arg) =
    fun sms ↦ Function.update sms field (.text arg) := by
  funext sms field'
  by_cases hfield : field' = field
  · simp [write, smsGiven, hfield]
  · simp [write, smsGiven, hfield]

theorem write_mask (i : ℕ) (arg : CString) : write (smsGiven memory i) (.mask, arg) = fun sms ↦
    Function.update (Function.update sms .smsMaskIp (.text arg)) .smsInvertedMaskIp
      (.text (memory.invertedMask i arg)) := by
  funext sms field
  cases field <;> rfl

theorem write_syslogServer (arg : CString) : write syslogGiven (.syslogServer, arg) = fun syslog ↦
    Function.update syslog .syslogAddIp (.text arg) := by
  funext syslog field
  cases field
  rfl

namespace Loading

/-- What one directive does to the arrays. -/
theorem arrays_apply {s s' : Loading} {directive : Directive} {arg : CString}
    (happly : s.apply memory directive arg = .inl s') :
    s'.config.smsArray = extend Directive.opensSms (smsGiven memory) memory.sms (directive, arg)
        s.config.smsArray ∧
      s'.config.syslogArray = extend Directive.opensSyslog (fun _ ↦ syslogGiven) memory.syslog (directive, arg)
        s.config.syslogArray := by
  cases directive with
  | sms field =>
    obtain ⟨-, -, hconfig, harray⟩ := setSms_eq_inl happly
    rw [hconfig, harray]
    refine ⟨?_, (extend_of_none rfl fun _ field ↦ by cases field; rfl).symm⟩
    simp [extend, Directive.opensSms, write_sms]
  | mask =>
    obtain ⟨-, -, hconfig, harray⟩ := setSms_eq_inl happly
    rw [hconfig, harray]
    refine ⟨?_, (extend_of_none rfl fun _ field ↦ by cases field; rfl).symm⟩
    simp [extend, Directive.opensSms, write_mask, FileConf.smsNumber]
  | syslogServer =>
    obtain ⟨-, -, hconfig, harray⟩ := setSyslog_eq_inl happly
    rw [hconfig, harray]
    refine ⟨(extend_of_none rfl fun _ field ↦ by cases field <;> rfl).symm, ?_⟩
    simp [extend, Directive.opensSyslog, write_syslogServer]
  | path field =>
    obtain rfl := Sum.inl.inj happly
    obtain ⟨-, text, hconfig⟩ := setPath_eq s memory field arg
    rw [hconfig]
    exact ⟨(extend_of_none rfl fun _ field ↦ by cases field <;> rfl).symm,
      (extend_of_none rfl fun _ field ↦ by cases field; rfl).symm⟩
  | smsSection disaster =>
    obtain rfl := Sum.inl.inj happly
    exact ⟨rfl, (extend_of_none rfl fun _ field ↦ by cases field; rfl).symm⟩
  | syslogSection disaster =>
    obtain rfl := Sum.inl.inj happly
    exact ⟨(extend_of_none rfl fun _ field ↦ by cases field <;> rfl).symm, rfl⟩
  | _ =>
    obtain rfl := Sum.inl.inj happly
    exact ⟨(extend_of_none rfl fun _ field ↦ by cases field <;> rfl).symm,
      (extend_of_none rfl fun _ field ↦ by cases field; rfl).symm⟩

/-- The arrays after the last line: an element for each section, written by its statements. -/
theorem arrays_all {roles : Roles} {lines : List Line} {s : Loading}
    (hall : (start roles).all memory lines = .inl s) :
    s.config.smsArray =
        elements (smsGiven memory) memory.sms (sectionsOf Directive.opensSms (statements lines)) ∧
      s.config.syslogArray =
        elements (fun _ ↦ syslogGiven) memory.syslog (sectionsOf Directive.opensSyslog (statements lines)) := by
  apply all_induction (P := fun before config _ ↦
    config.smsArray = elements (smsGiven memory) memory.sms (sectionsOf Directive.opensSms before) ∧
      config.syslogArray = elements (fun _ ↦ syslogGiven) memory.syslog (sectionsOf Directive.opensSyslog before))
    ?_ ?_ hall
  · exact ⟨rfl, rfl⟩
  · rintro before s s' directive arg ⟨hsms, hsyslog⟩ happly
    obtain ⟨hsms', hsyslog'⟩ := arrays_apply happly
    rw [hsms', hsyslog', hsms, hsyslog, extend_elements, extend_elements]
    exact ⟨rfl, rfl⟩

end Loading

end Arrays

section Complete

variable {memory : Memory}

/-- The statements of a section. -/
def smsSection (file : List Statement) (i : ℕ) : List Statement :=
  (sectionsOf Directive.opensSms file)[i]?.getD []

def syslogSection (file : List Statement) (i : ℕ) : List Statement :=
  (sectionsOf Directive.opensSyslog file)[i]?.getD []

/-- The string that a pointer points to was given by its section. -/
def SetBy (given : Option CString) (pointer : Pointer) : Prop := ∃ text, given = some text ∧ pointer = .text text

/-- Two sections of each kind, with all their addresses; and no pointer left as the memory was. -/
structure Complete (memory : Memory) (file : List Statement) (config : FileConf) : Prop where
  numbers : config.smsNumber = 2 ∧ config.syslogNumber = 2
  sms : ∀ i < 2, ∀ field ∈ [SmsField.smsAddressIp, .smsNetworkIp, .smsMaskIp],
    SetBy (lastGiven (smsGiven memory i) (smsSection file i) field) (config.smsPointer i field)
  syslog : ∀ i < 2, SetBy (lastGiven syslogGiven (syslogSection file i) .syslogAddIp)
    (config.syslogPointer i .syslogAddIp)
  other : ∀ i < 2, ∀ field ∈ [SmsField.smsAddressIpv6, .smsInvertedMaskIp],
    config.smsPointer i field = .null ∨
      SetBy (lastGiven (smsGiven memory i) (smsSection file i) field) (config.smsPointer i field)

/-- Where a section gives a pointer nothing, the memory of its element holds NULL. -/
structure NullWhereUnset (memory : Memory) (file : List Statement) : Prop where
  sms : ∀ i < 2, ∀ field, lastGiven (smsGiven memory i) (smsSection file i) field = none →
    memory.sms i field = none
  syslog : ∀ i < 2, lastGiven syslogGiven (syslogSection file i) .syslogAddIp = none →
    memory.syslog i .syslogAddIp = none

/-- What the checks at the end guarantee. -/
structure Accepted (config : FileConf) : Prop where
  numbers : config.smsNumber = 2 ∧ config.syslogNumber = 2
  sms : ∀ i < 2, ∀ field ∈ [SmsField.smsAddressIp, .smsNetworkIp, .smsMaskIp], config.smsPointer i field ≠ .null
  syslog : ∀ i < 2, config.syslogPointer i .syslogAddIp ≠ .null

def Check.Holds : Check → Prop
  | .need holds => holds = true
  | .field _ pointer => pointer ≠ .null

theorem Check.all_eq_true {checks : List Check} (hall : (Check.all checks).1 = true) :
    ∀ check ∈ checks, check.Holds := by
  induction checks with
  | nil => exact List.forall_mem_nil _
  | cons check checks ih =>
    cases check with
    | need holds =>
      unfold Check.all at hall
      split_ifs at hall with hholds
      exact List.forall_mem_cons.2 ⟨hholds, ih hall⟩
    | field access pointer =>
      unfold Check.all at hall
      split_ifs at hall with hnull
      exact List.forall_mem_cons.2 ⟨hnull, ih hall⟩

theorem accepted_of_mandatory {config : FileConf} (hall : (Check.all config.mandatory).1 = true) :
    Accepted config := by
  have hholds := Check.all_eq_true hall
  simp only [FileConf.mandatory, List.forall_mem_cons, FileConf.smsCheck, FileConf.syslogCheck, Check.Holds,
    decide_eq_true_eq] at hholds
  obtain ⟨-, hsyslog₀, hsyslogs, hsyslog₁, -, ha₀, hn₀, hm₀, hsmss, ha₁, hn₁, hm₁, -⟩ := hholds
  refine ⟨⟨hsmss, hsyslogs⟩, ?_, ?_⟩
  · intro i hi field hfield
    simp only [List.mem_cons, List.not_mem_nil, or_false] at hfield
    obtain rfl | rfl : i = 0 ∨ i = 1 := by omega
    · rcases hfield with rfl | rfl | rfl <;> assumption
    · rcases hfield with rfl | rfl | rfl <;> assumption
  · intro i hi
    obtain rfl | rfl : i = 0 ∨ i = 1 := by omega
    · exact hsyslog₀
    · exact hsyslog₁

/-- What a call that returns a configuration has done. -/
theorem createConfig_eq_some {roles : Roles} {file : List Char} {config : FileConf}
    (hcreate : (createConfig memory roles (some file)).config = some config) :
    ∃ s, (Loading.start roles).all memory (configLines file) = .inl s ∧ config = s.config.withDomain ∧
      Accepted s.config ∧
      ∃ accesses, createConfig memory roles (some file) = .returned (some config) s.roles accesses := by
  unfold createConfig at hcreate ⊢
  cases hall : (Loading.start roles).all memory (configLines file) with
  | inr accesses =>
    simp only [hall] at hcreate
    exact nomatch hcreate
  | inl s =>
    simp only [hall, Sum.elim_inl] at hcreate ⊢
    unfold Loading.finish at hcreate ⊢
    split_ifs at hcreate ⊢ with herr
    · exact nomatch hcreate
    · cases hmandatory : (Check.all s.config.mandatory).1 with
      | false => simp [hmandatory, Created.config] at hcreate
      | true =>
        simp only [hmandatory, if_true, Created.config, Option.some.injEq] at hcreate ⊢
        exact ⟨s, rfl, hcreate.symm, accepted_of_mandatory hmandatory, _, by rw [hcreate]⟩

theorem withDomain_arrays (config : FileConf) : config.withDomain.smsArray = config.smsArray ∧
    config.withDomain.syslogArray = config.syslogArray := by
  unfold FileConf.withDomain
  split_ifs <;> exact ⟨rfl, rfl⟩

theorem withDomain_pointers (config : FileConf) : config.withDomain.smsPointer = config.smsPointer ∧
    config.withDomain.syslogPointer = config.syslogPointer := by
  obtain ⟨hsms, hsyslog⟩ := withDomain_arrays config
  unfold FileConf.smsPointer FileConf.syslogPointer
  rw [hsms, hsyslog]
  exact ⟨rfl, rfl⟩

/-- A pointer of an accepted configuration. -/
theorem pointers_of_accepted {config : FileConf} {file : List Statement} (hconfig : Accepted config)
    (hsms : config.smsArray = elements (smsGiven memory) memory.sms (sectionsOf Directive.opensSms file))
    (hsyslog :
      config.syslogArray = elements (fun _ ↦ syslogGiven) memory.syslog (sectionsOf Directive.opensSyslog file))
    {i : ℕ} (hi : i < 2) : (∀ field, config.smsPointer i field =
        pointerOf (smsGiven memory) memory.sms (smsSection file i) i field) ∧
      ∀ field, config.syslogPointer i field =
        pointerOf (fun _ ↦ syslogGiven) memory.syslog (syslogSection file i) i field := by
  obtain ⟨hsmss, hsyslogs⟩ := hconfig.numbers
  unfold FileConf.smsNumber at hsmss
  unfold FileConf.syslogNumber at hsyslogs
  rw [hsms, elements, List.length_mapIdx] at hsmss
  rw [hsyslog, elements, List.length_mapIdx] at hsyslogs
  constructor
  · intro field
    simp [FileConf.smsPointer, hsms, elements, smsSection, hsmss, hi]
  · intro field
    simp [FileConf.syslogPointer, hsyslog, elements, syslogSection, hsyslogs, hi]

/-- A pointer that is not left as the memory was. -/
theorem setBy_pointerOf {ι : Type} (given : ℕ → Statement → ι → Option CString) {leftover : ℕ → ι → Leftover}
    {part : List Statement} {i : ℕ} {field : ι} :
    (pointerOf given leftover part i field = .null ∨
      SetBy (lastGiven (given i) part field) (pointerOf given leftover part i field)) ↔
      (lastGiven (given i) part field = none → leftover i field = none) := by
  unfold pointerOf SetBy
  cases lastGiven (given i) part field with
  | some text => simp
  | none => cases leftover i field <;> simp [Leftover.pointer]

/-- An accepted configuration is complete exactly when the memory of its elements holds NULL wherever the
file sets nothing. -/
theorem complete_iff_nullWhereUnset {memory : Memory} {roles : Roles} {file : List Char}
    {config : FileConf} (hcreate : (createConfig memory roles (some file)).config = some config) :
    Complete memory (statements (configLines file)) config ↔
      NullWhereUnset memory (statements (configLines file)) := by
  obtain ⟨s, hall, rfl, haccepted, -⟩ := createConfig_eq_some hcreate
  obtain ⟨hsms, hsyslog⟩ := Loading.arrays_all hall
  have hpointers {i : ℕ} (hi : i < 2) := pointers_of_accepted haccepted hsms hsyslog hi
  obtain ⟨hsmsPointer, hsyslogPointer⟩ := withDomain_pointers s.config
  have hnumbers : s.config.withDomain.smsNumber = 2 ∧ s.config.withDomain.syslogNumber = 2 := by
    obtain ⟨hsmsArray, hsyslogArray⟩ := withDomain_arrays s.config
    unfold FileConf.smsNumber FileConf.syslogNumber
    rw [hsmsArray, hsyslogArray]
    exact haccepted.numbers
  constructor
  · intro hcomplete
    constructor
    · intro i hi field
      have hset : s.config.smsPointer i field = .null ∨ SetBy (lastGiven (smsGiven memory i)
          (smsSection (statements (configLines file)) i) field) (s.config.smsPointer i field) := by
        rw [← hsmsPointer]
        cases field with
        | smsAddressIpv6 => exact hcomplete.other i hi _ (by simp)
        | smsInvertedMaskIp => exact hcomplete.other i hi _ (by simp)
        | _ => exact .inr (hcomplete.sms i hi _ (by simp))
      rw [(hpointers hi).1] at hset
      exact (setBy_pointerOf _).1 hset
    · intro i hi
      have hset := hcomplete.syslog i hi
      rw [hsyslogPointer, (hpointers hi).2] at hset
      exact (setBy_pointerOf fun _ ↦ syslogGiven).1 (.inr hset)
  · intro hnull
    have hset {i : ℕ} (hi : i < 2) (field : SmsField) := (setBy_pointerOf (smsGiven memory)).2 (hnull.sms i hi field)
    refine ⟨hnumbers, ?_, ?_, ?_⟩
    · intro i hi field hfield
      have hne := haccepted.sms i hi field hfield
      rw [hsmsPointer, (hpointers hi).1]
      rw [(hpointers hi).1] at hne
      exact (hset hi field).resolve_left hne
    · intro i hi
      have hne := haccepted.syslog i hi
      rw [hsyslogPointer, (hpointers hi).2]
      rw [(hpointers hi).2] at hne
      exact ((setBy_pointerOf fun _ ↦ syslogGiven).2 (hnull.syslog i hi)).resolve_left hne
    · intro i hi field _
      rw [hsmsPointer, (hpointers hi).1]
      exact hset hi field

end Complete

section Plain

def unlines (lines : List CString) : List Char := lines.flatMap (· ++ ['\n'])

/-- A file with all mandatory fields, under the given headers of `smsArray`. -/
def headedFile (first second : String) : List CString :=
  ["[syslog]", "syslog-server 10.0.0.1", "[syslog-disaster]", "syslog-server 10.0.0.2",
    first, "sms-address-ip 10.0.1.1", "sms-server-network 10.0.1.0", "sms-server-mask 255.255.255.0",
    second, "sms-address-ip 10.0.2.1", "sms-server-network 10.0.2.0", "sms-server-mask 255.255.255.0",
    "numsimultaneousingetvpnstatus 1", "dns-default 10.0.0.3", "ubi-vsoc-name a",
    "ubi-centralized-node-name b"].map String.toList

def plainFile : List CString := headedFile "[sms]" "[sms-disaster]"

/-- Memory that holds the same word everywhere. -/
def filledMemory (leftover : Leftover) : Memory := ⟨fun _ _ ↦ leftover, fun _ _ ↦ none, fun _ ↦ 0, fun _ ↦ '\x00'⟩

theorem plainFile_accepted : (createConfig (filledMemory none) .initial
    (some (unlines plainFile))).config.isSome = true := by
  decide +kernel

/-- With memory that is clear, the plain file is accepted and complete. -/
theorem complete_iff_nullWhereUnset_plain : ∃ config,
    (createConfig (filledMemory none) .initial (some (unlines plainFile))).config = some config ∧
      Complete (filledMemory none) (statements (configLines (unlines plainFile))) config := by
  obtain ⟨config, hconfig⟩ := Option.isSome_iff_exists.1 plainFile_accepted
  exact ⟨config, hconfig, (complete_iff_nullWhereUnset hconfig).2 ⟨fun _ _ _ _ ↦ rfl, fun _ _ _ ↦ rfl⟩⟩

/-- With other memory the same file is accepted too, and an address that no directive set is an IPv6 address
of the configuration. -/
theorem accepted_with_leftover : ∃ config,
    (createConfig (filledMemory (some 4096)) .initial (some (unlines plainFile))).config =
        some config ∧
      config.smsPointer 0 .smsAddressIpv6 = .wild 4096 ∧
      ¬Complete (filledMemory (some 4096)) (statements (configLines (unlines plainFile))) config := by
  have hsome : (createConfig (filledMemory (some 4096)) .initial
      (some (unlines plainFile))).config.any
        (fun config ↦ config.smsPointer 0 .smsAddressIpv6 = .wild 4096) = true := by
    decide +kernel
  obtain ⟨config, hconfig, hwild⟩ := (Option.any_eq_true _ _).1 hsome
  have hwild : config.smsPointer 0 .smsAddressIpv6 = .wild 4096 := of_decide_eq_true hwild
  refine ⟨config, hconfig, hwild, fun hcomplete ↦ ?_⟩
  rcases hcomplete.other 0 (by decide) .smsAddressIpv6 (by simp) with hnull | ⟨text, -, htext⟩
  · exact nomatch hwild.symm.trans hnull
  · exact nomatch hwild.symm.trans htext

end Plain

end CoreEngine.Smsd
