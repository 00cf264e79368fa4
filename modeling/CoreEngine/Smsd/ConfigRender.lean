import CoreEngine.Smsd.ConfigHeap
import CoreEngine.Smsd.ConfigText

/-!
# Writing a configuration down

A configuration as a file: one line for each string, number and command, then the sections. Whatever file
`createConfig` has accepted, it makes the same configuration of the file that is written for it.
-/

namespace CoreEngine.Smsd

section Written

def TextField.isPath (field : TextField) : Bool := field = .fmcRepository || field = .fmcEntities2files

/-- A path is written with a slash where it would lose its last character or its blanks, or would be
missing. -/
def writtenPath (path : CString) : CString :=
  if path.getLastD '/' = '/' ∨ CString.isblank (path.getLastD '/') then path ++ ['/'] else path

def Pointer.given : Pointer → Option CString
  | .text s => some s
  | _ => none

def NumberField.all : List NumberField :=
  [.port, .loglevel, .debug, .numSimultaneous, .smsNumContext, .custNumContext, .numSimultaneousIngetVPNstatus,
    .listRouterToUpdateFromBaseAtStart, .heartBeat, .nightlySaveConf, .alarmSevConfChanged, .alarmUpdateFail,
    .alarmUpdateOk, .localServerSynchroTimeout]

/-- The directives of a section, and the pointers that they set. -/
def smsDirectives : List (Directive × SmsField) :=
  [(.sms .smsAddressIp, .smsAddressIp), (.sms .smsAddressIpv6, .smsAddressIpv6), (.sms .smsNetworkIp, .smsNetworkIp),
    (.mask, .smsMaskIp)]

def syslogDirectives : List (Directive × SyslogField) := [(.syslogServer, .syslogAddIp)]

/-- What is written of an element below its header. -/
def elementStatements {ι : Type} (directives : List (Directive × ι)) (element : ι → Pointer) : List Statement :=
  directives.filterMap fun d ↦ (element d.2).given.map fun text ↦ (d.1, text)

/-- An array, each element below its header. -/
def arrayStatements {ι : Type} (header : Bool → Directive) (directives : List (Directive × ι))
    (array : List (ι → Pointer)) (headers : List Bool) : List Statement :=
  (List.zipWith (fun element disaster ↦ (header disaster, []) :: elementStatements directives element)
    array headers).flatten

namespace FileConf

def textStatement (config : FileConf) (field : TextField) : Option Statement :=
  (config.texts field).map fun text ↦
    if field.isPath then (.path field, writtenPath text) else (.text field, text)

def numberStatement (config : FileConf) (field : NumberField) : Statement :=
  (.number field, CString.showInt (config.numbers field))

/-- The settings, which belong to no section. -/
def settingStatements (config : FileConf) : List Statement :=
  TextField.all.filterMap config.textStatement ++ NumberField.all.map config.numberStatement ++
    config.jsacmdList.map (.jsacmd, ·) ++ config.jsacustcmdList.map (.jsacustcmd, ·)

/-- The statements that are written for a configuration, given the headers of its sections. -/
def statements (config : FileConf) (smsHeaders syslogHeaders : List Bool) : List Statement :=
  config.settingStatements ++ arrayStatements .smsSection smsDirectives config.smsArray smsHeaders ++
    arrayStatements .syslogSection syslogDirectives config.syslogArray syslogHeaders

def render (config : FileConf) (smsHeaders syslogHeaders : List Bool) : List Char :=
  unlines ((config.statements smsHeaders syslogHeaders).map Statement.text)

end FileConf

end Written

section Given

variable {ι : Type} {given : Statement → ι → Option CString}

theorem lastGiven_append (first second : List Statement) (field : ι) : lastGiven given (first ++ second) field =
    (lastGiven given second field).or (lastGiven given first field) := by
  simp [lastGiven, List.findSome?_append]

theorem lastGiven_eq_none {file : List Statement} {field : ι} (hfile : ∀ s ∈ file, given s field = none) :
    lastGiven given file field = none := by
  simpa [lastGiven] using hfile

theorem exists_of_lastGiven {file : List Statement} {field : ι} {text : CString}
    (htext : lastGiven given file field = some text) : ∃ s ∈ file, given s field = some text := by
  obtain ⟨s, hs, hgiven⟩ := List.exists_of_findSome?_eq_some htext
  exact ⟨s, List.mem_reverse.1 hs, hgiven⟩

/-- One statement at most for each field. -/
theorem lastGiven_filterMap [DecidableEq ι] {value : ι → Option CString} {stmt : ι → Option Statement}
    (hstmt : ∀ key field, (stmt key).bind (given · field) = if key = field then value field else none)
    (keys : List ι) (field : ι) :
    lastGiven given (keys.filterMap stmt) field = if field ∈ keys then value field else none := by
  induction keys using List.reverseRecOn with
  | nil => rfl
  | append_singleton keys key ih =>
    have hlast : lastGiven given ([key].filterMap stmt) field = if key = field then value field else none := by
      rw [← hstmt key field]
      cases hkey : stmt key <;> simp [lastGiven, hkey]
    rw [List.filterMap_append, lastGiven_append, hlast, ih]
    by_cases hkey : key = field
    · subst hkey
      by_cases hmem : key ∈ keys <;> simp [hmem]
    · simp [hkey, Ne.symm hkey]

variable {given : ℕ → Statement → ι → Option CString} {opens : Directive → Bool} {leftover : ℕ → ι → Leftover}

theorem mem_of_mem_sectionsOf {file part : List Statement} (hpart : part ∈ sectionsOf opens file) {s : Statement}
    (hs : s ∈ part) : s ∈ file := by
  induction file using List.reverseRecOn generalizing part with
  | nil => exact absurd hpart List.not_mem_nil
  | append_singleton file t ih =>
    rw [sectionsOf_concat] at hpart
    unfold addStatement at hpart
    split_ifs at hpart
    · rcases List.mem_append.1 hpart with hold | hnew
      · exact List.mem_append_left _ (ih hold hs)
      · rw [List.mem_singleton.1 hnew] at hs
        exact absurd hs List.not_mem_nil
    · rcases List.eq_nil_or_concat (sectionsOf opens file) with hnone | ⟨init, last, hsections⟩
      · rw [hnone] at hpart
        exact absurd hpart List.not_mem_nil
      · rw [List.concat_eq_append] at hsections
        rw [hsections, List.modifyLast_concat] at hpart
        rcases List.mem_append.1 hpart with hinit | hlast
        · exact List.mem_append_left _ (ih (by simp [hsections, hinit]) hs)
        · rw [List.mem_singleton.1 hlast] at hs
          rcases List.mem_append.1 hs with hold | hnew
          · exact List.mem_append_left _ (ih (by simp [hsections]) hold)
          · exact List.mem_append_right _ hnew

/-- The array after some more statements. -/
theorem elements_append (before more : List Statement) :
    elements given leftover (sectionsOf opens (before ++ more)) =
      more.foldl (fun array s ↦ extend opens given leftover s array)
      (elements given leftover (sectionsOf opens before)) := by
  induction more using List.reverseRecOn with
  | nil => rw [List.append_nil, List.foldl_nil]
  | append_singleton more s ih =>
    rw [← List.append_assoc, ← extend_elements, ih, List.foldl_append, List.foldl_cons, List.foldl_nil]

theorem elements_eq_foldl (file : List Statement) : elements given leftover (sectionsOf opens file) =
    file.foldl (fun array s ↦ extend opens given leftover s array) [] :=
  elements_append [] file

theorem foldl_extend_of_none {file : List Statement} {array : List (ι → Pointer)}
    (hfile : ∀ s ∈ file, opens s.1 = false ∧ ∀ i field, given i s field = none) :
    file.foldl (fun array s ↦ extend opens given leftover s array) array = array := by
  induction file with
  | nil => rfl
  | cons s file ih =>
    obtain ⟨hs, hrest⟩ := List.forall_mem_cons.1 hfile
    rw [List.foldl_cons, extend_of_none hs.1 hs.2, ih hrest]

/-- A section adds one element, which holds what its statements give. -/
theorem foldl_extend_section {header : Statement} (hheader : opens header.1 = true) {body : List Statement}
    (hbody : ∀ s ∈ body, opens s.1 = false) (array : List (ι → Pointer)) :
    (header :: body).foldl (fun array s ↦ extend opens given leftover s array) array =
      array ++ [pointerOf given leftover body array.length] := by
  induction body using List.reverseRecOn with
  | nil =>
    rw [List.foldl_cons, List.foldl_nil, extend, if_pos hheader]
    rfl
  | append_singleton body s ih =>
    have hs : opens s.1 = false := hbody s (by simp)
    rw [← List.cons_append, List.foldl_append, ih fun t ht ↦ hbody t (by simp [ht]), List.foldl_cons, List.foldl_nil,
      extend, hs, if_neg Bool.false_ne_true, List.modifyLast_concat, List.length_append, List.length_singleton,
      Nat.add_sub_cancel]
    congr 2
    funext field
    simp only [pointerOf, write, lastGiven_concat]
    cases given array.length s field <;> rfl

/-- An array that is written is read back, if each element comes from what is written of it. -/
theorem foldl_extend_array {header : Bool → Directive} (hheader : ∀ disaster, opens (header disaster) = true)
    {directives : List (Directive × ι)} (hdirectives : ∀ d ∈ directives, opens d.1 = false)
    {array : List (ι → Pointer)} {headers : List Bool} (hlength : headers.length = array.length)
    (before : List (ι → Pointer))
    (harray : ∀ i element, array[i]? = some element →
      pointerOf given leftover (elementStatements directives element) (before.length + i) = element) :
    (arrayStatements header directives array headers).foldl (fun array s ↦ extend opens given leftover s array)
      before = before ++ array := by
  induction array generalizing before headers with
  | nil =>
    rw [List.eq_nil_of_length_eq_zero hlength, List.append_nil]
    rfl
  | cons element array ih =>
    cases headers with
    | nil => exact absurd hlength (by simp)
    | cons disaster headers =>
      have hbody : ∀ s ∈ elementStatements directives element, opens s.1 = false := by
        intro s hs
        obtain ⟨d, hd, hs⟩ := List.mem_filterMap.1 hs
        obtain ⟨text, -, rfl⟩ := Option.map_eq_some_iff.1 hs
        exact hdirectives d hd
      have hfirst := harray 0 element rfl
      rw [Nat.add_zero] at hfirst
      unfold arrayStatements
      rw [List.zipWith_cons_cons, List.flatten_cons, List.foldl_append,
        foldl_extend_section (hheader disaster) hbody, hfirst]
      have hrest := ih (Nat.succ_injective hlength) (before ++ [element]) fun i other hother ↦ by
        have hplace : (before ++ [element]).length + i = before.length + (i + 1) := by
          rw [List.length_append, List.length_singleton]
          omega
        rw [hplace]
        exact harray (i + 1) other hother
      rw [List.append_assoc, List.singleton_append] at hrest
      exact hrest

end Given

section Texts

variable {memory : Memory}

def pathText (arg : CString) : CString := if arg.getLast? = some '/' then arg.dropLast else arg

/-- What a statement gives a string, which for a path is the path without its slash. -/
def textOf : Statement → TextField → Option CString
  | (.text field, arg), field' => if field' = field then some arg else none
  | (.path field, arg), field' => if field' = field then some (pathText arg) else none
  | _, _ => none

/-- The character before an empty path makes no difference to it. -/
theorem setPath_config (s : Loading) (memory : Memory) (field : TextField) (arg : CString) :
    (s.setPath memory field arg).config = s.config.setText field (pathText arg) := by
  unfold Loading.setPath pathText
  cases hlast : arg.getLast? with
  | none =>
    rw [List.getLast?_eq_none_iff.1 hlast]
    split_ifs <;> rfl
  | some c =>
    have hget : arg.getLastD (memory.before s.lines) = c := by
      rw [List.getLastD_eq_getLast?, hlast, Option.getD_some]
    rw [hget]
    by_cases hc : c = '/'
    · simp [hc, Loading.reach]
    · simp [hc, Loading.reach]

theorem texts_apply {s s' : Loading} {directive : Directive} {arg : CString}
    (happly : s.apply memory directive arg = .inl s') (field : TextField) :
    s'.config.texts field = (textOf (directive, arg) field).or (s.config.texts field) := by
  by_cases hpath : directive = .path field
  · subst hpath
    rw [← Sum.inl.inj happly, setPath_config]
    simp [textOf, FileConf.setText]
  · rw [Loading.settings_apply hpath happly]
    congr 1
    cases directive with
    | path other =>
      have hfield : field ≠ other := fun heq ↦ hpath (by rw [heq])
      simp [textGiven, textOf, hfield]
    | _ => rfl

/-- The strings after the last line. -/
theorem texts_all {roles : Roles} {lines : List Line} {s : Loading}
    (hall : (Loading.start roles).all memory lines = .inl s) (field : TextField) :
    s.config.texts field = lastGiven textOf (statements lines) field := by
  apply Loading.all_induction
    (P := fun before config _ ↦ config.texts field = lastGiven textOf before field) rfl ?_ hall
  intro before s s' directive arg hbefore happly
  rw [texts_apply happly, lastGiven_concat, hbefore]

theorem textOf_eq_some {directive : Directive} {arg text : CString} {field : TextField}
    (hgives : textOf (directive, arg) field = some text) :
    directive = .text field ∧ arg = text ∨ directive = .path field ∧ pathText arg = text := by
  cases directive with
  | text other =>
    simp only [textOf, Option.ite_none_right_eq_some, Option.some.injEq] at hgives
    exact .inl ⟨by rw [hgives.1], hgives.2⟩
  | path other =>
    simp only [textOf, Option.ite_none_right_eq_some, Option.some.injEq] at hgives
    exact .inr ⟨by rw [hgives.1], hgives.2⟩
  | _ => exact absurd hgives (by simp [textOf])

/-- The two paths are the strings that no directive sets plainly. -/
theorem isPath_eq_false {field : TextField} (hknown : (Directive.text field).Known) : field.isPath = false := by
  have htable : ∀ d ∈ directives, d.2 ≠ .text .fmcRepository ∧ d.2 ≠ .text .fmcEntities2files := by decide
  obtain ⟨cmd, hcmd⟩ := hknown
  rcases directiveOf_cases hcmd with heq | heq | hmem
  · exact Directive.noConfusion heq
  · exact Directive.noConfusion heq
  · obtain ⟨hrepository, hentities⟩ := htable _ hmem
    have hrepository' : field ≠ .fmcRepository := fun heq ↦ hrepository (by rw [heq])
    have hentities' : field ≠ .fmcEntities2files := fun heq ↦ hentities (by rw [heq])
    simp [TextField.isPath, hrepository', hentities']

theorem isPath_eq_true {field : TextField} (hknown : (Directive.path field).Known) : field.isPath = true := by
  obtain ⟨cmd, hcmd⟩ := hknown
  rcases directiveOf_eq_path hcmd with rfl | rfl <;> rfl

theorem pathText_writtenPath (path : CString) : pathText (writtenPath path) = path := by
  unfold pathText writtenPath
  split_ifs with hslash hlast hlast
  · exact List.dropLast_concat
  · exact absurd (List.getLast?_concat) hlast
  · rw [List.getLastD_eq_getLast?, hlast, Option.getD_some] at hslash
    exact absurd (.inl rfl) hslash
  · rfl

/-- A path that came out of a file can be written. -/
theorem written_path {field : TextField} {arg : CString} (hwritten : Written (.path field, arg)) :
    Written (.path field, writtenPath (pathText arg)) := by
  have hslash : CleanArg ['/'] := .of_solid (by decide)
  unfold writtenPath
  rcases List.eq_nil_or_concat arg with rfl | ⟨path, c, rfl⟩
  · exact .of_short hwritten.known hslash (by decide)
  · rw [List.concat_eq_append] at hwritten ⊢
    by_cases hc : c = '/'
    · subst hc
      have hpath : pathText (path ++ ['/']) = path := by
        rw [pathText, if_pos List.getLast?_concat, List.dropLast_concat]
      rw [hpath]
      split_ifs with hlast
      · exact hwritten
      · rw [not_or, Bool.not_eq_true] at hlast
        refine ⟨hwritten.known, ⟨fun d hd ↦ hwritten.clean.inner d (List.mem_append_left _ hd), fun d hd ↦ ?_,
          fun d hd ↦ ?_⟩, ?_⟩
        · apply hwritten.clean.first d
          cases path with
          | nil => exact absurd hd (by simp)
          | cons e path => exact hd
        · rw [List.getLastD_eq_getLast?, hd, Option.getD_some] at hlast
          exact hlast.2
        · refine Nat.le_trans ?_ hwritten.fits
          simp [Statement.text]
    · have hpath : pathText (path ++ [c]) = path ++ [c] := by
        rw [pathText, if_neg]
        rw [List.getLast?_concat, Option.some.injEq]
        exact hc
      have hlast : (path ++ [c]).getLastD '/' = c := by
        rw [List.getLastD_eq_getLast?, List.getLast?_concat, Option.getD_some]
      have hsolid := hwritten.clean.last c List.getLast?_concat
      rw [hpath, hlast, hsolid, if_neg]
      · exact hwritten
      · simp [hc]

end Texts

section Elements

variable {memory : Memory}

theorem not_known_mask {directive : Directive} (hknown : directive.Known) :
    directive ≠ .sms .smsMaskIp ∧ directive ≠ .sms .smsInvertedMaskIp := by
  have htable : ∀ d ∈ directives, d.2 ≠ .sms .smsMaskIp ∧ d.2 ≠ .sms .smsInvertedMaskIp := by decide
  obtain ⟨cmd, hcmd⟩ := hknown
  rcases directiveOf_cases hcmd with rfl | rfl | hmem
  · decide
  · decide
  · exact htable _ hmem

theorem smsGiven_inverted {s : Statement} (hknown : s.1.Known) (i : ℕ) :
    smsGiven memory i s .smsInvertedMaskIp = (smsGiven memory i s .smsMaskIp).map (memory.invertedMask i) := by
  obtain ⟨directive, arg⟩ := s
  obtain ⟨hmask, hinverted⟩ := not_known_mask hknown
  cases directive with
  | sms field =>
    have hmask' : SmsField.smsMaskIp ≠ field := fun heq ↦ hmask (by rw [heq])
    have hinverted' : SmsField.smsInvertedMaskIp ≠ field := fun heq ↦ hinverted (by rw [heq])
    simp [smsGiven, hmask', hinverted']
  | _ => rfl

/-- The inverted mask goes with the mask. -/
theorem lastGiven_inverted {part : List Statement} (hpart : ∀ s ∈ part, s.1.Known) (i : ℕ) :
    lastGiven (smsGiven memory i) part .smsInvertedMaskIp =
      (lastGiven (smsGiven memory i) part .smsMaskIp).map (memory.invertedMask i) := by
  induction part using List.reverseRecOn with
  | nil => rfl
  | append_singleton part s ih =>
    rw [lastGiven_concat, lastGiven_concat, ih fun t ht ↦ hpart t (by simp [ht]),
      smsGiven_inverted (hpart s (by simp))]
    cases smsGiven memory i s .smsMaskIp <;> rfl

/-- What is written of an element gives its pointers again. -/
theorem lastGiven_smsElement (i : ℕ) (element : Sms) (field : SmsField) :
    lastGiven (smsGiven memory i) (elementStatements smsDirectives element) field = match field with
      | .smsInvertedMaskIp => (element .smsMaskIp).given.map (memory.invertedMask i)
      | field => (element field).given := by
  unfold elementStatements smsDirectives
  cases haddress : (element .smsAddressIp).given <;> cases haddress6 : (element .smsAddressIpv6).given <;>
    cases hnetwork : (element .smsNetworkIp).given <;> cases hmask : (element .smsMaskIp).given <;>
      cases field <;> simp [lastGiven, smsGiven, haddress, haddress6, hnetwork, hmask]

theorem lastGiven_syslogElement (element : Syslog) (field : SyslogField) :
    lastGiven syslogGiven (elementStatements syslogDirectives element) field = (element field).given := by
  cases field
  unfold elementStatements syslogDirectives
  cases haddress : (element .syslogAddIp).given <;> simp [lastGiven, syslogGiven, haddress]

variable {ι : Type} {given : ℕ → Statement → ι → Option CString} {leftover : ℕ → ι → Leftover}

theorem given_pointerOf (part : List Statement) (i : ℕ) (field : ι) :
    (pointerOf given leftover part i field).given = lastGiven (given i) part field := by
  unfold pointerOf
  cases lastGiven (given i) part field with
  | some text => rfl
  | none => cases leftover i field <;> rfl

/-- An element comes back if what is written of it gives what its section gave. -/
theorem pointerOf_congr {part part' : List Statement} {i : ℕ}
    (hgiven : ∀ field, lastGiven (given i) part' field = lastGiven (given i) part field) :
    pointerOf given leftover part' i = pointerOf given leftover part i := by
  funext field
  unfold pointerOf
  rw [hgiven]

theorem pointerOf_smsElement {leftover : ℕ → SmsField → Leftover} {part : List Statement}
    (hpart : ∀ s ∈ part, s.1.Known) (i : ℕ) : pointerOf (smsGiven memory) leftover
      (elementStatements smsDirectives (pointerOf (smsGiven memory) leftover part i)) i =
        pointerOf (smsGiven memory) leftover part i := by
  apply pointerOf_congr
  intro field
  rw [lastGiven_smsElement]
  cases field with
  | smsInvertedMaskIp =>
    simp only
    rw [given_pointerOf, lastGiven_inverted hpart]
  | _ => exact given_pointerOf part i _

theorem pointerOf_syslogElement {leftover : ℕ → SyslogField → Leftover} (part : List Statement) (i : ℕ) :
    pointerOf (fun _ ↦ syslogGiven) leftover
        (elementStatements syslogDirectives (pointerOf (fun _ ↦ syslogGiven) leftover part i)) i =
      pointerOf (fun _ ↦ syslogGiven) leftover part i := by
  apply pointerOf_congr
  intro field
  rw [lastGiven_syslogElement, given_pointerOf]

theorem getElem?_elements (sections : List (List Statement)) (i : ℕ) :
    (elements given leftover sections)[i]? = sections[i]?.map fun part ↦ pointerOf given leftover part i :=
  List.getElem?_mapIdx

end Elements

section Parts

variable {ι : Type}

theorem mem_settingStatements {config : FileConf} {s : Statement} (hs : s ∈ config.settingStatements) :
    (∃ field, config.textStatement field = some s) ∨ (∃ field, s = config.numberStatement field) ∨
      (∃ arg ∈ config.jsacmdList, s = (.jsacmd, arg)) ∨ ∃ arg ∈ config.jsacustcmdList, s = (.jsacustcmd, arg) := by
  unfold FileConf.settingStatements at hs
  simp only [List.mem_append, List.mem_filterMap, List.mem_map, or_assoc] at hs
  rcases hs with ⟨field, -, hs⟩ | ⟨field, -, rfl⟩ | ⟨arg, harg, rfl⟩ | ⟨arg, harg, rfl⟩
  · exact .inl ⟨field, hs⟩
  · exact .inr (.inl ⟨field, rfl⟩)
  · exact .inr (.inr (.inl ⟨arg, harg, rfl⟩))
  · exact .inr (.inr (.inr ⟨arg, harg, rfl⟩))

theorem directive_of_textStatement {config : FileConf} {field : TextField} {s : Statement}
    (hs : config.textStatement field = some s) : s.1 = .path field ∨ s.1 = .text field := by
  obtain ⟨text, -, rfl⟩ := Option.map_eq_some_iff.1 hs
  split_ifs
  · exact .inl rfl
  · exact .inr rfl

/-- A setting is one of four kinds of directives. -/
theorem directive_of_setting {config : FileConf} {s : Statement} (hs : s ∈ config.settingStatements) :
    (∃ field, s.1 = .path field) ∨ (∃ field, s.1 = .text field) ∨ (∃ field, s.1 = .number field) ∨
      s.1 = .jsacmd ∨ s.1 = .jsacustcmd := by
  rcases mem_settingStatements hs with ⟨field, hs⟩ | ⟨field, rfl⟩ | ⟨arg, -, rfl⟩ | ⟨arg, -, rfl⟩
  · rcases directive_of_textStatement hs with hpath | htext
    · exact .inl ⟨field, hpath⟩
    · exact .inr (.inl ⟨field, htext⟩)
  · exact .inr (.inr (.inl ⟨field, rfl⟩))
  · exact .inr (.inr (.inr (.inl rfl)))
  · exact .inr (.inr (.inr (.inr rfl)))

theorem mem_arrayStatements {header : Bool → Directive} {directives : List (Directive × ι)}
    {array : List (ι → Pointer)} {headers : List Bool} {s : Statement}
    (hs : s ∈ arrayStatements header directives array headers) :
    (∃ disaster, s = (header disaster, [])) ∨
      ∃ element ∈ array, ∃ d ∈ directives, s.1 = d.1 ∧ (element d.2).given = some s.2 := by
  obtain ⟨part, hpart, hs⟩ := List.mem_flatten.1 hs
  obtain ⟨i, hi, rfl⟩ := List.mem_iff_getElem.1 hpart
  rw [List.getElem_zipWith] at hs
  rcases List.mem_cons.1 hs with rfl | hs
  · exact .inl ⟨_, rfl⟩
  · obtain ⟨d, hd, hs⟩ := List.mem_filterMap.1 hs
    obtain ⟨text, htext, rfl⟩ := Option.map_eq_some_iff.1 hs
    exact .inr ⟨_, List.getElem_mem _, d, hd, rfl, htext⟩

/-- The headers of the sections that are written. -/
theorem headersOf_arrayStatements {kind : Directive → Option Bool} {header : Bool → Directive}
    (hheader : ∀ disaster, kind (header disaster) = some disaster) {directives : List (Directive × ι)}
    (hdirectives : ∀ d ∈ directives, kind d.1 = none) {array : List (ι → Pointer)} {headers : List Bool}
    (hlength : headers.length = array.length) :
    headersOf kind (arrayStatements header directives array headers) = headers := by
  induction array generalizing headers with
  | nil =>
    rw [List.eq_nil_of_length_eq_zero hlength]
    rfl
  | cons element array ih =>
    cases headers with
    | nil => exact absurd hlength (by simp)
    | cons disaster headers =>
      have hbody : (elementStatements directives element).filterMap (fun s ↦ kind s.1) = [] := by
        rw [List.filterMap_eq_nil_iff]
        intro s hs
        obtain ⟨d, hd, hs⟩ := List.mem_filterMap.1 hs
        obtain ⟨text, -, rfl⟩ := Option.map_eq_some_iff.1 hs
        exact hdirectives d hd
      have hrest := ih (Nat.succ_injective hlength)
      unfold headersOf arrayStatements at hrest ⊢
      rw [List.zipWith_cons_cons, List.flatten_cons, List.filterMap_append, hrest, List.filterMap_cons, hheader,
        hbody]
      rfl

end Parts

section Order

theorem orderly_append {before more : List Statement} (hbefore : Orderly before)
    (hmore : ∀ s ∈ more, (s.1.inSms = true → ∃ t ∈ before, t.1.opensSms = true) ∧
      (s.1.inSyslog = true → ∃ t ∈ before, t.1.opensSyslog = true) ∧ (s.1.isPath = true → s.2 ≠ [])) :
    Orderly (before ++ more) := by
  induction more using List.reverseRecOn with
  | nil => rwa [List.append_nil]
  | append_singleton more s ih =>
    obtain ⟨hsms, hsyslog, hpath⟩ := hmore s (by simp)
    rw [← List.append_assoc, orderly_concat]
    refine ⟨ih fun t ht ↦ hmore t (by simp [ht]), fun hs ↦ ?_, fun hs ↦ ?_, hpath⟩
    · obtain ⟨t, ht, hopens⟩ := hsms hs
      exact ⟨t, List.mem_append_left _ ht, hopens⟩
    · obtain ⟨t, ht, hopens⟩ := hsyslog hs
      exact ⟨t, List.mem_append_left _ ht, hopens⟩

variable {ι : Type} {header : Bool → Directive} {directives : List (Directive × ι)}

/-- Every section has its header. -/
theorem orderly_arrayStatements {before : List Statement} (hbefore : Orderly before)
    (hheader : ∀ disaster, (header disaster).inSms = false ∧ (header disaster).inSyslog = false ∧
      (header disaster).isPath = false)
    (hdirectives : ∀ d ∈ directives, (d.1.inSms = true → ∀ disaster, (header disaster).opensSms = true) ∧
      (d.1.inSyslog = true → ∀ disaster, (header disaster).opensSyslog = true) ∧ d.1.isPath = false)
    (array : List (ι → Pointer)) (headers : List Bool) :
    Orderly (before ++ arrayStatements header directives array headers) := by
  induction array generalizing before headers with
  | nil =>
    unfold arrayStatements
    rwa [List.zipWith_nil_left, List.flatten_nil, List.append_nil]
  | cons element array ih =>
    cases headers with
    | nil =>
      unfold arrayStatements
      rwa [List.zipWith_nil_right, List.flatten_nil, List.append_nil]
    | cons disaster headers =>
      obtain ⟨hsms, hsyslog, hpath⟩ := hheader disaster
      have hopened : Orderly (before ++ [(header disaster, [])]) := by
        rw [orderly_concat]
        exact ⟨hbefore, by simp [hsms], by simp [hsyslog], by simp [hpath]⟩
      have hsection : Orderly (before ++ [(header disaster, [])] ++ elementStatements directives element) := by
        apply orderly_append hopened
        intro s hs
        obtain ⟨d, hd, hs⟩ := List.mem_filterMap.1 hs
        obtain ⟨text, -, rfl⟩ := Option.map_eq_some_iff.1 hs
        obtain ⟨hsms, hsyslog, hpath⟩ := hdirectives d hd
        refine ⟨fun hs ↦ ⟨(header disaster, []), by simp, hsms hs disaster⟩,
          fun hs ↦ ⟨(header disaster, []), by simp, hsyslog hs disaster⟩, fun hs ↦ ?_⟩
        rw [hpath] at hs
        exact absurd hs Bool.false_ne_true
      have hrest := ih hsection headers
      unfold arrayStatements at hrest ⊢
      rw [List.zipWith_cons_cons, List.flatten_cons]
      simpa [List.append_assoc] using hrest

end Order

section Loaded

variable {memory : Memory}

theorem err_line {s s' : Loading} {line : Line} (hline : line.Understood)
    (hdone : s.line memory line = .inl s') : s'.err = s.err := by
  unfold Loading.line at hdone
  by_cases hcmd : line.cmd = []
  · rw [if_pos hcmd] at hdone
    rw [← Sum.inl.inj hdone]
  · obtain ⟨directive, hdirective⟩ := Option.isSome_iff_exists.1 (hline.resolve_left hcmd)
    rw [if_neg hcmd, hdirective] at hdone
    exact (Loading.frame_apply hdone).1

/-- A file of statements is no error. -/
theorem err_all {lines : List Line} (hlines : ∀ line ∈ lines, line.Understood) {s s' : Loading}
    (hall : s.all memory lines = .inl s') : s'.err = s.err := by
  induction lines generalizing s with
  | nil => rw [← Sum.inl.inj hall]
  | cons line lines ih =>
    obtain ⟨hline, hrest⟩ := List.forall_mem_cons.1 hlines
    unfold Loading.all at hall
    cases hdone : s.line memory line with
    | inl s₁ =>
      rw [hdone] at hall
      rw [ih hrest hall, err_line hline hdone]
    | inr accesses =>
      rw [hdone] at hall
      exact absurd hall Sum.inr_ne_inl

/-- Statements in order are loaded to the end, within all bounds. -/
theorem exists_all {lines : List Line} (horderly : Orderly (statements lines))
    (hlines : ∀ line ∈ lines, AllInBounds line.accesses) (roles : Roles) :
    ∃ s, (Loading.start roles).all memory lines = .inl s ∧ AllInBounds s.accesses := by
  have hbounds := (@Loading.reached_all memory roles _ hlines).2 horderly
  cases hall : (Loading.start roles).all memory lines with
  | inl s =>
    rw [hall] at hbounds
    exact ⟨s, rfl, hbounds⟩
  | inr accesses =>
    rw [hall] at hbounds
    exact absurd hbounds (Loading.not_allInBounds_all hall)

theorem mandatory_withDomain (config : FileConf) : config.withDomain.mandatory = config.mandatory := by
  unfold FileConf.withDomain
  split_ifs <;> rfl

theorem withDomain_eq_self {config : FileConf} (hdomain : config.texts .domain ≠ none) :
    config.withDomain = config := by
  unfold FileConf.withDomain
  rw [if_neg hdomain]

end Loaded

section Render

variable {memory : Memory} {file : List Statement} {config : FileConf}

/-- A configuration as the statements of a file make it, and its domain. -/
structure Made (memory : Memory) (file : List Statement) (config : FileConf) : Prop where
  written : ∀ s ∈ file, s.1 ≠ .heading → Written s
  texts : ∀ field text, config.texts field = some text →
    lastGiven textOf file field = some text ∨ field = .domain ∧ text = "ubiqube.net".toList
  numbers : ∀ field, config.numbers field = numberOf file field
  smsArray : config.smsArray = elements (smsGiven memory) memory.sms (sectionsOf Directive.opensSms file)
  syslogArray :
    config.syslogArray = elements (fun _ ↦ syslogGiven) memory.syslog (sectionsOf Directive.opensSyslog file)
  jsacmdList : config.jsacmdList = argsOf .jsacmd file
  jsacustcmdList : config.jsacustcmdList = argsOf .jsacustcmd file
  headers : (headersOf Directive.smsHeader file).length = config.smsArray.length ∧
    (headersOf Directive.syslogHeader file).length = config.syslogArray.length

theorem Made.withDomain (hmade : Made memory file config) : Made memory file config.withDomain := by
  unfold FileConf.withDomain
  split_ifs
  · refine { hmade with texts := fun field text htext ↦ ?_ }
    by_cases hfield : field = .domain
    · subst hfield
      simp only [FileConf.setText, Function.update_self, Option.some.injEq] at htext
      exact .inr ⟨rfl, htext.symm⟩
    · simp only [FileConf.setText, Function.update_of_ne hfield] at htext
      exact hmade.texts field text htext
  · exact hmade

theorem made_of_all {roles : Roles} {text : List Char} {s : Loading}
    (hall : (Loading.start roles).all memory (configLines text) = .inl s) :
    Made memory (statements (configLines text)) s.config := by
  obtain ⟨hsmsArray, hsyslogArray⟩ := Loading.arrays_all hall
  obtain ⟨hjsacmd, hjsacustcmd⟩ := lists_all hall
  obtain ⟨-, hsms, hsyslog⟩ := Loading.roles_all hall
  exact
    { written := fun _ hs ↦ written_of_mem hs
      texts := fun field _ htext ↦ .inl (texts_all hall field ▸ htext)
      numbers := numbers_of_all hall
      smsArray := hsmsArray
      syslogArray := hsyslogArray
      jsacmdList := hjsacmd
      jsacustcmdList := hjsacustcmd
      headers := ⟨hsms.symm, hsyslog.symm⟩ }

theorem Made.fitsInt (hmade : Made memory file config) (field : NumberField) :
    CString.FitsInt (config.numbers field) := by
  rw [hmade.numbers]
  exact fitsInt_numberOf file field

theorem Made.known (hmade : Made memory file config) {s : Statement} (hs : s ∈ file) : s.1.Known := by
  by_cases hheading : s.1 = .heading
  · rw [hheading]
    exact ⟨"[jsacmd]".toList, by decide⟩
  · exact (hmade.written s hs hheading).known

/-- Every string can be written. -/
theorem Made.written_text (hmade : Made memory file config) {field : TextField} {s : Statement}
    (hs : config.textStatement field = some s) : Written s := by
  obtain ⟨text, htext, rfl⟩ := Option.map_eq_some_iff.1 hs
  rcases hmade.texts field text htext with hgiven | ⟨rfl, rfl⟩
  · obtain ⟨⟨directive, arg⟩, hmem, hgives⟩ := exists_of_lastGiven hgiven
    have hknown := hmade.known hmem
    rcases textOf_eq_some hgives with ⟨rfl, rfl⟩ | ⟨rfl, rfl⟩
    · rw [isPath_eq_false hknown, if_neg Bool.false_ne_true]
      exact hmade.written _ hmem Directive.noConfusion
    · rw [isPath_eq_true hknown, if_pos rfl]
      exact written_path (hmade.written _ hmem Directive.noConfusion)
  · exact .of_short ⟨"domain".toList, by decide⟩ (.of_solid (by decide)) (by decide)

theorem Made.written_setting (hmade : Made memory file config) {s : Statement}
    (hs : s ∈ config.settingStatements) : Written s := by
  rcases mem_settingStatements hs with ⟨field, hs⟩ | ⟨field, rfl⟩ | ⟨arg, harg, rfl⟩ | ⟨arg, harg, rfl⟩
  · exact hmade.written_text hs
  · exact written_number field (hmade.fitsInt field)
  · rw [hmade.jsacmdList] at harg
    obtain ⟨⟨directive, other⟩, hmem, hgives⟩ := List.mem_filterMap.1 harg
    split_ifs at hgives with hdirective
    obtain rfl := Option.some.inj hgives
    obtain rfl : directive = .jsacmd := hdirective
    exact hmade.written _ hmem Directive.noConfusion
  · rw [hmade.jsacustcmdList] at harg
    obtain ⟨⟨directive, other⟩, hmem, hgives⟩ := List.mem_filterMap.1 harg
    split_ifs at hgives with hdirective
    obtain rfl := Option.some.inj hgives
    obtain rfl : directive = .jsacustcmd := hdirective
    exact hmade.written _ hmem Directive.noConfusion

/-- A pointer that is written was given by a statement of the file. -/
theorem exists_of_given {ι : Type} {given : ℕ → Statement → ι → Option CString} {leftover : ℕ → ι → Leftover}
    {opens : Directive → Bool} {element : ι → Pointer}
    (helement : element ∈ elements given leftover (sectionsOf opens file)) {field : ι} {text : CString}
    (htext : (element field).given = some text) : ∃ i, ∃ s ∈ file, given i s field = some text := by
  obtain ⟨i, hi, rfl⟩ := List.mem_mapIdx.1 helement
  rw [given_pointerOf] at htext
  obtain ⟨s, hs, hgiven⟩ := exists_of_lastGiven htext
  exact ⟨i, s, mem_of_mem_sectionsOf (List.getElem_mem hi) hs, hgiven⟩

theorem known_header (disaster : Bool) :
    (Directive.smsSection disaster).Known ∧ (Directive.syslogSection disaster).Known := by
  cases disaster
  · exact ⟨⟨"[sms]".toList, by decide⟩, ⟨"[syslog]".toList, by decide⟩⟩
  · exact ⟨⟨"[sms-disaster]".toList, by decide⟩, ⟨"[syslog-disaster]".toList, by decide⟩⟩

/-- The directive that is written for a pointer is the one that set it. -/
theorem smsGiven_eq_some {directive : Directive} (hknown : directive.Known) {d : Directive × SmsField}
    (hd : d ∈ smsDirectives) {i : ℕ} {arg text : CString}
    (hgives : smsGiven memory i (directive, arg) d.2 = some text) :
    directive = d.1 ∧ arg = text := by
  obtain ⟨hmask, -⟩ := not_known_mask hknown
  simp only [smsDirectives, List.mem_cons, List.not_mem_nil, or_false] at hd
  cases directive with
  | sms field =>
    simp only [smsGiven, Option.ite_none_right_eq_some, Option.some.injEq] at hgives
    obtain ⟨rfl, rfl⟩ := hgives
    rcases hd with rfl | rfl | rfl | rfl
    · exact ⟨rfl, rfl⟩
    · exact ⟨rfl, rfl⟩
    · exact ⟨rfl, rfl⟩
    · exact absurd rfl hmask
  | mask =>
    rcases hd with rfl | rfl | rfl | rfl
    · exact absurd hgives (by simp [smsGiven])
    · exact absurd hgives (by simp [smsGiven])
    · exact absurd hgives (by simp [smsGiven])
    · exact ⟨rfl, Option.some.inj hgives⟩
  | _ => rcases hd with rfl | rfl | rfl | rfl <;> exact absurd hgives (by simp [smsGiven])

theorem Made.written_sms (hmade : Made memory file config) {headers : List Bool} {s : Statement}
    (hs : s ∈ arrayStatements .smsSection smsDirectives config.smsArray headers) : Written s := by
  rcases mem_arrayStatements hs with ⟨disaster, rfl⟩ | ⟨element, helement, d, hd, hdirective, htext⟩
  · exact .of_short (known_header disaster).1 .nil (by simp)
  · rw [hmade.smsArray] at helement
    obtain ⟨i, ⟨directive, arg⟩, hmem, hgives⟩ := exists_of_given helement htext
    obtain ⟨directive', text⟩ := s
    obtain rfl : directive' = d.1 := hdirective
    obtain ⟨rfl, rfl⟩ := smsGiven_eq_some (hmade.known hmem) hd hgives
    have htable : ∀ d ∈ smsDirectives, d.1 ≠ .heading := by decide
    exact hmade.written _ hmem (htable d hd)

theorem Made.written_syslog (hmade : Made memory file config) {headers : List Bool} {s : Statement}
    (hs : s ∈ arrayStatements .syslogSection syslogDirectives config.syslogArray headers) : Written s := by
  rcases mem_arrayStatements hs with ⟨disaster, rfl⟩ | ⟨element, helement, d, hd, hdirective, htext⟩
  · exact .of_short (known_header disaster).2 .nil (by simp)
  · rw [hmade.syslogArray] at helement
    obtain ⟨i, ⟨directive, arg⟩, hmem, hgives⟩ := exists_of_given helement htext
    obtain ⟨directive', text⟩ := s
    obtain rfl : d = (.syslogServer, .syslogAddIp) := List.mem_singleton.1 hd
    obtain rfl : directive' = .syslogServer := hdirective
    cases directive with
    | syslogServer =>
      obtain rfl := Option.some.inj hgives
      exact hmade.written _ hmem Directive.noConfusion
    | _ => exact absurd hgives (by simp [syslogGiven])

/-- Every statement of a configuration can be written. -/
theorem Made.written_statements (hmade : Made memory file config) (smsHeaders syslogHeaders : List Bool) :
    ∀ s ∈ config.statements smsHeaders syslogHeaders, Written s := by
  unfold FileConf.statements
  rw [List.forall_mem_append, List.forall_mem_append]
  exact ⟨⟨fun _ ↦ hmade.written_setting, fun _ ↦ hmade.written_sms⟩, fun _ ↦ hmade.written_syslog⟩

/-- The settings say nothing of a section, and no section says anything of a setting. -/
theorem sections_of_setting {s : Statement} (hs : s ∈ config.settingStatements) : s.1.opensSms = false ∧
    s.1.opensSyslog = false ∧ s.1.inSms = false ∧ s.1.inSyslog = false ∧ s.1.smsHeader = none ∧
    s.1.syslogHeader = none ∧ (∀ memory i field, smsGiven memory i s field = none) ∧
    ∀ field, syslogGiven s field = none := by
  obtain ⟨directive, arg⟩ := s
  rcases directive_of_setting hs with ⟨field, heq⟩ | ⟨field, heq⟩ | ⟨field, heq⟩ | heq | heq <;>
    obtain rfl : directive = _ := heq <;>
    exact ⟨rfl, rfl, rfl, rfl, rfl, rfl, fun _ _ field ↦ by cases field <;> rfl, fun field ↦ by cases field; rfl⟩

theorem sections_of_sms {headers : List Bool} {s : Statement}
    (hs : s ∈ arrayStatements .smsSection smsDirectives config.smsArray headers) : s.1.opensSyslog = false ∧
    s.1.syslogHeader = none ∧ (∀ field, syslogGiven s field = none) ∧ (∀ field, textOf s field = none) ∧
    (∀ field, numberGiven s field = none) ∧ s.1 ≠ .jsacmd ∧ s.1 ≠ .jsacustcmd := by
  obtain ⟨directive, arg⟩ := s
  have hkinds : (∃ disaster, directive = .smsSection disaster) ∨ (∃ field, directive = .sms field) ∨
      directive = .mask := by
    rcases mem_arrayStatements hs with ⟨disaster, heq⟩ | ⟨element, -, d, hd, heq, -⟩
    · exact .inl ⟨disaster, congrArg Prod.fst heq⟩
    · obtain rfl : directive = d.1 := heq
      have htable : ∀ d ∈ smsDirectives, (∃ field, d.1 = .sms field) ∨ d.1 = .mask := by
        simp [smsDirectives]
      exact .inr (htable d hd)
  rcases hkinds with ⟨disaster, rfl⟩ | ⟨field, rfl⟩ | rfl <;>
    exact ⟨rfl, rfl, fun field ↦ by cases field; rfl, fun _ ↦ rfl, fun _ ↦ rfl, Directive.noConfusion,
      Directive.noConfusion⟩

theorem sections_of_syslog {headers : List Bool} {s : Statement}
    (hs : s ∈ arrayStatements .syslogSection syslogDirectives config.syslogArray headers) :
    s.1.opensSms = false ∧ s.1.smsHeader = none ∧ (∀ memory i field, smsGiven memory i s field = none) ∧
    (∀ field, textOf s field = none) ∧ (∀ field, numberGiven s field = none) ∧ s.1 ≠ .jsacmd ∧
    s.1 ≠ .jsacustcmd := by
  obtain ⟨directive, arg⟩ := s
  have hkinds : (∃ disaster, directive = .syslogSection disaster) ∨ directive = .syslogServer := by
    rcases mem_arrayStatements hs with ⟨disaster, heq⟩ | ⟨element, -, d, hd, heq, -⟩
    · exact .inl ⟨disaster, congrArg Prod.fst heq⟩
    · obtain rfl : d = (.syslogServer, .syslogAddIp) := List.mem_singleton.1 hd
      exact .inr heq
  rcases hkinds with ⟨disaster, rfl⟩ | rfl <;>
    exact ⟨rfl, rfl, fun _ _ field ↦ by cases field <;> rfl, fun _ ↦ rfl, fun _ ↦ rfl, Directive.noConfusion,
      Directive.noConfusion⟩

/-- The sections say nothing of the strings, the numbers and the lists. -/
theorem lastGiven_statements {ι : Type} {given : Statement → ι → Option CString}
    (smsHeaders syslogHeaders : List Bool) {field : ι}
    (hsms : ∀ s ∈ arrayStatements .smsSection smsDirectives config.smsArray smsHeaders, given s field = none)
    (hsyslog : ∀ s ∈ arrayStatements .syslogSection syslogDirectives config.syslogArray syslogHeaders,
      given s field = none) :
    lastGiven given (config.statements smsHeaders syslogHeaders) field =
      lastGiven given config.settingStatements field := by
  unfold FileConf.statements
  rw [lastGiven_append, lastGiven_eq_none hsyslog, Option.none_or, lastGiven_append, lastGiven_eq_none hsms,
    Option.none_or]

theorem textOf_textStatement (key field : TextField) : (config.textStatement key).bind (textOf · field) =
    if key = field then config.texts field else none := by
  unfold FileConf.textStatement
  by_cases hkey : key = field
  · subst hkey
    rw [if_pos rfl]
    cases config.texts key with
    | none => rfl
    | some text => cases key.isPath <;> simp [textOf, pathText_writtenPath]
  · rw [if_neg hkey]
    cases config.texts key with
    | none => rfl
    | some text => cases key.isPath <;> simp [textOf, Ne.symm hkey]

theorem texts_statements (smsHeaders syslogHeaders : List Bool) (field : TextField) :
    lastGiven textOf (config.statements smsHeaders syslogHeaders) field = config.texts field := by
  have hmem : field ∈ TextField.all := by cases field <;> decide
  calc lastGiven textOf (config.statements smsHeaders syslogHeaders) field
      = lastGiven textOf config.settingStatements field :=
        lastGiven_statements smsHeaders syslogHeaders (fun s hs ↦ (sections_of_sms hs).2.2.2.1 field)
          fun s hs ↦ (sections_of_syslog hs).2.2.2.1 field
    _ = lastGiven textOf (TextField.all.filterMap config.textStatement) field := by
        unfold FileConf.settingStatements
        rw [lastGiven_append, lastGiven_eq_none (by simp [textOf]), Option.none_or, lastGiven_append,
          lastGiven_eq_none (by simp [textOf]), Option.none_or, lastGiven_append,
          lastGiven_eq_none (by simp [FileConf.numberStatement, textOf]), Option.none_or]
    _ = config.texts field := by rw [lastGiven_filterMap textOf_textStatement, if_pos hmem]

theorem numbers_statements (hfits : ∀ field, CString.FitsInt (config.numbers field))
    (smsHeaders syslogHeaders : List Bool) (field : NumberField) :
    numberOf (config.statements smsHeaders syslogHeaders) field = config.numbers field := by
  have hmem : field ∈ NumberField.all := by cases field <;> decide
  have hstmt (key field : NumberField) : (some (config.numberStatement key)).bind (numberGiven · field) =
      if key = field then some (CString.showInt (config.numbers field)) else none := by
    by_cases hkey : key = field
    · simp [FileConf.numberStatement, numberGiven, hkey]
    · simp [FileConf.numberStatement, numberGiven, hkey, Ne.symm hkey]
  have hgiven : lastGiven numberGiven (config.statements smsHeaders syslogHeaders) field =
      some (CString.showInt (config.numbers field)) :=
    calc lastGiven numberGiven (config.statements smsHeaders syslogHeaders) field
        = lastGiven numberGiven config.settingStatements field :=
          lastGiven_statements smsHeaders syslogHeaders (fun s hs ↦ (sections_of_sms hs).2.2.2.2.1 field)
            fun s hs ↦ (sections_of_syslog hs).2.2.2.2.1 field
      _ = lastGiven numberGiven (NumberField.all.filterMap fun key ↦ some (config.numberStatement key)) field := by
          unfold FileConf.settingStatements
          have htexts : ∀ s ∈ TextField.all.filterMap config.textStatement, numberGiven s field = none := by
            intro s hs
            obtain ⟨key, -, hs⟩ := List.mem_filterMap.1 hs
            obtain ⟨directive, arg⟩ := s
            rcases directive_of_textStatement hs with heq | heq <;> obtain rfl : directive = _ := heq <;> rfl
          rw [lastGiven_append, lastGiven_eq_none (by simp [numberGiven]), Option.none_or, lastGiven_append,
            lastGiven_eq_none (by simp [numberGiven]), Option.none_or, lastGiven_append, lastGiven_eq_none htexts,
            Option.or_none, ← List.filterMap_eq_map]
          rfl
      _ = some (CString.showInt (config.numbers field)) := by rw [lastGiven_filterMap hstmt, if_pos hmem]
  unfold numberOf
  rw [hgiven, Option.map_some, Option.getD_some, atoi_showInt (hfits field)]

theorem argsOf_append (directive : Directive) (first second : List Statement) :
    argsOf directive (first ++ second) = argsOf directive first ++ argsOf directive second :=
  List.filterMap_append

theorem argsOf_eq_nil {directive : Directive} {file : List Statement} (hfile : ∀ s ∈ file, s.1 ≠ directive) :
    argsOf directive file = [] := by
  unfold argsOf
  rw [List.filterMap_eq_nil_iff]
  exact fun s hs ↦ if_neg (hfile s hs)

theorem argsOf_map (directive other : Directive) (args : List CString) :
    argsOf directive (args.map fun arg ↦ (other, arg)) = if other = directive then args else [] := by
  unfold argsOf
  rw [List.filterMap_map]
  split_ifs with hsame <;> simp [hsame]

/-- The lists come back in their order. -/
theorem lists_statements (smsHeaders syslogHeaders : List Bool) :
    argsOf .jsacmd (config.statements smsHeaders syslogHeaders) = config.jsacmdList ∧
      argsOf .jsacustcmd (config.statements smsHeaders syslogHeaders) = config.jsacustcmdList := by
  have htexts : ∀ s ∈ TextField.all.filterMap config.textStatement, s.1 ≠ .jsacmd ∧ s.1 ≠ .jsacustcmd := by
    intro s hs
    obtain ⟨key, -, hs⟩ := List.mem_filterMap.1 hs
    rcases directive_of_textStatement hs with heq | heq <;> rw [heq] <;>
      exact ⟨Directive.noConfusion, Directive.noConfusion⟩
  have hnumbers : ∀ s ∈ NumberField.all.map config.numberStatement, s.1 ≠ .jsacmd ∧ s.1 ≠ .jsacustcmd := by
    simp [FileConf.numberStatement]
  unfold FileConf.statements FileConf.settingStatements
  simp only [argsOf_append, argsOf_map]
  rw [argsOf_eq_nil fun s hs ↦ (htexts s hs).1, argsOf_eq_nil fun s hs ↦ (hnumbers s hs).1,
    argsOf_eq_nil fun s hs ↦ (sections_of_sms hs).2.2.2.2.2.1,
    argsOf_eq_nil fun s hs ↦ (sections_of_syslog hs).2.2.2.2.2.1,
    argsOf_eq_nil fun s hs ↦ (htexts s hs).2, argsOf_eq_nil fun s hs ↦ (hnumbers s hs).2,
    argsOf_eq_nil fun s hs ↦ (sections_of_sms hs).2.2.2.2.2.2,
    argsOf_eq_nil fun s hs ↦ (sections_of_syslog hs).2.2.2.2.2.2]
  simp

theorem headers_statements {smsHeaders syslogHeaders : List Bool} (hsms : smsHeaders.length = config.smsArray.length)
    (hsyslog : syslogHeaders.length = config.syslogArray.length) :
    headersOf Directive.smsHeader (config.statements smsHeaders syslogHeaders) = smsHeaders ∧
      headersOf Directive.syslogHeader (config.statements smsHeaders syslogHeaders) = syslogHeaders := by
  have hnone {kind : Directive → Option Bool} {file : List Statement} (hfile : ∀ s ∈ file, kind s.1 = none) :
      headersOf kind file = [] := List.filterMap_eq_nil_iff.2 hfile
  have happend (kind : Directive → Option Bool) (first second : List Statement) :
      headersOf kind (first ++ second) = headersOf kind first ++ headersOf kind second := List.filterMap_append
  unfold FileConf.statements
  rw [happend, happend, happend, happend, hnone fun s hs ↦ (sections_of_setting hs).2.2.2.2.1,
    hnone fun s hs ↦ (sections_of_setting hs).2.2.2.2.2.1,
    hnone fun s hs ↦ (sections_of_sms hs).2.1, hnone fun s hs ↦ (sections_of_syslog hs).2.1,
    headersOf_arrayStatements (fun _ ↦ rfl) (by decide) hsms,
    headersOf_arrayStatements (fun _ ↦ rfl) (by decide) hsyslog]
  simp

/-- The arrays come back, what the memory held included. -/
theorem Made.arrays_statements (hmade : Made memory file config) {smsHeaders syslogHeaders : List Bool}
    (hsms : smsHeaders.length = config.smsArray.length)
    (hsyslog : syslogHeaders.length = config.syslogArray.length) :
    elements (smsGiven memory) memory.sms
        (sectionsOf Directive.opensSms (config.statements smsHeaders syslogHeaders)) = config.smsArray ∧
      elements (fun _ ↦ syslogGiven) memory.syslog
        (sectionsOf Directive.opensSyslog (config.statements smsHeaders syslogHeaders)) = config.syslogArray := by
  have hsettings (s : Statement) (hs : s ∈ config.settingStatements) := sections_of_setting hs
  have hsections (s : Statement) (hs : s ∈ arrayStatements .syslogSection syslogDirectives config.syslogArray
      syslogHeaders) := sections_of_syslog hs
  unfold FileConf.statements
  constructor
  · have harray (i : ℕ) (element : Sms) (helement : config.smsArray[i]? = some element) :
        pointerOf (smsGiven memory) memory.sms (elementStatements smsDirectives element)
          (([] : List Sms).length + i) = element := by
      rw [hmade.smsArray, getElem?_elements] at helement
      obtain ⟨part, hpart, rfl⟩ := Option.map_eq_some_iff.1 helement
      rw [List.length_nil, Nat.zero_add]
      exact pointerOf_smsElement (fun s hs ↦ hmade.known (mem_of_mem_sectionsOf (List.mem_of_getElem? hpart) hs)) i
    rw [elements_eq_foldl, List.foldl_append, List.foldl_append,
      foldl_extend_of_none fun s hs ↦ ⟨(hsettings s hs).1, (hsettings s hs).2.2.2.2.2.2.1 memory⟩,
      foldl_extend_array (fun _ ↦ rfl) (by decide) hsms [] harray, List.nil_append,
      foldl_extend_of_none fun s hs ↦ ⟨(hsections s hs).1, (hsections s hs).2.2.1 memory⟩]
  · have harray (i : ℕ) (element : Syslog) (helement : config.syslogArray[i]? = some element) :
        pointerOf (fun _ ↦ syslogGiven) memory.syslog (elementStatements syslogDirectives element)
          (([] : List Syslog).length + i) = element := by
      rw [hmade.syslogArray, getElem?_elements] at helement
      obtain ⟨part, -, rfl⟩ := Option.map_eq_some_iff.1 helement
      rw [List.length_nil, Nat.zero_add]
      exact pointerOf_syslogElement part i
    rw [elements_eq_foldl, List.foldl_append, List.foldl_append,
      foldl_extend_of_none fun s hs ↦ ⟨(hsettings s hs).2.1, fun _ ↦ (hsettings s hs).2.2.2.2.2.2.2⟩,
      foldl_extend_of_none fun s hs ↦ ⟨(sections_of_sms hs).1, fun _ ↦ (sections_of_sms hs).2.2.1⟩,
      foldl_extend_array (fun _ ↦ rfl) (by decide) hsyslog [] harray, List.nil_append]

/-- What is written of a configuration is in order. -/
theorem orderly_config (config : FileConf) (smsHeaders syslogHeaders : List Bool) :
    Orderly (config.statements smsHeaders syslogHeaders) := by
  have hsettings : Orderly config.settingStatements := by
    rw [← List.nil_append config.settingStatements]
    apply orderly_append .nil
    intro s hs
    obtain ⟨-, -, hsms, hsyslog, -⟩ := sections_of_setting hs
    rw [hsms, hsyslog]
    refine ⟨fun hfalse ↦ absurd hfalse Bool.false_ne_true, fun hfalse ↦ absurd hfalse Bool.false_ne_true, ?_⟩
    intro hpath
    rcases mem_settingStatements hs with ⟨field, hs⟩ | ⟨field, rfl⟩ | ⟨arg, -, rfl⟩ | ⟨arg, -, rfl⟩
    · obtain ⟨text, -, rfl⟩ := Option.map_eq_some_iff.1 hs
      split_ifs at hpath ⊢
      · show writtenPath text ≠ []
        unfold writtenPath
        split_ifs with hlast
        · simp
        · rintro rfl
          exact hlast (.inl rfl)
      · exact absurd hpath Bool.false_ne_true
    · exact absurd hpath Bool.false_ne_true
    · exact absurd hpath Bool.false_ne_true
    · exact absurd hpath Bool.false_ne_true
  unfold FileConf.statements
  apply orderly_arrayStatements
  · exact orderly_arrayStatements hsettings (fun _ ↦ ⟨rfl, rfl, rfl⟩) (by decide) _ _
  · exact fun _ ↦ ⟨rfl, rfl, rfl⟩
  · decide

/-- What is written for a configuration is read back to the configuration. -/
theorem Made.loaded (hmade : Made memory file config) {smsHeaders syslogHeaders : List Bool}
    (hsms : smsHeaders.length = config.smsArray.length) (hsyslog : syslogHeaders.length = config.syslogArray.length)
    (roles : Roles) : ∃ s,
      (Loading.start roles).all memory (configLines (config.render smsHeaders syslogHeaders)) = .inl s ∧
        s.config = config ∧ s.roles = rolesAfter roles (config.statements smsHeaders syslogHeaders) ∧ s.err = false ∧
        AllInBounds s.accesses := by
  have hread : statements (configLines (config.render smsHeaders syslogHeaders)) =
        config.statements smsHeaders syslogHeaders ∧
      ∀ line ∈ configLines (config.render smsHeaders syslogHeaders), line.Understood :=
    statements_unlines (hmade.written_statements smsHeaders syslogHeaders)
  have hlines : ∀ line ∈ configLines (config.render smsHeaders syslogHeaders), AllInBounds line.accesses := by
    intro line hline
    obtain ⟨buf, -, rfl⟩ := List.mem_map.1 hline
    exact allInBounds_splitConfigLine buf
  obtain ⟨s, hall, hbounds⟩ := @exists_all memory _
    (hread.1 ▸ orderly_config config smsHeaders syslogHeaders) hlines roles
  have herr : s.err = false := err_all hread.2 hall
  obtain ⟨hsmsArray, hsyslogArray⟩ := Loading.arrays_all hall
  obtain ⟨hjsacmd, hjsacustcmd⟩ := lists_all hall
  obtain ⟨hroles, -⟩ := Loading.roles_all hall
  have htexts : s.config.texts = config.texts := by
    funext field
    rw [texts_all hall, hread.1, texts_statements]
  have hnumbers : s.config.numbers = config.numbers := by
    funext field
    rw [numbers_of_all hall, hread.1, numbers_statements hmade.fitsInt]
  obtain ⟨hsmsArray', hsyslogArray'⟩ := hmade.arrays_statements hsms hsyslog
  obtain ⟨hjsacmd', hjsacustcmd'⟩ := @lists_statements config smsHeaders syslogHeaders
  rw [hread.1] at hsmsArray hsyslogArray hjsacmd hjsacustcmd hroles
  refine ⟨s, hall, ?_, hroles, herr, hbounds⟩
  calc s.config = ⟨s.config.texts, s.config.numbers, s.config.smsArray, s.config.syslogArray, s.config.jsacmdList,
        s.config.jsacustcmdList⟩ := rfl
    _ = config := by
        rw [htexts, hnumbers, hsmsArray, hsyslogArray, hjsacmd, hjsacustcmd, hsmsArray', hsyslogArray', hjsacmd',
          hjsacustcmd']

theorem domain_ne_none (config : FileConf) : config.withDomain.texts .domain ≠ none := by
  unfold FileConf.withDomain
  split_ifs with hnone
  · simp [FileConf.setText]
  · exact hnone

/-- Whatever file `createConfig` has accepted, the file that is written for the configuration, with the headers
in the same order, is accepted as well: where the load finds the same memory, the configuration and the roles of
its sections are the same, and loading it stays within all bounds. -/
theorem createConfig_render {roles roles' : Roles} {file : List Char} {config : FileConf} {accesses : List Access}
    (hcreate : createConfig memory roles (some file) = .returned (some config) roles' accesses) :
    ∃ accesses', createConfig memory roles (some (config.render
        (headersOf Directive.smsHeader (statements (configLines file)))
        (headersOf Directive.syslogHeader (statements (configLines file))))) =
      .returned (some config) roles' accesses' ∧ ∀ access ∈ accesses', access.InBounds := by
  have hconfig : (createConfig memory roles (some file)).config = some config := by
    rw [hcreate]
    rfl
  obtain ⟨s, hall, rfl, -, accesses₀, hreturned⟩ := createConfig_eq_some hconfig
  obtain rfl : roles' = s.roles := by
    rw [hcreate] at hreturned
    injection hreturned
  have hmandatory : (Check.all s.config.mandatory).1 = true := by
    have hfinished : s.finish.config.isSome = true := by
      unfold createConfig at hconfig
      simp only [hall, Sum.elim_inl] at hconfig
      rw [hconfig]
      rfl
    exact ((finish_isSome_iff s).1 hfinished).2
  have hmade := (made_of_all hall).withDomain
  obtain ⟨hsms, hsyslog⟩ := hmade.headers
  obtain ⟨hsms', hsyslog'⟩ := headers_statements hsms hsyslog
  obtain ⟨t, hloaded, hsame, hroles, herr, hbounds⟩ := hmade.loaded hsms hsyslog roles
  have hroles' : t.roles = s.roles := by
    rw [hroles, (Loading.roles_all hall).1]
    unfold rolesAfter
    rw [hsms', hsyslog']
  refine ⟨t.accesses ++ (Check.all t.config.mandatory).2, ?_,
    allInBounds_append.2 ⟨hbounds, Check.allInBounds_mandatory _⟩⟩
  unfold createConfig
  simp only [hloaded, Sum.elim_inl]
  unfold Loading.finish
  rw [herr, if_neg Bool.false_ne_true, hroles', hsame, mandatory_withDomain]
  simp only [hmandatory, if_true, withDomain_eq_self (domain_ne_none s.config)]

/-- A path with a blank before its slash comes back. -/
theorem createConfig_render_path : ∃ config roles accesses smsHeaders syslogHeaders,
    createConfig (filledMemory none) .initial
        (some (config.render smsHeaders syslogHeaders)) = .returned (some config) roles accesses ∧
      config.texts .fmcRepository = some "a ".toList := by
  have hany : (createConfig (filledMemory none) .initial
      (some (unlines (plainFileWith ["fmc-repository a /"])))).config.any
        (fun config ↦ config.texts .fmcRepository = some "a ".toList) = true := by
    decide +kernel
  obtain ⟨config, hconfig, hpath⟩ := (Option.any_eq_true _ _).1 hany
  obtain ⟨s, -, -, -, accesses, hcreate⟩ := createConfig_eq_some hconfig
  obtain ⟨accesses', hrender, -⟩ := createConfig_render hcreate
  exact ⟨config, s.roles, accesses', _, _, hrender, of_decide_eq_true hpath⟩

end Render

end CoreEngine.Smsd
