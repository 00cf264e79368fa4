import CoreEngine.Smsd.ConfigSections

/-!
# Master and disaster

The globals `sms_master`, `sms_disaster`, `syslog_master` and `syslog_disaster` over all loads of a daemon:
each is the index of the last section with its header, or what an earlier load left there.
-/

namespace CoreEngine.Smsd

section Headers

/-- For a header of `smsArray`, whether it is the one of the disaster. -/
def Directive.smsHeader : Directive → Option Bool
  | .smsSection disaster => some disaster
  | _ => none

def Directive.syslogHeader : Directive → Option Bool
  | .syslogSection disaster => some disaster
  | _ => none

/-- The headers of one kind, in their order. -/
def headersOf (header : Directive → Option Bool) (file : List Statement) : List Bool :=
  file.filterMap fun s ↦ header s.1

/-- The index of the last header of a role, unless there is none. -/
def roleAfter (disaster : Bool) (before : Int) (headers : List Bool) : Int :=
  headers.zipIdx.foldl (fun role header ↦ if header.1 = disaster then (header.2 : Int) else role) before

theorem headersOf_concat (header : Directive → Option Bool) (before : List Statement) (s : Statement) :
    headersOf header (before ++ [s]) = headersOf header before ++ (header s.1).toList := by
  cases hs : header s.1 <;> simp [headersOf, hs]

theorem roleAfter_append_toList (disaster : Bool) (before : Int) (headers : List Bool) (header : Option Bool) :
    roleAfter disaster before (headers ++ header.toList) =
      if header = some disaster then (headers.length : Int) else roleAfter disaster before headers := by
  cases header with
  | none => simp
  | some other => simp [roleAfter, List.zipIdx_append]

/-- The globals after a file. -/
def rolesAfter (roles : Roles) (file : List Statement) : Roles where
  smsMaster := roleAfter false roles.smsMaster (headersOf Directive.smsHeader file)
  smsDisaster := roleAfter true roles.smsDisaster (headersOf Directive.smsHeader file)
  syslogMaster := roleAfter false roles.syslogMaster (headersOf Directive.syslogHeader file)
  syslogDisaster := roleAfter true roles.syslogDisaster (headersOf Directive.syslogHeader file)

end Headers

section Load

variable {memory : Memory}

namespace Loading

/-- Only a header changes the globals, to the index of the new element. -/
theorem roles_apply {s s' : Loading} {directive : Directive} {arg : CString}
    (happly : s.apply memory directive arg = .inl s') : s'.roles =
      { smsMaster := if directive.smsHeader = some false then (s.config.smsNumber : Int) else s.roles.smsMaster
        smsDisaster := if directive.smsHeader = some true then (s.config.smsNumber : Int) else s.roles.smsDisaster
        syslogMaster :=
          if directive.syslogHeader = some false then (s.config.syslogNumber : Int) else s.roles.syslogMaster
        syslogDisaster :=
          if directive.syslogHeader = some true then (s.config.syslogNumber : Int)
          else s.roles.syslogDisaster } := by
  cases directive with
  | sms field => exact (setSms_eq_inl happly).2.1
  | mask => exact (setSms_eq_inl happly).2.1
  | syslogServer => exact (setSyslog_eq_inl happly).2.1
  | path field =>
    rw [← Sum.inl.inj happly]
    exact (setPath_eq s memory field arg).1
  | smsSection disaster =>
    rw [← Sum.inl.inj happly]
    cases disaster <;> rfl
  | syslogSection disaster =>
    rw [← Sum.inl.inj happly]
    cases disaster <;> rfl
  | _ =>
    rw [← Sum.inl.inj happly]
    rfl

/-- The globals and the lengths of the arrays after the last line. -/
theorem roles_all {roles : Roles} {lines : List Line} {s : Loading}
    (hall : (start roles).all memory lines = .inl s) : s.roles = rolesAfter roles (statements lines) ∧
      s.config.smsNumber = (headersOf Directive.smsHeader (statements lines)).length ∧
      s.config.syslogNumber = (headersOf Directive.syslogHeader (statements lines)).length := by
  apply all_induction (P := fun before config roles' ↦ roles' = rolesAfter roles before ∧
    config.smsNumber = (headersOf Directive.smsHeader before).length ∧
      config.syslogNumber = (headersOf Directive.syslogHeader before).length) ?_ ?_ hall
  · exact ⟨rfl, rfl, rfl⟩
  · rintro before s s' directive arg ⟨hroles, hsms, hsyslog⟩ happly
    obtain ⟨hsms', hsyslog'⟩ := numbers_apply happly
    have hroles' := roles_apply happly
    refine ⟨?_, ?_, ?_⟩
    · rw [hroles', hroles, hsms, hsyslog]
      simp only [rolesAfter, headersOf_concat, roleAfter_append_toList]
    · rw [hsms', hsms, headersOf_concat]
      cases directive <;> simp [Directive.smsHeader, Directive.opensSms]
    · rw [hsyslog', hsyslog, headersOf_concat]
      cases directive <;> simp [Directive.syslogHeader, Directive.opensSyslog]

end Loading

/-- Two roles are the indices 0 and 1, each of a section with its header. -/
def Designates (headers : List Bool) (master disaster : Int) : Prop :=
  (master = 0 ∧ disaster = 1 ∨ master = 1 ∧ disaster = 0) ∧
    headers[master.toNat]? = some false ∧ headers[disaster.toNat]? = some true

instance (headers : List Bool) (master disaster : Int) : Decidable (Designates headers master disaster) :=
  inferInstanceAs (Decidable (_ ∧ _))

/-- Of two sections one is the master and one the disaster exactly when both headers occur, whatever the roles
were before. -/
theorem designates_iff {headers : List Bool} (hlength : headers.length = 2) (master disaster : Int) :
    Designates headers (roleAfter false master headers) (roleAfter true disaster headers) ↔
      ∀ header, header ∈ headers := by
  obtain ⟨first, second, rfl⟩ := List.length_eq_two.1 hlength
  cases first with
  | false =>
    cases second with
    | false =>
      simp [Designates, roleAfter]
      rintro rfl
      simp
    | true => simp [Designates, roleAfter]
  | true =>
    cases second with
    | false => simp [Designates, roleAfter]
    | true =>
      simp [Designates, roleAfter]
      rintro rfl
      simp

end Load

section History

/-- A load: what memory holds, and the file as it is then. -/
structure Load where
  memory : Memory
  configFile : Option (List Char)

/-- A load that has returned a configuration. -/
structure Loaded where
  file : List Statement
  config : FileConf
  roles : Roles

/-- The loads of a daemon, at its start and at every reload. The daemon exits when one of them returns NULL. -/
def history (roles : Roles) : List Load → List Loaded
  | [] => []
  | load :: loads =>
      match createConfig load.memory roles load.configFile with
      | .returned (some config) roles' _ =>
          ⟨statements (configLines (load.configFile.getD [])), config, roles'⟩ :: history roles' loads
      | _ => []

/-- The globals point to the two sections of either kind. -/
structure Loaded.RolesDefined (load : Loaded) : Prop where
  numbers : load.config.smsNumber = 2 ∧ load.config.syslogNumber = 2
  sms : Designates (headersOf Directive.smsHeader load.file) load.roles.smsMaster load.roles.smsDisaster
  syslog : Designates (headersOf Directive.syslogHeader load.file) load.roles.syslogMaster load.roles.syslogDisaster

/-- The file has a header of each of the four kinds. -/
def Loaded.HasEachHeader (load : Loaded) : Prop :=
  ∀ disaster, disaster ∈ headersOf Directive.smsHeader load.file ∧
    disaster ∈ headersOf Directive.syslogHeader load.file

instance (load : Loaded) : Decidable load.HasEachHeader := inferInstanceAs (Decidable (∀ _ : Bool, _))

/-- One load, with the globals as they are. -/
theorem rolesDefined_of_createConfig {memory : Memory} {roles roles' : Roles} {configFile : Option (List Char)}
    {config : FileConf} {accesses : List Access}
    (hcreate : createConfig memory roles configFile = .returned (some config) roles' accesses) :
    Loaded.RolesDefined ⟨statements (configLines (configFile.getD [])), config, roles'⟩ ↔
      Loaded.HasEachHeader ⟨statements (configLines (configFile.getD [])), config, roles'⟩ := by
  cases configFile with
  | none => exact nomatch hcreate
  | some file =>
    have hconfig : (createConfig memory roles (some file)).config = some config := by
      rw [hcreate]
      rfl
    obtain ⟨s, hall, rfl, haccepted, accesses', hreturned⟩ := createConfig_eq_some hconfig
    obtain rfl : roles' = s.roles := by
      rw [hcreate] at hreturned
      injection hreturned
    obtain ⟨hroles, hsms, hsyslog⟩ := Loading.roles_all hall
    obtain ⟨hsmss, hsyslogs⟩ := haccepted.numbers
    have hsmsIff := designates_iff (hsms.symm.trans hsmss) roles.smsMaster roles.smsDisaster
    have hsyslogIff := designates_iff (hsyslog.symm.trans hsyslogs) roles.syslogMaster roles.syslogDisaster
    have hnumbers : s.config.withDomain.smsNumber = 2 ∧ s.config.withDomain.syslogNumber = 2 := by
      obtain ⟨hsmsArray, hsyslogArray⟩ := withDomain_arrays s.config
      unfold FileConf.smsNumber FileConf.syslogNumber
      rw [hsmsArray, hsyslogArray]
      exact ⟨hsmss, hsyslogs⟩
    constructor
    · intro hdefined disaster
      have hdesignates := hdefined.sms
      have hdesignates' := hdefined.syslog
      rw [hroles] at hdesignates hdesignates'
      exact ⟨hsmsIff.1 hdesignates disaster, hsyslogIff.1 hdesignates' disaster⟩
    · intro heach
      refine ⟨hnumbers, ?_, ?_⟩
      · rw [hroles]
        exact hsmsIff.2 fun disaster ↦ (heach disaster).1
      · rw [hroles]
        exact hsyslogIff.2 fun disaster ↦ (heach disaster).2

/-- What every call that returns a configuration establishes, whatever the globals, holds of every load. -/
theorem history_forall {P : Loaded → Prop}
    (hcreate : ∀ memory roles configFile config roles' accesses,
      createConfig memory roles configFile = .returned (some config) roles' accesses →
        P ⟨statements (configLines (configFile.getD [])), config, roles'⟩) (roles : Roles) (loads : List Load) :
    ∀ load ∈ history roles loads, P load := by
  induction loads generalizing roles with
  | nil => exact List.forall_mem_nil _
  | cons load loads ih =>
    unfold history
    split
    · next config roles' accesses hreturned =>
      exact List.forall_mem_cons.2 ⟨hcreate _ _ _ _ _ _ hreturned, ih roles'⟩
    · exact List.forall_mem_nil _

/-- Over the whole life of a daemon, the globals are right after a load exactly when its file has each of the
four headers. -/
theorem rolesDefined_iff_hasEachHeader (loads : List Load) :
    ∀ load ∈ history .initial loads, load.RolesDefined ↔ load.HasEachHeader := by
  apply history_forall
  intro memory roles configFile config roles' accesses hcreate
  exact rolesDefined_of_createConfig hcreate

/-- A start, and a reload after the two sections of `smsArray` have changed places. -/
def swappedLoads : List Load :=
  [⟨filledMemory none, some (unlines plainFile)⟩,
    ⟨filledMemory none, some (unlines (headedFile "[sms-disaster]" "[sms]"))⟩]

theorem rolesDefined_iff_hasEachHeader_swapped :
    (history .initial swappedLoads).map (·.roles.smsMaster) = [0, 1] ∧
      ∀ load ∈ history .initial swappedLoads, load.RolesDefined := by
  have hhistory : (history .initial swappedLoads).map (·.roles.smsMaster) = [0, 1] ∧
      ∀ load ∈ history .initial swappedLoads, load.HasEachHeader := by
    decide +kernel
  obtain ⟨hmasters, heach⟩ := hhistory
  refine ⟨hmasters, fun load hload ↦ ?_⟩
  exact (rolesDefined_iff_hasEachHeader swappedLoads load hload).2 (heach load hload)

/-- The disaster's section first, and at a reload two of them: master and disaster are both 1. -/
theorem rolesUndefined_twoDisasters : ∃ load ∈ history .initial
    [⟨filledMemory none, some (unlines (headedFile "[sms-disaster]" "[sms]"))⟩,
      ⟨filledMemory none, some (unlines (headedFile "[sms-disaster]" "[sms-disaster]"))⟩],
    (load.roles.smsMaster = 1 ∧ load.roles.smsDisaster = 1) ∧ ¬load.RolesDefined := by
  have hany : (history .initial
      [⟨filledMemory none, some (unlines (headedFile "[sms-disaster]" "[sms]"))⟩,
        ⟨filledMemory none, some (unlines (headedFile "[sms-disaster]" "[sms-disaster]"))⟩]).any
      (fun load ↦ load.roles.smsMaster = 1 ∧ load.roles.smsDisaster = 1) = true := by
    decide +kernel
  obtain ⟨load, hload, hone⟩ := List.any_eq_true.1 hany
  have hone : load.roles.smsMaster = 1 ∧ load.roles.smsDisaster = 1 := of_decide_eq_true hone
  refine ⟨load, hload, hone, fun hdefined ↦ ?_⟩
  have hindices := hdefined.sms.1
  omega

end History

end CoreEngine.Smsd
