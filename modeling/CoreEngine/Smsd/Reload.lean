import CoreEngine.Smsd.ConfigSections
import Mathlib.Data.List.TakeWhile
import Mathlib.Data.Option.Basic

/-!
# Start-up and reload

What `main` makes of the configuration before the first connection, and what `reloadConfig` makes of it
later: the address and the port to listen on, and the level of the log. What the memory held plays no part in
them.
-/

namespace CoreEngine.Smsd

section Settings

variable {memory : Memory}

/-- The string that a statement gives a setting. -/
def textGiven : Statement → TextField → Option CString
  | (.text field, arg), field' => if field' = field then some arg else none
  | _, _ => none

def numberGiven : Statement → NumberField → Option CString
  | (.number field, arg), field' => if field' = field then some arg else none
  | _, _ => none

/-- The number of a setting after a file. -/
def numberOf (file : List Statement) (field : NumberField) : Int :=
  ((lastGiven numberGiven file field).map atoi).getD (FileConf.default.numbers field)

namespace Loading

/-- What one directive does to the settings, other than a path. -/
theorem settings_apply {s s' : Loading} {directive : Directive} {arg : CString} {text : TextField}
    (hpath : directive ≠ .path text) (happly : s.apply memory directive arg = .inl s') :
    s'.config.texts text = (textGiven (directive, arg) text).or (s.config.texts text) := by
  cases directive with
  | sms field =>
    rw [(setSms_eq_inl happly).2.2.1]
    rfl
  | mask =>
    rw [(setSms_eq_inl happly).2.2.1]
    rfl
  | syslogServer =>
    rw [(setSyslog_eq_inl happly).2.2.1]
    rfl
  | path field =>
    have hfield : text ≠ field := fun heq ↦ hpath (by rw [heq])
    obtain ⟨-, value, hconfig⟩ := setPath_eq s memory field arg
    rw [← Sum.inl.inj happly, hconfig]
    simp [FileConf.setText, hfield, textGiven]
  | text field =>
    rw [← Sum.inl.inj happly]
    by_cases hfield : text = field
    · simp [textGiven, FileConf.setText, hfield]
    · simp [textGiven, FileConf.setText, hfield]
  | _ =>
    rw [← Sum.inl.inj happly]
    rfl

theorem numbers_of_apply {s s' : Loading} {directive : Directive} {arg : CString}
    (happly : s.apply memory directive arg = .inl s') (number : NumberField) :
    s'.config.numbers number = ((numberGiven (directive, arg) number).map atoi).getD (s.config.numbers number) := by
  cases directive with
  | sms field =>
    rw [(setSms_eq_inl happly).2.2.1]
    rfl
  | mask =>
    rw [(setSms_eq_inl happly).2.2.1]
    rfl
  | syslogServer =>
    rw [(setSyslog_eq_inl happly).2.2.1]
    rfl
  | path field =>
    obtain ⟨-, value, hconfig⟩ := setPath_eq s memory field arg
    rw [← Sum.inl.inj happly, hconfig]
    rfl
  | number field =>
    rw [← Sum.inl.inj happly]
    by_cases hfield : number = field
    · simp [numberGiven, FileConf.setNumber, hfield]
    · simp [numberGiven, FileConf.setNumber, hfield]
  | _ =>
    rw [← Sum.inl.inj happly]
    rfl

end Loading

/-- The two settings that are paths. -/
theorem directiveOf_eq_path {cmd : CString} {field : TextField} (hdirective : directiveOf cmd = some (.path field)) :
    field = .fmcRepository ∨ field = .fmcEntities2files := by
  unfold directiveOf at hdirective
  cases hlookup : directives.lookup cmd with
  | none =>
    simp only [hlookup] at hdirective
    split_ifs at hdirective
    all_goals exact nomatch hdirective
  | some directive =>
    rw [hlookup] at hdirective
    obtain ⟨before, after, happend, -⟩ := List.lookup_eq_some_iff.1 hlookup
    have hmem : (cmd, Directive.path field) ∈ directives := by
      rw [happend, ← Option.some.inj hdirective]
      simp
    simp only [directives, List.mem_cons, Prod.mk.injEq, reduceCtorEq, and_false, false_or,
      Directive.path.injEq, List.not_mem_nil, or_false] at hmem
    exact hmem.imp And.right And.right

/-- A setting after the last line: what its last directive gave it. -/
theorem texts_of_all {roles : Roles} {lines : List Line} {s : Loading}
    (hall : (Loading.start roles).all memory lines = .inl s) {text : TextField}
    (htext : text ≠ .fmcRepository ∧ text ≠ .fmcEntities2files) :
    s.config.texts text = lastGiven textGiven (statements lines) text := by
  have hpaths : ∀ t ∈ statements lines, t.1 ≠ .path text := by
    intro t ht hpath
    obtain ⟨line, -, hline⟩ := List.mem_filterMap.1 ht
    unfold Line.statement at hline
    split_ifs at hline
    obtain ⟨directive, hdirective, rfl⟩ := Option.map_eq_some_iff.1 hline
    have hfield : directive = .path text := hpath
    rw [hfield] at hdirective
    exact (directiveOf_eq_path hdirective).elim htext.1 htext.2
  have hgiven := Loading.all_induction (P := fun before config _ ↦ (∀ t ∈ before, t.1 ≠ .path text) →
    config.texts text = lastGiven textGiven before text) (fun _ ↦ rfl) ?_ hall
  · exact hgiven hpaths
  · intro before s s' directive arg hbefore happly hpaths
    have hpath : directive ≠ .path text := hpaths (directive, arg) (by simp)
    rw [Loading.settings_apply hpath happly, lastGiven_concat, hbefore fun t ht ↦ hpaths t (by simp [ht])]

theorem numbers_of_all {roles : Roles} {lines : List Line} {s : Loading}
    (hall : (Loading.start roles).all memory lines = .inl s) (number : NumberField) :
    s.config.numbers number = numberOf (statements lines) number := by
  apply Loading.all_induction (P := fun before config _ ↦ config.numbers number = numberOf before number) rfl ?_ hall
  intro before s s' directive arg hbefore happly
  rw [Loading.numbers_of_apply happly, hbefore]
  unfold numberOf
  rw [lastGiven_concat]
  cases numberGiven (directive, arg) number <;> rfl

/-- The settings of a configuration that is returned. -/
theorem settings_of_createConfig {roles roles' : Roles} {file : List Char} {config : FileConf}
    {accesses : List Access}
    (hcreate : createConfig memory roles (some file) = .returned (some config) roles' accesses) :
    config.texts .haddr = lastGiven textGiven (statements (configLines file)) .haddr ∧
      config.texts .logfile = lastGiven textGiven (statements (configLines file)) .logfile ∧
      ∀ number, config.numbers number = numberOf (statements (configLines file)) number := by
  have hconfig : (createConfig memory roles (some file)).config = some config := by
    rw [hcreate]
    rfl
  obtain ⟨s, hall, rfl, -⟩ := createConfig_eq_some hconfig
  rw [← texts_of_all hall (by decide), ← texts_of_all hall (by decide)]
  simp only [← numbers_of_all hall]
  unfold FileConf.withDomain
  split_ifs <;> exact ⟨rfl, rfl, fun _ ↦ rfl⟩

end Settings

section Daemon

/-- What the daemon depends on outside of its configuration. -/
structure Surroundings where
  /-- `gpul_log_init`: the level of the new handle, unless it is NULL. -/
  logInit : CString → Option CString → Option Int
  /-- `sms_db_init`, `sms_router_init`, `VerbInit` and `sms_sapi_php_init`. -/
  initialised : FileConf → Bool
  socketBind : Option CString → Int → Bool
  /-- The signal handlers, the scheduler with its tasks and the locks of the database. -/
  scheduled : FileConf → Bool

/-- A running daemon: `currentConfig`, the globals, and the level of `currentConfig->log_handle`. -/
structure Daemon where
  config : FileConf
  roles : Roles
  logLevel : Option Int

/-- The address that `main` takes apart: an address, a port after a colon, or nothing at all. -/
def FileConf.bindAddress (config : FileConf) : Option FileConf :=
  match config.texts .haddr with
  | none => some config
  | some spec =>
      let p := (spec.dropWhile (· ≠ ':')).tail
      let haddr := spec.takeWhile (· ≠ ':')
      let port := if p = [] then config.numbers .port else atoi p
      if port ≤ 0 then none
      else some { (config.setNumber .port port) with
        texts := Function.update config.texts .haddr (if haddr = [] then none else some haddr) }

variable (env : Surroundings)

/-- The log that `main` opens, with the level of the file. -/
def FileConf.startLog (config : FileConf) : Option (Option Int) :=
  match config.texts .logfile with
  | none => some none
  | some logfile => (env.logInit "smsd".toList (some logfile)).map fun _ ↦ some (config.numbers .debug)

/-- `main`, up to the loop that accepts connections. -/
def startUp (memory : Memory) (configFile : Option (List Char)) : Option Daemon :=
  match createConfig memory .initial configFile with
  | .returned (some config) roles _ => do
      let logLevel ← config.startLog env
      guard (env.initialised config)
      let config ← config.bindAddress
      guard (env.socketBind (config.texts .haddr) (config.numbers .port))
      guard (env.scheduled config)
      some ⟨config, roles, logLevel⟩
  | _ => none

/-- `reloadConfig`. The daemon exits when there is no configuration. -/
def reloadConfig (configFile : Option (List Char)) (daemon : Daemon) (memory : Memory) : Option Daemon :=
  match createConfig memory daemon.roles configFile with
  | .returned (some config) roles _ => some ⟨config, roles, env.logInit "SMSD".toList (config.texts .logfile)⟩
  | _ => none

/-- The daemon after each reload, while the file stays the same. -/
def reloads (configFile : Option (List Char)) (daemon : Daemon) : List Memory → List Daemon
  | [] => []
  | memory :: memories =>
      match reloadConfig env configFile daemon memory with
      | some daemon' => daemon' :: reloads configFile daemon' memories
      | none => []

/-- The address, the port and the level of the log are the same. -/
def SameSettings (daemon daemon' : Daemon) : Prop :=
  daemon'.config.texts .haddr = daemon.config.texts .haddr ∧
    daemon'.config.numbers .port = daemon.config.numbers .port ∧ daemon'.logLevel = daemon.logLevel

/-- The address has no port and is not empty, and a new log handle has the level of the file; without a log
file there is no handle. -/
structure Reloadable (file : List Statement) : Prop where
  address : ∀ spec ∈ lastGiven textGiven file .haddr, spec ≠ [] ∧ ':' ∉ spec
  level : env.logInit "SMSD".toList (lastGiven textGiven file .logfile) =
    (lastGiven textGiven file .logfile).map fun _ ↦ numberOf file .debug

variable {env}

theorem reloadable_iff (file : List Statement) : Reloadable env file ↔
    (∀ spec ∈ lastGiven textGiven file .haddr, spec ≠ [] ∧ ':' ∉ spec) ∧
      env.logInit "SMSD".toList (lastGiven textGiven file .logfile) =
        (lastGiven textGiven file .logfile).map fun _ ↦ numberOf file .debug :=
  ⟨fun hfile ↦ ⟨hfile.address, hfile.level⟩, fun hfile ↦ ⟨hfile.1, hfile.2⟩⟩

theorem bindAddress_of_none {config config' : FileConf} (hspec : config.texts .haddr = none)
    (hbind : config.bindAddress = some config') : config' = config := by
  unfold FileConf.bindAddress at hbind
  rw [hspec] at hbind
  exact (Option.some.inj hbind).symm

/-- What `main` makes of an address. -/
theorem bindAddress_of_some {config config' : FileConf} {spec : CString} (hspec : config.texts .haddr = some spec)
    (hbind : config.bindAddress = some config') :
    (config'.texts .haddr =
        if spec.takeWhile (· ≠ ':') = [] then none else some (spec.takeWhile (· ≠ ':'))) ∧
      config'.numbers .port = if (spec.dropWhile (· ≠ ':')).tail = [] then config.numbers .port
        else atoi (spec.dropWhile (· ≠ ':')).tail := by
  unfold FileConf.bindAddress at hbind
  simp only [hspec] at hbind
  by_cases hport : (if (spec.dropWhile (· ≠ ':')).tail = [] then config.numbers .port
      else atoi (spec.dropWhile (· ≠ ':')).tail) ≤ 0
  · rw [if_pos hport] at hbind
    exact nomatch hbind
  · rw [if_neg hport] at hbind
    rw [← Option.some.inj hbind]
    simp [FileConf.setNumber]

/-- The address and the port stay as they are in the file exactly when there is nothing to take apart. -/
theorem bindAddress_same_iff {config config' : FileConf} (hbind : config.bindAddress = some config') :
    (config.texts .haddr = config'.texts .haddr ∧ config.numbers .port = config'.numbers .port) ↔
      ∀ spec ∈ config.texts .haddr, spec ≠ [] ∧ ':' ∉ spec := by
  cases hspec : config.texts .haddr with
  | none =>
    rw [bindAddress_of_none hspec hbind, hspec]
    simp
  | some spec =>
    obtain ⟨hhaddr, hport⟩ := bindAddress_of_some hspec hbind
    rw [hhaddr, hport]
    simp only [Option.mem_some_iff, forall_eq']
    constructor
    · rintro ⟨hsame, -⟩
      split_ifs at hsame with hempty
      have hspec : spec = spec.takeWhile (· ≠ ':') := Option.some.inj hsame
      refine ⟨fun hnil ↦ hempty (by rw [hnil]; rfl), fun hcolon ↦ ?_⟩
      rw [hspec] at hcolon
      simpa using List.mem_takeWhile_imp hcolon
    · rintro ⟨hne, hcolon⟩
      have hall : ∀ c ∈ spec, decide (c ≠ ':') = true := by
        intro c hc
        apply decide_eq_true
        rintro rfl
        exact hcolon hc
      rw [List.takeWhile_eq_self_iff.2 hall, List.dropWhile_eq_nil_iff.2 hall, if_neg hne, if_pos List.tail_nil]
      exact ⟨rfl, rfl⟩

theorem startLog_eq_some {config : FileConf} {logLevel : Option Int} (hlog : config.startLog env = some logLevel) :
    logLevel = (config.texts .logfile).map fun _ ↦ config.numbers .debug := by
  unfold FileConf.startLog at hlog
  cases hlogfile : config.texts .logfile with
  | none =>
    rw [hlogfile] at hlog
    exact (Option.some.inj hlog).symm
  | some logfile =>
    simp only [hlogfile] at hlog
    obtain ⟨level, -, hlevel⟩ := Option.map_eq_some_iff.1 hlog
    exact hlevel.symm

/-- What a start has done. -/
theorem startUp_eq_some {memory : Memory} {configFile : Option (List Char)} {daemon : Daemon}
    (hstart : startUp env memory configFile = some daemon) :
    ∃ config roles accesses, createConfig memory .initial configFile =
        .returned (some config) roles accesses ∧ config.bindAddress = some daemon.config ∧
      daemon.logLevel = (config.texts .logfile).map fun _ ↦ config.numbers .debug := by
  unfold startUp at hstart
  split at hstart
  · next config roles accesses hcreate =>
    simp only [Option.bind_eq_bind, Option.bind_eq_some_iff] at hstart
    obtain ⟨logLevel, hlog, -, -, bound, hbind, -, -, -, -, hdaemon⟩ := hstart
    rw [← Option.some.inj hdaemon]
    exact ⟨config, roles, accesses, hcreate, hbind, startLog_eq_some hlog⟩
  · cases hstart

/-- What every successful load establishes holds after every reload. -/
theorem reloads_forall {P : Daemon → Prop} {configFile : Option (List Char)}
    (hreload : ∀ daemon memory daemon', reloadConfig env configFile daemon memory = some daemon' → P daemon')
    (daemon : Daemon) (memories : List Memory) :
    ∀ daemon' ∈ reloads env configFile daemon memories, P daemon' := by
  induction memories generalizing daemon with
  | nil => exact List.forall_mem_nil _
  | cons memory memories ih =>
    unfold reloads
    split
    · next daemon' hdaemon => exact List.forall_mem_cons.2 ⟨hreload _ _ _ hdaemon, ih daemon'⟩
    · exact List.forall_mem_nil _

/-- Reloading the file that the daemon was started with changes nothing exactly when there is nothing that
`main` does and `reloadConfig` does not. -/
theorem sameSettings_iff_reloadable {env : Surroundings} {memory : Memory} {file : List Char}
    {daemon : Daemon} (hstart : startUp env memory (some file) = some daemon) (memories : List Memory) :
    ∀ daemon' ∈ reloads env (some file) daemon memories,
      SameSettings daemon daemon' ↔ Reloadable env (statements (configLines file)) := by
  obtain ⟨config, roles, accesses, hcreate, hbind, hlevel⟩ := startUp_eq_some hstart
  obtain ⟨hhaddr, hlogfile, hnumbers⟩ := settings_of_createConfig hcreate
  have haddress := bindAddress_same_iff hbind
  rw [hhaddr, hnumbers] at haddress
  rw [hlogfile, hnumbers] at hlevel
  apply reloads_forall
  intro before memory' daemon' hreload
  unfold reloadConfig at hreload
  split at hreload
  · next config' roles' accesses' hcreate' =>
    obtain rfl := Option.some.inj hreload
    obtain ⟨hhaddr', hlogfile', hnumbers'⟩ := settings_of_createConfig hcreate'
    unfold SameSettings
    simp only [hhaddr', hlogfile', hnumbers', hlevel]
    constructor
    · rintro ⟨hsameAddress, hsamePort, hsameLevel⟩
      exact ⟨haddress.1 ⟨hsameAddress, hsamePort⟩, hsameLevel⟩
    · intro hreloadable
      obtain ⟨hsameAddress, hsamePort⟩ := haddress.2 hreloadable.address
      exact ⟨hsameAddress, hsamePort, hreloadable.level⟩
  · exact nomatch hreload

/-- Everything succeeds; a log handle is given for a file, and its level is 0. -/
def plainSurroundings : Surroundings :=
  ⟨fun _ logfile ↦ logfile.map fun _ ↦ 0, fun _ ↦ true, fun _ _ ↦ true, fun _ ↦ true⟩

/-- The plain file with further lines. -/
def plainFileWith (lines : List String) : List CString := plainFile ++ lines.map String.toList

theorem sameSettings_iff_reloadable_plain : ∃ daemon,
    startUp plainSurroundings (filledMemory none)
        (some (unlines (plainFileWith ["listen-address 10.0.0.9", "logfile smsd.log", "debug 0"]))) = some daemon ∧
      ∃ daemon' ∈ reloads plainSurroundings
        (some (unlines (plainFileWith ["listen-address 10.0.0.9", "logfile smsd.log", "debug 0"]))) daemon
        [filledMemory none], SameSettings daemon daemon' := by
  -- one evaluation for all of them: the names of the directives are compared only once
  have hruns : ((startUp plainSurroundings (filledMemory none)
      (some (unlines (plainFileWith ["listen-address 10.0.0.9", "logfile smsd.log", "debug 0"])))).any
      fun daemon ↦ (reloads plainSurroundings
        (some (unlines (plainFileWith ["listen-address 10.0.0.9", "logfile smsd.log", "debug 0"]))) daemon
        [filledMemory none]).any fun _ ↦ true) = true ∧
      Reloadable plainSurroundings (statements (configLines (unlines
        (plainFileWith ["listen-address 10.0.0.9", "logfile smsd.log", "debug 0"])))) := by
    rw [reloadable_iff]
    decide +kernel
  obtain ⟨hany, hreloadable⟩ := hruns
  obtain ⟨daemon, hstart, hreloads⟩ := (Option.any_eq_true _ _).1 hany
  obtain ⟨daemon', hdaemon', -⟩ := List.any_eq_true.1 hreloads
  exact ⟨daemon, hstart, daemon', hdaemon', (sameSettings_iff_reloadable hstart _ daemon' hdaemon').2 hreloadable⟩

/-- The port of an address with a port is forgotten at a reload. -/
theorem settingsChange_port : ∃ daemon,
    startUp plainSurroundings (filledMemory none)
        (some (unlines (plainFileWith ["listen-address 10.0.0.9:4000"]))) = some daemon ∧
      daemon.config.numbers .port = 4000 ∧
      ∃ daemon' ∈ reloads plainSurroundings
        (some (unlines (plainFileWith ["listen-address 10.0.0.9:4000"]))) daemon [filledMemory none],
        daemon'.config.numbers .port = 28169 ∧ ¬SameSettings daemon daemon' := by
  have hany : ((startUp plainSurroundings (filledMemory none)
      (some (unlines (plainFileWith ["listen-address 10.0.0.9:4000"])))).any
      fun daemon ↦ daemon.config.numbers .port = 4000 ∧ (reloads plainSurroundings
        (some (unlines (plainFileWith ["listen-address 10.0.0.9:4000"]))) daemon
        [filledMemory none]).any fun daemon' ↦ daemon'.config.numbers .port = 28169) = true := by
    decide +kernel
  obtain ⟨daemon, hstart, hdaemon⟩ := (Option.any_eq_true _ _).1 hany
  obtain ⟨hport, hreloads⟩ := of_decide_eq_true hdaemon
  obtain ⟨daemon', hdaemon', hport'⟩ := List.any_eq_true.1 hreloads
  have hport' : daemon'.config.numbers .port = 28169 := of_decide_eq_true hport'
  refine ⟨daemon, hstart, hport, daemon', hdaemon', hport', fun hsame ↦ ?_⟩
  have hports := hsame.2.1
  rw [hport, hport'] at hports
  exact absurd hports (by decide)

end Daemon

end CoreEngine.Smsd
