import CoreEngine.Smsd.Indifference

/-!
# Two functions for one notice

`updateIP` serves SDIPUP and `updateRouterIP` serves PPPIPUP. Both are followed through all their calls, for
given outcomes of these calls, and compared in what they write, log, announce and return.
-/

namespace CoreEngine.Smsd

open Interaction
open Procedure (lift Stable Triple triple_and triple_bind triple_ite triple_call triple_pure)
open Program (Only Run only_perform)

/-- How the calls end: the reply to the lookup, the result of the serial check for devices that have one, the
result of the update, unless the daemon is shutting down and gives it up, and the result of the log call. -/
structure Outcomes where
  lookup : Reply SdInfo
  serial : Int
  write : Option Int
  log : Int

/-- What is done to the world: updates that reached the database, log entries, and addresses announced. -/
structure Effect where
  updates : List Sql
  logs : List Fildelog
  announced : List CString
  deriving DecidableEq, Repr

def Effect.nothing : Effect := ⟨[], [], []⟩

/-- The address in the globals of the script for DNS. -/
def Script.address (script : Script) : Option CString :=
  if script.file = "dns_update.php".toList then
    script.globals.findSome? fun
      | .str name value => if name = "ip".toList then value else none
      | _ => none
  else none

/-- The effect so far, and the script that is running. -/
structure Observed where
  effect : Effect
  running : Option Script
  deriving DecidableEq, Repr

namespace Observed

def start : Observed := ⟨.nothing, none⟩

/-- A call that has lost its connection is repeated, and does not count. -/
def update (g : Observed) (query : Sql) (ret : Int) : Observed :=
  if ret = errDbConnectionLost then g
  else { g with effect := { g.effect with updates := g.effect.updates ++ [query] } }

def log (g : Observed) (entry : Fildelog) : Observed :=
  { g with effect := { g.effect with logs := g.effect.logs ++ [entry] } }

def run (g : Observed) (script : Script) : Observed :=
  ⟨{ g.effect with announced := g.effect.announced ++ script.address.toList }, some script⟩

end Observed

namespace Outcomes

/-- An update whose connection is not lost has this result. -/
def Updates (outcomes : Outcomes) (ret : Int) : Prop := ret = errDbConnectionLost ∨ outcomes.write = some ret

/-- The script of the serial check ends with its result. -/
def Ends (outcomes : Outcomes) (script : Script) : ScriptStep → Prop
  | .call _ => True
  | .exit ret _ _ => script.address = none → ret = outcomes.serial

end Outcomes

/-- Follows one request whose calls end as given. What a script does by itself belongs to its outcome. -/
def watching (outcomes : Outcomes) : Monitor signature Observed where
  allow _ _ := True
  expect g op answer := match g.running, op, answer with
    | none, .sql _ (.getSdInfo _), reply => reply = outcomes.lookup
    | none, .sql _ (.setSDIPConfig ..), reply => outcomes.Updates reply.ret
    | none, .sql _ (.setSDConnected ..), reply => outcomes.Updates reply.ret
    | none, .sql _ (.setLogById _), reply => reply.ret = outcomes.log
    | none, .readShutdown, shutdownRequired => shutdownRequired = true → outcomes.write = none
    | some script, .scriptStep, step => outcomes.Ends script step
    | _, _, _ => True
  next g op answer := match g.running, op, answer with
    | none, .sql _ (.setSDIPConfig key ip connected), reply => g.update (.setSDIPConfig key ip connected) reply.ret
    | none, .sql _ (.setSDConnected key flag), reply => g.update (.setSDConnected key flag) reply.ret
    | none, .sql _ (.setLogById entry), _ => g.log entry
    | none, .scriptStart script, _ => g.run script
    | some _, .scriptStep, .exit _ _ _ => { g with running := none }
    | _, _, _ => g

/-- What a run has done. -/
def effectOf (outcomes : Outcomes) (trace : List (Event signature)) : Effect :=
  ((watching outcomes).after .start trace).effect

/-- The two functions. -/
inductive UpPath
  | updateIP
  | updateRouterIP
  deriving DecidableEq, Repr

namespace Outcomes

variable (outcomes : Outcomes) (path : UpPath) (ip : CString)

def sd : SdLike := outcomes.lookup.output.sd

/-- The result of the serial check, which only devices of one manufacturer have. -/
def checked : Int := if outcomes.sd.manId ≠ netasq then smsOk else outcomes.serial

/-- The result of the update, as its wrapper returns it. -/
def written : Int := outcomes.write.getD errDbFailed

/-- The update and its log are not refused. -/
def Through : Prop := ¬refused outcomes.written ∧ ¬refused outcomes.log

instance : Decidable outcomes.Through := inferInstanceAs (Decidable (_ ∧ _))

/-- What is recorded of an update. -/
def recorded (query : Sql) (entry : Fildelog) : Effect :=
  ⟨if outcomes.write.isSome then [query] else [], if refused outcomes.written then [] else [entry], []⟩

/-- The result of the last call made. -/
def last : Int := if refused outcomes.written then outcomes.written else outcomes.log

/-- A new address, which is announced when everything went through. -/
def changeAddress : Effect × Int :=
  let effect := outcomes.recorded (.setSDIPConfig outcomes.sd.key ip 1) (ipupDynLog outcomes.sd ip)
  if outcomes.Through then
    ({ effect with announced := [ip] }, if path = .updateIP ∧ outcomes.log ≠ 0 then outcomes.log else ipchanged)
  else (effect, outcomes.last)

/-- The address is the one known. -/
def connect (interface : SdInterface) : Effect × Int :=
  (outcomes.recorded (.setSDConnected outcomes.sd.key 1) (ipupLog outcomes.sd interface ip),
    if path = .updateRouterIP ∧ outcomes.Through then 0 else outcomes.last)

def writes (interface : SdInterface) : Effect × Int :=
  if ip ≠ outcomes.sd.sdIpConfig then
    if interface.intIpType.head? ≠ some 'S' then outcomes.changeAddress path ip else (.nothing, 0)
  else if outcomes.sd.sdConnected = 0 then outcomes.connect path ip interface
  else (.nothing, 0)

/-- What each function does and returns. -/
def result : Effect × Int :=
  if outcomes.lookup.ret ≠ 0 then (.nothing, outcomes.lookup.ret)
  else if path = .updateIP ∧ outcomes.sd.sdProvLock ≠ 0 then (.nothing, 0)
  else outcomes.lookup.output.sdExtInterface.elim (.nothing, 0) fun interface ↦
    if outcomes.checked ≠ 0 then (.nothing, outcomes.checked) else outcomes.writes path ip interface

/-- There is something to write: a new dynamic address, or a connection. -/
def Due (interface : SdInterface) : Prop :=
  if ip ≠ outcomes.sd.sdIpConfig then interface.intIpType.head? ≠ some 'S' else outcomes.sd.sdConnected = 0

/-- The serial check fails, or there is something to write, only for a device that is not being provisioned; and
the log, when it is reached and not refused, returns zero, or for a new address `IPCHANGED`. -/
def Agree : Prop :=
  outcomes.lookup.ret = 0 → ∀ interface ∈ outcomes.lookup.output.sdExtInterface,
    if outcomes.checked ≠ 0 then outcomes.sd.sdProvLock = 0
    else outcomes.Due ip interface → outcomes.sd.sdProvLock = 0 ∧
      (outcomes.Through → outcomes.log = 0 ∨ (ip ≠ outcomes.sd.sdIpConfig ∧ outcomes.log = ipchanged))

end Outcomes

namespace Outcomes

variable {outcomes : Outcomes} {ip : CString}

theorem refused_ne_zero {ret : Int} (hrefused : refused ret) : ret ≠ 0 := by
  rcases hrefused with rfl | rfl <;> decide

theorem last_ne_zero (hthrough : ¬outcomes.Through) : outcomes.last ≠ 0 := by
  unfold last
  by_cases hwritten : refused outcomes.written
  · rw [if_pos hwritten]
    exact refused_ne_zero hwritten
  · rw [if_neg hwritten]
    have hlog : refused outcomes.log := by
      by_contra hlog
      exact hthrough ⟨hwritten, hlog⟩
    exact refused_ne_zero hlog

theorem last_of_through (hthrough : outcomes.Through) : outcomes.last = outcomes.log := if_neg hthrough.1

/-- Something is left behind of every change of the address: an announcement, or the code of a failure. -/
theorem changeAddress_ne (path : UpPath) : outcomes.changeAddress path ip ≠ (.nothing, 0) := by
  unfold changeAddress
  by_cases hthrough : outcomes.Through
  · simp [hthrough, Effect.nothing]
  · simp [hthrough, last_ne_zero hthrough]

/-- Of a connection, a log entry, or the code of a failure. -/
theorem connect_ne (path : UpPath) (interface : SdInterface) :
    outcomes.connect path ip interface ≠ (.nothing, 0) := by
  unfold connect
  by_cases hthrough : outcomes.Through
  · simp [Effect.nothing, recorded, hthrough.1]
  · simp [hthrough, last_ne_zero hthrough]

theorem changeAddress_eq_iff : outcomes.changeAddress .updateIP ip = outcomes.changeAddress .updateRouterIP ip ↔
    (outcomes.Through → outcomes.log = 0 ∨ outcomes.log = ipchanged) := by
  unfold changeAddress
  by_cases hthrough : outcomes.Through
  · by_cases hlog : outcomes.log = 0
    · simp [hthrough, hlog]
    · simp [hthrough, hlog]
  · simp [hthrough]

theorem connect_eq_iff (interface : SdInterface) :
    outcomes.connect .updateIP ip interface = outcomes.connect .updateRouterIP ip interface ↔
      (outcomes.Through → outcomes.log = 0) := by
  unfold connect
  by_cases hthrough : outcomes.Through
  · simp [hthrough, last_of_through hthrough]
  · simp [hthrough]

theorem writes_ne (path : UpPath) {interface : SdInterface} (hdue : outcomes.Due ip interface) :
    outcomes.writes path ip interface ≠ (.nothing, 0) := by
  unfold Due at hdue
  unfold writes
  by_cases hip : ip ≠ outcomes.sd.sdIpConfig
  · rw [if_pos hip] at hdue ⊢
    rw [if_pos hdue]
    exact changeAddress_ne path
  · rw [if_neg hip] at hdue ⊢
    rw [if_pos hdue]
    exact connect_ne path interface

theorem writes_of_not_due (path : UpPath) {interface : SdInterface} (hdue : ¬outcomes.Due ip interface) :
    outcomes.writes path ip interface = (.nothing, 0) := by
  unfold Due at hdue
  unfold writes
  by_cases hip : ip ≠ outcomes.sd.sdIpConfig
  · rw [if_pos hip] at hdue ⊢
    exact if_neg hdue
  · rw [if_neg hip] at hdue ⊢
    exact if_neg hdue

theorem writes_eq_iff (interface : SdInterface) :
    outcomes.writes .updateIP ip interface = outcomes.writes .updateRouterIP ip interface ↔
      (outcomes.Due ip interface → outcomes.Through →
        outcomes.log = 0 ∨ (ip ≠ outcomes.sd.sdIpConfig ∧ outcomes.log = ipchanged)) := by
  by_cases hdue : outcomes.Due ip interface
  · have hwhen := hdue
    unfold Due at hwhen
    unfold writes
    by_cases hip : ip ≠ outcomes.sd.sdIpConfig
    · rw [if_pos hip] at hwhen
      rw [if_pos hip, if_pos hip, if_pos hwhen, if_pos hwhen, changeAddress_eq_iff]
      simp [hdue, hip]
    · rw [if_neg hip] at hwhen
      rw [if_neg hip, if_neg hip, if_pos hwhen, if_pos hwhen, connect_eq_iff]
      simp [hdue, hip]
  · rw [writes_of_not_due _ hdue, writes_of_not_due _ hdue]
    simp [hdue]

/-- The lock makes the difference, and the result of the log. -/
theorem result_eq_iff : outcomes.result .updateIP ip = outcomes.result .updateRouterIP ip ↔ outcomes.Agree ip := by
  unfold result Agree
  by_cases hret : outcomes.lookup.ret = 0
  · cases hinterface : outcomes.lookup.output.sdExtInterface with
    | none => simp [hret]
    | some interface =>
      by_cases hlock : outcomes.sd.sdProvLock = 0
      · by_cases hchecked : outcomes.checked = 0
        · simp [hret, hlock, hchecked, writes_eq_iff]
        · simp [hret, hlock, hchecked]
      · by_cases hchecked : outcomes.checked = 0
        · by_cases hdue : outcomes.Due ip interface
          · simp [hret, hlock, hchecked, hdue, Ne.symm (writes_ne .updateRouterIP hdue)]
          · simp [hret, hlock, hchecked, hdue, writes_of_not_due]
        · simp [hret, hlock, hchecked, Ne.symm hchecked]
  · simp [hret]

end Outcomes

namespace Observed

variable {outcomes : Outcomes} {effect : Effect}

/-- Between two calls of the function itself. -/
def Idle (effect : Effect) (g : Observed) : Prop := g = ⟨effect, none⟩

/-- While a script is running. -/
def Busy (effect : Effect) (script : Script) (g : Observed) : Prop := g = ⟨effect, some script⟩

section Disciplines

variable {pre : Observed → Prop}

theorem ignores_pool (op : Op) (hop : op.OnPool) : (watching outcomes).Ignores op := by
  rintro ⟨effect, running⟩
  cases running <;> cases op <;> first | exact hop.elim | exact ⟨trivial, fun _ ↦ rfl⟩

instance : Stable (watching outcomes) (fun _ ↦ pre) releaseBdCtx :=
  stable_releaseBdCtx_of_keeps (fun _ _ _ hpre ↦ hpre) fun op hop ↦ (ignores_pool op hop).keeps

instance (keeper : Keeper) : Stable (watching outcomes) (fun _ ↦ pre) (ensureDbCtx keeper) :=
  stable_ensureDbCtx_of_keeps (fun _ _ _ hpre ↦ hpre) (fun op hop ↦ (ignores_pool op hop).keeps) keeper

instance : PlainDiscipline (watching outcomes) fun _ ↦ pre :=
  plainDiscipline_of_ignores fun op hop ↦ ignores_pool op (Roomy.plain hop)

/-- What a script does by itself is not seen. -/
theorem keeps_busy {script : Script} {op : Op} (hop : op ≠ .scriptStep) :
    (watching outcomes).Keeps (fun _ : Client ↦ Busy effect script) op := by
  rintro _ _ rfl
  refine ⟨trivial, fun answer _ ↦ ?_⟩
  cases op <;> first | exact absurd rfl hop | rfl

theorem stable_smsBdSetLog {script : Script} (info : SdInfo) (message level reference : Option CString) :
    Stable (watching outcomes) (fun _ ↦ Busy effect script) (smsBdSetLog info message level reference) := by
  have hlift {α : Type} (code : Code α) [hcode : Only signature (· ≠ .scriptStep) code] :
      Stable (watching outcomes) (fun _ ↦ Busy effect script) (lift code) :=
    hcode.stable_of_keeps fun _ ↦ keeps_busy
  have hfind : Only signature (· ≠ .scriptStep) (findCtx .sms .smsBdSetLog) := only_perform (by simp)
  have hrelease (ctx : Option Ctx) : Only signature (· ≠ .scriptStep) (releaseCtx ctx) := only_perform (by simp)
  have hlog (ctx : Ctx) (log : Fildelog) : Only signature (· ≠ .scriptStep) (sql ctx (.setLogById log)) :=
    only_perform (by simp)
  unfold smsBdSetLog withCtx
  infer_instance

/-- The effect of starting a script. -/
def afterStart (effect : Effect) (script : Script) : Effect :=
  { effect with announced := effect.announced ++ script.address.toList }

/-- A script without a client announces its address, if it has one, and ends with the given result. -/
theorem triple_executeScript {script : Script} (hcsp : script.hasCsp = false) :
    Triple (watching outcomes) (fun _ ↦ Idle effect) (smsModPhpExecuteScript script) fun exit _ g ↦
      (script.address = none → exit.ret = outcomes.serial) ∧ Idle (afterStart effect script) g := by
  have hstart : Triple (watching outcomes) (fun _ : Client ↦ Idle effect) (lift (ask (.scriptStart script)))
      fun _ _ ↦ Busy (afterStart effect script) script := by
    apply triple_call
    · exact fun _ _ _ ↦ trivial
    · rintro _ _ _ rfl _
      rfl
  have hstep : Triple (watching outcomes) (fun _ : Client ↦ Busy (afterStart effect script) script)
      (lift (ask .scriptStep)) fun step _ g ↦
        step.elim (fun _ ↦ Busy (afterStart effect script) script g) fun exit ↦
          (script.address = none → exit.ret = outcomes.serial) ∧ Idle (afterStart effect script) g := by
    apply triple_call
    · exact fun _ _ _ ↦ trivial
    · rintro _ _ step rfl hends
      cases step with
      | call request => rfl
      | exit ret returnBuf outputBuf => exact ⟨hends, rfl⟩
  have hcall (request : PhpCall) : Triple (watching outcomes)
      (fun _ : Client ↦ Busy (afterStart effect script) script)
      (callPhp (request.csp && script.hasCsp) (if request.sdInfo then script.sdInfo else none)
        request.function) fun _ _ ↦ Busy (afterStart effect script) script := by
    rw [hcsp, Bool.and_false]
    exact (stable_callPhp_false stable_smsBdSetLog _ _).triple
  have hanswer (value : PhpValue) : Stable (watching outcomes)
      (fun _ : Client ↦ Busy (afterStart effect script) script) (lift (ask (.phpReturn value))) :=
    stable_ask_of_keeps (keeps_busy (by simp))
  exact Smsd.triple_executeScript hstart hstep hcall fun value ↦ (hanswer value).triple

theorem triple_runScript {script : Script} (hcsp : script.hasCsp = false) :
    Triple (watching outcomes) (fun _ ↦ Idle effect) (runScript script ignoreFailure) fun ret _ g ↦
      (script.address = none → ret = outcomes.serial) ∧ Idle (afterStart effect script) g := by
  apply triple_bind (triple_executeScript hcsp)
  intro exit
  have hend (condition : Prop) [Decidable condition] : Triple (watching outcomes)
      (fun _ g ↦ (script.address = none → exit.ret = outcomes.serial) ∧ Idle (afterStart effect script) g)
      (do
        if condition then ignoreFailure exit.ret
        pure exit.ret : M Int) fun ret _ g ↦
          (script.address = none → ret = outcomes.serial) ∧ Idle (afterStart effect script) g := by
    by_cases hcondition : condition
    · simp only [hcondition, if_true]
      exact triple_pure _ fun _ _ hpost ↦ hpost
    · simp only [hcondition, if_false]
      exact triple_pure _ fun _ _ hpost ↦ hpost
  exact hend _

end Disciplines

section Calls

/-- The reply to the lookup is the given one. -/
theorem triple_getSDinfo (sdid : CString) : Triple (watching outcomes) (fun _ ↦ Idle effect) (getSDinfo sdid)
    fun info _ g ↦ info = outcomes.lookup ∧ Idle effect g := by
  apply triple_useDbCtx_of_pool ignores_pool
  rintro ctx _ rfl
  exact ⟨trivial, fun reply hreply ↦ ⟨hreply, rfl⟩⟩

theorem triple_setLog (entry : Fildelog) : Triple (watching outcomes) (fun _ ↦ Idle effect)
    (useDbCtx fun ctx ↦ sql ctx (.setLogById entry)) fun logged _ g ↦
      logged.ret = outcomes.log ∧ Idle { effect with logs := effect.logs ++ [entry] } g := by
  apply triple_useDbCtx_of_pool ignores_pool
  rintro ctx _ rfl
  exact ⟨trivial, fun reply hreply ↦ ⟨hreply, rfl⟩⟩

/-- The script of the serial check announces nothing, and that for DNS the address it is given. -/
theorem triple_checkSerial (ip : CString) : Triple (watching outcomes) (fun _ ↦ Idle effect)
    (genericCheckSerialNumber outcomes.lookup.output ip) fun ret _ g ↦
      ret = outcomes.checked ∧ Idle effect g := by
  unfold genericCheckSerialNumber
  apply triple_ite
  · intro hman
    apply triple_pure
    exact fun _ _ hidle ↦ ⟨(if_pos hman).symm, hidle⟩
  · intro hman
    have haddress : Script.address (deviceScript outcomes.lookup.output "do_check_serial_number.php"
        [.sdInfo outcomes.lookup.output, str "ipaddr" ip]) = none :=
      if_neg (by decide : "do_check_serial_number.php".toList ≠ "dns_update.php".toList)
    apply (triple_runScript rfl).conseq (fun _ _ hidle ↦ hidle)
    rintro ret _ g ⟨hret, hidle⟩
    refine ⟨(hret haddress).trans (if_neg hman).symm, ?_⟩
    unfold afterStart at hidle
    rw [haddress, Option.toList_none, List.append_nil] at hidle
    exact hidle

theorem triple_dnsUpdate (sdid ip : CString) : Triple (watching outcomes) (fun _ ↦ Idle effect) (dnsUpdate sdid ip)
    fun _ _ ↦ Idle { effect with announced := effect.announced ++ [ip] } := by
  have haddress : Script.address ⟨sdid, "smsd".toList, "dns_update.php".toList,
      [str "sdid" sdid, str "ip" ip]⟩ = some ip := if_pos rfl
  apply (triple_runScript rfl).conseq (fun _ _ hidle ↦ hidle)
  rintro ret _ g ⟨-, hidle⟩
  unfold afterStart at hidle
  rw [haddress] at hidle
  exact hidle

/-- The effect of an update that is not given up. -/
def afterUpdate (outcomes : Outcomes) (effect : Effect) (query : Sql) : Effect :=
  { effect with updates := effect.updates ++ if outcomes.write.isSome then [query] else [] }

theorem given_up (hwrite : outcomes.write = none) (query : Sql) :
    errDbFailed = outcomes.written ∧ Idle (afterUpdate outcomes effect query) ⟨effect, none⟩ := by
  simp [Outcomes.written, afterUpdate, hwrite, Idle]

section Wrapper

variable (query : Sql) {ctx : Ctx}
  (hexpect : ∀ reply, (watching outcomes).expect ⟨effect, none⟩ (.sql ctx query) reply →
    outcomes.Updates reply.ret)
  (hnext : ∀ reply, (watching outcomes).next ⟨effect, none⟩ (.sql ctx query) reply =
    update ⟨effect, none⟩ query reply.ret)
include hexpect hnext

/-- One call of a wrapper: it is lost and leaves nothing behind, or it has the given result. -/
theorem safe_attempt (db : Db) : (attempt ctx db query).Safe (watching outcomes)
    (fun result g ↦ result.elim (fun _ ↦ Idle effect g) fun reply ↦
      reply.ret = outcomes.written ∧ Idle (afterUpdate outcomes effect query) g) ⟨effect, none⟩ := by
  unfold attempt
  rw [Program.safe_bind]
  refine ⟨trivial, fun reply hreply ↦ ?_⟩
  have hupdates := hexpect reply hreply
  rw [hnext reply]
  show Program.Safe _ (if reply.ret = errDbConnectionLost then _ else _) _ _
  by_cases hlost : reply.ret = errDbConnectionLost
  · have hsame : update ⟨effect, none⟩ query reply.ret = ⟨effect, none⟩ := if_pos hlost
    rw [hsame, if_pos hlost]
    refine ⟨trivial, fun _ _ ↦ ⟨trivial, fun shutdownRequired hshutdown ↦ ?_⟩⟩
    cases shutdownRequired with
    | true => exact given_up (hshutdown rfl) query
    | false => exact rfl
  · have hwrite : outcomes.write = some reply.ret := hupdates.resolve_left hlost
    have hdone : update ⟨effect, none⟩ query reply.ret = ⟨afterUpdate outcomes effect query, none⟩ := by
      simp [update, afterUpdate, hlost, hwrite]
    rw [hdone, if_neg hlost]
    exact ⟨by simp [Outcomes.written, hwrite], rfl⟩

/-- An update is recorded once, unless the daemon is shutting down. -/
theorem safe_ha (db : Db) (initial : query.Output) : (ha ctx db query initial).Safe (watching outcomes)
    (fun reply g ↦ reply.ret = outcomes.written ∧ Idle (afterUpdate outcomes effect query) g) ⟨effect, none⟩ := by
  refine ⟨trivial, fun shutdownRequired hshutdown ↦ ?_⟩
  cases shutdownRequired with
  | true => exact given_up (hshutdown rfl) query
  | false =>
    apply Program.safe_loop fun _ ↦ Idle effect
    · rintro _ _ rfl
      exact safe_attempt query hexpect hnext db
    · rfl

end Wrapper

theorem triple_setSDIPConfig (key : SdKey) (ip : CString) (connected : Int) :
    Triple (watching outcomes) (fun _ ↦ Idle effect) (useDbCtx (haSmssqlSetSDIPConfig · key ip connected))
      fun reply _ g ↦ reply.ret = outcomes.written ∧
        Idle (afterUpdate outcomes effect (.setSDIPConfig key ip connected)) g := by
  apply triple_useDbCtx_of_pool ignores_pool
  rintro ctx _ rfl
  exact safe_ha (.setSDIPConfig key ip connected) (fun _ hreply ↦ hreply) (fun _ ↦ rfl) .sms ()

theorem triple_setSDConnected (key : SdKey) (flag : Int) :
    Triple (watching outcomes) (fun _ ↦ Idle effect) (useDbCtx (haSmssqlSetSDConnected · key flag))
      fun reply _ g ↦ reply.ret = outcomes.written ∧
        Idle (afterUpdate outcomes effect (.setSDConnected key flag)) g := by
  apply triple_useDbCtx_of_pool ignores_pool
  rintro ctx _ rfl
  exact safe_ha (.setSDConnected key flag) (fun _ hreply ↦ hreply) (fun _ ↦ rfl) .sms ()

/-- A write and its log: what is recorded, and whether both went through. -/
theorem triple_writeThenLog {write : Ctx → Code (Reply Unit)} {query : Sql} (entry : Fildelog)
    (hwrite : Triple (watching outcomes) (fun _ ↦ Idle .nothing) (useDbCtx write) fun reply _ g ↦
      reply.ret = outcomes.written ∧ Idle (afterUpdate outcomes .nothing query) g) :
    Triple (watching outcomes) (fun _ ↦ Idle .nothing) (writeThenLog write entry) fun done _ g ↦
      (done.ret = outcomes.last ∧ (done.output = true ↔ outcomes.Through)) ∧
        Idle (outcomes.recorded query entry) g := by
  apply triple_bind hwrite
  intro reply
  apply triple_ite
  · intro hrefused
    apply triple_pure
    rintro _ g ⟨hret, hidle⟩
    rw [hret] at hrefused
    refine ⟨⟨?_, by simp [Outcomes.Through, hrefused]⟩, ?_⟩
    · rw [Outcomes.last, if_pos hrefused]
      exact hret
    · rw [Outcomes.recorded, if_pos hrefused]
      exact hidle
  · intro hrefused
    apply triple_and
    intro hret
    rw [hret] at hrefused
    have hrecorded (g : Observed) (hlogged : Idle { afterUpdate outcomes .nothing query with
        logs := (afterUpdate outcomes .nothing query).logs ++ [entry] } g) :
        Idle (outcomes.recorded query entry) g := by
      rw [Outcomes.recorded, if_neg hrefused]
      exact hlogged
    have hlast : outcomes.last = outcomes.log := by rw [Outcomes.last, if_neg hrefused]
    apply triple_bind (triple_setLog entry)
    intro logged
    apply triple_ite
    · intro hlog
      apply triple_pure
      rintro _ g ⟨hlogged, hidle⟩
      rw [hlogged] at hlog
      exact ⟨⟨hlogged.trans hlast.symm, by simp [Outcomes.Through, hlog]⟩, hrecorded g hidle⟩
    · intro hlog
      apply triple_pure
      rintro _ g ⟨hlogged, hidle⟩
      rw [hlogged] at hlog
      exact ⟨⟨hlogged.trans hlast.symm, by simp [Outcomes.Through, hlog, hrefused]⟩, hrecorded g hidle⟩

end Calls

section Functions

variable {ip : CString}

/-- The function has done and returns what it should. -/
def Done (result : Effect × Int) (code : Int) (_ : Client) (g : Observed) : Prop := (g.effect, code) = result

theorem triple_returned {effect : Effect} (code : Int) :
    Triple (watching outcomes) (fun _ ↦ Idle effect) (pure code : M Int) (Done (effect, code)) := by
  apply triple_pure
  rintro _ _ rfl
  rfl

theorem triple_released {effect : Effect} {rest : M Int} {result : Effect × Int}
    (hrest : Triple (watching outcomes) (fun _ ↦ Idle effect) rest (Done result)) :
    Triple (watching outcomes) (fun _ ↦ Idle effect) (do
      releaseBdCtx
      rest : M Int) (Done result) := by
  have hrelease : Stable (watching outcomes) (fun _ ↦ Idle effect) releaseBdCtx := inferInstance
  exact triple_bind hrelease.triple fun _ ↦ hrest

/-- What comes after a write and its log, where both functions write the same. -/
theorem triple_afterWrite {write : Ctx → Code (Reply Unit)} {query : Sql} {entry : Fildelog}
    {rest : Reply Bool → M Int} {result : Effect × Int}
    (hwrite : Triple (watching outcomes) (fun _ ↦ Idle .nothing) (useDbCtx write) fun reply _ g ↦
      reply.ret = outcomes.written ∧ Idle (afterUpdate outcomes .nothing query) g)
    (hrest : ∀ done, done.ret = outcomes.last → (done.output = true ↔ outcomes.Through) →
      Triple (watching outcomes) (fun _ ↦ Idle (outcomes.recorded query entry)) (rest done) (Done result)) :
    Triple (watching outcomes) (fun _ ↦ Idle .nothing) (do
      let done ← writeThenLog write entry
      rest done : M Int) (Done result) := by
  apply triple_bind (triple_writeThenLog entry hwrite)
  intro done
  apply triple_and
  rintro ⟨hret, hthrough⟩
  exact hrest done hret hthrough

/-- A new address: the functions differ in what they do when everything went through. -/
theorem triple_changeAddress (path : UpPath) {announce : Reply Bool → M Int}
    (hannounce : outcomes.Through → ∀ done, done.ret = outcomes.log → Triple (watching outcomes)
      (fun _ ↦ Idle (outcomes.recorded (.setSDIPConfig outcomes.sd.key ip 1) (ipupDynLog outcomes.sd ip)))
      (announce done) (Done (outcomes.changeAddress path ip))) :
    Triple (watching outcomes) (fun _ ↦ Idle .nothing) (do
      let done ← writeThenLog (haSmssqlSetSDIPConfig · outcomes.sd.key ip 1) (ipupDynLog outcomes.sd ip)
      if done.output then announce done else pure done.ret : M Int) (Done (outcomes.changeAddress path ip)) := by
  apply triple_afterWrite (triple_setSDIPConfig outcomes.sd.key ip 1)
  intro done hret hdone
  apply triple_ite
  · intro houtput
    have hthrough := hdone.1 houtput
    exact hannounce hthrough done (hret.trans (Outcomes.last_of_through hthrough))
  · intro houtput
    unfold Outcomes.changeAddress
    rw [if_neg fun hall ↦ houtput (hdone.2 hall), hret]
    exact triple_returned _

/-- The cases that both functions distinguish. -/
theorem triple_writes (path : UpPath) {interface : SdInterface} {change connect : M Int}
    (hchange : Triple (watching outcomes) (fun _ ↦ Idle .nothing) change (Done (outcomes.changeAddress path ip)))
    (hconnect : Triple (watching outcomes) (fun _ ↦ Idle .nothing) connect
      (Done (outcomes.connect path ip interface))) :
    Triple (watching outcomes) (fun _ ↦ Idle .nothing)
      (if ip ≠ outcomes.sd.sdIpConfig then
        if interface.intIpType.head? ≠ some 'S' then change else do
          releaseBdCtx
          pure 0
      else if outcomes.sd.sdConnected = 0 then connect else do
        releaseBdCtx
        pure 0) (Done (outcomes.writes path ip interface)) := by
  unfold Outcomes.writes
  by_cases hip : ip ≠ outcomes.sd.sdIpConfig
  · rw [if_pos hip, if_pos hip]
    by_cases hdynamic : interface.intIpType.head? ≠ some 'S'
    · rw [if_pos hdynamic, if_pos hdynamic]
      exact hchange
    · rw [if_neg hdynamic, if_neg hdynamic]
      exact triple_released (triple_returned 0)
  · rw [if_neg hip, if_neg hip]
    by_cases hconnected : outcomes.sd.sdConnected = 0
    · rw [if_pos hconnected, if_pos hconnected]
      exact hconnect
    · rw [if_neg hconnected, if_neg hconnected]
      exact triple_released (triple_returned 0)

theorem triple_updateIPWrites (sdid : CString) (interface : SdInterface) :
    Triple (watching outcomes) (fun _ ↦ Idle .nothing) (updateIPWrites sdid ip outcomes.sd interface)
      (Done (outcomes.writes .updateIP ip interface)) := by
  apply triple_writes
  · apply triple_changeAddress
    intro hthrough done hret
    unfold Outcomes.changeAddress
    rw [if_pos hthrough, hret]
    apply triple_bind (triple_dnsUpdate sdid ip)
    intro _
    apply triple_released
    by_cases hlog : outcomes.log = 0
    · rw [if_pos hlog, if_neg fun hboth ↦ hboth.2 hlog]
      exact triple_returned _
    · rw [if_neg hlog, if_pos ⟨rfl, hlog⟩]
      exact triple_returned _
  · apply triple_afterWrite (triple_setSDConnected outcomes.sd.key 1)
    intro done hret _
    have hconnect : outcomes.connect .updateIP ip interface = (outcomes.recorded
        (.setSDConnected outcomes.sd.key 1) (ipupLog outcomes.sd interface ip), outcomes.last) := by
      simp [Outcomes.connect]
    rw [hconnect, hret]
    by_cases hdone : done.output = true
    · simp only [hdone, if_true]
      exact triple_released (triple_returned _)
    · simp only [hdone]
      exact triple_returned _

theorem triple_updateRouterIPWrites (interface : SdInterface) :
    Triple (watching outcomes) (fun _ ↦ Idle .nothing) (updateRouterIPWrites ip outcomes.sd interface)
      (Done (outcomes.writes .updateRouterIP ip interface)) := by
  apply triple_writes
  · apply triple_changeAddress
    intro hthrough done _
    unfold Outcomes.changeAddress
    rw [if_pos hthrough, if_neg fun hboth ↦ UpPath.noConfusion hboth.1]
    apply triple_released
    exact triple_bind (triple_dnsUpdate _ ip) fun _ ↦ triple_returned _
  · apply triple_afterWrite (triple_setSDConnected outcomes.sd.key 1)
    intro done hret hdone
    unfold Outcomes.connect
    apply triple_ite
    · intro houtput
      rw [if_pos ⟨rfl, hdone.1 houtput⟩]
      exact triple_released (triple_returned 0)
    · intro houtput
      rw [if_neg fun hboth ↦ houtput (hdone.2 hboth.2), hret]
      exact triple_returned _

/-- What both functions do with the interface: the serial check, and the writes if it succeeds. -/
theorem triple_checked (path : UpPath) (keeper : Keeper) {interface : SdInterface} {writes : M Int}
    (hwrites : Triple (watching outcomes) (fun _ ↦ Idle .nothing) writes
      (Done (outcomes.writes path ip interface))) :
    Triple (watching outcomes) (fun _ ↦ Idle .nothing) (do
      let ret ← genericCheckSerialNumber outcomes.lookup.output ip
      if ret ≠ 0 then pure ret else do
        ensureDbCtx keeper
        writes : M Int)
      (Done (if outcomes.checked ≠ 0 then (.nothing, outcomes.checked)
        else outcomes.writes path ip interface)) := by
  have hensure : Stable (watching outcomes) (fun _ ↦ Idle .nothing) (ensureDbCtx keeper) := inferInstance
  apply triple_bind (triple_checkSerial ip)
  intro ret
  apply triple_and
  rintro rfl
  apply triple_ite
  · intro hchecked
    rw [if_pos hchecked]
    exact triple_returned _
  · intro hchecked
    rw [if_neg hchecked]
    exact triple_bind hensure.triple fun _ ↦ hwrites

theorem triple_updateIP (sdid : CString) : Triple (watching outcomes) (fun _ ↦ Idle .nothing) (updateIP sdid ip)
    (Done (outcomes.result .updateIP ip)) := by
  unfold Outcomes.result
  apply triple_bind (triple_getSDinfo sdid)
  intro info
  apply triple_and
  rintro rfl
  apply triple_ite
  · intro hret
    rw [if_pos hret]
    exact triple_returned _
  · intro hret
    rw [if_neg hret]
    apply triple_released
    apply triple_ite
    · intro hlock
      rw [if_pos ⟨rfl, hlock⟩]
      exact triple_returned 0
    · intro hlock
      rw [if_neg fun hboth ↦ hlock hboth.2]
      cases hinterface : outcomes.lookup.output.sdExtInterface with
      | none => exact triple_returned 0
      | some interface => exact triple_checked .updateIP .updateIP (triple_updateIPWrites sdid interface)

theorem triple_updateRouterIP : Triple (watching outcomes) (fun _ ↦ Idle .nothing) (updateRouterIP ip)
    (Done (outcomes.result .updateRouterIP ip)) := by
  unfold Outcomes.result
  apply triple_bind (triple_getSDinfo [])
  intro info
  apply triple_and
  rintro rfl
  apply triple_ite
  · intro hret
    rw [if_pos hret]
    exact triple_returned _
  · intro hret
    rw [if_neg hret, if_neg fun hboth ↦ UpPath.noConfusion hboth.1]
    apply triple_released
    cases hinterface : outcomes.lookup.output.sdExtInterface with
    | none => exact triple_returned smsOk
    | some interface =>
      exact triple_checked .updateRouterIP .updateRouterIP (triple_updateRouterIPWrites interface)

end Functions

end Observed

section Locked

/-- A device that is being provisioned, with a dynamic address; every call succeeds. -/
def provisioned : Outcomes where
  lookup := ⟨smsOk, ⟨⟨⟨"ABC".toList, 123⟩, "ABC123".toList, [], [], [], [], "10.0.0.1".toList, 0, 1, 0, 0⟩,
    "ABC123".toList, some ⟨[], "D".toList⟩, []⟩⟩
  serial := smsOk
  write := some smsOk
  log := smsOk

def newAddress : CString := "10.0.0.2".toList

/-- The lookup, and the release of the context. -/
def lookedUp (sdid : CString) : List (Event signature) :=
  [⟨.sql ⟨.sms, 0⟩ (.getSdInfo sdid), provisioned.lookup⟩, ⟨.releaseCtx (some ⟨.sms, 0⟩), ()⟩,
    ⟨.storeDbCtx (some ⟨.sms, 0⟩) none, ()⟩]

/-- The address is written, logged and announced. -/
def addressWritten : List (Event signature) :=
  [⟨.findCtx .sms (.keeper .updateRouterIP), ⟨.sms, 0⟩⟩, ⟨.storeDbCtx none (some ⟨.sms, 0⟩), ()⟩,
    ⟨.readShutdown, false⟩, ⟨.sql ⟨.sms, 0⟩ (.setSDIPConfig provisioned.sd.key newAddress 1), ⟨smsOk, ()⟩⟩,
    ⟨.sql ⟨.sms, 0⟩ (.setLogById (ipupDynLog provisioned.sd newAddress)), ⟨smsOk, ()⟩⟩,
    ⟨.releaseCtx (some ⟨.sms, 0⟩), ()⟩, ⟨.storeDbCtx (some ⟨.sms, 0⟩) none, ()⟩,
    ⟨.scriptStart ⟨provisioned.sd.key.text, "smsd".toList, "dns_update.php".toList,
      [str "sdid" provisioned.sd.key.text, str "ip" newAddress]⟩, ()⟩,
    ⟨.scriptStep, .exit smsOk none none⟩]

theorem run_updateIP_provisioned : Run (updateIP "ABC123".toList newAddress ⟨1, some ⟨.sms, 0⟩⟩)
    (lookedUp "ABC123".toList) (.ret (0, ⟨1, none⟩)) :=
  .call (.call (.call (.done _)))

theorem run_updateRouterIP_provisioned : Run (updateRouterIP newAddress ⟨1, some ⟨.sms, 0⟩⟩)
    (lookedUp [] ++ addressWritten) (.ret (ipchanged, ⟨1, none⟩)) :=
  .call (.call (.call (.call (.call (.call (@Run.bound _ _ _ 1 _ _ (.call (.call (.call (.call (.call
    (@Run.bound _ _ _ 1 _ _ (.call (.done _))))))))))))))

theorem meets_lookedUp (sdid : CString) : (watching provisioned).Meets .start (lookedUp sdid) :=
  ⟨rfl, trivial, trivial, trivial⟩

theorem meets_addressWritten : (watching provisioned).Meets .start (lookedUp [] ++ addressWritten) :=
  ⟨rfl, trivial, trivial, trivial, trivial, (nomatch ·), Or.inr rfl, rfl, trivial, trivial, trivial, fun _ ↦ rfl,
    trivial⟩

end Locked

section Runs

variable {outcomes : Outcomes} {sdid ip : CString} {csp csp' : Client} {result result' : Int × Client}
  {trace trace' : List (Event signature)}

/-- A finished run of `updateIP` whose calls end as given. -/
theorem effectOf_updateIP (hrun : Run (updateIP sdid ip csp) trace (.ret result))
    (hmeets : (watching outcomes).Meets .start trace) :
    (effectOf outcomes trace, result.1) = outcomes.result .updateIP ip :=
  hrun.returns (Observed.triple_updateIP sdid csp .start rfl) hmeets

theorem effectOf_updateRouterIP (hrun : Run (updateRouterIP ip csp) trace (.ret result))
    (hmeets : (watching outcomes).Meets .start trace) :
    (effectOf outcomes trace, result.1) = outcomes.result .updateRouterIP ip :=
  hrun.returns (Observed.triple_updateRouterIP csp .start rfl) hmeets

/-- With the same lookup and the same outcomes the two functions do the same and return the same if and only if
`Agree` holds: where there is something to write, or the serial check has failed, the device is not locked for
provisioning, and the log call, when the address is updated and the log is not refused, has returned zero. -/
theorem paths_agree_iff (hup : Run (updateIP sdid ip csp) trace (.ret result))
    (hmeets : (watching outcomes).Meets .start trace)
    (hrouter : Run (updateRouterIP ip csp') trace' (.ret result'))
    (hmeets' : (watching outcomes).Meets .start trace') :
    effectOf outcomes trace = effectOf outcomes trace' ∧ result.1 = result'.1 ↔ outcomes.Agree ip := by
  rw [← Outcomes.result_eq_iff, ← effectOf_updateIP hup hmeets, ← effectOf_updateRouterIP hrouter hmeets',
    Prod.mk.injEq]

/-- The device that is being provisioned. -/
theorem paths_agree_iff_provisioned :
    effectOf provisioned (lookedUp "ABC123".toList) = effectOf provisioned (lookedUp [] ++ addressWritten) ∧
      0 = ipchanged ↔ provisioned.Agree newAddress :=
  paths_agree_iff run_updateIP_provisioned (meets_lookedUp _) run_updateRouterIP_provisioned meets_addressWritten

/-- The address of a device that is being provisioned is changed by one of the two. -/
theorem locked_address_changes : ¬∀ (outcomes : Outcomes) (sdid ip : CString) (csp csp' : Client)
    (result result' : Int × Client) (trace trace' : List (Event signature)),
    Run (updateIP sdid ip csp) trace (.ret result) → (watching outcomes).Meets .start trace →
    Run (updateRouterIP ip csp') trace' (.ret result') → (watching outcomes).Meets .start trace' →
    effectOf outcomes trace = effectOf outcomes trace' ∧ result.1 = result'.1 := by
  intro hsame
  have hboth := hsame _ _ _ _ _ _ _ _ _ run_updateIP_provisioned (meets_lookedUp _)
    run_updateRouterIP_provisioned meets_addressWritten
  have hupdates : (effectOf provisioned (lookedUp "ABC123".toList)).updates.length =
      (effectOf provisioned (lookedUp [] ++ addressWritten)).updates.length := by rw [hboth.1]
  exact absurd hupdates (by decide)

end Runs

end CoreEngine.Smsd
