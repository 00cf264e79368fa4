import CoreEngine.Smsd.Address

/-!
# Following a notice

The handling of one IPUP or IPDOWN notice, seen from the address it is about: it reads the address
once, decides, and makes at most the one write it has decided on, whatever has happened meanwhile.
-/

namespace CoreEngine.Smsd

open Interaction
open Procedure (lift Stable Triple triple_bind triple_ite triple_call triple_pure triple_lift)
open Program (Only only_perform)

/-- How far a notice is: nothing is read yet, a write is decided on, or there is nothing left to do. -/
inductive Stage
  | asked
  | decided (seen : Address)
  | settled
  deriving DecidableEq, Repr

/-- A notice that is being handled. `checking` tells that its script compares serial numbers. -/
structure Notifier where
  notice : Notice
  stage : Stage
  checking : Bool
  deriving DecidableEq, Repr

def Notice.stage (notice : Notice) (seen : Address) : Stage :=
  if (notice.write seen).isNone then .settled else .decided seen

def serialScript : CString := "do_check_serial_number.php".toList

/-- Follows the handling of one notice: it reads the address once, and then makes the write it has
decided on. The database is expected not to fail, and serial numbers to match. -/
def notifier (device : DynamicDevice) : Monitor signature Notifier where
  allow notifier op := match op with
    | .sql _ (.getSdInfo sdid) => sdid = device.sdid → notifier.stage = .asked
    | .sql _ query => ∀ write, query.addressWrite device.key = some write →
        ∃ seen, notifier.stage = .decided seen ∧ notifier.notice.write seen = some write
    | _ => True
  expect notifier op answer :=
    (∃ address, device.Answers address op answer) ∧
    match op, answer with
    | .scriptStep, .exit ret _ _ => notifier.checking = true → ret = 0
    | _, _ => True
  next notifier op answer := match op, answer with
    | .sql _ (.getSdInfo sdid), reply =>
        if sdid = device.sdid then
          { notifier with
            stage := notifier.notice.stage ⟨reply.output.sd.sdIpConfig, reply.output.sd.sdConnected⟩ }
        else notifier
    | .sql _ query, _ =>
        if (query.addressWrite device.key).isSome then { notifier with stage := .settled } else notifier
    | .scriptStart script, _ => { notifier with checking := script.file = serialScript }
    | _, _ => notifier

namespace Notifier

/-- The address that the write of a notice is decided on. -/
def seen? (notifier : Notifier) : Option Address :=
  match notifier.stage with
  | .decided seen => some seen
  | _ => none

variable {device : DynamicDevice} {n : Notice} {stage : Stage}

/-- The notice `n` has come to `stage`. -/
def At (n : Notice) (stage : Stage) (_csp : Client) (notifier : Notifier) : Prop :=
  notifier.notice = n ∧ notifier.stage = stage

/-- The same, while serial numbers are compared. -/
def Checking (n : Notice) (stage : Stage) (csp : Client) (notifier : Notifier) : Prop :=
  At n stage csp notifier ∧ notifier.checking = true

section Disciplines

/-- Operations that neither read nor write an address, nor start a script. -/
def Aside : Op → Prop
  | .sql _ (.getSdInfo _) | .sql _ (.setSDIPConfig ..) | .sql _ (.setSDConnected ..)
  | .scriptStart _ => False
  | _ => True

theorem ignores {op : Op} (hop : Aside op) : (notifier device).Ignores op := by
  intro g
  cases op with
  | sql ctx query => cases query <;> first | exact hop.elim | exact ⟨nofun, fun _ ↦ rfl⟩
  | _ => first | exact hop.elim | exact ⟨trivial, fun _ ↦ rfl⟩

theorem aside_of_onPool {op : Op} (hop : op.OnPool) : Aside op := by
  cases op <;> first | exact hop.elim | trivial

theorem aside_of_onSocket {op : Op} (hop : op.OnSocket) : Aside op := by
  cases op <;> first | exact hop.elim | trivial

theorem ignores_pool (op : Op) (hop : op.OnPool) : (notifier device).Ignores op :=
  ignores (aside_of_onPool hop)

theorem plain_onPool {op : Op} (hop : op.Plain) : op.OnPool := Roomy.plain hop

instance {inv : Client → Notifier → Prop} : PlainDiscipline (notifier device) inv :=
  plainDiscipline_of_ignores fun op hop ↦ ignores_pool op (plain_onPool hop)

instance {inv : Client → Notifier → Prop} : CountDiscipline (notifier device) inv :=
  countDiscipline_of_ignores fun _ ↦ ignores trivial

instance : SocketDiscipline (notifier device) (At n stage) :=
  socketDiscipline_of_ignores (fun _ hop ↦ ignores (aside_of_onSocket hop)) fun _ _ _ hat ↦ hat

instance : ReplyDiscipline (notifier device) (At n stage) :=
  replyDiscipline_of_ignores (ignores trivial)

instance : ScriptDiscipline (notifier device) (At n stage) where
  start _ := ⟨triple_call (fun _ _ _ ↦ trivial) fun _ _ _ hat _ ↦ hat⟩
  step := stable_ask_of_ignores (ignores trivial)
  answer _ := stable_ask_of_ignores (ignores trivial)

instance : Stable (notifier device) (At n stage) releaseBdCtx :=
  stable_releaseBdCtx_of_keeps (fun _ _ _ hat ↦ hat) fun op hop ↦ (ignores_pool op hop).keeps

instance (keeper : Keeper) : Stable (notifier device) (At n stage) (ensureDbCtx keeper) :=
  stable_ensureDbCtx_of_keeps (fun _ _ _ hat ↦ hat) (fun op hop ↦ (ignores_pool op hop).keeps) keeper

/-- A script without a client only writes to the log. -/
theorem stable_smsBdSetLog {inv : Client → Notifier → Prop} (info : SdInfo)
    (message level reference : Option CString) :
    Stable (notifier device) inv (smsBdSetLog info message level reference) := by
  have hlift {α : Type} (code : Code α) [hcode : Only signature Aside code] :
      Stable (notifier device) inv (lift code) :=
    Procedure.stable_lift (hcode.safe_of_ignores fun _ ↦ ignores)
  have hfind : Only signature Aside (findCtx .sms .smsBdSetLog) := only_perform trivial
  have hrelease (ctx : Option Ctx) : Only signature Aside (releaseCtx ctx) := only_perform trivial
  have hlog (ctx : Ctx) (log : Fildelog) : Only signature Aside (sql ctx (.setLogById log)) :=
    only_perform trivial
  unfold smsBdSetLog withCtx
  infer_instance

instance : Reliable (notifier device) where
  allow_shutdown _ := trivial
  next_shutdown _ _ := rfl
  shutdown hanswer := hanswer.1.choose_spec
  sql {_ _ query _} hreply := by
    obtain ⟨⟨address, hanswers⟩, -⟩ := hreply
    cases query with
    | getSdInfo sdid => exact hanswers.1
    | _ => exact hanswers

end Disciplines

section Handling

variable {seen : Address} {w : AddressWrite}

instance (sdid ip : CString) : Stable (notifier device) (At n stage) (dnsUpdate sdid ip) := by
  have hscript : Stable (notifier device) (At n stage) (smsModPhpExecuteScript
      ⟨sdid, "smsd".toList, "dns_update.php".toList, [str "sdid" sdid, str "ip" ip]⟩) :=
    stable_executeScript_of_not_hasCsp stable_smsBdSetLog rfl
  unfold dnsUpdate runScript
  infer_instance

/-- The comparison of serial numbers succeeds, whatever the script calls. -/
theorem triple_checkSerial (info : SdInfo) (ip : CString) :
    Triple (notifier device) (At n stage) (genericCheckSerialNumber info ip) fun ret csp g ↦
      ret = 0 ∧ At n stage csp g := by
  let script := deviceScript info "do_check_serial_number.php" [.sdInfo info, str "ipaddr" ip]
  have hstart : Triple (notifier device) (At n stage) (lift (ask (.scriptStart script)))
      fun _ ↦ Checking n stage :=
    triple_call (fun _ _ _ ↦ trivial) fun _ _ _ hat _ ↦
      ⟨hat, (decide_eq_true rfl : decide (script.file = serialScript) = true)⟩
  have hstep : Triple (notifier device) (Checking n stage) (lift (ask .scriptStep)) fun step csp g ↦
      step.elim (fun _ ↦ Checking n stage csp g) fun exit ↦ exit.ret = 0 ∧ At n stage csp g := by
    refine triple_call (fun _ _ _ ↦ trivial) fun csp g step hchecking hexpect ↦ ?_
    cases step with
    | call request => exact hchecking
    | exit ret returnBuf outputBuf => exact ⟨hexpect.2 hchecking.2, hchecking.1⟩
  have hcall (request : PhpCall) : Triple (notifier device) (Checking n stage)
      (callPhp (request.csp && script.hasCsp) (if request.sdInfo then script.sdInfo else none)
        request.function) fun _ ↦ Checking n stage := by
    have hcsp : script.hasCsp = false := rfl
    rw [hcsp, Bool.and_false]
    exact (stable_callPhp_false stable_smsBdSetLog _ _).triple
  have hanswer (value : PhpValue) :
      Stable (notifier device) (Checking n stage) (lift (ask (.phpReturn value))) :=
    stable_ask_of_ignores (ignores trivial)
  have hscript : Triple (notifier device) (At n stage) (smsModPhpExecuteScript script)
      fun exit csp g ↦ exit.ret = 0 ∧ At n stage csp g :=
    triple_executeScript hstart hstep hcall fun value ↦ (hanswer value).triple
  refine triple_ite (fun _ ↦ triple_pure _ fun _ _ hat ↦ ⟨rfl, hat⟩) fun _ ↦ ?_
  refine triple_bind hscript fun exit ↦ triple_ite (fun hret ↦ ?_) fun _ ↦ ?_
  · exact fun _ _ hpost ↦ absurd hpost.1 hret
  · exact triple_pure _ fun _ _ hpost ↦ hpost

/-- The record that is read decides what is left to do. -/
theorem triple_getSDinfo : Triple (notifier device) (At n .asked) (getSDinfo device.sdid)
    fun info csp g ↦ ∃ seen, info = ⟨0, device.record seen⟩ ∧ At n (n.stage seen) csp g := by
  show Triple (notifier device) (fun _ g ↦ g.notice = n ∧ g.stage = .asked) _
    fun (info : Reply SdInfo) _ g ↦ ∃ seen, info = ⟨0, device.record seen⟩ ∧ g.notice = n ∧ g.stage = n.stage seen
  refine triple_useDbCtx_of_pool ignores_pool fun ctx g hat ↦ ?_
  refine ⟨fun _ ↦ hat.2, fun reply hexpect ↦ ?_⟩
  obtain ⟨⟨seen, hret, houtput⟩, -⟩ := hexpect
  obtain ⟨ret, output⟩ := reply
  obtain rfl : ret = 0 := hret
  obtain rfl : output = device.record seen := houtput rfl
  obtain ⟨hnotice, -⟩ := hat
  subst hnotice
  refine ⟨seen, rfl, ?_⟩
  simp [notifier]

theorem stage_of_write (hwrite : n.write seen = some w) : n.stage seen = .decided seen := by
  simp [Notice.stage, hwrite]

theorem stage_of_nothing (hwrite : n.write seen = none) : n.stage seen = .settled := by
  simp [Notice.stage, hwrite]

theorem seen_of_stage {address : Address} (hstage : n.stage address = .decided seen) : seen = address := by
  unfold Notice.stage at hstage
  split at hstage
  · cases hstage
  · cases hstage
    rfl

theorem allow_write {g : Notifier} {ctx : Ctx} {query : Sql} (hat : g.notice = n ∧ g.stage = .decided seen)
    (hquery : query.addressWrite device.key = some w) (hwrite : n.write seen = some w) :
    (notifier device).allow g (.sql ctx query) := by
  obtain ⟨rfl, hstage⟩ := hat
  have hdecided : ∀ write, query.addressWrite device.key = some write →
      ∃ seen, g.stage = .decided seen ∧ g.notice.write seen = some write := by
    intro write hsome
    rw [hquery] at hsome
    cases hsome
    exact ⟨seen, hstage, hwrite⟩
  cases query with
  | getSdInfo sdid => cases hquery
  | _ => exact hdecided

theorem write_of_allow {g : Notifier} {ctx : Ctx} {query : Sql}
    (hallow : (notifier device).allow g (.sql ctx query))
    (hquery : query.addressWrite device.key = some w) :
    ∃ seen, g.stage = .decided seen ∧ g.notice.write seen = some w := by
  cases query with
  | getSdInfo sdid => cases hquery
  | _ => exact hallow w hquery

theorem next_write {g : Notifier} {ctx : Ctx} {query : Sql} (reply : Reply query.Output)
    (hquery : query.addressWrite device.key = some w) :
    (notifier device).next g (.sql ctx query) reply = { g with stage := .settled } := by
  have hsome : (query.addressWrite device.key).isSome = true := by rw [hquery, Option.isSome_some]
  cases query with
  | getSdInfo sdid => cases hquery
  | _ => exact if_pos hsome

theorem checking_next_sql {g : Notifier} {ctx : Ctx} {query : Sql} (reply : Reply query.Output) :
    ((notifier device).next g (.sql ctx query) reply).checking = g.checking := by
  cases query with
  | getSdInfo sdid => exact (apply_ite Notifier.checking _ _ _).trans (ite_self _)
  | _ => exact (apply_ite Notifier.checking _ _ _).trans (ite_self _)

/-- The write that was decided on, through its reconnecting wrapper. -/
theorem triple_write {query : Sql} {db : Db} {initial : query.Output}
    (hquery : query.addressWrite device.key = some w) (hwrite : n.write seen = some w) :
    Triple (notifier device) (At n (.decided seen)) (useDbCtx fun ctx ↦ ha ctx db query initial)
      fun reply csp g ↦ reply.ret = 0 ∧ At n .settled csp g := by
  show Triple (notifier device) (fun _ g ↦ g.notice = n ∧ g.stage = .decided seen) _
    fun (reply : Reply query.Output) _ g ↦ reply.ret = 0 ∧ g.notice = n ∧ g.stage = .settled
  refine triple_useDbCtx_of_pool ignores_pool fun ctx g hat ↦ ?_
  refine safe_ha (allow_write hat hquery hwrite) fun reply _ hret ↦ ?_
  rw [next_write reply hquery]
  exact ⟨hret, hat.1, rfl⟩

theorem triple_setLog (log : Fildelog) :
    Triple (notifier device) (At n stage) (useDbCtx fun ctx ↦ sql ctx (.setLogById log))
      fun reply csp g ↦ reply.ret = 0 ∧ At n stage csp g := by
  show Triple (notifier device) (fun _ g ↦ g.notice = n ∧ g.stage = stage) _
    fun (reply : Reply Unit) _ g ↦ reply.ret = 0 ∧ g.notice = n ∧ g.stage = stage
  refine triple_useDbCtx_of_pool ignores_pool fun ctx g hat ↦ ⟨nofun, fun reply hexpect ↦ ?_⟩
  obtain ⟨⟨address, hret⟩, -⟩ := hexpect
  exact ⟨hret, hat⟩

theorem not_refused_zero : ¬refused 0 := by decide

theorem triple_writeThenLog {write : Ctx → Code (Reply Unit)} (log : Fildelog)
    (hwrite : Triple (notifier device) (At n (.decided seen)) (useDbCtx write) fun reply csp g ↦
      reply.ret = 0 ∧ At n .settled csp g) :
    Triple (notifier device) (At n (.decided seen)) (writeThenLog write log) fun done csp g ↦
      done.output = true ∧ At n .settled csp g := by
  refine triple_bind hwrite fun written ↦ triple_ite (fun hrefused ↦ ?_) fun _ ↦ ?_
  · rintro csp g ⟨hret, -⟩
    rw [hret] at hrefused
    exact absurd hrefused not_refused_zero
  · refine ((triple_bind (triple_setLog log) fun logged ↦ ?_).conseq (fun _ _ hpost ↦ hpost.2)
      fun _ _ _ hpost ↦ hpost)
    refine triple_ite (fun hrefused ↦ ?_) fun _ ↦ triple_pure _ fun _ _ hpost ↦ ⟨rfl, hpost.2⟩
    rintro csp g ⟨hret, -⟩
    rw [hret] at hrefused
    exact absurd hrefused not_refused_zero

variable {ip : CString}

theorem addressWrite_setSDIPConfig (flag : Int) :
    (Sql.setSDIPConfig (device.record seen).sd.key ip flag).addressWrite device.key =
      some (.ipConfig ip flag) :=
  if_pos rfl

theorem addressWrite_setSDConnected (flag : Int) :
    (Sql.setSDConnected (device.record seen).sd.key flag).addressWrite device.key =
      some (.connected flag) :=
  if_pos rfl

theorem triple_updateIPWrites :
    Triple (notifier device) (At (.up ip) ((Notice.up ip).stage seen))
      (updateIPWrites device.sdid ip (device.record seen).sd device.interface)
      fun _ ↦ At (.up ip) .settled := by
  refine triple_ite (fun hip ↦ ?_) fun hip ↦ triple_ite (fun hzero ↦ ?_) fun hzero ↦ ?_
  · have hwrite : (Notice.up ip).write seen = some (.ipConfig ip 1) := if_pos hip
    rw [stage_of_write hwrite, if_pos device.dynamic]
    refine triple_bind (triple_writeThenLog _
      (triple_write (addressWrite_setSDIPConfig 1) hwrite)) fun done ↦ ?_
    refine triple_ite (fun _ ↦ ?_) fun hfailed ↦ ?_
    · have hrest : Stable (notifier device) (At (.up ip) .settled) (do
          let _ ← dnsUpdate device.sdid ip
          releaseBdCtx
          if done.ret = 0 then pure ipchanged else pure done.ret : M Int) := inferInstance
      exact hrest.triple.conseq (fun _ _ hpost ↦ hpost.2) fun _ _ _ hat ↦ hat
    · exact fun _ _ hpost ↦ absurd hpost.1 hfailed
  · have hwrite : (Notice.up ip).write seen = some (.connected 1) :=
      (if_neg hip).trans (if_pos hzero)
    rw [stage_of_write hwrite]
    refine triple_bind (triple_writeThenLog _
      (triple_write (addressWrite_setSDConnected 1) hwrite)) fun done ↦ ?_
    have hrest : Stable (notifier device) (At (.up ip) .settled) (do
        if done.output then releaseBdCtx
        pure done.ret : M Int) := inferInstance
    exact hrest.triple.conseq (fun _ _ hpost ↦ hpost.2) fun _ _ _ hat ↦ hat
  · have hwrite : (Notice.up ip).write seen = none := (if_neg hip).trans (if_neg hzero)
    rw [stage_of_nothing hwrite]
    exact Stable.triple

theorem triple_updateIP :
    Triple (notifier device) (At (.up ip) .asked) (updateIP device.sdid ip)
      fun _ ↦ At (.up ip) .settled := by
  refine triple_bind triple_getSDinfo fun info ↦ ?_
  rintro csp g ⟨seen, rfl, hat⟩
  have hrest : Triple (notifier device) (At (.up ip) ((Notice.up ip).stage seen)) (do
      releaseBdCtx
      if (device.record seen).sd.sdProvLock ≠ 0 then pure 0
      else (device.record seen).sdExtInterface.elim (pure 0) fun interface ↦ do
        let ret ← genericCheckSerialNumber (device.record seen) ip
        if ret ≠ 0 then pure ret else do
          ensureDbCtx .updateIP
          updateIPWrites device.sdid ip (device.record seen).sd interface : M Int)
      fun _ ↦ At (.up ip) .settled := by
    have hext : (device.record seen).sdExtInterface = some device.interface := device.ext
    have hunlocked : ¬(device.record seen).sd.sdProvLock ≠ 0 := not_not.2 device.unlocked
    rw [if_neg hunlocked, hext]
    refine triple_bind Stable.triple fun _ ↦ triple_bind (triple_checkSerial _ ip) fun ret ↦ ?_
    refine triple_ite (fun hret ↦ fun _ _ hpost ↦ absurd hpost.1 hret) fun _ ↦ ?_
    have hensure : Stable (notifier device) (At (.up ip) ((Notice.up ip).stage seen))
        (ensureDbCtx .updateIP) := inferInstance
    exact (triple_bind hensure.triple fun _ ↦ triple_updateIPWrites).conseq (fun _ _ hpost ↦ hpost.2)
      fun _ _ _ hat ↦ hat
  exact hrest csp g hat

theorem triple_ipDownWrites :
    Triple (notifier device) (At (.down ip) ((Notice.down ip).stage seen))
      (ipDownWrites ip (device.record seen).sd) fun done csp g ↦
        done.output = true ∧ At (.down ip) .settled csp g := by
  have hnothing (hdown : ¬(seen.connected ≠ 0 ∧ (ip = seen.ip ∨ seen.ip = []))) :
      Triple (notifier device) (At (.down ip) ((Notice.down ip).stage seen)) (pure ⟨0, true⟩)
        fun (done : Reply Bool) csp g ↦ done.output = true ∧ At (.down ip) .settled csp g := by
    have hwrite : (Notice.down ip).write seen = none := if_neg hdown
    rw [stage_of_nothing hwrite]
    exact triple_pure _ fun _ _ hat ↦ ⟨rfl, hat⟩
  refine triple_ite (fun hconnected ↦ triple_ite (fun hip ↦ ?_) fun hip ↦ ?_) fun hconnected ↦ ?_
  · have hwrite : (Notice.down ip).write seen = some (.connected 0) := if_pos ⟨hconnected, hip⟩
    rw [stage_of_write hwrite]
    refine triple_bind (triple_setLog _) fun logged ↦ triple_ite (fun hrefused ↦ ?_) fun _ ↦ ?_
    · rintro csp g ⟨hret, -⟩
      rw [hret] at hrefused
      exact absurd hrefused not_refused_zero
    · refine (triple_bind (triple_write (addressWrite_setSDConnected 0) hwrite) fun written ↦ ?_).conseq
        (fun _ _ hpost ↦ hpost.2) fun _ _ _ hpost ↦ hpost
      refine triple_ite (fun hrefused ↦ ?_) fun _ ↦ triple_pure _ fun _ _ hpost ↦ ⟨rfl, hpost.2⟩
      rintro csp g ⟨hret, -⟩
      rw [hret] at hrefused
      exact absurd hrefused not_refused_zero
  · exact hnothing fun hdown ↦ hip hdown.2
  · exact hnothing fun hdown ↦ hconnected hdown.1

theorem triple_doSdIpUp (hsdid : IsWord device.sdid) (hip : IsWord ip) :
    Triple (notifier device) (At (.up ip) .asked) (doSdIpUp (device.sdid ++ ' ' :: ip))
      fun _ ↦ At (.up ip) .settled := by
  unfold doSdIpUp
  rw [cut_pair hsdid]
  refine triple_bind Stable.triple fun _ ↦ triple_bind Stable.triple fun _ ↦ ?_
  refine triple_ite (fun hnone ↦ absurd hnone hip.1) fun _ ↦ ?_
  exact triple_bind triple_updateIP fun result ↦ Stable.triple

theorem triple_doIpDown (hsdid : IsWord device.sdid) (hip : IsWord ip) :
    Triple (notifier device) (At (.down ip) .asked) (doIpDown (device.sdid ++ ' ' :: ip))
      fun _ ↦ At (.down ip) .settled := by
  rw [doIpDown_pair hsdid hip]
  refine triple_bind Stable.triple fun _ ↦ triple_bind triple_getSDinfo fun info ↦ ?_
  rintro csp g ⟨seen, rfl, hat⟩
  have hwrites : Triple (notifier device) (At (.down ip) ((Notice.down ip).stage seen)) (do
      let done ← ipDownWrites ip (device.record seen).sd
      if done.output then do
        let _ ← sendOk none
        pure 0
      else ipDownError done.ret : M Int) fun _ ↦ At (.down ip) .settled := by
    refine triple_bind triple_ipDownWrites fun done ↦ triple_ite (fun _ ↦ ?_) fun hfailed ↦ ?_
    · have hreply : Stable (notifier device) (At (.down ip) .settled) (do
          let _ ← sendOk none
          pure 0 : M Int) := inferInstance
      exact hreply.triple.conseq (fun _ _ hpost ↦ hpost.2) fun _ _ _ hat ↦ hat
    · exact fun _ _ hpost ↦ absurd hpost.1 hfailed
  exact hwrites csp g hat

theorem triple_handle (hsdid : IsWord device.sdid) (hip : IsWord n.ip) :
    Triple (notifier device) (At n .asked) (n.handle device.sdid) fun _ ↦ At n .settled := by
  cases n with
  | up ip => exact triple_doSdIpUp hsdid hip
  | down ip => exact triple_doIpDown hsdid hip

end Handling

end Notifier

end CoreEngine.Smsd
