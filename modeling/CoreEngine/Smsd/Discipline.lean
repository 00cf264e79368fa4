import CoreEngine.Smsd.Footprint

/-!
# Disciplines

A monitor may watch contexts, the socket, replies or locks, and most code is harmless for it. The
classes below say which parts of the daemon keep an assertion: plain operations, the use of database
contexts, the locks, the client socket, replies, and scripts. Every function is shown once to keep any
assertion that its parts keep.
-/

namespace CoreEngine.Smsd

open Interaction
open Procedure (lift Stable Triple triple_bind triple_ite triple_pure triple_loop)
open Program (Only)

variable {G : Type} {D : Monitor signature G} {inv : Client → G → Prop}

class PlainDiscipline (D : Monitor signature G) (inv : Client → G → Prop) : Prop where
  plain {α : Type} (code : Code α) (hcode : Only signature Op.Plain code) : Stable D inv (lift code)

/-- Contexts are taken, used and given back, for calls that neither look anything up nor concern a
lock. -/
class QueryDiscipline (D : Monitor signature G) (inv : Client → G → Prop) : Prop extends
    PlainDiscipline D inv where
  ensure (keeper : Keeper) : Stable D inv (ensureDbCtx keeper)
  release : Stable D inv releaseBdCtx
  use {α : Type} (body : Ctx → Code α) (hbody : ∀ ctx, CtxCode 0 ctx (body ctx)) :
    Stable D inv (useDbCtx body)
  borrow {α : Type} (borrower : Borrower) (body : Ctx → Code α)
    (hbody : ∀ ctx, CtxCode 0 ctx (body ctx)) : Stable D inv (borrowDbCtx borrower body)
  setLog {α : Type} (body : Ctx → Code α) (hbody : ∀ ctx, CtxCode 0 ctx (body ctx)) :
    Stable D inv (lift (withCtx .sms .smsBdSetLog body))

/-- The same, and lookups. -/
class ContextDiscipline (D : Monitor signature G) (inv : Client → G → Prop) : Prop extends
    QueryDiscipline D inv where
  sdInfo (sdid : CString) : Stable D inv (getSDinfo sdid)
  custInfo (custid : CString) : Stable D inv (getCustInfo custid)

class LockDiscipline (D : Monitor signature G) (inv : Client → G → Prop) : Prop where
  lockProv (key : SdKey) : Stable D inv (lockProv key)
  unlockProv (key : SdKey) : Stable D inv (unlockProv key)
  lockSD (key : SdKey) : Stable D inv (lockSD key)
  unlockSD (key : SdKey) : Stable D inv (unlockSD key)

/-- The client socket is read and written. -/
class ConnectionDiscipline (D : Monitor signature G) (inv : Client → G → Prop) : Prop where
  read (size timeout : ℕ) : Stable D inv (socketReadLine size timeout)
  write (bytes : CString) : Stable D inv (socketWrite bytes)
  snmpGet (oid : CString) : Stable D inv (doSnmpGet oid)
  snmpGetNext (oid : CString) : Stable D inv (doSnmpGetNext oid)

/-- The client socket is read, written and closed. -/
class SocketDiscipline (D : Monitor signature G) (inv : Client → G → Prop) : Prop extends
    ConnectionDiscipline D inv where
  close : Stable D inv closeUserSocket

class ReplyDiscipline (D : Monitor signature G) (inv : Client → G → Prop) : Prop where
  replied : Stable D inv (lift (ask .replied))

class ScriptDiscipline (D : Monitor signature G) (inv : Client → G → Prop) : Prop where
  start (script : Script) : Stable D inv (lift (ask (.scriptStart script)))
  step : Stable D inv (lift (ask .scriptStep))
  answer (value : PhpValue) : Stable D inv (lift (ask (.phpReturn value)))

/-- Scripts run from their start to their end. -/
class RunDiscipline (D : Monitor signature G) (inv : Client → G → Prop) : Prop where
  execute (script : Script) : Stable D inv (smsModPhpExecuteScript script)

/-- A device is looked up, and the client is told when that fails. -/
class LookupDiscipline (D : Monitor signature G) (inv : Client → G → Prop) : Prop where
  withSDinfo (sdid message : CString) (body : SdInfo → M Int)
    (hbody : ∀ info, Stable D inv (body info)) : Stable D inv (withSDinfo sdid message body)

/-- What an array held before it is written may be looked at. -/
class StackDiscipline (D : Monitor signature G) (inv : Client → G → Prop) : Prop where
  uninitialised : Stable D inv (lift (ask .uninitialised))

/-- Requests are counted. -/
class CountDiscipline (D : Monitor signature G) (inv : Client → G → Prop) : Prop where
  count (counter : Counter) : Stable D inv (countUp counter)

/-- A body may be missing wherever the assertion holds. -/
class BodyDiscipline (D : Monitor signature G) (inv : Client → G → Prop) : Prop where
  allow (csp : Client) (g : G) : inv csp g → D.allow g .nullBody

instance {α : Type} [h : BodyDiscipline D inv] : Stable D inv (lift nullBody : M α) :=
  ⟨fun csp g hinv ↦ ⟨h.allow csp g hinv, fun answer ↦ answer.elim⟩⟩

attribute [instance] QueryDiscipline.ensure QueryDiscipline.release ContextDiscipline.sdInfo
  ContextDiscipline.custInfo LockDiscipline.lockProv LockDiscipline.unlockProv LockDiscipline.lockSD
  LockDiscipline.unlockSD ConnectionDiscipline.read ConnectionDiscipline.write
  ConnectionDiscipline.snmpGet ConnectionDiscipline.snmpGetNext SocketDiscipline.close
  ReplyDiscipline.replied ScriptDiscipline.start ScriptDiscipline.step ScriptDiscipline.answer
  RunDiscipline.execute StackDiscipline.uninitialised CountDiscipline.count

section Plain

variable [h : PlainDiscipline D inv]

instance {α : Type} (code : Code α) [hcode : Only signature Op.Plain code] :
    Stable D inv (lift code) :=
  h.plain code hcode

instance (sd : SdLike) : Stable D inv (configType sd) := by
  unfold configType
  infer_instance

/-- The type of a configuration is a string. -/
theorem triple_configType (sd : SdLike) : Triple D inv (configType sd) fun type csp g ↦
    (∃ value, type = .str "config_type".toList value) ∧ inv csp g := by
  have hlibrary : Stable D inv (lift (ask .library)) := inferInstance
  exact triple_bind hlibrary.triple fun library ↦ triple_pure _ fun _ _ hinv ↦ ⟨⟨_, rfl⟩, hinv⟩

end Plain

section Stack

variable [StackDiscipline D inv]

instance (words : List CString) (i : ℕ) : Stable D inv (scanned words i) := by
  unfold scanned
  infer_instance

instance (number : CString → Int) (sdid : CString) : Stable D inv (decodeSdid number sdid) := by
  unfold decodeSdid
  infer_instance

end Stack

section Query

variable [h : QueryDiscipline D inv]

instance {α : Type} (body : Ctx → Code α) [hbody : ∀ ctx, CtxCode 0 ctx (body ctx)] :
    Stable D inv (useDbCtx body) :=
  h.use body hbody

instance {α : Type} (borrower : Borrower) (body : Ctx → Code α)
    [hbody : ∀ ctx, CtxCode 0 ctx (body ctx)] : Stable D inv (borrowDbCtx borrower body) :=
  h.borrow borrower body hbody

instance {α : Type} (body : Ctx → Code α) [hbody : ∀ ctx, CtxCode 0 ctx (body ctx)] :
    Stable D inv (lift (withCtx .sms .smsBdSetLog body)) :=
  h.setLog body hbody

instance (sdid : CString) (flag : Int) [∀ number, Stable D inv (decodeSdid number sdid)] :
    Stable D inv (setSdUpdated sdid flag) := by
  unfold setSdUpdated
  infer_instance

instance (sdid type status message : CString) [∀ number, Stable D inv (decodeSdid number sdid)] :
    Stable D inv (setUpdateStatus sdid type status message) := by
  unfold setUpdateStatus
  infer_instance

instance (sdid type : CString) [∀ number, Stable D inv (decodeSdid number sdid)] :
    Stable D inv (getUpdateStatus sdid type) := by
  unfold getUpdateStatus
  infer_instance

instance (sdid : CString) (rest : List (CString × CString)) (text : Option CString)
    [∀ number, Stable D inv (decodeSdid number sdid)] : Stable D inv (checkEvents sdid rest text) := by
  induction rest generalizing text with
  | nil =>
    unfold checkEvents
    infer_instance
  | cons event rest ih =>
    unfold checkEvents
    infer_instance

instance (sdid : CString) [∀ number, Stable D inv (decodeSdid number sdid)] :
    Stable D inv (sdForceAsset sdid) := by
  unfold sdForceAsset
  infer_instance

instance (sdid : CString) [∀ number, Stable D inv (decodeSdid number sdid)] :
    Stable D inv (checkUpdate sdid) := by
  unfold checkUpdate
  infer_instance

instance (sdid : CString) [∀ number, Stable D inv (decodeSdid number sdid)] :
    Stable D inv (checkAllUpdate sdid) := by
  unfold checkAllUpdate
  infer_instance

instance (sdid : CString) [∀ number, Stable D inv (decodeSdid number sdid)] :
    Stable D inv (sdGetAsset sdid) := by
  unfold sdGetAsset
  infer_instance

instance (sdid : CString) (mode : Int) [∀ number, Stable D inv (decodeSdid number sdid)] :
    Stable D inv (sdSetConfigMode sdid mode) := by
  unfold sdSetConfigMode
  infer_instance

instance (borrower : Borrower) (body : Ctx → Code (Reply Unit))
    [∀ ctx, CtxCode 0 ctx (body ctx)] : Stable D inv (smsBd borrower body) := by
  unfold smsBd
  infer_instance

instance (info : SdInfo) (n : Int) (names : List (Option CString)) :
    Stable D inv (smsBdInitProvstatus info n names) := by
  unfold smsBdInitProvstatus
  infer_instance

instance (info : SdInfo) (stage : Int) (status : CString) (error : Int) (next : Option CString)
    (message : CString) :
    Stable D inv (smsBdSetProvstatus info stage status error next message) := by
  unfold smsBdSetProvstatus
  infer_instance

instance [StackDiscipline D inv] (info : SdInfo) (stage : Int) :
    Stable D inv (smsBdGetProvstatus info stage) := by
  unfold smsBdGetProvstatus
  infer_instance

instance (info : SdInfo) (mode : Int) : Stable D inv (smsBdSetPollMode info mode) := by
  unfold smsBdSetPollMode
  infer_instance

instance (info : SdInfo) (ip : CString) : Stable D inv (smsBdSetIpconfig info ip) := by
  unfold smsBdSetIpconfig
  infer_instance

instance (info : SdInfo) : Stable D inv (smsBdResetConfObjects info) := by
  unfold smsBdResetConfObjects
  infer_instance

instance (info : SdInfo) (name value : CString) :
    Stable D inv (smsBdSetConfObjects info name value) := by
  unfold smsBdSetConfObjects
  infer_instance

instance (info : SdInfo) (name : CString) : Stable D inv (smsBdDeleteConfObjects info name) := by
  unfold smsBdDeleteConfObjects
  infer_instance

instance (info : SdInfo) (message level reference : Option CString) :
    Stable D inv (smsBdSetLog info message level reference) := by
  unfold smsBdSetLog
  infer_instance

instance (sdid : CString) (error : Int) (type status message : CString)
    [∀ number, Stable D inv (decodeSdid number sdid)] :
    Stable D inv (endUpdate sdid error type status message) := by
  unfold endUpdate
  infer_instance

instance (sdid : CString) (error : Int) (type status message : CString)
    [∀ number, Stable D inv (decodeSdid number sdid)] :
    Stable D inv (smsSetUpdateStatus sdid error type status message) := by
  unfold smsSetUpdateStatus
  infer_instance

instance (write : Ctx → Code (Reply Unit)) (log : Fildelog) [∀ ctx, CtxCode 0 ctx (write ctx)] :
    Stable D inv (writeThenLog write log) := by
  unfold writeThenLog
  infer_instance

instance (ip : CString) (sd : SdLike) : Stable D inv (ipDownWrites ip sd) := by
  unfold ipDownWrites
  infer_instance

end Query

instance : Stable D inv cfdOpen := by
  unfold cfdOpen
  infer_instance

instance (ret : Int) : Stable D inv (ignoreFailure ret) := by
  unfold ignoreFailure
  infer_instance

section Reading

variable [ConnectionDiscipline D inv]

instance (size timeout : ℕ) (more : Int → Bool) (eol : CString) :
    Stable D inv (readBody size timeout more eol) := by
  unfold readBody
  infer_instance

instance : Stable D inv readCommandParams := by
  unfold readCommandParams
  infer_instance

end Reading

section Client

variable [PlainDiscipline D inv] [ConnectionDiscipline D inv] [ReplyDiscipline D inv]

instance (pieces : List CString) : Stable D inv (writePieces pieces) := by
  induction pieces with
  | nil =>
    unfold writePieces
    infer_instance
  | cons piece pieces ih =>
    unfold writePieces
    infer_instance

instance (msg : Option CString) : Stable D inv (sendOk msg) := by
  unfold sendOk
  infer_instance

instance (msg : Option CString) (error : Int) : Stable D inv (sendError msg error) := by
  unfold sendError
  infer_instance

instance (library : Library) (result : Option CString) (status : CString)
    (message code : Option CString) :
    Stable D inv (internalSendUserMessage library result status message code) := by
  unfold internalSendUserMessage
  infer_instance

instance (result message : Option CString) : Stable D inv (smsSendUserOkEx result message) := by
  unfold smsSendUserOkEx
  infer_instance

instance (result : Option CString) : Stable D inv (smsSendUserOk result) := by
  unfold smsSendUserOk
  infer_instance

instance (result : Option CString) (error : Int) : Stable D inv (smsSendUserError result error) := by
  unfold smsSendUserError
  infer_instance

instance (result : Option CString) (error : Int) : Stable D inv (smsSendUserErrorEx result error) := by
  unfold smsSendUserErrorEx
  infer_instance

instance (message : Option CString) : Stable D inv (smsReplyToUser message) := by
  unfold smsReplyToUser
  infer_instance

instance (message : CString) : Stable D inv (smsSendUserMessage message) := by
  unfold smsSendUserMessage
  infer_instance

instance : Stable D inv (badParam) := by
  unfold badParam
  infer_instance

instance (ret : Int) : Stable D inv (replyFailure ret) := by
  unfold replyFailure
  infer_instance

instance (ret : Int) : Stable D inv (replyAnyFailure ret) := by
  unfold replyAnyFailure
  infer_instance

instance (ret : Int) : Stable D inv (replyOutcome ret) := by
  unfold replyOutcome
  infer_instance

instance (ret : Int) : Stable D inv (replyError ret) := by
  unfold replyError
  infer_instance

instance (ret : Int) (msg : Option CString) : Stable D inv (plainReply ret msg) := by
  unfold plainReply
  infer_instance

instance [CountDiscipline D inv] (result : Int) : Stable D inv (ipDownError result) := by
  unfold ipDownError
  infer_instance

instance : Stable D inv (doReinitLogs) := by
  unfold doReinitLogs
  infer_instance

instance : Stable D inv (doIsAlive) := by
  unfold doIsAlive
  infer_instance

instance : Stable D inv (doStat) := by
  unfold doStat
  infer_instance

instance : Stable D inv (doPS) := by
  unfold doPS
  infer_instance

instance (params : CString) : Stable D inv (doSetLogLevel params) := by
  unfold doSetLogLevel
  infer_instance

instance : Stable D inv (doListVerb) := by
  unfold doListVerb
  infer_instance

instance (params : CString) (n : ℕ) (enough : ℕ → Bool) (body : List CString → M Int)
    [∀ words, Stable D inv (body words)] : Stable D inv (withWords params n enough body) := by
  unfold withWords
  infer_instance

end Client

theorem triple_silently {pre : Client → G → Prop} {request : M Int}
    (hrequest : Triple D pre request fun _ ↦ inv) : Triple D pre (silently request) fun _ ↦ inv :=
  triple_bind hrequest fun _ ↦ triple_pure 0 fun _ _ hinv ↦ hinv

instance (request : M Int) [Stable D inv request] : Stable D inv (silently request) := by
  unfold silently
  infer_instance

section Calls

variable [QueryDiscipline D inv] [SocketDiscipline D inv] [ReplyDiscipline D inv] [StackDiscipline D inv]

instance (csp : Bool) (info : Option SdInfo) (body : SdInfo → M Int)
    [∀ info, Stable D inv (body info)] : Stable D inv (withPointers csp info body) := by
  unfold withPointers
  infer_instance

instance (csp : Bool) (body : M Unit) [Stable D inv body] : Stable D inv (withCsp csp body) := by
  unfold withCsp
  infer_instance

omit [QueryDiscipline D inv] [SocketDiscipline D inv] [ReplyDiscipline D inv] [StackDiscipline D inv] in
theorem triple_withPointers {csp : Bool} {info : Option SdInfo} {body : SdInfo → M Int}
    {pre post : Client → G → Prop} (hnothing : ∀ csp g, pre csp g → post csp g)
    (hbody : ∀ info' ∈ info, Triple D pre (body info') fun _ ↦ post) :
    Triple D pre (withPointers csp info body) fun _ ↦ post := by
  have hfailed : Triple D pre (pure (.int errSdFailed) : M PhpValue) fun _ ↦ post :=
    triple_pure _ hnothing
  cases info with
  | none => exact hfailed
  | some info =>
    refine triple_ite (fun _ ↦ triple_bind (hbody info rfl) fun ret ↦ ?_) fun _ ↦ hfailed
    exact triple_pure _ fun _ _ hpost ↦ hpost

/-- The functions of scripts that work on the locks. -/
def PhpFunction.isLock : PhpFunction → Bool
  | .smsSdProvLock | .smsSdProvUnlock | .smsSdLock | .smsSdUnlock => true
  | _ => false

theorem stable_callPhp_of_isLock (csp : Bool) (info : Option SdInfo) {function : PhpFunction}
    (hfunction : function.isLock = false) : Stable D inv (callPhp csp info function) := by
  cases function <;> first | (unfold callPhp; infer_instance) | cases hfunction

/-- A call on behalf of one device: its lock functions, and everything else. -/
theorem triple_callPhp {key : SdKey} {pre : Client → G → Prop} (csp : Bool) {info : Option SdInfo}
    {function : PhpFunction} (hinfo : ∀ info' ∈ info, info'.sd.key = key)
    (hpre : ∀ csp g, pre csp g → inv csp g)
    (hlock : function = .smsSdLock → Triple D pre (lockSD key) fun _ ↦ inv)
    (hunlock : function = .smsSdUnlock → Triple D pre (unlockSD key) fun _ ↦ inv)
    (hprovLock : function = .smsSdProvLock → Triple D pre (lockProv key) fun _ ↦ inv)
    (hprovUnlock : function = .smsSdProvUnlock → Triple D pre (unlockProv key) fun _ ↦ inv) :
    Triple D pre (callPhp csp info function) fun _ ↦ inv := by
  by_cases hother : function.isLock = false
  · have hstable : Stable D inv (callPhp csp info function) := stable_callPhp_of_isLock csp info hother
    exact hstable.triple.conseq hpre fun _ _ _ hinv ↦ hinv
  · have hdevice {body : SdKey → M Int} (hbody : Triple D pre (body key) fun _ ↦ inv) :
        Triple D pre (withPointers csp info fun info ↦ body info.sd.key) fun _ ↦ inv := by
      refine triple_withPointers hpre fun info hsome ↦ ?_
      rw [hinfo info hsome]
      exact hbody
    cases function with
    | smsSdLock => exact hdevice (hlock rfl)
    | smsSdUnlock => exact hdevice (hunlock rfl)
    | smsSdProvLock => exact hdevice (hprovLock rfl)
    | smsSdProvUnlock => exact hdevice (hprovUnlock rfl)
    | _ => exact absurd rfl hother

instance [LockDiscipline D inv] (csp : Bool) (info : Option SdInfo) (function : PhpFunction) :
    Stable D inv (callPhp csp info function) := by
  cases function <;> (unfold callPhp; infer_instance)

end Calls

theorem mem_of_request {script : Script} {request : PhpCall} {info : SdInfo}
    (hinfo : info ∈ if request.sdInfo then script.sdInfo else none) : info ∈ script.sdInfo := by
  cases hrequest : request.sdInfo with
  | false => simp [hrequest] at hinfo
  | true => simpa [hrequest] using hinfo

/-- The device of a script is the one among its globals. -/
theorem key_of_mem_sdInfo {script : Script} {info : SdInfo} {key : SdKey} (hinfo : info.sd.key = key)
    (hglobals : ∀ global ∈ script.globals, ∀ info', global = .sdInfo info' → info' = info) :
    ∀ info' ∈ script.sdInfo, info'.sd.key = key := by
  intro info' hmem
  obtain ⟨global, hglobal, hsome⟩ := List.exists_of_findSome?_eq_some hmem
  cases global with
  | sdInfo info'' =>
    cases hsome
    rw [hglobals _ hglobal info' rfl]
    exact hinfo
  | _ => cases hsome

/-- A script is a sequence of calls. Between them `inv` holds; `called` says what holds when a call
begins, `answered` when it returns. -/
theorem triple_executeScript {script : Script} {pre inv : Client → G → Prop}
    {called : PhpCall → Client → G → Prop} {answered : PhpValue → Client → G → Prop}
    {post : ScriptExit → Client → G → Prop}
    (hstart : Triple D pre (lift (ask (.scriptStart script))) fun _ ↦ inv)
    (hstep : Triple D inv (lift (ask .scriptStep)) fun step csp g ↦ step.elim (called · csp g) (post · csp g))
    (hcall : ∀ request, Triple D (called request) (callPhp (request.csp && script.hasCsp)
      (if request.sdInfo then script.sdInfo else none) request.function) answered)
    (hanswer : ∀ value, Triple D (answered value) (lift (ask (.phpReturn value))) fun _ ↦ inv) :
    Triple D pre (smsModPhpExecuteScript script) post := by
  refine triple_bind hstart fun _ ↦ triple_loop (fun _ ↦ inv) (fun _ ↦ ?_) ()
  refine triple_bind hstep fun step ↦ ?_
  cases step with
  | call request =>
    have hround : Triple D (called request) (scriptRound script (.call request)) fun result csp g ↦
        result = .inl () ∧ inv csp g :=
      triple_bind (hcall request) fun value ↦ triple_bind (hanswer value) fun _ ↦
        triple_pure _ fun _ _ hinv ↦ ⟨rfl, hinv⟩
    refine hround.conseq (fun _ _ hcalled ↦ hcalled) ?_
    rintro _ csp g ⟨rfl, hinv⟩
    exact hinv
  | exit ret returnBuf outputBuf => exact triple_pure _ fun _ _ hpost ↦ hpost

section WithoutClient

variable [PlainDiscipline D inv]
  (hlog : ∀ info message level reference, Stable D inv (smsBdSetLog info message level reference))

include hlog

/-- Without `sms_csp` a script only writes to the log of its device, on a context of its own. -/
theorem stable_callPhp_false (info : Option SdInfo) (function : PhpFunction) :
    Stable D inv (callPhp false info function) := by
  have hpointers (body : SdInfo → M Int) : Stable D inv (withPointers false info body) := by
    unfold withPointers
    cases info <;> exact inferInstanceAs (Stable D inv (pure _))
  have hcsp (body : M Unit) : Stable D inv (withCsp false body) :=
    inferInstanceAs (Stable D inv (pure _))
  have hfalse {α : Type} (yes no : M α) [hno : Stable D inv no] :
      Stable D inv (if false = true then yes else no) := hno
  cases function <;> (unfold callPhp; infer_instance)

theorem stable_executeScript_of_not_hasCsp [ScriptDiscipline D inv] {script : Script}
    (hscript : script.hasCsp = false) : Stable D inv (smsModPhpExecuteScript script) := by
  have hround (step : ScriptStep) : Stable D inv (scriptRound script step) := by
    cases step with
    | call request =>
      have hcall (info : Option SdInfo) :
          Stable D inv (callPhp (request.csp && script.hasCsp) info request.function) := by
        rw [hscript, Bool.and_false]
        exact stable_callPhp_false hlog info request.function
      unfold scriptRound
      infer_instance
    | exit ret returnBuf outputBuf =>
      unfold scriptRound
      infer_instance
  unfold smsModPhpExecuteScript
  infer_instance

/-- The script that saves the running configuration has no client. -/
theorem stable_saveRunningConf_of_log [ScriptDiscipline D inv] (sd : SdLike) (flag : CString) :
    Stable D inv (saveRunningConf sd flag) := by
  refine ⟨triple_bind (triple_configType sd) fun type ↦ ?_⟩
  rintro csp g ⟨⟨value, rfl⟩, hinv⟩
  have hscript : Stable D inv (smsModPhpExecuteScript ⟨sd.sdid, "smsd".toList,
      "save_router_conf.php".toList, [str "flag_update" flag, .str "config_type".toList value,
        str "sdid" sd.sdid]⟩) :=
    stable_executeScript_of_not_hasCsp hlog rfl
  exact (triple_bind hscript.triple fun exit ↦ Stable.triple) csp g hinv

end WithoutClient

section Unattended

/-! Requests whose scripts are not given the client context. -/

-- the derivation of a long body is large, though quickly found
set_option synthInstance.maxSize 4000

variable [QueryDiscipline D inv] [ScriptDiscipline D inv]

theorem stable_unattendedScript {script : Script} (hscript : script.hasCsp = false) :
    Stable D inv (smsModPhpExecuteScript script) :=
  stable_executeScript_of_not_hasCsp (fun _ _ _ _ ↦ inferInstance) hscript

instance (info : SdInfo) : Stable D inv (genericGetConfiguration info) := by
  have hscript : Stable D inv
      (smsModPhpExecuteScript (deviceScript info "do_get_sd_conf.php" [.sdInfo info])) :=
    stable_unattendedScript rfl
  unfold genericGetConfiguration
  infer_instance

instance (info : SdInfo) (full : Bool) (first last : Int) :
    Stable D inv (genericGetReport info full first last) := by
  have hscript : Stable D inv (smsModPhpExecuteScript (deviceScript info "do_get_report.php"
      [.bool "fullReport".toList full, .sdInfo info])) :=
    stable_unattendedScript rfl
  unfold genericGetReport
  infer_instance

instance (info : SdInfo) (ip : CString) : Stable D inv (genericCheckSerialNumber info ip) := by
  have hscript : Stable D inv (smsModPhpExecuteScript
      (deviceScript info "do_check_serial_number.php" [.sdInfo info, str "ipaddr" ip])) :=
    stable_unattendedScript rfl
  unfold genericCheckSerialNumber runScript
  infer_instance

instance (sdid ip : CString) : Stable D inv (dnsUpdate sdid ip) := by
  have hscript : Stable D inv (smsModPhpExecuteScript
      ⟨sdid, "smsd".toList, "dns_update.php".toList, [str "sdid" sdid, str "ip" ip]⟩) :=
    stable_unattendedScript rfl
  unfold dnsUpdate runScript
  infer_instance

instance (sd : SdLike) (flag : CString) : Stable D inv (saveRunningConf sd flag) :=
  stable_saveRunningConf_of_log (fun _ _ _ _ ↦ inferInstance) sd flag

instance (sdid ip : CString) (sd : SdLike) (interface : SdInterface) :
    Stable D inv (updateIPWrites sdid ip sd interface) := by
  unfold updateIPWrites
  infer_instance

instance (ip : CString) (sd : SdLike) (interface : SdInterface) :
    Stable D inv (updateRouterIPWrites ip sd interface) := by
  unfold updateRouterIPWrites
  infer_instance

end Unattended

section UnattendedLookup

set_option synthInstance.maxSize 4000

variable [ContextDiscipline D inv] [ScriptDiscipline D inv]

instance (sdid : CString) : Stable D inv (getRouterFullConfiguration sdid) := by
  unfold getRouterFullConfiguration
  infer_instance

instance (sdid : CString) (dates : Int × Int) : Stable D inv (getReportFor sdid dates) := by
  unfold getReportFor
  infer_instance

instance (params : CString) : Stable D inv (getReport params) := by
  unfold getReport
  infer_instance

instance (sdid : CString) : Stable D inv (getVPNReport sdid) := by
  unfold getVPNReport
  infer_instance

instance (sdid ip : CString) : Stable D inv (updateIP sdid ip) := by
  unfold updateIP
  infer_instance

instance (params : CString) : Stable D inv (updateRouterIP params) := by
  unfold updateRouterIP
  infer_instance

instance [CountDiscipline D inv] (params : CString) : Stable D inv (handlePppIpUp params) := by
  unfold handlePppIpUp
  infer_instance

instance (params : CString) : Stable D inv (getRouterIp params) := by
  unfold getRouterIp
  infer_instance

instance [SocketDiscipline D inv] [CountDiscipline D inv] (params : CString) :
    Stable D inv (doSdIpUp params) := by
  unfold doSdIpUp
  infer_instance

end UnattendedLookup

section Records

/-! Requests that neither look anything up nor run a script. -/

set_option synthInstance.maxSize 4000

variable [QueryDiscipline D inv] [ConnectionDiscipline D inv] [ReplyDiscipline D inv]
  [StackDiscipline D inv]

instance (keeper : Keeper) (params : CString) (update : M Int) [Stable D inv update] :
    Stable D inv (thenForceAsset keeper params update) := by
  unfold thenForceAsset
  infer_instance

instance (sdid : CString) (ret : Int) : Stable D inv (recordUpdate sdid ret) := by
  unfold recordUpdate
  infer_instance

instance (sdid type : CString) [∀ number, Stable D inv (decodeSdid number sdid)] :
    Stable D inv (checkStatus sdid type) := by
  unfold checkStatus
  infer_instance

instance (params : CString) : Stable D inv (doCheckUpdate params) := by
  unfold doCheckUpdate
  infer_instance

instance (params : CString) : Stable D inv (doCheckAllUpdate params) := by
  unfold doCheckAllUpdate
  infer_instance

instance (params : CString) : Stable D inv (doCheckCmd params) := by
  unfold doCheckCmd
  infer_instance

instance (params : CString) : Stable D inv (doGetAsset params) := by
  unfold doGetAsset
  infer_instance

instance (params : CString) : Stable D inv (doForceAsset params) := by
  unfold doForceAsset
  infer_instance

instance (params : CString) : Stable D inv (doSetConfigMode params) := by
  unfold doSetConfigMode
  infer_instance

end Records

section LockFree

/-! Requests whose scripts are given no device, and so cannot reach the locks. -/

set_option synthInstance.maxSize 4000

variable [QueryDiscipline D inv] [SocketDiscipline D inv] [ReplyDiscipline D inv] [StackDiscipline D inv]

theorem stable_callPhp_none (csp : Bool) (function : PhpFunction) :
    Stable D inv (callPhp csp none function) := by
  by_cases hother : function.isLock = false
  · exact stable_callPhp_of_isLock csp none hother
  · cases function <;> first | exact absurd rfl hother | exact inferInstanceAs (Stable D inv (pure _))

theorem stable_executeScript_of_noDevice [ScriptDiscipline D inv] {script : Script}
    (hscript : script.sdInfo = none) : Stable D inv (smsModPhpExecuteScript script) := by
  have hround (step : ScriptStep) : Stable D inv (scriptRound script step) := by
    cases step with
    | call request =>
      have hcall (csp : Bool) : Stable D inv
          (callPhp csp (if request.sdInfo then script.sdInfo else none) request.function) := by
        rw [hscript, ite_self]
        exact stable_callPhp_none csp request.function
      unfold scriptRound
      infer_instance
    | exit ret returnBuf outputBuf =>
      unfold scriptRound
      infer_instance
  unfold smsModPhpExecuteScript
  infer_instance

variable [ScriptDiscipline D inv]

instance (cmd address community oid : CString) :
    Stable D inv (genericSnmpTest cmd address community oid) := by
  have hscript : Stable D inv (smsModPhpExecuteScript ⟨[], "mon_generic".toList,
      "snmp_test.php".toList, [str "snmp_cmd" cmd, str "ip_address" address,
        str "snmp_community" community, str "oid" oid, str "sdid" [], .csp]⟩) :=
    stable_executeScript_of_noDevice rfl
  unfold genericSnmpTest runScript
  infer_instance

instance (cmd : CString) (params : Option CString) : Stable D inv (genericSmsdCmd cmd params) := by
  have hscript : Stable D inv (smsModPhpExecuteScript ⟨"debug".toList, "smsd".toList,
      commandFile "do_cmd_" cmd,
      [str "cmd" cmd, .str "optional_params".toList params, .csp]⟩) :=
    stable_executeScript_of_noDevice rfl
  unfold genericSmsdCmd runScript
  infer_instance

instance (info : CustInfo) (cmd : CString) (params : Option CString) :
    Stable D inv (genericSmsCustCmd info cmd params) := by
  have hscript : Stable D inv (smsModPhpExecuteScript ⟨info.custid, "smsd".toList,
      commandFile "do_cust_cmd_" cmd,
      [str "cmd" cmd, .str "optional_params".toList params, .csp, .custInfo info]⟩) :=
    stable_executeScript_of_noDevice rfl
  unfold genericSmsCustCmd runScript
  infer_instance

instance (params : CString) : Stable D inv (getPingStatus params) := by
  have hscript : Stable D inv (smsModPhpExecuteScript ⟨"debug".toList, "smsd".toList,
      "do_getPingStatus.php".toList, [.csp, str "HOST" params]⟩) :=
    stable_executeScript_of_noDevice rfl
  unfold getPingStatus
  infer_instance

instance (params : CString) : Stable D inv (doPing params) := by
  unfold doPing
  infer_instance

instance (params : CString) : Stable D inv (doSnmpTest params) := by
  unfold doSnmpTest
  infer_instance

end LockFree

instance [h : LookupDiscipline D inv] (sdid message : CString) (body : SdInfo → M Int)
    [hbody : ∀ info, Stable D inv (body info)] : Stable D inv (withSDinfo sdid message body) :=
  h.withSDinfo sdid message body hbody

instance [ContextDiscipline D inv] [ConnectionDiscipline D inv] [ReplyDiscipline D inv] :
    LookupDiscipline D inv where
  withSDinfo sdid message body hbody := by
    unfold withSDinfo
    infer_instance

section Lookup

/-! Requests that look a device up, with scripts that are not given the client context. -/

set_option synthInstance.maxSize 4000

variable [ContextDiscipline D inv] [ConnectionDiscipline D inv] [ReplyDiscipline D inv]

instance [StackDiscipline D inv] [CountDiscipline D inv] (params : CString) :
    Stable D inv (doIpDown params) := by
  unfold doIpDown
  infer_instance

variable [ScriptDiscipline D inv]

instance [CountDiscipline D inv] (params : CString) : Stable D inv (doGetReport params) := by
  unfold doGetReport
  infer_instance

instance [CountDiscipline D inv] (params : CString) : Stable D inv (doGetVPNReport params) := by
  unfold doGetVPNReport
  infer_instance

instance (params : CString) : Stable D inv (doGetSDConf params) := by
  unfold doGetSDConf
  infer_instance

instance [CountDiscipline D inv] (params : CString) : Stable D inv (doGetRouterIp params) := by
  unfold doGetRouterIp
  infer_instance

end Lookup

instance [QueryDiscipline D inv] [ConnectionDiscipline D inv] [ReplyDiscipline D inv]
    [ScriptDiscipline D inv] [LookupDiscipline D inv] (params : CString) :
    Stable D inv (checkSerial params) := by
  unfold checkSerial
  infer_instance

instance [ContextDiscipline D inv] [SocketDiscipline D inv] [ReplyDiscipline D inv]
    [ScriptDiscipline D inv] [StackDiscipline D inv] (params : CString) :
    Stable D inv (smsCustCmd params) := by
  unfold smsCustCmd
  infer_instance

section Execution

variable [QueryDiscipline D inv] [LockDiscipline D inv] [SocketDiscipline D inv]
  [ReplyDiscipline D inv] [ScriptDiscipline D inv] [StackDiscipline D inv]

instance (script : Script) (step : ScriptStep) : Stable D inv (scriptRound script step) := by
  cases step with
  | call request =>
    unfold scriptRound
    infer_instance
  | exit ret returnBuf outputBuf =>
    unfold scriptRound
    infer_instance

instance : RunDiscipline D inv where
  execute script := by
    unfold smsModPhpExecuteScript
    infer_instance

end Execution

section Scripts

variable [QueryDiscipline D inv] [LockDiscipline D inv] [ConnectionDiscipline D inv]
  [ReplyDiscipline D inv] [RunDiscipline D inv]

instance (script : Script) (failed : Int → M Unit) [∀ ret, Stable D inv (failed ret)] :
    Stable D inv (runScript script failed) := by
  unfold runScript
  infer_instance

instance (info : SdInfo) (ret : Int) : Stable D inv (replyFailureAndUnlock info ret) := by
  unfold replyFailureAndUnlock
  infer_instance

instance (info : SdInfo) : Stable D inv (genericStaging info) := by
  unfold genericStaging
  infer_instance

instance (info : SdInfo) : Stable D inv (genericStagingMap info) := by
  unfold genericStagingMap
  infer_instance

instance (info : SdInfo) : Stable D inv (genericCheckProvisioning info) := by
  unfold genericCheckProvisioning
  infer_instance

instance (info : SdInfo) : Stable D inv (genericGetRunningConf info) := by
  unfold genericGetRunningConf
  infer_instance

instance (info : SdInfo) : Stable D inv (genericGetConfig info) := by
  unfold genericGetConfig
  infer_instance

instance (info : SdInfo) : Stable D inv (genericGetActivityReport info) := by
  unfold genericGetActivityReport
  infer_instance

instance (info : SdInfo) : Stable D inv (genericUpdateConf info) := by
  unfold genericUpdateConf
  infer_instance

instance (info : SdInfo) : Stable D inv (genericUpdateLicense info) := by
  unfold genericUpdateLicense
  infer_instance

instance (info : SdInfo) : Stable D inv (genericHaSwap info) := by
  unfold genericHaSwap
  infer_instance

instance (info : SdInfo) (ip login passwd admin : CString) :
    Stable D inv (genericInitialProvisioning info ip login passwd admin) := by
  unfold genericInitialProvisioning
  infer_instance

instance (info : SdInfo) (revision msg : CString) :
    Stable D inv (genericRestoreConf info revision msg) := by
  unfold genericRestoreConf
  infer_instance

instance (info : SdInfo) (backup msg : CString) : Stable D inv (genericBackupConf info backup msg) := by
  unfold genericBackupConf
  infer_instance

instance (info : SdInfo) (addon ip port configuration : CString) :
    Stable D inv (genericPushConfig info addon ip port configuration) := by
  unfold genericPushConfig
  infer_instance

instance (info : SdInfo) (commands : List CString) :
    Stable D inv (genericSmsexecCmd info commands) := by
  unfold genericSmsexecCmd
  infer_instance

instance (info : SdInfo) (addon : CString) (commands : List CString) :
    Stable D inv (genericSmsAddonExecCmd info addon commands) := by
  unfold genericSmsAddonExecCmd
  infer_instance

instance (info : SdInfo) (archive folder : CString) :
    Stable D inv (genericUnarchiveConfiguration info archive folder) := by
  unfold genericUnarchiveConfiguration
  infer_instance

instance (info : SdInfo) (folder : CString) :
    Stable D inv (genericGetArchiveConfiguration info folder) := by
  unfold genericGetArchiveConfiguration
  infer_instance

instance (info : SdInfo) (param server : CString) :
    Stable D inv (genericUpdateFirmware info param server) := by
  unfold genericUpdateFirmware
  infer_instance

instance (info : SdInfo) (script : CString) (sync : Bool) :
    Stable D inv (genericExecScript info script sync) := by
  unfold genericExecScript
  infer_instance

instance (info : SdInfo) (command : CString) (apply : Int) (params : Option CString) :
    Stable D inv (genericCallCommand info command apply params) := by
  unfold genericCallCommand
  infer_instance

instance (info : SdInfo) (addon server login passwd : CString) :
    Stable D inv (genericSendDataFiles info addon server login passwd) := by
  unfold genericSendDataFiles
  infer_instance

instance (info : SdInfo) (cmd : CString) (params : Option CString) :
    Stable D inv (genericSmsCmd info cmd params) := by
  unfold genericSmsCmd
  infer_instance

instance (info : SdInfo) (revision1 revision2 addon : CString) :
    Stable D inv (genericGenTemplate info revision1 revision2 addon) := by
  unfold genericGenTemplate
  infer_instance

instance (info : SdInfo) (addon : Option CString) (commands : List CString) :
    Stable D inv (execCommands info addon commands) := by
  unfold execCommands
  infer_instance

end Scripts

section Locks

variable [PlainDiscipline D inv] [LockDiscipline D inv] [ConnectionDiscipline D inv]
  [ReplyDiscipline D inv] [StackDiscipline D inv]

instance (sdid : CString) : Stable D inv (lockProvisioning sdid) := by
  unfold lockProvisioning
  infer_instance

instance (sdid : CString) : Stable D inv (unlockProvisioning sdid) := by
  unfold unlockProvisioning
  infer_instance

instance (sdid : CString) : Stable D inv (unlockUpdate sdid) := by
  unfold unlockUpdate
  infer_instance

instance (params : CString) : Stable D inv (doUnlockUpdate params) := by
  unfold doUnlockUpdate
  infer_instance

instance (params : CString) : Stable D inv (doLockProvisioning params) := by
  unfold doLockProvisioning
  infer_instance

instance (params : CString) : Stable D inv (doUnLockProvisioning params) := by
  unfold doUnLockProvisioning
  infer_instance

end Locks

section Requests

/-! Requests that look a device up and run a script for it. -/

set_option synthInstance.maxSize 4000

variable [QueryDiscipline D inv] [LockDiscipline D inv] [ConnectionDiscipline D inv]
  [ReplyDiscipline D inv] [RunDiscipline D inv] [LookupDiscipline D inv]

instance (sdid : CString) : Stable D inv (provisioning sdid) := by
  unfold provisioning
  infer_instance

instance (sdid : CString) : Stable D inv (checkProvisioning sdid) := by
  unfold checkProvisioning
  infer_instance

instance (sdid : CString) : Stable D inv (haSwap sdid) := by
  unfold haSwap
  infer_instance

instance (sdid : CString) : Stable D inv (getRunningConf sdid) := by
  unfold getRunningConf
  infer_instance

instance (sdid : CString) : Stable D inv (getConfig sdid) := by
  unfold getConfig
  infer_instance

instance (sdid : CString) : Stable D inv (getActivityReport sdid) := by
  unfold getActivityReport
  infer_instance

instance (params : CString) : Stable D inv (pushConfig params) := by
  unfold pushConfig
  infer_instance

instance (params : CString) : Stable D inv (backupRouterFullConfiguration params) := by
  unfold backupRouterFullConfiguration
  infer_instance

instance (params : CString) : Stable D inv (restoreConf params) := by
  unfold restoreConf
  infer_instance

instance (params : CString) : Stable D inv (genTemplate params) := by
  unfold genTemplate
  infer_instance

instance (params : CString) : Stable D inv (unarchiveConf params) := by
  unfold unarchiveConf
  infer_instance

instance (params : CString) : Stable D inv (getArchiveConf params) := by
  unfold getArchiveConf
  infer_instance

instance (params : CString) : Stable D inv (sendDataFiles params) := by
  unfold sendDataFiles
  infer_instance

instance (params : CString) (sync : Bool) : Stable D inv (execScript params sync) := by
  unfold execScript
  infer_instance

instance (sdid : CString) (map : Bool) : Stable D inv (staging sdid map) := by
  unfold staging
  infer_instance

instance (words : List CString) (buf : CString) : Stable D inv (callCommandWith words buf) := by
  unfold callCommandWith
  infer_instance

instance (params : CString) : Stable D inv (callCommand params) := by
  unfold callCommand
  infer_instance

variable [ScriptDiscipline D inv] [StackDiscipline D inv]

instance (info : SdInfo) : Stable D inv (updateConfig info) := by
  unfold updateConfig
  infer_instance

instance (params : CString) : Stable D inv (doUpdateConfig params) := by
  unfold doUpdateConfig
  infer_instance

end Requests

instance [QueryDiscipline D inv] [LockDiscipline D inv] [SocketDiscipline D inv]
    [ReplyDiscipline D inv] [ScriptDiscipline D inv] [StackDiscipline D inv] [LookupDiscipline D inv]
    (params : CString) : Stable D inv (smsCmd params) := by
  unfold smsCmd
  infer_instance

section Handlers

set_option synthInstance.maxSize 4000

variable [ContextDiscipline D inv] [LockDiscipline D inv] [SocketDiscipline D inv]
  [ReplyDiscipline D inv] [ScriptDiscipline D inv] [StackDiscipline D inv]

instance (sdid : CString) (template : PhpGlobal) : Stable D inv (resolveWith sdid template) := by
  unfold resolveWith
  infer_instance

instance (sdid path : CString) : Stable D inv (resolveTemplate sdid path) := by
  unfold resolveTemplate
  infer_instance

instance (sdid buffer : CString) : Stable D inv (resolveTemplateBuffer sdid buffer) := by
  unfold resolveTemplateBuffer
  infer_instance

instance (sdid : CString) : Stable D inv (updateLicense sdid) := by
  unfold updateLicense
  infer_instance

instance (params : CString) : Stable D inv (updateFirmware params) := by
  unfold updateFirmware
  infer_instance

instance (params : CString) (addon : Option CString) : Stable D inv (smsexec params addon) := by
  unfold smsexec
  infer_instance

instance (params : CString) : Stable D inv (doResolveTemplate params) := by
  unfold doResolveTemplate
  infer_instance

instance (params : CString) : Stable D inv (doUpdateLicense params) := by
  unfold doUpdateLicense
  infer_instance

instance (params : CString) : Stable D inv (doUpdateFirmware params) := by
  unfold doUpdateFirmware
  infer_instance

variable [BodyDiscipline D inv]

instance (sdid : CString) (addon : Option CString) : Stable D inv (smsexecn sdid addon) := by
  unfold smsexecn
  infer_instance

instance (params : CString) : Stable D inv (doJsSmsAddonExec params) := by
  unfold doJsSmsAddonExec
  infer_instance

instance (params : CString) : Stable D inv (doResolve params) := by
  unfold doResolve
  infer_instance

/-- The handlers that count their requests. -/
def Handler.counts : Handler → Bool
  | .doGetReport | .doGetVPNReport | .doGetRouterIp | .doIpDown | .doPppIpUp | .doSdIpUp => true
  | _ => false

theorem stable_run_of_not_counts {handler : Handler} (hhandler : handler ≠ .doImmediateSaveConf)
    (hcounts : handler.counts = false) (params : CString) : Stable D inv (handler.run params) := by
  cases handler <;>
    first | exact absurd rfl hhandler | (unfold Handler.run; infer_instance) | exact absurd hcounts (by decide)

/-- Every handler but the one that takes a context of its own for a loop over all devices. -/
theorem stable_run [CountDiscipline D inv] {handler : Handler} (hhandler : handler ≠ .doImmediateSaveConf)
    (params : CString) : Stable D inv (handler.run params) := by
  by_cases hcounts : handler.counts = false
  · exact stable_run_of_not_counts hhandler hcounts params
  · cases handler <;> first | exact absurd rfl hcounts | (unfold Handler.run; infer_instance)

end Handlers

end CoreEngine.Smsd
