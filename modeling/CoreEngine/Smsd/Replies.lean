import CoreEngine.Smsd.Indifference
import CoreEngine.Smsd.Passage

/-!
# Replies

The duty to reply is shared by the handlers, the functions they call, the script wrappers and the
scripts. Code is quiet if it completes no reply, terse if it completes at most one, and modest if it
completes at most one and none when it fails. Scripts are expected to be modest.
-/

namespace CoreEngine.Smsd

open Interaction
open Procedure (lift Stable Triple triple_bind triple_ite triple_lift triple_call triple_get
  triple_modify triple_pure triple_loop)
open Program (Run Only)

/-- The complete replies so far, those before the last script was started, and whether anything was
written to the client since then. -/
structure Talk where
  replies : ℕ
  begun : ℕ
  wrote : Bool
  deriving DecidableEq, Repr

/-- Counts replies, and expects of a script that it has written nothing when it ends with a failure,
and at most one reply when it ends with success. -/
def talk : Monitor signature Talk where
  allow _ _ := True
  expect said op answer := match op, answer with
    | .scriptStep, .exit ret _ _ =>
        (ret ≠ 0 → said.wrote = false) ∧ (ret = 0 → said.replies ≤ said.begun + 1)
    | _, _ => True
  next said op _ := match op with
    | .scriptStart _ => { said with begun := said.replies, wrote := false }
    | .socketWrite _ _ => { said with wrote := true }
    | .replied => { said with replies := said.replies + 1, wrote := true }
    | _ => said

/-- `n` replies have been completed. -/
def Said (n : ℕ) (_csp : Client) (said : Talk) : Prop := said.replies = n

/-- A script runs that was started after `n` replies. -/
def Speaking (n : ℕ) (_csp : Client) (said : Talk) : Prop :=
  said.begun = n ∧ (said.wrote = false → said.replies = n)

section Disciplines

theorem talk_ignores_database {op : Op} (hop : op.OnDatabase 2) : talk.Ignores op := by
  intro said
  cases op <;> first | exact hop.elim | exact ⟨trivial, fun _ ↦ rfl⟩

variable {n : ℕ}

instance {inv : Client → Talk → Prop} : StackDiscipline talk inv :=
  stackDiscipline_of_ignores fun _ ↦ ⟨trivial, fun _ ↦ rfl⟩

instance {inv : Client → Talk → Prop} : CountDiscipline talk inv :=
  countDiscipline_of_ignores fun _ _ ↦ ⟨trivial, fun _ ↦ rfl⟩

instance {inv : Client → Talk → Prop} : BodyDiscipline talk inv := ⟨fun _ _ _ ↦ trivial⟩

instance : ContextDiscipline talk (Said n) :=
  contextDiscipline_of_ignores (fun _ ↦ talk_ignores_database) (fun _ _ _ hsaid ↦ hsaid)
    fun _ _ _ ↦ talk_ignores_database (Sql.rank_le_two _)

instance : LockDiscipline talk (Said n) :=
  lockDiscipline_of_ignores (fun _ hop ↦ talk_ignores_database (hop.mono (by decide))) fun _ _ _ hsaid ↦ hsaid

instance : ContextDiscipline talk (Speaking n) :=
  contextDiscipline_of_ignores (fun _ ↦ talk_ignores_database) (fun _ _ _ hspeaking ↦ hspeaking)
    fun _ _ _ ↦ talk_ignores_database (Sql.rank_le_two _)

instance : LockDiscipline talk (Speaking n) :=
  lockDiscipline_of_ignores (fun _ hop ↦ talk_ignores_database (hop.mono (by decide)))
    fun _ _ _ hspeaking ↦ hspeaking

/-- An assertion about what was said that survives a write survives every use of the socket. -/
theorem socketDiscipline_talk {inv : Talk → Prop}
    (hwrite : ∀ said, inv said → inv { said with wrote := true }) :
    SocketDiscipline talk fun _ ↦ inv where
  read size timeout := by
    constructor
    intro csp said hinv
    exact ⟨trivial, fun _ _ ↦ hinv⟩
  write bytes := by
    constructor
    intro csp said hinv
    exact ⟨trivial, fun _ _ ↦ hwrite said hinv⟩
  close := by
    constructor
    intro csp said hinv
    exact ⟨trivial, fun _ _ ↦ hinv⟩
  snmpGet oid := by
    constructor
    intro csp said hinv
    exact ⟨trivial, fun _ _ ↦ hinv⟩
  snmpGetNext oid := by
    constructor
    intro csp said hinv
    exact ⟨trivial, fun _ _ ↦ hinv⟩

instance : SocketDiscipline talk (Said n) := socketDiscipline_talk fun _ hsaid ↦ hsaid

instance : SocketDiscipline talk (Speaking n) :=
  socketDiscipline_talk fun _ hspeaking ↦ ⟨hspeaking.1, nofun⟩

instance : ReplyDiscipline talk (Speaking n) := by
  constructor
  constructor
  rintro csp said ⟨hbegun, -⟩
  exact ⟨trivial, fun _ _ ↦ ⟨hbegun, nofun⟩⟩

instance : ScriptDiscipline talk (Said n) where
  start script := by
    constructor
    intro csp said hsaid
    exact ⟨trivial, fun _ _ ↦ hsaid⟩
  step := by
    constructor
    intro csp said hsaid
    exact ⟨trivial, fun _ _ ↦ hsaid⟩
  answer value := by
    constructor
    intro csp said hsaid
    exact ⟨trivial, fun _ _ ↦ hsaid⟩

end Disciplines

section Manners

variable {α β : Type}

/-- Completes at most one reply. -/
class Terse (procedure : M α) : Prop where
  triple : ∀ n, Triple talk (Said n) procedure fun _ _ said ↦ said.replies ≤ n + 1

/-- Completes at most one reply, and none if the result is an error. -/
class Modest (procedure : M Int) : Prop where
  triple : ∀ n, Triple talk (Said n) procedure fun ret _ said ↦
    said.replies ≤ n + 1 ∧ (ret ≠ 0 → said.replies = n)

instance (priority := low) terse_of_quiet (procedure : M α)
    [hquiet : ∀ n, Stable talk (Said n) procedure] : Terse procedure := by
  refine ⟨fun n ↦ (hquiet n).triple.conseq (fun _ _ hsaid ↦ hsaid) fun _ _ said hsaid ↦ ?_⟩
  have hreplies : said.replies = n := hsaid
  omega

/-- Quiet code first. -/
instance terse_bind (procedure : M α) (rest : α → M β)
    [hquiet : ∀ n, Stable talk (Said n) procedure] [hrest : ∀ value, Terse (rest value)] :
    Terse (procedure >>= rest) :=
  ⟨fun n ↦ triple_bind (hquiet n).triple fun value ↦ (hrest value).triple n⟩

/-- Quiet code after a reply. -/
theorem triple_quiet {procedure : M α} (hquiet : ∀ n, Stable talk (Said n) procedure) (bound : ℕ) :
    Triple talk (fun _ said ↦ said.replies ≤ bound) procedure fun _ _ said ↦ said.replies ≤ bound := by
  intro csp said hbound
  refine ((hquiet said.replies).triple csp said rfl).mono fun result said' hsaid ↦ ?_
  have hreplies : said'.replies = said.replies := hsaid
  omega

instance terse_bind_quiet (procedure : M α) (rest : α → M β) [hterse : Terse procedure]
    [hquiet : ∀ value n, Stable talk (Said n) (rest value)] : Terse (procedure >>= rest) :=
  ⟨fun n ↦ triple_bind (hterse.triple n) fun value ↦ triple_quiet (hquiet value) (n + 1)⟩

instance terse_ite (condition : Prop) [Decidable condition] (yes no : M α) [hyes : Terse yes]
    [hno : Terse no] : Terse (if condition then yes else no) :=
  ⟨fun n ↦ triple_ite (fun _ ↦ hyes.triple n) fun _ ↦ hno.triple n⟩

instance terse_elim {γ : Type} (value : Option γ) (none : M α) (some : γ → M α)
    [hnone : Terse none] [hsome : ∀ value, Terse (some value)] : Terse (value.elim none some) := by
  cases value with
  | none => exact hnone
  | some value => exact hsome value

end Manners

section Sending

instance : Terse (lift (ask .replied)) := by
  refine ⟨fun n ↦ triple_call (fun _ _ _ ↦ trivial) fun csp said _ hsaid _ ↦ ?_⟩
  have hreplies : said.replies = n := hsaid
  exact Nat.le_of_eq (congrArg Nat.succ hreplies)

instance (pieces : List CString) : Terse (writePieces pieces) := by
  induction pieces with
  | nil =>
    unfold writePieces
    infer_instance
  | cons piece pieces ih =>
    unfold writePieces
    infer_instance

instance (msg : Option CString) : Terse (sendOk msg) := by
  unfold sendOk
  infer_instance

instance (msg : Option CString) (error : Int) : Terse (sendError msg error) := by
  unfold sendError
  infer_instance

instance (library : Library) (result : Option CString) (status : CString)
    (message code : Option CString) :
    Terse (internalSendUserMessage library result status message code) := by
  unfold internalSendUserMessage
  infer_instance

instance (result message : Option CString) : Terse (smsSendUserOkEx result message) := by
  unfold smsSendUserOkEx
  infer_instance

instance (result : Option CString) : Terse (smsSendUserOk result) := by
  unfold smsSendUserOk
  infer_instance

instance (result : Option CString) (error : Int) : Terse (smsSendUserError result error) := by
  unfold smsSendUserError
  infer_instance

instance : Terse badParam := by
  unfold badParam
  infer_instance

instance (ret : Int) : Terse (replyFailure ret) := by
  unfold replyFailure
  infer_instance

instance (info : SdInfo) (ret : Int) : Terse (replyFailureAndUnlock info ret) := by
  unfold replyFailureAndUnlock
  infer_instance

instance (ret : Int) : Terse (replyAnyFailure ret) := by
  unfold replyAnyFailure
  infer_instance

instance (ret : Int) : Terse (replyOutcome ret) := by
  unfold replyOutcome
  infer_instance

instance (ret : Int) : Terse (replyError ret) := by
  unfold replyError
  infer_instance

instance (ret : Int) (msg : Option CString) : Terse (plainReply ret msg) := by
  unfold plainReply
  infer_instance

instance (result : Int) : Terse (ipDownError result) := by
  unfold ipDownError
  infer_instance

instance : Terse doReinitLogs := by
  unfold doReinitLogs
  infer_instance

instance : Terse doIsAlive := by
  unfold doIsAlive
  infer_instance

instance : Terse doStat := by
  unfold doStat
  infer_instance

instance : Terse doPS := by
  unfold doPS
  infer_instance

instance (params : CString) : Terse (doSetLogLevel params) := by
  unfold doSetLogLevel
  infer_instance

instance : Terse doListVerb := by
  unfold doListVerb
  infer_instance

end Sending

section Scripts

/-- A script is modest, whatever it calls. -/
theorem triple_modestScript (script : Script) (n : ℕ) :
    Triple talk (Said n) (smsModPhpExecuteScript script) fun exit _ said ↦
      said.replies ≤ n + 1 ∧ (exit.ret ≠ 0 → said.replies = n) := by
  have hstart : Triple talk (Said n) (lift (ask (.scriptStart script))) fun _ ↦ Speaking n :=
    triple_call (fun _ _ _ ↦ trivial) fun _ _ _ hsaid _ ↦ ⟨hsaid, fun _ ↦ hsaid⟩
  have hstep : Triple talk (Speaking n) (lift (ask .scriptStep)) fun step csp said ↦
      step.elim (fun _ ↦ Speaking n csp said) fun exit ↦
        said.replies ≤ n + 1 ∧ (exit.ret ≠ 0 → said.replies = n) := by
    refine triple_call (fun _ _ _ ↦ trivial) fun csp said step hspeaking hexpect ↦ ?_
    obtain ⟨hbegun, hsilent⟩ := hspeaking
    cases step with
    | call request => exact ⟨hbegun, hsilent⟩
    | exit ret returnBuf outputBuf =>
      obtain ⟨hfailed, hok⟩ := hexpect
      show said.replies ≤ n + 1 ∧ (ret ≠ 0 → said.replies = n)
      by_cases hret : ret = 0
      · have hreplies := hok hret
        exact ⟨by omega, fun h ↦ absurd hret h⟩
      · have hreplies := hsilent (hfailed hret)
        exact ⟨by omega, fun _ ↦ hreplies⟩
  have hanswer (value : PhpValue) : Stable talk (Speaking n) (lift (ask (.phpReturn value))) :=
    stable_ask_of_ignores fun _ ↦ ⟨trivial, fun _ ↦ rfl⟩
  exact triple_executeScript hstart hstep (fun _ ↦ Stable.triple) fun value ↦ (hanswer value).triple

/-- A reply, once, when a script has failed. -/
theorem terse_executeScript (script : Script) (failed : ScriptExit → M Unit)
    [hfailed : ∀ exit, Terse (failed exit)] : Terse (do
      let exit ← smsModPhpExecuteScript script
      if exit.ret ≠ 0 then failed exit
      pure exit.ret) := by
  refine ⟨fun n ↦ triple_bind (triple_modestScript script n) fun exit ↦ triple_ite (fun hret ↦ ?_)
    fun _ ↦ triple_pure _ fun _ _ hpost ↦ hpost.1⟩
  refine triple_bind (((hfailed exit).triple n).conseq (fun _ _ hpost ↦ hpost.2 hret)
    fun _ _ _ hreplies ↦ hreplies) fun _ ↦ ?_
  exact triple_pure _ fun _ _ hreplies ↦ hreplies

instance terse_runScript (script : Script) (failed : Int → M Unit) [∀ ret, Terse (failed ret)] :
    Terse (runScript script failed) :=
  terse_executeScript script fun exit ↦ failed exit.ret

instance (params : CString) : Terse (getPingStatus params) :=
  terse_executeScript _ fun exit ↦ smsSendUserError (some (exit.returnBuf.getD [])) exit.ret

/-- A wrapper that does not reply when its script has failed. -/
instance modest_runScript (script : Script) (failed : Int → M Unit)
    [hfailed : ∀ ret n, Stable talk (Said n) (failed ret)] : Modest (runScript script failed) := by
  refine ⟨fun n ↦ triple_bind (triple_modestScript script n) fun exit ↦ triple_ite (fun hret ↦ ?_)
    fun hret ↦ ?_⟩
  · refine triple_bind ((hfailed exit.ret n).triple.conseq (fun _ _ hpost ↦ hpost.2 hret)
      fun _ _ _ hsaid ↦ hsaid) fun _ ↦ ?_
    refine triple_pure _ fun _ said hsaid ↦ ?_
    have hreplies : said.replies = n := hsaid
    exact ⟨by omega, fun _ ↦ hreplies⟩
  · exact triple_pure _ fun _ _ hpost ↦ ⟨hpost.1, fun h ↦ absurd h hret⟩

end Scripts

section Requests

set_option synthInstance.maxSize 4000

instance (params : CString) (n : ℕ) (enough : ℕ → Bool) (body : List CString → M Int)
    [∀ words, Terse (body words)] : Terse (withWords params n enough body) := by
  unfold withWords
  infer_instance

instance (sdid message : CString) (body : SdInfo → M Int) [∀ info, Terse (body info)] :
    Terse (withSDinfo sdid message body) := by
  unfold withSDinfo
  infer_instance

instance (params : CString) (synchronous : Bool) : Terse (execScript params synchronous) := by
  unfold execScript genericExecScript
  infer_instance

instance (params : CString) : Terse (pushConfig params) := by
  unfold pushConfig genericPushConfig
  infer_instance

instance (sdid : CString) : Terse (provisioning sdid) := by
  unfold provisioning genericInitialProvisioning
  infer_instance

instance (sdid : CString) : Terse (checkProvisioning sdid) := by
  unfold checkProvisioning genericCheckProvisioning
  infer_instance

instance (params : CString) : Terse (backupRouterFullConfiguration params) := by
  unfold backupRouterFullConfiguration genericBackupConf
  infer_instance

instance (params : CString) : Terse (restoreConf params) := by
  unfold restoreConf genericRestoreConf
  infer_instance

instance (info : SdInfo) : Terse (updateConfig info) := by
  unfold updateConfig genericUpdateConf
  infer_instance

instance (sdid : CString) (map : Bool) : Terse (staging sdid map) := by
  unfold staging genericStaging genericStagingMap
  infer_instance

instance (sdid : CString) : Terse (updateLicense sdid) := by
  unfold updateLicense genericUpdateLicense
  infer_instance

instance (params : CString) : Terse (updateFirmware params) := by
  unfold updateFirmware genericUpdateFirmware
  infer_instance

instance (sdid : CString) : Terse (haSwap sdid) := by
  unfold haSwap genericHaSwap
  infer_instance

instance (params : CString) : Terse (smsCmd params) := by
  unfold smsCmd genericSmsCmd genericSmsdCmd
  infer_instance

instance (params : CString) : Terse (smsCustCmd params) := by
  unfold smsCustCmd genericSmsCustCmd
  infer_instance

instance (params : CString) : Terse (genTemplate params) := by
  unfold genTemplate genericGenTemplate
  infer_instance

instance (sdid : CString) : Terse (getRunningConf sdid) := by
  unfold getRunningConf genericGetRunningConf
  infer_instance

instance (sdid : CString) : Terse (getConfig sdid) := by
  unfold getConfig genericGetConfig
  infer_instance

instance (sdid : CString) : Terse (getActivityReport sdid) := by
  unfold getActivityReport genericGetActivityReport
  infer_instance

instance (params : CString) : Terse (sendDataFiles params) := by
  unfold sendDataFiles genericSendDataFiles
  infer_instance

instance (params : CString) : Terse (checkSerial params) := by
  unfold checkSerial
  infer_instance

/-- The second script runs only if the first one has failed, and so has not replied. -/
instance (sdid : CString) (template : PhpGlobal) : Modest (resolveWith sdid template) := by
  refine ⟨fun n ↦ triple_bind Stable.triple fun info ↦ triple_ite (fun _ ↦ ?_) fun _ ↦ ?_⟩
  · refine triple_pure _ fun csp said hsaid ↦ ?_
    have hreplies : said.replies = n := hsaid
    exact ⟨by omega, fun _ ↦ hreplies⟩
  · refine triple_bind (triple_modestScript _ n) fun exit ↦ triple_ite (fun hret ↦ ?_) fun hret ↦ ?_
    · exact (Modest.triple n).conseq (fun _ _ hpost ↦ hpost.2 hret) fun _ _ _ hpost ↦ hpost
    · exact triple_pure _ fun _ _ hpost ↦ ⟨hpost.1, fun h ↦ absurd h hret⟩

/-- A failure may be reported after modest code. -/
theorem terse_bind_of_modest {α : Type} {procedure : M Int} [hmodest : Modest procedure]
    {rest : Int → M α} (hterse : ∀ ret, Terse (rest ret))
    (hquiet : ∀ n, Stable talk (Said n) (rest 0)) : Terse (procedure >>= rest) := by
  refine ⟨fun n ↦ triple_bind (hmodest.triple n) fun ret ↦ ?_⟩
  by_cases hret : ret = 0
  · subst hret
    exact (triple_quiet hquiet (n + 1)).conseq (fun _ _ hpost ↦ hpost.1) fun _ _ _ hreplies ↦ hreplies
  · exact ((hterse ret).triple n).conseq (fun _ _ hpost ↦ hpost.2 hret) fun _ _ _ hreplies ↦ hreplies

instance (request : M Int) [Terse request] : Terse (silently request) := by
  unfold silently
  infer_instance

theorem quiet_replyError (n : ℕ) : Stable talk (Said n) (replyError 0) :=
  inferInstanceAs (Stable talk (Said n) (pure 0))

instance (params : CString) : Terse (doResolveTemplate params) := by
  have hreply (sdid path : CString) : Terse (resolveTemplate sdid path >>= replyError) := by
    unfold resolveTemplate
    exact terse_bind_of_modest inferInstance quiet_replyError
  unfold doResolveTemplate
  infer_instance

instance (params : CString) : Terse (doResolve params) := by
  have hreply (sdid buffer : CString) :
      Terse (resolveTemplateBuffer sdid buffer >>= fun ret ↦ silently (replyError ret)) := by
    unfold resolveTemplateBuffer
    refine terse_bind_of_modest inferInstance fun n ↦ ?_
    have hquiet := quiet_replyError n
    unfold silently
    infer_instance
  unfold doResolve
  infer_instance

instance (keeper : Keeper) (params : CString) (update : M Int) [Terse update] :
    Terse (thenForceAsset keeper params update) := by
  unfold thenForceAsset
  infer_instance

end Requests

section Handlers

set_option synthInstance.maxSize 4000

instance (sdid type : CString) : Terse (checkStatus sdid type) := by
  unfold checkStatus
  infer_instance

instance (params : CString) : Terse (doCheckUpdate params) := by
  unfold doCheckUpdate
  infer_instance

instance (params : CString) : Terse (doCheckAllUpdate params) := by
  unfold doCheckAllUpdate
  infer_instance

instance (params : CString) : Terse (doCheckCmd params) := by
  unfold doCheckCmd
  infer_instance

instance (params : CString) : Terse (doGetReport params) := by
  unfold doGetReport
  infer_instance

instance (params : CString) : Terse (doGetVPNReport params) := by
  unfold doGetVPNReport
  infer_instance

instance (params : CString) : Terse (doGetSDConf params) := by
  unfold doGetSDConf
  infer_instance

instance (params : CString) : Terse (doGetRouterIp params) := by
  unfold doGetRouterIp
  infer_instance

instance (params : CString) : Terse (doUnlockUpdate params) := by
  unfold doUnlockUpdate unlockUpdate
  infer_instance

instance (params : CString) : Terse (doLockProvisioning params) := by
  unfold doLockProvisioning lockProvisioning
  infer_instance

instance (params : CString) : Terse (doUnLockProvisioning params) := by
  unfold doUnLockProvisioning unlockProvisioning
  infer_instance

instance (params : CString) : Terse (doGetAsset params) := by
  unfold doGetAsset
  infer_instance

instance (params : CString) : Terse (doForceAsset params) := by
  unfold doForceAsset
  infer_instance

instance (params : CString) : Terse (doSetConfigMode params) := by
  unfold doSetConfigMode
  infer_instance

instance (params : CString) : Terse (doIpDown params) := by
  unfold doIpDown
  infer_instance

instance (params : CString) : Terse (doPing params) := by
  unfold doPing
  infer_instance

instance (params : CString) : Terse (doUpdateConfig params) := by
  unfold doUpdateConfig
  infer_instance

instance (params : CString) : Terse (doSnmpTest params) := by
  unfold doSnmpTest genericSnmpTest
  infer_instance

instance (params : CString) : Terse (doUpdateLicense params) := by
  unfold doUpdateLicense
  infer_instance

instance (params : CString) : Terse (doUpdateFirmware params) := by
  unfold doUpdateFirmware
  infer_instance

instance : Terse doImmediateSaveConf := by
  have hquiet (n : ℕ) : Stable talk (Said n) doImmediateSaveConf :=
    stable_doImmediateSaveConf_of_ignores fun _ ↦ talk_ignores_database
  infer_instance

/-- The requests that may be replied to twice, where the parameters let the handler get as far as its
script: three handlers report the failure of a script that its wrapper has reported already, three
report the success of a script that may have done so itself. -/
def Handler.repliesTwice (handler : Handler) (params : CString) : Bool :=
  match handler with
  | .doJsSmsexec => (splitArgument params).isSome
  | .doJsSmsexecn => true
  | .doJsSmsAddonExec => params.length < CString.bufsiz && 2 ≤ (params.scanWords 2).length
  | .doUnarchiveConf => params.length < CString.bufsiz && (params.scanWords 3).length = 3
  | .doGetArchiveConf => params.length < CString.bufsiz && (params.scanWords 2).length = 2
  | .doCallCommand => params.length < CString.bufsiz && (params.scanWords 3).length = 3
  | _ => false

/-- Parameters that are refused are replied to once. -/
theorem terse_withWords {params : CString} {n : ℕ} {enough : ℕ → Bool} {body : List CString → M Int}
    (hrefused : (params.length < CString.bufsiz && enough (params.scanWords n).length) = false) :
    Terse (withWords params n enough body) := by
  rw [withWords_of_refused hrefused]
  infer_instance

theorem terse_run {handler : Handler} {params : CString}
    (honce : handler.repliesTwice params = false) : Terse (handler.run params) := by
  cases handler with
  | doJsSmsexec =>
    have hargument : splitArgument params = none := by
      simpa [Handler.repliesTwice] using honce
    have hsmsexec : Terse (smsexec params none) := by
      unfold smsexec
      rw [hargument]
      exact inferInstanceAs (Terse (replyAnyFailure errVerbBadParam))
    unfold Handler.run
    infer_instance
  | doJsSmsexecn => cases honce
  | doJsSmsAddonExec =>
    unfold Handler.run doJsSmsAddonExec
    exact terse_withWords honce
  | doUnarchiveConf =>
    unfold Handler.run unarchiveConf
    exact terse_withWords honce
  | doGetArchiveConf =>
    unfold Handler.run getArchiveConf
    exact terse_withWords honce
  | doCallCommand =>
    have hcallCommand : Terse (callCommand params) := by
      unfold callCommand
      exact terse_withWords honce
    unfold Handler.run
    infer_instance
  | _ =>
    unfold Handler.run
    infer_instance

end Handlers

section Twice

/-! Runs with two replies, on a connection that takes every write. -/

open Procedure (may_bind may_pure may_call may_get may_ite_pos may_ite_neg may_loop)

variable {said : Talk} {dbCtx : Option Ctx}

/-- One more reply. -/
def Talk.again (said : Talk) : Talk := { said with replies := said.replies + 1, wrote := true }

instance : Forgiving talk where
  expect {op} hop _ _ := by cases op <;> first | exact hop.elim | trivial
  next {op} hop _ _ := by cases op <;> first | exact hop.elim | rfl
  expect_sql _ _ _ _ := trivial
  next_sql _ _ _ _ := rfl

theorem may_writePieces (pieces : List CString) {post : Int × Client → Talk → Prop} (said : Talk)
    (hpost : post (0, ⟨1, dbCtx⟩) said.again) :
    (writePieces pieces ⟨1, dbCtx⟩).May talk post said := by
  induction pieces generalizing said with
  | nil => exact ⟨(), trivial, hpost⟩
  | cons piece pieces ih =>
    unfold writePieces
    refine may_bind (may_get (may_call (piece.length : Int) trivial ?_))
    exact may_ite_neg (fun hshort ↦ hshort rfl) (ih _ hpost)

instance : Hears talk Talk.again := ⟨fun pieces _ _ said hpost ↦ may_writePieces pieces said hpost⟩

/-- A script may fail at once. -/
theorem may_failingScript (script : Script) {csp : Client} {post : ScriptExit × Client → Talk → Prop}
    (hpost : post (⟨1, none, none⟩, csp) ⟨said.replies, said.replies, false⟩) :
    (smsModPhpExecuteScript script csp).May talk post said := by
  refine may_bind (may_call () trivial (may_loop (may_bind (may_call (.exit 1 none none) ?_ hpost))))
  exact ⟨fun _ ↦ rfl, fun hzero ↦ absurd hzero (by decide)⟩

theorem may_replyingRound {script : Script} (hscript : script.hasCsp = true)
    {post : (Unit ⊕ ScriptExit) × Client → Talk → Prop}
    (hpost : post (.inl (), ⟨1, dbCtx⟩) said.again) :
    (scriptRound script (Sim.call (.smsSendUserOk none)) ⟨1, dbCtx⟩).May talk post said := by
  simp only [Sim.call, scriptRound, hscript, Bool.and_self, callPhp]
  refine may_bind (may_bind (may_smsSendUserOkEx none (some []) (may_bind ?_)))
  exact may_call () trivial hpost

/-- A script that is given the client context may reply and succeed. -/
theorem may_replyingScript {script : Script} (hscript : script.hasCsp = true)
    {post : ScriptExit × Client → Talk → Prop}
    (hpost : post (⟨0, none, none⟩, ⟨1, dbCtx⟩) ⟨said.replies + 1, said.replies, true⟩) :
    (smsModPhpExecuteScript script ⟨1, dbCtx⟩).May talk post said := by
  refine may_bind (may_call () trivial (may_loop (may_bind
    (may_call (Sim.call (.smsSendUserOk none)) trivial (may_replyingRound hscript ?_)))))
  rw [Sum.elim_inl]
  refine may_loop (may_bind (may_call (ScriptStep.exit 0 none none) ?_ hpost))
  exact ⟨fun hfailed ↦ absurd rfl hfailed, fun _ ↦ Nat.le_refl _⟩

theorem may_runFailingScript (script : Script) {post : Int × Client → Talk → Prop}
    (hpost : post (1, ⟨1, dbCtx⟩) ⟨said.replies + 1, said.replies, true⟩) :
    (runScript script replyFailure ⟨1, dbCtx⟩).May talk post said := by
  refine may_bind (may_failingScript script (may_ite_pos (by decide : (1 : Int) ≠ 0) (may_bind ?_)))
  refine may_smsSendUserError _ _ ?_
  exact hpost

theorem may_runReplyingScript {script : Script} (hscript : script.hasCsp = true)
    {post : Int × Client → Talk → Prop}
    (hpost : post (0, ⟨1, dbCtx⟩) ⟨said.replies + 1, said.replies, true⟩) :
    (runScript script ignoreFailure ⟨1, dbCtx⟩).May talk post said :=
  may_bind (may_replyingScript hscript (may_ite_neg (fun hfailed ↦ hfailed rfl) hpost))

variable {ctx : Ctx} {post : Int × Client → Talk → Prop}

/-- A failure is replied to by the wrapper, and again by its caller. -/
theorem may_execCommands (info : SdInfo) (addon : Option CString)
    (hpost : ∀ result begun wrote, post result ⟨2, begun, wrote⟩) (commands : List CString) :
    ((execCommands info addon commands >>= replyAnyFailure) ⟨1, dbCtx⟩).May talk post ⟨0, 0, false⟩ := by
  have hagain : (replyAnyFailure 1 ⟨1, dbCtx⟩).May talk post ⟨1, 0, true⟩ := by
    unfold replyAnyFailure
    refine may_ite_pos (by decide) (may_bind (may_smsSendUserError _ _ ?_))
    exact hpost _ _ _
  cases addon with
  | none => exact may_bind (may_runFailingScript _ hagain)
  | some addon => exact may_bind (may_runFailingScript _ hagain)

/-- A success is replied to by the script, and again by the caller of its wrapper. -/
theorem may_replyOutcome (hpost : ∀ result begun wrote, post result ⟨2, begun, wrote⟩) (begun : ℕ) :
    (replyOutcome 0 ⟨1, dbCtx⟩).May talk post ⟨1, begun, true⟩ :=
  may_ite_neg (fun hfailed ↦ hfailed rfl)
    (may_bind (may_smsSendUserOkEx _ _ (may_pure (hpost _ _ _))))

theorem may_callCommandWith (hpost : ∀ result begun wrote, post result ⟨2, begun, wrote⟩)
    (words : List CString) (buf : CString) :
    (callCommandWith words buf ⟨1, some ctx⟩).May talk post ⟨0, 0, false⟩ := by
  refine may_withSDinfo _ _ (may_bind (may_bind (may_replyingScript rfl (may_pure ?_))))
  refine may_ite_neg (fun hfailed ↦ hfailed rfl) (may_bind ?_)
  exact may_smsSendUserOkEx _ _ (may_pure (hpost _ _ _))

theorem may_run {handler : Handler} {params : CString} (htwice : handler.repliesTwice params = true)
    (hpost : ∀ result begun wrote, post result ⟨2, begun, wrote⟩) :
    (handler.run params ⟨1, some ctx⟩).May talk post ⟨0, 0, false⟩ := by
  have hsilently {request : M Int} (hrequest : ∀ {post : Int × Client → Talk → Prop},
      (∀ result begun wrote, post result ⟨2, begun, wrote⟩) →
        (request ⟨1, some ctx⟩).May talk post ⟨0, 0, false⟩) :
      (silently request ⟨1, some ctx⟩).May talk post ⟨0, 0, false⟩ :=
    may_bind (hrequest fun _ _ _ ↦ may_pure (hpost _ _ _))
  cases handler with
  | doJsSmsexec => exact hsilently fun hpost ↦ may_smsexec htwice (may_execCommands _ _ hpost)
  | doJsSmsexecn => exact hsilently fun hpost ↦ may_smsexecn _ _ (may_execCommands _ _ hpost)
  | doJsSmsAddonExec =>
    unfold Handler.run doJsSmsAddonExec
    refine may_withWords htwice (hsilently fun hpost ↦ ?_)
    exact may_smsexecn _ _ (may_execCommands _ _ hpost)
  | doUnarchiveConf =>
    unfold Handler.run unarchiveConf
    refine may_withWords htwice (may_withSDinfo _ _ (may_bind ?_))
    exact may_runReplyingScript rfl (may_replyOutcome hpost _)
  | doGetArchiveConf =>
    unfold Handler.run getArchiveConf
    refine may_withWords htwice (may_withSDinfo _ _ (may_bind ?_))
    exact may_runReplyingScript rfl (may_replyOutcome hpost _)
  | doCallCommand =>
    exact hsilently fun hpost ↦ may_callCommand htwice (may_callCommandWith hpost)
  | _ => cases htwice

end Twice

section Requests

def Talk.start : Talk := ⟨0, 0, false⟩

/-- The complete replies of a trace. -/
def repliesIn (trace : List (Event signature)) : ℕ := (talk.after .start trace).replies

theorem hasParams_of_repliesTwice {va : VerbAction} (hva : va ∈ verbTab) {params : CString}
    (htwice : va.doVerb.repliesTwice params = true) : va.hasParams = 1 := by
  let twice (handler : Handler) : Bool := handler.repliesTwice params
  have hnone : ∀ handler ∈ [.doImmediateSaveConf, .doIsAlive, .doListVerb, .doPS, .doReinitLogs, .doStat],
      twice handler = false := by
    simp [twice, Handler.repliesTwice]
  exact hasParams_of_property hnone hva htwice

theorem terse_dispatch {va : VerbAction} (hva : va ∈ verbTab) {arg : CString}
    (honce : ¬(4 ≤ arg.length ∧ va.doVerb.repliesTwice arg = true)) : Terse (dispatch va arg) := by
  have hfinish (n : ℕ) : Stable talk (Said n) dispatch.finish := by
    unfold dispatch.finish
    infer_instance
  have hfind (n : ℕ) : Stable talk (Said n) (lift (findCtx .sms (.keeper .checkVerb))) :=
    stable_lift_of_onDatabase (fun _ ↦ talk_ignores_database) inferInstance
  have hstore (ctx : Option Ctx) (n : ℕ) : Stable talk (Said n) (storeDbCtx ctx) :=
    stable_storeDbCtx_of_ignores (fun _ ↦ talk_ignores_database) (fun _ _ _ hsaid ↦ hsaid) ctx
  unfold dispatch
  by_cases hparams : va.hasParams ≠ 0
  · rw [if_pos hparams]
    by_cases hshort : va.hasParams = 1 ∧ arg.length < 4
    · rw [if_pos hshort]
      infer_instance
    · have hrun : Terse (va.doVerb.run arg) := by
        refine terse_run (Bool.eq_false_iff.2 fun htwice ↦ ?_)
        have hone := hasParams_of_repliesTwice hva htwice
        exact honce ⟨by omega, htwice⟩
      rw [if_neg hshort]
      infer_instance
  · have hrun : Terse (va.doVerb.run "N/A".toList) := by
      refine terse_run (Bool.eq_false_iff.2 fun htwice ↦ ?_)
      have hone := hasParams_of_repliesTwice hva htwice
      omega
    rw [if_neg hparams]
    infer_instance

theorem may_replyTwice {line : CString} {va : VerbAction}
    (hverb : (verbTab.find? fun va ↦ va.verb = CString.toupper (splitLine line).1) = some va)
    (hlength : 4 ≤ (splitLine line).2.length)
    (htwice : va.doVerb.repliesTwice (splitLine line).2 = true) :
    (checkVerb line ⟨1, none⟩).May talk (fun _ said ↦ said.replies = 2) .start :=
  may_checkVerb hverb (hasParams_of_repliesTwice (List.mem_of_find?_eq_some hverb) htwice) hlength
    fun _ ↦ may_run htwice fun _ _ _ ↦ rfl

/-- A request with a known verb is replied to at most once, whatever happens and provided that its
scripts are modest, if and only if it is not one of those that may be replied to twice. -/
theorem at_most_one_reply_iff {line : CString} {va : VerbAction}
    (hverb : (verbTab.find? fun va ↦ va.verb = CString.toupper (splitLine line).1) = some va) :
    (∀ cfd trace result, Run (checkVerb line ⟨cfd, none⟩) trace (.ret result) →
      talk.Meets .start trace → repliesIn trace ≤ 1) ↔
    ¬(4 ≤ (splitLine line).2.length ∧ va.doVerb.repliesTwice (splitLine line).2 = true) := by
  constructor
  · rintro hall ⟨hlength, htwice⟩
    obtain ⟨trace, result, hrun, hmeets, hreplies⟩ := (may_replyTwice hverb hlength htwice).exists_run
    have hone : repliesIn trace ≤ 1 := hall 1 trace result hrun hmeets
    have htwo : repliesIn trace = 2 := hreplies
    omega
  · intro honce cfd trace result hrun hmeets
    have hterse : Terse (checkVerb line) := by
      unfold checkVerb
      rw [hverb]
      exact terse_dispatch (List.mem_of_find?_eq_some hverb) honce
    exact hrun.returns (hterse.triple 0 ⟨cfd, none⟩ .start rfl) hmeets

theorem at_most_one_reply_iff_jsgetconf :
    (∀ cfd trace result, Run (checkVerb "JSGETCONF ABC123".toList ⟨cfd, none⟩) trace (.ret result) →
      talk.Meets .start trace → repliesIn trace ≤ 1) ↔
    ¬(4 ≤ (splitLine "JSGETCONF ABC123".toList).2.length ∧
      Handler.doGetConfig.repliesTwice (splitLine "JSGETCONF ABC123".toList).2 = true) := by
  have hverb : (verbTab.find? fun va ↦
      va.verb = CString.toupper (splitLine "JSGETCONF ABC123".toList).1) =
      some (verbAction "JSGETCONF" .doGetConfig "*Get router generated configuration" 1) := by
    decide +kernel
  exact at_most_one_reply_iff hverb

/-- The failure of the script is replied to by its wrapper and by `smsexec`. -/
theorem smsexec_replies_twice :
    ∃ trace result, Run (checkVerb "JSSMSEXEC ABC123 show".toList ⟨1, none⟩) trace (.ret result) ∧
      talk.Meets .start trace ∧ repliesIn trace = 2 := by
  have hverb : (verbTab.find? fun va ↦
      va.verb = CString.toupper (splitLine "JSSMSEXEC ABC123 show".toList).1) =
      some (verbAction "JSSMSEXEC" .doJsSmsexec "Run a command on the router" 1) := by
    decide +kernel
  exact (may_replyTwice hverb (by decide +kernel) (by decide +kernel)).exists_run

end Requests

end CoreEngine.Smsd
