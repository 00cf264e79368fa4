import CoreEngine.Smsd.Indifference
import CoreEngine.Smsd.Passage

/-!
# Locks left by scripts that fail

A script may take the low-level lock of its device and end with a failure before it has released it.
Five script wrappers then unlock the device. The others leave it locked, and with it every later
update of the device refused.
-/

namespace CoreEngine.Smsd

open Interaction
open Procedure (lift Stable Triple triple_bind triple_ite triple_call triple_pure)
open Program (Run Only only_perform)

/-- The low-level locks that a request holds, whether the running script has taken one that is not
released since, and whether a script has failed with such a lock. -/
structure Lease where
  held : List SdKey
  mine : Bool
  failed : Bool
  deriving DecidableEq, Repr

def Lease.start : Lease := ⟨[], false, false⟩

/-- `SMSSQL_SetLock` has found the lock clear. -/
def taken (reply : Reply Int) : Bool :=
  reply.ret = 0 && reply.output ≠ alreadyLocked && reply.output ≠ alreadyProvlocked

/-- Follows the low-level locks of a request. Calls of `SMSSQL_UnLock` are expected to succeed, and to
be made: the daemon is not shut down between the failure of a script and the release of its lock. -/
def lease : Monitor signature Lease where
  allow _ _ := True
  expect lease op answer := match op, answer with
    | .readShutdown, answer => lease.failed = true ∧ lease.held ≠ [] → answer = false
    | .sql _ (.unLock _), reply => reply.ret = 0
    | _, _ => True
  next lease op answer := match op, answer with
    | .scriptStart _, _ => { lease with mine := false }
    | .scriptStep, .exit ret _ _ =>
        { lease with mine := false, failed := lease.failed || (ret ≠ 0 && lease.mine) }
    | .sql _ (.setLock key), reply =>
        if taken reply then { lease with held := key :: lease.held, mine := true } else lease
    | .sql _ (.unLock key), _ => { lease with held := lease.held.filter (· ≠ key), mine := false }
    | .sql _ (.unLockAll _), _ => { lease with held := [], mine := false }
    | _, _ => lease

namespace Lease

/-- No script runs that has taken a lock, and the rest is as `state` says. -/
def Idle (state : List SdKey → Bool → Prop) (_csp : Client) (lease : Lease) : Prop :=
  lease.mine = false ∧ state lease.held lease.failed

/-- Nothing has happened yet. -/
abbrev Clean : Client → Lease → Prop := Idle fun held failed ↦ held = [] ∧ failed = false

/-- No lock is held after a failure. -/
abbrev Tidy : Client → Lease → Prop := Idle fun held failed ↦ failed = true → held = []

/-- At most the lock of one device is held. -/
abbrev Holding (key : SdKey) : Client → Lease → Prop := Idle fun held _ ↦ ∀ k ∈ held, k = key

/-- A script for one device runs, the first one of the request. -/
def Running (key : SdKey) (_csp : Client) (lease : Lease) : Prop :=
  lease.failed = false ∧ ∀ k ∈ lease.held, k = key

theorem Clean.tidy {csp : Client} {lease : Lease} (hclean : Clean csp lease) : Tidy csp lease :=
  ⟨hclean.1, fun _ ↦ hclean.2.1⟩

section Disciplines

variable {state : List SdKey → Bool → Prop} {key : SdKey}

theorem ignores_database {op : Op} (hop : op.OnDatabase 0) : lease.Ignores op := by
  intro l
  cases op with
  | sql ctx query => cases query <;> first | exact ⟨trivial, fun _ ↦ rfl⟩ | exact absurd hop (Nat.not_succ_le_zero _)
  | _ => first | exact hop.elim | exact ⟨trivial, fun _ ↦ rfl⟩

theorem ignores_lookup (ctx : Ctx) (query : Sql) (hquery : query.isLookup = true) :
    lease.Ignores (.sql ctx query) := by
  cases query <;> first | exact fun _ ↦ ⟨trivial, fun _ ↦ rfl⟩ | cases hquery

theorem ignores_socket {op : Op} (hop : op.OnSocket) : lease.Ignores op := by
  intro l
  cases op <;> first | exact hop.elim | exact ⟨trivial, fun _ ↦ rfl⟩

instance {inv : Client → Lease → Prop} : StackDiscipline lease inv :=
  stackDiscipline_of_ignores fun _ ↦ ⟨trivial, fun _ ↦ rfl⟩

instance {inv : Client → Lease → Prop} : CountDiscipline lease inv :=
  countDiscipline_of_ignores fun _ _ ↦ ⟨trivial, fun _ ↦ rfl⟩

instance : ContextDiscipline lease (Idle state) :=
  contextDiscipline_of_ignores (fun _ ↦ ignores_database) (fun _ _ _ hidle ↦ hidle) ignores_lookup

instance : SocketDiscipline lease (Idle state) :=
  socketDiscipline_of_ignores (fun _ ↦ ignores_socket) fun _ _ _ hidle ↦ hidle

instance : ReplyDiscipline lease (Idle state) :=
  replyDiscipline_of_ignores fun _ ↦ ⟨trivial, fun _ ↦ rfl⟩

instance : ScriptDiscipline lease (Idle state) where
  start _ := ⟨triple_call (fun _ _ _ ↦ trivial) fun _ _ _ hidle _ ↦ ⟨rfl, hidle.2⟩⟩
  step := by
    refine ⟨triple_call (fun _ _ _ ↦ trivial) fun csp l step hidle _ ↦ ?_⟩
    cases step with
    | call request => exact hidle
    | exit ret returnBuf outputBuf =>
      obtain ⟨hmine, hstate⟩ := hidle
      refine ⟨rfl, ?_⟩
      show state l.held (l.failed || (ret ≠ 0 && l.mine))
      rw [hmine, Bool.and_false, Bool.or_false]
      exact hstate
  answer _ := stable_ask_of_ignores fun _ ↦ ⟨trivial, fun _ ↦ rfl⟩

instance : ContextDiscipline lease (Running key) :=
  contextDiscipline_of_ignores (fun _ ↦ ignores_database) (fun _ _ _ hrunning ↦ hrunning) ignores_lookup

instance : SocketDiscipline lease (Running key) :=
  socketDiscipline_of_ignores (fun _ ↦ ignores_socket) fun _ _ _ hrunning ↦ hrunning

instance : ReplyDiscipline lease (Running key) :=
  replyDiscipline_of_ignores fun _ ↦ ⟨trivial, fun _ ↦ rfl⟩

end Disciplines

section LockCode

/-! The code of the lock functions, which takes the lock of no other device. -/

/-- Everything but the steps of scripts and locks of other devices. -/
def OnlyDevice (key : SdKey) : Op → Prop
  | .sql _ (.setLock k) => k = key
  | .scriptStart _ | .scriptStep => False
  | _ => True

variable {key : SdKey} {ctx : Ctx}

instance : Roomy (OnlyDevice key) :=
  ⟨fun {op} hop ↦ by cases op <;> first | exact hop.elim | trivial⟩

theorem onlyDevice_retry {query : Sql} (db : Db) (hquery : OnlyDevice key (.sql ctx query)) :
    Only signature (OnlyDevice key) (retry ctx db query) := by
  have hsql : Only signature (OnlyDevice key) (sql ctx query) := only_perform hquery
  have hallocate : Only signature (OnlyDevice key) (haSmssqlAllocateContext ctx db) :=
    only_perform trivial
  unfold retry attempt
  infer_instance

theorem onlyDevice_ha {query : Sql} (db : Db) (initial : query.Output)
    (hquery : OnlyDevice key (.sql ctx query)) :
    Only signature (OnlyDevice key) (ha ctx db query initial) := by
  have hretry := onlyDevice_retry db hquery
  unfold ha
  infer_instance

instance : Only signature (OnlyDevice key) (haSmssqlGetSDprovlock ctx key) := onlyDevice_ha _ _ trivial
instance : Only signature (OnlyDevice key) (haSmssqlSetSdDown ctx key) := onlyDevice_ha _ _ trivial
instance : Only signature (OnlyDevice key) (haSmssqlUnLock ctx key) := onlyDevice_ha _ _ trivial
instance : Only signature (OnlyDevice key) (haSmssqlSetProvDate ctx key) := onlyDevice_ha _ _ trivial
instance (provlock : Int) : Only signature (OnlyDevice key) (haSmssqlSetSDprovlock ctx key provlock) :=
  onlyDevice_ha _ _ trivial

instance : Only signature (OnlyDevice key) (haSmssqlSetLock ctx key) := by
  have hretry : Only signature (OnlyDevice key) (retry ctx .sms (.setLock key)) :=
    onlyDevice_retry .sms rfl
  unfold haSmssqlSetLock
  infer_instance

theorem Running.next {csp : Client} {l : Lease} (hrunning : Running key csp l) {op : Op}
    (hop : OnlyDevice key op) (answer : op.Answer) : Running key csp (lease.next l op answer) := by
  obtain ⟨hfailed, hheld⟩ := hrunning
  have hfilter (k' : SdKey) : ∀ k ∈ l.held.filter (· ≠ k'), k = key :=
    fun k hk ↦ hheld k (List.mem_of_mem_filter hk)
  cases op with
  | sql ctx query =>
    cases query with
    | setLock k =>
      show Running key csp (if taken answer then { l with held := k :: l.held, mine := true } else l)
      split
      · exact ⟨hfailed, List.forall_mem_cons.2 ⟨hop, hheld⟩⟩
      · exact ⟨hfailed, hheld⟩
    | unLock k => exact ⟨hfailed, hfilter k⟩
    | unLockAll message => exact ⟨hfailed, nofun⟩
    | _ => exact ⟨hfailed, hheld⟩
  | scriptStart script => exact hop.elim
  | scriptStep => exact hop.elim
  | _ => exact ⟨hfailed, hheld⟩

instance : Only signature (OnlyDevice key) (lockSDOn ctx key) := by
  unfold lockSDOn
  infer_instance

instance : Only signature (OnlyDevice key) (lockProvOn ctx key) := by
  unfold lockProvOn
  infer_instance

instance : Only signature (OnlyDevice key) (unlockProvOn ctx key) := by
  have hfind : Only signature (OnlyDevice key) (findCtx .cust (.borrower .unlockProv)) :=
    only_perform trivial
  unfold unlockProvOn
  infer_instance

/-- The lock functions of a script keep to its device. -/
instance stable_borrow {α : Type} (borrower : Borrower) (body : Ctx → Code α)
    [hbody : ∀ ctx, Only signature (OnlyDevice key) (body ctx)] :
    Stable lease (Running key) (borrowDbCtx borrower body) := by
  constructor
  let running (l : Lease) : Prop := Running key ⟨0, none⟩ l
  have hsafe (ctx : Ctx) (l : Lease) (hrunning : running l) :
      (body ctx).Safe lease (fun _ ↦ running) l :=
    (hbody ctx).within.safe (fun _ _ _ _ ↦ trivial)
      (fun _ _ answer hop hrunning _ ↦ hrunning.next hop answer) hrunning
  exact triple_borrowDbCtx_of_ignores (fun _ ↦ ignores_database) hsafe

theorem stable_lockSD : Stable lease (Running key) (lockSD key) := by
  unfold lockSD
  infer_instance

theorem stable_unlockSD : Stable lease (Running key) (unlockSD key) := by
  unfold unlockSD
  infer_instance

theorem stable_lockProv : Stable lease (Running key) (lockProv key) := by
  unfold lockProv
  infer_instance

theorem stable_unlockProv : Stable lease (Running key) (unlockProv key) := by
  have hrelease (ctx : Option Ctx) : Stable lease (Running key) (lift (releaseCtx ctx)) :=
    stable_lift_of_onDatabase (fun _ ↦ ignores_database) inferInstance
  unfold unlockProv
  infer_instance

end LockCode

section Scripts

variable {key : SdKey} {info : SdInfo}

/-- The first script of a request leaves at most the lock of its device, and none has failed with the
lock unless it has failed. -/
theorem triple_script {script : Script} (hinfo : ∀ info ∈ script.sdInfo, info.sd.key = key) :
    Triple lease Clean (smsModPhpExecuteScript script) fun exit csp l ↦
      Holding key csp l ∧ (exit.ret = 0 → l.failed = false) := by
  have hstart : Triple lease Clean (lift (ask (.scriptStart script))) fun _ ↦ Running key := by
    refine triple_call (fun _ _ _ ↦ trivial) fun _ l _ hclean _ ↦ ?_
    obtain ⟨-, hheld, hfailed⟩ := hclean
    refine ⟨hfailed, fun k hk ↦ ?_⟩
    have hk : k ∈ l.held := hk
    rw [hheld] at hk
    cases hk
  have hstep : Triple lease (Running key) (lift (ask .scriptStep)) fun step csp l ↦
      step.elim (fun _ ↦ Running key csp l) fun exit ↦ Holding key csp l ∧ (exit.ret = 0 → l.failed = false) := by
    refine triple_call (fun _ _ _ ↦ trivial) fun csp l step hrunning _ ↦ ?_
    cases step with
    | call request => exact hrunning
    | exit ret returnBuf outputBuf =>
      obtain ⟨hfailed, hheld⟩ := hrunning
      refine ⟨⟨rfl, hheld⟩, fun hzero ↦ ?_⟩
      have hret : ret = 0 := hzero
      show (l.failed || (ret ≠ 0 && l.mine)) = false
      simp [hfailed, hret]
  have hanswer (value : PhpValue) : Stable lease (Running key) (lift (ask (.phpReturn value))) :=
    stable_ask_of_ignores fun _ ↦ ⟨trivial, fun _ ↦ rfl⟩
  refine triple_executeScript hstart hstep (fun request ↦ ?_) fun value ↦ (hanswer value).triple
  exact triple_callPhp _ (fun info hmem ↦ hinfo info (mem_of_request hmem)) (fun _ _ hrunning ↦ hrunning)
    (fun _ ↦ stable_lockSD.triple) (fun _ ↦ stable_unlockSD.triple)
    (fun _ ↦ stable_lockProv.triple) fun _ ↦ stable_unlockProv.triple

theorem safe_unLock (ctx : Ctx) {l : Lease} (hmine : l.mine = false) (hheld : ∀ k ∈ l.held, k = key) :
    (haSmssqlUnLock ctx key).Safe lease
      (fun _ l ↦ l.mine = false ∧ (l.failed = true → l.held = [])) l := by
  refine (Program.safe_bind _ _ _ _).2 ⟨trivial, fun shutdown hshutdown ↦ ?_⟩
  cases shutdown with
  | true =>
    refine ⟨hmine, fun hfailed ↦ ?_⟩
    by_contra hsome
    cases hshutdown ⟨hfailed, hsome⟩
  | false =>
    refine Program.safe_loop (fun _ l' ↦ l' = l) (fun _ l' hl' ↦ ?_) rfl
    subst hl'
    refine (Program.safe_bind _ _ _ _).2 ⟨trivial, fun reply hreply ↦ ?_⟩
    have hret : reply.ret = 0 := hreply
    have hconnected : ¬reply.ret = errDbConnectionLost := by
      rw [hret]
      decide
    have hnone : l'.held.filter (· ≠ key) = [] :=
      List.filter_eq_nil_iff.2 fun k hk ↦ by simp [hheld k hk]
    show (if reply.ret = errDbConnectionLost then _ else _ : Code (Unit ⊕ Reply Unit)).Safe lease _ _
    rw [if_neg hconnected]
    exact ⟨rfl, fun _ ↦ hnone⟩

/-- The lock of the device is released, whatever else has happened. -/
theorem triple_release : Triple lease (Holding key) (unlockSD key) fun _ ↦ Tidy := by
  have hborrow : Triple lease (Holding key) (borrowDbCtx .unlockSD (haSmssqlUnLock · key)) fun _ ↦ Tidy :=
    triple_borrowDbCtx_of_ignores (fun _ ↦ ignores_database) fun ctx _ hheld ↦
      safe_unLock ctx hheld.1 hheld.2
  exact triple_bind hborrow fun reply ↦ triple_pure _ fun _ _ htidy ↦ htidy

theorem triple_replyFailureAndUnlock (ret : Int) :
    Triple lease (Holding info.sd.key) (replyFailureAndUnlock info ret) fun _ ↦ Tidy := by
  refine triple_bind Stable.triple fun _ ↦ triple_bind triple_release fun _ ↦ ?_
  exact triple_pure _ fun _ _ htidy ↦ htidy

end Scripts

section Tidiness

variable {α β : Type}

/-- Leaves no lock behind a script that has failed with it. -/
class Tidies (procedure : M α) : Prop where
  triple : Triple lease Clean procedure fun _ ↦ Tidy

instance (priority := low) tidies_of_stable (procedure : M α)
    [hstable : Stable lease Clean procedure] : Tidies procedure :=
  ⟨hstable.triple.conseq (fun _ _ hclean ↦ hclean) fun _ _ _ hclean ↦ hclean.tidy⟩

/-- Code that takes no lock first. -/
instance tidies_bind (procedure : M α) (rest : α → M β) [hstable : Stable lease Clean procedure]
    [hrest : ∀ value, Tidies (rest value)] : Tidies (procedure >>= rest) :=
  ⟨triple_bind hstable.triple fun value ↦ (hrest value).triple⟩

/-- Code that takes no lock afterwards. -/
instance tidies_bind_stable (procedure : M α) (rest : α → M β) [hfirst : Tidies procedure]
    [hstable : ∀ value, Stable lease Tidy (rest value)] : Tidies (procedure >>= rest) :=
  ⟨triple_bind hfirst.triple fun value ↦ (hstable value).triple⟩

instance tidies_ite (condition : Prop) [Decidable condition] (yes no : M α) [hyes : Tidies yes]
    [hno : Tidies no] : Tidies (if condition then yes else no) :=
  ⟨triple_ite (fun _ ↦ hyes.triple) fun _ ↦ hno.triple⟩

instance tidies_elim {γ : Type} (value : Option γ) (none : M α) (some : γ → M α)
    [hnone : Tidies none] [hsome : ∀ value, Tidies (some value)] : Tidies (value.elim none some) := by
  cases value with
  | none => exact hnone
  | some value => exact hsome value

/-- A wrapper that unlocks the device when its script has failed. -/
theorem tidies_runScript {script : Script} {key : SdKey}
    (hinfo : ∀ info ∈ script.sdInfo, info.sd.key = key) {failed : Int → M Unit}
    (hfailed : ∀ ret, Triple lease (Holding key) (failed ret) fun _ ↦ Tidy) :
    Tidies (runScript script failed) := by
  refine ⟨triple_bind (triple_script hinfo) fun exit ↦ triple_ite (fun hret ↦ ?_) fun hret ↦ ?_⟩
  · refine triple_bind ((hfailed exit.ret).conseq (fun _ _ hpost ↦ hpost.1) fun _ _ _ htidy ↦ htidy) ?_
    exact fun _ ↦ triple_pure _ fun _ _ htidy ↦ htidy
  · refine triple_pure _ fun csp l hpost ↦ ⟨hpost.1.1, fun hfailed ↦ ?_⟩
    rw [hpost.2 (not_not.1 hret)] at hfailed
    cases hfailed

end Tidiness

section Unlocking

/-! The five wrappers that unlock, and their callers. -/

set_option synthInstance.maxSize 4000

variable (info : SdInfo)

instance : Tidies (genericUpdateConf info) := by
  refine tidies_runScript (key_of_mem_sdInfo rfl ?_) triple_replyFailureAndUnlock
  simp [deviceScript]

instance (ipaddr login passwd adminpasswd : CString) :
    Tidies (genericInitialProvisioning info ipaddr login passwd adminpasswd) := by
  refine tidies_runScript (key_of_mem_sdInfo rfl ?_) triple_replyFailureAndUnlock
  simp [deviceScript, str]

instance (revisionId msg : CString) : Tidies (genericRestoreConf info revisionId msg) := by
  refine ⟨triple_bind (triple_configType info.sd) fun type ↦ ?_⟩
  rintro csp l ⟨⟨value, rfl⟩, hclean⟩
  refine (tidies_runScript (key_of_mem_sdInfo rfl ?_) triple_replyFailureAndUnlock).triple csp l hclean
  simp [deviceScript, str]

instance (script : CString) (synchronous : Bool) : Tidies (genericExecScript info script synchronous) := by
  refine tidies_runScript (key_of_mem_sdInfo rfl ?_) fun _ ↦ triple_bind triple_release fun _ ↦ ?_
  · simp [deviceScript, str]
  · exact triple_pure _ fun _ _ htidy ↦ htidy

instance (cmd : CString) (optionalParams : Option CString) :
    Tidies (genericSmsCmd info cmd optionalParams) := by
  refine tidies_runScript (key_of_mem_sdInfo rfl ?_) triple_replyFailureAndUnlock
  simp [str]

instance (params : CString) (n : ℕ) (enough : ℕ → Bool) (body : List CString → M Int)
    [∀ words, Tidies (body words)] : Tidies (withWords params n enough body) := by
  unfold withWords
  infer_instance

instance (sdid message : CString) (body : SdInfo → M Int) [∀ info, Tidies (body info)] :
    Tidies (withSDinfo sdid message body) := by
  unfold withSDinfo
  infer_instance

instance (params : CString) (synchronous : Bool) : Tidies (execScript params synchronous) := by
  unfold execScript
  infer_instance

instance (sdid : CString) : Tidies (provisioning sdid) := by
  unfold provisioning
  infer_instance

instance (params : CString) : Tidies (restoreConf params) := by
  unfold restoreConf
  infer_instance

instance : Tidies (updateConfig info) := by
  unfold updateConfig
  infer_instance

instance (params : CString) : Tidies (smsCmd params) := by
  unfold smsCmd
  infer_instance

instance (request : M Int) [Tidies request] : Tidies (silently request) := by
  unfold silently
  infer_instance

instance (params : CString) : Tidies (doUpdateConfig params) := by
  unfold doUpdateConfig
  infer_instance

end Unlocking

end Lease

/-- The requests that may leave a lock, where the parameters let the handler get as far as its script:
those whose wrapper does not unlock the device that its script works on. -/
def Handler.leaksLock (handler : Handler) (params : CString) : Bool :=
  match handler with
  | .doCheckProvisioning | .doGetActivityReport | .doGetConfig | .doGetRunningConf | .doUpdateLicense
  | .doHaSwap | .doResolve | .doResolveTemplate | .doJsSmsexecn | .doStaging | .doStagingMap => true
  | .doBackupConf => acceptsWords params 2 (1 ≤ ·)
  | .doPushConfig => acceptsWords params 4 (1 ≤ ·)
  | .doUpdateFirmware => acceptsWords params 3 (1 ≤ ·)
  | .doCallCommand => acceptsWords params 3 (· = 3)
  | .doGenTemplate => acceptsWords params 4 (3 ≤ ·)
  | .doGetArchiveConf => acceptsWords params 2 (· = 2)
  | .doSendDataFiles => acceptsWords params 5 (1 ≤ ·)
  | .doJsSmsAddonExec => acceptsWords params 2 (2 ≤ ·)
  | .doJsSmsexec => (splitArgument params).isSome
  | .doUnarchiveConf => acceptsWords params 3 (· = 3)
  | _ => false

namespace Lease

section Handlers

/-- No lock is held after a failure, whatever a script is doing. -/
def Quit (_csp : Client) (l : Lease) : Prop := l.failed = true → l.held = []

instance : ContextDiscipline lease Quit :=
  contextDiscipline_of_ignores (fun _ ↦ ignores_database) (fun _ _ _ hquit ↦ hquit) ignores_lookup

/-- A handler that runs no script does not fail with a lock. -/
theorem triple_locking (sdid : CString) {work : SdKey → M Int}
    (hwork : ∀ key, Stable lease (Running key) (work key)) :
    Triple lease Clean (do
      let ret ← (do
        let key ← decodeSdid CString.atol sdid
        work key)
      plainReply ret none) fun _ ↦ Quit := by
  have hstart (key : SdKey) (csp : Client) (l : Lease) (hclean : Clean csp l) : Running key csp l := by
    obtain ⟨-, hheld, hfailed⟩ := hclean
    refine ⟨hfailed, fun k hk ↦ ?_⟩
    rw [hheld] at hk
    cases hk
  have hlocked : Triple lease Clean (do
      let key ← decodeSdid CString.atol sdid
      work key) fun _ csp l ↦ ∃ key, Running key csp l := by
    apply triple_bind Stable.triple
    intro key
    exact (hwork key).triple.conseq (hstart key) fun _ _ _ hrunning ↦ ⟨key, hrunning⟩
  apply triple_bind hlocked
  rintro ret csp l ⟨key, hrunning⟩
  have hreply : Stable lease (Running key) (plainReply ret none) := inferInstance
  apply (hreply.triple csp l hrunning).mono
  intro _ l hrunning hfailed
  rw [hrunning.1] at hfailed
  cases hfailed

theorem tidies_run {handler : Handler} {params : CString}
    (hlocks : handler ∉ [.doLockProvisioning, .doUnLockProvisioning, .doUnlockUpdate])
    (htidy : handler.leaksLock params = false) : Tidies (handler.run params) := by
  cases handler with
  | doLockProvisioning => exact absurd (by decide) hlocks
  | doUnLockProvisioning => exact absurd (by decide) hlocks
  | doUnlockUpdate => exact absurd (by decide) hlocks
  | doBackupConf =>
    have hrequest : backupRouterFullConfiguration params = badParam := withWords_of_refused htidy
    unfold Handler.run
    rw [hrequest]
    infer_instance
  | doPushConfig =>
    have hrequest : pushConfig params = badParam := withWords_of_refused htidy
    unfold Handler.run
    rw [hrequest]
    infer_instance
  | doUpdateFirmware =>
    have hrequest : updateFirmware params = badParam := withWords_of_refused htidy
    unfold Handler.run Smsd.doUpdateFirmware
    rw [hrequest]
    infer_instance
  | doCallCommand =>
    have hrequest : callCommand params = badParam := withWords_of_refused htidy
    unfold Handler.run
    rw [hrequest]
    infer_instance
  | doGenTemplate =>
    have hrequest : genTemplate params = badParam := withWords_of_refused htidy
    unfold Handler.run
    rw [hrequest]
    infer_instance
  | doGetArchiveConf =>
    have hrequest : getArchiveConf params = badParam := withWords_of_refused htidy
    unfold Handler.run
    rw [hrequest]
    infer_instance
  | doSendDataFiles =>
    have hrequest : sendDataFiles params = badParam := withWords_of_refused htidy
    unfold Handler.run
    rw [hrequest]
    infer_instance
  | doJsSmsAddonExec =>
    have hrequest : Smsd.doJsSmsAddonExec params = badParam := withWords_of_refused htidy
    unfold Handler.run
    rw [hrequest]
    infer_instance
  | doUnarchiveConf =>
    have hrequest : unarchiveConf params = badParam := withWords_of_refused htidy
    unfold Handler.run
    rw [hrequest]
    infer_instance
  | doJsSmsexec =>
    have hargument : splitArgument params = none := by
      simpa [Handler.leaksLock] using htidy
    have hrequest : smsexec params none = replyAnyFailure errVerbBadParam := by
      unfold smsexec
      rw [hargument]
      rfl
    unfold Handler.run
    rw [hrequest]
    infer_instance
  | doImmediateSaveConf =>
    have hstable : Stable lease Clean doImmediateSaveConf :=
      stable_doImmediateSaveConf_of_ignores fun _ ↦ ignores_database
    unfold Handler.run
    infer_instance
  | _ => first | (unfold Handler.run; infer_instance) | cases htidy

theorem triple_run {handler : Handler} {params : CString}
    (htidy : handler.leaksLock params = false) :
    Triple lease Clean (handler.run params) fun _ ↦ Quit := by
  by_cases hlocks : handler ∈ [.doLockProvisioning, .doUnLockProvisioning, .doUnlockUpdate]
  · simp only [List.mem_cons, List.not_mem_nil, or_false] at hlocks
    rcases hlocks with rfl | rfl | rfl
    · exact triple_locking params fun _ ↦ stable_lockProv
    · exact triple_locking params fun _ ↦ stable_unlockProv
    · exact triple_locking params fun _ ↦ stable_unlockSD
  · exact (tidies_run hlocks htidy).triple.conseq (fun _ _ hclean ↦ hclean) fun _ _ _ htidy ↦ htidy.2

theorem hasParams_of_leaksLock {va : VerbAction} (hva : va ∈ verbTab) {params : CString}
    (hleaks : va.doVerb.leaksLock params = true) : va.hasParams = 1 := by
  let leaks (handler : Handler) : Bool := handler.leaksLock params
  have hnone : ∀ handler ∈ [.doImmediateSaveConf, .doIsAlive, .doListVerb, .doPS, .doReinitLogs, .doStat],
      leaks handler = false := by
    simp [leaks, Handler.leaksLock]
  exact hasParams_of_property hnone hva hleaks

theorem triple_dispatch {va : VerbAction} (hva : va ∈ verbTab) {arg : CString}
    (htidy : ¬(4 ≤ arg.length ∧ va.doVerb.leaksLock arg = true)) :
    Triple lease Clean (dispatch va arg) fun _ ↦ Quit := by
  have hfinish : Stable lease Quit dispatch.finish := by
    unfold dispatch.finish
    infer_instance
  have hfind : Stable lease Clean (lift (findCtx .sms (.keeper .checkVerb))) :=
    stable_lift_of_onDatabase (fun _ ↦ ignores_database) inferInstance
  have hstore (ctx : Option Ctx) : Stable lease Clean (storeDbCtx ctx) :=
    stable_storeDbCtx_of_ignores (fun _ ↦ ignores_database) (fun _ _ _ hclean ↦ hclean) ctx
  refine triple_ite (fun hparams ↦ triple_ite (fun _ ↦ ?_) fun hshort ↦ ?_) fun hparams ↦ ?_
  · exact triple_pure _ fun _ _ hclean ↦ hclean.tidy.2
  · have hrun : va.doVerb.leaksLock arg = false := by
      refine Bool.eq_false_iff.2 fun hleaks ↦ ?_
      have hone := hasParams_of_leaksLock hva hleaks
      exact htidy ⟨by omega, hleaks⟩
    refine triple_bind hfind.triple fun ctx ↦ triple_bind (hstore (some ctx)).triple fun _ ↦ ?_
    exact triple_bind (triple_run hrun) fun _ ↦ hfinish.triple
  · have hrun : va.doVerb.leaksLock "N/A".toList = false := by
      refine Bool.eq_false_iff.2 fun hleaks ↦ ?_
      have hone := hasParams_of_leaksLock hva hleaks
      omega
    exact triple_bind (triple_run hrun) fun _ ↦ hfinish.triple

end Handlers

section Leaking

/-! Runs that leave a lock, on a connection that takes every write. -/

open Procedure (may_bind may_pure may_call may_get may_ite_pos may_ite_neg may_loop)

variable {α β : Type} {dbCtx : Option Ctx} {ctx : Ctx}

/-- A script has failed with the lock of the device. -/
def leaked : Lease := ⟨[Sim.plainDevice.sd.key], false, true⟩

instance : Forgiving lease where
  expect {op} hop _ _ := by cases op <;> first | exact hop.elim | trivial
  next {op} hop _ _ := by cases op <;> first | exact hop.elim | rfl
  expect_sql {query} hquery _ _ _ := by cases query <;> trivial
  next_sql {query} hquery _ _ _ := by cases query <;> first | rfl | cases hquery

theorem may_writePieces (pieces : List CString) {post : Int × Client → Lease → Prop} {l : Lease}
    (hpost : post (0, ⟨1, dbCtx⟩) l) : (writePieces pieces ⟨1, dbCtx⟩).May lease post l := by
  induction pieces with
  | nil => exact ⟨(), trivial, hpost⟩
  | cons piece pieces ih =>
    unfold writePieces
    refine may_bind (may_get (may_call (piece.length : Int) trivial ?_))
    exact may_ite_neg (fun hshort ↦ hshort rfl) ih

/-- May return after a leak, which stays. -/
class Passes (procedure : M α) : Prop where
  may {dbCtx : Option Ctx} {post : α × Client → Lease → Prop}
    (hpost : ∀ value dbCtx, post (value, ⟨1, dbCtx⟩) leaked) :
    (procedure ⟨1, dbCtx⟩).May lease post leaked

/-- May return with a leak, on whatever context. -/
class Leaks (procedure : M α) : Prop where
  may {dbCtx : Option Ctx} {post : α × Client → Lease → Prop}
    (hpost : ∀ value dbCtx, post (value, ⟨1, dbCtx⟩) leaked) :
    (procedure ⟨1, dbCtx⟩).May lease post .start

instance passes_pure (value : α) : Passes (pure value) := ⟨fun hpost ↦ may_pure (hpost _ _)⟩

instance passes_bind (procedure : M α) (rest : α → M β) [hfirst : Passes procedure]
    [hrest : ∀ value, Passes (rest value)] : Passes (procedure >>= rest) :=
  ⟨fun hpost ↦ may_bind (hfirst.may fun value _ ↦ (hrest value).may hpost)⟩

instance passes_ite (condition : Prop) [Decidable condition] (yes no : M α) [hyes : Passes yes]
    [hno : Passes no] : Passes (if condition then yes else no) := by
  split
  · exact hyes
  · exact hno

instance leaks_bind (procedure : M α) (rest : α → M β) [hfirst : Leaks procedure]
    [hrest : ∀ value, Passes (rest value)] : Leaks (procedure >>= rest) :=
  ⟨fun hpost ↦ may_bind (hfirst.may fun value _ ↦ (hrest value).may hpost)⟩

instance : Passes cfdOpen := ⟨fun hpost ↦ may_get (may_pure (hpost _ _))⟩

instance (pieces : List CString) : Passes (writePieces pieces) :=
  ⟨fun hpost ↦ may_writePieces pieces (hpost _ _)⟩

instance : Passes (lift (ask .library)) :=
  ⟨fun hpost ↦ may_ask .library trivial Sim.library (hpost _ _)⟩

instance (keeper : Keeper) : Passes (ensureDbCtx keeper) :=
  ⟨fun hpost ↦ may_ensureDbCtx keeper (hpost _)⟩

instance (sdid : CString) : Passes (sdForceAsset sdid) := ⟨fun hpost ↦ may_sdForceAsset sdid (hpost _)⟩

instance (result : Option CString) (error : Int) : Passes (smsSendUserError result error) := by
  unfold smsSendUserError internalSendUserMessage
  infer_instance

instance (result message : Option CString) : Passes (smsSendUserOkEx result message) := by
  unfold smsSendUserOkEx internalSendUserMessage
  infer_instance

instance (ret : Int) : Passes (replyFailure ret) := by
  unfold replyFailure
  infer_instance

instance (ret : Int) : Passes (ignoreFailure ret) := by
  unfold ignoreFailure
  infer_instance

instance (ret : Int) : Passes (replyAnyFailure ret) := by
  unfold replyAnyFailure
  infer_instance

instance (ret : Int) : Passes (replyOutcome ret) := by
  unfold replyOutcome smsSendUserOk
  infer_instance

instance (ret : Int) : Passes (replyError ret) := by
  unfold replyError sendError
  infer_instance

/-- A script may succeed at once. -/
instance (script : Script) : Passes (smsModPhpExecuteScript script) :=
  ⟨fun hpost ↦ may_bind (may_call () trivial (may_loop (may_bind
    (may_call (.exit 0 none none) trivial (hpost _ _)))))⟩

theorem may_readShutdown {post : Bool → Lease → Prop} {l : Lease} (hpost : post false l) :
    readShutdown.May lease post l :=
  ⟨false, fun _ ↦ rfl, hpost⟩

/-- The lock may be free. -/
theorem may_haSmssqlSetLock (key : SdKey) {post : Reply Int → Lease → Prop}
    (hpost : post ⟨0, okLocked⟩ ⟨[key], true, false⟩) :
    (haSmssqlSetLock ctx key).May lease post .start := by
  refine (Program.may_bind _ _ _ _).2 (may_readShutdown ?_)
  refine (Program.may_bind _ _ _ _).2 ((Program.may_bind _ _ _ _).2 (may_readShutdown ?_))
  refine may_retry .sms ⟨0, (0 : Int)⟩ rfl trivial ?_
  exact may_retry .sms ⟨0, okLocked⟩ rfl trivial hpost

theorem may_lockSD (key : SdKey) {post : Int × Client → Lease → Prop}
    (hpost : ∀ dbCtx, post (0, ⟨1, dbCtx⟩) ⟨[key], true, false⟩) :
    (lockSD key ⟨1, dbCtx⟩).May lease post .start :=
  may_bind (may_borrowDbCtx _ fun _ ↦ may_haSmssqlSetLock key fun _ ↦ hpost _)

theorem may_lockingRound {script : Script} (hcsp : script.hasCsp = true)
    (hinfo : script.sdInfo = some Sim.plainDevice) {post : (Unit ⊕ ScriptExit) × Client → Lease → Prop}
    (hpost : ∀ dbCtx, post (.inl (), ⟨1, dbCtx⟩) ⟨[Sim.plainDevice.sd.key], true, false⟩) :
    (scriptRound script (Sim.call .smsSdLock) ⟨1, dbCtx⟩).May lease post .start := by
  simp only [Sim.call, scriptRound, hcsp, hinfo, Bool.and_self, callPhp]
  refine may_bind (may_bind (may_lockSD _ fun dbCtx ↦ may_bind ?_))
  exact may_call () trivial (hpost dbCtx)

/-- A script that is given the client context and a device may take the lock and fail. -/
theorem leaks_script {script : Script} (hcsp : script.hasCsp = true)
    (hinfo : script.sdInfo = some Sim.plainDevice) : Leaks (smsModPhpExecuteScript script) := by
  refine ⟨fun hpost ↦ may_bind (may_call () trivial (may_loop (may_bind
    (may_call (Sim.call .smsSdLock) trivial (may_lockingRound hcsp hinfo fun dbCtx ↦ ?_)))))⟩
  rw [Sum.elim_inl]
  exact may_loop (may_bind (may_call (ScriptStep.exit 1 none none) trivial (hpost _ _)))

theorem leaks_runScript {script : Script} (hcsp : script.hasCsp = true)
    (hinfo : script.sdInfo = some Sim.plainDevice) {failed : Int → M Unit} [∀ ret, Passes (failed ret)] :
    Leaks (runScript script failed) := by
  have hscript := leaks_script hcsp hinfo
  unfold runScript
  infer_instance

theorem leaks_execCommands (addon : Option CString) (commands : List CString) :
    Leaks (execCommands Sim.plainDevice addon commands) := by
  cases addon with
  | none => exact leaks_runScript rfl rfl
  | some addon => exact leaks_runScript rfl rfl

variable {post : Int × Client → Lease → Prop}

/-- The second script may succeed without the lock. -/
theorem may_resolveWith (sdid : CString) (name : String) (value : CString)
    (hpost : ∀ value dbCtx, post (value, ⟨1, dbCtx⟩) leaked) :
    (resolveWith sdid (str name value) ⟨1, some ctx⟩).May lease post .start := by
  have hagain (script : Script) : Passes (runScript script ignoreFailure) := by
    unfold runScript
    infer_instance
  refine may_bind (may_getSDinfo _ (may_ite_neg (fun hfailed ↦ hfailed rfl) (may_bind ?_)))
  refine (leaks_script rfl rfl).may fun exit dbCtx ↦ ?_
  exact (passes_ite _ _ _).may hpost

theorem may_thenForceAsset {keeper : Keeper} {params : CString} {update : M Int}
    (hupdate : ∀ {post : Int × Client → Lease → Prop},
      (∀ value dbCtx, post (value, ⟨1, dbCtx⟩) leaked) → (update ⟨1, some ctx⟩).May lease post .start)
    (hpost : ∀ value dbCtx, post (value, ⟨1, dbCtx⟩) leaked) :
    (thenForceAsset keeper params update ⟨1, some ctx⟩).May lease post .start :=
  may_bind (hupdate fun _ _ ↦ (passes_ite _ _ _).may hpost)

theorem may_run {handler : Handler} {params : CString} (hleaks : handler.leaksLock params = true)
    (hpost : ∀ value dbCtx, post (value, ⟨1, dbCtx⟩) leaked) :
    (handler.run params ⟨1, some ctx⟩).May lease post .start := by
  have hsilently {request : M Int} (hrequest : ∀ {post : Int × Client → Lease → Prop},
      (∀ value dbCtx, post (value, ⟨1, dbCtx⟩) leaked) →
        (request ⟨1, some ctx⟩).May lease post .start) :
      (silently request ⟨1, some ctx⟩).May lease post .start :=
    may_bind (hrequest fun _ _ ↦ may_pure (hpost _ _))
  have hdevice {script : Script} {failed : Int → M Unit} [∀ ret, Passes (failed ret)]
      (hcsp : script.hasCsp = true) (hinfo : script.sdInfo = some Sim.plainDevice)
      {post : Int × Client → Lease → Prop} (hpost : ∀ value dbCtx, post (value, ⟨1, dbCtx⟩) leaked) :
      (runScript script failed ⟨1, some ctx⟩).May lease post .start :=
    (leaks_runScript hcsp hinfo).may hpost
  cases handler with
  | doCheckProvisioning => exact hsilently fun hpost ↦ may_withSDinfo _ _ (hdevice rfl rfl hpost)
  | doGetActivityReport => exact hsilently fun hpost ↦ may_withSDinfo _ _ (hdevice rfl rfl hpost)
  | doGetConfig => exact hsilently fun hpost ↦ may_withSDinfo _ _ (hdevice rfl rfl hpost)
  | doGetRunningConf => exact hsilently fun hpost ↦ may_withSDinfo _ _ (hdevice rfl rfl hpost)
  | doHaSwap => exact hsilently fun hpost ↦ may_withSDinfo _ _ (hdevice rfl rfl hpost)
  | doStaging => exact hsilently fun hpost ↦ may_withSDinfo _ _ (hdevice rfl rfl hpost)
  | doStagingMap => exact hsilently fun hpost ↦ may_withSDinfo _ _ (hdevice rfl rfl hpost)
  | doUpdateLicense =>
    refine may_thenForceAsset (fun hpost ↦ may_bind (may_getSDinfo _ ?_)) hpost
    exact may_ite_neg (fun hfailed ↦ hfailed rfl) (hdevice rfl rfl hpost)
  | doUpdateFirmware =>
    refine may_thenForceAsset (fun hpost ↦ may_withWords hleaks (may_bind (may_getSDinfo _ ?_))) hpost
    exact may_ite_neg (fun hfailed ↦ hfailed rfl) (hdevice rfl rfl hpost)
  | doBackupConf =>
    refine hsilently fun hpost ↦ may_withWords hleaks (may_withSDinfo _ _ ?_)
    exact may_bind (may_bind (may_ask .library trivial Sim.library (hdevice rfl rfl hpost)))
  | doSendDataFiles =>
    exact hsilently fun hpost ↦ may_withWords hleaks (may_withSDinfo _ _ (hdevice rfl rfl hpost))
  | doGenTemplate =>
    exact hsilently fun hpost ↦ may_withWords hleaks (may_withSDinfo _ _ (hdevice rfl rfl hpost))
  | doPushConfig =>
    refine hsilently fun hpost ↦ may_withWords hleaks (may_bind ?_)
    refine may_readBody _ _ _ rfl rfl fun body hbody ↦ may_ite_neg hbody (may_withSDinfo _ _ ?_)
    exact may_bind (may_bind (may_ask .library trivial Sim.library (hdevice rfl rfl hpost)))
  | doUnarchiveConf =>
    unfold Handler.run unarchiveConf
    refine may_withWords hleaks (may_withSDinfo _ _ (may_bind ?_))
    exact hdevice rfl rfl fun ret _ ↦ Passes.may hpost
  | doGetArchiveConf =>
    unfold Handler.run getArchiveConf
    refine may_withWords hleaks (may_withSDinfo _ _ (may_bind ?_))
    exact hdevice rfl rfl fun ret _ ↦ Passes.may hpost
  | doJsSmsexec =>
    refine hsilently fun hpost ↦ may_smsexec hleaks fun commands ↦ may_bind ?_
    exact (leaks_execCommands _ commands).may fun _ _ ↦ Passes.may hpost
  | doJsSmsexecn =>
    refine hsilently fun hpost ↦ may_smsexecn _ _ fun commands ↦ may_bind ?_
    exact (leaks_execCommands _ commands).may fun _ _ ↦ Passes.may hpost
  | doJsSmsAddonExec =>
    unfold Handler.run doJsSmsAddonExec
    refine may_withWords hleaks (hsilently fun hpost ↦ may_smsexecn _ _ fun commands ↦ may_bind ?_)
    exact (leaks_execCommands _ commands).may fun _ _ ↦ Passes.may hpost
  | doCallCommand =>
    refine hsilently fun hpost ↦ may_callCommand hleaks fun words buf ↦ may_withSDinfo _ _ (may_bind ?_)
    refine may_bind ((leaks_script rfl rfl).may fun _ _ ↦ may_pure ?_)
    exact (passes_ite _ _ _).may hpost
  | doResolveTemplate =>
    refine may_bind (may_scanned _ _ fun sdid ↦ may_bind (may_scanned _ _ fun path ↦ may_bind ?_))
    exact may_resolveWith _ _ _ fun _ _ ↦ Passes.may hpost
  | doResolve =>
    refine may_bind (may_getSDinfo _ (may_ite_neg (fun hfailed ↦ hfailed rfl) (may_bind ?_)))
    refine may_readBody _ _ _ rfl rfl fun body hbody ↦ may_ite_neg hbody (may_bind ?_)
    exact may_resolveWith _ _ _ fun _ _ ↦ may_bind (Passes.may fun _ _ ↦ may_pure (hpost _ _))
  | _ => cases hleaks

end Leaking

theorem may_leakLock {line : CString} {va : VerbAction}
    (hverb : (verbTab.find? fun va ↦ va.verb = CString.toupper (splitLine line).1) = some va)
    (hlength : 4 ≤ (splitLine line).2.length)
    (hleaks : va.doVerb.leaksLock (splitLine line).2 = true) :
    (checkVerb line ⟨1, none⟩).May lease (fun _ l ↦ l = leaked) .start :=
  may_checkVerb hverb (hasParams_of_leaksLock (List.mem_of_find?_eq_some hverb) hleaks) hlength
    fun _ ↦ may_run hleaks fun _ _ ↦ rfl

end Lease

section Requests

open Lease

/-- A request with a known verb that has returned holds no low-level lock if one of its scripts has
failed with a lock, whatever happens and provided that locks can be released, if and only if it is not
one of those that may leave a lock. -/
theorem no_lock_leaked_iff {line : CString} {va : VerbAction}
    (hverb : (verbTab.find? fun va ↦ va.verb = CString.toupper (splitLine line).1) = some va) :
    (∀ cfd trace result, Run (checkVerb line ⟨cfd, none⟩) trace (.ret result) →
      lease.Meets .start trace → (lease.after .start trace).failed = true →
      (lease.after .start trace).held = []) ↔
    ¬(4 ≤ (splitLine line).2.length ∧ va.doVerb.leaksLock (splitLine line).2 = true) := by
  constructor
  · rintro hall ⟨hlength, hleaks⟩
    obtain ⟨trace, result, hrun, hmeets, hleaked⟩ := (may_leakLock hverb hlength hleaks).exists_run
    have hfailed : (lease.after .start trace).failed = true := by
      rw [hleaked]
      rfl
    have hheld := hall 1 trace result hrun hmeets hfailed
    rw [hleaked] at hheld
    cases hheld
  · intro htidy cfd trace result hrun hmeets
    have htriple : Triple lease Clean (checkVerb line) fun _ ↦ Quit := by
      unfold checkVerb
      rw [hverb]
      exact Lease.triple_dispatch (List.mem_of_find?_eq_some hverb) htidy
    exact hrun.returns (htriple ⟨cfd, none⟩ .start ⟨rfl, rfl, rfl⟩) hmeets

theorem no_lock_leaked_iff_jsaupdateconf :
    (∀ cfd trace result, Run (checkVerb "JSAUPDATECONF ABC123".toList ⟨cfd, none⟩) trace (.ret result) →
      lease.Meets .start trace → (lease.after .start trace).failed = true →
      (lease.after .start trace).held = []) ↔
    ¬(4 ≤ (splitLine "JSAUPDATECONF ABC123".toList).2.length ∧
      Handler.doUpdateConfig.leaksLock (splitLine "JSAUPDATECONF ABC123".toList).2 = true) := by
  have hverb : (verbTab.find? fun va ↦
      va.verb = CString.toupper (splitLine "JSAUPDATECONF ABC123".toList).1) =
      some (verbAction "JSAUPDATECONF" .doUpdateConfig "*Update configuration" 1) := by
    decide +kernel
  exact no_lock_leaked_iff hverb

/-- The script of JSGETCONF takes the lock and fails; its wrapper only tells the client. -/
theorem jsgetconf_leaks_lock :
    ∃ trace result, Run (checkVerb "JSGETCONF ABC123".toList ⟨1, none⟩) trace (.ret result) ∧
      lease.Meets .start trace ∧ (lease.after .start trace).failed = true ∧
      (lease.after .start trace).held = [⟨"ABC".toList, 123⟩] := by
  have hverb : (verbTab.find? fun va ↦
      va.verb = CString.toupper (splitLine "JSGETCONF ABC123".toList).1) =
      some (verbAction "JSGETCONF" .doGetConfig "*Get router generated configuration" 1) := by
    decide +kernel
  obtain ⟨trace, result, hrun, hmeets, hleaked⟩ :=
    (may_leakLock hverb (by decide +kernel) (by decide +kernel)).exists_run
  refine ⟨trace, result, hrun, hmeets, ?_⟩
  rw [hleaked]
  exact ⟨rfl, rfl⟩

end Requests

end CoreEngine.Smsd
