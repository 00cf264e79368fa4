import CoreEngine.Smsd.LockRow

/-!
# Who releases the lock of an update

The low-level lock carries no owner. Scripts take it and release it, and so does `lockProv`; the five
wrappers that unlock the device when their script fails, and `lockProv` after `ALREADY_PROVLOCKED`,
release it without having looked whether it is theirs. A task is doomed from the point where it is
bound to release a lock that it does not hold.
-/

namespace CoreEngine.Smsd

open Interaction
open Procedure (lift Stable Triple triple_bind triple_ite triple_lift triple_call triple_pure)
open Program (Offers)
open Config (Reach)

/-- Whether a task holds the low-level lock, and whether it is doomed. -/
structure Updater where
  mine : Bool
  doomed : Bool
  deriving DecidableEq, Repr

/-- The task is bound to release the lock. -/
def Updater.release (updater : Updater) : Updater := { updater with doomed := !updater.mine }

/-- The lock is released only by a task that holds it or is doomed. -/
def updater (key : SdKey) : Monitor signature Updater where
  allow updater op := match op with
    | .sql _ (.unLock k) => k = key → updater.mine = true ∨ updater.doomed = true
    | .sql _ (.unLockAll _) => False
    | _ => True
  expect _ op answer := match op, answer with
    | .readShutdown, shutdownRequired => shutdownRequired = false
    | .sql _ _, reply => reply.ret = 0
    | _, _ => True
  next updater op answer := match op, answer with
    | .scriptStep, .call request =>
        if request.function = .smsSdUnlock then updater.release else updater
    | .scriptStep, .exit ret _ _ => if ret ≠ 0 then updater.release else updater
    | .phpReturn _, _ => { updater with doomed := false }
    | .sql _ (.setSDprovlock k provlock), _ =>
        if k = key ∧ provlock ≠ 0 then updater.release else updater
    | .sql _ (.setLock k), reply =>
        if k = key ∧ reply.output = okLocked then { updater with mine := true } else updater
    | .sql _ (.unLock k), _ => if k = key then ⟨false, false⟩ else updater
    | _, _ => updater

instance (key : SdKey) : Reliable (updater key) where
  allow_shutdown _ := trivial
  next_shutdown _ _ := rfl
  shutdown hanswer := hanswer
  sql hreply := hreply

namespace Updater

theorem ignores {key : SdKey} {op : Op} (hop : op.OnDatabase 0) : (updater key).Ignores op := by
  intro g
  cases op with
  | sql ctx query =>
    cases query <;> first | exact ⟨trivial, fun _ ↦ rfl⟩ | exact absurd hop (Nat.not_succ_le_zero _)
  | _ => first | exact ⟨trivial, fun _ ↦ rfl⟩ | exact hop.elim

/-- No assertion. -/
def Anyhow (_csp : Client) (_updater : Updater) : Prop := True

/-- The task may release the lock. -/
def Entitled (_csp : Client) (updater : Updater) : Prop :=
  updater.mine = true ∨ updater.doomed = true

theorem entitled_release (csp : Client) (updater : Updater) : Entitled csp updater.release := by
  cases hmine : updater.mine
  · exact Or.inr (by simp [release, hmine])
  · exact Or.inl hmine

section Disciplines

variable {key : SdKey}

theorem ignores_lookup (ctx : Ctx) (query : Sql) (hquery : query.isLookup = true) :
    (updater key).Ignores (.sql ctx query) := by
  cases query <;> first | exact fun _ ↦ ⟨trivial, fun _ ↦ rfl⟩ | cases hquery

theorem ignores_socket {op : Op} (hop : op.OnSocket) : (updater key).Ignores op := by
  cases op <;> first | exact hop.elim | exact fun _ ↦ ⟨trivial, fun _ ↦ rfl⟩

instance : ContextDiscipline (updater key) Anyhow :=
  contextDiscipline_of_ignores (fun _ ↦ ignores) (fun _ _ _ hany ↦ hany) ignores_lookup

instance : SocketDiscipline (updater key) Anyhow :=
  socketDiscipline_of_ignores (fun _ ↦ ignores_socket) fun _ _ _ hany ↦ hany

instance : ReplyDiscipline (updater key) Anyhow :=
  replyDiscipline_of_ignores fun _ ↦ ⟨trivial, fun _ ↦ rfl⟩

instance {inv : Client → Updater → Prop} : StackDiscipline (updater key) inv :=
  stackDiscipline_of_ignores fun _ ↦ ⟨trivial, fun _ ↦ rfl⟩

instance : PlainDiscipline (updater key) Entitled :=
  plainDiscipline_of_ignores fun _ hop ↦ ignores hop.onDatabase

instance : SocketDiscipline (updater key) Entitled :=
  socketDiscipline_of_ignores (fun _ ↦ ignores_socket) fun _ _ _ hentitled ↦ hentitled

instance : ReplyDiscipline (updater key) Entitled :=
  replyDiscipline_of_ignores fun _ ↦ ⟨trivial, fun _ ↦ rfl⟩

end Disciplines

section Functions

variable {key : SdKey} {ctx : Ctx} {g : Updater}

theorem triple_unlockSD :
    Triple (updater key) Entitled (unlockSD key) fun _ ↦ Anyhow := by
  have hbody (ctx : Ctx) (g : Updater) (hentitled : g.mine = true ∨ g.doomed = true) :
      (haSmssqlUnLock ctx key).Safe (updater key) (fun _ _ ↦ True) g :=
    safe_ha (fun _ ↦ hentitled) fun _ _ _ ↦ trivial
  refine triple_bind (triple_borrowDbCtx_of_ignores (fun _ ↦ ignores) hbody) fun reply ↦ ?_
  exact triple_pure _ fun _ _ _ ↦ trivial

theorem safe_lockProvOn : (lockProvOn ctx key).Safe (updater key) (fun _ _ ↦ True) g := by
  have hset (g : Updater) : Program.Safe (updater key) (do
      let set ← haSmssqlSetSDprovlock ctx key 1
      if set.ret ≠ 0 then pure set.ret else do
        let _ ← haSmssqlUnLock ctx key
        pure set.ret) (fun _ _ ↦ True) g := by
    rw [Program.safe_bind]
    refine safe_ha trivial fun set _ hret ↦ ?_
    have hnext : (updater key).next g (.sql ctx (.setSDprovlock key 1)) set = g.release :=
      if_pos ⟨rfl, by decide⟩
    rw [if_neg (not_not.2 hret), Program.safe_bind, hnext]
    exact safe_ha (fun _ ↦ entitled_release ⟨0, none⟩ g) fun _ _ _ ↦ trivial
  unfold lockProvOn
  rw [Program.safe_bind]
  refine safe_ha trivial fun provlock _ hret ↦ ?_
  rw [if_neg (not_not.2 hret), Program.safe_bind]
  refine safe_ha trivial fun _ _ _ ↦ ?_
  split
  · trivial
  · rw [Program.safe_bind]
    refine safe_haSmssqlSetLock trivial (fun seen _ ↦ hset _) fun g' _ ↦ ⟨trivial, fun lockState _ ↦ ?_⟩
    rw [if_neg (by simp)]
    split
    · trivial
    · exact hset _

theorem triple_lockProv : Triple (updater key) Anyhow (lockProv key) fun _ ↦ Anyhow :=
  triple_borrowDbCtx_of_ignores (fun _ ↦ ignores) fun _ _ _ ↦ safe_lockProvOn

theorem triple_lockSD : Triple (updater key) Anyhow (lockSD key) fun _ ↦ Anyhow := by
  have hbody (ctx : Ctx) (g : Updater) (_ : True) :
      (lockSDOn ctx key).Safe (updater key) (fun _ _ ↦ True) g :=
    safe_haSmssqlSetLock trivial (fun _ _ ↦ trivial) fun _ _ ↦ ⟨trivial, fun _ _ ↦ trivial⟩
  refine triple_bind (triple_borrowDbCtx_of_ignores (fun _ ↦ ignores) hbody) fun reply ↦ ?_
  exact Stable.triple

theorem triple_unlockProv : Triple (updater key) Anyhow (unlockProv key) fun _ ↦ Anyhow := by
  have hbody (ctx : Ctx) (g : Updater) (_ : True) :
      (unlockProvOn ctx key).Safe (updater key) (fun _ _ ↦ True) g := by
    refine ⟨trivial, fun dbCust _ ↦ ?_⟩
    show Program.Safe (updater key) (haSmssqlSetSDprovlock ctx key 0 >>= _) _ g
    rw [Program.safe_bind]
    refine safe_ha trivial fun _ _ _ ↦ ?_
    rw [Program.safe_bind]
    exact safe_ha trivial fun _ _ _ ↦ trivial
  refine triple_bind (triple_borrowDbCtx_of_ignores (fun _ ↦ ignores) hbody) fun result ↦ ?_
  have hrelease : Stable (updater key) Anyhow (lift (releaseCtx (some result.2))) :=
    stable_ask_of_ignores (ignores trivial)
  exact triple_bind hrelease.triple fun _ ↦ triple_pure _ fun _ _ hany ↦ hany

end Functions

section Scripts

variable {key : SdKey}

/-- A script that calls `sms_sd_unlock` holds the lock or is doomed. -/
def Calling (request : PhpCall) (csp : Client) (g : Updater) : Prop :=
  request.function = .smsSdUnlock → Entitled csp g

theorem triple_callPhp (request : PhpCall) (csp : Bool) {info : Option SdInfo}
    (hinfo : ∀ info' ∈ info, info'.sd.key = key) :
    Triple (updater key) (Calling request) (callPhp csp info request.function) fun _ ↦ Anyhow := by
  have hany {procedure : M Int} (htriple : Triple (updater key) Anyhow procedure fun _ ↦ Anyhow) :
      Triple (updater key) (Calling request) procedure fun _ ↦ Anyhow :=
    htriple.conseq (fun _ _ _ ↦ trivial) fun _ _ _ hany ↦ hany
  refine Smsd.triple_callPhp csp hinfo (fun _ _ _ ↦ trivial) (fun _ ↦ hany triple_lockSD)
    (fun hunlock ↦ ?_) (fun _ ↦ hany triple_lockProv) fun _ ↦ hany triple_unlockProv
  exact triple_unlockSD.conseq (fun _ _ hcalling ↦ hcalling hunlock) fun _ _ _ hany ↦ hany

/-- A script that fails leaves a task that may release the lock. -/
theorem triple_script {script : Script} (hscript : ∀ info ∈ script.sdInfo, info.sd.key = key) :
    Triple (updater key) Anyhow (smsModPhpExecuteScript script) fun exit csp g ↦
      exit.ret ≠ 0 → Entitled csp g := by
  have hask {op : Op} (hallow : ∀ g, (updater key).allow g op) :
      Triple (updater key) Anyhow (lift (ask op)) fun _ ↦ Anyhow :=
    triple_call (fun _ g _ ↦ hallow g) fun _ _ _ _ _ ↦ trivial
  have hstep : Triple (updater key) Anyhow (lift (ask .scriptStep)) fun step csp g ↦
      step.elim (Calling · csp g) fun exit ↦ exit.ret ≠ 0 → Entitled csp g := by
    refine triple_call (fun _ _ _ ↦ trivial) fun csp g step _ _ ↦ ?_
    cases step with
    | call request =>
      intro hunlock
      show Entitled csp (if request.function = .smsSdUnlock then g.release else g)
      rw [if_pos hunlock]
      exact entitled_release csp g
    | exit ret returnBuf outputBuf =>
      intro hret
      show Entitled csp (if ret ≠ 0 then g.release else g)
      rw [if_pos hret]
      exact entitled_release csp g
  refine triple_executeScript (hask fun _ ↦ trivial) hstep (fun request ↦ ?_)
    fun value ↦ hask fun _ ↦ trivial
  exact triple_callPhp request _ fun info hinfo ↦ hscript info (mem_of_request hinfo)

theorem triple_runScript {script : Script} {failed : Int → M Unit}
    (hscript : ∀ info ∈ script.sdInfo, info.sd.key = key)
    (hfailed : ∀ ret, Triple (updater key) Entitled (failed ret) fun _ ↦ Anyhow) :
    Triple (updater key) Anyhow (runScript script failed) fun _ ↦ Anyhow := by
  refine triple_bind (triple_script hscript) fun exit ↦ triple_ite (fun hret ↦ ?_)
    fun _ ↦ triple_pure _ fun _ _ _ ↦ trivial
  refine triple_bind ((hfailed exit.ret).conseq (fun _ _ hentitled ↦ hentitled hret)
    fun _ _ _ hany ↦ hany) fun _ ↦ ?_
  exact triple_pure _ fun _ _ hany ↦ hany

theorem triple_replyFailureAndUnlock {info : SdInfo} (hinfo : info.sd.key = key) (ret : Int) :
    Triple (updater key) Entitled (replyFailureAndUnlock info ret) fun _ ↦ Anyhow := by
  subst hinfo
  exact triple_bind Stable.triple fun _ ↦ triple_bind triple_unlockSD fun _ ↦
    triple_pure _ fun _ _ hany ↦ hany

end Scripts

end Updater

/-- What a task does on the device: `lockProv`, or one of the wrappers that unlock the device when
their script fails. The scripts call `lockSD` and `unlockSD` (`sms_sd_lock`, `sms_sd_unlock`). -/
inductive UpdateStep
  | lockProv
  | updateConf
  | initialProvisioning (ipaddr login passwd adminpasswd : CString)
  | restoreConf (revisionId msg : CString)
  | execScript (script : CString) (synchronous : Bool)
  | smsCmd (cmd : CString) (optionalParams : Option CString)
  deriving DecidableEq, Repr

def UpdateStep.run (info : SdInfo) : UpdateStep → M Int
  | .lockProv => Smsd.lockProv info.sd.key
  | .updateConf => genericUpdateConf info
  | .initialProvisioning ipaddr login passwd adminpasswd =>
      genericInitialProvisioning info ipaddr login passwd adminpasswd
  | .restoreConf revisionId msg => genericRestoreConf info revisionId msg
  | .execScript script synchronous => genericExecScript info script synchronous
  | .smsCmd cmd optionalParams => genericSmsCmd info cmd optionalParams

def UpdateStep.runAll (info : SdInfo) : List UpdateStep → M Unit
  | [] => pure ()
  | step :: steps => do
      let _ ← step.run info
      runAll info steps

section Steps

open Updater

variable {key : SdKey} {info : SdInfo}

theorem triple_run (hinfo : info.sd.key = key) (step : UpdateStep) :
    Triple (updater key) Anyhow (step.run info) fun _ ↦ Anyhow := by
  cases step with
  | lockProv =>
    subst hinfo
    exact triple_lockProv
  | updateConf =>
    refine triple_runScript (key_of_mem_sdInfo hinfo ?_) (triple_replyFailureAndUnlock hinfo)
    simp [deviceScript]
  | initialProvisioning ipaddr login passwd adminpasswd =>
    refine triple_runScript (key_of_mem_sdInfo hinfo ?_) (triple_replyFailureAndUnlock hinfo)
    simp [deviceScript, str]
  | restoreConf revisionId msg =>
    refine triple_bind (triple_configType info.sd) fun type ↦ ?_
    rintro csp g ⟨⟨value, rfl⟩, -⟩
    refine triple_runScript (key_of_mem_sdInfo hinfo ?_) (triple_replyFailureAndUnlock hinfo)
      csp g trivial
    simp [deviceScript, str]
  | execScript script synchronous =>
    have hunlock (_ : Int) : Triple (updater key) Entitled (do
        let _ ← unlockSD info.sd.key
        pure () : M Unit) fun _ ↦ Anyhow := by
      rw [hinfo]
      exact triple_bind triple_unlockSD fun _ ↦ triple_pure _ fun _ _ hany ↦ hany
    refine triple_runScript (key_of_mem_sdInfo hinfo ?_) hunlock
    simp [deviceScript, str]
  | smsCmd cmd optionalParams =>
    refine triple_runScript (key_of_mem_sdInfo hinfo ?_) (triple_replyFailureAndUnlock hinfo)
    simp [str]

theorem triple_runAll (hinfo : info.sd.key = key) (steps : List UpdateStep) :
    Triple (updater key) Anyhow (UpdateStep.runAll info steps) fun _ ↦ Anyhow := by
  induction steps with
  | nil => exact triple_pure _ fun _ _ hany ↦ hany
  | cons step steps ih => exact triple_bind (triple_run hinfo step) fun _ ↦ ih

end Steps

section Concurrency

variable {ι : Type} [DecidableEq ι] {key : SdKey}

/-- A task becomes doomed only while nobody holds the lock, and nobody takes the lock while another
task is doomed. -/
def nobodyRobbed (key : SdKey) : Guard signature ι (LockRow ι) Updater := fun row updaters i op answer ↦
  match op, answer with
  | .scriptStep, .call request => request.function = .smsSdUnlock →
      (updaters i).mine = true ∨ row.holder = none
  | .scriptStep, .exit ret _ _ => ret ≠ 0 → (updaters i).mine = true ∨ row.holder = none
  | .sql _ (.setSDprovlock k provlock), _ => k = key → provlock ≠ 0 →
      (updaters i).mine = true ∨ row.holder = none
  | .sql _ (.setLock k), _ => k = key → row.holder = none →
      ∀ j, j ≠ i → (updaters j).doomed = false
  | _, _ => True

/-- Every task has its steps to do on the device, and none holds the lock. -/
def updaters (infos : ι → SdInfo) (csps : ι → Client) (steps : ι → List UpdateStep) (provLock : Int) :
    Config signature ι (LockRow ι) Updater (Unit × Client) :=
  ⟨⟨provLock, none⟩, fun _ ↦ ⟨false, false⟩, fun i ↦ UpdateStep.runAll (infos i) (steps i) (csps i)⟩

/-- A task knows whether it holds the lock, and a doomed one takes it from nobody. -/
structure LockOwned (holder : Option ι) (updaters : ι → Updater) : Prop where
  mine_iff : ∀ i, (updaters i).mine = true ↔ holder = some i
  doomed : ∀ i, (updaters i).doomed = true → ∀ j, holder = some j → j = i

namespace LockOwned

variable {holder : Option ι} {updaters : ι → Updater} {i : ι}

/-- A step that leaves the row and the task's hold on the lock alone. -/
theorem keep (howned : LockOwned holder updaters) {g : Updater} (hmine : g.mine = (updaters i).mine)
    (hdoomed : g.doomed = true → ∀ j, holder = some j → j = i) :
    LockOwned holder (Function.update updaters i g) := by
  refine ⟨fun j ↦ ?_, fun j hj ↦ ?_⟩
  · by_cases hij : j = i
    · subst hij
      rw [Function.update_self, hmine]
      exact howned.mine_iff j
    · rw [Function.update_of_ne hij]
      exact howned.mine_iff j
  · by_cases hij : j = i
    · subst hij
      rw [Function.update_self] at hj
      exact hdoomed hj
    · rw [Function.update_of_ne hij] at hj
      exact howned.doomed j hj

theorem same (howned : LockOwned holder updaters) :
    LockOwned holder (Function.update updaters i (updaters i)) :=
  howned.keep rfl (howned.doomed i)

/-- A task that is bound to release the lock, while it holds it or nobody does. -/
theorem release (howned : LockOwned holder updaters)
    (hguard : (updaters i).mine = true ∨ holder = none) :
    LockOwned holder (Function.update updaters i (updaters i).release) := by
  refine howned.keep rfl fun hdoomed j hholder ↦ ?_
  rcases hguard with hmine | hfree
  · simp [Updater.release, hmine] at hdoomed
  · rw [hfree] at hholder
    cases hholder

theorem take (howned : LockOwned holder updaters) (hfree : holder = none)
    (hguard : ∀ j, j ≠ i → (updaters j).doomed = false) :
    LockOwned (some i)
      (Function.update updaters i { updaters i with mine := true }) := by
  refine ⟨fun j ↦ ?_, fun j hj ↦ ?_⟩
  · by_cases hij : j = i
    · subst hij
      simp
    · rw [Function.update_of_ne hij]
      have hnot : (updaters j).mine ≠ true := fun hmine ↦ by
        rw [(howned.mine_iff j).1 hmine] at hfree
        cases hfree
      simp [hnot, Ne.symm hij]
  · by_cases hij : j = i
    · subst hij
      intro k hk
      exact (Option.some.inj hk).symm
    · rw [Function.update_of_ne hij, hguard j hij] at hj
      cases hj

omit [DecidableEq ι] in
theorem holder_eq (howned : LockOwned holder updaters)
    (hallow : (updaters i).mine = true ∨ (updaters i).doomed = true) {j : ι}
    (hholder : holder = some j) : j = i := by
  rcases hallow with hmine | hdoomed
  · rw [(howned.mine_iff i).1 hmine] at hholder
    exact (Option.some.inj hholder).symm
  · exact howned.doomed i hdoomed j hholder

theorem drop (howned : LockOwned holder updaters)
    (hallow : (updaters i).mine = true ∨ (updaters i).doomed = true) :
    LockOwned none (Function.update updaters i ⟨false, false⟩) := by
  refine ⟨fun j ↦ ?_, fun j _ k hk ↦ nomatch hk⟩
  by_cases hij : j = i
  · subst hij
    simp
  · rw [Function.update_of_ne hij]
    have hnot : (updaters j).mine ≠ true := fun hmine ↦
      hij (howned.holder_eq hallow ((howned.mine_iff j).1 hmine))
    simp [hnot]

theorem step {row row' : LockRow ι} {op : Op} {answer : op.Answer}
    (howned : LockOwned row.holder updaters) (hallow : (updater key).allow (updaters i) op)
    (htable : lockTable key row i op answer row')
    (hguard : nobodyRobbed key row updaters i op answer) :
    LockOwned row'.holder
      (Function.update updaters i ((updater key).next (updaters i) op answer)) := by
  obtain ⟨hanswers, rfl⟩ := htable
  cases op with
  | scriptStep =>
    cases answer with
    | call request =>
      show LockOwned row.holder (Function.update updaters i
        (if request.function = .smsSdUnlock then (updaters i).release else updaters i))
      split
      · exact howned.release (hguard ‹_›)
      · exact howned.same
    | exit ret returnBuf outputBuf =>
      show LockOwned row.holder (Function.update updaters i
        (if ret ≠ 0 then (updaters i).release else updaters i))
      split
      · exact howned.release (hguard ‹_›)
      · exact howned.same
  | phpReturn value => exact howned.keep rfl nofun
  | sql ctx query =>
    cases query with
    | setSDprovlock k provlock =>
      show LockOwned (row.call key i (.setSDprovlock k provlock)).holder (Function.update updaters i
        (if k = key ∧ provlock ≠ 0 then (updaters i).release else updaters i))
      rw [LockRow.holder_setSDprovlock]
      split
      · next hset => exact howned.release (hguard hset.1 hset.2)
      · exact howned.same
    | setLock k =>
      show LockOwned (row.call key i (.setLock k)).holder (Function.update updaters i
        (if k = key ∧ answer.output = okLocked then { updaters i with mine := true } else updaters i))
      by_cases hkey : k = key
      · subst hkey
        have houtput := hanswers.2 rfl
        rw [LockRow.call_setLock]
        cases hholder : row.holder with
        | none =>
          rw [hholder] at houtput howned
          rw [if_pos ⟨rfl, houtput⟩]
          exact howned.take rfl (hguard rfl hholder)
        | some j =>
          have hlocked : answer.output = alreadyLocked := by simpa [hholder] using houtput
          have hnot : ¬(k = k ∧ answer.output = okLocked) := by
            rw [hlocked]
            nofun
          rw [if_neg hnot, Option.some_or, ← hholder]
          exact howned.same
      · rw [LockRow.call, if_neg hkey, if_neg fun hboth ↦ hkey hboth.1]
        exact howned.same
    | unLock k =>
      show LockOwned (row.call key i (.unLock k)).holder (Function.update updaters i
        (if k = key then ⟨false, false⟩ else updaters i))
      by_cases hkey : k = key
      · subst hkey
        rw [LockRow.call_unLock, if_pos rfl]
        exact howned.drop (hallow rfl)
      · rw [LockRow.call, if_neg hkey, if_neg hkey]
        exact howned.same
    | unLockAll message => exact hallow.elim
    | _ => exact howned.same
  | _ => exact howned.same

end LockOwned

omit [DecidableEq ι] in
theorem Updater.expect_of_lockTable {row row' : LockRow ι} {i : ι} {op : Op} {answer : op.Answer}
    {g : Updater} (htable : lockTable key row i op answer row') :
    (updater key).expect g op answer := by
  obtain ⟨hanswers, -⟩ := htable
  cases op with
  | readShutdown => exact hanswers
  | sql ctx query => exact hanswers.1
  | _ => trivial

/-- In every run in which no task becomes doomed while another one holds the lock, and none takes the
lock while another one is doomed, the lock is released only by the task that took it, and no two
tasks hold it. -/
theorem lock_released_by_holder {infos : ι → SdInfo} {csps : ι → Client}
    {steps : ι → List UpdateStep} {provLock : Int} (hinfos : ∀ i, (infos i).sd.key = key)
    {config : Config signature ι (LockRow ι) Updater (Unit × Client)}
    (hreach : Reach (lockTable key) (updater key) (nobodyRobbed key)
      (updaters infos csps steps provLock) config) :
    (∀ i ctx next, Offers (config.tasks i) (.sql ctx (.unLock key)) next →
      ∀ j, config.shared.holder = some j → j = i) ∧
    ∀ i j, (config.ghosts i).mine = true → (config.ghosts j).mine = true → i = j := by
  let inv (row : LockRow ι) (updaters : ι → Updater) : Prop := LockOwned row.holder updaters
  have hinvariant : inv config.shared config.ghosts ∧
      ∀ i, (config.tasks i).Safe (updater key) (fun _ _ ↦ True) (config.ghosts i) := by
    refine hreach.invariant ?_ ?_ ⟨fun _ ↦ ⟨nofun, nofun⟩, nofun⟩ fun i ↦ ?_
    · intro row updaters i op answer row' _ htable _
      exact Updater.expect_of_lockTable htable
    · intro row updaters i op answer row' howned hallow htable hguard
      exact howned.step hallow htable hguard
    · exact triple_runAll (hinfos i) (steps i) (csps i) _ trivial
  obtain ⟨howned, hsafe⟩ := hinvariant
  refine ⟨fun i ctx next hoffers j hholder ↦ ?_, fun i j hi hj ↦ ?_⟩
  · exact howned.holder_eq ((hoffers.safe (hsafe i)).1 rfl) hholder
  · have hholder := (howned.mine_iff i).1 hi
    rw [(howned.mine_iff j).1 hj] at hholder
    exact (Option.some.inj hholder).symm

/-- A test for `nobodyRobbed` that does not look at the answer. -/
def nobodyDoomed (state : LockRow (Fin 2) × Sim) (updaters : Fin 2 → Updater) (i : Fin 2) : Op → Bool
  | .scriptStep => (updaters i).mine = true ∨ state.1.holder = none
  | .sql _ (.setSDprovlock _ _) => (updaters i).mine = true ∨ state.1.holder = none
  | .sql _ (.setLock _) => ∀ j, j ≠ i → (updaters j).doomed = false
  | _ => true

theorem nobodyRobbed_of_nobodyDoomed (key : SdKey) (state : LockRow (Fin 2) × Sim)
    (updaters : Fin 2 → Updater) (i : Fin 2) (op : Op) (answer : op.Answer)
    (hcheck : nobodyDoomed state updaters i op = true) :
    nobodyRobbed key state.1 updaters i op answer := by
  cases op with
  | scriptStep => cases answer <;> exact fun _ ↦ of_decide_eq_true hcheck
  | sql ctx query =>
    cases query with
    | setSDprovlock k provlock => exact fun _ _ ↦ of_decide_eq_true hcheck
    | setLock k => exact fun _ _ ↦ of_decide_eq_true hcheck
    | _ => trivial
  | _ => trivial

/-- The first task locks the device for provisioning; the second one runs a script that locks and
unlocks the device. -/
def provAndUpdate (i : Fin 2) : List UpdateStep :=
  if i = 0 then [.lockProv] else [.execScript "file".toList true]

def provAndUpdateStart : Config signature (Fin 2) (LockRow (Fin 2) × Sim) Updater (Unit × Client) :=
  ⟨(⟨0, none⟩, Sim.single [] [Sim.call .smsSdLock, Sim.call .smsSdUnlock]),
    fun _ ↦ ⟨false, false⟩, fun i ↦ UpdateStep.runAll Sim.plainDevice (provAndUpdate i) ⟨-1, none⟩⟩

/-- While the script holds the lock, `lockProv` looks at the device. It goes on when the script has
released the lock, and sets `sd_prov_lock` under the lock that it releases then. -/
theorem lock_released_by_holder_lockProv :
    ∃ (config : Config signature (Fin 2) (LockRow (Fin 2)) Updater (Unit × Client)) (ctx : Ctx)
      (next : Reply Unit → Code (Unit × Client)),
      Reach (lockTable Sim.plainDevice.sd.key) (updater Sim.plainDevice.sd.key)
        (nobodyRobbed Sim.plainDevice.sd.key)
        (updaters (fun _ ↦ Sim.plainDevice) (fun _ ↦ ⟨-1, none⟩) provAndUpdate 0) config ∧
      Offers (config.tasks 0) (.sql ctx (.unLock Sim.plainDevice.sd.key)) next ∧
      config.shared = ⟨1, some 0⟩ ∧ ∀ j, config.shared.holder = some j → j = 0 := by
  let run := Config.run (updater Sim.plainDevice.sd.key)
    (LockRow.respond Sim.plainDevice.sd.key Fin.val) nobodyDoomed 3
    (List.replicate 9 1 ++ List.replicate 6 0 ++ List.replicate 4 1 ++ List.replicate 7 0)
    provAndUpdateStart
  have hrun : (run.bind fun config ↦ (Config.offer 3 (config.tasks 0)).map
      fun offered ↦ (offered.1, config.shared.1)) =
      some (.sql ⟨.sms, 0⟩ (.unLock Sim.plainDevice.sd.key), ⟨1, some 0⟩) := by
    decide +kernel
  obtain ⟨config, hconfig, hoffered⟩ := Option.bind_eq_some_iff.1 hrun
  obtain ⟨⟨op, next⟩, hoffer, hpair⟩ := Option.map_eq_some_iff.1 hoffered
  obtain ⟨hop, hrow⟩ := Prod.mk.inj hpair
  obtain rfl : op = _ := hop
  have hreach := LockRow.reach_of_run (nobodyRobbed_of_nobodyDoomed Sim.plainDevice.sd.key) hconfig
  have hoffers := Config.offers_of_offer hoffer
  refine ⟨_, _, next, hreach, hoffers, hrow, ?_⟩
  exact (lock_released_by_holder (fun _ ↦ rfl) hreach).1 0 _ next hoffers

/-- Two tasks run a script of the device. Both scripts take the lock; the second one ends with the
error when it cannot. -/
def twoUpdates : Sim :=
  { Sim.single [] [] with
    steps := fun i ↦ if i = 0 then [Sim.call .smsSdLock, .exit 1 none none]
      else [Sim.call .smsSdLock, .exit errSdLock none none] }

def twoUpdatesStart : Config signature (Fin 2) (LockRow (Fin 2) × Sim) Updater (Unit × Client) :=
  ⟨(⟨0, none⟩, twoUpdates), fun _ ↦ ⟨false, false⟩,
    fun _ ↦ UpdateStep.runAll Sim.plainDevice [.execScript "file".toList true] ⟨-1, none⟩⟩

/-- The wrapper of the second script unlocks the device, which the first task holds. -/
theorem lock_released_by_other :
    ∃ (config : Config signature (Fin 2) (LockRow (Fin 2)) Updater (Unit × Client)) (ctx : Ctx)
      (next : Reply Unit → Code (Unit × Client)),
      Reach (lockTable Sim.plainDevice.sd.key) (updater Sim.plainDevice.sd.key)
        (fun _ _ _ _ _ ↦ True)
        (updaters (fun _ ↦ Sim.plainDevice) (fun _ ↦ ⟨-1, none⟩)
          (fun _ ↦ [.execScript "file".toList true]) 0) config ∧
      Offers (config.tasks 1) (.sql ctx (.unLock Sim.plainDevice.sd.key)) next ∧
      config.shared.holder = some 0 := by
  let run := Config.run (updater Sim.plainDevice.sd.key)
    (LockRow.respond Sim.plainDevice.sd.key Fin.val) (fun _ _ _ _ ↦ true) 2
    (List.replicate 10 0 ++ List.replicate 12 1) twoUpdatesStart
  have hrun : (run.bind fun config ↦ (Config.offer 2 (config.tasks 1)).map
      fun offered ↦ (offered.1, config.shared.1.holder)) =
      some (.sql ⟨.sms, 0⟩ (.unLock Sim.plainDevice.sd.key), some 0) := by
    decide +kernel
  obtain ⟨config, hconfig, hoffered⟩ := Option.bind_eq_some_iff.1 hrun
  obtain ⟨⟨op, next⟩, hoffer, hpair⟩ := Option.map_eq_some_iff.1 hoffered
  obtain ⟨hop, hholder⟩ := Prod.mk.inj hpair
  obtain rfl : op = _ := hop
  exact ⟨_, _, next, LockRow.reach_of_run (fun _ _ _ _ _ _ ↦ trivial) hconfig,
    Config.offers_of_offer hoffer, hholder⟩

end Concurrency

end CoreEngine.Smsd
