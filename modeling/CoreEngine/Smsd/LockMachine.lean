import CoreEngine.Smsd.LockRow

/-!
# The two locks as one machine

Called one at a time, the four lock functions behave like a machine with four states: a new device, a
device locked for provisioning, an idle one, and one that is being updated. The row of the database
is a function of that state, so the low-level lock is never set on a device that is locked for
provisioning.
-/

namespace CoreEngine.Smsd

open Interaction
open Procedure (lift)
open Program (Run Total total_bind total_ret total_perform)

/-- The lock functions. -/
inductive LockOp
  | lockSD
  | unlockSD
  | lockProv
  | unlockProv
  deriving DecidableEq, Repr

def LockOp.run (key : SdKey) : LockOp → M Int
  | .lockSD => Smsd.lockSD key
  | .unlockSD => Smsd.unlockSD key
  | .lockProv => Smsd.lockProv key
  | .unlockProv => Smsd.unlockProv key

/-- One call after the other, with their return codes. -/
def LockOp.runAll (key : SdKey) : List LockOp → M (List Int)
  | [] => pure []
  | op :: ops => do
      let ret ← op.run key
      let rets ← runAll key ops
      pure (ret :: rets)

section Machine

inductive LockMode
  | new
  | provisioning
  | idle
  | updating
  deriving DecidableEq, Repr

namespace LockMode

/-- The return code of a call, and the state after it. -/
def step : LockMode → LockOp → Int × LockMode
  | .idle, .lockSD => (0, .updating)
  | .updating, .lockSD => (errSdLock, .updating)
  | mode, .lockSD => (errSdProvlock, mode)
  | .updating, .unlockSD => (0, .idle)
  | mode, .unlockSD => (0, mode)
  | .updating, .lockProv => (errSdLock, .updating)
  | _, .lockProv => (0, .provisioning)
  | .updating, .unlockProv => (0, .updating)
  | _, .unlockProv => (0, .idle)

def steps : LockMode → List LockOp → List Int × LockMode
  | mode, [] => ([], mode)
  | mode, op :: ops =>
      ((mode.step op).1 :: ((mode.step op).2.steps ops).1, ((mode.step op).2.steps ops).2)

/-- The row of a device in the given state; there is only one caller. -/
def row : LockMode → LockRow Unit
  | .new => ⟨-1, none⟩
  | .provisioning => ⟨1, none⟩
  | .idle => ⟨0, none⟩
  | .updating => ⟨0, some ()⟩

/-- Between calls the low-level lock is never set while the device is locked for provisioning. -/
theorem provLock_row (mode : LockMode) (hlocked : mode.row.holder.isSome = true) :
    mode.row.provLock = 0 := by
  cases mode <;> first | rfl | cases hlocked

end LockMode

end Machine

/-- The row answers, and moves with every call. -/
def lockRow (key : SdKey) : Monitor signature (LockRow Unit) where
  allow _ _ := True
  expect row op answer := row.Answers key op answer
  next row op _ := row.apply key () op

instance (key : SdKey) : Reliable (lockRow key) where
  allow_shutdown _ := trivial
  next_shutdown _ _ := rfl
  shutdown hanswer := hanswer
  sql hreply := hreply.1

section Total

variable {α : Type} {key : SdKey} {row : LockRow Unit} {ctx : Ctx} {csp : Client}

theorem total_retry {query : Sql} {db : Db} {post : Reply query.Output → LockRow Unit → Prop}
    (output : query.Output) (houtput : row.Outputs key query output)
    (hpost : ∀ output, row.Outputs key query output → post ⟨0, output⟩ (row.call key () query)) :
    Total (lockRow key) (retry ctx db query) post row := by
  constructor
  · refine safe_retry trivial ?_
    rintro ⟨ret, output⟩ hreply hret
    obtain rfl : ret = 0 := hret
    exact hpost output hreply.2
  · exact Program.may_loop ⟨⟨0, output⟩, ⟨rfl, houtput⟩, trivial⟩

theorem total_readShutdown {yes no : Code α} {post : α → LockRow Unit → Prop}
    (hno : Total (lockRow key) no post row) :
    Total (lockRow key) (readShutdown >>= fun shutdownRequired ↦
      if shutdownRequired then yes else no) post row :=
  ⟨safe_readShutdown hno.safe, false, rfl, hno.may⟩

theorem total_ha {query : Sql} {db : Db} {initial : query.Output}
    {post : Reply query.Output → LockRow Unit → Prop}
    (output : query.Output) (houtput : row.Outputs key query output)
    (hpost : ∀ output, row.Outputs key query output → post ⟨0, output⟩ (row.call key () query)) :
    Total (lockRow key) (ha ctx db query initial) post row :=
  total_readShutdown (total_retry output houtput hpost)

theorem total_haSmssqlGetSDprovlock {post : Reply Int → LockRow Unit → Prop}
    (hpost : post ⟨0, row.provLock⟩ row) :
    Total (lockRow key) (haSmssqlGetSDprovlock ctx key) post row := by
  refine total_ha row.provLock (fun _ ↦ rfl) fun output houtput ↦ ?_
  rw [houtput rfl]
  exact hpost

theorem total_haSmssqlSetSDprovlock {provlock : Int} {post : Reply Unit → LockRow Unit → Prop}
    (hpost : post ⟨0, ()⟩ { row with provLock := provlock }) :
    Total (lockRow key) (haSmssqlSetSDprovlock ctx key provlock) post row := by
  refine total_ha () trivial fun _ _ ↦ ?_
  rw [LockRow.call_setSDprovlock]
  exact hpost

theorem total_haSmssqlUnLock {post : Reply Unit → LockRow Unit → Prop}
    (hpost : post ⟨0, ()⟩ { row with holder := none }) :
    Total (lockRow key) (haSmssqlUnLock ctx key) post row := by
  refine total_ha () trivial fun _ _ ↦ ?_
  rw [LockRow.call_unLock]
  exact hpost

theorem total_haSmssqlSetSdDown {post : Reply Unit → LockRow Unit → Prop} (hpost : post ⟨0, ()⟩ row) :
    Total (lockRow key) (haSmssqlSetSdDown ctx key) post row :=
  total_ha () trivial fun _ _ ↦ hpost

theorem total_haSmssqlSetProvDate {post : Reply Unit → LockRow Unit → Prop}
    (hpost : post ⟨0, ()⟩ row) : Total (lockRow key) (haSmssqlSetProvDate ctx key) post row :=
  total_ha () trivial fun _ _ ↦ hpost

/-- The state of the lock that `HA_SMSSQL_SetLock` reports. -/
def LockRow.lockState (row : LockRow Unit) : Int :=
  if row.provLock ≠ 0 then alreadyProvlocked
  else if row.holder.isSome then alreadyLocked else okLocked

theorem total_haSmssqlSetLock {post : Reply Int → LockRow Unit → Prop}
    (hpost : post ⟨0, row.lockState⟩
      (if row.provLock ≠ 0 then row else ⟨row.provLock, row.holder.or (some ())⟩)) :
    Total (lockRow key) (haSmssqlSetLock ctx key) post row := by
  refine total_readShutdown (total_bind (total_haSmssqlGetSDprovlock ?_))
  by_cases hprov : row.provLock ≠ 0
  · rw [if_neg (by simp), if_pos hprov]
    rw [LockRow.lockState, if_pos hprov, if_pos hprov] at hpost
    exact total_ret hpost
  · rw [if_neg (by simp), if_neg hprov]
    rw [LockRow.lockState, if_neg hprov, if_neg hprov] at hpost
    refine total_retry _ (fun _ ↦ rfl) fun output houtput ↦ ?_
    rw [houtput rfl]
    simpa [LockRow.call] using hpost

theorem total_ask {op : Op} {post : op.Answer → LockRow Unit → Prop} (answer : op.Answer)
    (hanswer : row.Answers key op answer)
    (hpost : ∀ answer, row.Answers key op answer → post answer (row.apply key () op)) :
    Total (lockRow key) (ask op) post row :=
  total_perform trivial ⟨answer, hanswer⟩ hpost

theorem total_storeDbCtx {ctx : Option Ctx} {post : Unit × Client → LockRow Unit → Prop}
    (hpost : post ((), { csp with dbCtx := ctx }) row) :
    Total (lockRow key) (storeDbCtx ctx csp) post row :=
  Procedure.total_bind (total_ret (Procedure.total_bind (Procedure.total_lift
    (total_ask () trivial fun _ _ ↦ total_ret hpost))))

/-- Whether a context is borrowed or not makes no difference to the row. -/
theorem total_borrowDbCtx {borrower : Borrower} {body : Ctx → Code α}
    {post : α → LockRow Unit → Prop} (hbody : ∀ ctx, Total (lockRow key) (body ctx) post row) :
    Total (lockRow key) (borrowDbCtx borrower body csp) (fun result ↦ post result.1) row := by
  obtain ⟨cfd, dbCtx⟩ := csp
  refine Procedure.total_bind (total_ret ?_)
  cases dbCtx with
  | some ctx => exact Procedure.total_bind (total_ret (Procedure.total_lift (hbody ctx)))
  | none =>
    refine Procedure.total_bind (Procedure.total_lift (total_ask ⟨.sms, 0⟩ trivial fun ctx _ ↦ ?_))
    refine Procedure.total_bind (total_storeDbCtx (Procedure.total_bind (Procedure.total_lift ?_)))
    refine (hbody ctx).mono fun value row' hvalue ↦ ?_
    exact Procedure.total_bind (Procedure.total_lift (total_ask () trivial fun _ _ ↦ total_ret hvalue))

end Total

section Refinement

variable {key : SdKey} {ctx : Ctx} {csp : Client}

/-- A call returns what the machine returns, and takes the row where the machine goes. -/
def Follows (mode : LockMode) (op : LockOp) (result : Int × Client) (row : LockRow Unit) : Prop :=
  result.1 = (mode.step op).1 ∧ row = (mode.step op).2.row

theorem total_lockSD (mode : LockMode) :
    Total (lockRow key) (lockSD key csp) (Follows mode .lockSD) mode.row := by
  have hset (ctx : Ctx) : Total (lockRow key) (lockSDOn ctx key)
      (fun reply row ↦ reply = ⟨0, mode.row.lockState⟩ ∧ row = (mode.step .lockSD).2.row)
      mode.row := by
    refine total_haSmssqlSetLock ⟨rfl, ?_⟩
    cases mode <;> rfl
  refine Procedure.total_bind ((total_borrowDbCtx hset).mono ?_)
  rintro ⟨reply, csp⟩ row ⟨rfl, rfl⟩
  cases mode <;> exact total_ret ⟨rfl, rfl⟩

theorem total_unlockSD (mode : LockMode) :
    Total (lockRow key) (unlockSD key csp) (Follows mode .unlockSD) mode.row := by
  have hunlock (ctx : Ctx) : Total (lockRow key) (haSmssqlUnLock ctx key)
      (fun reply row ↦ reply = ⟨0, ()⟩ ∧ row = (mode.step .unlockSD).2.row) mode.row := by
    refine total_haSmssqlUnLock ⟨rfl, ?_⟩
    cases mode <;> rfl
  refine Procedure.total_bind ((total_borrowDbCtx hunlock).mono ?_)
  rintro ⟨reply, csp⟩ row ⟨rfl, rfl⟩
  cases mode <;> exact total_ret ⟨rfl, rfl⟩

theorem total_unlockProv (mode : LockMode) :
    Total (lockRow key) (unlockProv key csp) (Follows mode .unlockProv) mode.row := by
  have hunlock (ctx : Ctx) : Total (lockRow key) (unlockProvOn ctx key)
      (fun result row ↦ result.1 = 0 ∧ row = (mode.step .unlockProv).2.row) mode.row := by
    refine total_bind (total_ask ⟨.cust, 0⟩ trivial fun dbCust _ ↦ ?_)
    refine total_bind (total_haSmssqlSetSDprovlock (total_bind (total_haSmssqlSetProvDate ?_)))
    refine total_ret ⟨rfl, ?_⟩
    cases mode <;> rfl
  refine Procedure.total_bind ((total_borrowDbCtx hunlock).mono ?_)
  rintro ⟨⟨ret, dbCust⟩, csp⟩ row ⟨hret, rfl⟩
  refine Procedure.total_bind (Procedure.total_lift (total_ask () trivial fun _ _ ↦ total_ret ⟨?_, rfl⟩))
  rw [hret]
  cases mode <;> rfl

/-- The end of `lockProv`, from where it has, or has not, taken the low-level lock. -/
theorem total_lockProvOn_set {row : LockRow Unit} :
    Total (lockRow key) (do
      let set ← haSmssqlSetSDprovlock ctx key 1
      if set.ret ≠ 0 then pure set.ret else do
        let _ ← haSmssqlUnLock ctx key
        pure set.ret) (fun ret row ↦ ret = 0 ∧ row = ⟨1, none⟩) row :=
  total_bind (total_haSmssqlSetSDprovlock (total_bind (total_haSmssqlUnLock (total_ret ⟨rfl, rfl⟩))))

/-- A device that is new goes through `ALREADY_PROVLOCKED`: its low-level lock is not taken, and yet
released at the end. -/
theorem total_lockProv (mode : LockMode) :
    Total (lockRow key) (lockProv key csp) (Follows mode .lockProv) mode.row := by
  have hlock (ctx : Ctx) : Total (lockRow key) (lockProvOn ctx key) (fun ret row ↦
      ret = (mode.step .lockProv).1 ∧ row = (mode.step .lockProv).2.row) mode.row := by
    refine total_bind (total_haSmssqlGetSDprovlock ?_)
    rw [if_neg (by simp)]
    refine total_bind (total_haSmssqlSetSdDown ?_)
    cases mode with
    | provisioning => exact total_ret ⟨rfl, rfl⟩
    | updating => exact total_bind (total_haSmssqlSetLock (total_ret ⟨rfl, rfl⟩))
    | new => exact total_bind (total_haSmssqlSetLock total_lockProvOn_set)
    | idle => exact total_bind (total_haSmssqlSetLock total_lockProvOn_set)
  exact total_borrowDbCtx hlock

theorem total_run (mode : LockMode) (op : LockOp) :
    Total (lockRow key) (op.run key csp) (Follows mode op) mode.row := by
  cases op with
  | lockSD => exact total_lockSD mode
  | unlockSD => exact total_unlockSD mode
  | lockProv => exact total_lockProv mode
  | unlockProv => exact total_unlockProv mode

theorem total_runAll (mode : LockMode) (ops : List LockOp) :
    Total (lockRow key) (LockOp.runAll key ops csp)
      (fun result row ↦ result.1 = (mode.steps ops).1 ∧ row = (mode.steps ops).2.row) mode.row := by
  induction ops generalizing mode csp with
  | nil => exact total_ret ⟨rfl, rfl⟩
  | cons op ops ih =>
    refine Procedure.total_bind ((total_run mode op).mono ?_)
    rintro ⟨ret, csp⟩ row ⟨hret, hrow⟩
    subst hret hrow
    refine Procedure.total_bind ((ih (mode.step op).2).mono ?_)
    rintro ⟨rets, csp⟩ row ⟨hrets, hrow⟩
    subst hrets hrow
    exact total_ret ⟨rfl, rfl⟩

/-- Every sequence of calls returns, with the codes of the machine, and leaves the row in the state of
the machine, in which the low-level lock is never set on a device that is locked for provisioning. -/
theorem locks_refine_machine (key : SdKey) (csp : Client) (mode : LockMode) (ops : List LockOp) :
    (∃ trace result, Run (LockOp.runAll key ops csp) trace (.ret result) ∧
      (lockRow key).Meets mode.row trace) ∧
    ∀ trace result, Run (LockOp.runAll key ops csp) trace (.ret result) →
      (lockRow key).Meets mode.row trace →
      result.1 = (mode.steps ops).1 ∧
      (lockRow key).after mode.row trace = (mode.steps ops).2.row ∧
      (((lockRow key).after mode.row trace).holder.isSome = true →
        ((lockRow key).after mode.row trace).provLock = 0) := by
  have htotal : Total (lockRow key) (LockOp.runAll key ops csp) _ mode.row := total_runAll mode ops
  obtain ⟨hexists, hall⟩ := htotal.run
  refine ⟨hexists, fun trace result hrun hmeets ↦ ?_⟩
  obtain ⟨hrets, hrow⟩ := hall trace result hrun hmeets
  refine ⟨hrets, hrow, fun hlocked ↦ ?_⟩
  rw [hrow] at hlocked ⊢
  exact LockMode.provLock_row _ hlocked

end Refinement

end CoreEngine.Smsd
