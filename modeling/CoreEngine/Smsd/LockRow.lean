import CoreEngine.Interaction.Possibility
import CoreEngine.Interaction.Interleaving
import CoreEngine.Smsd.Simulator
import CoreEngine.Smsd.Indifference

/-!
# The row of a device

The two columns of a device that its locks are made of, and what the calls of the database library do
to them when the database does not fail. Every call is one step on the row. The database does not
know who set the low-level lock; the holder is kept here to speak about it.
-/

namespace CoreEngine.Smsd

open Interaction
open Procedure (lift Triple triple_bind triple_ite triple_lift triple_get triple_modify triple_pure)
open Program (Only Total total_bind total_ret total_perform)

/-- `sd_prov_lock`, and the task whose `SMSSQL_SetLock` set the low-level lock if it is set. -/
structure LockRow (ι : Type) where
  provLock : Int
  holder : Option ι
  deriving DecidableEq, Repr

namespace LockRow

variable {ι : Type}

/-- What a call leaves in its output parameter. -/
def Outputs (key : SdKey) (row : LockRow ι) : (query : Sql) → query.Output → Prop
  | .getSDprovlock k, provlock => k = key → provlock = row.provLock
  | .setLock k, lockState =>
      k = key → lockState = if row.holder.isSome then alreadyLocked else okLocked
  | _, _ => True

/-- The answers of a database that does not fail, to a daemon that is not shutting down. -/
def Answers (key : SdKey) (row : LockRow ι) (op : Op) (answer : op.Answer) : Prop :=
  match op, answer with
  | .readShutdown, shutdownRequired => shutdownRequired = false
  | .sql _ query, reply => reply.ret = 0 ∧ row.Outputs key query reply.output
  | _, _ => True

/-- The row after a call of task `i`. -/
def call (key : SdKey) (i : ι) (row : LockRow ι) : Sql → LockRow ι
  | .setSDprovlock k provlock => if k = key then { row with provLock := provlock } else row
  | .setLock k => if k = key then { row with holder := row.holder.or (some i) } else row
  | .unLock k => if k = key then { row with holder := none } else row
  | .unLockAll _ => { row with holder := none }
  | _ => row

variable {key : SdKey} {i : ι} {row : LockRow ι}

@[simp] theorem call_setSDprovlock (provlock : Int) :
    row.call key i (.setSDprovlock key provlock) = { row with provLock := provlock } := if_pos rfl

@[simp] theorem call_setLock :
    row.call key i (.setLock key) = { row with holder := row.holder.or (some i) } := if_pos rfl

@[simp] theorem call_unLock : row.call key i (.unLock key) = { row with holder := none } := if_pos rfl

theorem holder_setSDprovlock (k : SdKey) (provlock : Int) :
    (row.call key i (.setSDprovlock k provlock)).holder = row.holder := by
  by_cases hkey : k = key <;> simp [call, hkey]

def apply (key : SdKey) (i : ι) (row : LockRow ι) : Op → LockRow ι
  | .sql _ query => row.call key i query
  | _ => row

end LockRow

/-- Tasks that share the row: every operation is one step. -/
def lockTable {ι : Type} (key : SdKey) : Environment signature ι (LockRow ι) :=
  fun row i op answer row' ↦ row.Answers key op answer ∧ row' = row.apply key i op

section Reliable

variable {G α : Type} {D : Monitor signature G}

/-- A monitor that expects the database not to fail and the daemon not to shut down. -/
class Reliable (D : Monitor signature G) : Prop where
  allow_shutdown (g : G) : D.allow g .readShutdown
  next_shutdown (g : G) (answer : Bool) : D.next g .readShutdown answer = g
  shutdown {g : G} {answer : Bool} : D.expect g .readShutdown answer → answer = false
  sql {g : G} {ctx : Ctx} {query : Sql} {reply : Reply query.Output} :
    D.expect g (.sql ctx query) reply → reply.ret = 0

variable [hreliable : Reliable D] {ctx : Ctx} {db : Db} {query : Sql} {g : G}
  {post : Reply query.Output → G → Prop}

/-- The wrappers of a reliable database are single calls. -/
theorem safe_retry (hallow : D.allow g (.sql ctx query))
    (hpost : ∀ reply, D.expect g (.sql ctx query) reply → reply.ret = 0 →
      post reply (D.next g (.sql ctx query) reply)) :
    (retry ctx db query).Safe D post g := by
  have hround : (attempt ctx db query).Safe D (fun result g' ↦ ∃ reply, result = .inr reply ∧
      post reply g') g := by
    refine ⟨hallow, fun reply hreply ↦ ?_⟩
    have hret := hreliable.sql hreply
    have hne : reply.ret ≠ errDbConnectionLost := by
      rw [hret]
      decide
    show Program.Safe D (if reply.ret = errDbConnectionLost then _ else _) _ _
    rw [if_neg hne]
    exact ⟨reply, rfl, hpost reply hreply hret⟩
  intro count
  cases count with
  | zero => trivial
  | succ count =>
    unfold Program.rounds
    rw [Program.safe_bind]
    refine hround.mono ?_
    rintro result g' ⟨reply, rfl, hreply⟩
    exact hreply

theorem safe_readShutdown {yes no : Code α} {post : α → G → Prop} (hno : no.Safe D post g) :
    (readShutdown >>= fun shutdownRequired ↦
      if shutdownRequired then yes else no).Safe D post g := by
  rw [Program.safe_bind]
  refine ⟨hreliable.allow_shutdown g, fun answer hanswer ↦ ?_⟩
  rw [hreliable.next_shutdown, hreliable.shutdown hanswer]
  exact hno

theorem safe_ha {initial : query.Output} (hallow : D.allow g (.sql ctx query))
    (hpost : ∀ reply, D.expect g (.sql ctx query) reply → reply.ret = 0 →
      post reply (D.next g (.sql ctx query) reply)) :
    (ha ctx db query initial).Safe D post g :=
  safe_readShutdown (safe_retry hallow hpost)

/-- `HA_SMSSQL_SetLock` is two calls, or one if the device is locked for provisioning. -/
theorem safe_haSmssqlSetLock {key : SdKey} {post : Reply Int → G → Prop}
    (hget : D.allow g (.sql ctx (.getSDprovlock key)))
    (hprovlocked : ∀ seen : Int, seen ≠ 0 →
      post ⟨0, alreadyProvlocked⟩ (D.next g (.sql ctx (.getSDprovlock key)) (⟨0, seen⟩ : Reply Int)))
    (hset : ∀ g', g' = D.next g (.sql ctx (.getSDprovlock key)) (⟨0, 0⟩ : Reply Int) →
      D.allow g' (.sql ctx (.setLock key)) ∧ ∀ lockState : Int,
        D.expect g' (.sql ctx (.setLock key)) (⟨0, lockState⟩ : Reply Int) →
        post ⟨0, lockState⟩ (D.next g' (.sql ctx (.setLock key)) (⟨0, lockState⟩ : Reply Int))) :
    (haSmssqlSetLock ctx key).Safe D post g := by
  refine safe_readShutdown ((Program.safe_bind _ _ _ _).2 (safe_ha hget ?_))
  rintro ⟨ret, seen⟩ - hret
  obtain rfl : ret = 0 := hret
  rw [if_neg (by simp)]
  by_cases hseen : seen = 0
  · subst hseen
    obtain ⟨hallow, hpost⟩ := hset _ rfl
    rw [if_neg (by simp)]
    refine safe_retry hallow ?_
    rintro ⟨ret, lockState⟩ hreply hret
    obtain rfl : ret = 0 := hret
    exact hpost lockState hreply
  · rw [if_pos hseen]
    exact hprovlocked seen hseen

end Reliable

section Outcomes

variable {G : Type} {D : Monitor signature G}

/-- A monitor that objects to no call, and is not moved by calls that fail. -/
class Neutral (D : Monitor signature G) : Prop where
  allow_sql (g : G) (ctx : Ctx) (query : Sql) : D.allow g (.sql ctx query)
  ignores_shutdown : D.Ignores .readShutdown
  ignores_allocate (ctx : Ctx) (db : Db) : D.Ignores (.allocateContext ctx db)
  failed {g : G} {ctx : Ctx} {query : Sql} {reply : Reply query.Output} :
    reply.ret ≠ 0 → D.next g (.sql ctx query) reply = g

variable [hneutral : Neutral D] {ctx : Ctx} {db : Db} {query : Sql} {g : G}
  {post : Reply query.Output → G → Prop}

theorem safe_readShutdown_of_neutral {α : Type} {yes no : Code α} {post : α → G → Prop}
    (hyes : yes.Safe D post g) (hno : no.Safe D post g) :
    (readShutdown >>= fun shutdownRequired ↦
      if shutdownRequired then yes else no).Safe D post g := by
  rw [Program.safe_bind]
  refine ⟨(hneutral.ignores_shutdown g).1, fun answer _ ↦ ?_⟩
  rw [(hneutral.ignores_shutdown g).2 answer]
  cases answer with
  | true => exact hyes
  | false => exact hno

/-- A wrapper makes its call take effect once, or not at all. It then fails with the result of the last
attempt, or because the daemon is shutting down. -/
theorem safe_retry_of_neutral
    (hdone : ∀ reply, D.expect g (.sql ctx query) reply → reply.ret = 0 →
      post reply (D.next g (.sql ctx query) reply))
    (hfailed : ∀ reply : Reply query.Output, reply.ret ≠ 0 → (reply.ret = errDbFailed ∨
      D.expect g (.sql ctx query) reply ∧ reply.ret ≠ errDbConnectionLost) → post reply g) :
    (retry ctx db query).Safe D post g := by
  apply safe_retry_of_inv (· = g) hneutral.ignores_shutdown (hneutral.ignores_allocate ctx db) _ rfl
  rintro _ rfl
  refine ⟨hneutral.allow_sql _ ctx query, fun reply hreply ↦ ?_⟩
  by_cases hlost : reply.ret = errDbConnectionLost
  · have hret : reply.ret ≠ 0 := by
      rw [hlost]
      decide
    rw [if_pos hlost, hneutral.failed hret]
    exact ⟨rfl, hfailed _ (by decide : errDbFailed ≠ 0) (.inl rfl)⟩
  · rw [if_neg hlost]
    by_cases hret : reply.ret = 0
    · exact hdone reply hreply hret
    · rw [hneutral.failed hret]
      exact hfailed reply hret (.inr ⟨hreply, hlost⟩)

theorem safe_ha_of_neutral {initial : query.Output}
    (hdone : ∀ reply, D.expect g (.sql ctx query) reply → reply.ret = 0 →
      post reply (D.next g (.sql ctx query) reply))
    (hfailed : ∀ reply : Reply query.Output, reply.ret ≠ 0 → (reply.ret = errDbFailed ∨
      D.expect g (.sql ctx query) reply ∧ reply.ret ≠ errDbConnectionLost) → post reply g) :
    (ha ctx db query initial).Safe D post g :=
  safe_readShutdown_of_neutral (hfailed _ (by decide : errDbFailed ≠ 0) (.inl rfl))
    (safe_retry_of_neutral hdone hfailed)

end Outcomes

section Simulation

/-- The outputs of the calls that the lock functions make. -/
def LockRow.output {ι : Type} (row : LockRow ι) : (query : Sql) → Option query.Output
  | .getSDprovlock _ => some row.provLock
  | .setLock _ => some (if row.holder.isSome then alreadyLocked else okLocked)
  | .setSDprovlock _ _ => some ()
  | .unLock _ => some ()
  | .setSDPing _ _ _ _ => some ()
  | .setProvDate _ => some ()
  | _ => none

variable {ι : Type}

/-- The simulated environment, with the row in place of its device, and `index` telling which task of
the simulation a task is. -/
def LockRow.respond (key : SdKey) (index : ι → ℕ) (state : LockRow ι × Sim) (i : ι) (op : Op) :
    Option (op.Answer × LockRow ι × Sim) :=
  match op with
  | .sql _ query => (state.1.output query).map fun output ↦
      (⟨0, output⟩, state.1.call key i query, state.2)
  | op => (state.2.respond (index i) op).map fun (answer, sim) ↦ (answer, state.1, sim)

theorem LockRow.table_of_respond {key : SdKey} {index : ι → ℕ} {state state' : LockRow ι × Sim} {i : ι}
    {op : Op} {answer : op.Answer}
    (hrespond : LockRow.respond key index state i op = some (answer, state')) :
    lockTable key state.1 i op answer state'.1 := by
  cases op with
  | sql ctx query =>
    obtain ⟨output, houtput, hanswer⟩ := Option.map_eq_some_iff.1 hrespond
    cases hanswer
    refine ⟨⟨rfl, ?_⟩, rfl⟩
    cases query <;> first | trivial | exact fun _ ↦ (Option.some.inj houtput).symm
  | readShutdown =>
    cases hrespond
    exact ⟨rfl, rfl⟩
  | _ =>
    simp only [LockRow.respond, Option.map_eq_some_iff] at hrespond
    obtain ⟨pair, -, hanswer⟩ := hrespond
    cases hanswer
    exact ⟨trivial, rfl⟩

/-- A scheduled run in the simulated environment is a run on the row. -/
theorem LockRow.reach_of_run [DecidableEq ι] {G α : Type} {key : SdKey} {D : Monitor signature G}
    {index : ι → ℕ} {guard : Guard signature ι (LockRow ι) G}
    {check : LockRow ι × Sim → (ι → G) → ι → Op → Bool} {fuel : ℕ} {schedule : List ι}
    {start config : Config signature ι (LockRow ι × Sim) G α}
    (hcheck : ∀ state ghosts i op answer,
      check state ghosts i op = true → guard state.1 ghosts i op answer)
    (hrun : Config.run D (LockRow.respond key index) check fuel schedule start = some config) :
    Config.Reach (lockTable key) D guard ⟨start.shared.1, start.ghosts, start.tasks⟩
      ⟨config.shared.1, config.ghosts, config.tasks⟩ := by
  have hreach : Config.Reach (fun state i op answer state' ↦
      lockTable key state.1 i op answer state'.1) D
      (fun state ghosts i op answer ↦ guard state.1 ghosts i op answer) start config :=
    Config.reach_run (fun _ _ _ _ _ ↦ LockRow.table_of_respond)
      (fun shared ghosts i op answer _ _ ↦ hcheck shared ghosts i op answer) .start hrun
  exact hreach.map Prod.fst (fun _ _ _ _ _ htable ↦ htable) fun _ _ _ _ _ hguard ↦ hguard

end Simulation

end CoreEngine.Smsd
