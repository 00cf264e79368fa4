import CoreEngine.Smsd.Bd

/-!
# The wrappers that reconnect

A wrapper of `bd.c` hides lost connections from its caller: it returns what its last call returned, unless
the daemon is shutting down. `HA_SMSSQL_GetSDToUpdateNext` has no loop and is not among them; of
`HA_SMSSQL_SetLock` it is the final loop.
-/

namespace CoreEngine.Smsd

open Interaction
open Interaction.Program (Run)

/-- The wrappers with a loop, each with the arguments it passes on. -/
inductive Wrapper
  | setSDIPConfig (key : SdKey) (sdIpconf : CString) (connectedFlag : Int)
  | setSDUpdated (key : SdKey) (updatedFlag : Int)
  | setSDprovlock (key : SdKey) (provlock : Int)
  | getSDprovlock (key : SdKey)
  | setLock (key : SdKey)
  | unLock (key : SdKey)
  | unLockAll (errorMesg : CString)
  | setProvDate (key : SdKey)
  | setSDConfigStep (key : SdKey) (cfgStep : Int)
  | setSDConnected (key : SdKey) (connectedFlag : Int)
  | getAsset (asset : SdAsset)
  | getSDToUpdateFirst (sd : SdLike)
  | initProvStatus (key : SdKey) (numStages : Int) (stageNames : List CString)
  | setProvStatus (key : SdKey) (stageIndex : Int) (status : CString) (nextStatus : Option CString)
      (errorCode : ℕ) (errorMessage : CString)
  | getProvStatus (provstatus : SdProvstatus)
  | setPollMode (key : SdKey) (sdPollMode : Int)
  | setSdDown (key : SdKey)

namespace Wrapper

/-- The call of the database library that is wrapped. -/
def query : Wrapper → Sql
  | setSDIPConfig key sdIpconf connectedFlag => .setSDIPConfig key sdIpconf connectedFlag
  | setSDUpdated key updatedFlag => .setSDUpdated key updatedFlag
  | setSDprovlock key provlock => .setSDprovlock key provlock
  | getSDprovlock key => .getSDprovlock key
  | setLock key => .setLock key
  | unLock key => .unLock key
  | unLockAll errorMesg => .unLockAll errorMesg
  | setProvDate key => .setProvDate key
  | setSDConfigStep key cfgStep => .setSDConfigStep key cfgStep
  | setSDConnected key connectedFlag => .setSDConnected key connectedFlag
  | getAsset asset => .getAsset asset.key
  | getSDToUpdateFirst _ => .getSDToUpdateFirst
  | initProvStatus key numStages stageNames => .initProvStatus key numStages stageNames
  | setProvStatus key stageIndex status nextStatus errorCode errorMessage =>
      .setProvStatus key stageIndex status nextStatus errorCode errorMessage
  | getProvStatus provstatus => .getProvStatus provstatus.key provstatus.stageIndex
  | setPollMode key sdPollMode => .setPollMode key sdPollMode
  | setSdDown key => .setSDPing key 0 0 0

/-- The code of the wrapper; of `HA_SMSSQL_SetLock` the loop that it ends with. -/
def code (ctx : Ctx) : (wrapper : Wrapper) → Code (Reply wrapper.query.Output)
  | setSDIPConfig key sdIpconf connectedFlag => haSmssqlSetSDIPConfig ctx key sdIpconf connectedFlag
  | setSDUpdated key updatedFlag => haSmssqlSetSDUpdated ctx key updatedFlag
  | setSDprovlock key provlock => haSmssqlSetSDprovlock ctx key provlock
  | getSDprovlock key => haSmssqlGetSDprovlock ctx key
  | setLock key => retry ctx .sms (.setLock key)
  | unLock key => haSmssqlUnLock ctx key
  | unLockAll errorMesg => haSmssqlUnLockAll ctx errorMesg
  | setProvDate key => haSmssqlSetProvDate ctx key
  | setSDConfigStep key cfgStep => haSmssqlSetSDConfigStep ctx key cfgStep
  | setSDConnected key connectedFlag => haSmssqlSetSDConnected ctx key connectedFlag
  | getAsset asset => haSmssqlGetAsset ctx asset
  | getSDToUpdateFirst sd => haSmssqlGetSDToUpdateFirst ctx sd
  | initProvStatus key numStages stageNames => haSmssqlInitProvStatus ctx key numStages stageNames
  | setProvStatus key stageIndex status nextStatus errorCode errorMessage =>
      haSmssqlSetProvStatus ctx key stageIndex status nextStatus errorCode errorMessage
  | getProvStatus provstatus => haSmssqlGetProvStatus ctx provstatus
  | setPollMode key sdPollMode => haSmssqlSetPollMode ctx key sdPollMode
  | setSdDown key => haSmssqlSetSdDown ctx key

/-- The database that the wrapper belongs to: dates of provisioning are kept with the customers. -/
def db : Wrapper → Db
  | setProvDate _ => .cust
  | _ => .sms

/-- Every wrapper looks at `shutdownRequired` first; the final loop of `HA_SMSSQL_SetLock` does not. -/
def first : Wrapper → List (Event signature)
  | setLock _ => []
  | _ => [⟨.readShutdown, false⟩]

end Wrapper

section Trace

variable (ctx : Ctx) (db : Db) (query : Sql)

/-- A call whose connection is lost, and the context that is allocated for the next one. -/
def lostCall (output : query.Output) : List (Event signature) :=
  [⟨.sql ctx query, ⟨errDbConnectionLost, output⟩⟩, ⟨.allocateContext ctx db, ()⟩]

/-- Lost calls before which the daemon was not shutting down. -/
def lostCalls (outputs : List query.Output) : List (Event signature) :=
  outputs.flatMap fun output ↦ lostCall ctx db query output ++ [⟨.readShutdown, false⟩]

/-- What happens in a loop that returns `reply`: lost calls, and then a call with this reply, or one
more lost call when the daemon is shutting down. -/
def Loops (trace : List (Event signature)) (reply : Reply query.Output) : Prop :=
  ∃ outputs,
    (reply.ret ≠ errDbConnectionLost ∧ trace = lostCalls ctx db query outputs ++ [⟨.sql ctx query, reply⟩]) ∨
    (reply.ret = errDbFailed ∧ trace = lostCalls ctx db query outputs ++
      (lostCall ctx db query reply.output ++ [⟨.readShutdown, true⟩]))

/-- The connections that the calls through a context use, when it has the given one first: each
allocation replaces it by the next. -/
def connectionsUsed : ℕ → List (Event signature) → List ℕ
  | _, [] => []
  | connection, ⟨.sql c _, _⟩ :: trace =>
      if c = ctx then connection :: connectionsUsed connection trace else connectionsUsed connection trace
  | connection, ⟨.allocateContext c _, _⟩ :: trace =>
      connectionsUsed (if c = ctx then connection + 1 else connection) trace
  | connection, _ :: trace => connectionsUsed connection trace

end Trace

section Loop

variable {ctx : Ctx} {db : Db} {query : Sql} {trace : List (Event signature)} {reply : Reply query.Output}

/-- One round: the call is the last one, or it is lost. -/
theorem run_attempt {step : Unit ⊕ Reply query.Output} (hrun : Run (attempt ctx db query) trace (.ret step)) :
    (∃ output, step = .inl () ∧ trace = lostCall ctx db query output ++ [⟨.readShutdown, false⟩]) ∨
      ∃ reply, step = .inr reply ∧ Loops ctx db query trace reply := by
  obtain ⟨⟨ret, output⟩, tail, rfl, hrest⟩ := Program.run_perform_bind_iff.1 hrun
  by_cases hlost : ret = errDbConnectionLost
  · subst hlost
    rw [if_pos rfl] at hrest
    obtain ⟨⟨⟩, tail, rfl, hread⟩ := Program.run_perform_bind_iff.1 hrest
    obtain ⟨shutdownRequired, tail, rfl, hend⟩ := Program.run_perform_bind_iff.1 hread
    cases shutdownRequired with
    | true =>
      obtain ⟨rfl, rfl⟩ := Program.run_ret_iff.1 hend
      exact Or.inr ⟨_, rfl, [], Or.inr ⟨rfl, rfl⟩⟩
    | false =>
      obtain ⟨rfl, rfl⟩ := Program.run_ret_iff.1 hend
      exact Or.inl ⟨output, rfl, rfl⟩
  · rw [if_neg hlost] at hrest
    obtain ⟨rfl, rfl⟩ := Program.run_ret_iff.1 hrest
    exact Or.inr ⟨_, rfl, [], Or.inl ⟨hlost, rfl⟩⟩

/-- A lost call before a loop belongs to it. -/
theorem Loops.cons (hloops : Loops ctx db query trace reply) (output : query.Output) :
    Loops ctx db query (lostCall ctx db query output ++ [⟨.readShutdown, false⟩] ++ trace) reply := by
  obtain ⟨outputs, ⟨hret, rfl⟩ | ⟨hret, rfl⟩⟩ := hloops
  · exact ⟨output :: outputs, Or.inl ⟨hret, by simp [lostCalls]⟩⟩
  · exact ⟨output :: outputs, Or.inr ⟨hret, by simp [lostCalls]⟩⟩

theorem run_retry (hrun : Run (retry ctx db query) trace (.ret reply)) : Loops ctx db query trace reply := by
  refine Program.run_loop_induction (motive := fun _ trace reply ↦ Loops ctx db query trace reply) ?_ ?_ hrun
  · intro _ trace reply hlast
    rcases run_attempt hlast with ⟨output, hstep, -⟩ | ⟨reply', hstep, hloops⟩
    · cases hstep
    · cases hstep
      exact hloops
  · intro _ _ first rest reply hround hloops
    rcases run_attempt hround with ⟨output, -, rfl⟩ | ⟨reply', hstep, -⟩
    · exact hloops.cons output
    · cases hstep

theorem run_ha {initial : query.Output} (hrun : Run (ha ctx db query initial) trace (.ret reply)) :
    (reply.ret = errDbFailed ∧ trace = [⟨.readShutdown, true⟩]) ∨
      ∃ tail, trace = ⟨.readShutdown, false⟩ :: tail ∧ Loops ctx db query tail reply := by
  obtain ⟨shutdownRequired, tail, rfl, hrest⟩ := Program.run_perform_bind_iff.1 hrun
  cases shutdownRequired with
  | true =>
    obtain ⟨rfl, rfl⟩ := Program.run_ret_iff.1 hrest
    exact Or.inl ⟨rfl, rfl⟩
  | false => exact Or.inr ⟨tail, rfl, run_retry hrest⟩

end Loop

section Connections

variable {ctx : Ctx} {db : Db} {query : Sql} {trace : List (Event signature)} {reply : Reply query.Output}

theorem connectionsUsed_lostCall (connection : ℕ) (output : query.Output) (tail : List (Event signature)) :
    connectionsUsed ctx connection (lostCall ctx db query output ++ tail) =
      connection :: connectionsUsed ctx (connection + 1) tail := by
  simp [lostCall, connectionsUsed]

/-- Each of the lost calls has its own connection. -/
theorem connectionsUsed_lostCalls (connection : ℕ) (outputs : List query.Output) (tail : List (Event signature)) :
    connectionsUsed ctx connection (lostCalls ctx db query outputs ++ tail) =
      List.range' connection outputs.length ++ connectionsUsed ctx (connection + outputs.length) tail := by
  induction outputs generalizing connection with
  | nil => simp [lostCalls]
  | cons output outputs ih =>
    have hsplit : lostCalls ctx db query (output :: outputs) ++ tail = lostCall ctx db query output ++
        (⟨.readShutdown, false⟩ :: (lostCalls ctx db query outputs ++ tail)) := by
      simp [lostCalls]
    have hnext : connection + 1 + outputs.length = connection + (output :: outputs).length := by
      rw [List.length_cons]
      omega
    rw [hsplit, connectionsUsed_lostCall]
    simp only [connectionsUsed]
    rw [ih, hnext, List.length_cons, List.range'_succ, List.cons_append]

theorem Loops.connectionsUsed (hloops : Loops ctx db query trace reply) :
    ∃ calls, Smsd.connectionsUsed ctx 0 trace = List.range calls := by
  obtain ⟨outputs, ⟨-, rfl⟩ | ⟨-, rfl⟩⟩ := hloops
  · refine ⟨outputs.length + 1, ?_⟩
    rw [connectionsUsed_lostCalls, List.range_succ, List.range_eq_range']
    simp [Smsd.connectionsUsed]
  · refine ⟨outputs.length + 1, ?_⟩
    rw [connectionsUsed_lostCalls, connectionsUsed_lostCall, List.range_succ, List.range_eq_range']
    simp [Smsd.connectionsUsed]

theorem Loops.ret_ne (hloops : Loops ctx db query trace reply) : reply.ret ≠ errDbConnectionLost := by
  obtain ⟨outputs, ⟨hret, -⟩ | ⟨hret, -⟩⟩ := hloops
  · exact hret
  · rw [hret]
    decide

end Connections

section Wrappers

variable {wrapper : Wrapper} {ctx : Ctx} {trace : List (Event signature)}
  {reply : Reply wrapper.query.Output}

/-- Every wrapper is a loop that is entered when the daemon is not shutting down. -/
theorem run_wrapper (hrun : Run (wrapper.code ctx) trace (.ret reply)) :
    (reply.ret = errDbFailed ∧ trace = [⟨.readShutdown, true⟩]) ∨
      ∃ tail, trace = wrapper.first ++ tail ∧ Loops ctx wrapper.db wrapper.query tail reply := by
  cases wrapper with
  | setLock key => exact Or.inr ⟨trace, rfl, run_retry hrun⟩
  | setSDIPConfig key sdIpconf connectedFlag => exact run_ha hrun
  | setSDUpdated key updatedFlag => exact run_ha hrun
  | setSDprovlock key provlock => exact run_ha hrun
  | getSDprovlock key => exact run_ha hrun
  | unLock key => exact run_ha hrun
  | unLockAll errorMesg => exact run_ha hrun
  | setProvDate key => exact run_ha hrun
  | setSDConfigStep key cfgStep => exact run_ha hrun
  | setSDConnected key connectedFlag => exact run_ha hrun
  | getAsset asset => exact run_ha hrun
  | getSDToUpdateFirst sd => exact run_ha hrun
  | initProvStatus key numStages stageNames => exact run_ha hrun
  | setProvStatus key stageIndex status nextStatus errorCode errorMessage => exact run_ha hrun
  | getProvStatus provstatus => exact run_ha hrun
  | setPollMode key sdPollMode => exact run_ha hrun
  | setSdDown key => exact run_ha hrun

/-- A lost connection never reaches the caller. What a wrapper returns is the reply of its last call, and
the calls before it have lost their connection, each the one allocated last; or it is `ERR_DB_FAILED`, and
`shutdownRequired` was set, before any call or right after a lost connection. -/
theorem wrapper_transparent (wrapper : Wrapper) (ctx : Ctx) {trace : List (Event signature)}
    {reply : Reply wrapper.query.Output} (hrun : Run (wrapper.code ctx) trace (.ret reply)) :
    reply.ret ≠ errDbConnectionLost ∧
    (∃ calls, connectionsUsed ctx 0 trace = List.range calls) ∧
    ((∃ outputs, trace = wrapper.first ++
        (lostCalls ctx wrapper.db wrapper.query outputs ++ [⟨.sql ctx wrapper.query, reply⟩])) ∨
      (reply.ret = errDbFailed ∧ (trace = [⟨.readShutdown, true⟩] ∨
        ∃ outputs, trace = wrapper.first ++ (lostCalls ctx wrapper.db wrapper.query outputs ++
          (lostCall ctx wrapper.db wrapper.query reply.output ++ [⟨.readShutdown, true⟩]))))) := by
  rcases run_wrapper hrun with ⟨hret, rfl⟩ | ⟨tail, rfl, hloops⟩
  · refine ⟨by rw [hret]; decide, ⟨0, rfl⟩, Or.inr ⟨hret, Or.inl rfl⟩⟩
  · have hfirst : connectionsUsed ctx 0 (wrapper.first ++ tail) = connectionsUsed ctx 0 tail := by
      cases wrapper <;> rfl
    obtain ⟨calls, hcalls⟩ := hloops.connectionsUsed
    refine ⟨hloops.ret_ne, ⟨calls, by rw [hfirst, hcalls]⟩, ?_⟩
    obtain ⟨outputs, ⟨-, rfl⟩ | ⟨hret, rfl⟩⟩ := hloops
    · exact Or.inl ⟨outputs, rfl⟩
    · exact Or.inr ⟨hret, Or.inr ⟨outputs, rfl⟩⟩

/-- A connection to the customers is lost once. -/
theorem wrapper_transparent_setProvDate :
    smsOk ≠ errDbConnectionLost ∧ ∃ calls, connectionsUsed ⟨.cust, 0⟩ 0
        (⟨.readShutdown, false⟩ :: (lostCalls ⟨.cust, 0⟩ .cust (.setProvDate ⟨[], 1⟩) [()] ++
          [⟨.sql ⟨.cust, 0⟩ (.setProvDate ⟨[], 1⟩), ⟨smsOk, ()⟩⟩])) = List.range calls := by
  have hrun : Run ((Wrapper.setProvDate ⟨[], 1⟩).code ⟨.cust, 0⟩) (⟨.readShutdown, false⟩ ::
      (lostCalls ⟨.cust, 0⟩ .cust (.setProvDate ⟨[], 1⟩) [()] ++
        [⟨.sql ⟨.cust, 0⟩ (.setProvDate ⟨[], 1⟩), ⟨smsOk, ()⟩⟩])) (.ret ⟨smsOk, ()⟩) :=
    .call (@Run.bound _ _ _ 2 _ _ (.call (.call (.call (.call (.done _))))))
  have htransparent := wrapper_transparent (.setProvDate ⟨[], 1⟩) ⟨.cust, 0⟩ hrun
  exact ⟨htransparent.1, htransparent.2.1⟩

/-- A run of `HA_SMSSQL_SetLock` that gets past the provisioning lock ends with the loop. -/
theorem run_haSmssqlSetLock {key : SdKey} {reply : Reply Int}
    (hrun : Run (haSmssqlSetLock ctx key) trace (.ret reply)) :
    (reply.ret = errDbFailed ∧ trace = [⟨.readShutdown, true⟩]) ∨ ∃ provlock front back,
      trace = ⟨.readShutdown, false⟩ :: (front ++ back) ∧
      Run ((Wrapper.getSDprovlock key).code ctx) front (.ret provlock) ∧
      ((reply.ret = provlock.ret ∧ back = []) ∨ Run ((Wrapper.setLock key).code ctx) back (.ret reply)) := by
  obtain ⟨shutdownRequired, tail, rfl, hrest⟩ := Program.run_perform_bind_iff.1 hrun
  cases shutdownRequired with
  | true =>
    obtain ⟨rfl, rfl⟩ := Program.run_ret_iff.1 hrest
    exact Or.inl ⟨rfl, rfl⟩
  | false =>
    obtain ⟨provlock, front, back, rfl, hprovlock, hrest⟩ := Program.run_bind_iff.1 hrest
    refine Or.inr ⟨provlock, front, back, rfl, hprovlock, ?_⟩
    by_cases hret : provlock.ret ≠ 0
    · rw [if_pos hret] at hrest
      obtain ⟨rfl, rfl⟩ := Program.run_ret_iff.1 hrest
      exact Or.inl ⟨rfl, rfl⟩
    · rw [if_neg hret] at hrest
      by_cases houtput : provlock.output ≠ 0
      · rw [if_pos houtput] at hrest
        obtain ⟨rfl, rfl⟩ := Program.run_ret_iff.1 hrest
        exact Or.inl ⟨rfl, rfl⟩
      · rw [if_neg houtput] at hrest
        exact Or.inr hrest

end Wrappers

end CoreEngine.Smsd
