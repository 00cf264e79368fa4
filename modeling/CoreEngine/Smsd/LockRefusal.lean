import CoreEngine.Smsd.LockRow

/-!
# What a refused lock leaves behind

A device that `lockProv` could not lock, against what it was before. Every call may fail, and changes nothing
then; a low-level lock that is old enough may be taken over.
-/

namespace CoreEngine.Smsd

open Interaction
open Procedure (lift Triple)
open Program (Run)

/-- The columns of a device that `lockProv` changes. -/
structure SdState where
  provLock : Int
  locked : Bool
  isup : Bool
  deriving DecidableEq, Repr

namespace SdState

/-- A call that takes effect. -/
def call (key : SdKey) (state : SdState) : Sql → SdState
  | .setSDprovlock k provlock => if k = key then { state with provLock := provlock } else state
  | .setLock k => if k = key then { state with locked := true } else state
  | .unLock k => if k = key then { state with locked := false } else state
  | .setSDPing k _ isup _ => if k = key then { state with isup := isup ≠ 0 } else state
  | _ => state

/-- What a call leaves in its output parameter. -/
def Outputs (key : SdKey) (state : SdState) : (query : Sql) → query.Output → Prop
  | .getSDprovlock k, provlock => k = key → provlock = state.provLock
  | .setLock k, lockState =>
      k = key → if state.locked then lockState = alreadyLocked ∨ lockState = okLockedByTimeout
        else lockState = okLocked
  | _, _ => True

end SdState

/-- The calls of a run that took effect. -/
def tookEffect (trace : List (Event signature)) : List Sql :=
  trace.filterMap fun
    | ⟨.sql _ query, reply⟩ => if reply.ret = smsOk then some query else none
    | _ => none

/-- Follows a device through a run, and the calls that took effect. -/
def sdState (key : SdKey) : Monitor signature (SdState × List Sql) where
  allow _ _ := True
  expect g op answer := match op, answer with
    | .sql _ query, reply => reply.ret = smsOk → g.1.Outputs key query reply.output
    | _, _ => True
  next g op answer := match op, answer with
    | .sql _ query, reply => if reply.ret = smsOk then (g.1.call key query, g.2 ++ [query]) else g
    | _, _ => g

section Calls

variable {key : SdKey} {g : SdState × List Sql} {ctx : Ctx} {query : Sql}

theorem sdState_ignores_pool (op : Op) (hop : op.OnPool) : (sdState key).Ignores op := by
  intro g
  cases op with
  | sql ctx query => exact hop.elim
  | _ => exact ⟨trivial, fun _ ↦ rfl⟩

instance : Neutral (sdState key) where
  allow_sql _ _ _ := trivial
  ignores_shutdown := sdState_ignores_pool .readShutdown trivial
  ignores_allocate _ _ _ := ⟨trivial, fun _ ↦ rfl⟩
  failed hret := if_neg hret

theorem sdState_next {reply : Reply query.Output} (hret : reply.ret = 0) :
    (sdState key).next g (.sql ctx query) reply = (g.1.call key query, g.2 ++ [query]) := if_pos hret

theorem after_sdState (g : SdState × List Sql) (trace : List (Event signature)) :
    ((sdState key).after g trace).2 = g.2 ++ tookEffect trace := by
  induction trace generalizing g with
  | nil => exact (List.append_nil _).symm
  | cons event trace ih =>
    obtain ⟨op, answer⟩ := event
    rw [Monitor.after, ih]
    unfold tookEffect
    cases op with
    | sql ctx query =>
      show (if answer.ret = smsOk then (g.1.call key query, g.2 ++ [query]) else g).2 ++ _ = _
      by_cases hret : answer.ret = smsOk
      · simp [hret]
      · simp [hret]
    | _ => rfl

/-- A wrapper: its call takes effect and returns zero, or it fails and nothing happens. -/
theorem safe_ha_sdState {db : Db} {initial : query.Output} {post : Reply query.Output → SdState × List Sql → Prop}
    (hdone : ∀ output, g.1.Outputs key query output → post ⟨0, output⟩ (g.1.call key query, g.2 ++ [query]))
    (hfailed : ∀ reply : Reply query.Output, reply.ret ≠ 0 → post reply g) :
    (ha ctx db query initial).Safe (sdState key) post g := by
  apply safe_ha_of_neutral _ fun reply hret _ ↦ hfailed reply hret
  rintro ⟨ret, output⟩ hexpect hret
  obtain rfl : ret = 0 := hret
  rw [sdState_next rfl]
  exact hdone output (hexpect rfl)

/-- The low-level lock is asked for only if the device is not locked for provisioning. -/
theorem safe_haSmssqlSetLock_sdState {post : Reply Int → SdState × List Sql → Prop}
    (hprovlocked : g.1.provLock ≠ 0 → post ⟨0, alreadyProvlocked⟩ (g.1, g.2 ++ [.getSDprovlock key]))
    (hlocked : ∀ lockState : Int, g.1.provLock = 0 → g.1.Outputs key (.setLock key) lockState →
      post ⟨0, lockState⟩ ({ g.1 with locked := true }, g.2 ++ [.getSDprovlock key] ++ [.setLock key]))
    (hfailed : ∀ (reply : Reply Int) (read : List Sql), .setLock key ∉ read → .setSDPing key 0 0 0 ∉ read →
      .setSDprovlock key 1 ∉ read → reply.ret ≠ 0 → post reply (g.1, g.2 ++ read)) :
    (haSmssqlSetLock ctx key).Safe (sdState key) post g := by
  have hnone (reply : Reply Int) (hret : reply.ret ≠ 0) : post reply g := by
    simpa using hfailed reply [] (by simp) (by simp) (by simp) hret
  apply safe_readShutdown_of_neutral
  · exact hnone _ (by decide : errDbFailed ≠ 0)
  · rw [Program.safe_bind]
    unfold haSmssqlGetSDprovlock
    apply safe_ha_sdState
    · rintro provlock hprovlock
      obtain rfl : provlock = g.1.provLock := hprovlock rfl
      rw [if_neg (by simp)]
      by_cases hprov : g.1.provLock = 0
      · rw [if_neg (not_not.2 hprov)]
        apply safe_retry_of_neutral
        · rintro ⟨ret, lockState⟩ hexpect hret
          obtain rfl : ret = 0 := hret
          rw [sdState_next rfl]
          simpa [SdState.call] using hlocked lockState hprov (hexpect rfl)
        · exact fun reply hret _ ↦ hfailed reply _ (by simp) (by simp) (by simp) hret
      · rw [if_pos hprov]
        exact hprovlocked hprov
    · intro reply hret
      rw [if_pos hret]
      exact hnone _ hret

end Calls

section Functions

variable {key : SdKey} {ctx : Ctx} {state : SdState}

/-- The device was not set down without being locked, and a lock that was clear has not been kept. -/
structure LeavesState (key : SdKey) (state : SdState) (made : List Sql) : Prop where
  status : .setSDPing key 0 0 0 ∈ made → .setSDprovlock key 1 ∉ made → state.isup = true → state.provLock = 1
  lock : .setLock key ∈ made → .setSDprovlock key 1 ∉ made → state.locked = true

/-- A device that could not be locked is as it was unless it was set down or its lock was taken. -/
theorem refused_iff {ret : Int} (hret : ret ≠ 0) (hprov : state.provLock ≠ 1) {down taken : Bool} {made : List Sql}
    (hping : .setSDPing key 0 0 0 ∈ made ↔ down = true) (hlock : .setLock key ∈ made ↔ taken = true)
    (hset : .setSDprovlock key 1 ∉ made) :
    (ret ≠ 0 → (⟨state.provLock, state.locked || taken, state.isup && !down⟩ : SdState) = state) ↔
      LeavesState key state made := by
  have hleaves : LeavesState key state made ↔
      (down = true → state.isup ≠ true) ∧ (taken = true → state.locked = true) := by
    constructor
    · intro h
      exact ⟨fun hdown hup ↦ hprov (h.status (hping.2 hdown) hset hup), fun htaken ↦ h.lock (hlock.2 htaken) hset⟩
    · rintro ⟨hdown, htaken⟩
      exact ⟨fun hmem _ hup ↦ absurd hup (hdown (hping.1 hmem)), fun hmem _ ↦ htaken (hlock.1 hmem)⟩
  rw [hleaves]
  obtain ⟨provLock, locked, isup⟩ := state
  simp only [ne_eq, hret, not_false_eq_true, true_implies, SdState.mk.injEq, true_and]
  cases locked <;> cases taken <;> cases isup <;> cases down <;> decide

theorem locked_iff {made : List Sql} {state' : SdState} (hset : .setSDprovlock key 1 ∈ made) :
    ((0 : Int) ≠ 0 → state' = state) ↔ LeavesState key state made :=
  iff_of_true (absurd rfl) ⟨fun _ hnot ↦ absurd hset hnot, fun _ hnot ↦ absurd hset hnot⟩

/-- The last steps: the provisioning lock, and the low-level lock is given back. -/
theorem safe_lockProvOn_set (hprov : state.provLock ≠ 1) {down taken : Bool} {made : List Sql}
    (hping : .setSDPing key 0 0 0 ∈ made ↔ down = true) (hlock : .setLock key ∈ made ↔ taken = true)
    (hset : .setSDprovlock key 1 ∉ made) : (do
        let set ← haSmssqlSetSDprovlock ctx key 1
        if set.ret ≠ 0 then pure set.ret else do
          let _ ← haSmssqlUnLock ctx key
          pure set.ret : Code Int).Safe (sdState key)
      (fun ret g ↦ (ret ≠ 0 → g.1 = state) ↔ LeavesState key state g.2)
      (⟨state.provLock, state.locked || taken, state.isup && !down⟩, made) := by
  rw [Program.safe_bind]
  unfold haSmssqlSetSDprovlock
  apply safe_ha_sdState
  · intro output _
    rw [if_neg (by simp), Program.safe_bind]
    unfold haSmssqlUnLock
    apply safe_ha_sdState
    · exact fun _ _ ↦ locked_iff (by simp)
    · exact fun _ _ ↦ locked_iff (by simp)
  · intro set hret
    rw [if_pos hret]
    exact refused_iff hret hprov hping hlock hset

/-- What is left to do once the device has been set down, or could not be. -/
theorem safe_lockProvOn_down (hprov : state.provLock ≠ 1) {down : Bool} {made : List Sql}
    (hping : .setSDPing key 0 0 0 ∈ made ↔ down = true) (hlock : .setLock key ∉ made)
    (hset : .setSDprovlock key 1 ∉ made) : (do
        let updateLock ← haSmssqlSetLock ctx key
        if updateLock.ret ≠ 0 then pure updateLock.ret
        else if updateLock.output = alreadyLocked then pure errSdLock
        else do
          let set ← haSmssqlSetSDprovlock ctx key 1
          if set.ret ≠ 0 then pure set.ret else do
            let _ ← haSmssqlUnLock ctx key
            pure set.ret : Code Int).Safe (sdState key)
      (fun ret g ↦ (ret ≠ 0 → g.1 = state) ↔ LeavesState key state g.2)
      (⟨state.provLock, state.locked || false, state.isup && !down⟩, made) := by
  rw [Program.safe_bind]
  apply safe_haSmssqlSetLock_sdState
  · intro _
    rw [if_neg (by simp), if_neg (by decide)]
    apply safe_lockProvOn_set hprov
    · simpa using hping
    · simpa using hlock
    · simpa using hset
  · intro lockState _ houtput
    have hrest : (if lockState = alreadyLocked then pure errSdLock
        else do
          let set ← haSmssqlSetSDprovlock ctx key 1
          if set.ret ≠ 0 then pure set.ret else do
            let _ ← haSmssqlUnLock ctx key
            pure set.ret : Code Int).Safe (sdState key)
        (fun ret g ↦ (ret ≠ 0 → g.1 = state) ↔ LeavesState key state g.2)
        (⟨state.provLock, state.locked || true, state.isup && !down⟩,
          made ++ [.getSDprovlock key] ++ [.setLock key]) := by
      split
      · apply refused_iff (by decide) hprov
        · simpa using hping
        · simp
        · simpa using hset
      · apply safe_lockProvOn_set hprov
        · simpa using hping
        · simp
        · simpa using hset
    rw [if_neg (by simp)]
    simpa using hrest
  · intro updateLock read hread hread' hread'' hret
    rw [if_pos hret]
    apply refused_iff hret hprov
    · simpa [hread'] using hping
    · simp [hread, hlock]
    · simp [hread'', hset]

/-- A refused or failed `lockProv` leaves the device as it was in these cases, and only in them. -/
theorem safe_lockProvOn_sdState : (lockProvOn ctx key).Safe (sdState key)
    (fun ret g ↦ (ret ≠ 0 → g.1 = state) ↔ LeavesState key state g.2) (state, []) := by
  unfold lockProvOn
  rw [Program.safe_bind]
  unfold haSmssqlGetSDprovlock
  apply safe_ha_sdState
  · intro provlock hprovlock
    obtain rfl : provlock = state.provLock := hprovlock rfl
    rw [if_neg (by simp), Program.safe_bind]
    have hrest (down : Bool) (made : List Sql) (hping : .setSDPing key 0 0 0 ∈ made ↔ down = true)
        (hlock : .setLock key ∉ made) (hset : .setSDprovlock key 1 ∉ made) :
        (if state.provLock = 1 then pure 0 else do
            let updateLock ← haSmssqlSetLock ctx key
            if updateLock.ret ≠ 0 then pure updateLock.ret
            else if updateLock.output = alreadyLocked then pure errSdLock
            else do
              let set ← haSmssqlSetSDprovlock ctx key 1
              if set.ret ≠ 0 then pure set.ret else do
                let _ ← haSmssqlUnLock ctx key
                pure set.ret : Code Int).Safe (sdState key)
          (fun ret g ↦ (ret ≠ 0 → g.1 = state) ↔ LeavesState key state g.2)
          (⟨state.provLock, state.locked || false, state.isup && !down⟩, made) := by
      split
      · next hprov => exact iff_of_true (absurd rfl) ⟨fun _ _ _ ↦ hprov, fun hmem ↦ absurd hmem hlock⟩
      · next hprov => exact safe_lockProvOn_down hprov hping hlock hset
    unfold haSmssqlSetSdDown
    apply safe_ha_sdState
    · intro output _
      have hdown := hrest true ([] ++ [.getSDprovlock key] ++ [.setSDPing key 0 0 0]) (by simp) (by simp) (by simp)
      simpa [SdState.call] using hdown
    · intro set _
      have hup := hrest false ([] ++ [.getSDprovlock key]) (by simp) (by simp) (by simp)
      simpa [SdState.call] using hup
  · intro provlock hret
    rw [if_pos hret]
    exact iff_of_true (fun _ ↦ rfl) ⟨fun hmem ↦ (nomatch hmem), fun hmem ↦ (nomatch hmem)⟩

theorem triple_lockProv_sdState :
    Triple (sdState key) (fun _ g ↦ g = (state, [])) (lockProv key) fun ret _ g ↦
      (ret ≠ 0 → g.1 = state) ↔ LeavesState key state g.2 := by
  apply triple_borrowDbCtx_of_pool sdState_ignores_pool
  rintro ctx g rfl
  exact safe_lockProvOn_sdState

end Functions

/-- `lockProv` that returns an error leaves the device as it was, unless it has set down a device that was up,
or taken a lock that was clear, and could not set the provisioning lock; and only unless. -/
theorem lockProv_leavesState {key : SdKey} {state : SdState} {csp csp' : Client} {ret : Int}
    {trace : List (Event signature)} (hrun : Run (lockProv key csp) trace (.ret (ret, csp')))
    (hmeets : (sdState key).Meets (state, []) trace) :
    (ret ≠ 0 → ((sdState key).after (state, []) trace).1 = state) ↔ LeavesState key state (tookEffect trace) := by
  have hreturns : (ret ≠ 0 → ((sdState key).after (state, []) trace).1 = state) ↔
      LeavesState key state ((sdState key).after (state, []) trace).2 :=
    hrun.returns (triple_lockProv_sdState csp (state, []) rfl) hmeets
  rwa [after_sdState, List.nil_append] at hreturns

/-- A loop that ends in its first round. -/
theorem run_bound_one {α : Type} {next : ℕ → Code α} {trace : List (Event signature)} {final : Code α}
    (hrun : Run (next 1) trace final) : Run (.bound next) trace final := .bound hrun

/-- The calls up to `SMSSQL_SetLock`, on a device that is not locked for provisioning. -/
def untilSetLock (lockState : Int) : List (Event signature) :=
  [⟨.readShutdown, false⟩, ⟨.sql ⟨.sms, 0⟩ (.getSDprovlock ⟨[], 0⟩), ⟨0, (0 : Int)⟩⟩, ⟨.readShutdown, false⟩,
    ⟨.sql ⟨.sms, 0⟩ (.setSDPing ⟨[], 0⟩ 0 0 0), ⟨0, ()⟩⟩, ⟨.readShutdown, false⟩, ⟨.readShutdown, false⟩,
    ⟨.sql ⟨.sms, 0⟩ (.getSDprovlock ⟨[], 0⟩), ⟨0, (0 : Int)⟩⟩,
    ⟨.sql ⟨.sms, 0⟩ (.setLock ⟨[], 0⟩), ⟨0, lockState⟩⟩]

/-- The lock of a device that is down is taken by someone else. -/
theorem lockProv_leavesState_down :
    ((sdState ⟨[], 0⟩).after (⟨0, true, false⟩, []) (untilSetLock alreadyLocked)).1 = ⟨0, true, false⟩ := by
  have hrun : Run (lockProv ⟨[], 0⟩ ⟨1, some ⟨.sms, 0⟩⟩) (untilSetLock alreadyLocked)
      (.ret (errSdLock, ⟨1, some ⟨.sms, 0⟩⟩)) :=
    .call (run_bound_one (.call (.call (run_bound_one (.call (.call (.call (run_bound_one (.call
      (run_bound_one (.call (.done _))))))))))))
  have hmeets : (sdState ⟨[], 0⟩).Meets (⟨0, true, false⟩, []) (untilSetLock alreadyLocked) :=
    ⟨trivial, fun _ _ ↦ rfl, trivial, fun _ ↦ trivial, trivial, trivial, fun _ _ ↦ rfl, fun _ _ ↦ .inl rfl, trivial⟩
  exact (lockProv_leavesState hrun hmeets).2 ⟨fun _ _ hup ↦ (nomatch hup), fun _ _ ↦ rfl⟩ (by decide)

/-- The database refuses the provisioning lock after the low-level lock was taken, which stays. -/
theorem lockProv_keeps_lock : ∃ trace csp',
    Run (lockProv ⟨[], 0⟩ ⟨1, some ⟨.sms, 0⟩⟩) trace (.ret (errDbFailed, csp')) ∧
    (sdState ⟨[], 0⟩).Meets (⟨0, false, true⟩, []) trace ∧
    ((sdState ⟨[], 0⟩).after (⟨0, false, true⟩, []) trace).1 = ⟨0, true, false⟩ := by
  have hrun : Run (lockProv ⟨[], 0⟩ ⟨1, some ⟨.sms, 0⟩⟩) (untilSetLock okLocked ++ [⟨.readShutdown, false⟩,
      ⟨.sql ⟨.sms, 0⟩ (.setSDprovlock ⟨[], 0⟩ 1), ⟨errDbFailed, ()⟩⟩]) (.ret (errDbFailed, ⟨1, some ⟨.sms, 0⟩⟩)) :=
    .call (run_bound_one (.call (.call (run_bound_one (.call (.call (.call (run_bound_one (.call
      (run_bound_one (.call (.call (run_bound_one (.call (.done _)))))))))))))))
  exact ⟨_, _, hrun, ⟨trivial, fun _ _ ↦ rfl, trivial, fun _ ↦ trivial, trivial, trivial, fun _ _ ↦ rfl,
    fun _ _ ↦ rfl, trivial, nofun, trivial⟩, rfl⟩

end CoreEngine.Smsd
