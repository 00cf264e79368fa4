import CoreEngine.Smsd.LockRow

/-!
# Lost attempts to lock

`HA_SMSSQL_SetLock` repeats its call when the connection is lost, like its siblings. A lost call may have taken
effect, and then the next one finds the lock that this task has set itself.
-/

namespace CoreEngine.Smsd

open Interaction
open Program (Run)

/-- The low-level lock of a device, and how many calls of `SMSSQL_SetLock` were lost. -/
structure LostCalls where
  locked : Bool
  lost : ℕ
  deriving DecidableEq, Repr

namespace LostCalls

def start : LostCalls := ⟨false, 0⟩

/-- A call of `SMSSQL_SetLock` that ended with `ret`. -/
def setLock (took : ℕ → Bool) (g : LostCalls) (ret : Int) : LostCalls :=
  if ret = errDbConnectionLost then ⟨g.locked || took g.lost, g.lost + 1⟩
  else if ret = smsOk then { g with locked := true }
  else g

end LostCalls

/-- A device that is not locked for provisioning, no other task, and no shutdown. The lost call number `n` of
`SMSSQL_SetLock` has taken effect if `took n`; a lock that is old enough may be taken over. -/
def losingCalls (took : ℕ → Bool) : Monitor signature LostCalls where
  allow _ _ := True
  expect g op answer := match op, answer with
    | .readShutdown, shutdownRequired => shutdownRequired = false
    | .sql _ (.getSDprovlock _), reply => reply.ret = smsOk → reply.output = 0
    | .sql _ (.setLock _), reply => reply.ret = smsOk →
        if g.locked then reply.output = alreadyLocked ∨ reply.output = okLockedByTimeout
        else reply.output = okLocked
    | _, _ => True
  next g op answer := match op, answer with
    | .sql _ (.setLock _), reply => g.setLock took reply.ret
    | _, _ => g

/-- With `n` lost calls, whoever gets `SMS_OK` has got the lock. -/
def GetsLock (took : ℕ → Bool) (n : ℕ) : Prop :=
  ∀ ctx key trace reply, Run (haSmssqlSetLock ctx key) trace (.ret reply) →
    (losingCalls took).Meets .start trace → ((losingCalls took).after .start trace).lost = n →
    reply.ret = smsOk → reply.output = okLocked ∧ ((losingCalls took).after .start trace).locked = true

namespace LostCalls

variable {took : ℕ → Bool} {g : LostCalls} {ctx : Ctx} {key : SdKey}

theorem setLock_lost : g.setLock took errDbConnectionLost = ⟨g.locked || took g.lost, g.lost + 1⟩ := if_pos rfl

theorem setLock_ok : g.setLock took smsOk = { g with locked := true } := rfl

/-- Nothing has taken effect unless one of the lost calls has. -/
def Unlocked (took : ℕ → Bool) (g : LostCalls) : Prop := (∀ i < g.lost, took i = false) → g.locked = false

theorem Unlocked.lost (hunlocked : Unlocked took g) : Unlocked took (g.setLock took errDbConnectionLost) := by
  rw [setLock_lost]
  intro hnone
  have hlocked : g.locked = false := hunlocked fun i hi ↦ hnone i (Nat.lt_succ_of_lt hi)
  rw [hlocked, hnone g.lost (Nat.lt_succ_self _)]
  rfl

/-- Who gets `SMS_OK` finds the device locked, and has locked it unless a lost call has. -/
def Granted (took : ℕ → Bool) (reply : Reply Int) (g : LostCalls) : Prop :=
  reply.ret = smsOk → g.locked = true ∧ ((∀ i < g.lost, took i = false) → reply.output = okLocked)

theorem safe_retry_setLock (hunlocked : Unlocked took g) :
    (retry ctx .sms (.setLock key)).Safe (losingCalls took) (Granted took) g := by
  apply safe_retry_of_inv (Unlocked took) (fun _ ↦ ⟨trivial, fun _ ↦ rfl⟩) (fun _ ↦ ⟨trivial, fun _ ↦ rfl⟩) _
    hunlocked
  intro g hunlocked
  refine ⟨trivial, fun reply hexpect ↦ ?_⟩
  show if _ then Unlocked took (g.setLock took reply.ret) ∧ _ else Granted took reply (g.setLock took reply.ret)
  by_cases hlost : reply.ret = errDbConnectionLost
  · rw [if_pos hlost, hlost]
    exact ⟨hunlocked.lost, nofun⟩
  · rw [if_neg hlost]
    intro hret
    rw [hret, setLock_ok]
    refine ⟨rfl, fun hnone ↦ ?_⟩
    have houtput := hexpect hret
    rwa [hunlocked hnone] at houtput

/-- The provisioning lock is read first: it is clear, and nothing changes. -/
theorem safe_getSDprovlock : (haSmssqlGetSDprovlock ctx key).Safe (losingCalls took)
    (fun reply g' ↦ g' = g ∧ (reply.ret = smsOk → reply.output = 0)) g := by
  refine ⟨trivial, fun shutdownRequired hanswer ↦ ?_⟩
  obtain rfl : shutdownRequired = false := hanswer
  apply safe_retry_of_inv (· = g) (fun _ ↦ ⟨trivial, fun _ ↦ rfl⟩) (fun _ ↦ ⟨trivial, fun _ ↦ rfl⟩) _ rfl
  rintro _ rfl
  refine ⟨trivial, fun reply hexpect ↦ ?_⟩
  split
  · exact ⟨rfl, rfl, nofun⟩
  · exact ⟨rfl, hexpect⟩

theorem safe_haSmssqlSetLock : (haSmssqlSetLock ctx key).Safe (losingCalls took) (Granted took) .start := by
  refine ⟨trivial, fun shutdownRequired hanswer ↦ ?_⟩
  obtain rfl : shutdownRequired = false := hanswer
  show Program.Safe _ (haSmssqlGetSDprovlock ctx key >>= _) _ _
  rw [Program.safe_bind]
  apply safe_getSDprovlock.mono
  rintro provlock _ ⟨rfl, hclear⟩
  by_cases hret : provlock.ret ≠ 0
  · rw [if_pos hret]
    exact fun hok ↦ absurd hok hret
  · rw [if_neg hret, if_neg (not_not.2 (hclear (not_not.1 hret)))]
    exact safe_retry_setLock fun _ ↦ rfl

section Possible

/-- The lock is set, or one of the next `n` lost calls will set it. -/
def Blocks (took : ℕ → Bool) (n : ℕ) (g : LostCalls) : Prop :=
  g.locked = true ∨ ∃ i < n, took (g.lost + i) = true

/-- After the lost calls, the next one finds the device locked. -/
theorem may_retry_setLock (n : ℕ) (hblocks : Blocks took n g) :
    (retry ctx .sms (.setLock key)).May (losingCalls took)
      (fun reply g' ↦ reply = ⟨smsOk, alreadyLocked⟩ ∧ g'.lost = g.lost + n) g := by
  induction n generalizing g with
  | zero =>
    have hlocked : g.locked = true := hblocks.resolve_right fun ⟨_, hlt, _⟩ ↦ nomatch hlt
    have hexpect : (losingCalls took).expect g (.sql ctx (.setLock key)) (⟨smsOk, alreadyLocked⟩ : Reply Int) := by
      intro _
      rw [hlocked]
      exact Or.inl rfl
    apply Program.may_loop
    exact ⟨⟨smsOk, alreadyLocked⟩, hexpect, rfl, rfl⟩
  | succ n ih =>
    have hexpect : (losingCalls took).expect g (.sql ctx (.setLock key)) (⟨errDbConnectionLost, 0⟩ : Reply Int) :=
      nofun
    have hnext : Blocks took n (g.setLock took errDbConnectionLost) := by
      rw [setLock_lost]
      rcases hblocks with hlocked | ⟨i, hi, hi'⟩
      · exact Or.inl (by simp [hlocked])
      · cases i with
        | zero => exact Or.inl (by simp [show took g.lost = true from hi'])
        | succ i => exact Or.inr ⟨i, Nat.lt_of_succ_lt_succ hi, by rwa [Nat.add_assoc, Nat.add_comm 1 i]⟩
    apply Program.may_loop
    refine ⟨⟨errDbConnectionLost, 0⟩, hexpect, (), trivial, false, rfl, ?_⟩
    apply (ih hnext).mono
    rintro reply g' ⟨hreply, hlost⟩
    refine ⟨hreply, ?_⟩
    rw [hlost, setLock_lost, Nat.add_assoc, Nat.add_comm 1 n]

theorem may_haSmssqlSetLock (n : ℕ) (hblocks : ∃ i < n, took i = true) :
    (haSmssqlSetLock ctx key).May (losingCalls took)
      (fun reply g' ↦ reply = ⟨smsOk, alreadyLocked⟩ ∧ g'.lost = n) .start := by
  refine ⟨false, rfl, ?_⟩
  show Program.May _ (haSmssqlGetSDprovlock ctx key >>= _) _ _
  rw [Program.may_bind]
  refine ⟨false, rfl, ?_⟩
  apply Program.may_loop
  refine ⟨⟨smsOk, 0⟩, fun _ ↦ rfl, ?_⟩
  have hstart : Blocks took n .start := Or.inr (by simpa [start] using hblocks)
  apply (may_retry_setLock n hstart).mono
  rintro reply g' ⟨hreply, hlost⟩
  exact ⟨hreply, hlost.trans (Nat.zero_add n)⟩

end Possible

end LostCalls

/-- A lost call that has taken effect locks the caller out. -/
theorem not_getsLock {took : ℕ → Bool} {n : ℕ} (hblocks : ∃ i < n, took i = true) : ¬GetsLock took n := by
  intro hgets
  have hmay : (haSmssqlSetLock ⟨.sms, 0⟩ ⟨"ABC".toList, 123⟩).May (losingCalls took)
      (fun reply g ↦ reply = ⟨smsOk, alreadyLocked⟩ ∧ g.lost = n) .start :=
    LostCalls.may_haSmssqlSetLock n hblocks
  obtain ⟨trace, reply, hrun, hmeets, rfl, hlost⟩ := hmay.exists_run
  exact absurd (hgets _ _ trace _ hrun hmeets hlost rfl).1 (by decide)

/-- For every number of lost calls, `SMS_OK` means that this task has locked the device exactly if none of them
has taken effect. -/
theorem getsLock_iff (took : ℕ → Bool) (n : ℕ) : GetsLock took n ↔ ∀ i < n, took i = false := by
  constructor
  · intro hgets
    by_contra hnone
    exact not_getsLock (by simpa using hnone) hgets
  · intro hnone ctx key trace reply hrun hmeets hlost hret
    have hgranted := hrun.returns LostCalls.safe_haSmssqlSetLock hmeets hret
    rw [hlost] at hgranted
    exact ⟨hgranted.2 hnone, hgranted.1⟩

/-- One call is lost after it has locked the device. -/
theorem not_getsLock_once : ¬GetsLock (fun _ ↦ true) 1 := not_getsLock ⟨0, by decide, rfl⟩

end CoreEngine.Smsd
