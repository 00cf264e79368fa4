import CoreEngine.Smsd.LockRow
import CoreEngine.Smsd.Simulator

/-!
# Provisioning against updates

Scripts of any number of tasks call the lock functions of one device. Both lock paths look at one
column and then write the other. As long as what they have seen still holds when they write, no
update runs on a device that is locked for provisioning; otherwise it may.
-/

namespace CoreEngine.Smsd

open Interaction
open Procedure (lift Stable Triple triple_bind triple_ite triple_lift triple_call triple_pure)
open Program (Only Offers)
open Config (Reach)

/-- How a task has taken the low-level lock. -/
inductive Grip
  | none
  | update
  | provisioning
  deriving DecidableEq, Repr

/-- The function that a script is calling, the last value it saw in `sd_prov_lock`, and how it took
the low-level lock. -/
structure LockCaller where
  function : Option PhpFunction
  seen : Int
  grip : Grip
  deriving DecidableEq, Repr

/-- The low-level lock is taken only after a look at `sd_prov_lock` that found it clear, and
`sd_prov_lock` is set only after the low-level lock was taken for that, or after a look that found
it set. -/
def lockCaller (key : SdKey) : Monitor signature LockCaller where
  allow caller op := match op with
    | .sql _ (.setLock k) => k = key → caller.seen = 0
    | .sql _ (.setSDprovlock k provlock) =>
        k = key → provlock ≠ 0 → caller.grip ≠ .provisioning → caller.seen ≠ 0
    | _ => True
  expect _ op answer := match op, answer with
    | .readShutdown, shutdownRequired => shutdownRequired = false
    | .sql _ (.setLock k), reply =>
        reply.ret = 0 ∧ (k = key → reply.output = alreadyLocked ∨ reply.output = okLocked)
    | .sql _ _, reply => reply.ret = 0
    | _, _ => True
  next caller op answer := match op, answer with
    | .scriptStep, .call request => { caller with function := some request.function }
    | .sql _ (.getSDprovlock k), reply =>
        if k = key then { caller with seen := reply.output } else caller
    | .sql _ (.setLock k), reply =>
        if k = key ∧ reply.output = okLocked then
          { caller with
            grip := if caller.function = some .smsSdLock then .update else .provisioning }
        else caller
    | .sql _ (.unLock k), _ => if k = key then { caller with grip := .none } else caller
    | _, _ => caller

instance (key : SdKey) : Reliable (lockCaller key) where
  allow_shutdown _ := trivial
  next_shutdown _ _ := rfl
  shutdown hanswer := hanswer
  sql {_ _ query _} hreply := by
    cases query <;> first | exact hreply.1 | exact hreply

theorem lockCaller_ignores {key : SdKey} {op : Op} (hop : op.OnDatabase 0) :
    (lockCaller key).Ignores op := by
  intro caller
  cases op with
  | sql ctx query =>
    cases query <;> first | exact ⟨trivial, fun _ ↦ rfl⟩ | exact absurd hop (Nat.not_succ_le_zero _)
  | _ => first | exact ⟨trivial, fun _ ↦ rfl⟩ | exact hop.elim

theorem lockCaller_ignores_lookup {key : SdKey} (ctx : Ctx) (query : Sql)
    (hquery : query.isLookup = true) : (lockCaller key).Ignores (.sql ctx query) := by
  cases query <;> first | exact fun _ ↦ ⟨trivial, fun _ ↦ rfl⟩ | cases hquery

instance {key : SdKey} {inv : Client → LockCaller → Prop} : StackDiscipline (lockCaller key) inv :=
  stackDiscipline_of_ignores fun _ ↦ ⟨trivial, fun _ ↦ rfl⟩

namespace LockCaller

section Functions

variable {key : SdKey} {ctx : Ctx} {caller : LockCaller}

theorem safe_getSDprovlock {post : Reply Int → LockCaller → Prop}
    (hpost : ∀ seen, post ⟨0, seen⟩ { caller with seen := seen }) :
    (haSmssqlGetSDprovlock ctx key).Safe (lockCaller key) post caller := by
  refine safe_ha trivial ?_
  rintro ⟨ret, seen⟩ - hret
  obtain rfl : ret = 0 := hret
  show post ⟨0, seen⟩ (if key = key then _ else _)
  rw [if_pos rfl]
  exact hpost seen

theorem safe_unLock {post : Reply Unit → LockCaller → Prop}
    (hpost : post ⟨0, ()⟩ { caller with grip := .none }) :
    (haSmssqlUnLock ctx key).Safe (lockCaller key) post caller := by
  refine safe_ha trivial ?_
  rintro ⟨ret, output⟩ - hret
  obtain rfl : ret = 0 := hret
  show post ⟨0, ()⟩ (if key = key then _ else _)
  rw [if_pos rfl]
  exact hpost

/-- The three outcomes of `HA_SMSSQL_SetLock`. -/
theorem safe_setLock {post : Reply Int → LockCaller → Prop}
    (hprovlocked : ∀ seen ≠ 0, post ⟨0, alreadyProvlocked⟩ { caller with seen := seen })
    (hlocked : post ⟨0, alreadyLocked⟩ { caller with seen := 0 })
    (hok : post ⟨0, okLocked⟩ { caller with
      seen := 0
      grip := if caller.function = some .smsSdLock then .update else .provisioning }) :
    (haSmssqlSetLock ctx key).Safe (lockCaller key) post caller := by
  have hseen (seen : Int) : (lockCaller key).next caller (.sql ctx (.getSDprovlock key))
      (⟨0, seen⟩ : Reply Int) = { caller with seen := seen } := if_pos rfl
  refine safe_haSmssqlSetLock trivial (fun seen hne ↦ ?_) ?_
  · rw [hseen]
    exact hprovlocked seen hne
  · rintro caller' rfl
    rw [hseen]
    refine ⟨fun _ ↦ rfl, fun lockState hreply ↦ ?_⟩
    show post ⟨0, lockState⟩ (if key = key ∧ lockState = okLocked then _ else _)
    rcases hreply.2 rfl with rfl | rfl
    · rw [if_neg fun hstate ↦ nomatch hstate.2]
      exact hlocked
    · rw [if_pos ⟨rfl, rfl⟩]
      exact hok

theorem safe_lockProvOn (hfunction : caller.function ≠ some .smsSdLock)
    (houtside : caller.grip ≠ .provisioning) :
    (lockProvOn ctx key).Safe (lockCaller key) (fun _ caller ↦ caller.grip ≠ .provisioning)
      caller := by
  have hset (caller : LockCaller) (hallow : caller.grip ≠ .provisioning → caller.seen ≠ 0) :
      Program.Safe (lockCaller key) (do
        let set ← haSmssqlSetSDprovlock ctx key 1
        if set.ret ≠ 0 then pure set.ret else do
          let _ ← haSmssqlUnLock ctx key
          pure set.ret) (fun _ caller ↦ caller.grip ≠ .provisioning) caller := by
    rw [Program.safe_bind]
    refine safe_ha (fun _ _ ↦ hallow) ?_
    rintro ⟨ret, output⟩ - hret
    obtain rfl : ret = 0 := hret
    rw [if_neg (by simp), Program.safe_bind]
    exact safe_unLock nofun
  unfold lockProvOn
  rw [Program.safe_bind]
  refine safe_getSDprovlock fun first ↦ ?_
  rw [if_neg (by simp), Program.safe_bind]
  refine safe_ha trivial ?_
  rintro ⟨ret, output⟩ - -
  by_cases hfirst : first = 1
  · rw [if_pos hfirst]
    exact houtside
  · rw [if_neg hfirst, Program.safe_bind]
    refine safe_setLock (fun seen hseen ↦ ?_) ?_ ?_
    · exact hset _ fun _ ↦ hseen
    · exact houtside
    · exact hset _ fun hgrip ↦ absurd (if_neg hfunction) hgrip

end Functions

section Scripts

variable {key : SdKey}

/-- Between its calls a script is not in the middle of `lockProv`. -/
def Outside (_csp : Client) (caller : LockCaller) : Prop := caller.grip ≠ .provisioning

/-- A script begins to call a function. -/
def Calling (request : PhpCall) (csp : Client) (caller : LockCaller) : Prop :=
  Outside csp caller ∧ caller.function = some request.function

instance : ContextDiscipline (lockCaller key) Outside :=
  contextDiscipline_of_ignores (fun _ ↦ lockCaller_ignores) (fun _ _ _ houtside ↦ houtside)
    lockCaller_ignores_lookup

instance : SocketDiscipline (lockCaller key) Outside := by
  refine socketDiscipline_of_ignores (fun op hop ↦ ?_) fun _ _ _ houtside ↦ houtside
  cases op <;> first | exact hop.elim | exact fun _ ↦ ⟨trivial, fun _ ↦ rfl⟩

instance : ReplyDiscipline (lockCaller key) Outside :=
  replyDiscipline_of_ignores fun _ ↦ ⟨trivial, fun _ ↦ rfl⟩

theorem safe_unlockProvOn {ctx : Ctx} {caller : LockCaller} (houtside : caller.grip ≠ .provisioning) :
    (unlockProvOn ctx key).Safe (lockCaller key) (fun _ caller ↦ caller.grip ≠ .provisioning)
      caller := by
  refine ⟨trivial, fun dbCust _ ↦ ?_⟩
  show Program.Safe (lockCaller key) (haSmssqlSetSDprovlock ctx key 0 >>= _) _ caller
  rw [Program.safe_bind]
  refine safe_ha ?_ fun _ _ _ ↦ ?_
  · exact fun _ hzero ↦ absurd rfl hzero
  · rw [Program.safe_bind]
    exact safe_ha trivial fun _ _ _ ↦ houtside

/-- Every function returns outside `lockProv`, if the locks are those of the device in question. -/
theorem triple_callPhp (request : PhpCall) (csp : Bool) {info : Option SdInfo}
    (hinfo : ∀ info' ∈ info, info'.sd.key = key) :
    Triple (lockCaller key) (Calling request) (callPhp csp info request.function)
      fun _ ↦ Outside := by
  have hborrow {α : Type} {borrower : Borrower} {body : Ctx → Code α}
      (hbody : ∀ ctx (caller : LockCaller), caller.grip ≠ .provisioning →
        caller.function = some request.function → (body ctx).Safe (lockCaller key)
          (fun _ caller ↦ caller.grip ≠ .provisioning) caller) :
      Triple (lockCaller key) (Calling request) (borrowDbCtx borrower body) fun _ ↦ Outside := by
    show Triple (lockCaller key)
      (fun _ caller ↦ caller.grip ≠ .provisioning ∧ caller.function = some request.function) _
      fun _ _ caller ↦ caller.grip ≠ .provisioning
    refine triple_borrowDbCtx_of_ignores (fun _ ↦ lockCaller_ignores) fun ctx caller hcalling ↦ ?_
    exact hbody ctx caller hcalling.1 hcalling.2
  refine Smsd.triple_callPhp csp hinfo (fun _ _ hcalling ↦ hcalling.1) (fun hlock ↦ ?_) (fun _ ↦ ?_)
    (fun hprovLock ↦ ?_) fun _ ↦ ?_
  · refine triple_bind (hborrow fun ctx caller houtside hfunction ↦ ?_) fun reply ↦ Stable.triple
    refine safe_setLock (fun _ _ ↦ houtside) houtside ?_
    simp [hfunction, hlock]
  · exact triple_bind (hborrow fun ctx caller _ _ ↦ safe_unLock nofun) fun reply ↦ Stable.triple
  · refine hborrow fun ctx caller houtside hfunction ↦ safe_lockProvOn ?_ houtside
    rw [hfunction, hprovLock]
    nofun
  · refine triple_bind (hborrow fun ctx caller houtside _ ↦ safe_unlockProvOn houtside) fun result ↦ ?_
    have hrelease : Stable (lockCaller key) Outside (lift (releaseCtx (some result.2))) :=
      stable_ask_of_ignores (lockCaller_ignores trivial)
    exact Stable.triple

theorem triple_script {script : Script} (hscript : ∀ info ∈ script.sdInfo, info.sd.key = key) :
    Triple (lockCaller key) Outside (smsModPhpExecuteScript script) fun _ ↦ Outside := by
  have hask {op : Op} (hop : (lockCaller key).Ignores op) :
      Triple (lockCaller key) Outside (lift (ask op)) fun _ ↦ Outside :=
    (stable_ask_of_ignores hop).triple
  have hstep : Triple (lockCaller key) Outside (lift (ask .scriptStep)) fun step csp caller ↦
      step.elim (Calling · csp caller) fun _ ↦ Outside csp caller := by
    refine Procedure.triple_call (fun _ _ _ ↦ trivial) fun csp caller step houtside _ ↦ ?_
    cases step with
    | call request => exact ⟨houtside, rfl⟩
    | exit ret returnBuf outputBuf => exact houtside
  refine triple_executeScript (hask fun _ ↦ ⟨trivial, fun _ ↦ rfl⟩) hstep (fun request ↦ ?_)
    fun value ↦ hask fun _ ↦ ⟨trivial, fun _ ↦ rfl⟩
  exact triple_callPhp request _ fun info hinfo ↦ hscript info (mem_of_request hinfo)

end Scripts

end LockCaller

section Race

variable {ι : Type} [DecidableEq ι] {key : SdKey}

/-- What a lock function has seen still holds when it writes: `sd_prov_lock`, when `lockSD` takes the
low-level lock; the low-level lock that `lockProv` has taken, or else `sd_prov_lock`, when it sets
`sd_prov_lock`. -/
def stillSo (key : SdKey) : Guard signature ι (LockRow ι) LockCaller := fun row callers i op _ ↦
  match op with
  | .sql _ (.setLock k) => k = key → row.holder = none →
      (callers i).function = some .smsSdLock → row.provLock = (callers i).seen
  | .sql _ (.setSDprovlock k provlock) => k = key → provlock ≠ 0 →
      if (callers i).grip = .provisioning then row.holder = some i
      else row.provLock = (callers i).seen
  | _ => True

/-- Every task runs a script, and none has called a lock function yet. -/
def lockScripts (scripts : ι → Script) (csps : ι → Client) (provLock : Int) :
    Config signature ι (LockRow ι) LockCaller (ScriptExit × Client) :=
  ⟨⟨provLock, none⟩, fun _ ↦ ⟨none, 0, .none⟩, fun i ↦ smsModPhpExecuteScript (scripts i) (csps i)⟩

/-- The device is not locked for provisioning while a task holds the low-level lock for an update. -/
def Excluded (row : LockRow ι) (callers : ι → LockCaller) : Prop :=
  ∀ i, (callers i).grip = .update → row.holder = some i → row.provLock = 0

omit [DecidableEq ι] in
theorem expect_of_lockTable {row row' : LockRow ι} {i : ι} {op : Op} {answer : op.Answer}
    {caller : LockCaller} (htable : lockTable key row i op answer row') :
    (lockCaller key).expect caller op answer := by
  obtain ⟨hanswers, -⟩ := htable
  cases op with
  | readShutdown => exact hanswers
  | sql ctx query =>
    cases query with
    | setLock k =>
      refine ⟨hanswers.1, fun hkey ↦ ?_⟩
      rw [hanswers.2 hkey]
      cases row.holder.isSome
      · exact Or.inr rfl
      · exact Or.inl rfl
    | _ => exact hanswers.1
  | _ => trivial

/-- A step that neither takes the low-level lock for an update nor sets `sd_prov_lock` keeps the
exclusion, if the row and the grip of the task allow no new update. -/
theorem Excluded.update {row row' : LockRow ι} {callers : ι → LockCaller} {i : ι}
    {caller : LockCaller} (hexcluded : Excluded row callers)
    (hothers : ∀ j ≠ i, row'.holder = some j → row.holder = some j ∧ row'.provLock = row.provLock)
    (hself : caller.grip = .update → row'.holder = some i → row'.provLock = 0) :
    Excluded row' (Function.update callers i caller) := by
  intro j hgrip hholder
  by_cases hj : j = i
  · subst hj
    rw [Function.update_self] at hgrip
    exact hself hgrip hholder
  · rw [Function.update_of_ne hj] at hgrip
    obtain ⟨hheld, hprov⟩ := hothers j hj hholder
    rw [hprov]
    exact hexcluded j hgrip hheld

/-- A step that leaves the row and the grip of the task alone. -/
theorem Excluded.keep {row : LockRow ι} {callers : ι → LockCaller} {i : ι} {caller : LockCaller}
    (hexcluded : Excluded row callers) (hgrip : caller.grip = (callers i).grip) :
    Excluded row (Function.update callers i caller) := by
  refine hexcluded.update (fun j _ hholder ↦ ⟨hholder, rfl⟩) fun hupdate hholder ↦ ?_
  rw [hgrip] at hupdate
  exact hexcluded i hupdate hholder

omit [DecidableEq ι] in
/-- `sd_prov_lock` is set only while no task holds the low-level lock for an update. -/
theorem Excluded.setSDprovlock {row : LockRow ι} {callers : ι → LockCaller} {i : ι} {provlock : Int}
    (hexcluded : Excluded row callers)
    (hallow : provlock ≠ 0 → (callers i).grip ≠ .provisioning → (callers i).seen ≠ 0)
    (hguard : provlock ≠ 0 → if (callers i).grip = .provisioning then row.holder = some i
      else row.provLock = (callers i).seen) :
    Excluded { row with provLock := provlock } callers := by
  intro j hupdate hholder
  by_contra hprov
  have hstill := hguard hprov
  by_cases hgrip : (callers i).grip = .provisioning
  · rw [if_pos hgrip] at hstill
    obtain rfl : i = j := Option.some.inj (hstill.symm.trans hholder)
    rw [hgrip] at hupdate
    cases hupdate
  · rw [if_neg hgrip] at hstill
    apply hallow hprov hgrip
    rw [← hstill]
    exact hexcluded j hupdate hholder

/-- The low-level lock is taken for an update only while `sd_prov_lock` is clear. -/
theorem Excluded.setLock {row : LockRow ι} {callers : ι → LockCaller} {i : ι} {grip : Grip}
    (hexcluded : Excluded row callers) (hfree : row.holder = none)
    (hprov : grip = .update → row.provLock = 0) :
    Excluded { row with holder := row.holder.or (some i) }
      (Function.update callers i { callers i with grip := grip }) := by
  refine hexcluded.update (fun j hj hholder ↦ ?_) fun hupdate _ ↦ hprov hupdate
  rw [hfree] at hholder
  exact absurd (Option.some.inj hholder).symm hj

theorem Excluded.step {row row' : LockRow ι} {callers : ι → LockCaller} {i : ι} {op : Op}
    {answer : op.Answer} (hexcluded : Excluded row callers)
    (hallow : (lockCaller key).allow (callers i) op) (htable : lockTable key row i op answer row')
    (hguard : stillSo key row callers i op answer) :
    Excluded row' (Function.update callers i ((lockCaller key).next (callers i) op answer)) := by
  obtain ⟨hanswers, rfl⟩ := htable
  cases op with
  | scriptStep => cases answer <;> exact hexcluded.keep rfl
  | sql ctx query =>
    cases query with
    | setSDprovlock k provlock =>
      show Excluded (row.call key i (.setSDprovlock k provlock)) (Function.update callers i (callers i))
      rw [Function.update_eq_self]
      by_cases hkey : k = key
      · subst hkey
        rw [LockRow.call_setSDprovlock]
        exact hexcluded.setSDprovlock (hallow rfl) (hguard rfl)
      · rw [LockRow.call, if_neg hkey]
        exact hexcluded
    | getSDprovlock k =>
      by_cases hkey : k = key
      · exact hexcluded.keep (by simp [lockCaller, hkey])
      · exact hexcluded.keep (by simp [lockCaller, hkey])
    | setLock k =>
      show Excluded (row.call key i (.setLock k)) (Function.update callers i
        (if k = key ∧ answer.output = okLocked then _ else _))
      by_cases hkey : k = key
      · subst hkey
        rw [LockRow.call_setLock]
        have houtput := hanswers.2 rfl
        cases hholder : row.holder with
        | none =>
          rw [hholder] at houtput
          rw [if_pos ⟨rfl, houtput⟩, ← hholder]
          refine hexcluded.setLock hholder fun hgrip ↦ ?_
          have hfunction : (callers i).function = some .smsSdLock := by
            by_contra hother
            rw [if_neg hother] at hgrip
            cases hgrip
          rw [hguard rfl hholder hfunction]
          exact hallow rfl
        | some j =>
          have hlocked : answer.output = alreadyLocked := by simpa [hholder] using houtput
          have hnot : ¬(k = k ∧ answer.output = okLocked) := by
            rw [hlocked]
            simp [alreadyLocked, okLocked]
          rw [if_neg hnot, Option.some_or, ← hholder]
          exact hexcluded.keep rfl
      · rw [LockRow.call, if_neg hkey, if_neg fun hboth ↦ hkey hboth.1]
        exact hexcluded.keep rfl
    | unLock k =>
      by_cases hkey : k = key
      · subst hkey
        show Excluded (row.call k i (.unLock k)) _
        rw [LockRow.call_unLock]
        exact fun j _ hholder ↦ absurd hholder.symm (Option.some_ne_none j)
      · show Excluded (row.call key i (.unLock k)) _
        rw [LockRow.call, if_neg hkey]
        exact hexcluded.keep (by simp [lockCaller, hkey])
    | unLockAll message => exact fun j _ hholder ↦ absurd hholder.symm (Option.some_ne_none j)
    | _ => exact hexcluded.keep rfl
  | _ => exact hexcluded.keep rfl

/-- In every run in which what the lock functions have seen still holds when they write, no update
runs on a device that is locked for provisioning. -/
theorem update_excludes_provisioning {scripts : ι → Script} {csps : ι → Client} {provLock : Int}
    (hscripts : ∀ i, ∀ info ∈ (scripts i).sdInfo, info.sd.key = key)
    {config : Config signature ι (LockRow ι) LockCaller (ScriptExit × Client)}
    (hreach : Reach (lockTable key) (lockCaller key) (stillSo key)
      (lockScripts scripts csps provLock) config) (i : ι)
    (hupdate : (config.ghosts i).grip = .update) (hholder : config.shared.holder = some i) :
    config.shared.provLock = 0 := by
  have hinvariant : Excluded config.shared config.ghosts ∧ ∀ i, (config.tasks i).Safe
      (lockCaller key) (fun _ caller ↦ caller.grip ≠ .provisioning) (config.ghosts i) := by
    refine hreach.invariant ?_ ?_ nofun fun i ↦ ?_
    · intro row callers i op answer row' _ htable _
      exact expect_of_lockTable htable
    · intro row callers i op answer row' hexcluded hallow htable hguard
      exact hexcluded.step hallow htable hguard
    · exact LockCaller.triple_script (hscripts i) (csps i) _ nofun
  exact hinvariant.1 i hupdate hholder

/-- A script of the device that locks it. -/
def lockingScript : Script :=
  deviceScript Sim.plainDevice "do_update_conf.php" [.csp, .sdInfo Sim.plainDevice]

/-- A test for `stillSo` that does not ask which function is being called. -/
def seenStands (state : LockRow ℕ × Sim) (callers : ℕ → LockCaller) (i : ℕ) : Op → Bool
  | .sql _ (.setLock _) => state.1.provLock = (callers i).seen
  | .sql _ (.setSDprovlock _ provlock) => provlock ≠ 0 →
      if (callers i).grip = .provisioning then state.1.holder = some i
      else state.1.provLock = (callers i).seen
  | _ => true

theorem stillSo_of_seenStands (key : SdKey) (state : LockRow ℕ × Sim) (callers : ℕ → LockCaller)
    (i : ℕ) (op : Op) (answer : op.Answer) (hstands : seenStands state callers i op = true) :
    stillSo key state.1 callers i op answer := by
  cases op with
  | sql ctx query =>
    cases query with
    | setLock k => exact fun _ _ _ ↦ of_decide_eq_true hstands
    | setSDprovlock k provlock => exact fun _ ↦ of_decide_eq_true hstands
    | _ => trivial
  | _ => trivial

/-- The first task calls `sms_sd_lock` twice. The second one locks the device for provisioning,
unlocks it and locks it again. -/
def turns : Sim :=
  { Sim.single [] [] with
    steps := fun i ↦ if i = 0 then [Sim.call .smsSdLock, Sim.call .smsSdLock]
      else [Sim.call .smsSdProvLock, Sim.call .smsSdProvUnlock, Sim.call .smsSdProvLock] }

def turnsStart : Config signature ℕ (LockRow ℕ × Sim) LockCaller (ScriptExit × Client) :=
  ⟨(⟨0, none⟩, turns), fun _ ↦ ⟨none, 0, .none⟩,
    fun _ ↦ smsModPhpExecuteScript lockingScript ⟨-1, none⟩⟩

/-- `lockSD` is refused while the device is locked for provisioning, and takes the lock afterwards;
`lockProv` is refused then. -/
theorem update_excludes_provisioning_turns :
    ∃ config : Config signature ℕ (LockRow ℕ) LockCaller (ScriptExit × Client),
      Reach (lockTable Sim.plainDevice.sd.key) (lockCaller Sim.plainDevice.sd.key)
        (stillSo Sim.plainDevice.sd.key)
        (lockScripts (fun _ ↦ lockingScript) (fun _ ↦ ⟨-1, none⟩) 0) config ∧
      (config.ghosts 0).grip = .update ∧ config.shared.holder = some 0 ∧
      config.shared.provLock = 0 := by
  have hrun : ((Config.run (lockCaller Sim.plainDevice.sd.key)
      (LockRow.respond Sim.plainDevice.sd.key id) seenStands 4
      (List.replicate 14 1 ++ List.replicate 9 0 ++ List.replicate 12 1 ++ List.replicate 5 0 ++
        List.replicate 9 1) turnsStart).map
      fun config ↦ ((config.ghosts 0).grip, config.shared.1.holder)) = some (.update, some 0) := by
    decide +kernel
  obtain ⟨config, hconfig, hpair⟩ := Option.map_eq_some_iff.1 hrun
  obtain ⟨hgrip, hholder⟩ := Prod.mk.inj hpair
  have hreach := LockRow.reach_of_run (stillSo_of_seenStands Sim.plainDevice.sd.key) hconfig
  refine ⟨_, hreach, hgrip, hholder, update_excludes_provisioning ?_ hreach 0 hgrip hholder⟩
  intro i info hinfo
  cases hinfo
  rfl

/-- The first task calls `sms_sd_lock`, the second one `sms_sd_prov_lock`. -/
def lockers : Sim :=
  { Sim.single [] [] with
    steps := fun i ↦ if i = 0 then [Sim.call .smsSdLock] else [Sim.call .smsSdProvLock] }

def lockersStart : Config signature ℕ (LockRow ℕ × Sim) LockCaller (ScriptExit × Client) :=
  ⟨(⟨0, none⟩, lockers), fun _ ↦ ⟨none, 0, .none⟩,
    fun _ ↦ smsModPhpExecuteScript lockingScript ⟨-1, none⟩⟩

/-- The second task locks the device for provisioning after the first one has looked at
`sd_prov_lock`, and before it takes the low-level lock. -/
theorem update_while_provisioning :
    ∃ config : Config signature ℕ (LockRow ℕ) LockCaller (ScriptExit × Client),
      Reach (lockTable Sim.plainDevice.sd.key) (lockCaller Sim.plainDevice.sd.key)
        (fun _ _ _ _ _ ↦ True)
        (lockScripts (fun _ ↦ lockingScript) (fun _ ↦ ⟨-1, none⟩) 0) config ∧
      (config.ghosts 0).grip = .update ∧ config.shared.holder = some 0 ∧
      config.shared.provLock = 1 := by
  have hrun : ((Config.run (lockCaller Sim.plainDevice.sd.key)
      (LockRow.respond Sim.plainDevice.sd.key id) (fun _ _ _ _ ↦ true) 2
      (List.replicate 7 0 ++ List.replicate 18 1 ++ List.replicate 3 0) lockersStart).map
      fun config ↦ ((config.ghosts 0).grip, config.shared.1)) = some (.update, ⟨1, some 0⟩) := by
    decide +kernel
  obtain ⟨config, hconfig, hpair⟩ := Option.map_eq_some_iff.1 hrun
  obtain ⟨hgrip, hrow⟩ := Prod.mk.inj hpair
  refine ⟨_, LockRow.reach_of_run (fun _ _ _ _ _ _ ↦ trivial) hconfig, hgrip, ?_, ?_⟩
  · exact congrArg LockRow.holder hrow
  · exact congrArg LockRow.provLock hrow

end Race

end CoreEngine.Smsd
