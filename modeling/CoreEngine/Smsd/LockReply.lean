import CoreEngine.Smsd.LockRow

/-!
# What the lock verbs report

The replies of LOCKPROVISIONING, UNLOCKPROVISIONING and UNLOCKUPDATE, against the columns of the device
when they are sent. Every call may fail, and changes nothing then.
-/

namespace CoreEngine.Smsd

open Interaction
open Procedure (lift Stable Triple triple_bind triple_ite triple_call triple_pure triple_lift)
open Program (Only only_perform)

/-- The columns of a device that the lock verbs change. `cleared` and `dated` tell which calls of this
request took effect, `replied` that the reply has begun. -/
structure LockReport where
  provLock : Int
  locked : Bool
  cleared : Bool
  dated : Bool
  replied : Bool
  deriving DecidableEq, Repr

namespace LockReport

/-- The row before a request. -/
def before (provLock : Int) (locked : Bool) : LockReport := ⟨provLock, locked, false, false, false⟩

/-- A call that takes effect. -/
def call (key : SdKey) (row : LockReport) : Sql → LockReport
  | .setSDprovlock k provlock =>
      if k = key then { row with provLock := provlock, cleared := provlock = 0 } else row
  | .setLock k => if k = key then { row with locked := true } else row
  | .unLock k => if k = key then { row with locked := false } else row
  | .unLockAll _ => { row with locked := false }
  | .setProvDate k => if k = key then { row with dated := true } else row
  | _ => row

end LockReport

/-- A text that starts a reply of success. -/
def isOk (bytes : CString) : Prop := "OK".toList <+: bytes

instance (bytes : CString) : Decidable (isOk bytes) := inferInstanceAs (Decidable (_ <+: _))

/-- Follows the row of a device through one request; success is reported only if `claim` holds. -/
def lockReport (key : SdKey) (claim : LockReport → Prop) : Monitor signature LockReport where
  allow row op := match op with
    | .socketWrite _ bytes => row.replied = false → isOk bytes → claim row
    | _ => True
  expect row op answer := match op, answer with
    | .sql _ (.getSDprovlock k), reply => k = key → reply.ret = 0 → reply.output = row.provLock
    | _, _ => True
  next row op answer := match op, answer with
    | .sql _ query, reply => if reply.ret = 0 then row.call key query else row
    | .socketWrite _ _, _ => { row with replied := true }
    | _, _ => row

namespace LockReport

variable {key : SdKey} {claim : LockReport → Prop} {row : LockReport} {ctx : Ctx}

theorem ignores_pool (op : Op) (hop : op.OnPool) : (lockReport key claim).Ignores op := by
  intro g
  cases op with
  | sql ctx query => exact hop.elim
  | socketWrite fd bytes => exact hop.elim
  | _ => exact ⟨trivial, fun _ ↦ rfl⟩

instance : Neutral (lockReport key claim) where
  allow_sql _ _ _ := trivial
  ignores_shutdown := ignores_pool .readShutdown trivial
  ignores_allocate _ _ _ := ⟨trivial, fun _ ↦ rfl⟩
  failed hret := if_neg hret

theorem next_of_ret {query : Sql} {reply : Reply query.Output} (hret : reply.ret = 0) :
    (lockReport key claim).next row (.sql ctx query) reply = row.call key query := if_pos hret

section Calls

/-- A wrapper of a call whose output is not looked at. -/
theorem safe_ha {query : Sql} {db : Db} {initial : query.Output} {post : Reply query.Output → LockReport → Prop}
    (hdone : ∀ reply, reply.ret = 0 → post reply (row.call key query))
    (hfailed : ∀ reply : Reply query.Output, reply.ret ≠ 0 → post reply row) :
    (ha ctx db query initial).Safe (lockReport key claim) post row := by
  apply safe_ha_of_neutral _ fun reply hret _ ↦ hfailed reply hret
  intro reply _ hret
  rw [next_of_ret hret]
  exact hdone reply hret

theorem safe_haSmssqlGetSDprovlock {post : Reply Int → LockReport → Prop}
    (hdone : post ⟨0, row.provLock⟩ row)
    (hfailed : ∀ reply : Reply Int, reply.ret ≠ 0 → post reply row) :
    (haSmssqlGetSDprovlock ctx key).Safe (lockReport key claim) post row := by
  have hread (reply : Reply Int) (hreply : key = key → reply.ret = 0 → reply.output = row.provLock)
      (hret : reply.ret = 0) :
      post reply ((lockReport key claim).next row (.sql ctx (.getSDprovlock key)) reply) := by
    have hequal : reply = ⟨0, row.provLock⟩ := by
      obtain ⟨ret, output⟩ := reply
      simp_all
    rw [next_of_ret hret, hequal]
    exact hdone
  unfold haSmssqlGetSDprovlock
  exact safe_ha_of_neutral hread fun reply hret _ ↦ hfailed reply hret

/-- The provisioning lock is only read. -/
theorem safe_haSmssqlSetLock {post : Reply Int → LockReport → Prop}
    (hpost : ∀ reply locked, post reply { row with locked := locked }) :
    (haSmssqlSetLock ctx key).Safe (lockReport key claim) post row := by
  apply safe_readShutdown_of_neutral
  · exact hpost _ row.locked
  · rw [Program.safe_bind]
    apply safe_haSmssqlGetSDprovlock
    · show Program.Safe _ (if row.provLock ≠ 0 then _ else _) _ _
      split
      · exact hpost _ row.locked
      · apply safe_retry_of_neutral
        · intro reply _ hret
          rw [next_of_ret hret]
          simpa [call] using hpost reply true
        · intro reply _ _
          exact hpost reply row.locked
    · intro reply hret
      rw [if_pos hret]
      exact hpost _ row.locked

end Calls

section Functions

theorem safe_lockProvOn (hreplied : row.replied = false) :
    (lockProvOn ctx key).Safe (lockReport key claim)
      (fun ret row ↦ row.replied = false ∧ (ret = 0 → row.provLock = 1)) row := by
  unfold lockProvOn
  rw [Program.safe_bind]
  apply safe_haSmssqlGetSDprovlock
  · rw [if_neg (by simp), Program.safe_bind]
    have hrest : (if row.provLock = 1 then pure 0 else do
        let updateLock ← haSmssqlSetLock ctx key
        if updateLock.ret ≠ 0 then pure updateLock.ret
        else if updateLock.output = alreadyLocked then pure errSdLock
        else do
          let set ← haSmssqlSetSDprovlock ctx key 1
          if set.ret ≠ 0 then pure set.ret else do
            let _ ← haSmssqlUnLock ctx key
            pure set.ret : Code Int).Safe (lockReport key claim)
        (fun ret row ↦ row.replied = false ∧ (ret = 0 → row.provLock = 1)) row := by
      split
      · next hone => exact ⟨hreplied, fun _ ↦ hone⟩
      · rw [Program.safe_bind]
        apply safe_haSmssqlSetLock
        intro updateLock locked
        split
        · next hret => exact ⟨hreplied, fun hzero ↦ absurd hzero hret⟩
        · split
          · exact ⟨hreplied, fun hzero ↦ absurd hzero (by decide)⟩
          · rw [Program.safe_bind]
            apply safe_ha
            · intro set hset
              rw [if_neg (not_not.2 hset), Program.safe_bind]
              apply safe_ha
              · exact fun _ _ ↦ ⟨by simpa [call] using hreplied, fun _ ↦ by simp [call]⟩
              · exact fun _ _ ↦ ⟨by simpa [call] using hreplied, fun _ ↦ by simp [call]⟩
            · intro set hset
              rw [if_pos hset]
              exact ⟨hreplied, fun hzero ↦ absurd hzero hset⟩
    apply safe_ha
    · exact fun _ _ ↦ hrest
    · exact fun _ _ ↦ hrest
  · intro provlock hret
    rw [if_pos hret]
    exact ⟨hreplied, fun hzero ↦ absurd hzero hret⟩

/-- The date decides the result; the lock is clear if its call took effect, or if it was clear before. -/
theorem safe_unlockProvOn {start : Int} (hreplied : row.replied = false) (hcleared : row.cleared = false)
    (hstart : row.provLock = start) :
    (unlockProvOn ctx key).Safe (lockReport key claim)
      (fun result row ↦ row.replied = false ∧ (result.1 = 0 → row.dated = true) ∧
        (row.provLock = 0 ↔ start = 0 ∨ row.cleared = true)) row := by
  unfold unlockProvOn
  rw [Program.safe_bind]
  refine ⟨trivial, fun dbCust _ ↦ ?_⟩
  show Program.Safe _ (haSmssqlSetSDprovlock ctx key 0 >>= _) _ row
  rw [Program.safe_bind]
  -- the date is set whether the lock was cleared or not
  have hdate (row : LockReport) (hreplied : row.replied = false)
      (hlock : row.provLock = 0 ↔ start = 0 ∨ row.cleared = true) :
      (haSmssqlSetProvDate dbCust key >>= fun set ↦ pure (set.ret, dbCust) : Code (Int × Ctx)).Safe
        (lockReport key claim) (fun result row ↦ row.replied = false ∧ (result.1 = 0 → row.dated = true) ∧
          (row.provLock = 0 ↔ start = 0 ∨ row.cleared = true)) row := by
    rw [Program.safe_bind]
    apply safe_ha
    · intro set hset
      exact ⟨by simpa [call] using hreplied, fun _ ↦ by simp [call], by simpa [call] using hlock⟩
    · intro set hset
      exact ⟨hreplied, fun hzero ↦ absurd hzero hset, hlock⟩
  apply safe_ha
  · intro set hset
    apply hdate
    · simpa [call] using hreplied
    · simp [call]
  · intro set hset
    apply hdate row hreplied
    rw [hstart, hcleared]
    simp

end Functions

section Replies

/-- Nothing is said about what follows. -/
abbrev Anything {α : Type} (_value : α) (_csp : Client) (_row : LockReport) : Prop := True

theorem triple_socketWrite (bytes : CString) :
    Triple (lockReport key claim) (fun _ row ↦ row.replied = false → isOk bytes → claim row)
      (socketWrite bytes) fun _ _ row ↦ row.replied = true :=
  fun _ _ hclaim ↦ ⟨hclaim, fun _ _ ↦ rfl⟩

/-- After its first piece, a reply is free. -/
theorem triple_writePieces (pieces : List CString) :
    Triple (lockReport key claim) (fun _ row ↦ row.replied = true) (writePieces pieces) Anything := by
  induction pieces with
  | nil => exact fun _ _ _ ↦ ⟨trivial, fun _ _ ↦ trivial⟩
  | cons piece rest ih =>
    have hwrite : Triple (lockReport key claim) (fun _ row ↦ row.replied = true) (socketWrite piece)
        fun _ _ row ↦ row.replied = true := by
      refine (triple_socketWrite piece).conseq ?_ fun _ _ _ hreplied ↦ hreplied
      intro _ row hreplied hfalse
      exact absurd (hreplied.symm.trans hfalse) (by decide)
    apply triple_bind hwrite
    intro ret
    apply triple_ite
    · exact fun _ ↦ triple_pure _ fun _ _ _ ↦ trivial
    · exact fun _ ↦ ih

theorem triple_writePieces_cons (piece : CString) (rest : List CString) :
    Triple (lockReport key claim) (fun _ row ↦ row.replied = false → isOk piece → claim row)
      (writePieces (piece :: rest)) Anything := by
  apply triple_bind (triple_socketWrite piece)
  intro ret
  apply triple_ite
  · exact fun _ ↦ triple_pure _ fun _ _ _ ↦ trivial
  · exact fun _ ↦ triple_writePieces rest

theorem triple_cfdOpen {pre : LockReport → Prop} {yes no : M Int}
    (hyes : Triple (lockReport key claim) (fun _ ↦ pre) yes Anything)
    (hno : Triple (lockReport key claim) (fun _ ↦ pre) no Anything) :
    Triple (lockReport key claim) (fun _ ↦ pre)
      (cfdOpen >>= fun cfdOpen ↦ if cfdOpen = true then yes else no) Anything := by
  have hopen : Triple (lockReport key claim) (fun _ ↦ pre) cfdOpen fun _ _ ↦ pre :=
    fun _ _ hpre ↦ hpre
  apply triple_bind hopen
  intro cfdOpen
  apply triple_ite
  · exact fun _ ↦ hyes
  · exact fun _ ↦ hno

theorem triple_sendOk : Triple (lockReport key claim) (fun _ row ↦ row.replied = false → claim row)
    (sendOk none) Anything := by
  apply triple_cfdOpen
  · refine (triple_writePieces_cons smsdOkAloneString []).conseq ?_ fun _ _ _ _ ↦ trivial
    exact fun _ _ hclaim hreplied _ ↦ hclaim hreplied
  · exact triple_pure _ fun _ _ _ ↦ trivial

theorem triple_sendError (error : Int) :
    Triple (lockReport key claim) (fun _ _ ↦ True) (sendError none error) Anything := by
  have hnot : ¬isOk smsdErrorString := by decide
  have hlibrary : Triple (lockReport key claim) (fun _ _ ↦ True) (lift (ask .library) : M Library) Anything :=
    fun _ _ _ ↦ ⟨trivial, fun _ _ ↦ trivial⟩
  apply triple_cfdOpen
  · apply triple_bind hlibrary
    intro library
    refine (triple_writePieces_cons smsdErrorString _).conseq ?_ fun _ _ _ _ ↦ trivial
    exact fun _ _ _ _ hok ↦ absurd hok hnot
  · exact triple_pure _ fun _ _ _ ↦ trivial

/-- The reply of the lock verbs. -/
theorem triple_plainReply (ret : Int) :
    Triple (lockReport key claim) (fun _ row ↦ row.replied = false ∧ (ret = 0 → claim row))
      (plainReply ret none) Anything := by
  have hend (sent : Int) : Triple (lockReport key claim) (fun _ _ ↦ True)
      (if sent ≠ 0 then pure (-1) else pure 0 : M Int) Anything := by
    apply triple_ite
    · exact fun _ ↦ triple_pure _ fun _ _ _ ↦ trivial
    · exact fun _ ↦ triple_pure _ fun _ _ _ ↦ trivial
  apply triple_ite
  · intro hret
    refine (triple_bind triple_sendOk hend).conseq ?_ fun _ _ _ _ ↦ trivial
    exact fun _ _ hpre _ ↦ hpre.2 hret
  · intro _
    exact (triple_bind (triple_sendError ret) hend).conseq (fun _ _ _ ↦ trivial) fun _ _ _ _ ↦ trivial

end Replies

section Verbs

variable {arg : CString} {start : LockReport}

theorem triple_doLockProvisioning (harg : 4 ≤ arg.length) :
    Triple (lockReport (keyOf arg) (·.provLock = 1)) (fun _ row ↦ row.replied = false)
      (doLockProvisioning arg) Anything := by
  have hlock : Triple (lockReport (keyOf arg) (·.provLock = 1)) (fun _ row ↦ row.replied = false)
      (lockProv (keyOf arg)) fun ret _ row ↦ row.replied = false ∧ (ret = 0 → row.provLock = 1) :=
    triple_borrowDbCtx_of_pool ignores_pool fun _ _ hreplied ↦ safe_lockProvOn hreplied
  unfold doLockProvisioning lockProvisioning
  rw [decodeSdid_eq_keyOf harg, Procedure.pure_bind_eq]
  exact triple_bind hlock triple_plainReply

theorem triple_doUnlockUpdate (harg : 4 ≤ arg.length) :
    Triple (lockReport (keyOf arg) (·.locked = false)) (fun _ row ↦ row.replied = false)
      (doUnlockUpdate arg) Anything := by
  have hunlock : Triple (lockReport (keyOf arg) (·.locked = false)) (fun _ row ↦ row.replied = false)
      (borrowDbCtx .unlockSD (haSmssqlUnLock · (keyOf arg))) fun reply _ row ↦
        row.replied = false ∧ (reply.ret = 0 → row.locked = false) := by
    apply triple_borrowDbCtx_of_pool ignores_pool
    intro ctx row hreplied
    apply safe_ha
    · exact fun _ _ ↦ ⟨by simpa [call] using hreplied, fun _ ↦ by simp [call]⟩
    · exact fun _ hret ↦ ⟨hreplied, fun hzero ↦ absurd hzero hret⟩
  unfold doUnlockUpdate unlockUpdate unlockSD
  rw [decodeSdid_eq_keyOf harg, Procedure.pure_bind_eq]
  exact triple_bind (triple_bind hunlock fun reply ↦ triple_pure reply.ret fun _ _ hpost ↦ hpost)
    triple_plainReply

theorem triple_doUnLockProvisioning (harg : 4 ≤ arg.length) (provLock : Int) :
    Triple (lockReport (keyOf arg) fun row ↦
        (row.provLock = 0 ∧ row.dated = true ↔ provLock = 0 ∨ row.cleared = true))
      (fun _ row ↦ row.replied = false ∧ row.cleared = false ∧ row.provLock = provLock)
      (doUnLockProvisioning arg) Anything := by
  have hunlock (claim : LockReport → Prop) : Triple (lockReport (keyOf arg) claim)
      (fun _ row ↦ row.replied = false ∧ row.cleared = false ∧ row.provLock = provLock)
      (borrowDbCtx .unlockProv (unlockProvOn · (keyOf arg))) fun result _ row ↦
        row.replied = false ∧ (result.1 = 0 → row.dated = true) ∧
          (row.provLock = 0 ↔ provLock = 0 ∨ row.cleared = true) :=
    triple_borrowDbCtx_of_pool ignores_pool fun _ _ hpre ↦ safe_unlockProvOn hpre.1 hpre.2.1 hpre.2.2
  have hrelease (claim pre : LockReport → Prop) (ctx : Option Ctx) :
      Triple (lockReport (keyOf arg) claim) (fun _ : Client ↦ pre) (lift (releaseCtx ctx)) fun _ _ ↦ pre :=
    fun _ _ hpre ↦ ⟨trivial, fun _ _ ↦ hpre⟩
  unfold doUnLockProvisioning unlockProvisioning unlockProv
  rw [decodeSdid_eq_keyOf harg, Procedure.pure_bind_eq]
  refine triple_bind (triple_bind (hunlock _) fun result ↦ triple_bind (hrelease _ _ _) fun _ ↦
    triple_pure result.1 ?_) triple_plainReply
  intro _ row hpost
  refine ⟨hpost.1, fun hret ↦ ?_⟩
  rw [hpost.2.2.symm]
  exact and_iff_left (hpost.2.1 hret)

theorem meets_of_meets {claim' : LockReport → Prop} {trace : List (Event signature)}
    (hmeets : (lockReport key claim').Meets row trace) : (lockReport key claim).Meets row trace := by
  induction trace generalizing row with
  | nil => trivial
  | cons event trace ih => exact ⟨hmeets.1, ih hmeets.2⟩

theorem accepts_dispatch {va : VerbAction} (pre : LockReport → Prop) {csp : Client}
    {trace : List (Event signature)} {final : Code (Unit × Client)} (hparams : va.hasParams = 1)
    (hverb : 4 ≤ arg.length → Triple (lockReport key claim) (fun _ ↦ pre) (va.doVerb.run arg) Anything)
    (hpre : pre start) (hrun : Program.Run (dispatch va arg csp) trace final)
    (hmeets : (lockReport key claim).Meets start trace) : (lockReport key claim).Accepts start trace := by
  have hdispatch := triple_dispatch_of_pool ignores_pool hparams hverb fun _ _ ↦ trivial
  exact (hrun.safe (hdispatch csp start hpre) hmeets).1

end Verbs

end LockReport

theorem hasParams_of_lock_verb {va : VerbAction} (hva : va ∈ verbTab) (hverb : va.doVerb = .doLockProvisioning ∨
    va.doVerb = .doUnLockProvisioning ∨ va.doVerb = .doUnlockUpdate) : va.hasParams = 1 := by
  revert va
  decide

/-- LOCKPROVISIONING and UNLOCKUPDATE report success only when it happened. UNLOCKPROVISIONING does so
exactly when the call that clears the lock took effect, or the lock was clear before. -/
theorem lock_verbs_report {va : VerbAction} (hva : va ∈ verbTab) (arg : CString) (csp : Client)
    (provLock : Int) (locked : Bool) {trace : List (Event signature)} {final : Code (Unit × Client)}
    (hrun : Program.Run (dispatch va arg csp) trace final)
    (hmeets : (lockReport (keyOf arg) fun _ ↦ True).Meets (.before provLock locked) trace) :
    (va.doVerb = .doLockProvisioning →
      (lockReport (keyOf arg) (·.provLock = 1)).Accepts (.before provLock locked) trace) ∧
    (va.doVerb = .doUnlockUpdate →
      (lockReport (keyOf arg) (·.locked = false)).Accepts (.before provLock locked) trace) ∧
    (va.doVerb = .doUnLockProvisioning →
      (lockReport (keyOf arg) fun row ↦
        (row.provLock = 0 ∧ row.dated = true ↔ provLock = 0 ∨ row.cleared = true)).Accepts
          (.before provLock locked) trace) := by
  refine ⟨fun hverb ↦ ?_, fun hverb ↦ ?_, fun hverb ↦ ?_⟩
  · have hparams := hasParams_of_lock_verb hva (.inl hverb)
    have hlock (harg : 4 ≤ arg.length) := LockReport.triple_doLockProvisioning harg
    refine LockReport.accepts_dispatch (·.replied = false) hparams ?_ rfl hrun (LockReport.meets_of_meets hmeets)
    rw [hverb]
    exact hlock
  · have hparams := hasParams_of_lock_verb hva (.inr (.inr hverb))
    have hunlock (harg : 4 ≤ arg.length) := LockReport.triple_doUnlockUpdate harg
    refine LockReport.accepts_dispatch (·.replied = false) hparams ?_ rfl hrun (LockReport.meets_of_meets hmeets)
    rw [hverb]
    exact hunlock
  · have hparams := hasParams_of_lock_verb hva (.inr (.inl hverb))
    have hunlock (harg : 4 ≤ arg.length) :=
      LockReport.triple_doUnLockProvisioning harg provLock
    refine LockReport.accepts_dispatch (fun row ↦ row.replied = false ∧ row.cleared = false ∧
      row.provLock = provLock) hparams ?_ ⟨rfl, rfl, rfl⟩ hrun (LockReport.meets_of_meets hmeets)
    rw [hverb]
    exact hunlock

/-- A database that refuses to change the provisioning lock. -/
def Sim.keepingProvlock (sim : Sim) (op : Op) : Option (op.Answer × Sim) :=
  match op with
  | .sql _ (.setSDprovlock _ _) => some (⟨errDbFailed, ()⟩, sim)
  | op => sim.respond 0 op

/-- The request `UNLOCKPROVISIONING ABC123` to that database. -/
def unlockRefused : List (Event signature) :=
  (Program.exec Sim.keepingProvlock 1 (dispatch (verbAction "UNLOCKPROVISIONING" .doUnLockProvisioning
    "Unlock router provisioning" 1) "ABC123".toList ⟨5, none⟩) (Sim.single [] [])).1

/-- A lock that was clear before stays clear, whatever the outcome of the call. -/
theorem lock_verbs_report_unlockRefused :
    (lockReport (keyOf "ABC123".toList) fun row ↦
      (row.provLock = 0 ∧ row.dated = true ↔ (0 : Int) = 0 ∨ row.cleared = true)).Accepts
        (.before 0 false) unlockRefused :=
  (lock_verbs_report (by decide +kernel : verbAction "UNLOCKPROVISIONING" .doUnLockProvisioning
    "Unlock router provisioning" 1 ∈ verbTab) "ABC123".toList ⟨5, none⟩ 0 false
    (Program.run_exec _ 1 _ _) (by
      iterate 12 apply And.intro trivial
      trivial)).2.2 rfl

/-- The same request is answered with success while the device stays locked. -/
theorem unlockProvisioning_reports_failure :
    ¬∀ va ∈ verbTab, va.doVerb = .doUnLockProvisioning → ∀ arg csp provLock locked trace final,
      Program.Run (dispatch va arg csp) trace final →
      (lockReport (keyOf arg) fun _ ↦ True).Meets (.before provLock locked) trace →
      (lockReport (keyOf arg) fun row ↦ row.provLock = 0 ∧ row.dated = true).Accepts
        (.before provLock locked) trace := by
  intro hreports
  have haccepts := hreports (verbAction "UNLOCKPROVISIONING" .doUnLockProvisioning
    "Unlock router provisioning" 1) (by decide +kernel) rfl "ABC123".toList ⟨5, none⟩ 1 false unlockRefused _
    (Program.run_exec _ 1 _ _) (by
      iterate 12 apply And.intro trivial
      trivial)
  obtain ⟨-, -, -, -, -, -, -, -, hreply, -⟩ := haccepts
  have hclear := (hreply rfl (by decide)).1
  exact absurd hclear (by decide)

end CoreEngine.Smsd
