import CoreEngine.Smsd.Indifference
import CoreEngine.Smsd.Simulator

/-!
# What a script is told about its writes

The functions of `php_db.c` and `php_misc.c` that write to the database, against the result codes of the
calls they make. A wrapper of `bd.c` repeats a write that lost the connection; such an attempt counts as the
one after it.
-/

namespace CoreEngine.Smsd

open Interaction
open Procedure (lift Stable Triple triple_bind triple_ite triple_lift triple_pure)
open Program (Only Run only_perform)

section Writes

/-- The calls that change the database; the others only read. -/
def Sql.isWrite : Sql → Bool
  | .getSdInfo _ | .getCustInfo _ | .getSDprovlock _ | .getAsset _ | .getSDToUpdateFirst | .getSDToUpdateNext
  | .getSDconnectedFirst | .getSDconnectedNext | .getProvStatus _ _ | .getUpdateStatus _ => false
  | _ => true

/-- The write of an event, with its result code. -/
def written (event : Event signature) : Option (Sql × Int) :=
  match event with
  | ⟨.sql _ query, reply⟩ => if query.isWrite then some (query, reply.ret) else none
  | _ => none

def writes (trace : List (Event signature)) : List (Sql × Int) := trace.filterMap written

/-- Every write returned `SMS_OK`, or lost the connection and was made again at once. -/
def Carried : List (Sql × Int) → Prop
  | [] => True
  | (query, ret) :: later =>
      (ret = smsOk ∨ ret = errDbConnectionLost ∧ ∃ again ∈ later.head?, again.1 = query) ∧ Carried later

theorem carried_singleton {query : Sql} {ret : Int} : Carried [(query, ret)] ↔ ret = smsOk := by
  simp [Carried]

theorem carried_append {first second : List (Sql × Int)} (hfirst : Carried first) :
    Carried (first ++ second) ↔ Carried second := by
  induction first with
  | nil => rfl
  | cons write later ih =>
    obtain ⟨hwrite, hlater⟩ := hfirst
    have hagain : ∀ again ∈ later.head?, again ∈ (later ++ second).head? := by
      cases later with
      | nil => exact nofun
      | cons next later => exact fun again hnext ↦ hnext
    constructor
    · intro hcarried
      exact (ih hlater).1 hcarried.2
    · intro hsecond
      refine ⟨?_, (ih hlater).2 hsecond⟩
      rcases hwrite with hret | ⟨hret, again, hhead, hquery⟩
      · exact .inl hret
      · exact .inr ⟨hret, again, hagain again hhead, hquery⟩

/-- A lost attempt leaves no trace once the write is made again. -/
theorem carried_lost (first : List (Sql × Int)) (query : Sql) (ret : Int) :
    Carried (first ++ [(query, errDbConnectionLost), (query, ret)]) ↔ Carried (first ++ [(query, ret)]) := by
  induction first with
  | nil => simp [Carried]
  | cons write later ih =>
    have hhead : ((later ++ [(query, errDbConnectionLost), (query, ret)]).head?.map Prod.fst) =
        (later ++ [(query, ret)]).head?.map Prod.fst := by
      cases later with
      | nil => rfl
      | cons next later => rfl
    have hagain (again : List (Sql × Int)) : (∃ next ∈ again.head?, next.1 = write.1) ↔
        again.head?.map Prod.fst = some write.1 := by
      simp only [Option.map_eq_some_iff, Option.mem_def]
    simp only [List.cons_append, Carried, ih, hagain, hhead]

/-- The next write of `query` decides. -/
def Awaits (query : Sql) (log : List (Sql × Int)) : Prop :=
  ∀ ret, Carried (log ++ [(query, ret)]) ↔ ret = smsOk

theorem Carried.awaits {log : List (Sql × Int)} (hlog : Carried log) (query : Sql) : Awaits query log :=
  fun _ ↦ (carried_append hlog).trans carried_singleton

theorem Awaits.lost {query : Sql} {log : List (Sql × Int)} (hlog : Awaits query log) :
    Awaits query (log ++ [(query, errDbConnectionLost)]) := by
  intro ret
  rw [List.append_assoc]
  exact (carried_lost log query ret).trans (hlog ret)

end Writes

section Log

/-- Records the writes of a run. -/
def writeLog : Monitor signature (List (Sql × Int)) where
  allow _ _ := True
  expect _ _ _ := True
  next log op answer := log ++ (written ⟨op, answer⟩).toList

theorem after_writeLog (log : List (Sql × Int)) (trace : List (Event signature)) :
    writeLog.after log trace = log ++ writes trace := by
  induction trace generalizing log with
  | nil => exact (List.append_nil log).symm
  | cons event trace ih =>
    rw [Monitor.after, ih]
    show log ++ (written event).toList ++ _ = _
    rw [List.append_assoc]
    unfold writes
    cases hwritten : written event with
    | none => simp [hwritten]
    | some write => simp [hwritten]

theorem writeLog_ignores {op : Op} (hop : ∀ answer, written ⟨op, answer⟩ = none) : writeLog.Ignores op := by
  intro log
  refine ⟨trivial, fun answer ↦ ?_⟩
  show log ++ (written ⟨op, answer⟩).toList = log
  rw [hop answer]
  exact List.append_nil log

theorem writeLog_ignores_pool (op : Op) (hop : op.OnPool) : writeLog.Ignores op := by
  cases op with
  | sql ctx query => exact hop.elim
  | _ => exact writeLog_ignores fun _ ↦ rfl

instance (inv : Client → List (Sql × Int) → Prop) : PlainDiscipline writeLog inv :=
  plainDiscipline_of_ignores fun op hop ↦ by
    cases op with
    | sql ctx query => exact hop.elim
    | _ => exact writeLog_ignores fun _ ↦ rfl

instance (inv : Client → List (Sql × Int) → Prop) : StackDiscipline writeLog inv :=
  stackDiscipline_of_ignores (writeLog_ignores fun _ ↦ rfl)

theorem writeLog_next {log : List (Sql × Int)} {ctx : Ctx} {query : Sql} (hquery : query.isWrite = true)
    (reply : Reply query.Output) : writeLog.next log (.sql ctx query) reply = log ++ [(query, reply.ret)] := by
  show log ++ (written ⟨.sql ctx query, reply⟩).toList = _
  simp [written, hquery]

end Log

section Calls

/-- A call that succeeded has carried out its writes, and none of them is of the kind that `drops` names. -/
def Reports (drops : Sql × Int → Prop) (ret : Int) (log : List (Sql × Int)) : Prop :=
  (ret = smsOk → Carried log) ∧ ∀ write ∈ log, ¬drops write

variable {drops : Sql × Int → Prop} {log : List (Sql × Int)} {ctx : Ctx} {query : Sql}

theorem safe_ha_write {db : Db} {initial : query.Output} (hquery : query.isWrite = true)
    (hdrops : ∀ ret, ¬drops (query, ret)) (hcarried : Carried log) (hlog : ∀ write ∈ log, ¬drops write) :
    (ha ctx db query initial).Safe writeLog (fun reply ↦ Reports drops reply.ret) log := by
  have hshutdown : writeLog.Ignores .readShutdown := writeLog_ignores fun _ ↦ rfl
  have hallocate : writeLog.Ignores (.allocateContext ctx db) := writeLog_ignores fun _ ↦ rfl
  have hnext {log : List (Sql × Int)} (hlog : ∀ write ∈ log, ¬drops write) (ret : Int) :
      ∀ write ∈ log ++ [(query, ret)], ¬drops write := by
    rw [List.forall_mem_append, List.forall_mem_singleton]
    exact ⟨hlog, hdrops ret⟩
  refine ⟨trivial, fun shutdownRequired _ ↦ ?_⟩
  rw [(hshutdown _).2 shutdownRequired]
  cases shutdownRequired with
  | true => exact ⟨nofun, hlog⟩
  | false =>
    apply safe_retry_of_inv (fun log ↦ Awaits query log ∧ ∀ write ∈ log, ¬drops write) hshutdown hallocate _
      ⟨hcarried.awaits query, hlog⟩
    rintro log ⟨hawaits, hlog⟩
    refine ⟨trivial, fun reply _ ↦ ?_⟩
    rw [writeLog_next hquery]
    by_cases hret : reply.ret = errDbConnectionLost
    · rw [if_pos hret, hret]
      exact ⟨⟨hawaits.lost, hnext hlog errDbConnectionLost⟩, nofun, hnext hlog errDbConnectionLost⟩
    · rw [if_neg hret]
      exact ⟨(hawaits reply.ret).2, hnext hlog reply.ret⟩

/-- A call that is not repeated. -/
theorem safe_sql_write {post : Reply query.Output → List (Sql × Int) → Prop} (hquery : query.isWrite = true)
    (hpost : ∀ reply, post reply (log ++ [(query, reply.ret)])) : (sql ctx query).Safe writeLog post log := by
  refine ⟨trivial, fun reply _ ↦ ?_⟩
  rw [writeLog_next hquery]
  exact hpost reply

theorem safe_sql_reports (hquery : query.isWrite = true) (hdrops : ∀ ret, ¬drops (query, ret))
    (hcarried : Carried log) (hlog : ∀ write ∈ log, ¬drops write) :
    (sql ctx query).Safe writeLog (fun reply ↦ Reports drops reply.ret) log := by
  apply safe_sql_write hquery
  intro reply
  refine ⟨((carried_append hcarried).trans carried_singleton).2, ?_⟩
  rw [List.forall_mem_append, List.forall_mem_singleton]
  exact ⟨hlog, hdrops reply.ret⟩

end Calls

section Functions

/-- The functions that write to the database on behalf of a script. -/
def PhpFunction.isBdWrite : PhpFunction → Bool
  | .smsBdInitProvstatus _ _ | .smsBdSetProvstatus _ _ _ _ _ | .smsBdSetPollMode _ | .smsBdSetIpconfig _
  | .smsBdResetConfObjects | .smsBdSetConfObjects _ _ | .smsBdDeleteConfObjects _ | .smsBdSetLog _ _ _
  | .smsSdForceasset | .smsSetUpdateStatus _ _ _ _ _ => true
  | _ => false

/-- The failed writes that a function keeps to itself: `sms_bd_set_log` returns a constant, and
`setUpdateStatus` knows two error codes. -/
def PhpFunction.drops : PhpFunction → Sql × Int → Prop
  | .smsBdSetLog _ _ _, (_, ret) => ret ≠ smsOk
  | .smsSetUpdateStatus _ _ _ _ _, (.setUpdateStatus _, ret) =>
      ret ≠ smsOk ∧ ret ≠ errDbFailed ∧ ret ≠ errDbNotfound
  | _, _ => False

/-- Before a call: every write so far was carried out, and none is of the kind that `drops` names. -/
def Clean (drops : Sql × Int → Prop) (log : List (Sql × Int)) : Prop :=
  Carried log ∧ ∀ write ∈ log, ¬drops write

/-- A script that is told zero finds its writes carried out, unless one was dropped, and only then. -/
def Told (drops : Sql × Int → Prop) (ret : Int) (log : List (Sql × Int)) : Prop :=
  (ret = smsOk → Carried log) ↔ ∀ write ∈ log, ¬drops write

variable {drops : Sql × Int → Prop}

theorem Reports.told {ret : Int} {log : List (Sql × Int)} (hreports : Reports drops ret log) :
    Told drops ret log := iff_of_true hreports.1 hreports.2

/-- A function that fails without another write tells no lie. -/
theorem Clean.told_of_ne {ret : Int} {log : List (Sql × Int)} (hclean : Clean drops log) (hret : ret ≠ smsOk) :
    Told drops ret log := iff_of_true (fun hzero ↦ absurd hzero hret) hclean.2

/-- One more write decides. -/
theorem Clean.told_of_write {ret code : Int} {query : Sql} {log : List (Sql × Int)} (hclean : Clean drops log)
    (hdrops : drops (query, code) ↔ ret = smsOk ∧ code ≠ smsOk) :
    Told drops ret (log ++ [(query, code)]) := by
  unfold Told
  rw [carried_append hclean.1, carried_singleton, List.forall_mem_append, List.forall_mem_singleton, hdrops,
    not_and, not_not]
  exact (and_iff_right hclean.2).symm

theorem triple_smsBd {borrower : Borrower} {body : Ctx → Code (Reply Unit)}
    (hbody : ∀ ctx log, Clean drops log →
      (body ctx).Safe writeLog (fun reply ↦ Reports drops reply.ret) log) :
    Triple writeLog (fun _ ↦ Clean drops) (smsBd borrower body) fun ret _ ↦ Told drops ret := by
  apply triple_bind (triple_borrowDbCtx_of_pool writeLog_ignores_pool hbody)
  intro reply
  exact triple_pure _ fun _ _ hreports ↦ hreports.told

theorem triple_smsBdInitProvstatus {info : SdInfo} {numStages : Int} {stageNames : List (Option CString)}
    (hdrops : ∀ query ret, ¬drops (query, ret)) : Triple writeLog (fun _ ↦ Clean drops)
      (smsBdInitProvstatus info numStages stageNames) fun ret _ ↦ Told drops ret := by
  unfold smsBdInitProvstatus
  cases (List.range numStages.toNat).mapM fun i ↦ stageNames[i]?.join with
  | none => exact triple_pure _ fun _ _ hclean ↦ hclean.told_of_ne (by decide)
  | some names => exact triple_smsBd fun ctx log hclean ↦ safe_ha_write rfl (hdrops _) hclean.1 hclean.2

theorem triple_smsBdSetProvstatus {info : SdInfo} {stageIndex : Int} {status : CString} {errorId : Int}
    {nextStatus : Option CString} {additionalmsg : CString} (hdrops : ∀ query ret, ¬drops (query, ret)) :
    Triple writeLog (fun _ ↦ Clean drops)
      (smsBdSetProvstatus info stageIndex status errorId nextStatus additionalmsg) fun ret _ ↦ Told drops ret := by
  apply triple_smsBd
  intro ctx log hclean
  refine ⟨trivial, fun library _ ↦ ?_⟩
  rw [((writeLog_ignores fun _ ↦ rfl : writeLog.Ignores .library) log).2 library]
  exact safe_ha_write rfl (hdrops _) hclean.1 hclean.2

theorem triple_sdForceAsset {sdid : CString} (hdrops : ∀ query ret, ¬drops (query, ret)) :
    Triple writeLog (fun _ ↦ Clean drops) (sdForceAsset sdid) fun ret _ ↦ Told drops ret := by
  have hdecode : Stable writeLog (fun _ ↦ Clean drops) (decodeSdid CString.atol sdid) := inferInstance
  apply triple_bind hdecode.triple
  intro key
  have hbody (ctx : Ctx) (log : List (Sql × Int)) (hclean : Clean drops log) :
      (sql ctx (.setSDAssetUpdate key 1)).Safe writeLog (fun reply ↦ Reports drops reply.ret) log :=
    safe_sql_reports rfl (hdrops _) hclean.1 hclean.2
  apply triple_bind (triple_borrowDbCtx_of_pool writeLog_ignores_pool hbody)
  intro reply
  exact triple_pure _ fun _ _ hreports ↦ hreports.told

/-- The constant hides the result of the write. -/
theorem triple_smsBdSetLog {info : SdInfo} {logMsg logLevel logReference : Option CString}
    (hdrops : ∀ query ret, drops (query, ret) ↔ ret ≠ smsOk) : Triple writeLog (fun _ ↦ Clean drops)
      (smsBdSetLog info logMsg logLevel logReference) fun ret _ ↦ Told drops ret := by
  have hignores (op : Op) (hop : op.OnPool) (log : List (Sql × Int)) := writeLog_ignores_pool op hop log
  have hbody : Triple writeLog (fun _ ↦ Clean drops)
      (lift (withCtx .sms .smsBdSetLog fun ctx ↦ sql ctx (.setLogById
        { key := info.sd.key
          logMsg := (logMsg.getD []).strncpy logMesgLen
          logLevel := logLevel.elim 0 fun level ↦ (CString.strtol level).tmod 8
          logReference := (logReference.getD []).strncpy logReferenceLen })) : M (Reply Unit))
      fun _ _ log ↦ Told drops smsOk log := by
    apply triple_lift
    intro _ log hclean
    refine ⟨trivial, fun ctx _ ↦ ?_⟩
    rw [(hignores (.findCtx .sms .smsBdSetLog) trivial log).2 ctx]
    show Program.Safe _ (sql ctx _ >>= fun reply ↦ releaseCtx (some ctx) >>= fun _ ↦ pure reply) _ _
    rw [Program.safe_bind]
    apply safe_sql_write rfl
    intro reply
    refine ⟨trivial, fun answer _ ↦ ?_⟩
    rw [(hignores (.releaseCtx (some ctx)) trivial _).2 answer]
    apply hclean.told_of_write
    simp [hdrops]
  apply triple_bind hbody
  intro reply
  exact triple_pure _ fun _ _ htold ↦ htold

theorem triple_setUpdateStatus {sdid type status failureMsg : CString}
    (hdrops : ∀ update ret, drops (.setUpdateStatus update, ret) ↔
      ret ≠ smsOk ∧ ret ≠ errDbFailed ∧ ret ≠ errDbNotfound) :
    Triple writeLog (fun _ ↦ Clean drops) (setUpdateStatus sdid type status failureMsg)
      fun ret _ ↦ Told drops ret := by
  have hdecode : Stable writeLog (fun _ ↦ Clean drops) (decodeSdid CString.atol sdid) := inferInstance
  apply triple_bind hdecode.triple
  intro key
  have hensure : Stable writeLog (fun _ ↦ Clean drops) (ensureDbCtx .setUpdateStatus) :=
    stable_ensureDbCtx_of_keeps (fun _ _ _ hclean ↦ hclean) (fun op hop ↦ (writeLog_ignores_pool op hop).keeps) _
  apply triple_bind hensure.triple
  intro _
  have huse (update : SdUpdatestatus) : Triple writeLog (fun _ ↦ Clean drops)
      (useDbCtx fun ctx ↦ sql ctx (.setUpdateStatus update)) fun reply _ log ↦
        Told drops (if reply.ret = errDbFailed ∨ reply.ret = errDbNotfound then reply.ret else 0) log := by
    apply triple_useDbCtx_of_pool writeLog_ignores_pool
    intro ctx log hclean
    apply safe_sql_write rfl
    intro reply
    apply hclean.told_of_write
    rw [hdrops]
    split_ifs with hret
    · have hne : reply.ret ≠ smsOk := by
        rcases hret with hret | hret
        · rw [hret]
          decide
        · rw [hret]
          decide
      tauto
    · simp only [not_or] at hret
      simp [hret, smsOk]
  apply triple_bind (huse _)
  intro reply
  apply triple_ite
  · intro hret
    exact triple_pure _ fun _ _ htold ↦ by rwa [if_pos hret] at htold
  · intro hret
    exact triple_pure _ fun _ _ htold ↦ by rwa [if_neg hret] at htold

/-- The schedule of the device is written first, and a failure of that is reported. -/
theorem triple_setSdUpdated {sdid : CString} {flag : Int}
    (hdrops : ∀ key ret, ¬drops (.setSDUpdated key flag, ret)) :
    Triple writeLog (fun _ ↦ Clean drops) (setSdUpdated sdid flag) fun ret _ ↦ Reports drops ret := by
  have hdecode : Stable writeLog (fun _ ↦ Clean drops) (decodeSdid CString.atol sdid) := inferInstance
  apply triple_bind hdecode.triple
  intro key
  have hensure : Stable writeLog (fun _ ↦ Clean drops) (ensureDbCtx .setSdUpdated) :=
    stable_ensureDbCtx_of_keeps (fun _ _ _ hclean ↦ hclean) (fun op hop ↦ (writeLog_ignores_pool op hop).keeps) _
  apply triple_bind hensure.triple
  intro _
  have hbody (ctx : Ctx) (log : List (Sql × Int)) (hclean : Clean drops log) :
      (haSmssqlSetSDUpdated ctx key flag).Safe writeLog (fun reply ↦ Reports drops reply.ret) log :=
    safe_ha_write rfl (hdrops key) hclean.1 hclean.2
  apply triple_bind (triple_useDbCtx_of_pool writeLog_ignores_pool hbody)
  intro reply
  exact triple_pure _ fun _ _ hreports ↦ hreports

theorem triple_smsSetUpdateStatus {sdid : CString} {errorCode : Int} {type status errorMsg : CString}
    (hupdated : ∀ key flag ret, ¬drops (.setSDUpdated key flag, ret))
    (hdrops : ∀ update ret, drops (.setUpdateStatus update, ret) ↔
      ret ≠ smsOk ∧ ret ≠ errDbFailed ∧ ret ≠ errDbNotfound) :
    Triple writeLog (fun _ ↦ Clean drops) (smsSetUpdateStatus sdid errorCode type status errorMsg)
      fun ret _ ↦ Told drops ret := by
  have hset (message : CString) : Triple writeLog (fun _ ↦ Clean drops) (setUpdateStatus sdid type status message)
      fun ret _ ↦ Told drops ret := triple_setUpdateStatus hdrops
  have hend : Triple writeLog (fun _ ↦ Clean drops) (endUpdate sdid errorCode type status errorMsg)
      fun ret _ ↦ Told drops ret := by
    have hstable {α : Type} (code : M α) [h : Stable writeLog (fun _ ↦ Clean drops) code] := h.triple
    apply triple_bind (hstable (lift (ask .library)))
    intro library
    apply triple_bind (hstable (lift (ask .currentConfig)))
    intro currentConfig
    apply triple_bind (hstable (decodeSdid CString.strtol sdid))
    intro key
    have hlast : Triple writeLog (fun _ ↦ Clean drops)
        ((if errorMsg = [] then library.getErrorMessage errorCode else some errorMsg).elim
          (lift nullDereference) fun message ↦ setUpdateStatus sdid type status message)
        fun ret _ ↦ Told drops ret := by
      cases (if errorMsg = [] then library.getErrorMessage errorCode else some errorMsg) with
      | none => exact triple_lift fun _ _ _ ↦ ⟨trivial, fun answer ↦ answer.elim⟩
      | some message => exact hset message
    have halarm (level : Int) (message : CString) := hstable (lift (ask (.setSdAlarm key level type message)))
    apply triple_ite
    · exact fun _ ↦ triple_bind (halarm _ _) fun _ ↦ hlast
    · exact fun _ ↦ hlast
  unfold smsSetUpdateStatus
  apply triple_ite
  · intro _
    apply triple_bind (triple_setSdUpdated fun key ↦ hupdated key 0)
    intro ret
    apply triple_ite
    · intro hret
      exact triple_pure _ fun _ _ hreports ↦ hreports.told
    · intro hret
      refine (hset errorMsg).conseq (fun _ _ hreports ↦ ?_) fun _ _ _ htold ↦ htold
      exact ⟨hreports.1 (not_not.1 hret), hreports.2⟩
  · intro _
    exact triple_ite (fun _ ↦ hend) fun _ ↦ hset errorMsg

/-- The pointers of the script are checked first. -/
theorem triple_withPointers_told {csp : Bool} {info : Option SdInfo} {body : SdInfo → M Int}
    (hbody : ∀ info, Triple writeLog (fun _ ↦ Clean drops) (body info) fun ret _ ↦ Told drops ret) :
    Triple writeLog (fun _ ↦ Clean drops) (withPointers csp info body) fun value _ log ↦
      ∃ ret, value = .int ret ∧ Told drops ret log := by
  have hfailed : Triple writeLog (fun _ ↦ Clean drops) (pure (.int errSdFailed) : M PhpValue) fun value _ log ↦
      ∃ ret, value = .int ret ∧ Told drops ret log :=
    triple_pure _ fun _ _ hclean ↦ ⟨_, rfl, hclean.told_of_ne (by decide)⟩
  cases info with
  | none => exact hfailed
  | some info =>
    refine triple_ite (fun _ ↦ ?_) fun _ ↦ hfailed
    exact triple_bind (hbody info) fun ret ↦ triple_pure _ fun _ _ htold ↦ ⟨ret, rfl, htold⟩

/-- The value a script gets, against the writes of the call. -/
theorem triple_callPhp_told (csp : Bool) (info : Option SdInfo) {function : PhpFunction}
    (hfunction : function.isBdWrite = true) :
    Triple writeLog (fun _ ↦ Clean function.drops) (callPhp csp info function) fun value _ log ↦
      ∃ ret, value = .int ret ∧ Told function.drops ret log := by
  have hfailed (function : PhpFunction) : Triple writeLog (fun _ ↦ Clean function.drops)
      (pure (.int errSdFailed) : M PhpValue) fun value _ log ↦
        ∃ ret, value = .int ret ∧ Told function.drops ret log :=
    triple_pure _ fun _ _ hclean ↦ ⟨_, rfl, hclean.told_of_ne (by decide)⟩
  cases function with
  | smsSdForceasset => exact triple_withPointers_told fun info ↦ triple_sdForceAsset fun _ _ ↦ id
  | smsBdInitProvstatus numStages stageNames =>
    exact triple_withPointers_told fun info ↦ triple_smsBdInitProvstatus fun _ _ ↦ id
  | smsBdSetProvstatus stageIndex status errorId nextStatus additionalmsg =>
    cases additionalmsg with
    | none => exact hfailed _
    | some additionalmsg => exact triple_withPointers_told fun info ↦ triple_smsBdSetProvstatus fun _ _ ↦ id
  | smsBdSetPollMode pollMode =>
    exact triple_withPointers_told fun info ↦ triple_smsBd fun _ _ hclean ↦
      safe_ha_write rfl (fun _ ↦ id) hclean.1 hclean.2
  | smsBdSetIpconfig ipAddr =>
    exact triple_withPointers_told fun info ↦ triple_smsBd fun _ _ hclean ↦
      safe_ha_write rfl (fun _ ↦ id) hclean.1 hclean.2
  | smsBdResetConfObjects =>
    exact triple_withPointers_told fun info ↦ triple_smsBd fun _ _ hclean ↦
      safe_sql_reports rfl (fun _ ↦ id) hclean.1 hclean.2
  | smsBdSetConfObjects name value =>
    exact triple_withPointers_told fun info ↦ triple_smsBd fun _ _ hclean ↦
      safe_sql_reports rfl (fun _ ↦ id) hclean.1 hclean.2
  | smsBdDeleteConfObjects name =>
    exact triple_withPointers_told fun info ↦ triple_smsBd fun _ _ hclean ↦
      safe_sql_reports rfl (fun _ ↦ id) hclean.1 hclean.2
  | smsBdSetLog logMsg logLevel logReference =>
    cases info with
    | none => exact triple_lift fun _ _ _ ↦ ⟨trivial, fun answer ↦ answer.elim⟩
    | some info =>
      apply triple_bind (triple_smsBdSetLog fun _ _ ↦ Iff.rfl)
      exact fun ret ↦ triple_pure _ fun _ _ htold ↦ ⟨ret, rfl, htold⟩
  | smsSetUpdateStatus sdid errorCode type status errorMsg =>
    cases sdid with
    | none => exact hfailed _
    | some sdid =>
      cases type with
      | none => exact hfailed _
      | some type =>
        cases status with
        | none => exact hfailed _
        | some status =>
          cases errorMsg with
          | none => exact hfailed _
          | some errorMsg =>
            refine triple_ite (fun _ ↦ ?_) fun _ ↦ hfailed _
            apply triple_bind (triple_smsSetUpdateStatus (fun _ _ _ ↦ id) fun _ _ ↦ Iff.rfl)
            exact fun ret ↦ triple_pure _ fun _ _ htold ↦ ⟨ret, rfl, htold⟩
  | _ => exact nomatch hfunction

end Functions

section Names

/-- Reading all elements of a list fails at one that is missing. -/
theorem mapM_eq_none_of_mem {α β : Type} {read : α → Option β} {xs : List α} {x : α} (hx : x ∈ xs)
    (hmissing : read x = none) : xs.mapM read = none := by
  induction xs with
  | nil => exact nomatch hx
  | cons y xs ih =>
    rw [List.mapM_cons]
    rcases List.mem_cons.1 hx with rfl | hmem
    · rw [hmissing]
      rfl
    · rw [ih hmem]
      cases read y with
      | none => rfl
      | some value => rfl

/-- A stage without a name stops the function before it takes a context. -/
theorem smsBdInitProvstatus_of_missing {numStages : Int} {stageNames : List (Option CString)} {i : ℕ}
    (hi : i < numStages) (hmissing : stageNames[i]?.join = none) (info : SdInfo) :
    smsBdInitProvstatus info numStages stageNames = pure errLocalPhp := by
  have hnames : ((List.range numStages.toNat).mapM fun i ↦ stageNames[i]?.join) = none :=
    mapM_eq_none_of_mem (List.mem_range.2 (by omega)) hmissing
  unfold smsBdInitProvstatus
  rw [hnames]
  rfl

/-- The database is called only if every stage has a name. -/
theorem names_of_call {csp : Bool} {info : Option SdInfo} {numStages : Int} {stageNames : List (Option CString)}
    {client : Client} {trace : List (Event signature)} {final : Code (PhpValue × Client)}
    (hrun : Run (callPhp csp info (.smsBdInitProvstatus numStages stageNames) client) trace final)
    (hcall : trace ≠ []) {i : ℕ} (hi : i < numStages) : ∃ name, stageNames[i]?.join = some name := by
  rw [← Option.isSome_iff_exists, Option.isSome_iff_ne_none]
  intro hmissing
  have hpure : ∃ ret, callPhp csp info (.smsBdInitProvstatus numStages stageNames) = pure (.int ret) := by
    show ∃ ret, withPointers csp info (smsBdInitProvstatus · numStages stageNames) = _
    unfold withPointers
    simp only [smsBdInitProvstatus_of_missing hi hmissing, Procedure.pure_bind_eq]
    cases info with
    | none => exact ⟨_, rfl⟩
    | some info =>
      cases csp with
      | false => exact ⟨_, rfl⟩
      | true => exact ⟨_, rfl⟩
  obtain ⟨ret, hpure⟩ := hpure
  rw [hpure] at hrun
  cases hrun with
  | done => exact hcall rfl

end Names

/-- A call of one of the ten functions keeps its promise exactly when no failed write is dropped: the zero it
returns means that its writes were carried out, and a stage without a name keeps it from the database. -/
theorem callPhp_told {csp : Bool} {info : Option SdInfo} {function : PhpFunction} {client client' : Client}
    {value : PhpValue} {trace : List (Event signature)} (hfunction : function.isBdWrite = true)
    (hrun : Run (callPhp csp info function client) trace (.ret (value, client'))) :
    ((value = .int smsOk → Carried (writes trace)) ∧
      ∀ numStages stageNames, function = .smsBdInitProvstatus numStages stageNames →
        (∃ ctx query reply, (⟨.sql ctx query, reply⟩ : Event signature) ∈ trace) →
        ∀ i : ℕ, i < numStages → ∃ name, stageNames[i]?.join = some name) ↔
      ∀ write ∈ writes trace, ¬function.drops write := by
  have hsafe := triple_callPhp_told csp info hfunction client [] ⟨trivial, List.forall_mem_nil _⟩
  have hmeets := Monitor.meets_of_expect (M := writeLog) (fun _ _ _ ↦ trivial) [] trace
  obtain ⟨ret, hvalue, htold⟩ := hrun.returns hsafe hmeets
  rw [after_writeLog, List.nil_append] at htold
  have hnames : ∀ numStages stageNames, function = .smsBdInitProvstatus numStages stageNames →
      (∃ ctx query reply, (⟨.sql ctx query, reply⟩ : Event signature) ∈ trace) →
      ∀ i : ℕ, i < numStages → ∃ name, stageNames[i]?.join = some name := by
    rintro numStages stageNames rfl ⟨ctx, query, reply, hcall⟩ i hi
    exact names_of_call hrun (List.ne_nil_of_mem hcall) hi
  have hret : value = .int smsOk ↔ ret = smsOk := by
    rw [show value = .int ret from hvalue]
    exact ⟨PhpValue.int.inj, congrArg _⟩
  rw [and_iff_left hnames, hret]
  exact htold

/-- A poll mode that is stored at the second attempt, after the first one lost the connection. -/
def pollModeTrace : List (Event signature) :=
  [⟨.readShutdown, false⟩, ⟨.sql ⟨.sms, 0⟩ (.setPollMode Sim.plainDevice.sd.key 1), ⟨errDbConnectionLost, ()⟩⟩,
    ⟨.allocateContext ⟨.sms, 0⟩ .sms, ()⟩, ⟨.readShutdown, false⟩,
    ⟨.sql ⟨.sms, 0⟩ (.setPollMode Sim.plainDevice.sd.key 1), ⟨smsOk, ()⟩⟩]

theorem callPhp_told_setPollMode : Carried (writes pollModeTrace) := by
  have hrun : Run (callPhp true (some Sim.plainDevice) (.smsBdSetPollMode 1) ⟨1, some ⟨.sms, 0⟩⟩) pollModeTrace
      (.ret (.int smsOk, ⟨1, some ⟨.sms, 0⟩⟩)) :=
    .call (@Run.bound _ _ _ 2 _ _ (.call (.call (.call (.call (.done _))))))
  exact ((callPhp_told rfl hrun).2 (by simp [writes, written, pollModeTrace, PhpFunction.drops])).1 rfl

/-- A log entry that the database refuses is reported as written. -/
theorem smsBdSetLog_drops : ∃ trace client',
    Run (callPhp true (some Sim.plainDevice) (.smsBdSetLog none none none) ⟨1, some ⟨.sms, 0⟩⟩) trace
      (.ret (.int smsOk, client')) ∧
    writes trace = [(.setLogById ⟨Sim.plainDevice.sd.key, [], 0, []⟩, errDbFailed)] ∧ ¬Carried (writes trace) := by
  have hrun : Run (callPhp true (some Sim.plainDevice) (.smsBdSetLog none none none) ⟨1, some ⟨.sms, 0⟩⟩)
      [⟨.findCtx .sms .smsBdSetLog, ⟨.sms, 1⟩⟩,
        ⟨.sql ⟨.sms, 1⟩ (.setLogById ⟨Sim.plainDevice.sd.key, [], 0, []⟩), ⟨errDbFailed, ()⟩⟩,
        ⟨.releaseCtx (some ⟨.sms, 1⟩), ()⟩] (.ret (.int smsOk, ⟨1, some ⟨.sms, 0⟩⟩)) :=
    .call (.call (.call (.done _)))
  refine ⟨_, _, hrun, rfl, ?_⟩
  show ¬Carried [_]
  rw [carried_singleton]
  exact nofun

end CoreEngine.Smsd
