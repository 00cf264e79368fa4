import CoreEngine.Interaction.Possibility
import CoreEngine.Smsd.Indifference
import CoreEngine.Smsd.Simulator
import Mathlib.Data.List.Induction

/-!
# The table of update statuses

The statuses that `setUpdateStatus` writes and `getUpdateStatus` reads, over whole histories: what
CHECKALLUPDATE reports of a device is the last status written for each kind of update.
-/

namespace CoreEngine.Smsd

open Interaction
open Procedure (lift Stable Triple triple_bind triple_ite)
open Program (Run Total total_ret total_perform)

section Table

structure StatusRow where
  date : CString
  status : CString
  message : CString
  deriving DecidableEq, Repr

/-- The rows, by device and kind of update, and the number of writes so far. -/
structure StatusTable where
  rows : SdKey × CString → Option StatusRow
  writes : ℕ

namespace StatusTable

def empty : StatusTable := ⟨fun _ ↦ none, 0⟩

variable (date : ℕ → CString)

/-- A write replaces the row; `date` tells when each write is made. -/
def write (table : StatusTable) (status : SdUpdatestatus) : StatusTable where
  rows := Function.update table.rows (status.key, status.updType)
    (some ⟨date table.writes, status.updStatus, status.updFailureMessage⟩)
  writes := table.writes + 1

/-- A lookup fails with the code that `failing` has for its kind of update, or else reads the row. Where
there is none, it leaves its argument alone. -/
def lookup (failing : CString → Option Int) (table : StatusTable) (status : SdUpdatestatus)
    (reply : Reply SdUpdatestatus) : Prop :=
  match failing status.updType, table.rows (status.key, status.updType) with
  | some code, _ => reply.ret = code
  | none, some row => reply = ⟨0, { status with
      updLastdate := row.date, updStatus := row.status, updFailureMessage := row.message }⟩
  | none, none => reply = ⟨errDbNotfound, status⟩

end StatusTable

/-- The table answers the lookups, and takes every write. -/
def statusTable (date : ℕ → CString) (failing : CString → Option Int) :
    Monitor signature StatusTable where
  allow _ _ := True
  expect table op answer := match op, answer with
    | .sql _ (.setUpdateStatus _), reply => reply.ret = 0
    | .sql _ (.getUpdateStatus status), reply => table.lookup failing status reply
    | _, _ => True
  next table op _ := match op with
    | .sql _ (.setUpdateStatus status) => table.write date status
    | _ => table

end Table

section History

/-- The arguments of a call of `setUpdateStatus`. -/
structure StatusWrite where
  sdid : CString
  type : CString
  status : CString
  message : CString
  deriving DecidableEq, Repr

/-- The record that reaches the database. -/
def StatusWrite.record (w : StatusWrite) : SdUpdatestatus where
  key := keyOf w.sdid
  updType := w.type.strncpy updTypeLen
  updStatus := w.status.strncpy updStatusLen
  updLastdate := []
  updFailureMessage := w.message.strncpy failureMessageLen

/-- Calls of `setUpdateStatus`, each on behalf of some client. -/
def recordAll : List (Client × StatusWrite) → Code (List Int)
  | [] => pure []
  | (csp, w) :: rest => do
      let result ← setUpdateStatus w.sdid w.type w.status w.message csp
      let results ← recordAll rest
      pure (result.1 :: results)

/-- The last write for a device and a kind of update, with its number. -/
def lastWrite (writes : List StatusWrite) (key : SdKey) (type : CString) : Option (StatusWrite × ℕ) :=
  writes.zipIdx.reverse.find? fun w ↦ keyOf w.1.sdid = key ∧ w.1.type = type

/-- What is reported of a kind of update. -/
def reported (date : ℕ → CString) (writes : List StatusWrite) (key : SdKey) (type : CString) : CString :=
  match lastWrite writes key type with
  | some (w, i) => date i ++ smsdMsgEol ++ w.status.take 1 ++ smsdMsgEol ++ w.message.take failureMessageLen
  | none => "01-01-1970 00:00:00".toList ++ smsdMsgEol ++ "N".toList ++ smsdMsgEol

/-- The section of a report for one entry of the table of events. -/
def reportSection (event : CString × CString) (text : CString) : CString :=
  "\r\n#begin ".toList ++ event.2 ++ "\r\n".toList ++ text ++ "\r\n#end ".toList ++ event.2 ++ "\r\n".toList

variable (date : ℕ → CString)

/-- The table after a history. -/
def tableOf (writes : List StatusWrite) : StatusTable :=
  writes.foldl (fun table w ↦ table.write date w.record) .empty

theorem tableOf_append (writes : List StatusWrite) (w : StatusWrite) :
    tableOf date (writes ++ [w]) = (tableOf date writes).write date w.record := by
  simp [tableOf]

theorem writes_tableOf (writes : List StatusWrite) : (tableOf date writes).writes = writes.length := by
  induction writes using List.reverseRecOn with
  | nil => rfl
  | append_singleton writes w ih =>
    rw [tableOf_append, List.length_append, ← ih]
    rfl

/-- A type that is cut off is none of the short ones. -/
theorem strncpy_eq_iff {type type' : CString} {n : ℕ} (htype : type.length < n) :
    type'.strncpy n = type ↔ type' = type := by
  constructor
  · intro hcut
    have hlength := congrArg List.length hcut
    rw [CString.strncpy, List.length_take] at hlength
    rw [CString.strncpy, List.take_of_length_le (by omega)] at hcut
    exact hcut
  · rintro rfl
    exact List.take_of_length_le (by omega)

/-- The row of a device and a kind of update is the one of the last write. -/
theorem rows_tableOf (writes : List StatusWrite) (key : SdKey) {type : CString}
    (htype : type.length < updTypeLen) : (tableOf date writes).rows (key, type) =
      (lastWrite writes key type).map fun w ↦
        ⟨date w.2, w.1.status.strncpy updStatusLen, w.1.message.strncpy failureMessageLen⟩ := by
  induction writes using List.reverseRecOn with
  | nil => rfl
  | append_singleton writes w ih =>
    have hcount := writes_tableOf date writes
    have hlast : lastWrite (writes ++ [w]) key type =
        if keyOf w.sdid = key ∧ w.type = type then some (w, writes.length) else lastWrite writes key type := by
      simp only [lastWrite, List.zipIdx_append, List.reverse_append, List.zipIdx_singleton,
        List.reverse_singleton, List.singleton_append, List.find?_cons, Nat.zero_add]
      split <;> simp_all
    rw [tableOf_append, hlast]
    simp only [StatusTable.write]
    by_cases hwrite : keyOf w.sdid = key ∧ w.type = type
    · have hkey : (key, type) = (w.record.key, w.record.updType) := by
        rw [← hwrite.1, ← (strncpy_eq_iff htype).2 hwrite.2]
        rfl
      rw [if_pos hwrite, hkey, Function.update_self, hcount]
      rfl
    · have hkey : (key, type) ≠ (w.record.key, w.record.updType) := by
        intro hequal
        apply hwrite
        refine ⟨(congrArg Prod.fst hequal).symm, ?_⟩
        exact (strncpy_eq_iff htype).1 (congrArg Prod.snd hequal).symm
      rw [if_neg hwrite, Function.update_of_ne hkey, ih]

end History

section Lookup

/-- What `getUpdateStatus` allocates for its result. -/
def SdUpdatestatus.allocated (status : SdUpdatestatus) : ℕ :=
  status.updLastdate.length + 2 + 1 + 2 + status.updFailureMessage.length + 1

/-- What it writes there, up to and including the terminator. -/
def SdUpdatestatus.formatted (status : SdUpdatestatus) : List Char :=
  status.updLastdate ++ smsdMsgEol ++ [status.updStatus.headD '\x00'] ++ smsdMsgEol ++
    status.updFailureMessage ++ ['\x00']

theorem SdUpdatestatus.length_formatted (status : SdUpdatestatus) :
    status.formatted.length = status.allocated := by
  simp only [formatted, allocated, smsdMsgEol, List.length_append, List.length_singleton]
  rfl

variable {date : ℕ → CString} {failing : CString → Option Int} {csp : Client} {table : StatusTable}

theorem total_askTable {op : Op} {post : op.Answer → StatusTable → Prop} (answer : op.Answer)
    (hanswer : (statusTable date failing).expect table op answer)
    (hpost : ∀ answer, (statusTable date failing).expect table op answer →
      post answer ((statusTable date failing).next table op answer)) :
    Total (statusTable date failing) (ask op) post table :=
  total_perform trivial ⟨answer, hanswer⟩ hpost

/-- A context is there, or is taken. -/
theorem total_ensureDbCtx {keeper : Keeper} {post : Unit × Client → StatusTable → Prop}
    (hpost : ∀ ctx, post ((), { csp with dbCtx := some ctx }) table) :
    Total (statusTable date failing) (ensureDbCtx keeper csp) post table := by
  obtain ⟨cfd, dbCtx⟩ := csp
  refine Procedure.total_bind (total_ret ?_)
  cases dbCtx with
  | some ctx => exact total_ret (hpost ctx)
  | none =>
    refine Procedure.total_bind (Procedure.total_lift (total_askTable ⟨.sms, 0⟩ trivial fun ctx _ ↦ ?_))
    refine Procedure.total_bind (total_ret (Procedure.total_bind (Procedure.total_lift ?_)))
    exact total_askTable () trivial fun _ _ ↦ total_ret (hpost ctx)

/-- A call on a context that is there. -/
theorem total_useDbCtx {query : Sql} {post : Reply query.Output × Client → StatusTable → Prop} {ctx : Ctx}
    {cfd : Int} (reply : Reply query.Output)
    (hreply : (statusTable date failing).expect table (.sql ctx query) reply)
    (hpost : ∀ reply, (statusTable date failing).expect table (.sql ctx query) reply →
      post (reply, ⟨cfd, some ctx⟩) ((statusTable date failing).next table (.sql ctx query) reply)) :
    Total (statusTable date failing) (useDbCtx (fun ctx ↦ sql ctx query) ⟨cfd, some ctx⟩) post table :=
  Procedure.total_bind (total_ret (Procedure.total_lift (total_askTable reply hreply hpost)))

/-- A call of `setUpdateStatus` reaches the table. -/
theorem total_setUpdateStatus (csp : Client) (w : StatusWrite) (hsdid : 4 ≤ w.sdid.length) :
    Total (statusTable date failing) (setUpdateStatus w.sdid w.type w.status w.message csp)
      (fun result table' ↦ result.1 = 0 ∧ table' = table.write date w.record) table := by
  unfold setUpdateStatus
  rw [decodeSdid_eq_keyOf hsdid, Procedure.pure_bind_eq]
  refine Procedure.total_bind (total_ensureDbCtx fun ctx ↦ ?_)
  refine Procedure.total_bind (total_useDbCtx ⟨0, ()⟩ rfl fun reply hret ↦ ?_)
  have hnot : ¬(reply.ret = errDbFailed ∨ reply.ret = errDbNotfound) := by
    rw [(hret : reply.ret = 0)]
    decide
  rw [if_neg hnot]
  exact total_ret ⟨rfl, rfl⟩

theorem total_recordAll {writes : List (Client × StatusWrite)}
    (hwrites : ∀ w ∈ writes, 4 ≤ w.2.sdid.length) :
    Total (statusTable date failing) (recordAll writes)
      (fun results table' ↦ results = writes.map (fun _ ↦ 0) ∧
        table' = (writes.map Prod.snd).foldl (fun table w ↦ table.write date w.record) table) table := by
  induction writes generalizing table with
  | nil => exact total_ret ⟨rfl, rfl⟩
  | cons w writes ih =>
    have hfirst : 4 ≤ w.2.sdid.length := hwrites w (by simp)
    have hrest : ∀ w ∈ writes, 4 ≤ w.2.sdid.length := fun w hw ↦ hwrites w (by simp [hw])
    refine Program.total_bind ((total_setUpdateStatus w.1 w.2 hfirst).mono ?_)
    rintro result _ ⟨hresult, rfl⟩
    refine Program.total_bind ((ih hrest).mono ?_)
    rintro results _ ⟨rfl, rfl⟩
    refine total_ret ⟨?_, rfl⟩
    rw [hresult]
    rfl

/-- What a lookup of `getUpdateStatus` makes of the table. -/
def statusText (table : StatusTable) (key : SdKey) (type : CString) : CString :=
  match table.rows (key, type) with
  | some row => SdUpdatestatus.text ⟨key, type, row.status, row.date, row.message⟩
  | none => SdUpdatestatus.text (SdUpdatestatus.notProcessed ⟨key, type, [], [], []⟩)

theorem total_getUpdateStatus {sdid type : CString} (hsdid : 4 ≤ sdid.length) (htype : type.length < updTypeLen)
    (hfailing : ∀ type code, failing type = some code → code ≠ 0 ∧ code ≠ errDbNotfound) :
    Total (statusTable date failing) (getUpdateStatus sdid type csp)
      (fun result table' ↦ table' = table ∧ result.1 =
        (failing type).elim ⟨0, some (statusText table (keyOf sdid) type)⟩ (⟨·, none⟩)) table := by
  have hcut : type.strncpy updTypeLen = type := (strncpy_eq_iff htype).2 rfl
  unfold getUpdateStatus
  rw [decodeSdid_eq_keyOf hsdid, Procedure.pure_bind_eq, hcut]
  refine Procedure.total_bind (total_ensureDbCtx fun ctx ↦ ?_)
  unfold statusText
  have hlookup (reply : Reply SdUpdatestatus) :
      (statusTable date failing).expect table (.sql ctx (.getUpdateStatus ⟨keyOf sdid, type, [], [], []⟩)) reply =
        table.lookup failing ⟨keyOf sdid, type, [], [], []⟩ reply := rfl
  unfold StatusTable.lookup at hlookup
  cases hfail : failing type with
  | some code =>
    obtain ⟨hzero, hnotfound⟩ := hfailing type code hfail
    simp only [hfail] at hlookup
    refine Procedure.total_bind (total_useDbCtx ⟨code, ⟨keyOf sdid, type, [], [], []⟩⟩ ?_ fun reply hreply ↦ ?_)
    · rw [hlookup]
    · rw [hlookup] at hreply
      rw [if_pos (by rwa [hreply]), if_pos (by rwa [hreply]), hreply]
      exact total_ret ⟨rfl, rfl⟩
  | none =>
    cases hrow : table.rows (keyOf sdid, type) with
    | some row =>
      simp only [hfail, hrow] at hlookup
      refine Procedure.total_bind (total_useDbCtx ⟨0, ⟨keyOf sdid, type, row.status, row.date, row.message⟩⟩ ?_
        fun reply hreply ↦ ?_)
      · rw [hlookup]
      · rw [hlookup] at hreply
        rw [hreply]
        exact total_ret ⟨rfl, rfl⟩
    | none =>
      simp only [hfail, hrow] at hlookup
      refine Procedure.total_bind (total_useDbCtx ⟨errDbNotfound, ⟨keyOf sdid, type, [], [], []⟩⟩ ?_
        fun reply hreply ↦ ?_)
      · rw [hlookup]
      · rw [hlookup] at hreply
        rw [hreply]
        exact total_ret ⟨rfl, rfl⟩

/-- The report of the table over the rest of the events, after the text built so far. -/
def reportOf (failing : CString → Option Int) (text : CString × CString → CString)
    (rest : List (CString × CString)) (updateString : Option CString) : Reply (Option CString) :=
  (rest.findSome? fun event ↦ failing event.1).elim
    ⟨smsOk, if rest = [] then updateString else some (updateString.getD [] ++
      rest.flatMap fun event ↦ reportSection event (text event))⟩ (⟨·, none⟩)

theorem append_reportSection (event : CString × CString) (updateString check : Option CString) :
    updateString.getD [] ++ reportSection event (check.getD []) = updateString.getD [] ++
      "\r\n#begin ".toList ++ event.2 ++ "\r\n".toList ++ check.getD [] ++
      "\r\n#end ".toList ++ event.2 ++ "\r\n".toList := by
  unfold reportSection
  generalize "\r\n#begin ".toList = first, "\r\n#end ".toList = last, "\r\n".toList = eol
  simp only [List.append_assoc]

theorem total_checkEvents {sdid : CString} (hsdid : 4 ≤ sdid.length)
    (hfailing : ∀ type code, failing type = some code → code ≠ 0 ∧ code ≠ errDbNotfound)
    {rest : List (CString × CString)} (hrest : ∀ event ∈ rest, event.1.length < updTypeLen)
    (updateString : Option CString) :
    Total (statusTable date failing) (checkEvents sdid rest updateString csp)
      (fun result table' ↦ table' = table ∧ result.1 =
        reportOf failing (fun event ↦ statusText table (keyOf sdid) event.1) rest updateString) table := by
  induction rest generalizing updateString csp with
  | nil => exact total_ret ⟨rfl, rfl⟩
  | cons event rest ih =>
    have hevent : event.1.length < updTypeLen := hrest event (by simp)
    unfold checkEvents
    refine Procedure.total_bind ((total_getUpdateStatus hsdid hevent hfailing).mono ?_)
    rintro ⟨check, csp⟩ _ ⟨rfl, hcheck⟩
    obtain rfl : check = _ := hcheck
    cases hfail : failing event.1 with
    | some code =>
      have hcode := (hfailing event.1 code hfail).1
      rw [Option.elim_some, if_pos hcode]
      refine total_ret ⟨rfl, ?_⟩
      simp [reportOf, hfail]
    | none =>
      rw [Option.elim_none, if_neg (by simp)]
      refine (ih (fun event hmem ↦ hrest event (by simp [hmem])) _).mono ?_
      rintro result _ ⟨rfl, hresult⟩
      refine ⟨rfl, hresult.trans ?_⟩
      unfold reportOf
      rw [List.findSome?_cons, hfail]
      rw [← append_reportSection]
      cases rest with
      | nil =>
        simp only [List.flatMap_cons, List.flatMap_nil, List.append_nil, ↓reduceIte, reduceCtorEq,
          Option.getD_some]
      | cons next rest =>
        simp only [List.flatMap_cons, Option.getD_some, List.append_assoc, ↓reduceIte, reduceCtorEq]

end Lookup

section Report

variable (date : ℕ → CString)

theorem mem_of_lastWrite {writes : List StatusWrite} {key : SdKey} {type : CString} {w : StatusWrite × ℕ}
    (hlast : lastWrite writes key type = some w) : w.1 ∈ writes := by
  have hmem := List.mem_of_find?_eq_some hlast
  rw [List.mem_reverse] at hmem
  exact List.fst_mem_of_mem_zipIdx hmem

/-- What is read from the table is what was written last. -/
theorem statusText_tableOf {writes : List StatusWrite} (hstatus : ∀ w ∈ writes, w.status ≠ []) (key : SdKey)
    {type : CString} (htype : type.length < updTypeLen) :
    statusText (tableOf date writes) key type = reported date writes key type := by
  unfold statusText reported
  rw [rows_tableOf date writes key htype]
  cases hlast : lastWrite writes key type with
  | none => rfl
  | some w =>
    obtain ⟨w, i⟩ := w
    cases hs : w.status with
    | nil => exact absurd hs (hstatus w (mem_of_lastWrite hlast))
    | cons c rest => simp [SdUpdatestatus.text, CString.strncpy, updStatusLen, hs]

/-- A history of writes, and a check of one device after it. -/
def recordAndCheck (writes : List (Client × StatusWrite)) (sdid : CString) (csp : Client) :
    Code (List Int × Reply (Option CString)) := do
  let results ← recordAll writes
  let report ← checkAllUpdate sdid csp
  pure (results, report.1)

/-- CHECKALLUPDATE reports the last status written for each kind of update, in the order of the table, or
the code of the first lookup that fails; and the text of a status fills what is allocated for it. -/
theorem checkAllUpdate_reports (failing : CString → Option Int)
    (hfailing : ∀ type code, failing type = some code → code ≠ 0 ∧ code ≠ errDbNotfound)
    {writes : List (Client × StatusWrite)}
    (hwrites : ∀ w ∈ writes, 4 ≤ w.2.sdid.length ∧ w.2.status ≠ []) {sdid : CString}
    (hsdid : 4 ≤ sdid.length) (csp : Client) :
    (∃ trace result, Run (recordAndCheck writes sdid csp) trace (.ret result) ∧
      (statusTable date failing).Meets .empty trace) ∧
    (∀ trace result, Run (recordAndCheck writes sdid csp) trace (.ret result) →
      (statusTable date failing).Meets .empty trace →
      result.1 = writes.map (fun _ ↦ 0) ∧
      result.2 = (events.findSome? fun event ↦ failing event.1).elim
        ⟨smsOk, some (events.flatMap fun event ↦
          reportSection event (reported date (writes.map Prod.snd) (keyOf sdid) event.1))⟩ (⟨·, none⟩)) ∧
    ∀ status : SdUpdatestatus, status.formatted.length = status.allocated := by
  have hlong : ∀ event ∈ events, event.1.length < updTypeLen := by decide
  have hstatus : ∀ w ∈ writes.map Prod.snd, w.status ≠ [] := by
    intro w hw
    obtain ⟨pair, hpair, rfl⟩ := List.mem_map.1 hw
    exact (hwrites pair hpair).2
  have htotal : Total (statusTable date failing) (recordAndCheck writes sdid csp) (fun result _ ↦
      result.1 = writes.map (fun _ ↦ 0) ∧
      result.2 = reportOf failing (fun event ↦
        statusText (tableOf date (writes.map Prod.snd)) (keyOf sdid) event.1) events none) .empty := by
    refine Program.total_bind ((total_recordAll fun w hw ↦ (hwrites w hw).1).mono ?_)
    rintro results _ ⟨hresults, rfl⟩
    refine Program.total_bind ((total_checkEvents hsdid hfailing hlong none).mono ?_)
    rintro report _ ⟨-, hreport⟩
    exact total_ret ⟨hresults, hreport⟩
  have hsections : (events.flatMap fun event ↦ reportSection event
      (statusText (tableOf date (writes.map Prod.snd)) (keyOf sdid) event.1)) =
      events.flatMap fun event ↦
        reportSection event (reported date (writes.map Prod.snd) (keyOf sdid) event.1) := by
    apply List.flatMap_congr
    intro event hevent
    rw [statusText_tableOf date hstatus _ (hlong event hevent)]
  obtain ⟨hexists, hall⟩ := htotal.run
  refine ⟨hexists, fun trace result hrun hmeets ↦ ?_, SdUpdatestatus.length_formatted⟩
  obtain ⟨hresults, hreport⟩ := hall trace result hrun hmeets
  refine ⟨hresults, hreport.trans ?_⟩
  unfold reportOf
  rw [hsections, if_neg (by decide)]
  rfl

/-- The second of two backups of one device, under two spellings of its identifier. -/
theorem checkAllUpdate_reports_backup :
    let writes : List (Client × StatusWrite) :=
      [(⟨5, none⟩, ⟨"ABC123".toList, "BACKUP".toList, "WORKING".toList, []⟩),
        (⟨5, none⟩, ⟨"ABC0123".toList, "BACKUP".toList, "FAILED".toList, "no answer".toList⟩)]
    reported (fun _ ↦ "02-01-1970 00:00:00".toList) (writes.map Prod.snd) (keyOf "ABC123".toList)
        "BACKUP".toList = "02-01-1970 00:00:00\r\nF\r\nno answer".toList ∧
      ∃ trace result, Run (recordAndCheck writes "ABC123".toList ⟨5, none⟩) trace (.ret result) ∧
        (statusTable (fun _ ↦ "02-01-1970 00:00:00".toList) fun _ ↦ none).Meets .empty trace := by
  intro writes
  exact ⟨by decide +kernel, (checkAllUpdate_reports (fun _ ↦ "02-01-1970 00:00:00".toList) (fun _ ↦ none) nofun
    (by decide : ∀ w ∈ writes, 4 ≤ w.2.sdid.length ∧ w.2.status ≠ [])
    (by decide : 4 ≤ "ABC123".toList.length) ⟨5, none⟩).1⟩

end Report

section BackgroundUpdate

/-- The part of `update_task` before the label `end`: the value that `ret` has there. -/
def updateTaskRet (sd : SdLike) : M Int := do
  let ctx ← lift (findCtx .sms (.keeper .updateTask))
  storeDbCtx (some ctx)
  let info ← getSDinfo (sd.sdid.strncpy sdidLen)
  if info.ret ≠ 0 then pure info.ret else do
    let ret ← if info.output.sd.sdType.head? = some 'H' then updateConfig info.output
      else pure errSdNotSupported
    ensureDbCtx .updateTask
    pure ret

theorem updateTask_eq (sd : SdLike) : updateTask sd = (do
    let ret ← updateTaskRet sd
    recordUpdate (sd.sdid.strncpy sdidLen) ret
    pure 0) := by
  unfold updateTask updateTaskRet
  simp only [Procedure.bind_assoc_eq, Procedure.pure_bind_eq, Procedure.ite_bind_eq]

/-- The character that a text of `getUpdateStatus` has on its second line. -/
def reportedStatus (text : CString) : Option Char := ((text.dropWhile (· ≠ '\r')).drop 2).head?

theorem reportedStatus_eq {date : CString} (hdate : '\r' ∉ date) (rest : CString) :
    reportedStatus (date ++ (smsdMsgEol ++ rest)) = rest.head? := by
  have hall : ∀ d ∈ date, decide (d ≠ '\r') = true := by
    intro d hd
    simp only [ne_eq, decide_not, Bool.not_eq_eq_eq_not, Bool.not_true, decide_eq_false_iff_not]
    rintro rfl
    exact hdate hd
  unfold reportedStatus
  rw [List.dropWhile_append_of_pos hall]
  rfl

def Op.writesStatus : Op → Bool
  | .sql _ (.setUpdateStatus _) => true
  | _ => false

/-- No status is written. -/
def WritesNoStatus (trace : List (Event signature)) : Prop :=
  ∀ event ∈ trace, Op.writesStatus event.1 = false

/-- An update of a device in the background that fails, without a script that writes a status: the table
before and after it. -/
inductive FailedUpdate (date : ℕ → CString) (table : StatusTable) (sd : SdLike) : StatusTable → Prop
  | intro {ret : Int} {csp csp' : Client} {trace trace' : List (Event signature)}
      (hret : ret ≠ 0 ∧ ret ≠ errSdNotSupported ∧ ret ≠ errSdLock ∧ ret ≠ errSdProvlock)
      (hupdate : Run (updateTaskRet sd ⟨-1, none⟩) trace (.ret (ret, csp))) (hscripts : WritesNoStatus trace)
      (hrecord : Run (recordUpdate (sd.sdid.strncpy sdidLen) ret csp) trace' (.ret ((), csp')))
      (hmeets : (statusTable date fun _ ↦ none).Meets table (trace ++ trace')) :
      FailedUpdate date table sd ((statusTable date fun _ ↦ none).after table (trace ++ trace'))

variable {date : ℕ → CString} {failing : CString → Option Int} {table table' : StatusTable} {sd : SdLike}

theorem after_of_writesNoStatus {trace : List (Event signature)} (htrace : WritesNoStatus trace) :
    (statusTable date failing).after table trace = table := by
  induction trace with
  | nil => rfl
  | cons event trace ih =>
    have hnext : (statusTable date failing).next table event.1 event.2 = table := by
      obtain ⟨op, answer⟩ := event
      cases op with
      | sql ctx query =>
        cases query with
        | setUpdateStatus status => exact nomatch htrace _ List.mem_cons_self
        | _ => rfl
      | _ => rfl
    rw [Monitor.after, hnext]
    exact ih fun event hevent ↦ htrace event (by simp [hevent])

theorem ignores_statusTable {op : Op} (hop : op.OnPool) : (statusTable date failing).Ignores op := by
  intro table
  cases op with
  | sql ctx query => exact hop.elim
  | _ => exact ⟨trivial, fun _ ↦ rfl⟩

/-- The status of a failed update is written under the name of the event. -/
theorem StatusTable.triple_smsSetUpdateStatus {sdid : CString} (hsdid : 4 ≤ sdid.length) (ret : Int) :
    Triple (statusTable date failing) (fun _ t ↦ t = table)
      (smsSetUpdateStatus sdid ret "scan_updated".toList "FAILED".toList []) fun _ _ t ↦ ∃ message,
        t = table.write date (StatusWrite.record ⟨sdid, "scan_updated".toList, "FAILED".toList, message⟩) := by
  have hask (op : Op) (hop : op.OnPool) : Stable (statusTable date failing) (fun (_ : Client) t ↦ t = table)
      (lift (ask op)) := stable_ask_of_ignores (ignores_statusTable hop)
  have hdecode : decodeSdid CString.strtol sdid = pure _ :=
    decodeSdid_of_le_length _ (Nat.le_of_succ_le hsdid)
  have hwrite (message : CString) : Triple (statusTable date failing) (fun _ t ↦ t = table)
      (setUpdateStatus sdid "scan_updated".toList "FAILED".toList message) fun _ _ t ↦ ∃ message,
        t = table.write date (StatusWrite.record ⟨sdid, "scan_updated".toList, "FAILED".toList, message⟩) := by
    intro csp t htable
    have htotal : Total (statusTable date failing) _ _ t :=
      total_setUpdateStatus csp ⟨sdid, "scan_updated".toList, "FAILED".toList, message⟩ hsdid
    rw [htable] at htotal ⊢
    exact htotal.safe.mono fun _ _ hpost ↦ ⟨message, hpost.2⟩
  have halarm (key : SdKey) (level : Int) (reference message : CString) :=
    hask (.setSdAlarm key level reference message) trivial
  have hend (message : Option CString) : Triple (statusTable date failing) (fun _ t ↦ t = table)
      (message.elim (lift nullDereference) fun message ↦
        setUpdateStatus sdid "scan_updated".toList "FAILED".toList message : M Int) fun _ _ t ↦ ∃ message,
        t = table.write date (StatusWrite.record ⟨sdid, "scan_updated".toList, "FAILED".toList, message⟩) := by
    cases message with
    | none => exact fun _ _ _ ↦ ⟨trivial, fun answer ↦ answer.elim⟩
    | some message => exact hwrite message
  have hshape : smsSetUpdateStatus sdid ret "scan_updated".toList "FAILED".toList [] =
      endUpdate sdid ret "scan_updated".toList "FAILED".toList [] := rfl
  rw [hshape]
  unfold endUpdate
  rw [hdecode]
  apply triple_bind (hask .library trivial).triple
  intro library
  apply triple_bind (hask .currentConfig trivial).triple
  intro currentConfig
  rw [Procedure.pure_bind_eq]
  apply triple_ite
  · intro _
    apply triple_bind (halarm _ _ _ _).triple
    exact fun _ ↦ hend _
  · exact fun _ ↦ hend _

theorem StatusTable.triple_recordUpdate {sdid : CString} (hsdid : 4 ≤ sdid.length) {ret : Int}
    (hret : ret ≠ 0 ∧ ret ≠ errSdNotSupported ∧ ret ≠ errSdLock ∧ ret ≠ errSdProvlock) :
    Triple (statusTable date failing) (fun _ t ↦ t = table) (recordUpdate sdid ret) fun _ _ t ↦ ∃ message,
      t = table.write date (StatusWrite.record ⟨sdid, "scan_updated".toList, "FAILED".toList, message⟩) := by
  have hrelease : Stable (statusTable date failing) (fun _ t ↦ ∃ message,
      t = table.write date (StatusWrite.record ⟨sdid, "scan_updated".toList, "FAILED".toList, message⟩))
      releaseBdCtx :=
    stable_releaseBdCtx_of_keeps (fun _ _ _ hpost ↦ hpost) fun op hop ↦ (ignores_statusTable hop).keeps
  unfold recordUpdate
  rw [if_pos hret.1, if_pos hret.2]
  apply triple_bind (StatusTable.triple_smsSetUpdateStatus hsdid ret)
  exact fun _ ↦ hrelease.triple

/-- What CHECKUPDATE and CHECKALLUPDATE find in a table. -/
theorem checks_of_table {sdid : CString} (hsdid : 4 ≤ sdid.length) {csp csp' : Client}
    {trace trace' : List (Event signature)} {one all : Reply (Option CString) × Client}
    (hone : Run (checkUpdate sdid csp) trace (.ret one))
    (hmeets : (statusTable date fun _ ↦ none).Meets table trace)
    (hall : Run (checkAllUpdate sdid csp') trace' (.ret all))
    (hmeets' : (statusTable date fun _ ↦ none).Meets table trace') :
    one.1 = ⟨smsOk, some (statusText table (keyOf sdid) "UPDATE".toList)⟩ ∧
      all.1 = ⟨smsOk, some (events.flatMap fun event ↦
        reportSection event (statusText table (keyOf sdid) event.1))⟩ := by
  have hlong : ∀ event ∈ events, event.1.length < updTypeLen := by decide
  have hnone : ∀ (type : CString) (code : Int), none = some code → code ≠ 0 ∧ code ≠ errDbNotfound :=
    fun _ _ hcode ↦ nomatch hcode
  constructor
  · have htotal : Total (statusTable date fun _ ↦ none) (getUpdateStatus sdid "UPDATE".toList csp) _ table :=
      total_getUpdateStatus hsdid (by decide) hnone
    exact (hone.returns htotal.safe hmeets).2
  · have htotal : Total (statusTable date fun _ ↦ none) (checkEvents sdid events none csp') _ table :=
      total_checkEvents hsdid hnone hlong none
    exact (hall.returns htotal.safe hmeets').2

theorem rows_of_failedUpdate (hupdate : FailedUpdate date table sd table')
    (hsdid : 4 ≤ (sd.sdid.strncpy sdidLen).length) {event : CString × CString} (hevent : event ∈ events)
    (key : SdKey) : table'.rows (key, event.1) = table.rows (key, event.1) := by
  obtain ⟨hret, -, hscripts, hrecord, hmeets⟩ := hupdate
  rw [Monitor.meets_append, after_of_writesNoStatus hscripts] at hmeets
  rw [Monitor.after_append, after_of_writesNoStatus hscripts]
  have htriple : Triple (statusTable date fun _ ↦ none) (fun _ t ↦ t = table)
      (recordUpdate (sd.sdid.strncpy sdidLen) _) _ := StatusTable.triple_recordUpdate hsdid hret
  obtain ⟨message, htable⟩ := hrecord.returns (htriple _ _ rfl) hmeets.2
  have hother : event.1 ≠ "scan_updated".toList := by
    revert event
    decide
  rw [htable]
  apply Function.update_of_ne
  intro hequal
  exact hother (congrArg Prod.snd hequal)

/-- The status that a text of the table shows. -/
theorem reportedStatus_statusText (hdates : ∀ key row, table.rows key = some row → '\r' ∉ row.date)
    (key : SdKey) (type : CString) : reportedStatus (statusText table key type) = some 'F' ↔
      ∃ row, table.rows (key, type) = some row ∧ row.status.head? = some 'F' := by
  unfold statusText
  cases hrow : table.rows (key, type) with
  | none => simp [SdUpdatestatus.notProcessed, SdUpdatestatus.text, reportedStatus, smsdMsgEol]
  | some row =>
    have hdate := hdates _ row hrow
    have htext : SdUpdatestatus.text ⟨key, type, row.status, row.date, row.message⟩ =
        row.date ++ (smsdMsgEol ++ (row.status.head?.elim [] fun c ↦ c :: (smsdMsgEol ++ row.message))) := by
      cases hstatus : row.status with
      | nil => simp [SdUpdatestatus.text]
      | cons c rest => simp [SdUpdatestatus.text]
    simp only [htext, reportedStatus_eq hdate]
    cases hhead : row.status.head? with
    | none => simp [hhead]
    | some c => simp [hhead]

/-- A failed update is visible exactly when a failure of some kind was visible before. -/
theorem failed_update_visible_iff (hdates : ∀ key row, table.rows key = some row → '\r' ∉ row.date)
    (hsdid : 4 ≤ (sd.sdid.strncpy sdidLen).length) (hupdate : FailedUpdate date table sd table')
    {csp csp' : Client} {trace trace' : List (Event signature)} {one all : Reply (Option CString) × Client}
    (hone : Run (checkUpdate (sd.sdid.strncpy sdidLen) csp) trace (.ret one))
    (hmeets : (statusTable date fun _ ↦ none).Meets table' trace)
    (hall : Run (checkAllUpdate (sd.sdid.strncpy sdidLen) csp') trace' (.ret all))
    (hmeets' : (statusTable date fun _ ↦ none).Meets table' trace') :
    ∃ text : CString → CString, one.1 = ⟨smsOk, some (text "UPDATE".toList)⟩ ∧
      all.1 = ⟨smsOk, some (events.flatMap fun event ↦ reportSection event (text event.1))⟩ ∧
      ((∃ event ∈ events, reportedStatus (text event.1) = some 'F') ↔
        ∃ event ∈ events, ∃ row, table.rows (keyOf (sd.sdid.strncpy sdidLen), event.1) = some row ∧
          row.status.head? = some 'F') := by
  obtain ⟨hchecked, hchecks⟩ := checks_of_table hsdid hone hmeets hall hmeets'
  refine ⟨statusText table' (keyOf (sd.sdid.strncpy sdidLen)), hchecked, hchecks, ?_⟩
  apply exists_congr
  intro event
  apply and_congr_right
  intro hevent
  have hrows := rows_of_failedUpdate hupdate hsdid hevent
  have htext (key : SdKey) : statusText table' key event.1 = statusText table key event.1 := by
    unfold statusText
    rw [hrows]
  rw [htext]
  exact reportedStatus_statusText hdates _ _

/-- Both checks come to an end on every table. -/
theorem exists_checks (date : ℕ → CString) (table : StatusTable) {sdid : CString} (hsdid : 4 ≤ sdid.length)
    (csp : Client) : ∃ trace trace' one all, Run (checkUpdate sdid csp) trace (.ret one) ∧
      (statusTable date fun _ ↦ none).Meets table trace ∧ Run (checkAllUpdate sdid csp) trace' (.ret all) ∧
      (statusTable date fun _ ↦ none).Meets table trace' := by
  have hlong : ∀ event ∈ events, event.1.length < updTypeLen := by decide
  have hnone : ∀ (type : CString) (code : Int), none = some code → code ≠ 0 ∧ code ≠ errDbNotfound :=
    fun _ _ hcode ↦ nomatch hcode
  have hone : Total (statusTable date fun _ ↦ none) (getUpdateStatus sdid "UPDATE".toList csp) _ table :=
    total_getUpdateStatus hsdid (by decide) hnone
  have hall : Total (statusTable date fun _ ↦ none) (checkEvents sdid events none csp) _ table :=
    total_checkEvents hsdid hnone hlong none
  obtain ⟨trace, one, hrun, hmeets⟩ := hone.run.1
  obtain ⟨trace', all, hrun', hmeets'⟩ := hall.run.1
  exact ⟨trace, trace', one, all, hrun, hmeets, hrun', hmeets'⟩

/-- An event that is possible whatever the table holds. -/
def possibleEvent (event : Event signature) : Bool :=
  match event with
  | ⟨.sql _ (.setUpdateStatus _), reply⟩ => reply.ret = 0
  | ⟨.sql _ (.getUpdateStatus _), _⟩ => false
  | _ => true

theorem meets_of_possibleEvent {trace : List (Event signature)} (htrace : ∀ event ∈ trace, possibleEvent event)
    (table : StatusTable) : (statusTable date failing).Meets table trace := by
  induction trace generalizing table with
  | nil => trivial
  | cons event trace ih =>
    have hrest : ∀ event ∈ trace, possibleEvent event := fun event hevent ↦ htrace event (by simp [hevent])
    have hfirst := htrace event List.mem_cons_self
    have hexpect : (statusTable date failing).expect table event.1 event.2 := by
      obtain ⟨op, answer⟩ := event
      cases op with
      | sql ctx query =>
        cases query with
        | setUpdateStatus status =>
          have hret : answer.ret = 0 := of_decide_eq_true hfirst
          exact hret
        | getUpdateStatus status => exact nomatch hfirst
        | _ => trivial
      | _ => trivial
    exact ⟨hexpect, ih hrest _⟩

/-- A device whose update script ends with code 7. -/
def failingDevice : SdLike := { SdLike.blank with sdid := "ABC123".toList }

def failingUpdate : List (Event signature) × Code (Int × Client) × Sim :=
  (Sim.single [] [.exit 7 none none]).exec 1 (updateTaskRet failingDevice ⟨-1, none⟩)

def failingRecord : List (Event signature) × Code (Unit × Client) × Sim :=
  failingUpdate.2.2.exec 1 (recordUpdate "ABC123".toList 7 ⟨-1, some ⟨.sms, 0⟩⟩)

theorem failedUpdate_failingDevice (date : ℕ → CString) (table : StatusTable) :
    FailedUpdate date table failingDevice
      ((statusTable date fun _ ↦ none).after table (failingUpdate.1 ++ failingRecord.1)) := by
  have hupdate : Run (updateTaskRet failingDevice ⟨-1, none⟩) failingUpdate.1 failingUpdate.2.1 :=
    Program.run_exec _ 1 _ _
  have hrecord : Run (recordUpdate "ABC123".toList 7 ⟨-1, some ⟨.sms, 0⟩⟩) failingRecord.1 failingRecord.2.1 :=
    Program.run_exec _ 1 _ _
  have hret : failingUpdate.2.1 = .ret (7, ⟨-1, some ⟨.sms, 0⟩⟩) := rfl
  have hend : failingRecord.2.1 = .ret ((), ⟨-1, none⟩) := rfl
  have hscripts : WritesNoStatus failingUpdate.1 := by
    unfold WritesNoStatus
    decide +kernel
  rw [hret] at hupdate
  rw [hend] at hrecord
  have hpossible : ∀ event ∈ failingUpdate.1 ++ failingRecord.1, possibleEvent event := by decide +kernel
  exact .intro (by decide) hupdate hscripts hrecord (meets_of_possibleEvent hpossible table)

/-- A failure of an earlier update is still there after the next one. -/
theorem failed_update_visible_iff_earlier :
    let date : ℕ → CString := fun _ ↦ "02-01-1970 00:00:00".toList
    let table := tableOf date [⟨"ABC123".toList, "UPDATE".toList, "FAILED".toList, []⟩]
    ∃ table', FailedUpdate date table failingDevice table' ∧ ∃ csp trace trace' one all,
      Run (checkUpdate "ABC123".toList csp) trace (.ret one) ∧
      Run (checkAllUpdate "ABC123".toList csp) trace' (.ret all) ∧ ∃ text : CString → CString,
        one.1 = ⟨smsOk, some (text "UPDATE".toList)⟩ ∧
        all.1 = ⟨smsOk, some (events.flatMap fun event ↦ reportSection event (text event.1))⟩ ∧
        ∃ event ∈ events, reportedStatus (text event.1) = some 'F' := by
  intro date table
  have hdates : ∀ key row, table.rows key = some row → '\r' ∉ row.date := by
    intro key row hrow
    have hwritten : row.date = "02-01-1970 00:00:00".toList := by
      rcases eq_or_ne key (keyOf "ABC123".toList, "UPDATE".toList) with rfl | hkey
      · exact congrArg StatusRow.date (Option.some.inj hrow).symm
      · exact nomatch (Function.update_of_ne hkey _ _).symm.trans hrow
    rw [hwritten]
    decide
  have hupdate := failedUpdate_failingDevice date table
  obtain ⟨trace, trace', one, all, hone, hmeets, hall, hmeets'⟩ :=
    exists_checks date ((statusTable date fun _ ↦ none).after table (failingUpdate.1 ++ failingRecord.1))
      (by decide : 4 ≤ "ABC123".toList.length) ⟨5, none⟩
  obtain ⟨text, hchecked, hchecks, hiff⟩ :=
    failed_update_visible_iff hdates (by decide) hupdate hone hmeets hall hmeets'
  refine ⟨_, hupdate, ⟨5, none⟩, trace, trace', one, all, hone, hall, text, hchecked, hchecks, hiff.2 ?_⟩
  exact ⟨("UPDATE".toList, "CHECKUPDATE".toList), by decide, _, rfl, rfl⟩

/-- The first failed update of a device is seen by neither check. -/
theorem failed_update_unseen :
    let date : ℕ → CString := fun _ ↦ "02-01-1970 00:00:00".toList
    let never := "01-01-1970 00:00:00\r\nN\r\n".toList
    ∃ table', FailedUpdate date .empty failingDevice table' ∧ ∃ csp trace trace' one all,
      Run (checkUpdate "ABC123".toList csp) trace (.ret one) ∧
      (statusTable date fun _ ↦ none).Meets table' trace ∧
      Run (checkAllUpdate "ABC123".toList csp) trace' (.ret all) ∧
      (statusTable date fun _ ↦ none).Meets table' trace' ∧
      one.1 = ⟨smsOk, some never⟩ ∧
      all.1 = ⟨smsOk, some (events.flatMap fun event ↦ reportSection event never)⟩ ∧
      reportedStatus never ≠ some 'F' := by
  intro date never
  have hupdate := failedUpdate_failingDevice date .empty
  obtain ⟨trace, trace', one, all, hone, hmeets, hall, hmeets'⟩ :=
    exists_checks date ((statusTable date fun _ ↦ none).after .empty (failingUpdate.1 ++ failingRecord.1))
      (by decide : 4 ≤ "ABC123".toList.length) ⟨5, none⟩
  obtain ⟨hchecked, hchecks⟩ := checks_of_table (by decide) hone hmeets hall hmeets'
  have hnever : ∀ event ∈ events, statusText
      ((statusTable date fun _ ↦ none).after .empty (failingUpdate.1 ++ failingRecord.1))
      (keyOf "ABC123".toList) event.1 = never := by
    intro event hevent
    unfold statusText
    rw [rows_of_failedUpdate hupdate (by decide) hevent]
    rfl
  refine ⟨_, hupdate, ⟨5, none⟩, trace, trace', one, all, hone, hmeets, hall, hmeets', hchecked.trans ?_,
    hchecks.trans ?_, by decide⟩
  · rw [hnever ("UPDATE".toList, "CHECKUPDATE".toList) (by decide)]
  · have hsections := List.flatMap_congr fun event hevent ↦
      congrArg (reportSection event) (hnever event hevent)
    rw [hsections]

end BackgroundUpdate

end CoreEngine.Smsd
