import CoreEngine.Interaction.Product
import CoreEngine.Smsd.Numerals
import CoreEngine.Smsd.StatusTable
import CoreEngine.Text.Sections

/-!
# The report of all updates, as the client reads it

CHECKALLUPDATE from the request line to the bytes on the socket. A client that takes them apart again has
the last row that was written for each kind of update, or the code of the lookup that failed.
-/

namespace CoreEngine.Smsd

open CoreEngine.Text (breakOn breakOn_append Markers mapM_eq_some_map)
open Interaction
open Interaction.Monitor (guard)
open Procedure (lift Stable)
open Program (Run Total total_ret total_perform)

section Client

/-- The markers of `checkAllUpdate`. -/
def sectionMarkers : Markers Char := ⟨"\r\n#begin ".toList, "\r\n#end ".toList, "\r\n".toList⟩

def StatusRow.text (row : StatusRow) : CString := row.date ++ smsdMsgEol ++ row.status ++ smsdMsgEol ++ row.message

/-- The two line ends in a section part the date, the status and the message. -/
def StatusRow.read (text : CString) : Option StatusRow := do
  let date ← breakOn smsdMsgEol text
  let status ← breakOn smsdMsgEol date.2
  pure ⟨date.1, status.1, status.2⟩

/-- The rows of a report, each under the verb that checks its kind of update. -/
def readRows (text : CString) : Option (List (CString × StatusRow)) := do
  let parts ← sectionMarkers.read text.length text
  parts.mapM fun part ↦ (StatusRow.read part.2).map (part.1, ·)

/-- What the client makes of the bytes it has received when the connection is closed: a report, or the
code of an error. -/
def readReply (sent : CString) : Option (List (CString × StatusRow) ⊕ Int) :=
  (sent.dropPrefix? smsdOkString).elim
    ((sent.dropPrefix? smsdErrorString).bind fun text ↦ (CString.scanNumber text).map fun code ↦ .inr code.1)
    fun text ↦ (readRows (text.take (text.length - smsdMsgEnd.length))).map .inl

/-- The row that the last write for a device and a kind of update has left, as it is reported. -/
def lastRow (date : ℕ → CString) (writes : List StatusWrite) (key : SdKey) (type : CString) : StatusRow :=
  (lastWrite writes key type).elim ⟨"01-01-1970 00:00:00".toList, "N".toList, []⟩ fun w ↦
    ⟨date w.2, w.1.status.take 1, w.1.message.take failureMessageLen⟩

theorem reported_eq_text (date : ℕ → CString) (writes : List StatusWrite) (key : SdKey) (type : CString) :
    reported date writes key type = (lastRow date writes key type).text := by
  unfold reported lastRow StatusRow.text
  cases lastWrite writes key type with
  | none => simp
  | some w => rfl

/-- Nothing in the row can be taken for a marker. -/
structure StatusRow.Clean (row : StatusRow) : Prop where
  date : '\r' ∉ row.date
  status : '\r' ∉ row.status
  text : '#' ∉ row.text

theorem StatusRow.read_text {row : StatusRow} (hrow : row.Clean) : StatusRow.read row.text = some row := by
  have heol : '\r' ∈ smsdMsgEol := by decide
  unfold StatusRow.read StatusRow.text
  simp only [List.append_assoc, Option.bind_eq_bind, breakOn_append heol hrow.date, Option.bind_some,
    breakOn_append heol hrow.status]
  rfl

end Client

section Dialogue

/-- The bytes that were written on the connection, and whether it is closed. -/
structure Dialogue where
  sent : CString
  closed : Bool
  deriving DecidableEq, Repr

/-- The client's side of a connection: it sends one line, and takes what is written. -/
def dialogue (line : CString) (cfd : Int) : Monitor signature Dialogue where
  allow d op := match op with
    | .socketReadLine fd _ _ | .socketWrite fd _ | .socketClose fd => fd = cfd ∧ d.closed = false
    | _ => True
  expect _ op answer := match op, answer with
    | .socketReadLine .., answer => answer = ⟨line.length, line⟩
    | .socketWrite _ bytes, answer => answer = bytes.length
    | _, _ => True
  next d op _ := match op with
    | .socketWrite _ bytes => { d with sent := d.sent ++ bytes }
    | .socketClose _ => { d with closed := true }
    | _ => d

theorem blind_dialogue (line : CString) (cfd : Int) {op : Op} (hop : op.OnDatabase 0) :
    (dialogue line cfd).Blind op := by
  intro d
  cases op <;> first | exact ⟨trivial, fun _ ↦ ⟨trivial, rfl⟩⟩ | exact absurd hop id

/-- Code on the database keeps to the database, and to the socket that it was given. -/
instance queryDiscipline_guard (cfd : Int) :
    QueryDiscipline (guard (Op.OnDatabase 0)) fun csp _ ↦ csp.cfd = cfd :=
  queryDiscipline_of_keeps (fun _ hop _ _ hinv ↦ ⟨hop, fun _ _ ↦ hinv⟩) fun _ _ _ hinv ↦ hinv

theorem stable_decodeSdid_of_long {sdid : CString} (hsdid : 4 ≤ sdid.length) {G : Type} {D : Monitor signature G}
    {inv : Client → G → Prop} (number : CString → Int) : Stable D inv (decodeSdid number sdid) := by
  rw [decodeSdid_of_le_length number (Nat.le_of_succ_le hsdid)]
  infer_instance

theorem guard_checkAllUpdate {sdid : CString} (hsdid : 4 ≤ sdid.length) (csp : Client) :
    (checkAllUpdate sdid csp).Safe (guard (Op.OnDatabase 0)) (fun result _ ↦ result.2.cfd = csp.cfd) () := by
  have hdecode (number : CString → Int) :
      Stable (guard (Op.OnDatabase 0)) (fun csp' _ ↦ csp'.cfd = csp.cfd) (decodeSdid number sdid) :=
    stable_decodeSdid_of_long hsdid number
  have hstable : Stable (guard (Op.OnDatabase 0)) (fun csp' _ ↦ csp'.cfd = csp.cfd) (checkAllUpdate sdid) :=
    inferInstance
  exact hstable.triple csp () rfl

theorem guard_recordAll {writes : List (Client × StatusWrite)} (hwrites : ∀ w ∈ writes, 4 ≤ w.2.sdid.length) :
    (recordAll writes).Safe (guard (Op.OnDatabase 0)) (fun _ _ ↦ True) () := by
  induction writes with
  | nil => trivial
  | cons w writes ih =>
    have hdecode (number : CString → Int) :
        Stable (guard (Op.OnDatabase 0)) (fun csp' _ ↦ csp'.cfd = w.1.cfd) (decodeSdid number w.2.sdid) :=
      stable_decodeSdid_of_long (hwrites w List.mem_cons_self) number
    have hstable : Stable (guard (Op.OnDatabase 0)) (fun csp' _ ↦ csp'.cfd = w.1.cfd)
        (setUpdateStatus w.2.sdid w.2.type w.2.status w.2.message) := inferInstance
    unfold recordAll
    rw [Program.safe_bind]
    refine (hstable.triple w.1 () rfl).mono fun result _ _ ↦ ?_
    rw [Program.safe_bind]
    exact (ih fun w' hw' ↦ hwrites w' (List.mem_cons_of_mem w hw')).mono fun _ _ _ ↦ trivial

end Dialogue

section Service

variable {date : ℕ → CString} {failing : CString → Option Int} {line : CString} {cfd : Int}
  {table : StatusTable} {d : Dialogue}

/-- The table and the connection together. -/
abbrev session (date : ℕ → CString) (failing : CString → Option Int) (line : CString) (cfd : Int) :
    Monitor signature (StatusTable × Dialogue) :=
  (statusTable date failing).pair (dialogue line cfd)

theorem total_socketWrite {csp : Client} (hcfd : csp.cfd = cfd) (hopen : d.closed = false) (bytes : CString) :
    Total (session date failing line cfd) (socketWrite bytes csp) (fun result both ↦
      result = ((bytes.length : Int), csp) ∧ both = (table, { d with sent := d.sent ++ bytes })) (table, d) := by
  refine Procedure.total_bind (total_ret (Procedure.total_lift (total_perform ⟨trivial, hcfd, hopen⟩
    ⟨(bytes.length : Int), trivial, rfl⟩ ?_)))
  rintro _ ⟨-, rfl⟩
  exact ⟨rfl, rfl⟩

/-- A reply is written in full. -/
theorem total_writePieces {csp : Client} (hcfd : csp.cfd = cfd) (hopen : d.closed = false) (pieces : List CString) :
    Total (session date failing line cfd) (writePieces pieces csp) (fun result both ↦
      result = (0, csp) ∧ both = (table, { d with sent := d.sent ++ pieces.flatten })) (table, d) := by
  induction pieces generalizing d with
  | nil =>
    refine Procedure.total_bind (Procedure.total_lift (total_perform ⟨trivial, trivial⟩
      ⟨(), trivial, trivial⟩ fun _ _ ↦ total_ret ⟨rfl, ?_⟩))
    simp only [List.flatten_nil, List.append_nil]
    rfl
  | cons piece pieces ih =>
    refine Procedure.total_bind ((total_socketWrite hcfd hopen piece).mono ?_)
    rintro _ _ ⟨rfl, rfl⟩
    have hrest := ih (d := { d with sent := d.sent ++ piece }) hopen
    rw [if_neg (by simp)]
    refine hrest.mono ?_
    rintro _ _ ⟨rfl, rfl⟩
    exact ⟨rfl, by simp⟩

/-- The bytes of a plain reply. -/
def replyBytes (library : Library) (ret : Int) (msg : Option CString) : CString :=
  if ret = 0 then (okPieces msg).flatten else (errorPieces library none ret).flatten

theorem total_plainReply {csp : Client} (hcfd : csp.cfd = cfd) (hpos : 0 < cfd) (hopen : d.closed = false)
    (ret : Int) (msg : Option CString) :
    Total (session date failing line cfd) (plainReply ret msg csp) (fun result both ↦
      result = (0, csp) ∧ ∃ library, both = (table, { d with sent := d.sent ++ replyBytes library ret msg }))
      (table, d) := by
  have hlibrary : Nonempty Library := ⟨⟨fun _ ↦ none, fun _ ↦ none, fun _ ↦ 0, id, fun _ _ ↦ none⟩⟩
  obtain ⟨library⟩ := hlibrary
  have hcfdOpen : decide (0 < csp.cfd) = true := by rw [hcfd]; exact decide_eq_true hpos
  unfold plainReply replyBytes
  by_cases hret : ret = 0
  · simp only [if_pos hret]
    refine Procedure.total_bind ?_
    unfold sendOk cfdOpen
    refine Procedure.total_bind (total_ret ?_)
    simp only [hcfdOpen, if_true]
    refine (total_writePieces hcfd hopen (okPieces msg)).mono ?_
    rintro _ _ ⟨rfl, rfl⟩
    exact total_ret ⟨rfl, library, rfl⟩
  · simp only [if_neg hret]
    refine Procedure.total_bind ?_
    unfold sendError cfdOpen
    refine Procedure.total_bind (total_ret ?_)
    simp only [hcfdOpen, if_true]
    refine Procedure.total_bind (Procedure.total_lift (total_perform ⟨trivial, trivial⟩
      ⟨library, trivial, trivial⟩ fun library _ ↦ ?_))
    refine (total_writePieces hcfd hopen (errorPieces library none ret)).mono ?_
    rintro _ _ ⟨rfl, rfl⟩
    exact total_ret ⟨rfl, library, rfl⟩

theorem total_storeDbCtx_session (csp : Client) (ctx : Option Ctx) :
    Total (session date failing line cfd) (storeDbCtx ctx csp) (fun result both ↦
      result = ((), { csp with dbCtx := ctx }) ∧ both = (table, d)) (table, d) :=
  Procedure.total_bind (total_ret (Procedure.total_bind (Procedure.total_lift (total_perform ⟨trivial, trivial⟩
    ⟨(), trivial, trivial⟩ fun _ _ ↦ total_ret ⟨rfl, rfl⟩))))

theorem total_finish (csp : Client) :
    Total (session date failing line cfd) (dispatch.finish csp) (fun result both ↦
      result.2.cfd = csp.cfd ∧ both = (table, d)) (table, d) := by
  unfold dispatch.finish
  refine Procedure.total_bind (total_ret ?_)
  split
  · refine Procedure.total_bind (total_ret (Procedure.total_bind (Procedure.total_lift (total_perform
      ⟨trivial, trivial⟩ ⟨(), trivial, trivial⟩ fun _ _ ↦ ?_))))
    refine (total_storeDbCtx_session csp none).mono ?_
    rintro _ _ ⟨rfl, rfl⟩
    exact ⟨rfl, rfl⟩
  · exact total_ret ⟨rfl, rfl⟩

variable {sdid : CString} (hsdid : 4 ≤ sdid.length)
  (hfailing : ∀ type code, failing type = some code → code ≠ 0 ∧ code ≠ errDbNotfound)

/-- What CHECKALLUPDATE sends. -/
def reportBytes (library : Library) (failing : CString → Option Int) (table : StatusTable) (sdid : CString) :
    CString :=
  let report := reportOf failing (fun event ↦ statusText table (keyOf sdid) event.1) events none
  replyBytes library report.ret report.output

include hsdid hfailing

theorem total_doCheckAllUpdate {csp : Client} (hcfd : csp.cfd = cfd) (hpos : 0 < cfd) (hopen : d.closed = false) :
    Total (session date failing line cfd) (doCheckAllUpdate sdid csp) (fun result both ↦ result.2.cfd = cfd ∧
      ∃ library, both = (table, { d with sent := d.sent ++ reportBytes library failing table sdid }))
      (table, d) := by
  have hlong : ∀ event ∈ events, event.1.length < updTypeLen := by decide
  have hcheck : Total (statusTable date failing) (checkAllUpdate sdid csp) _ table :=
    total_checkEvents hsdid hfailing hlong none
  refine Procedure.total_bind ((Total.pair (guard_checkAllUpdate hsdid csp)
    (fun _ hop ↦ blind_dialogue line cfd hop) hcheck d).mono ?_)
  rintro ⟨report, csp'⟩ ⟨table', d'⟩ ⟨⟨htable, hreport⟩, hd, hcsp⟩
  subst htable hd hreport
  refine (total_plainReply (hcsp.trans hcfd) hpos hopen _ _).mono ?_
  rintro _ _ ⟨rfl, library, rfl⟩
  exact ⟨hcsp.trans hcfd, library, rfl⟩

/-- The service of a connection on which CHECKALLUPDATE arrives. -/
theorem total_serve (hpos : 0 < cfd) (hverb : CString.toupper (splitLine line).1 = "CHECKALLUPDATE".toList)
    (harg : (splitLine line).2 = sdid) :
    Total (session date failing line cfd) (serve ⟨cfd, none⟩) (fun _ both ↦
      ∃ library, both = (table, ⟨reportBytes library failing table sdid, true⟩)) (table, ⟨[], false⟩) := by
  have hline : (line.length : Int) > 0 := by
    cases line with
    | nil => exact absurd hverb (by decide)
    | cons c line => simp
  obtain ⟨va, hentry, hdo, hparams⟩ : ∃ va, verbTab.find? (fun va ↦ va.verb = CString.toupper (splitLine line).1) =
      some va ∧ va.doVerb = .doCheckAllUpdate ∧ va.hasParams = 1 := by
    rw [hverb]
    exact ⟨_, List.find?_cons_of_pos rfl, rfl, rfl⟩
  unfold serve
  refine Procedure.total_bind (Procedure.total_bind (total_ret (Procedure.total_lift (total_perform
    ⟨trivial, rfl, rfl⟩ ⟨⟨line.length, line⟩, trivial, rfl⟩ ?_))))
  rintro _ ⟨-, rfl⟩
  have hchecked : Total (session date failing line cfd) (checkVerb line ⟨cfd, none⟩) (fun result both ↦
      result.2.cfd = cfd ∧ ∃ library, both = (table, ⟨reportBytes library failing table sdid, false⟩))
      (table, ⟨[], false⟩) := by
    unfold checkVerb
    rw [hentry, harg, Option.elim_some]
    unfold dispatch
    rw [if_pos (by rw [hparams]; decide), if_neg (by omega), hdo]
    refine Procedure.total_bind (Procedure.total_lift (total_perform ⟨trivial, trivial⟩
      ⟨⟨.sms, 0⟩, trivial, trivial⟩ fun ctx _ ↦ ?_))
    refine Procedure.total_bind ((total_storeDbCtx_session ⟨cfd, none⟩ (some ctx)).mono ?_)
    rintro _ _ ⟨rfl, rfl⟩
    have hrun :
        Total (session date failing line cfd) (doCheckAllUpdate sdid ⟨cfd, some ctx⟩) _ (table, ⟨[], false⟩) :=
      total_doCheckAllUpdate hsdid hfailing rfl hpos rfl
    refine Procedure.total_bind (hrun.mono ?_)
    rintro result _ ⟨hresult, library, rfl⟩
    refine (total_finish result.2).mono ?_
    rintro _ _ ⟨hfinish, rfl⟩
    exact ⟨hfinish.trans hresult, library, rfl⟩
  simp only [if_pos hline]
  refine Procedure.total_bind (hchecked.mono ?_)
  rintro ⟨_, csp⟩ _ ⟨hcsp, library, rfl⟩
  refine Procedure.total_bind (total_ret ?_)
  have hne : csp.cfd ≠ -1 := by
    rw [show csp.cfd = cfd from hcsp]
    omega
  rw [if_pos hne]
  refine Procedure.total_bind (Procedure.total_lift (total_perform ⟨trivial, hcsp, rfl⟩ ⟨(0 : Int), trivial, trivial⟩
    fun _ _ ↦ total_ret ⟨library, rfl⟩))

end Service

section Decoding

variable (date : ℕ → CString) {failing : CString → Option Int}

/-- A report is read back row by row. -/
theorem readRows_flatMap (rows : CString × CString → StatusRow) (hrows : ∀ event ∈ events, (rows event).Clean) :
    readRows (events.flatMap fun event ↦ reportSection event (rows event).text) =
      some (events.map fun event ↦ (event.2, rows event)) := by
  have hparts : (events.flatMap fun event ↦ reportSection event (rows event).text) =
      (events.map fun event ↦ (event.2, (rows event).text)).flatMap sectionMarkers.render := by
    rw [List.flatMap_map]
    rfl
  have hread : sectionMarkers.read (events.flatMap fun event ↦ reportSection event (rows event).text).length
      (events.flatMap fun event ↦ reportSection event (rows event).text) =
      some (events.map fun event ↦ (event.2, (rows event).text)) := by
    rw [hparts]
    apply Markers.read_flatMap (c := '#') (e := '\r') _ (by decide) (by decide) (by decide)
    · have hverbs : ∀ event ∈ events, '\r' ∉ event.2 := by decide
      exact List.forall_mem_map.2 hverbs
    · exact List.forall_mem_map.2 fun event hevent ↦ (hrows event hevent).text
    · exact sectionMarkers.length_le_flatMap (by decide) _
  unfold readRows
  rw [hread, Option.bind_eq_bind, Option.bind_some, List.mapM_map]
  apply mapM_eq_some_map
  intro event hevent
  rw [Function.comp_apply, StatusRow.read_text (hrows event hevent)]
  rfl

/-- A reply with a report. -/
theorem readReply_report (library : Library) {rows : CString × CString → StatusRow}
    (hrows : ∀ event ∈ events, (rows event).Clean) :
    readReply (replyBytes library 0 (some (events.flatMap fun event ↦ reportSection event (rows event).text))) =
      some (.inl (events.map fun event ↦ (event.2, rows event))) := by
  have hread := readRows_flatMap rows hrows
  generalize (events.flatMap fun event ↦ reportSection event (rows event).text) = report at hread ⊢
  have hsent : replyBytes library 0 (some report) = smsdOkString ++ (report ++ smsdMsgEnd) := by
    simp [replyBytes, okPieces]
  have hopen : (smsdOkString ++ (report ++ smsdMsgEnd)).dropPrefix? smsdOkString = some (report ++ smsdMsgEnd) :=
    List.dropPrefix?_eq_some_iff.2 ⟨smsdOkString, rfl, by simp⟩
  unfold readReply
  rw [hsent, hopen, Option.elim_some, List.length_append, Nat.add_sub_cancel, List.take_left, hread]
  rfl

/-- A reply with an error, whatever its text. -/
theorem readReply_error (library : Library) {ret : Int} (hret : ret ≠ 0) (msg : Option CString) :
    readReply (replyBytes library ret msg) = some (.inr ret) := by
  obtain ⟨rest, hsent⟩ : ∃ rest, replyBytes library ret msg =
      smsdErrorString ++ (CString.showInt4 ret ++ ':' :: rest) := by
    refine ⟨' ' :: ((library.getErrorMessage ret).toList ++ [smsdMsgEnd]).flatten, ?_⟩
    simp [replyBytes, errorPieces, hret]
  have hopen : (smsdErrorString ++ (CString.showInt4 ret ++ ':' :: rest)).dropPrefix? smsdErrorString =
      some (CString.showInt4 ret ++ ':' :: rest) :=
    List.dropPrefix?_eq_some_iff.2 ⟨smsdErrorString, rfl, by simp⟩
  have hother : (smsdErrorString ++ (CString.showInt4 ret ++ ':' :: rest)).dropPrefix? smsdOkString = none := rfl
  have hcode : (CString.scanNumber (CString.showInt4 ret ++ ':' :: rest)).map Prod.fst = some ret :=
    CString.scanNumber_showInt4 ret (by simp [CString.digitValue])
  obtain ⟨⟨code, after⟩, hscan, rfl⟩ := Option.map_eq_some_iff.1 hcode
  unfold readReply
  rw [hsent, hother, Option.elim_none, hopen, Option.bind_some, hscan]
  rfl

/-- The writes of a history hold nothing that could be taken for a marker. -/
structure StatusWrite.Clean (w : StatusWrite) : Prop where
  sdid : 4 ≤ w.sdid.length
  nonempty : w.status ≠ []
  status : '\r' ∉ w.status ∧ '#' ∉ w.status
  message : '#' ∉ w.message

theorem clean_lastRow (hdate : ∀ i, '\r' ∉ date i ∧ '#' ∉ date i) {writes : List StatusWrite}
    (hwrites : ∀ w ∈ writes, w.Clean) (key : SdKey) (type : CString) : (lastRow date writes key type).Clean := by
  unfold lastRow
  cases hlast : lastWrite writes key type with
  | none =>
    rw [Option.elim_none]
    exact ⟨by decide, by decide, by decide⟩
  | some w =>
    have hw := hwrites w.1 (mem_of_lastWrite hlast)
    have hstatus {c : Char} (hc : c ∉ w.1.status) : c ∉ w.1.status.take 1 :=
      fun hmem ↦ hc (List.mem_of_mem_take hmem)
    have hmessage : '#' ∉ w.1.message.take failureMessageLen :=
      fun hmem ↦ hw.message (List.mem_of_mem_take hmem)
    have heol : '#' ∉ smsdMsgEol := by decide
    refine ⟨(hdate w.2).1, hstatus hw.status.1, ?_⟩
    simp only [Option.elim_some, StatusRow.text, List.mem_append, not_or]
    exact ⟨⟨⟨⟨(hdate w.2).2, heol⟩, hstatus hw.status.2⟩, heol⟩, hmessage⟩

/-- A history of writes, and then a connection that is served. -/
def recordAndServe (writes : List (Client × StatusWrite)) (cfd : Int) : Code Int := do
  let _ ← recordAll writes
  let result ← serve ⟨cfd, none⟩
  pure result.1

/-- Two updates of a device, and one of another device in between. -/
def threeUpdates : List (Client × StatusWrite) :=
  [(⟨-1, none⟩, ⟨"ABC12".toList, "UPDATE".toList, "FAILED".toList, "timeout".toList⟩),
   (⟨-1, none⟩, ⟨"ABC13".toList, "UPDATE".toList, "FAILED".toList, "timeout".toList⟩),
   (⟨-1, none⟩, ⟨"ABC12".toList, "UPDATE".toList, "ENDED".toList, []⟩)]

/-- Only the lookup of a kind of update that CHECKALLUPDATE does not ask for fails. -/
def otherFails (type : CString) : Option Int := if type = "OTHER".toList then some errDbFailed else none

/-- The request has its verb in lower case, and a comment behind the device. -/
abbrev updateSession : Monitor signature (StatusTable × Dialogue) :=
  session (fun _ ↦ "today".toList) otherFails "checkallupdate ABC12 # now".toList 7

end Decoding

end CoreEngine.Smsd
