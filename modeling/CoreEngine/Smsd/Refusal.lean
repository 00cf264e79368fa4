import CoreEngine.Smsd.Indifference
import CoreEngine.Smsd.Passage

/-!
# Requests that are refused

A request may be refused before any script runs: its parameters are not accepted, the body it needs is
missing, or the device or customer is not found. The client should then be told, before the request
returns and before the process dies of a pointer to a body that is not there.
-/

namespace CoreEngine.Smsd

open Interaction
open Procedure (lift Stable Triple triple_bind triple_ite triple_pure triple_call triple_get triple_loop
  may_bind may_pure may_call may_get may_ite_pos may_ite_neg)
open Program (Run Offers)

/-- What happens to a request, seen from the client: a script was started, the socket was closed, a
line of the body was read, a lookup failed, an error reply was begun, and one was written in full. -/
structure Desk where
  started : Bool
  closed : Bool
  lines : Bool
  missing : Bool
  heading : Bool
  told : Bool
  deriving DecidableEq, Repr

def Desk.start : Desk := ⟨false, false, false, false, false, false⟩

/-- The beginning of an error reply, in plain text or in JSON. -/
def isErrorHead (bytes : CString) : Bool :=
  bytes = smsdErrorString || "\x7b\n\"sms_status\" : \"FAIL\"".toList.isPrefixOf bytes

/-- Follows one request. The client is expected to take what is written, and to have a line ready when the
body is first asked for exactly if it `sends` one. -/
def desk (sends : Bool) : Monitor signature Desk where
  allow _ _ := True
  expect g op answer := match op, answer with
    | .socketWrite _ bytes, ret => ret = bytes.length
    | .socketReadLine _ _ _, line => g.lines = true ∨ (0 ≤ line.ret ↔ sends = true)
    | _, _ => True
  next g op answer := match op, answer with
    | .scriptStart _, _ => { g with started := true }
    | .socketClose _, _ => { g with closed := true }
    | .socketReadLine _ _ _, line => { g with lines := g.lines || decide (0 ≤ line.ret) }
    | .socketWrite _ bytes, _ => { g with heading := g.heading || (isErrorHead bytes && !g.closed) }
    | .replied, _ => { g with heading := false, told := g.told || g.heading }
    | .sql _ (.getSdInfo _), reply => { g with missing := g.missing || decide (reply.ret ≠ 0) }
    | .sql _ (.getCustInfo _), reply => { g with missing := g.missing || decide (reply.ret ≠ 0) }
    | _, _ => g

/-- The handlers that refuse their parameters. -/
def Handler.refuses (params : CString) : Handler → Bool
  | .doCheckCmd => params.scanWords 2 = []
  | .doBackupConf => !acceptsWords params 2 (1 ≤ ·)
  | .doRestoreConf => !acceptsWords params 2 (· = 2)
  | .doPushConfig => !acceptsWords params 4 (1 ≤ ·)
  | .doUpdateFirmware => !acceptsWords params 3 (1 ≤ ·)
  | .doCmd => !acceptsWords params 2 (1 ≤ ·)
  | .doCustCmd => !acceptsWords params 2 (1 ≤ ·)
  | .doGenTemplate => !acceptsWords params 4 (3 ≤ ·)
  | .doUnarchiveConf => !acceptsWords params 3 (· = 3)
  | .doGetArchiveConf => !acceptsWords params 2 (· = 2)
  | .doCallCommand => !acceptsWords params 3 (· = 3)
  | .doSendDataFiles => !acceptsWords params 5 (1 ≤ ·)
  | .doCheckSerial => !acceptsWords params 2 (· = 2)
  | .doJsSmsAddonExec => !acceptsWords params 2 (2 ≤ ·)
  | .doJsSmsexec => (splitArgument params).isNone
  | .doJsExecScript => (splitArgument params).isNone
  | .doJsAExecScript => (splitArgument params).isNone
  | .doSnmpTest =>
      let cmd := word (snmpParams 4 params) 0
      cmd = [] || word (snmpParams 4 params) 1 = [] || word (snmpParams 4 params) 2 = [] ||
        word (snmpParams 4 params) 3 = [] || (cmd ≠ "get".toList && cmd ≠ "walk".toList)
  | _ => false

/-- The handlers that need a body from the client. -/
def Handler.needsBody : Handler → Bool
  | .doPushConfig | .doResolve => true
  | _ => false

/-- A request that has been refused, given what has happened to it. -/
def Refused (va : VerbAction) (arg : CString) (g : Desk) : Prop :=
  arg.length < 4 ∨ va.doVerb.refuses arg = true ∨ (va.doVerb.needsBody = true ∧ g.lines = false) ∨
    g.missing = true

/-- Nothing more comes of what has returned, nor of what goes on to follow a missing body. -/
def Over {α : Type} (final : Code α) : Prop :=
  (∃ value, final = .ret value) ∨ ∃ next, Offers final .nullBody next

/-- Whenever the request is refused and no script runs, the client gets an error reply before the
socket is closed. -/
def RefusalAnswered (line : CString) (va : VerbAction) (sends : Bool) : Prop :=
  ∀ cfd : Int, 0 < cfd → ∀ trace final, Run (checkVerb line ⟨cfd, none⟩) trace final → Over final →
    (desk sends).Meets .start trace → ((desk sends).after .start trace).started = false →
    Refused va (splitLine line).2 ((desk sends).after .start trace) →
    ((desk sends).after .start trace).told = true

/-- The handlers that look a device up and do not tell the client when that fails. -/
def Handler.silent (params : CString) : Handler → Bool
  | .doUpdateLicense => true
  | .doUpdateFirmware => acceptsWords params 3 (1 ≤ ·)
  | _ => false

namespace Desk

/-- The same desk, at which a missing body is followed only in a script or where `permits` says so. -/
def strict (sends : Bool) (permits : Desk → Prop) : Monitor signature Desk :=
  { desk sends with allow := fun g op ↦ op = .nullBody → g.started = true ∨ permits g }

/-- A script runs or has run. -/
abbrev Started (_csp : Client) (g : Desk) : Prop := g.started = true

/-- Unless a script has run, the client can be told something. -/
def Ready (csp : Client) (g : Desk) : Prop := g.started = true ∨ (0 < csp.cfd ∧ g.closed = false)

/-- Unless a script has run, the client knows of every lookup that has failed. -/
def Fine (csp : Client) (g : Desk) : Prop :=
  g.started = true ∨ (0 < csp.cfd ∧ g.closed = false ∧ (g.missing = true → g.told = true))

/-- Unless a script has run, an error reply has been written. -/
def Told (csp : Client) (g : Desk) : Prop :=
  g.started = true ∨ (0 < csp.cfd ∧ g.closed = false ∧ g.told = true)

/-- What the result of a function says: it succeeds only if the client knows of every failed lookup. -/
def Outcome (ret : Int) (csp : Client) (g : Desk) : Prop := Ready csp g ∧ (ret = 0 → Fine csp g)

variable {sends : Bool} {permits : Desk → Prop} {csp : Client} {g : Desk}

theorem after_strict (g : Desk) (trace : List (Event signature)) :
    (strict sends permits).after g trace = (desk sends).after g trace := by
  induction trace generalizing g with
  | nil => rfl
  | cons event trace ih => exact ih _

theorem meets_strict (g : Desk) (trace : List (Event signature)) :
    (strict sends permits).Meets g trace ↔ (desk sends).Meets g trace := by
  induction trace generalizing g with
  | nil => rfl
  | cons event trace ih => exact and_congr_right fun _ ↦ ih _

theorem Fine.ready (hfine : Fine csp g) : Ready csp g :=
  hfine.imp_right fun hopen ↦ ⟨hopen.1, hopen.2.1⟩

theorem Fine.outcome (hfine : Fine csp g) (ret : Int) : Outcome ret csp g := ⟨hfine.ready, fun _ ↦ hfine⟩

theorem Told.fine (htold : Told csp g) : Fine csp g :=
  htold.imp_right fun hopen ↦ ⟨hopen.1, hopen.2.1, fun _ ↦ hopen.2.2⟩

theorem Started.fine (hstarted : Started csp g) : Fine csp g := Or.inl hstarted

section Latches

theorem started_next (g : Desk) (op : Op) (answer : op.Answer) (hstarted : g.started = true) :
    ((strict sends permits).next g op answer).started = true := by
  cases op with
  | sql ctx query => cases query <;> exact hstarted
  | scriptStart script => rfl
  | _ => exact hstarted

theorem lines_next (g : Desk) (op : Op) (answer : op.Answer) (hlines : g.lines = true) :
    ((strict sends permits).next g op answer).lines = true := by
  cases op with
  | sql ctx query => cases query <;> exact hlines
  | socketReadLine fd size timeout => simp [strict, desk, hlines]
  | _ => exact hlines

theorem stable_started {α : Type} (procedure : M α) : Stable (strict sends permits) Started procedure :=
  Procedure.stable_of_keeps (fun _ _ hstarted _ ↦ Or.inl hstarted) started_next procedure

end Latches

section Disciplines

theorem ignores_database {op : Op} (hop : op.OnDatabase 1) : (strict sends permits).Ignores op := by
  intro g
  cases op with
  | sql ctx query =>
    cases query <;> first
      | exact ⟨nofun, fun _ ↦ rfl⟩
      | exact absurd (Nat.le_of_succ_le_succ hop) (Nat.not_succ_le_zero _)
  | _ => first | exact hop.elim | exact ⟨nofun, fun _ ↦ rfl⟩

/-- Only following a missing body may be forbidden. -/
theorem keeps {inv : Client → Desk → Prop} {op : Op} (hop : op ≠ .nullBody)
    (hnext : ∀ csp g answer, inv csp g → (strict sends permits).expect g op answer →
      inv csp ((strict sends permits).next g op answer)) : (strict sends permits).Keeps inv op :=
  fun csp g hinv ↦ ⟨fun hnull ↦ absurd hnull hop, fun answer hexpect ↦ hnext csp g answer hinv hexpect⟩

instance {inv : Client → Desk → Prop} : StackDiscipline (strict sends permits) inv :=
  stackDiscipline_of_ignores fun _ ↦ ⟨nofun, fun _ ↦ rfl⟩

instance : QueryDiscipline (strict sends permits) Fine :=
  queryDiscipline_of_ignores (fun _ ↦ ignores_database) fun _ _ _ hfine ↦ hfine

instance {inv : Client → Desk → Prop} : PlainDiscipline (strict sends permits) inv :=
  plainDiscipline_of_ignores fun _ hop ↦ ignores_database hop.onDatabase

instance {inv : Client → Desk → Prop} : CountDiscipline (strict sends permits) inv :=
  countDiscipline_of_ignores fun _ _ ↦ ⟨nofun, fun _ ↦ rfl⟩

instance : LockDiscipline (strict sends permits) Fine :=
  lockDiscipline_of_ignores (fun _ ↦ ignores_database) fun _ _ _ hfine ↦ hfine

instance : ConnectionDiscipline (strict sends permits) Fine := by
  constructor
  · intro size timeout
    have hread (fd : Int) :
        Stable (strict sends permits) Fine (lift (ask (.socketReadLine fd size timeout))) :=
      stable_ask_of_keeps (keeps nofun fun _ _ _ hfine _ ↦ hfine)
    unfold socketReadLine
    infer_instance
  · intro bytes
    have hwrite (fd : Int) : Stable (strict sends permits) Fine (lift (ask (.socketWrite fd bytes))) :=
      stable_ask_of_keeps (keeps nofun fun _ _ _ hfine _ ↦ hfine)
    unfold socketWrite
    infer_instance
  · intro oid
    have hget (fd : Int) : Stable (strict sends permits) Fine (lift (ask (.doSnmpGet oid fd))) :=
      stable_ask_of_keeps (keeps nofun fun _ _ _ hfine _ ↦ hfine)
    unfold doSnmpGet
    infer_instance
  · intro oid
    have hget (fd : Int) : Stable (strict sends permits) Fine (lift (ask (.doSnmpGetNext oid fd))) :=
      stable_ask_of_keeps (keeps nofun fun _ _ _ hfine _ ↦ hfine)
    unfold doSnmpGetNext
    infer_instance

instance : ReplyDiscipline (strict sends permits) Fine := by
  constructor
  refine stable_ask_of_keeps (keeps nofun ?_)
  intro csp g _ hfine _
  apply hfine.imp_right
  rintro ⟨hcfd, hclosed, htold⟩
  refine ⟨hcfd, hclosed, fun hmissing ↦ ?_⟩
  simp [strict, desk, htold hmissing]

instance : ScriptDiscipline (strict sends permits) Fine where
  start _ := stable_ask_of_keeps (keeps nofun fun _ _ _ _ _ ↦ Or.inl rfl)
  step := stable_ask_of_keeps (keeps nofun fun _ _ _ hfine _ ↦ hfine)
  answer _ := stable_ask_of_keeps (keeps nofun fun _ _ _ hfine _ ↦ hfine)

/-- From its start on, a script may do what it likes. -/
theorem triple_executeScript (script : Script) :
    Triple (strict sends permits) (fun _ _ ↦ True) (smsModPhpExecuteScript script) fun _ ↦ Started := by
  have hstart : Triple (strict sends permits) (fun _ _ ↦ True) (lift (ask (.scriptStart script)) : M Unit)
      fun _ ↦ Started := triple_call (fun _ _ _ ↦ nofun) fun _ _ _ _ _ ↦ rfl
  exact triple_bind hstart fun _ ↦ (stable_started _).triple

instance : RunDiscipline (strict sends permits) Fine where
  execute script :=
    ⟨(triple_executeScript script).conseq (fun _ _ _ ↦ trivial) fun _ _ _ hstarted ↦ hstarted.fine⟩

end Disciplines

section Replies

/-- An error reply is being written. -/
def Heading (csp : Client) (g : Desk) : Prop :=
  g.started = true ∨ (0 < csp.cfd ∧ g.closed = false ∧ g.heading = true)

/-- One piece of a reply is taken by the client. -/
theorem triple_socketWrite {pre post : Client → Desk → Prop} (bytes : CString)
    (hnext : ∀ csp g, pre csp g →
      post csp ((strict sends permits).next g (.socketWrite csp.cfd bytes) (bytes.length : Int))) :
    Triple (strict sends permits) pre (socketWrite bytes) fun ret csp g ↦ ret = bytes.length ∧ post csp g := by
  intro csp g hpre
  refine ⟨nofun, fun ret hret ↦ ?_⟩
  obtain rfl : ret = (bytes.length : Int) := hret
  exact ⟨rfl, hnext csp g hpre⟩

theorem heading_next (bytes : CString) (hheading : Heading csp g) :
    Heading csp ((strict sends permits).next g (.socketWrite csp.cfd bytes) (bytes.length : Int)) := by
  apply hheading.imp_right
  rintro ⟨hcfd, hclosed, hhead⟩
  exact ⟨hcfd, hclosed, by simp [strict, desk, hhead]⟩

/-- The first piece of an error reply. -/
theorem heading_of_ready {bytes : CString} (hhead : isErrorHead bytes = true) (hready : Ready csp g) :
    Heading csp ((strict sends permits).next g (.socketWrite csp.cfd bytes) (bytes.length : Int)) := by
  apply hready.imp_right
  rintro ⟨hcfd, hclosed⟩
  exact ⟨hcfd, hclosed, by simp [strict, desk, hhead, hclosed]⟩

/-- The rest of an error reply. -/
theorem triple_rest (pieces : List CString) :
    Triple (strict sends permits) Heading (writePieces pieces) fun _ ↦ Told := by
  induction pieces with
  | nil =>
    have hreplied : Triple (strict sends permits) Heading (lift (ask .replied) : M Unit) fun _ ↦ Told := by
      refine triple_call (fun _ _ _ ↦ nofun) ?_
      intro csp g _ hheading _
      apply hheading.imp_right
      rintro ⟨hcfd, hclosed, hhead⟩
      exact ⟨hcfd, hclosed, by simp [strict, desk, hhead]⟩
    exact triple_bind hreplied fun _ ↦ triple_pure 0 fun _ _ htold ↦ htold
  | cons piece pieces ih =>
    have hwrite : Triple (strict sends permits) Heading (socketWrite piece) fun ret csp g ↦
        ret = piece.length ∧ Heading csp g := triple_socketWrite piece fun _ _ ↦ heading_next piece
    apply triple_bind hwrite
    intro ret
    apply triple_ite
    · intro hshort csp g hpost
      exact absurd hpost.1 hshort
    · intro _
      exact ih.conseq (fun _ _ hpost ↦ hpost.2) fun _ _ _ htold ↦ htold

theorem triple_errorPieces {piece : CString} (hhead : isErrorHead piece = true) (pieces : List CString) :
    Triple (strict sends permits) Ready (writePieces (piece :: pieces)) fun _ ↦ Told := by
  have hwrite : Triple (strict sends permits) Ready (socketWrite piece) fun ret csp g ↦
      ret = piece.length ∧ Heading csp g := triple_socketWrite piece fun _ _ ↦ heading_of_ready hhead
  apply triple_bind hwrite
  intro ret
  apply triple_ite
  · intro hshort csp g hpost
    exact absurd hpost.1 hshort
  · intro _
    exact (triple_rest pieces).conseq (fun _ _ hpost ↦ hpost.2) fun _ _ _ htold ↦ htold

/-- Whoever can be told is told, if `csp->cfd > 0` is tested first. -/
theorem triple_ifOpen {α : Type} {reply : M α} {nothing : α}
    (hreply : Triple (strict sends permits) Ready reply fun _ ↦ Told) :
    Triple (strict sends permits) Ready (cfdOpen >>= fun cfdOpen ↦ if cfdOpen then reply else pure nothing)
      fun _ ↦ Told := by
  have hopen : Triple (strict sends permits) Ready cfdOpen fun value csp g ↦
      value = decide (0 < csp.cfd) ∧ Ready csp g := fun _ _ hready ↦ ⟨rfl, hready⟩
  apply triple_bind hopen
  intro value
  apply triple_ite
  · intro _
    exact hreply.conseq (fun _ _ hpost ↦ hpost.2) fun _ _ _ htold ↦ htold
  · rintro hclosed csp g ⟨hvalue, hstarted | hcfd⟩
    · exact Or.inl hstarted
    · rw [hvalue] at hclosed
      exact absurd (decide_eq_true hcfd.1) hclosed

theorem triple_sendError (msg : Option CString) (error : Int) :
    Triple (strict sends permits) Ready (sendError msg error) fun _ ↦ Told := by
  apply triple_ifOpen
  have hlibrary : Stable (strict sends permits) Ready (lift (ask .library)) := inferInstance
  apply triple_bind hlibrary.triple
  intro library
  exact triple_errorPieces (by decide) _

/-- The head of a JSON document that reports a failure. -/
theorem isErrorHead_userMessage (library : Library) (result message code : Option CString) :
    isErrorHead (userMessage library.gpulBackslashify result "FAIL".toList message code) = true := by
  simp only [isErrorHead, Bool.or_eq_true]
  right
  rw [List.isPrefixOf_iff_prefix]
  delta userMessage
  simp only [List.append_assoc]
  exact ⟨_, rfl⟩

theorem triple_smsSendUserError (result : Option CString) (error : Int) :
    Triple (strict sends permits) Ready (smsSendUserError result error) fun _ ↦ Told := by
  have hlibrary : Stable (strict sends permits) Ready (lift (ask .library)) := inferInstance
  apply triple_bind hlibrary.triple
  intro library
  apply triple_ifOpen
  apply triple_bind (triple_errorPieces (isErrorHead_userMessage library _ _ _) [])
  intro _
  exact triple_pure () fun _ _ htold ↦ htold

theorem triple_badParam : Triple (strict sends permits) Ready badParam fun _ ↦ Told := by
  apply triple_bind (triple_smsSendUserError _ _)
  intro _
  exact triple_pure _ fun _ _ htold ↦ htold

end Replies

section Lookups

/-- A lookup, whose failure is known to its caller only. -/
theorem triple_useLookup {query : Sql}
    (hnext : ∀ g ctx (reply : Reply query.Output), (strict sends permits).next g (.sql ctx query) reply =
      { g with missing := g.missing || decide (reply.ret ≠ 0) }) :
    Triple (strict sends permits) Fine (useDbCtx fun ctx ↦ sql ctx query) fun reply ↦ Outcome reply.ret := by
  rintro ⟨cfd, dbCtx⟩ g hfine
  cases dbCtx with
  | none => exact ⟨nofun, fun answer ↦ answer.elim⟩
  | some ctx =>
    refine ⟨nofun, fun reply _ ↦ ?_⟩
    rw [hnext]
    constructor
    · exact hfine.ready
    · intro hret
      apply hfine.imp_right
      rintro ⟨hcfd, hclosed, htold⟩
      refine ⟨hcfd, hclosed, fun hmissing ↦ htold ?_⟩
      have hzero : reply.ret = 0 := hret
      simpa [hzero] using hmissing

theorem triple_getSDinfo (sdid : CString) :
    Triple (strict sends permits) Fine (getSDinfo sdid) fun info ↦ Outcome info.ret :=
  triple_useLookup fun _ _ _ ↦ rfl

theorem triple_getCustInfo (custid : CString) :
    Triple (strict sends permits) Fine (getCustInfo custid) fun info ↦ Outcome info.ret :=
  triple_useLookup fun _ _ _ ↦ rfl

/-- What follows a lookup: `failed` when it has failed, `body` otherwise. -/
theorem triple_afterLookup {α : Type} {ret : Int} {failed body : M α}
    {post : α → Client → Desk → Prop} (hfailed : ret ≠ 0 → Triple (strict sends permits) Ready failed post)
    (hbody : Triple (strict sends permits) Fine body post) :
    Triple (strict sends permits) (Outcome ret) (if ret ≠ 0 then failed else body) post := by
  apply triple_ite
  · intro hret
    exact (hfailed hret).conseq (fun _ _ houtcome ↦ houtcome.1) fun _ _ _ hpost ↦ hpost
  · intro hret
    exact hbody.conseq (fun _ _ houtcome ↦ houtcome.2 (not_not.1 hret)) fun _ _ _ hpost ↦ hpost

theorem outcome_of_stable {α : Type} {procedure : M α} (code : α → Int)
    [hstable : Stable (strict sends permits) Fine procedure] :
    Triple (strict sends permits) Fine procedure fun value ↦ Outcome (code value) :=
  hstable.triple.conseq (fun _ _ hfine ↦ hfine) fun _ _ _ hfine ↦ hfine.outcome _

/-- A failure that is reported through the result. -/
theorem triple_fails {α : Type} {value : α} (code : α → Int) (hcode : code value ≠ 0) :
    Triple (strict sends permits) Ready (pure value : M α) fun value ↦ Outcome (code value) :=
  triple_pure value fun _ _ hready ↦ ⟨hready, fun hzero ↦ absurd hzero hcode⟩

/-- A failure is told by `sms_send_user_error`. -/
theorem triple_tellError (result : Option CString) (ret : Int) :
    Triple (strict sends permits) Ready (do
      smsSendUserError result ret
      pure ret : M Int) fun _ ↦ Fine := by
  apply triple_bind (triple_smsSendUserError result ret)
  intro _
  exact triple_pure ret fun _ _ htold ↦ htold.fine

instance : LookupDiscipline (strict sends permits) Fine where
  withSDinfo sdid message body hbody := by
    constructor
    apply triple_bind (triple_getSDinfo sdid)
    intro info
    apply triple_afterLookup
    · intro _
      exact triple_tellError _ _
    · exact (hbody info.output).triple

theorem triple_sendErrorOnly (ret : Int) :
    Triple (strict sends permits) Ready (do
      let sent ← sendError none ret
      if sent ≠ 0 then pure (-1) else pure 0 : M Int) fun _ ↦ Fine := by
  apply triple_bind (triple_sendError none ret)
  intro sent
  apply triple_ite
  · intro _
    exact triple_pure _ fun _ _ htold ↦ htold.fine
  · intro _
    exact triple_pure _ fun _ _ htold ↦ htold.fine

theorem triple_plainReply (ret : Int) (msg : Option CString) :
    Triple (strict sends permits) (Outcome ret) (plainReply ret msg) fun _ ↦ Fine := by
  apply triple_ite
  · intro hret
    have hok : Stable (strict sends permits) Fine (do
        let sent ← sendOk msg
        if sent ≠ 0 then pure (-1) else pure 0 : M Int) := inferInstance
    exact hok.triple.conseq (fun _ _ houtcome ↦ houtcome.2 hret) fun _ _ _ hfine ↦ hfine
  · intro _
    exact (triple_sendErrorOnly ret).conseq (fun _ _ houtcome ↦ houtcome.1) fun _ _ _ hfine ↦ hfine

theorem triple_replyError (ret : Int) :
    Triple (strict sends permits) (Outcome ret) (replyError ret) fun _ ↦ Fine := by
  apply triple_ite
  · intro _
    exact (triple_sendErrorOnly ret).conseq (fun _ _ houtcome ↦ houtcome.1) fun _ _ _ hfine ↦ hfine
  · intro hret
    exact triple_pure _ fun _ _ houtcome ↦ houtcome.2 (not_not.1 hret)

theorem triple_replyAnyFailure {ret : Int} (hret : ret ≠ 0) :
    Triple (strict sends permits) Ready (replyAnyFailure ret) fun _ ↦ Fine := by
  unfold replyAnyFailure
  rw [if_pos hret]
  exact triple_tellError _ ret

end Lookups

section Handlers

set_option synthInstance.maxSize 4000

instance (cmd address community oid : CString) :
    Stable (strict sends permits) Fine (genericSnmpTest cmd address community oid) := by
  unfold genericSnmpTest
  infer_instance

instance (params : CString) : Stable (strict sends permits) Fine (doSnmpTest params) := by
  unfold doSnmpTest
  infer_instance

instance (params : CString) : Stable (strict sends permits) Fine (doPing params) := by
  unfold doPing getPingStatus
  infer_instance

instance (params : CString) : Stable (strict sends permits) Fine (smsCmd params) := by
  unfold smsCmd genericSmsdCmd
  infer_instance

instance (params : CString) : Stable (strict sends permits) Fine (smsCustCmd params) := by
  have hcmd (info : CustInfo) (cmd : CString) (optionalParams : Option CString) :
      Stable (strict sends permits) Fine (genericSmsCustCmd info cmd optionalParams) := by
    unfold genericSmsCustCmd
    infer_instance
  have hcust (custid cmd : CString) (optionalParams : Option CString) : Stable (strict sends permits) Fine (do
      let custInfo ← getCustInfo custid
      if custInfo.ret ≠ 0 then do
        smsSendUserError (some []) custInfo.ret
        pure custInfo.ret
      else genericSmsCustCmd custInfo.output cmd optionalParams : M Int) := by
    constructor
    apply triple_bind (triple_getCustInfo custid)
    intro custInfo
    apply triple_afterLookup
    · intro _
      exact triple_tellError _ _
    · exact Stable.triple
  unfold smsCustCmd
  infer_instance

/-- IPDOWN replies `ERR_DB_NOTFOUND` for every failed lookup. -/
instance (params : CString) : Stable (strict sends permits) Fine (doIpDown params) := by
  constructor
  apply triple_bind Stable.triple
  intro sdid
  apply triple_bind Stable.triple
  intro ip
  apply triple_bind Stable.triple
  intro _
  apply triple_bind (triple_getSDinfo sdid)
  intro info
  apply triple_afterLookup
  · intro _
    apply triple_bind Stable.triple
    intro _
    apply triple_bind (triple_sendError none _)
    intro _
    exact triple_pure 0 fun _ _ htold ↦ htold.fine
  · exact Stable.triple

/-- A failure is counted before the reply in plain text. -/
theorem triple_countedReply (ret : Int) (failures : Counter) (msg : Option CString) :
    Triple (strict sends permits) (Outcome ret) (do
      if ret ≠ 0 then countUp failures
      plainReply ret msg : M Int) fun _ ↦ Fine := by
  apply triple_ite
  · intro _
    apply triple_bind Stable.triple
    intro _
    exact triple_plainReply ret msg
  · intro _
    exact triple_plainReply ret msg

theorem triple_getReportFor (sdid : CString) (dates : Int × Int) :
    Triple (strict sends permits) Fine (getReportFor sdid dates) fun report ↦ Outcome report.ret := by
  apply triple_bind (triple_getSDinfo sdid)
  intro info
  apply triple_afterLookup
  · intro hret
    exact triple_fails _ hret
  · exact outcome_of_stable _

instance (params : CString) : Stable (strict sends permits) Fine (doGetReport params) := by
  have hreport : Triple (strict sends permits) Fine (getReport params) fun report ↦ Outcome report.ret := by
    unfold getReport
    cases params.cut ' ' with
    | none => exact triple_getReportFor params (0, 0)
    | some parts => exact triple_getReportFor parts.1 (reportDates parts.2)
  constructor
  apply triple_bind Stable.triple
  intro _
  apply triple_bind hreport
  intro report
  exact triple_countedReply _ _ _

theorem triple_getVPNReport (sdid : CString) :
    Triple (strict sends permits) Fine (getVPNReport sdid) fun report ↦ Outcome report.ret := by
  apply triple_bind (triple_getSDinfo sdid)
  intro info
  apply triple_afterLookup
  · intro hret
    exact triple_fails _ hret
  · exact outcome_of_stable _

instance (params : CString) : Stable (strict sends permits) Fine (doGetVPNReport params) := by
  constructor
  apply triple_bind Stable.triple
  intro _
  apply triple_bind (triple_getVPNReport params)
  intro report
  exact triple_countedReply _ _ _

theorem triple_getRouterIp (params : CString) :
    Triple (strict sends permits) Fine (getRouterIp params) fun ip ↦ Outcome ip.ret := by
  apply triple_bind (triple_getSDinfo params)
  intro info
  apply triple_afterLookup
  · intro hret
    exact triple_fails _ hret
  · exact outcome_of_stable _

instance (params : CString) : Stable (strict sends permits) Fine (doGetRouterIp params) := by
  constructor
  apply triple_bind Stable.triple
  intro _
  apply triple_bind (triple_getRouterIp params)
  intro ip
  exact triple_countedReply _ _ _

theorem triple_getRouterFullConfiguration (sdid : CString) :
    Triple (strict sends permits) Fine (getRouterFullConfiguration sdid) fun configuration ↦
      Outcome configuration.ret := by
  apply triple_bind (triple_getSDinfo sdid)
  intro info
  apply triple_afterLookup
  · intro hret
    exact triple_fails _ hret
  · exact outcome_of_stable _

instance (params : CString) : Stable (strict sends permits) Fine (doGetSDConf params) := by
  constructor
  apply triple_bind (triple_getRouterFullConfiguration params)
  intro configuration
  apply triple_bind (triple_plainReply _ _)
  intro sent
  exact Stable.triple

instance (params : CString) (addon : Option CString) :
    Stable (strict sends permits) Fine (smsexec params addon) := by
  unfold smsexec
  cases splitArgument params with
  | none => exact inferInstanceAs (Stable (strict sends permits) Fine (replyAnyFailure errVerbBadParam))
  | some argument =>
    constructor
    apply triple_bind (triple_getSDinfo argument.1)
    intro info
    apply triple_afterLookup
    · exact triple_replyAnyFailure
    · exact Stable.triple

section Bodies

variable [BodyDiscipline (strict sends permits) Fine]

instance (sdid : CString) (addon : Option CString) :
    Stable (strict sends permits) Fine (smsexecn sdid addon) := by
  constructor
  apply triple_bind Stable.triple
  intro commands
  apply triple_bind (triple_getSDinfo sdid)
  intro info
  apply triple_afterLookup
  · exact triple_replyAnyFailure
  · exact Stable.triple

instance (params : CString) : Stable (strict sends permits) Fine (doJsSmsAddonExec params) := by
  unfold doJsSmsAddonExec
  infer_instance

end Bodies

theorem triple_resolveWith (sdid : CString) (template : PhpGlobal) :
    Triple (strict sends permits) Fine (resolveWith sdid template) fun ret ↦ Outcome ret := by
  apply triple_bind (triple_getSDinfo sdid)
  intro info
  apply triple_afterLookup
  · intro hret
    exact triple_fails _ hret
  · exact outcome_of_stable _

instance (params : CString) : Stable (strict sends permits) Fine (doResolveTemplate params) := by
  constructor
  apply triple_bind Stable.triple
  intro sdid
  apply triple_bind Stable.triple
  intro path
  apply triple_bind (triple_resolveWith _ _)
  exact triple_replyError

/-- The client knows of every failed lookup, unless the handler is one of the silent ones. -/
theorem stable_run [BodyDiscipline (strict sends permits) Fine] {handler : Handler} {params : CString}
    (hsilent : handler.silent params = false) (hups : handler ∉ [.doSdIpUp, .doPppIpUp])
    (hsave : handler ≠ .doImmediateSaveConf) (hneeds : handler.needsBody = false) :
    Stable (strict sends permits) Fine (handler.run params) := by
  cases handler with
  | doPushConfig => cases hneeds
  | doResolve => cases hneeds
  | doSdIpUp => simp at hups
  | doPppIpUp => simp at hups
  | doImmediateSaveConf => exact absurd rfl hsave
  | doUpdateLicense => cases hsilent
  | doUpdateFirmware =>
    have hrefused : updateFirmware params = badParam := withWords_of_refused hsilent
    unfold Handler.run doUpdateFirmware
    rw [hrefused]
    infer_instance
  | _ =>
    unfold Handler.run
    infer_instance

end Handlers

section Parameters

theorem triple_silentlyTold {pre : Client → Desk → Prop} {request : M Int}
    (hrequest : Triple (strict sends permits) pre request fun _ ↦ Told) :
    Triple (strict sends permits) pre (silently request) fun _ ↦ Told := by
  apply triple_bind hrequest
  intro _
  exact triple_pure 0 fun _ _ htold ↦ htold

/-- Too few words, or too many characters. -/
theorem triple_refusedWords {params : CString} {n : ℕ} {enough : ℕ → Bool} {body : List CString → M Int}
    (hrefused : (!acceptsWords params n enough) = true) :
    Triple (strict sends permits) Ready (withWords params n enough body) fun _ ↦ Told := by
  rw [withWords_of_refused (by simpa using hrefused)]
  exact triple_badParam

theorem triple_refusedArgument {params : CString} (hrefused : (splitArgument params).isNone = true)
    {refuse : M Int} {body : CString × CString → M Int}
    (hrefuse : Triple (strict sends permits) Ready refuse fun _ ↦ Told) :
    Triple (strict sends permits) Ready ((splitArgument params).elim refuse body) fun _ ↦ Told := by
  rw [Option.isNone_iff_eq_none.1 hrefused]
  exact hrefuse

theorem triple_refusedSnmpTest {params : CString} (hrefused : Handler.doSnmpTest.refuses params = true) :
    Triple (strict sends permits) Ready (doSnmpTest params) fun _ ↦ Told := by
  apply triple_silentlyTold
  unfold genericSnmpTest
  rw [if_pos]
  · apply triple_bind (triple_smsSendUserError _ _)
    intro _
    exact triple_pure _ fun _ _ htold ↦ htold
  · simpa [Handler.refuses, or_assoc] using hrefused

/-- A handler that refuses its parameters tells the client. -/
theorem triple_refused {handler : Handler} {params : CString}
    (hrefused : handler.refuses params = true) :
    Triple (strict sends permits) Ready (handler.run params) fun _ ↦ Told := by
  cases handler with
  | doCheckCmd =>
    have hnone : params.scanWords 2 = [] := of_decide_eq_true hrefused
    unfold Handler.run doCheckCmd
    rw [if_pos hnone]
    apply triple_bind (triple_sendError none _)
    intro _
    exact triple_pure _ fun _ _ htold ↦ htold
  | doSnmpTest => exact triple_refusedSnmpTest hrefused
  | doJsSmsexec =>
    apply triple_silentlyTold
    exact triple_refusedArgument hrefused triple_badParam
  | doJsExecScript =>
    apply triple_silentlyTold
    exact triple_refusedArgument hrefused triple_badParam
  | doJsAExecScript =>
    apply triple_silentlyTold
    exact triple_refusedArgument hrefused triple_badParam
  | doUnarchiveConf =>
    unfold Handler.run unarchiveConf
    exact triple_refusedWords hrefused
  | doGetArchiveConf =>
    unfold Handler.run getArchiveConf
    exact triple_refusedWords hrefused
  | doUpdateFirmware =>
    have hfailed : updateFirmware params = badParam :=
      withWords_of_refused (by simpa [Handler.refuses] using hrefused)
    unfold Handler.run doUpdateFirmware thenForceAsset
    rw [hfailed]
    have hbad : Triple (strict sends permits) Ready badParam fun ret csp g ↦
        ret = errVerbBadParam ∧ Told csp g := by
      apply triple_bind (triple_smsSendUserError _ _)
      intro _
      exact triple_pure _ fun _ _ htold ↦ ⟨rfl, htold⟩
    apply triple_bind hbad
    intro ret
    apply triple_ite
    · rintro hzero csp g ⟨hret, -⟩
      rw [hret] at hzero
      exact absurd hzero (by decide)
    · intro _
      exact triple_pure 0 fun _ _ hpost ↦ hpost.2
  | doJsSmsAddonExec =>
    unfold Handler.run Smsd.doJsSmsAddonExec
    exact triple_refusedWords hrefused
  | doBackupConf => exact triple_silentlyTold (triple_refusedWords hrefused)
  | doRestoreConf => exact triple_silentlyTold (triple_refusedWords hrefused)
  | doPushConfig => exact triple_silentlyTold (triple_refusedWords hrefused)
  | doCmd => exact triple_silentlyTold (triple_refusedWords hrefused)
  | doCustCmd => exact triple_silentlyTold (triple_refusedWords hrefused)
  | doGenTemplate => exact triple_silentlyTold (triple_refusedWords hrefused)
  | doCallCommand => exact triple_silentlyTold (triple_refusedWords hrefused)
  | doSendDataFiles => exact triple_silentlyTold (triple_refusedWords hrefused)
  | doCheckSerial => exact triple_silentlyTold (triple_refusedWords hrefused)
  | _ => cases hrefused

end Parameters

section Body

/-- The body is missing exactly when no line was read, and it is not if the client sends one. -/
theorem triple_readBody (size timeout : ℕ) (eol : CString) :
    Triple (strict sends permits) Fine (readBody size timeout (0 ≤ ·) eol) fun body csp g ↦
      Fine csp g ∧ (body ≠ none → g.lines = true) ∧ (sends = true → g.lines = true) := by
  have hinv : Triple (strict sends permits)
      (fun csp g ↦ Fine csp g ∧ ((none : Option CString) ≠ none → g.lines = true))
      (readBody size timeout (0 ≤ ·) eol) fun body csp g ↦
        Fine csp g ∧ (body ≠ none → g.lines = true) ∧ (sends = true → g.lines = true) := by
    apply triple_loop (fun body csp g ↦ Fine csp g ∧ (body ≠ none → g.lines = true))
    intro body
    have hread : Triple (strict sends permits) (fun csp g ↦ Fine csp g ∧ (body ≠ none → g.lines = true))
        (socketReadLine size timeout) fun line csp g ↦ Fine csp g ∧ (body ≠ none → g.lines = true) ∧
          (sends = true → g.lines = true) ∧ (0 ≤ line.ret → g.lines = true) := by
      rintro csp g ⟨hfine, hlines⟩
      refine ⟨nofun, fun line hline ↦ ⟨hfine, fun hbody ↦ ?_, fun hsends ↦ ?_, fun hret ↦ ?_⟩⟩
      · simp [strict, desk, hlines hbody]
      · have hfirst : g.lines = true ∨ (0 ≤ line.ret ↔ sends = true) := hline
        rcases hfirst with hsome | hfirst
        · simp [strict, desk, hsome]
        · simp [strict, desk, hfirst.2 hsends]
      · simp [strict, desk, hret]
    apply triple_bind hread
    intro line
    apply triple_ite
    · intro hmore
      exact triple_pure _ fun _ _ hpost ↦ ⟨hpost.1, fun _ ↦ hpost.2.2.2 (of_decide_eq_true hmore)⟩
    · intro _
      exact triple_pure _ fun _ _ hpost ↦ ⟨hpost.1, hpost.2.1, hpost.2.2.1⟩
  exact hinv.conseq (fun _ _ hfine ↦ ⟨hfine, fun hnone ↦ absurd rfl hnone⟩) fun _ _ _ hpost ↦ hpost

/-- Either a line of the body was read, or the client was told. -/
def Served (csp : Client) (g : Desk) : Prop := Fine csp g ∧ (g.lines = true ∨ Told csp g)

theorem Told.served (htold : Told csp g) : Served csp g := ⟨htold.fine, Or.inr htold⟩

theorem served_of_lines {α : Type} (procedure : M α) [hstable : Stable (strict sends permits) Fine procedure] :
    Triple (strict sends permits) (fun csp g ↦ Fine csp g ∧ g.lines = true) procedure fun _ ↦ Served :=
  (hstable.triple.and_keeps lines_next).conseq (fun _ _ hpre ↦ hpre) fun _ _ _ hpost ↦
    ⟨hpost.1, Or.inl hpost.2⟩

theorem triple_servedSilently {pre : Client → Desk → Prop} {request : M Int}
    (hrequest : Triple (strict sends permits) pre request fun _ ↦ Served) :
    Triple (strict sends permits) pre (silently request) fun _ ↦ Served := by
  apply triple_bind hrequest
  intro _
  exact triple_pure 0 fun _ _ hserved ↦ hserved

theorem triple_pushConfig (params : CString) :
    Triple (strict sends permits) Fine (pushConfig params) fun _ ↦ Served := by
  have htold : Triple (strict sends permits) Fine badParam fun _ ↦ Served :=
    triple_badParam.conseq (fun _ _ hfine ↦ hfine.ready) fun _ _ _ htold ↦ htold.served
  apply triple_ite
  · intro _
    exact htold
  · intro _
    apply triple_ite
    · intro _
      apply triple_bind (triple_readBody _ _ _)
      intro configuration
      apply triple_ite
      · intro _
        exact htold.conseq (fun _ _ hpost ↦ hpost.1) fun _ _ _ hserved ↦ hserved
      · intro hbody
        apply (served_of_lines _).conseq _ fun _ _ _ hserved ↦ hserved
        intro csp g hpost
        refine ⟨hpost.1, hpost.2.1 ?_⟩
        rintro rfl
        exact hbody rfl
    · intro _
      exact htold

/-- JSRESOLVE follows its body without a look at it: it must not be missing. -/
theorem triple_doResolve (hsends : sends = true)
    (hpermits : ∀ csp g, Fine csp g → g.lines = true → permits g) (params : CString) :
    Triple (strict sends permits) Fine (doResolve params) fun _ ↦ Served := by
  have herror {ret : Int} (hret : ret ≠ 0) :
      Triple (strict sends permits) Ready (silently (replyError ret)) fun _ ↦ Served := by
    apply triple_servedSilently
    unfold replyError
    rw [if_pos hret]
    apply triple_bind (triple_sendError none ret)
    intro sent
    apply triple_ite
    · intro _
      exact triple_pure _ fun _ _ htold ↦ htold.served
    · intro _
      exact triple_pure _ fun _ _ htold ↦ htold.served
  have hbuffer (sdid buffer : CString) : Stable (strict sends permits) Fine (do
      let ret ← resolveTemplateBuffer sdid buffer
      silently (replyError ret) : M Int) := by
    constructor
    apply triple_bind (triple_resolveWith _ _)
    intro ret
    exact triple_silently (triple_replyError ret)
  apply triple_bind (triple_getSDinfo _)
  intro info
  apply triple_afterLookup herror
  apply triple_bind (triple_readBody _ _ _)
  intro configuration
  cases configuration with
  | none =>
    intro csp g hpost
    exact ⟨fun _ ↦ Or.inr (hpermits csp g hpost.1 (hpost.2.2 hsends)), fun answer ↦ answer.elim⟩
  | some configuration =>
    simp only [Option.elim_some]
    exact (served_of_lines _).conseq (fun _ _ hpost ↦ ⟨hpost.1, hpost.2.1 nofun⟩) fun _ _ _ hserved ↦ hserved

theorem triple_body {handler : Handler} (hneeds : handler.needsBody = true)
    (hresolve : handler = .doResolve → sends = true)
    (hpermits : ∀ csp g, Fine csp g → g.lines = true → permits g) (params : CString) :
    Triple (strict sends permits) Fine (handler.run params) fun _ ↦ Served := by
  cases handler with
  | doPushConfig => exact triple_servedSilently (triple_pushConfig params)
  | doResolve => exact triple_doResolve (hresolve rfl) hpermits params
  | _ => cases hneeds

end Body

section Requests

variable {va : VerbAction} {arg : CString}

/-- What is known when nothing more comes of a request of the handler. -/
def Answered (handler : Handler) (arg : CString) (g : Desk) : Prop :=
  g.started = true ∨ g.told = true ∨ (handler.refuses arg = false ∧
    (handler.needsBody = true → g.lines = true) ∧ g.missing = false)

theorem Told.answered {handler : Handler} (htold : Told csp g) : Answered handler arg g :=
  htold.imp_right fun hopen ↦ Or.inl hopen.2.2

theorem answered_of_fine {handler : Handler} (hrefuses : handler.refuses arg = false)
    (hfine : Fine csp g) (hbody : handler.needsBody = true → g.lines = true) : Answered handler arg g := by
  rcases hfine with hstarted | ⟨-, -, htold⟩
  · exact Or.inl hstarted
  · by_cases hmissing : g.missing = true
    · exact Or.inr (Or.inl (htold hmissing))
    · exact Or.inr (Or.inr ⟨hrefuses, hbody, by simpa using hmissing⟩)

theorem Served.answered {handler : Handler} (hserved : Served csp g)
    (hrefuses : handler.refuses arg = false) : Answered handler arg g := by
  rcases hserved.2 with hlines | htold
  · exact answered_of_fine hrefuses hserved.1 fun _ ↦ hlines
  · exact htold.answered

theorem triple_run {handler : Handler} (hsilent : handler.silent arg = false)
    (hups : handler ∉ [.doSdIpUp, .doPppIpUp]) (hsave : handler ≠ .doImmediateSaveConf)
    (hresolve : handler = .doResolve → sends = true) :
    Triple (strict sends (Answered handler arg)) Fine (handler.run arg) fun _ _ g ↦
      Answered handler arg g := by
  by_cases hrefuses : handler.refuses arg = true
  · exact (triple_refused hrefuses).conseq (fun _ _ hfine ↦ hfine.ready) fun _ _ _ htold ↦ htold.answered
  · have haccepts : handler.refuses arg = false := by simpa using hrefuses
    by_cases hneeds : handler.needsBody = true
    · have hserved := triple_body hneeds hresolve (fun _ g hfine hlines ↦
        (answered_of_fine haccepts hfine fun _ ↦ hlines : Answered handler arg g)) arg
      exact hserved.conseq (fun _ _ hfine ↦ hfine) fun _ _ _ hserved ↦ hserved.answered haccepts
    · have hanswered {csp : Client} {g : Desk} (hfine : Fine csp g) : Answered handler arg g :=
        answered_of_fine haccepts hfine fun hneeded ↦ absurd hneeded hneeds
      have hmissing : BodyDiscipline (strict sends (Answered handler arg)) Fine :=
        ⟨fun _ _ hfine _ ↦ Or.inr (hanswered hfine)⟩
      exact (stable_run hsilent hups hsave (by simpa using hneeds)).triple.conseq (fun _ _ hfine ↦ hfine)
        fun _ _ _ hfine ↦ hanswered hfine

theorem triple_dispatch (hparams : va.hasParams = 1) (hlength : 4 ≤ arg.length)
    (hsilent : va.doVerb.silent arg = false) (hups : va.doVerb ∉ [.doSdIpUp, .doPppIpUp])
    (hsave : va.doVerb ≠ .doImmediateSaveConf) (hresolve : va.doVerb = .doResolve → sends = true) :
    Triple (strict sends (Answered va.doVerb arg)) Fine (dispatch va arg) fun _ _ g ↦
      Answered va.doVerb arg g := by
  have hops : ∀ op : Op, op.OnDatabase 1 → (strict sends (Answered va.doVerb arg)).Ignores op :=
    fun _ ↦ ignores_database
  have hfind : Stable (strict sends (Answered va.doVerb arg)) Fine
      (lift (findCtx .sms (.keeper .checkVerb))) := stable_lift_of_onDatabase hops inferInstance
  have hstore (ctx : Option Ctx) : Stable (strict sends (Answered va.doVerb arg)) Fine (storeDbCtx ctx) :=
    stable_storeDbCtx_of_ignores hops (fun _ _ _ hfine ↦ hfine) ctx
  have hfinish : Stable (strict sends (Answered va.doVerb arg)) (fun _ g ↦ Answered va.doVerb arg g)
      dispatch.finish := by
    have hrelease : Stable (strict sends (Answered va.doVerb arg)) (fun _ g ↦ Answered va.doVerb arg g)
        releaseBdCtx := (queryDiscipline_of_ignores hops fun _ _ _ hanswered ↦ hanswered).release
    unfold dispatch.finish
    infer_instance
  unfold dispatch
  rw [if_pos (by omega), if_neg (by omega)]
  apply triple_bind hfind.triple
  intro ctx
  apply triple_bind (hstore (some ctx)).triple
  intro _
  apply triple_bind (triple_run hsilent hups hsave hresolve)
  intro _
  exact hfinish.triple

end Requests

section Silence

variable {ctx : Ctx} {cfd : Int}

/-- A lookup that fails. -/
theorem may_missing (sdid : CString) {post : Reply SdInfo × Client → Desk → Prop}
    (hpost : post (⟨errDbNotfound, Sim.plainDevice⟩, ⟨cfd, some ctx⟩) { Desk.start with missing := true }) :
    (getSDinfo sdid ⟨cfd, some ctx⟩).May (desk sends) post .start := by
  apply may_get
  exact may_call (⟨errDbNotfound, Sim.plainDevice⟩ : Reply SdInfo) trivial hpost

theorem may_silent {handler : Handler} {params : CString} (hsilent : handler.silent params = true)
    {post : Int × Client → Desk → Prop}
    (hpost : post (0, ⟨cfd, some ctx⟩) { Desk.start with missing := true }) :
    (handler.run params ⟨cfd, some ctx⟩).May (desk sends) post .start := by
  have hfailed : errDbNotfound ≠ 0 := by decide
  cases handler with
  | doUpdateLicense =>
    unfold Handler.run doUpdateLicense thenForceAsset updateLicense
    apply may_bind
    apply may_bind
    apply may_missing
    apply may_ite_pos hfailed
    exact may_ite_neg hfailed (may_pure hpost)
  | doUpdateFirmware =>
    have haccepted : acceptsWords params 3 (1 ≤ ·) = true := hsilent
    unfold Handler.run doUpdateFirmware thenForceAsset updateFirmware
    apply may_bind
    apply may_withWords haccepted
    apply may_bind
    apply may_missing
    apply may_ite_pos hfailed
    exact may_ite_neg hfailed (may_pure hpost)
  | _ => cases hsilent

/-- The request ends without a word. -/
theorem may_dispatch {va : VerbAction} {arg : CString} (hparams : va.hasParams = 1)
    (hlength : 4 ≤ arg.length) (hsilent : va.doVerb.silent arg = true) :
    (dispatch va arg ⟨1, none⟩).May (desk sends) (fun _ g ↦ g = { Desk.start with missing := true }) .start := by
  unfold dispatch
  apply may_ite_pos (by omega)
  apply may_ite_neg (by omega)
  apply may_bind
  apply may_call (⟨.sms, 0⟩ : Ctx) trivial
  apply may_bind
  apply may_get
  apply may_bind
  apply may_call () trivial
  apply may_bind
  apply may_silent hsilent
  apply may_get
  apply may_ite_pos rfl
  apply may_get
  apply may_bind
  apply may_call () trivial
  apply may_get
  apply may_bind
  exact may_call () trivial rfl

end Silence

end Desk

variable {line : CString} {va : VerbAction} {sends : Bool}

theorem checkVerb_eq_dispatch
    (hverb : (verbTab.find? fun va ↦ va.verb = CString.toupper (splitLine line).1) = some va) :
    checkVerb line = dispatch va (splitLine line).2 := by
  unfold checkVerb
  rw [hverb]
  rfl

theorem not_doImmediateSaveConf (hva : va ∈ verbTab) (hparams : va.hasParams = 1) :
    va.doVerb ≠ .doImmediateSaveConf := by
  revert va
  decide

/-- An argument of less than four characters is refused without a reply. -/
theorem not_refusalAnswered_of_short
    (hverb : (verbTab.find? fun va ↦ va.verb = CString.toupper (splitLine line).1) = some va)
    (hparams : va.hasParams = 1) (hshort : (splitLine line).2.length < 4) :
    ¬RefusalAnswered line va sends := by
  intro hanswered
  have hreturn : checkVerb line ⟨1, none⟩ = .ret ((), ⟨1, none⟩) := by
    rw [checkVerb_eq_dispatch hverb, dispatch, if_pos (by omega), if_pos ⟨hparams, hshort⟩]
    rfl
  have hrun : Run (checkVerb line ⟨1, none⟩) [] (.ret ((), ⟨1, none⟩)) := hreturn ▸ .done _
  have htold := hanswered 1 (by decide) [] _ hrun (Or.inl ⟨_, rfl⟩) trivial rfl (Or.inl hshort)
  cases htold

/-- A failed lookup of a silent handler is not reported. -/
theorem not_refusalAnswered_of_silent
    (hverb : (verbTab.find? fun va ↦ va.verb = CString.toupper (splitLine line).1) = some va)
    (hparams : va.hasParams = 1) (hlength : 4 ≤ (splitLine line).2.length)
    (hsilent : va.doVerb.silent (splitLine line).2 = true) : ¬RefusalAnswered line va sends := by
  intro hanswered
  have hmay : (dispatch va (splitLine line).2 ⟨1, none⟩).May (desk sends)
      (fun _ g ↦ g = { Desk.start with missing := true }) .start := Desk.may_dispatch hparams hlength hsilent
  rw [← checkVerb_eq_dispatch hverb] at hmay
  obtain ⟨trace, result, hrun, hmeets, hafter⟩ := hmay.exists_run
  have hstarted : ((desk sends).after .start trace).started = false := by
    rw [hafter]
    rfl
  have hmissing : ((desk sends).after .start trace).missing = true := by
    rw [hafter]
  have htold := hanswered 1 (by decide) trace _ hrun (Or.inl ⟨result, rfl⟩) hmeets hstarted
    (Or.inr (Or.inr (Or.inr hmissing)))
  rw [hafter] at htold
  cases htold

/-- JSRESOLVE finds its device, and its client closes the connection without a body. -/
def resolveWithoutBody (params : CString) : List (Event signature) :=
  [⟨.findCtx .sms (.keeper .checkVerb), (⟨.sms, 0⟩ : Ctx)⟩, ⟨.storeDbCtx none (some ⟨.sms, 0⟩), ()⟩,
    ⟨.sql ⟨.sms, 0⟩ (.getSdInfo (params.strncpy (sdidLen - 1))), (⟨0, Sim.plainDevice⟩ : Reply SdInfo)⟩,
    ⟨.socketReadLine 1 CString.bufsiz 2, (⟨-1, []⟩ : ReadLine)⟩]

/-- A missing body of JSRESOLVE is followed before the client is told. -/
theorem not_refusalAnswered_of_resolve
    (hverb : (verbTab.find? fun va ↦ va.verb = CString.toupper (splitLine line).1) = some va)
    (hparams : va.hasParams = 1) (hlength : 4 ≤ (splitLine line).2.length)
    (hresolve : va.doVerb = .doResolve) : ¬RefusalAnswered line va false := by
  intro hanswered
  obtain ⟨final, next, hrun, hoffers⟩ : ∃ final next, Run (checkVerb line ⟨1, none⟩)
      (resolveWithoutBody (splitLine line).2) final ∧ Offers final .nullBody next := by
    rw [checkVerb_eq_dispatch hverb, dispatch, if_pos (by omega), if_neg (by omega), hresolve]
    exact ⟨_, _, .call (.call (.call (@Run.bound _ _ _ 1 _ _ (.call (.done _))))), .call _ _⟩
  have hmeets : (desk false).Meets .start (resolveWithoutBody (splitLine line).2) :=
    ⟨trivial, trivial, trivial, Or.inr (by decide), trivial⟩
  have hmissing : va.doVerb.needsBody = true := by
    rw [hresolve]
    rfl
  have htold := hanswered 1 (by decide) _ final hrun (Or.inr ⟨next, hoffers⟩) hmeets rfl
    (Or.inr (Or.inr (Or.inl ⟨hmissing, rfl⟩)))
  cases htold

/-- A refused request is answered, unless its argument has less than four characters, its handler does
not tell the client of a failed lookup, or it is JSRESOLVE without a body. -/
theorem refusal_answered_iff
    (hverb : (verbTab.find? fun va ↦ va.verb = CString.toupper (splitLine line).1) = some va)
    (hparams : va.hasParams = 1) (hups : va.doVerb ∉ [.doSdIpUp, .doPppIpUp]) :
    RefusalAnswered line va sends ↔ 4 ≤ (splitLine line).2.length ∧
      va.doVerb.silent (splitLine line).2 = false ∧ (va.doVerb = .doResolve → sends = true) := by
  constructor
  · intro hanswered
    have hlength : 4 ≤ (splitLine line).2.length := by
      by_contra hshort
      exact not_refusalAnswered_of_short hverb hparams (by omega) hanswered
    refine ⟨hlength, ?_, fun hresolve ↦ ?_⟩
    · by_contra hsilent
      exact not_refusalAnswered_of_silent hverb hparams hlength (by simpa using hsilent) hanswered
    · by_contra hnone
      rw [eq_false_of_ne_true hnone] at hanswered
      exact not_refusalAnswered_of_resolve hverb hparams hlength hresolve hanswered
  · rintro ⟨hlength, hsilent, hresolve⟩ cfd hcfd trace final hrun hover hmeets hstarted hrefused
    have hsave := not_doImmediateSaveConf (List.mem_of_find?_eq_some hverb) hparams
    rw [checkVerb_eq_dispatch hverb] at hrun
    have hfine : Desk.Fine ⟨cfd, none⟩ .start := Or.inr ⟨hcfd, rfl, nofun⟩
    have hsafe := Desk.triple_dispatch hparams hlength hsilent hups hsave hresolve ⟨cfd, none⟩ .start hfine
    have hfinal := (hrun.safe hsafe ((Desk.meets_strict _ _).2 hmeets)).2
    rw [Desk.after_strict] at hfinal
    have hanswered : Desk.Answered va.doVerb (splitLine line).2 ((desk sends).after .start trace) := by
      rcases hover with ⟨result, rfl⟩ | ⟨next, hoffers⟩
      · exact hfinal
      · exact ((hoffers.safe hfinal).1 rfl).elim Or.inl id
    rcases hanswered with hscript | htold | ⟨hrefuses, hlines, hmissing⟩
    · rw [hstarted] at hscript
      cases hscript
    · exact htold
    · rcases hrefused with hshort | hparams | ⟨hneeds, hnone⟩ | hmiss
      · omega
      · rw [hrefuses] at hparams
        cases hparams
      · rw [hlines hneeds] at hnone
        cases hnone
      · rw [hmissing] at hmiss
        cases hmiss

theorem refusal_answered_iff_jsresolve :
    RefusalAnswered "JSRESOLVE ABC123".toList (verbAction "JSRESOLVE" .doResolve
        "*Resolve a template buffer for a device ((Param: SDid \\n template_buffer)" 1) true ↔
      4 ≤ (splitLine "JSRESOLVE ABC123".toList).2.length ∧
        Handler.doResolve.silent (splitLine "JSRESOLVE ABC123".toList).2 = false ∧
        (Handler.doResolve = .doResolve → true = true) :=
  refusal_answered_iff (by decide +kernel) rfl (by decide)

/-- The client of JSAUPDATELICENSE is not told that its device is unknown, that of JSGETCONF is not told
that its argument is too short, and that of JSRESOLVE is not told that the body is missing. -/
theorem refusal_unanswered :
    ¬RefusalAnswered "JSAUPDATELICENSE ABC123".toList
        (verbAction "JSAUPDATELICENSE" .doUpdateLicense
          "Update License of a device based on FMC (Param: SDid)" 1) false ∧
      ¬RefusalAnswered "JSGETCONF AB".toList
        (verbAction "JSGETCONF" .doGetConfig "*Get router generated configuration" 1) false ∧
      ¬RefusalAnswered "JSRESOLVE ABC123".toList (verbAction "JSRESOLVE" .doResolve
        "*Resolve a template buffer for a device ((Param: SDid \\n template_buffer)" 1) false := by
  refine ⟨?_, ?_, ?_⟩
  · exact not_refusalAnswered_of_silent (by decide +kernel) rfl (by decide +kernel) rfl
  · exact not_refusalAnswered_of_short (by decide +kernel) rfl (by decide +kernel)
  · exact not_refusalAnswered_of_resolve (by decide +kernel) rfl (by decide +kernel) rfl

end CoreEngine.Smsd
