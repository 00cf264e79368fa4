import CoreEngine.Interaction.Possibility
import CoreEngine.Smsd.Footprint
import CoreEngine.Smsd.Simulator

/-!
# The way to a script and back

Under a monitor that lets routine operations pass, some run of a request accepts its parameters,
reads what it needs from the client, finds the device and gets to its script; after the script it
replies and returns. Runs that show a defect for all parameters at once are made of these parts.
-/

namespace CoreEngine.Smsd

open Interaction
open Procedure (lift may_bind may_pure may_call may_get may_ite_pos may_ite_neg may_loop)

/-- Operations on the pool and on counters, reads, and the end of a connection. -/
def Op.Routine : Op → Prop
  | .findCtx .. | .releaseCtx _ | .storeDbCtx .. | .socketReadLine .. | .socketClose _ | .library
  | .uninitialised | .countUp _ => True
  | _ => False

/-- The monitor accepts any answer to a routine operation, and does not move on it. -/
class Lenient {G : Type} (D : Monitor signature G) : Prop where
  expect {op : Op} (hop : op.Routine) (g : G) (answer : op.Answer) : D.expect g op answer
  next {op : Op} (hop : op.Routine) (g : G) (answer : op.Answer) : D.next g op answer = g

/-- Nor does the monitor look at calls that do not concern locks. -/
class Forgiving {G : Type} (D : Monitor signature G) : Prop extends Lenient D where
  expect_sql {query : Sql} (hquery : query.isLock = false) (g : G) (ctx : Ctx)
    (reply : Reply query.Output) : D.expect g (.sql ctx query) reply
  next_sql {query : Sql} (hquery : query.isLock = false) (g : G) (ctx : Ctx)
    (reply : Reply query.Output) : D.next g (.sql ctx query) reply = g

/-- A connected client may take a whole reply, which moves the monitor by `say`. -/
class Hears {G : Type} (D : Monitor signature G) (say : outParam (G → G)) : Prop where
  written (pieces : List CString) {post : Int × Client → G → Prop} {dbCtx : Option Ctx} {g : G}
    (hpost : post (0, ⟨1, dbCtx⟩) (say g)) : (writePieces pieces ⟨1, dbCtx⟩).May D post g

/-- Parameters that a handler takes `n` words of, if there are enough. -/
def acceptsWords (params : CString) (n : ℕ) (enough : ℕ → Bool) : Bool :=
  params.length < CString.bufsiz && enough (params.scanWords n).length

variable {G α : Type} {D : Monitor signature G} {g : G} {csp : Client} {dbCtx : Option Ctx} {ctx : Ctx}

/-- A call that succeeds is not repeated. -/
theorem may_retry {query : Sql} (db : Db) {post : Reply query.Output → G → Prop}
    (reply : Reply query.Output) (hret : reply.ret = 0) (hexpect : D.expect g (.sql ctx query) reply)
    (hpost : post reply (D.next g (.sql ctx query) reply)) :
    (retry ctx db query).May D post g := by
  have hconnected : ¬reply.ret = errDbConnectionLost := by
    rw [hret]
    decide
  apply Program.may_loop
  apply (Program.may_bind _ _ _ _).2
  refine ⟨reply, hexpect, ?_⟩
  show (if reply.ret = errDbConnectionLost then _ else _ : Code (Unit ⊕ Reply _)).May D _ _
  rw [if_neg hconnected]
  exact hpost

section Routine

variable [hlenient : Lenient D]

theorem may_ask (op : Op) (hop : op.Routine) (answer : op.Answer)
    {post : op.Answer × Client → G → Prop} (hpost : post (answer, csp) g) :
    ((lift (ask op) : M op.Answer) csp).May D post g := by
  refine may_call answer (hlenient.expect hop g answer) ?_
  rw [hlenient.next hop g answer]
  exact hpost

theorem may_storeDbCtx (new : Option Ctx) {post : Unit × Client → G → Prop}
    (hpost : post ((), { csp with dbCtx := new }) g) : (storeDbCtx new csp).May D post g :=
  may_get (may_bind (may_ask (.storeDbCtx _ new) trivial () hpost))

theorem may_releaseBdCtx {post : Unit × Client → G → Prop}
    (hpost : post ((), { csp with dbCtx := none }) g) : (releaseBdCtx csp).May D post g :=
  may_get (may_bind (may_ask (.releaseCtx _) trivial () (may_storeDbCtx none hpost)))

/-- Whether a context is borrowed or not makes no difference to what follows. -/
theorem may_borrowDbCtx (borrower : Borrower) {body : Ctx → Code α} {cfd : Int}
    {post : α × Client → G → Prop}
    (hbody : ∀ ctx, (body ctx).May D (fun value g ↦ ∀ dbCtx, post (value, ⟨cfd, dbCtx⟩) g) g) :
    (borrowDbCtx borrower body ⟨cfd, dbCtx⟩).May D post g := by
  have hlift (ctx : Ctx) {post' : α × Client → G → Prop}
      (hpost : ∀ value g, (∀ dbCtx, post (value, ⟨cfd, dbCtx⟩) g) → post' (value, ⟨cfd, some ctx⟩) g) :
      ((lift (body ctx) : M α) ⟨cfd, some ctx⟩).May D post' g :=
    (Program.may_bind _ _ _ _).2 ((hbody ctx).mono hpost)
  cases dbCtx with
  | some ctx => exact may_get (may_get (hlift ctx fun _ _ hpost ↦ hpost _))
  | none =>
    let ctx : Ctx := ⟨.sms, 0⟩
    refine may_get (may_bind (may_ask (.findCtx .sms (.borrower borrower)) trivial ctx ?_))
    refine may_bind (may_storeDbCtx _ (may_bind (hlift ctx fun _ _ hpost ↦ may_bind ?_)))
    exact may_ask (.releaseCtx _) trivial () (may_pure (hpost _))

theorem may_ensureDbCtx (keeper : Keeper) {cfd : Int} {post : Unit × Client → G → Prop}
    (hpost : ∀ dbCtx, post ((), ⟨cfd, dbCtx⟩) g) : (ensureDbCtx keeper ⟨cfd, dbCtx⟩).May D post g := by
  refine may_get ?_
  cases dbCtx with
  | some ctx => exact may_pure (hpost _)
  | none =>
    refine may_bind (may_ask (.findCtx .sms (.keeper keeper)) trivial ⟨.sms, 0⟩ ?_)
    exact may_storeDbCtx _ (hpost _)

theorem may_scanned (words : List CString) (i : ℕ) {post : CString × Client → G → Prop}
    (hpost : ∀ word, post (word, csp) g) : (scanned words i csp).May D post g := by
  unfold scanned
  cases words[i]? with
  | none => exact may_ask .uninitialised trivial [] (hpost [])
  | some word => exact may_pure (hpost word)

theorem may_decodeSdid (number : CString → Int) (sdid : CString) {post : SdKey × Client → G → Prop}
    (hpost : ∀ key, post (key, csp) g) : (decodeSdid number sdid csp).May D post g := by
  unfold decodeSdid
  split
  · exact may_bind (may_ask .uninitialised trivial [] (may_pure (hpost _)))
  · exact may_pure (hpost _)

theorem may_readLine (line : ReadLine) (size timeout : ℕ) {post : ReadLine × Client → G → Prop}
    (hpost : post (line, csp) g) : (socketReadLine size timeout csp).May D post g :=
  may_get (may_ask (.socketReadLine _ size timeout) trivial line hpost)

/-- A body of one line. -/
theorem may_readBody (size timeout : ℕ) {more : Int → Bool} (eol : CString) (hmore : more 1 = true)
    (hend : more (-1) = false) {post : Option CString × Client → G → Prop}
    (hpost : ∀ body ≠ [], post (some body, csp) g) :
    (readBody size timeout more eol csp).May D post g := by
  unfold readBody
  refine may_loop (may_bind (may_readLine ⟨1, ['x']⟩ size timeout (may_ite_pos hmore (may_pure ?_))))
  rw [Sum.elim_inl]
  refine may_loop (may_bind (may_readLine ⟨-1, []⟩ size timeout
    (may_ite_neg (by simp [hend]) (may_pure ?_))))
  exact hpost _ (by simp)

theorem may_readCommandParams {post : (Int ⊕ CString) × Client → G → Prop}
    (hpost : ∀ buf, post (.inr buf, csp) g) : (readCommandParams csp).May D post g := by
  unfold readCommandParams
  refine may_loop (may_bind (may_readLine ⟨0, []⟩ _ _
    (may_ite_neg (by decide : ¬(0 : Int) < 0) (may_ite_pos rfl (may_pure ?_)))))
  exact hpost _

variable {post : Int × Client → G → Prop}

omit hlenient in
theorem withWords_of_accepted {params : CString} {n : ℕ} {enough : ℕ → Bool} {body : List CString → M Int}
    (haccepted : acceptsWords params n enough) : withWords params n enough body = body (params.scanWords n) := by
  obtain ⟨hlength, henough⟩ := (Bool.and_eq_true _ _).mp haccepted
  unfold withWords
  rw [if_neg (Nat.not_le.2 (of_decide_eq_true hlength)), if_pos henough]

omit hlenient in
theorem withWords_of_refused {params : CString} {n : ℕ} {enough : ℕ → Bool} {body : List CString → M Int}
    (hrefused : acceptsWords params n enough = false) : withWords params n enough body = badParam := by
  unfold withWords
  by_cases hlength : params.length < CString.bufsiz
  · have henough : enough (params.scanWords n).length = false := by
      simpa [acceptsWords, hlength] using hrefused
    rw [if_neg (Nat.not_le.2 hlength), henough]
    rfl
  · rw [if_pos (Nat.not_lt.1 hlength)]

omit hlenient in
/-- Words that `sscanf` finds in parameters that are not too long. -/
theorem may_withWords {params : CString} {n : ℕ} {enough : ℕ → Bool} {body : List CString → M Int}
    (haccepted : acceptsWords params n enough) (hbody : (body (params.scanWords n) csp).May D post g) :
    (withWords params n enough body csp).May D post g := by
  rw [withWords_of_accepted haccepted]
  exact hbody

theorem may_callCommand {params : CString}
    (haccepted : (params.length < CString.bufsiz && decide ((params.scanWords 3).length = 3)) = true)
    (hcall : ∀ words buf, (callCommandWith words buf ⟨1, some ctx⟩).May D post g) :
    (callCommand params ⟨1, some ctx⟩).May D post g :=
  may_withWords haccepted (may_bind (may_readCommandParams fun buf ↦ hcall _ buf))

theorem may_finish {post : Unit × Client → G → Prop} (hpost : ∀ csp, post ((), csp) g) :
    (dispatch.finish csp).May D post g := by
  refine may_get ?_
  cases hctx : csp.dbCtx with
  | none => exact may_ite_neg (by simp) (may_pure (hpost _))
  | some ctx => exact may_ite_pos rfl (may_releaseBdCtx (hpost _))

/-- A request on a fresh connection, from a run of its handler. -/
theorem may_checkVerb {line : CString} {va : VerbAction}
    (hverb : (verbTab.find? fun va ↦ va.verb = CString.toupper (splitLine line).1) = some va)
    (hparams : va.hasParams = 1) (hlength : 4 ≤ (splitLine line).2.length) {post : G → Prop}
    (hrun : ∀ ctx, (va.doVerb.run (splitLine line).2 ⟨1, some ctx⟩).May D (fun _ ↦ post) g) :
    (checkVerb line ⟨1, none⟩).May D (fun _ ↦ post) g := by
  unfold checkVerb
  rw [hverb]
  refine may_ite_pos (by omega) (may_ite_neg (by omega) (may_bind ?_))
  refine may_ask (.findCtx .sms (.keeper .checkVerb)) trivial ⟨.sms, 0⟩ (may_bind ?_)
  refine may_storeDbCtx _ (may_bind ((hrun ⟨.sms, 0⟩).mono ?_))
  exact fun _ _ hpost ↦ may_finish fun _ ↦ hpost

end Routine

section Lookup

variable [hforgiving : Forgiving D]

theorem may_sdForceAsset (sdid : CString) {cfd : Int} {post : Int × Client → G → Prop}
    (hpost : ∀ dbCtx, post (0, ⟨cfd, dbCtx⟩) g) : (sdForceAsset sdid ⟨cfd, dbCtx⟩).May D post g := by
  refine may_bind (may_decodeSdid _ _ fun key ↦ may_bind (may_borrowDbCtx _ fun ctx ↦ ?_))
  refine ⟨⟨0, ()⟩, hforgiving.expect_sql rfl g ctx _, fun dbCtx ↦ ?_⟩
  rw [hforgiving.next_sql rfl g ctx _]
  exact hpost dbCtx

theorem may_getSDinfo (sdid : CString) {cfd : Int} {post : Reply SdInfo × Client → G → Prop}
    (hpost : post (⟨0, Sim.plainDevice⟩, ⟨cfd, some ctx⟩) g) :
    (getSDinfo sdid ⟨cfd, some ctx⟩).May D post g := by
  have hquery : (Sql.getSdInfo sdid).isLock = false := rfl
  refine may_get (may_call ⟨0, Sim.plainDevice⟩ (hforgiving.expect_sql hquery g ctx _) ?_)
  rw [hforgiving.next_sql hquery g ctx _]
  exact hpost

variable {post : Int × Client → G → Prop}

theorem may_withSDinfo (sdid message : CString) {body : SdInfo → M Int}
    (hbody : (body Sim.plainDevice ⟨1, some ctx⟩).May D post g) :
    (withSDinfo sdid message body ⟨1, some ctx⟩).May D post g :=
  may_bind (may_getSDinfo _ (may_ite_neg (fun hfailed ↦ hfailed rfl) hbody))

theorem may_smsexec {params : CString} {addon : Option CString}
    (hparams : (splitArgument params).isSome = true)
    (hexec : ∀ commands, ((execCommands Sim.plainDevice addon commands >>= replyAnyFailure)
      ⟨1, none⟩).May D post g) : (smsexec params addon ⟨1, some ctx⟩).May D post g := by
  obtain ⟨argument, hargument⟩ := Option.isSome_iff_exists.1 hparams
  unfold smsexec
  rw [hargument]
  refine may_bind (may_getSDinfo _ (may_ite_neg (fun hfailed ↦ hfailed rfl) ?_))
  exact may_bind (may_releaseBdCtx (hexec _))

theorem may_smsexecn (sdid : CString) (addon : Option CString)
    (hexec : ∀ commands, ((execCommands Sim.plainDevice addon commands >>= replyAnyFailure)
      ⟨1, none⟩).May D post g) : (smsexecn sdid addon ⟨1, some ctx⟩).May D post g := by
  refine may_bind (may_readBody _ _ _ rfl rfl fun commands _ ↦ may_bind ?_)
  refine may_getSDinfo _ (may_ite_neg (fun hfailed ↦ hfailed rfl) ?_)
  exact may_bind (may_releaseBdCtx (hexec _))

end Lookup

section Replying

variable {say : G → G} [hhears : Hears D say]

theorem may_internalSendUserMessage (library : Library) (result : Option CString) (status : CString)
    (message code : Option CString) {post : Unit × Client → G → Prop}
    (hpost : post ((), ⟨1, dbCtx⟩) (say g)) :
    (internalSendUserMessage library result status message code ⟨1, dbCtx⟩).May D post g := by
  unfold internalSendUserMessage
  exact may_bind (may_get (may_ite_pos rfl (may_bind (hhears.written _ hpost))))

variable [Lenient D]

theorem may_smsSendUserError (result : Option CString) (error : Int)
    {post : Unit × Client → G → Prop} (hpost : post ((), ⟨1, dbCtx⟩) (say g)) :
    (smsSendUserError result error ⟨1, dbCtx⟩).May D post g :=
  may_bind (may_ask .library trivial Sim.library
    (may_internalSendUserMessage _ _ _ _ _ hpost))

theorem may_smsSendUserOkEx (result message : Option CString)
    {post : Unit × Client → G → Prop} (hpost : post ((), ⟨1, dbCtx⟩) (say g)) :
    (smsSendUserOkEx result message ⟨1, dbCtx⟩).May D post g :=
  may_bind (may_ask .library trivial Sim.library
    (may_internalSendUserMessage _ _ _ _ _ hpost))

end Replying

/-- Handlers without parameters. -/
theorem hasParams_or (va : VerbAction) (hva : va ∈ verbTab) : va.hasParams = 1 ∨
    va.doVerb ∈ [.doImmediateSaveConf, .doIsAlive, .doListVerb, .doPS, .doReinitLogs, .doStat] := by
  revert va
  decide

/-- A property of requests that the handlers without parameters do not have. -/
theorem hasParams_of_property {property : Handler → Bool}
    (hnone : ∀ handler ∈ [.doImmediateSaveConf, .doIsAlive, .doListVerb, .doPS, .doReinitLogs, .doStat],
      property handler = false) {va : VerbAction} (hva : va ∈ verbTab)
    (hproperty : property va.doVerb = true) : va.hasParams = 1 := by
  rcases hasParams_or va hva with hparams | hhandler
  · exact hparams
  · rw [hnone va.doVerb hhandler] at hproperty
    cases hproperty

end CoreEngine.Smsd
