import CoreEngine.Smsd.Discipline

/-!
# Monitors that look away

A monitor that watches one resource ignores the operations on the others. Such a monitor satisfies
the disciplines of the other resources, for every assertion that does not mention them.
-/

namespace CoreEngine.Smsd

open Interaction
open Procedure (lift Stable Triple triple_bind triple_call triple_lift triple_pure)
open Program (Only only_perform)

/-- Operations on the context pool and on contexts, and plain ones, with calls up to the given rank. -/
def Op.OnDatabase (rank : ℕ) : Op → Prop
  | .findCtx .. | .releaseCtx _ | .storeDbCtx .. | .allocateContext .. => True
  | .sql _ query => query.rank ≤ rank
  | op => op.Plain

/-- Operations on the context pool, and plain ones. -/
def Op.OnPool : Op → Prop
  | .findCtx .. | .releaseCtx _ | .storeDbCtx .. => True
  | op => op.Plain

def Op.OnSocket : Op → Prop
  | .socketReadLine .. | .socketWrite .. | .socketClose _ | .doSnmpGet .. | .doSnmpGetNext .. => True
  | _ => False

def Op.OnScript : Op → Prop
  | .scriptStart _ | .scriptStep | .phpReturn _ => True
  | _ => False

variable {rank : ℕ}

theorem Op.Plain.onDatabase {op : Op} (hop : op.Plain) : op.OnDatabase rank := by
  cases op <;> first | exact hop | trivial

theorem Op.OnPool.onDatabase {op : Op} (hop : op.OnPool) : op.OnDatabase rank := by
  cases op <;> first | exact hop | trivial

theorem Op.OnCtx.onDatabase {ctx : Ctx} {op : Op} (hop : op.OnCtx rank ctx) :
    op.OnDatabase rank := by
  cases op <;> first | exact hop | exact hop.2 | trivial

theorem Op.OnDatabase.mono {op : Op} {rank' : ℕ} (hop : op.OnDatabase rank) (hrank : rank ≤ rank') :
    op.OnDatabase rank' := by
  cases op <;> first | exact hop | exact Nat.le_trans hop hrank

instance : Roomy (Op.OnDatabase rank) := ⟨fun hop ↦ hop.onDatabase⟩

instance : Roomy Op.OnPool := ⟨fun {op} hop ↦ by cases op <;> first | exact hop | trivial⟩

instance (db : Db) (caller : Caller) : Only signature Op.OnPool (findCtx db caller) := only_perform trivial

instance (ctx : Option Ctx) : Only signature Op.OnPool (releaseCtx ctx) := only_perform trivial

instance (old new : Option Ctx) : Only signature Op.OnPool (ask (.storeDbCtx old new)) :=
  only_perform trivial

instance (db : Db) (caller : Caller) : Only signature (Op.OnDatabase rank) (findCtx db caller) :=
  only_perform trivial

instance (ctx : Option Ctx) : Only signature (Op.OnDatabase rank) (releaseCtx ctx) :=
  only_perform trivial

theorem only_onDatabase (ctx : Ctx) {α : Type} (code : Code α) [hcode : CtxCode rank ctx code] :
    Only signature (Op.OnDatabase rank) code :=
  hcode.mono fun _ hop ↦ hop.onDatabase

section Indifferent

variable {G : Type} {D : Monitor signature G} {inv : Client → G → Prop}

theorem stable_ask_of_keeps {op : Op} (hop : D.Keeps inv op) : Stable D inv (lift (ask op)) :=
  ⟨triple_call (fun csp g hinv ↦ (hop csp g hinv).1) fun csp g answer hinv ↦ (hop csp g hinv).2 answer⟩

/-- The loop of a wrapper: what lost calls keep holds until a call is not lost, or the daemon is shutting
down. -/
theorem safe_retry_of_inv {ctx : Ctx} {db : Db} {query : Sql} {g : G} {post : Reply query.Output → G → Prop}
     (inv : G → Prop) (hshutdown : D.Ignores .readShutdown)
    (hallocate : D.Ignores (.allocateContext ctx db))
    (hcall : ∀ g, inv g → D.allow g (.sql ctx query) ∧ ∀ reply, D.expect g (.sql ctx query) reply →
      if reply.ret = errDbConnectionLost then inv (D.next g (.sql ctx query) reply) ∧
        post ⟨errDbFailed, reply.output⟩ (D.next g (.sql ctx query) reply)
      else post reply (D.next g (.sql ctx query) reply)) (hinv : inv g) :
    (retry ctx db query).Safe D post g := by
  apply Program.safe_loop (fun _ ↦ inv) _ hinv
  intro _ g hinv
  obtain ⟨hallow, hreply⟩ := hcall g hinv
  unfold attempt
  rw [Program.safe_bind]
  refine ⟨hallow, fun reply hexpect ↦ ?_⟩
  have hnext := hreply reply hexpect
  show Program.Safe D (if reply.ret = errDbConnectionLost then _ else _) _ _
  by_cases hlost : reply.ret = errDbConnectionLost
  · rw [if_pos hlost] at hnext ⊢
    refine ⟨(hallocate _).1, fun answer _ ↦ ?_⟩
    rw [(hallocate _).2 answer]
    refine ⟨(hshutdown _).1, fun shutdownRequired _ ↦ ?_⟩
    rw [(hshutdown _).2 shutdownRequired]
    cases shutdownRequired with
    | true => exact hnext.2
    | false => exact hnext.1
  · rw [if_neg hlost] at hnext ⊢
    exact hnext

theorem stable_ask_of_ignores {op : Op} (hop : D.Ignores op) : Stable D inv (lift (ask op)) :=
  stable_ask_of_keeps hop.keeps

theorem plainDiscipline_of_keeps (hops : ∀ op : Op, op.Plain → D.Keeps inv op) : PlainDiscipline D inv :=
  ⟨fun _ hcode ↦ hcode.stable_of_keeps hops⟩

theorem plainDiscipline_of_ignores (hops : ∀ op : Op, op.Plain → D.Ignores op) :
    PlainDiscipline D inv :=
  plainDiscipline_of_keeps fun op hop ↦ (hops op hop).keeps

theorem replyDiscipline_of_ignores (hop : D.Ignores .replied) : ReplyDiscipline D inv :=
  ⟨stable_ask_of_ignores hop⟩

theorem stackDiscipline_of_ignores (hop : D.Ignores .uninitialised) : StackDiscipline D inv :=
  ⟨stable_ask_of_ignores hop⟩

theorem countDiscipline_of_keeps (hops : ∀ counter, D.Keeps inv (.countUp counter)) : CountDiscipline D inv :=
  ⟨fun counter ↦ stable_ask_of_keeps (hops counter)⟩

theorem countDiscipline_of_ignores (hops : ∀ counter, D.Ignores (.countUp counter)) : CountDiscipline D inv :=
  countDiscipline_of_keeps fun counter ↦ (hops counter).keeps

theorem scriptDiscipline_of_keeps (hops : ∀ op : Op, op.OnScript → D.Keeps inv op) :
    ScriptDiscipline D inv where
  start _ := stable_ask_of_keeps (hops _ trivial)
  step := stable_ask_of_keeps (hops _ trivial)
  answer _ := stable_ask_of_keeps (hops _ trivial)

theorem scriptDiscipline_of_ignores (hops : ∀ op : Op, op.OnScript → D.Ignores op) :
    ScriptDiscipline D inv :=
  scriptDiscipline_of_keeps fun op hop ↦ (hops op hop).keeps

theorem connectionDiscipline_of_keeps (hops : ∀ op : Op, op.OnSocket → D.Keeps inv op) :
    ConnectionDiscipline D inv := by
  have hask (op : Op) (hop : op.OnSocket) : Stable D inv (lift (ask op)) :=
    stable_ask_of_keeps (hops op hop)
  refine ⟨fun size timeout ↦ ?_, fun bytes ↦ ?_, fun oid ↦ ?_, fun oid ↦ ?_⟩
  · have hread (fd : Int) := hask (.socketReadLine fd size timeout) trivial
    unfold socketReadLine
    infer_instance
  · have hwrite (fd : Int) := hask (.socketWrite fd bytes) trivial
    unfold socketWrite
    infer_instance
  · have hget (fd : Int) := hask (.doSnmpGet oid fd) trivial
    unfold doSnmpGet
    infer_instance
  · have hget (fd : Int) := hask (.doSnmpGetNext oid fd) trivial
    unfold doSnmpGetNext
    infer_instance

theorem socketDiscipline_of_keeps (hops : ∀ op : Op, op.OnSocket → D.Keeps inv op)
    (hinv : ∀ csp fd g, inv csp g → inv { csp with cfd := fd } g) : SocketDiscipline D inv := by
  have hclose (fd : Int) : Stable D inv (lift (ask (.socketClose fd))) :=
    stable_ask_of_keeps (hops _ trivial)
  have hforget : Stable D inv (modify fun csp ↦ { csp with cfd := -1 }) :=
    Procedure.stable_modify fun csp g ↦ hinv csp (-1) g
  refine { connectionDiscipline_of_keeps hops with close := ?_ }
  unfold closeUserSocket
  infer_instance

theorem socketDiscipline_of_ignores (hops : ∀ op : Op, op.OnSocket → D.Ignores op)
    (hinv : ∀ csp fd g, inv csp g → inv { csp with cfd := fd } g) : SocketDiscipline D inv :=
  socketDiscipline_of_keeps (fun op hop ↦ (hops op hop).keeps) hinv

section Pool

variable (hinv : ∀ csp ctx g, inv csp g → inv { csp with dbCtx := ctx } g)

/-- What holds of code on every context holds of code on the context of `csp`. -/
theorem triple_useDbCtx_of_pool (hops : ∀ op : Op, op.OnPool → D.Ignores op) {α : Type}
    {body : Ctx → Code α} {pre : G → Prop} {post : α → G → Prop}
    (hbody : ∀ ctx g, pre g → (body ctx).Safe D post g) :
    Triple D (fun _ ↦ pre) (useDbCtx body) fun value _ ↦ post value := by
  intro csp g hpre
  obtain ⟨cfd, dbCtx⟩ := csp
  have huse : Triple D (fun _ : Client ↦ pre) (lift (dbCtx.elim nullDereference body))
      fun value _ ↦ post value := by
    refine triple_lift fun _ g hpre ↦ ?_
    cases dbCtx with
    | none =>
      have hnull : Op.nullDereference.OnPool := trivial
      exact ⟨(hops _ hnull g).1, fun answer ↦ answer.elim⟩
    | some ctx => exact hbody ctx g hpre
  exact huse ⟨cfd, dbCtx⟩ g hpre

variable (hops : ∀ op : Op, op.OnPool → D.Keeps inv op)

include hops hinv

theorem stable_storeDbCtx_of_keeps (ctx : Option Ctx) : Stable D inv (storeDbCtx ctx) := by
  have hlift {α : Type} (code : Code α) [hcode : Only signature Op.OnPool code] :
      Stable D inv (lift code) := hcode.stable_of_keeps hops
  have hmodify : Stable D inv (modify fun csp ↦ { csp with dbCtx := ctx }) :=
    Procedure.stable_modify fun csp g ↦ hinv csp ctx g
  unfold storeDbCtx
  infer_instance

theorem stable_releaseBdCtx_of_keeps : Stable D inv releaseBdCtx := by
  have hlift {α : Type} (code : Code α) [hcode : Only signature Op.OnPool code] :
      Stable D inv (lift code) := hcode.stable_of_keeps hops
  have hstore := stable_storeDbCtx_of_keeps hinv hops
  unfold releaseBdCtx
  infer_instance

theorem stable_ensureDbCtx_of_keeps (keeper : Keeper) : Stable D inv (ensureDbCtx keeper) := by
  have hlift {α : Type} (code : Code α) [hcode : Only signature Op.OnPool code] :
      Stable D inv (lift code) := hcode.stable_of_keeps hops
  have hstore := stable_storeDbCtx_of_keeps hinv hops
  unfold ensureDbCtx
  infer_instance

end Pool

/-- What holds of code on every context holds of code that borrows one. -/
theorem triple_borrowDbCtx_of_pool (hops : ∀ op : Op, op.OnPool → D.Ignores op) {α : Type}
    {borrower : Borrower} {body : Ctx → Code α} {pre : G → Prop} {post : α → G → Prop}
    (hbody : ∀ ctx g, pre g → (body ctx).Safe D post g) :
    Triple D (fun _ ↦ pre) (borrowDbCtx borrower body) fun value _ ↦ post value := by
  have hlift {inv : G → Prop} {α : Type} (code : Code α) [hcode : Only signature Op.OnPool code] :
      Stable D (fun _ : Client ↦ inv) (lift code) :=
    hcode.stable_of_keeps fun op hop ↦ (hops op hop).keeps
  have hstore {inv : G → Prop} (ctx : Option Ctx) : Stable D (fun _ ↦ inv) (storeDbCtx ctx) :=
    stable_storeDbCtx_of_keeps (fun _ _ _ hpre ↦ hpre) (fun op hop ↦ (hops op hop).keeps) ctx
  intro csp g hpre
  obtain ⟨cfd, dbCtx⟩ := csp
  cases dbCtx with
  | some ctx =>
    have huse : Triple D (fun _ : Client ↦ pre) (lift (body ctx)) fun value _ ↦ post value :=
      triple_lift fun _ g ↦ hbody ctx g
    exact huse ⟨cfd, some ctx⟩ g hpre
  | none =>
    have hborrow : Triple D (fun _ ↦ pre) (do
        let ctx ← lift (findCtx .sms (.borrower borrower))
        storeDbCtx (some ctx)
        let value ← lift (body ctx)
        lift (releaseCtx (some ctx))
        pure value : M α) fun value _ ↦ post value := by
      refine triple_bind Stable.triple fun ctx ↦ triple_bind (hstore (some ctx)).triple fun _ ↦ ?_
      refine triple_bind (triple_lift fun _ g ↦ hbody ctx g) fun value ↦ ?_
      exact triple_bind Stable.triple fun _ ↦ triple_pure value fun _ _ hpost ↦ hpost
    exact hborrow ⟨cfd, none⟩ g hpre

/-- A verb with one parameter, on an argument that is long enough for it. -/
theorem triple_dispatch_of_pool (hops : ∀ op : Op, op.OnPool → D.Ignores op) {va : VerbAction} {arg : CString}
    {pre post : G → Prop} (hparams : va.hasParams = 1)
    (hverb : 4 ≤ arg.length → Triple D (fun _ ↦ pre) (va.doVerb.run arg) fun _ _ ↦ post)
    (hshort : ∀ g, pre g → post g) : Triple D (fun _ ↦ pre) (dispatch va arg) fun _ _ ↦ post := by
  have hfind : Stable D (fun _ : Client ↦ pre) (lift (findCtx .sms (.keeper .checkVerb))) :=
    Only.stable_of_keeps (inferInstance : Only signature Op.OnPool _) fun op hop ↦ (hops op hop).keeps
  have hstore (ctx : Option Ctx) : Stable D (fun _ ↦ pre) (storeDbCtx ctx) :=
    stable_storeDbCtx_of_keeps (fun _ _ _ hpre ↦ hpre) (fun op hop ↦ (hops op hop).keeps) ctx
  have hrelease : Stable D (fun _ ↦ post) releaseBdCtx :=
    stable_releaseBdCtx_of_keeps (fun _ _ _ hpost ↦ hpost) fun op hop ↦ (hops op hop).keeps
  have hfinish : Stable D (fun _ ↦ post) dispatch.finish := by
    unfold dispatch.finish
    infer_instance
  unfold dispatch
  rw [if_pos (by rw [hparams]; decide)]
  apply Procedure.triple_ite
  · exact fun _ ↦ triple_pure _ fun _ ↦ hshort
  · intro hlong
    have harg : 4 ≤ arg.length := by
      by_contra hnot
      exact hlong ⟨hparams, Nat.lt_of_not_le hnot⟩
    apply triple_bind hfind.triple
    intro ctx
    apply triple_bind (hstore (some ctx)).triple
    intro _
    apply triple_bind (hverb harg)
    intro _
    exact hfinish.triple

section Database

variable (hops : ∀ op : Op, op.OnDatabase rank → D.Keeps inv op)
  (hinv : ∀ csp ctx g, inv csp g → inv { csp with dbCtx := ctx } g)

include hops

theorem stable_useDbCtx_of_keeps {α : Type} {body : Ctx → Code α}
    (hbody : ∀ ctx, Only signature (Op.OnDatabase rank) (body ctx)) :
    Stable D inv (useDbCtx body) := by
  have hlift {α : Type} (code : Code α) [hcode : Only signature (Op.OnDatabase rank) code] :
      Stable D inv (lift code) := hcode.stable_of_keeps hops
  have helim (ctx : Option Ctx) :
      Only signature (Op.OnDatabase rank) (ctx.elim nullDereference body) := by
    cases ctx with
    | none => exact inferInstanceAs (Only signature _ nullDereference)
    | some ctx => exact hbody ctx
  unfold useDbCtx
  infer_instance

include hinv

theorem stable_borrowDbCtx_of_keeps {α : Type} (borrower : Borrower) {body : Ctx → Code α}
    (hbody : ∀ ctx, Only signature (Op.OnDatabase rank) (body ctx)) :
    Stable D inv (borrowDbCtx borrower body) := by
  have hlift {α : Type} (code : Code α) [hcode : Only signature (Op.OnDatabase rank) code] :
      Stable D inv (lift code) := hcode.stable_of_keeps hops
  have hstore := stable_storeDbCtx_of_keeps hinv fun op hop ↦ hops op hop.onDatabase
  have huse : Stable D inv (useDbCtx body) := stable_useDbCtx_of_keeps hops hbody
  unfold borrowDbCtx
  infer_instance

theorem queryDiscipline_of_keeps : QueryDiscipline D inv := by
  have hpool (op : Op) (hop : op.OnPool) : D.Keeps inv op := hops op hop.onDatabase
  have hlift {α : Type} (code : Code α) [hcode : Only signature (Op.OnDatabase rank) code] :
      Stable D inv (lift code) := hcode.stable_of_keeps hops
  have hbodies {α : Type} {body : Ctx → Code α} (hbody : ∀ ctx, CtxCode 0 ctx (body ctx))
      (ctx : Ctx) : Only signature (Op.OnDatabase rank) (body ctx) := by
    exact (hbody ctx).mono fun op hop ↦ hop.onDatabase.mono rank.zero_le
  refine
    { plain := fun code hcode ↦ ?_
      ensure := stable_ensureDbCtx_of_keeps hinv hpool
      release := stable_releaseBdCtx_of_keeps hinv hpool
      use := fun body hbody ↦ stable_useDbCtx_of_keeps hops (hbodies hbody)
      borrow := fun borrower body hbody ↦
        stable_borrowDbCtx_of_keeps hops hinv borrower (hbodies hbody)
      setLog := fun body hbody ↦ ?_ }
  · have hplain : Only signature (Op.OnDatabase rank) code :=
      hcode.mono fun op hop ↦ Roomy.plain hop
    infer_instance
  · have hbody := hbodies hbody
    unfold withCtx
    infer_instance

/-- A monitor that does not look at lookups either. -/
theorem contextDiscipline_of_keeps
    (hlookups : ∀ ctx query, query.isLookup = true → D.Keeps inv (.sql ctx query)) :
    ContextDiscipline D inv := by
  have hlookup {query : Sql} (hquery : query.isLookup = true) :
      Stable D inv (useDbCtx fun ctx ↦ sql ctx query) := by
    have hnull : Stable D inv (lift nullDereference : M (Reply query.Output)) :=
      Only.stable_of_keeps (inferInstance : Only signature (Op.OnDatabase rank) nullDereference) hops
    have hsql (ctx : Ctx) : Stable D inv (lift (sql ctx query)) :=
      stable_ask_of_keeps (hlookups ctx query hquery)
    have helim (ctx : Option Ctx) :
        Stable D inv (lift (ctx.elim nullDereference fun ctx ↦ sql ctx query)) := by
      cases ctx with
      | none => exact hnull
      | some ctx => exact hsql ctx
    unfold useDbCtx
    infer_instance
  exact
    { queryDiscipline_of_keeps hops hinv with
      sdInfo := fun sdid ↦ hlookup rfl
      custInfo := fun custid ↦ hlookup rfl }

end Database

theorem lockDiscipline_of_keeps (hops : ∀ op : Op, op.OnDatabase 1 → D.Keeps inv op)
    (hinv : ∀ csp ctx g, inv csp g → inv { csp with dbCtx := ctx } g) : LockDiscipline D inv := by
  have hborrow {α : Type} (borrower : Borrower) (body : Ctx → Code α)
      [hbody : ∀ ctx, Only signature (Op.OnDatabase 1) (body ctx)] :
      Stable D inv (borrowDbCtx borrower body) :=
    stable_borrowDbCtx_of_keeps hops hinv borrower hbody
  have hlift {α : Type} (code : Code α) [hcode : Only signature (Op.OnDatabase 1) code] :
      Stable D inv (lift code) := hcode.stable_of_keeps hops
  refine ⟨fun key ↦ ?_, fun key ↦ ?_, fun key ↦ ?_, fun key ↦ ?_⟩
  · have hbody (ctx : Ctx) : Only signature (Op.OnDatabase 1) (lockProvOn ctx key) :=
      only_onDatabase ctx _
    unfold lockProv
    infer_instance
  · have hset (ctx : Ctx) : Only signature (Op.OnDatabase 1) (haSmssqlSetSDprovlock ctx key 0) :=
      only_onDatabase ctx _
    have hdate (ctx : Ctx) : Only signature (Op.OnDatabase 1) (haSmssqlSetProvDate ctx key) :=
      only_onDatabase ctx _
    have hbody (ctx : Ctx) : Only signature (Op.OnDatabase 1) (unlockProvOn ctx key) := by
      unfold unlockProvOn
      infer_instance
    unfold unlockProv
    infer_instance
  · have hbody (ctx : Ctx) : Only signature (Op.OnDatabase 1) (lockSDOn ctx key) :=
      only_onDatabase ctx _
    unfold lockSD
    infer_instance
  · have hbody (ctx : Ctx) : Only signature (Op.OnDatabase 1) (haSmssqlUnLock ctx key) :=
      only_onDatabase ctx _
    unfold unlockSD
    infer_instance

section Ignored

variable (hops : ∀ op : Op, op.OnDatabase rank → D.Ignores op)
  (hinv : ∀ csp ctx g, inv csp g → inv { csp with dbCtx := ctx } g)

include hops

theorem stable_lift_of_onDatabase {α : Type} {code : Code α}
    (hcode : Only signature (Op.OnDatabase rank) code) : Stable D inv (lift code) :=
  hcode.stable_of_keeps fun op hop ↦ (hops op hop).keeps

theorem stable_doImmediateSaveConf_of_ignores : Stable D inv doImmediateSaveConf := by
  have hpasses (ctx : Ctx) :
      Only signature (Op.OnDatabase rank) (Program.loop (fun _ ↦ savePass ctx) ()) :=
    only_onDatabase ctx _
  have hsave : Stable D inv (lift
      (withCtx .sms .saveAllConf fun ctx ↦ Program.loop (fun _ ↦ savePass ctx) ())) := by
    refine stable_lift_of_onDatabase hops ?_
    unfold withCtx
    infer_instance
  unfold doImmediateSaveConf saveAllConf
  infer_instance

include hinv in
theorem stable_storeDbCtx_of_ignores (ctx : Option Ctx) : Stable D inv (storeDbCtx ctx) :=
  stable_storeDbCtx_of_keeps hinv (fun op hop ↦ (hops op hop.onDatabase).keeps) ctx

/-- Whether a context is borrowed or not makes no difference to such a monitor. -/
theorem triple_borrowDbCtx_of_ignores {α : Type} {borrower : Borrower} {body : Ctx → Code α}
    {pre : G → Prop} {post : α → G → Prop} (hbody : ∀ ctx g, pre g → (body ctx).Safe D post g) :
    Triple D (fun _ ↦ pre) (borrowDbCtx borrower body) fun value _ ↦ post value :=
  triple_borrowDbCtx_of_pool (fun op hop ↦ hops op hop.onDatabase) hbody

include hinv

theorem queryDiscipline_of_ignores : QueryDiscipline D inv :=
  queryDiscipline_of_keeps (fun op hop ↦ (hops op hop).keeps) hinv

theorem contextDiscipline_of_ignores
    (hlookups : ∀ ctx query, query.isLookup = true → D.Ignores (.sql ctx query)) :
    ContextDiscipline D inv :=
  contextDiscipline_of_keeps (fun op hop ↦ (hops op hop).keeps) hinv fun ctx query hquery ↦
    (hlookups ctx query hquery).keeps

end Ignored

theorem lockDiscipline_of_ignores (hops : ∀ op : Op, op.OnDatabase 1 → D.Ignores op)
    (hinv : ∀ csp ctx g, inv csp g → inv { csp with dbCtx := ctx } g) : LockDiscipline D inv :=
  lockDiscipline_of_keeps (fun op hop ↦ (hops op hop).keeps) hinv

/-! A monitor that does not look at the database keeps its assertion over whole requests. -/

section Requests

variable [ContextDiscipline D inv] [LockDiscipline D inv] [SocketDiscipline D inv]
  [ReplyDiscipline D inv] [ScriptDiscipline D inv] [StackDiscipline D inv] [BodyDiscipline D inv]
  [CountDiscipline D inv] (hops : ∀ op : Op, op.OnDatabase 2 → D.Ignores op)
  (hinv : ∀ csp ctx g, inv csp g → inv { csp with dbCtx := ctx } g)

include hops in
theorem stable_run_of_ignores (handler : Handler) (params : CString) :
    Stable D inv (handler.run params) := by
  by_cases hhandler : handler = .doImmediateSaveConf
  · subst hhandler
    exact stable_doImmediateSaveConf_of_ignores hops
  · exact stable_run hhandler params

include hops hinv

theorem stable_dispatch_of_ignores (va : VerbAction) (arg : CString) :
    Stable D inv (dispatch va arg) := by
  have hrun (params : CString) : Stable D inv (va.doVerb.run params) :=
    stable_run_of_ignores hops va.doVerb params
  have hfind : Stable D inv (lift (findCtx .sms (.keeper .checkVerb))) :=
    stable_lift_of_onDatabase hops inferInstance
  have hstore := stable_storeDbCtx_of_ignores hops hinv
  unfold dispatch dispatch.finish
  infer_instance

theorem stable_checkVerb_of_ignores (buf : CString) : Stable D inv (checkVerb buf) := by
  have hdispatch := stable_dispatch_of_ignores hops hinv
  unfold checkVerb
  infer_instance

end Requests

end Indifferent

end CoreEngine.Smsd
