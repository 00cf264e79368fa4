import CoreEngine.Smsd.Simulator
import CoreEngine.Smsd.Indifference

/-!
# The ledger of database contexts

A task takes contexts from the pool and gives them back. The ledger notes which contexts it has taken
and not given back, and what `csp->db_ctx` points to: a context that the request keeps, or one that a
function with the flag `release_db_ctx` has taken. These functions leave the pointer in place after the
release, and from then on it is stale.
-/

namespace CoreEngine.Smsd

open Interaction
open Procedure (lift Stable Triple triple_bind triple_ite triple_lift triple_get triple_modify triple_pure)
open Program (Only)

/-- The function stores the context it takes in `csp->db_ctx`. -/
def Caller.stores : Caller → Bool
  | .borrower _ | .keeper _ => true
  | _ => false

/-- The contexts a task holds, one entry for each time it took it; `csp->db_ctx`; and whether a function
with the flag took the context on the SMS database that was last stored there. -/
structure Account where
  held : List Ctx
  dbCtx : Option Ctx
  lent : Bool
  deriving DecidableEq, Repr

namespace Account

def empty : Account := ⟨[], none, false⟩

def find (account : Account) (db : Db) (caller : Caller) (ctx : Ctx) : Account :=
  { account with
    held := ctx :: account.held
    lent := match db, caller with
      | .sms, .borrower _ => true
      | .sms, .keeper _ => false
      | _, _ => account.lent }

def release (account : Account) (ctx : Ctx) : Account := { account with held := account.held.erase ctx }

/-- The context that the request keeps in `csp->db_ctx`, if there is one. -/
def kept (account : Account) : List Ctx := if account.lent then [] else account.dbCtx.toList

/-- The context may be used: unless one was lent, it is held. -/
def Usable (account : Account) (ctx : Ctx) : Prop := account.lent = false → ctx ∈ account.held

theorem release_find (account : Account) {caller : Caller} (hcaller : caller.stores = false) (ctx : Ctx) :
    (account.find .sms caller ctx).release ctx = account := by
  cases caller with
  | borrower borrower => exact Bool.noConfusion hcaller
  | keeper keeper => exact Bool.noConfusion hcaller
  | _ => simp [find, release]

end Account

/-- Contexts are used and released only while they are held, but for stale pointers; `csp->db_ctx` does
not lose a held context to a new one; a task that waits for the SMS database holds no context, or in
`sms_bd_set_log` the one that the request keeps. -/
def ledger : Monitor signature Account where
  allow account op := match op with
    | .findCtx .sms caller => account.held = if caller = .smsBdSetLog then account.kept else []
    | .releaseCtx (some ctx) => account.Usable ctx
    | .storeDbCtx (some old) (some _) => old ∉ account.held
    | .allocateContext ctx _ => account.Usable ctx
    | .sql ctx _ => account.Usable ctx
    | _ => True
  expect _ _ _ := True
  next account op answer := match op, answer with
    | .findCtx db caller, ctx => account.find db caller ctx
    | .releaseCtx (some ctx), _ => account.release ctx
    | .storeDbCtx _ new, _ => { account with dbCtx := new }
    | _, _ => account

section Code

variable {account : Account} {ctx : Ctx}

theorem safe_findCtx {db : Db} {caller : Caller} {post : Ctx → Account → Prop}
    (hallow : db = .sms → account.held = if caller = .smsBdSetLog then account.kept else [])
    (hpost : ∀ ctx, post ctx (account.find db caller ctx)) :
    (findCtx db caller).Safe ledger post account := by
  refine ⟨?_, fun ctx _ ↦ hpost ctx⟩
  cases db with
  | sms => exact hallow rfl
  | cust => trivial

theorem safe_releaseCtx {post : Unit → Account → Prop} (husable : account.Usable ctx)
    (hpost : post () (account.release ctx)) :
    (releaseCtx (some ctx)).Safe ledger post account :=
  ⟨husable, fun _ _ ↦ hpost⟩

/-- Code on a usable context leaves the account as it is. -/
theorem safe_ctxCode {α : Type} {code : Code α} (hcode : CtxCode 2 ctx code)
    (husable : account.Usable ctx) : code.Safe ledger (fun _ account' ↦ account' = account) account := by
  refine hcode.within.safe ?_ ?_ rfl
  · rintro op account' hop rfl
    cases op <;> first | exact hop.elim | trivial | exact hop.1 ▸ husable | exact hop ▸ husable
  · rintro op account' answer hop rfl -
    cases op <;> first | exact hop.elim | rfl

/-- A context of its own is given back, whatever the task holds besides. -/
theorem safe_withCtx {α : Type} {caller : Caller} {body : Ctx → Code α} (hcaller : caller.stores = false)
    (hallow : account.held = if caller = .smsBdSetLog then account.kept else [])
    (hbody : ∀ ctx, CtxCode 2 ctx (body ctx)) :
    (withCtx .sms caller body).Safe ledger (fun _ account' ↦ account' = account) account := by
  unfold withCtx
  rw [Program.safe_bind]
  refine safe_findCtx (fun _ ↦ hallow) fun ctx ↦ ?_
  have husable : (account.find .sms caller ctx).Usable ctx := fun _ ↦ List.mem_cons_self
  rw [Program.safe_bind]
  refine (safe_ctxCode (hbody ctx) husable).mono ?_
  rintro value account' rfl
  rw [Program.safe_bind]
  exact safe_releaseCtx husable (account.release_find hcaller ctx)

end Code

/-- No context is held but the one that the request keeps. -/
structure Balanced (csp : Client) (account : Account) : Prop where
  dbCtx : account.dbCtx = csp.dbCtx
  held : account.held = account.kept

theorem usable_of_lent (held : List Ctx) (dbCtx : Option Ctx) (ctx : Ctx) :
    Account.Usable ⟨held, dbCtx, true⟩ ctx :=
  fun hlent ↦ by cases hlent

theorem Balanced.usable {csp : Client} {account : Account} {ctx : Ctx} (hbalanced : Balanced csp account)
    (hctx : csp.dbCtx = some ctx) : account.Usable ctx := by
  intro hlent
  rw [hbalanced.held, Account.kept, hlent, hbalanced.dbCtx, hctx]
  exact List.mem_singleton_self ctx

/-- Between requests: no context is held, and `csp->db_ctx` is null. -/
structure Settled (csp : Client) (account : Account) : Prop where
  null : csp.dbCtx = none
  dbCtx : account.dbCtx = none
  held : account.held = []

theorem Settled.balanced {csp : Client} {account : Account} (hsettled : Settled csp account) :
    Balanced csp account := by
  refine ⟨hsettled.dbCtx.trans hsettled.null.symm, ?_⟩
  rw [hsettled.held, Account.kept, hsettled.dbCtx]
  simp

/-- Whoever asks for a context holds none. -/
theorem Settled.allow {csp : Client} {account : Account} (hsettled : Settled csp account) (caller : Caller) :
    account.held = if caller = .smsBdSetLog then account.kept else [] := by
  rw [← hsettled.balanced.held, hsettled.held, ite_self]

theorem Balanced.settled {csp : Client} {account : Account} (hbalanced : Balanced csp account)
    (hctx : csp.dbCtx = none) : Settled csp account := by
  have hdbCtx : account.dbCtx = none := hbalanced.dbCtx.trans hctx
  refine ⟨hctx, hdbCtx, ?_⟩
  rw [hbalanced.held, Account.kept, hdbCtx]
  simp

section Idioms

theorem triple_releaseBdCtx : Triple ledger Balanced releaseBdCtx fun _ ↦ Settled := by
  rintro ⟨cfd, _ | ctx⟩ account hbalanced
  · exact ⟨trivial, fun _ _ ↦ ⟨trivial, fun _ _ ↦ ⟨rfl, rfl, (hbalanced.settled rfl).held⟩⟩⟩
  · refine ⟨hbalanced.usable rfl, fun _ _ ↦ ⟨trivial, fun _ _ ↦ ⟨rfl, rfl, ?_⟩⟩⟩
    show account.held.erase ctx = []
    rw [hbalanced.held, Account.kept, hbalanced.dbCtx]
    cases account.lent <;> simp

theorem stable_releaseBdCtx : Stable ledger Balanced releaseBdCtx :=
  ⟨triple_releaseBdCtx.conseq (fun _ _ hbalanced ↦ hbalanced) fun _ _ _ hsettled ↦
    hsettled.balanced⟩

/-- A function takes a context and stores it. -/
def Stored (ctx : Ctx) (lent : Bool) (csp : Client) (account : Account) : Prop :=
  csp.dbCtx = some ctx ∧ account = ⟨[ctx], some ctx, lent⟩

theorem triple_take (caller : Caller) (hstores : caller.stores = true) {α : Type} {rest : Ctx → M α}
    {post : α → Client → Account → Prop}
    (hrest : ∀ ctx lent, (lent = true ↔ ∃ borrower, caller = .borrower borrower) →
      Triple ledger (Stored ctx lent) (rest ctx) post) :
    Triple ledger Settled (do
      let ctx ← lift (findCtx .sms caller)
      storeDbCtx (some ctx)
      rest ctx) post := by
  have hfind : Triple ledger Settled (lift (findCtx .sms caller)) fun ctx csp account ↦
      csp.dbCtx = none ∧ ∃ lent, (lent = true ↔ ∃ borrower, caller = .borrower borrower) ∧
        account = ⟨[ctx], none, lent⟩ := by
    refine triple_lift fun csp account hsettled ↦ safe_findCtx (fun _ ↦ hsettled.allow caller) fun ctx ↦ ?_
    refine ⟨hsettled.null, ?_⟩
    cases caller with
    | borrower borrower => exact ⟨true, by simp, by simp [Account.find, hsettled.held, hsettled.dbCtx]⟩
    | keeper keeper => exact ⟨false, by simp, by simp [Account.find, hsettled.held, hsettled.dbCtx]⟩
    | _ => exact Bool.noConfusion hstores
  refine triple_bind hfind fun ctx ↦ ?_
  rintro ⟨cfd, _⟩ _ ⟨rfl, lent, hlent, rfl⟩
  exact ⟨trivial, fun _ _ ↦ hrest ctx lent hlent _ _ ⟨rfl, rfl⟩⟩

/-- Taking a context and storing it for the request, before `rest`. -/
theorem triple_takeDbCtx {α : Type} (keeper : Keeper) {rest : M α} {post : α → Client → Account → Prop}
    (hrest : Triple ledger Balanced rest post) :
    Triple ledger Settled
      (do let ctx ← lift (findCtx .sms (.keeper keeper)); storeDbCtx (some ctx); rest) post := by
  refine triple_take (.keeper keeper) rfl fun ctx lent hlent ↦ ?_
  obtain rfl : lent = false := by simpa using hlent
  refine hrest.conseq ?_ fun _ _ _ hpost ↦ hpost
  rintro csp _ ⟨hctx, rfl⟩
  exact ⟨hctx.symm, rfl⟩

theorem stable_ensureDbCtx (keeper : Keeper) : Stable ledger Balanced (ensureDbCtx keeper) := by
  constructor
  rintro ⟨cfd, _ | ctx⟩ account hbalanced
  · have hnothing : Stable ledger Balanced (pure ()) := inferInstance
    exact triple_takeDbCtx keeper hnothing.triple _ _ (hbalanced.settled rfl)
  · exact hbalanced

theorem triple_useDbCtx {α : Type} {body : Ctx → Code α} {post : α → Account → Account → Prop}
    (hbody : ∀ ctx account, account.Usable ctx →
      (body ctx).Safe ledger (fun value ↦ post value account) account) :
    Triple ledger Balanced (useDbCtx body) fun value csp account' ↦
      ∃ account, Balanced csp account ∧ post value account account' := by
  have hget : Triple ledger Balanced get fun value csp account ↦ value = csp ∧ Balanced csp account :=
    triple_get fun csp account hbalanced ↦ ⟨rfl, hbalanced⟩
  refine triple_bind hget fun csp ↦ triple_lift ?_
  rintro _ account ⟨rfl, hbalanced⟩
  cases hctx : csp.dbCtx with
  | none => exact ⟨trivial, fun answer ↦ answer.elim⟩
  | some ctx =>
    refine (hbody ctx account (hbalanced.usable hctx)).mono fun value account' hpost ↦ ?_
    exact ⟨account, hbalanced, hpost⟩

theorem stable_useDbCtx {α : Type} {body : Ctx → Code α} (hbody : ∀ ctx, CtxCode 2 ctx (body ctx)) :
    Stable ledger Balanced (useDbCtx body) := by
  constructor
  refine (triple_useDbCtx fun ctx _ husable ↦ safe_ctxCode (hbody ctx) husable).conseq
    (fun _ _ hbalanced ↦ hbalanced) ?_
  rintro value csp account ⟨_, hbalanced, rfl⟩
  exact hbalanced

/-- `account'` is `account` with the contexts of `extra` on top. -/
def Account.Adds (extra : Option Ctx) (account account' : Account) : Prop :=
  account' = { account with held := extra.toList ++ account.held }

theorem erase_toList_append (extra : Option Ctx) (ctx : Ctx) :
    (extra.toList ++ [ctx]).erase ctx = extra.toList := by
  cases extra with
  | none => simp
  | some other => by_cases hother : other = ctx <;> simp [hother]

/-- With the flag, whatever `body` takes in addition is still held at the end. -/
theorem triple_borrowDbCtx {α : Type} (borrower : Borrower) {body : Ctx → Code α}
    (extra : α → Option Ctx) (hbody : ∀ ctx account, account.Usable ctx →
      (body ctx).Safe ledger (fun value ↦ account.Adds (extra value)) account) :
    Triple ledger Balanced (borrowDbCtx borrower body) fun value csp account' ↦
      ∃ account, Balanced csp account ∧ account.Adds (extra value) account' := by
  have hget : Triple ledger Balanced get fun value csp account ↦ value = csp ∧ Balanced csp account :=
    triple_get fun csp account hbalanced ↦ ⟨rfl, hbalanced⟩
  refine triple_bind hget fun csp ↦ triple_ite (fun hnone ↦ ?_) fun _ ↦ ?_
  · have hcall (ctx : Ctx) : Triple ledger (Stored ctx true) (lift (body ctx))
        fun value (csp : Client) account ↦
          csp.dbCtx = some ctx ∧ account = ⟨(extra value).toList ++ [ctx], some ctx, true⟩ := by
      refine triple_lift ?_
      rintro csp account ⟨hctx, rfl⟩
      exact (hbody ctx _ (usable_of_lent _ _ ctx)).mono fun value account' hadds ↦ ⟨hctx, hadds⟩
    have hrelease (ctx : Ctx) (value : α) : Triple ledger
        (fun (csp : Client) account ↦
          csp.dbCtx = some ctx ∧ account = ⟨(extra value).toList ++ [ctx], some ctx, true⟩)
        (lift (releaseCtx (some ctx))) fun _ csp account' ↦
          ∃ account, Balanced csp account ∧ account.Adds (extra value) account' := by
      refine triple_lift ?_
      rintro csp account ⟨hctx, rfl⟩
      refine safe_releaseCtx (usable_of_lent _ _ ctx) ⟨⟨[], some ctx, true⟩, ⟨hctx.symm, rfl⟩, ?_⟩
      simp [Account.release, Account.Adds, erase_toList_append]
    have htake := triple_take (.borrower borrower) rfl fun ctx lent hlent ↦ by
      obtain rfl : lent = true := hlent.2 ⟨borrower, rfl⟩
      exact triple_bind (hcall ctx) fun value ↦ triple_bind (hrelease ctx value) fun _ ↦
        triple_pure value fun _ _ hpost ↦ hpost
    refine htake.conseq ?_ fun _ _ _ hpost ↦ hpost
    rintro _ account ⟨rfl, hbalanced⟩
    exact hbalanced.settled (Option.isNone_iff_eq_none.1 hnone)
  · refine (triple_useDbCtx hbody).conseq ?_ fun _ _ _ hpost ↦ hpost
    rintro _ account ⟨-, hbalanced⟩
    exact hbalanced

theorem stable_borrowDbCtx {α : Type} (borrower : Borrower) {body : Ctx → Code α}
    (hbody : ∀ ctx, CtxCode 2 ctx (body ctx)) :
    Stable ledger Balanced (borrowDbCtx borrower body) := by
  constructor
  refine (triple_borrowDbCtx borrower (fun _ ↦ none) fun ctx account husable ↦ ?_).conseq
    (fun _ _ hbalanced ↦ hbalanced) ?_
  · exact safe_ctxCode (hbody ctx) husable
  · rintro value csp account ⟨_, hbalanced, rfl⟩
    exact hbalanced

theorem safe_unlockProvOn (key : SdKey) {ctx : Ctx} {account : Account} (husable : account.Usable ctx) :
    (unlockProvOn ctx key).Safe ledger (fun result ↦ account.Adds (some result.2)) account := by
  unfold unlockProvOn
  rw [Program.safe_bind]
  refine safe_findCtx nofun fun dbCust ↦ ?_
  have hlent : (account.find .cust (.borrower .unlockProv) dbCust).lent = account.lent := by
    simp [Account.find]
  have hctx : (account.find .cust (.borrower .unlockProv) dbCust).Usable ctx := by
    intro hfalse
    exact List.mem_cons_of_mem _ (husable (hlent ▸ hfalse))
  have hcust : (account.find .cust (.borrower .unlockProv) dbCust).Usable dbCust :=
    fun _ ↦ List.mem_cons_self
  rw [Program.safe_bind]
  refine (safe_ctxCode inferInstance hctx).mono ?_
  rintro _ _ rfl
  rw [Program.safe_bind]
  refine (safe_ctxCode inferInstance hcust).mono ?_
  rintro set _ rfl
  simp [Program.Safe, Account.Adds, Account.find]

/-- The context on the customer database is taken inside and released after the other one. -/
theorem stable_unlockProv (key : SdKey) : Stable ledger Balanced (unlockProv key) := by
  constructor
  have hborrow := triple_borrowDbCtx .unlockProv (fun result : Int × Ctx ↦ some result.2)
    fun ctx account husable ↦ safe_unlockProvOn key husable
  refine triple_bind hborrow fun result ↦ ?_
  refine triple_bind (triple_lift fun csp account hpre ↦ ?_) fun _ ↦
    triple_pure result.1 fun _ _ hpost ↦ hpost
  obtain ⟨before, hbalanced, rfl⟩ := hpre
  refine safe_releaseCtx (fun _ ↦ List.mem_cons_self) ?_
  simpa [Account.release] using hbalanced

theorem stable_setLog {α : Type} {body : Ctx → Code α} (hbody : ∀ ctx, CtxCode 2 ctx (body ctx)) :
    Stable ledger Balanced (lift (withCtx .sms .smsBdSetLog body)) := by
  refine ⟨triple_lift fun csp account hbalanced ↦ ?_⟩
  refine (safe_withCtx rfl hbalanced.held hbody).mono ?_
  rintro _ _ rfl
  exact hbalanced

end Idioms

section Instances

variable {inv : Client → Account → Prop}

theorem ledger_ignores_plain {op : Op} (hop : op.Plain) : ledger.Ignores op := by
  intro account
  cases op <;> first | exact hop.elim | exact ⟨trivial, fun _ ↦ rfl⟩

theorem ledger_ignores_socket {op : Op} (hop : op.OnSocket) : ledger.Ignores op := by
  intro account
  cases op <;> first | exact hop.elim | exact ⟨trivial, fun _ ↦ rfl⟩

instance : PlainDiscipline ledger inv := plainDiscipline_of_ignores fun _ ↦ ledger_ignores_plain

instance : CountDiscipline ledger inv := countDiscipline_of_ignores fun _ _ ↦ ⟨trivial, fun _ ↦ rfl⟩

instance : ReplyDiscipline ledger inv :=
  replyDiscipline_of_ignores fun _ ↦ ⟨trivial, fun _ ↦ rfl⟩

instance : ScriptDiscipline ledger inv := by
  refine scriptDiscipline_of_ignores fun op hop account ↦ ?_
  cases op <;> first | exact hop.elim | exact ⟨trivial, fun _ ↦ rfl⟩

instance : SocketDiscipline ledger Balanced :=
  socketDiscipline_of_ignores (fun _ ↦ ledger_ignores_socket) fun _ _ _ hbalanced ↦ ⟨hbalanced.dbCtx, hbalanced.held⟩

instance : SocketDiscipline ledger Settled :=
  socketDiscipline_of_ignores (fun _ ↦ ledger_ignores_socket)
    fun _ _ _ hsettled ↦ ⟨hsettled.null, hsettled.dbCtx, hsettled.held⟩

instance : StackDiscipline ledger inv := stackDiscipline_of_ignores fun _ ↦ ⟨trivial, fun _ ↦ rfl⟩

instance : BodyDiscipline ledger inv := ⟨fun _ _ _ ↦ trivial⟩

instance : ContextDiscipline ledger Balanced where
  plain code hcode := PlainDiscipline.plain code hcode
  ensure := stable_ensureDbCtx
  release := stable_releaseBdCtx
  use _ hbody := stable_useDbCtx fun ctx ↦ ctxCode_mono (hbody ctx) (Nat.zero_le 2)
  borrow borrower _ hbody := stable_borrowDbCtx borrower fun ctx ↦ ctxCode_mono (hbody ctx) (Nat.zero_le 2)
  setLog _ hbody := stable_setLog fun ctx ↦ ctxCode_mono (hbody ctx) (Nat.zero_le 2)
  sdInfo _ := stable_useDbCtx fun _ ↦ inferInstance
  custInfo _ := stable_useDbCtx fun _ ↦ inferInstance

instance : LockDiscipline ledger Balanced where
  lockProv key := stable_borrowDbCtx .lockProv inferInstance
  unlockProv := stable_unlockProv
  lockSD key := by
    have hborrow : Stable ledger Balanced (borrowDbCtx .lockSD (lockSDOn · key)) :=
      stable_borrowDbCtx .lockSD inferInstance
    unfold lockSD
    infer_instance
  unlockSD key := by
    have hborrow : Stable ledger Balanced (borrowDbCtx .unlockSD (haSmssqlUnLock · key)) :=
      stable_borrowDbCtx .unlockSD inferInstance
    unfold unlockSD
    infer_instance

end Instances

section Jobs

theorem triple_finish : Triple ledger Balanced dispatch.finish fun _ ↦ Settled := by
  rintro ⟨cfd, _ | ctx⟩ account hbalanced
  · exact hbalanced.settled rfl
  · exact triple_releaseBdCtx ⟨cfd, some ctx⟩ account hbalanced

theorem stable_withCtx {α : Type} {caller : Caller} {body : Ctx → Code α}
    (hcaller : caller.stores = false) (hbody : ∀ ctx, CtxCode 2 ctx (body ctx)) :
    Stable ledger Settled (lift (withCtx .sms caller body)) := by
  refine ⟨triple_lift fun csp account hsettled ↦ ?_⟩
  refine (safe_withCtx hcaller (hsettled.allow caller) hbody).mono ?_
  rintro _ _ rfl
  exact hsettled

theorem stable_saveAllConf : Stable ledger Settled saveAllConf := by
  have hpass : Stable ledger Settled
      (lift (withCtx .sms .saveAllConf fun ctx ↦ Program.loop (fun _ ↦ savePass ctx) ())) :=
    stable_withCtx rfl inferInstance
  unfold saveAllConf
  infer_instance

theorem stable_scanUpdated : Stable ledger Settled scanUpdated := by
  have hpass : Stable ledger Settled
      (lift (withCtx .sms .scanUpdated fun ctx ↦ Program.loop (fun _ ↦ updatePass ctx) ())) :=
    stable_withCtx rfl inferInstance
  unfold scanUpdated
  infer_instance

/-- The one handler that takes a context of its own is listed without parameters, and so it starts
without a context in `csp`. -/
theorem hasParams_of_doImmediateSaveConf :
    ∀ va ∈ verbTab, va.doVerb = .doImmediateSaveConf → va.hasParams = 0 := by
  decide

theorem triple_run_settled {va : VerbAction} (params : CString) :
    Triple ledger Settled (va.doVerb.run params) fun _ ↦ Balanced := by
  by_cases hhandler : va.doVerb = .doImmediateSaveConf
  · rw [hhandler]
    have hsave := stable_saveAllConf
    have hrun : Stable ledger Settled (Handler.doImmediateSaveConf.run params) := by
      unfold Handler.run doImmediateSaveConf
      infer_instance
    exact hrun.triple.conseq (fun _ _ hsettled ↦ hsettled) fun _ _ _ hsettled ↦ hsettled.balanced
  · exact (stable_run hhandler params).triple.conseq (fun _ _ hsettled ↦ hsettled.balanced)
      fun _ _ _ hbalanced ↦ hbalanced

theorem triple_dispatch {va : VerbAction} (hva : va ∈ verbTab) (arg : CString) :
    Triple ledger Settled (dispatch va arg) fun _ ↦ Settled := by
  unfold dispatch
  refine triple_ite (fun hparams ↦ triple_ite (fun _ ↦ ?_) fun _ ↦ ?_) fun _ ↦ ?_
  · exact triple_pure () fun _ _ hsettled ↦ hsettled
  · have hhandler : va.doVerb ≠ .doImmediateSaveConf := fun hsave ↦
      hparams (hasParams_of_doImmediateSaveConf va hva hsave)
    have hrun : Stable ledger Balanced (va.doVerb.run arg) := stable_run hhandler arg
    exact triple_takeDbCtx .checkVerb (triple_bind hrun.triple fun _ ↦ triple_finish)
  · exact triple_bind (triple_run_settled _) fun _ ↦ triple_finish

theorem triple_checkVerb (buf : CString) : Triple ledger Settled (checkVerb buf) fun _ ↦ Settled := by
  unfold checkVerb
  cases hfind : verbTab.find? fun va ↦ va.verb = CString.toupper (splitLine buf).1 with
  | none =>
    have hrefuse : Stable ledger Settled
        (if CString.toupper (splitLine buf).1 ≠ "WAKE_UP_SMS".toList then do
          let _ ← sendError (some ['\x00']) errVerbUnknwn
          pure ()
        else pure ()) := inferInstance
    exact hrefuse.triple
  | some va => exact triple_dispatch (List.mem_of_find?_eq_some hfind) _

theorem triple_recordUpdate (sdid : CString) (ret : Int) :
    Triple ledger Balanced (recordUpdate sdid ret) fun _ ↦ Settled := by
  unfold recordUpdate
  refine triple_ite (fun _ ↦ triple_ite (fun _ ↦ ?_) fun _ ↦ triple_ite (fun _ ↦ ?_) fun _ ↦ ?_)
    fun _ ↦ ?_
  · exact triple_bind Stable.triple fun _ ↦ triple_releaseBdCtx
  · exact triple_bind Stable.triple fun _ ↦ triple_bind Stable.triple fun _ ↦ triple_releaseBdCtx
  · exact triple_releaseBdCtx
  · exact triple_releaseBdCtx

theorem triple_updateTask (sd : SdLike) : Triple ledger Settled (updateTask sd) fun _ ↦ Settled := by
  have hend (sdid : CString) (ret : Int) :
      Triple ledger Balanced (do recordUpdate sdid ret; pure 0) fun _ : Int ↦ Settled :=
    triple_bind (triple_recordUpdate sdid ret) fun _ ↦ triple_pure 0 fun _ _ hsettled ↦ hsettled
  have hrecord (sdid : CString) (ret : Int) : Triple ledger Balanced
      (do ensureDbCtx .updateTask; recordUpdate sdid ret; pure 0) fun _ : Int ↦ Settled :=
    triple_bind Stable.triple fun _ ↦ hend sdid ret
  unfold updateTask
  refine triple_takeDbCtx .updateTask (triple_bind Stable.triple fun info ↦ ?_)
  refine triple_ite (fun _ ↦ hend _ _) fun _ ↦ triple_ite (fun _ ↦ ?_) fun _ ↦ ?_
  · exact triple_bind Stable.triple fun ret ↦ hrecord _ ret
  · exact hrecord _ _

theorem stable_smsBdSetLog_settled (info : SdInfo) (message level reference : Option CString) :
    Stable ledger Settled (smsBdSetLog info message level reference) := by
  have hwith {α : Type} (body : Ctx → Code α) [hbody : ∀ ctx, CtxCode 2 ctx (body ctx)] :
      Stable ledger Settled (lift (withCtx .sms .smsBdSetLog body)) := stable_withCtx rfl hbody
  unfold smsBdSetLog
  infer_instance

theorem stable_saveConfTask (sd : SdLike) : Stable ledger Settled (saveConfTask sd) := by
  have hsave (flag : CString) : Stable ledger Settled (saveRunningConf sd flag) :=
    stable_saveRunningConf_of_log stable_smsBdSetLog_settled sd flag
  unfold saveConfTask
  infer_instance

/-- What the scheduler runs. A request comes with a client context that has no database context yet;
the other jobs have no client. -/
inductive Job
  | checkVerb (cfd : Int) (line : CString)
  | updateTask (sd : SdLike)
  | scanUpdated
  | saveAllConf
  | saveConfTask (sd : SdLike)
  deriving DecidableEq, Repr

/-- The code of a job; its result is not used. -/
def Job.code : Job → Code Client
  | .checkVerb cfd line => Prod.snd <$> Smsd.checkVerb line ⟨cfd, none⟩
  | .updateTask sd => Prod.snd <$> Smsd.updateTask sd ⟨-1, none⟩
  | .scanUpdated => Prod.snd <$> Smsd.scanUpdated ⟨-1, none⟩
  | .saveAllConf => Prod.snd <$> Smsd.saveAllConf ⟨-1, none⟩
  | .saveConfTask sd => Prod.snd <$> Smsd.saveConfTask sd ⟨-1, none⟩

theorem Job.safe (job : Job) : job.code.Safe ledger Settled .empty := by
  have hempty (cfd : Int) : Settled ⟨cfd, none⟩ .empty := ⟨rfl, rfl, rfl⟩
  cases job with
  | checkVerb cfd line => exact (Program.safe_bind _ _ _ _).2 (triple_checkVerb line _ _ (hempty cfd))
  | updateTask sd => exact (Program.safe_bind _ _ _ _).2 (triple_updateTask sd _ _ (hempty (-1)))
  | scanUpdated =>
    exact (Program.safe_bind _ _ _ _).2 (stable_scanUpdated.triple _ _ (hempty (-1)))
  | saveAllConf =>
    exact (Program.safe_bind _ _ _ _).2 (stable_saveAllConf.triple _ _ (hempty (-1)))
  | saveConfTask sd =>
    exact (Program.safe_bind _ _ _ _).2 ((stable_saveConfTask sd).triple _ _ (hempty (-1)))

end Jobs

section Runs

open Program (Run Offers)

theorem meets_ledger (account : Account) (trace : List (Event signature)) :
    ledger.Meets account trace :=
  ledger.meets_of_expect (fun _ _ _ ↦ trivial) account trace

/-- The contexts that a task has taken and not given back. -/
def heldAfter (trace : List (Event signature)) : List Ctx := (ledger.after .empty trace).held

/-- What was held and is held no more has been released. -/
theorem release_mem {ctx : Ctx} {account : Account} {trace : List (Event signature)}
    (hheld : ctx ∈ account.held) (hafter : (ledger.after account trace).held = []) :
    (⟨.releaseCtx (some ctx), ()⟩ : Event signature) ∈ trace := by
  induction trace generalizing account with
  | nil =>
    have hnil : account.held = [] := hafter
    rw [hnil] at hheld
    cases hheld
  | cons event trace ih =>
    obtain ⟨op, answer⟩ := event
    by_cases hop : op = .releaseCtx (some ctx)
    · subst hop
      exact List.mem_cons_self
    · have hkept : ctx ∈ (ledger.next account op answer).held := by
        cases op with
        | findCtx db caller => exact List.mem_cons_of_mem _ hheld
        | releaseCtx released =>
          cases released with
          | none => exact hheld
          | some other =>
            have hother : ctx ≠ other := fun h ↦ hop (by rw [h])
            exact (List.mem_erase_of_ne hother).2 hheld
        | _ => exact hheld
      exact List.mem_cons_of_mem _ (ih hkept hafter)

/-- Every context that a job takes has been released when the job ends, and on the way `csp->db_ctx`
never loses a context that is still held to a new one. -/
theorem contexts_returned (job : Job) {trace : List (Event signature)} {final : Code Client}
    (hrun : Run job.code trace final) :
    (∀ csp, final = .ret csp → ∀ before db caller ctx rest,
      trace = before ++ ⟨.findCtx db caller, ctx⟩ :: rest →
        (⟨.releaseCtx (some ctx), ()⟩ : Event signature) ∈ rest) ∧
    ∀ before old new rest,
      trace = before ++ ⟨.storeDbCtx (some old) (some new), ()⟩ :: rest → old ∉ heldAfter before := by
  obtain ⟨haccepts, hfinal⟩ := hrun.safe job.safe (meets_ledger _ trace)
  constructor
  · rintro csp rfl before db caller ctx rest rfl
    have hsettled : (ledger.after .empty (before ++ ⟨.findCtx db caller, ctx⟩ :: rest)).held = [] :=
      hfinal.held
    rw [Monitor.after_append] at hsettled
    exact release_mem List.mem_cons_self hsettled
  · rintro before old new rest rfl
    rw [Monitor.accepts_append] at haccepts
    exact haccepts.2.1

theorem contexts_returned_checkUpdate :
    ((Sim.single [] []).exec 2 (Job.checkVerb 7 "CHECKUPDATE ABC123".toList).code).2.1.result? =
      some ⟨7, none⟩ ∧
    ∀ before db caller ctx rest,
      ((Sim.single [] []).exec 2 (Job.checkVerb 7 "CHECKUPDATE ABC123".toList).code).1 =
        before ++ ⟨.findCtx db caller, ctx⟩ :: rest →
      (⟨.releaseCtx (some ctx), ()⟩ : Event signature) ∈ rest := by
  have hresult : ((Sim.single [] []).exec 2
      (Job.checkVerb 7 "CHECKUPDATE ABC123".toList).code).2.1.result? = some ⟨7, none⟩ := by
    decide +kernel
  exact ⟨hresult, (contexts_returned _ (Sim.run_execUntil _ _ _ _)).1 _
    (Program.eq_ret_of_result? hresult)⟩

/-- `csp->db_ctx`. -/
def dbCtxAfter (trace : List (Event signature)) : Option Ctx := (ledger.after .empty trace).dbCtx

/-- The context in `csp->db_ctx` was taken by a function with the flag `release_db_ctx`. -/
def lentAfter (trace : List (Event signature)) : Bool := (ledger.after .empty trace).lent

/-- In every state of every run, a job that asks for a context on the SMS database holds none on it, if and
only if it does not ask from `sms_bd_set_log` while `csp->db_ctx` is a context that the request keeps. -/
theorem waits_without_context_iff (job : Job) {trace : List (Event signature)} {final : Code Client}
    (hrun : Run job.code trace final) :
    (∀ caller next, Offers final (.findCtx .sms caller) next → ∀ ctx ∈ heldAfter trace, ctx.db ≠ .sms) ↔
    ∀ next, Offers final (.findCtx .sms .smsBdSetLog) next →
      ∀ ctx ∈ dbCtxAfter trace, ctx.db = .sms → lentAfter trace = true := by
  obtain ⟨-, hfinal⟩ := hrun.safe job.safe (meets_ledger _ trace)
  have hheld {caller : Caller} {next : Ctx → Code Client} (hoffers : Offers final (.findCtx .sms caller) next) :
      heldAfter trace = if caller = .smsBdSetLog then (ledger.after .empty trace).kept else [] :=
    (hoffers.safe hfinal).1
  constructor
  · intro hall next hoffers ctx hctx hdb
    by_contra hkeeps
    rw [Bool.not_eq_true] at hkeeps
    refine hall .smsBdSetLog next hoffers ctx ?_ hdb
    rw [hheld hoffers, if_pos rfl, Account.kept, show (ledger.after .empty trace).lent = false from hkeeps]
    exact Option.mem_toList.2 hctx
  · intro hlent caller next hoffers ctx hctx hdb
    rw [hheld hoffers] at hctx
    split_ifs at hctx with hcaller
    · subst hcaller
      unfold Account.kept at hctx
      split_ifs at hctx with hkeeps
      · cases hctx
      · exact hkeeps (hlent next hoffers ctx (Option.mem_toList.1 hctx) hdb)
    · cases hctx

/-- The request has released its context when its script runs. The script locks the device, which leaves a
stale pointer behind, and writes a log. -/
theorem waits_without_context_iff_execScript :
    ∃ trace final next, Run (Job.checkVerb 7 "JSEXECSCRIPT ABC123 file".toList).code trace final ∧
      Offers final (.findCtx .sms .smsBdSetLog) next ∧ dbCtxAfter trace = some ⟨.sms, 0⟩ ∧
      ∀ ctx ∈ heldAfter trace, ctx.db ≠ .sms := by
  obtain ⟨run, heq⟩ : ∃ run, run =
    (Sim.single [] [Sim.call .smsSdLock, Sim.call (.smsBdSetLog none none none)]).execUntil
      (· = .findCtx .sms .smsBdSetLog) 2 (Job.checkVerb 7 "JSEXECSCRIPT ABC123 file".toList).code := ⟨_, rfl⟩
  have hrun : Run (Job.checkVerb 7 "JSEXECSCRIPT ABC123 file".toList).code run.1 run.2.1 := by
    rw [heq]
    exact Sim.run_execUntil _ _ _ _
  have hstate : ((Config.offer 2 run.2.1).map Sigma.fst, dbCtxAfter run.1, lentAfter run.1) =
      (some (.findCtx .sms .smsBdSetLog), some ⟨.sms, 0⟩, true) := by
    rw [heq]
    decide +kernel
  obtain ⟨hoffer, hrest⟩ := Prod.mk.inj hstate
  obtain ⟨hdbCtx, hlent⟩ := Prod.mk.inj hrest
  obtain ⟨next, hoffers⟩ := Config.exists_offers hoffer
  refine ⟨run.1, run.2.1, next, hrun, hoffers, hdbCtx, ?_⟩
  exact (waits_without_context_iff _ hrun).2 (fun _ _ _ _ _ ↦ hlent) .smsBdSetLog next hoffers

/-- The script of JSGETCONF runs while the request holds its context. -/
theorem setLog_waits_with_context :
    ∃ trace final caller next,
      Run (Job.checkVerb 7 "JSGETCONF ABC123".toList).code trace final ∧
      Offers final (.findCtx .sms caller) next ∧ ∃ ctx ∈ heldAfter trace, ctx.db = .sms := by
  obtain ⟨run, heq⟩ : ∃ run, run = (Sim.single [] [Sim.call (.smsBdSetLog none none none)]).execUntil
    (· = .findCtx .sms .smsBdSetLog) 2 (Job.checkVerb 7 "JSGETCONF ABC123".toList).code := ⟨_, rfl⟩
  have hrun : Run (Job.checkVerb 7 "JSGETCONF ABC123".toList).code run.1 run.2.1 := by
    rw [heq]
    exact Sim.run_execUntil _ _ _ _
  have hoffer : (Config.offer 2 run.2.1).map Sigma.fst = some (.findCtx .sms .smsBdSetLog) := by
    rw [heq]
    decide +kernel
  have hheld : heldAfter run.1 = [⟨.sms, 0⟩] := by
    rw [heq]
    decide +kernel
  obtain ⟨next, hoffers⟩ := Config.exists_offers hoffer
  refine ⟨run.1, run.2.1, _, next, hrun, hoffers, ⟨.sms, 0⟩, ?_, rfl⟩
  rw [hheld]
  exact List.mem_singleton_self _

end Runs

end CoreEngine.Smsd
