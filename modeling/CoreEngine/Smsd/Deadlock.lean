import CoreEngine.Interaction.Coverage
import CoreEngine.Interaction.Possibility
import CoreEngine.Smsd.Jobs
import CoreEngine.Smsd.Pool
import CoreEngine.Smsd.ConfigFile
import Mathlib.Data.Fintype.EquivFin
import Mathlib.Data.Fintype.Sum

/-!
# Deadlock

The threads of the scheduler wait for each other through the context pool only. A thread that waits for a
context may hold one on the SMS database, because a script can write to the log of its device while the
request that runs it holds a context. How many contexts the pool needs follows from that.
-/

namespace CoreEngine.Smsd

open Interaction
open Procedure (lift Stable Triple triple_bind triple_ite triple_lift triple_get triple_call triple_pure)
open Program (Only Offers)
open Config (Reach)

section Holding

/-- The contexts that a task holds. It asks for another one only while it holds no more than one, which is
on the SMS database. -/
def holding : Monitor signature (List Ctx) where
  allow held op := match op with
    | .findCtx _ _ => held.length ≤ 1 ∧ ∀ ctx ∈ held, ctx.db = .sms
    | _ => True
  expect _ op answer := match op, answer with
    | .findCtx db _, ctx => ctx.db = db
    | _, _ => True
  next held op answer := match op, answer with
    | .findCtx _ _, ctx => ctx :: held
    | .releaseCtx (some ctx), _ => held.erase ctx
    | _, _ => held

/-- At most the context of `csp->db_ctx` is held. -/
def Frugal (csp : Client) (held : List Ctx) : Prop :=
  held = [] ∨ ∃ ctx, csp.dbCtx = some ctx ∧ held = [ctx] ∧ ctx.db = .sms

/-- Nothing is held, and `csp->db_ctx` is null. -/
def EmptyHanded (csp : Client) (held : List Ctx) : Prop := csp.dbCtx = none ∧ held = []

variable {csp : Client} {held : List Ctx}

theorem EmptyHanded.frugal (hempty : EmptyHanded csp held) : Frugal csp held := .inl hempty.2

theorem Frugal.allow (hfrugal : Frugal csp held) : held.length ≤ 1 ∧ ∀ ctx ∈ held, ctx.db = .sms := by
  rcases hfrugal with rfl | ⟨ctx, -, rfl, hdb⟩
  · simp
  · simp [hdb]

theorem Frugal.emptyHanded (hfrugal : Frugal csp held) (hctx : csp.dbCtx = none) : EmptyHanded csp held := by
  rcases hfrugal with hheld | ⟨ctx, hsome, -⟩
  · exact ⟨hctx, hheld⟩
  · rw [hctx] at hsome
    cases hsome

theorem holding_ignores {op : Op} (hfind : ∀ db caller, op ≠ .findCtx db caller)
    (hrelease : ∀ ctx, op ≠ .releaseCtx (some ctx)) : holding.Ignores op := by
  intro held
  cases op with
  | findCtx db caller => exact absurd rfl (hfind db caller)
  | releaseCtx released =>
    cases released with
    | none => exact ⟨trivial, fun _ ↦ rfl⟩
    | some ctx => exact absurd rfl (hrelease ctx)
  | _ => exact ⟨trivial, fun _ ↦ rfl⟩

theorem holding_ignores_plain {op : Op} (hop : op.Plain) : holding.Ignores op := by
  apply holding_ignores
  · rintro db caller rfl
    exact hop
  · rintro ctx rfl
    exact hop

theorem holding_ignores_socket {op : Op} (hop : op.OnSocket) : holding.Ignores op := by
  apply holding_ignores
  · rintro db caller rfl
    exact hop
  · rintro ctx rfl
    exact hop

theorem holding_ignores_script {op : Op} (hop : op.OnScript) : holding.Ignores op := by
  apply holding_ignores
  · rintro db caller rfl
    exact hop
  · rintro ctx rfl
    exact hop

theorem holding_ignores_ctx {rank : ℕ} {ctx : Ctx} {op : Op} (hop : op.OnCtx rank ctx) :
    holding.Ignores op := by
  apply holding_ignores
  · rintro db caller rfl
    exact hop
  · rintro ctx rfl
    exact hop

end Holding

section Idioms

variable {α : Type}

/-- Code on a context takes no other. -/
theorem safe_onCtx {ctx : Ctx} {code : Code α} (hcode : CtxCode 2 ctx code) (held : List Ctx) :
    code.Safe holding (fun _ held' ↦ held' = held) held :=
  Only.safe_of_ignores hcode (fun _ ↦ holding_ignores_ctx) held

theorem safe_find {db : Db} {caller : Caller} {held : List Ctx} {post : Ctx → List Ctx → Prop}
    (hallow : held.length ≤ 1 ∧ ∀ ctx ∈ held, ctx.db = .sms)
    (hpost : ∀ ctx : Ctx, ctx.db = db → post ctx (ctx :: held)) :
    (findCtx db caller).Safe holding post held :=
  ⟨hallow, fun ctx hctx ↦ hpost ctx hctx⟩

/-- A context of its own is given back. -/
theorem safe_ownCtx {caller : Caller} {body : Ctx → Code α} (hbody : ∀ ctx, CtxCode 2 ctx (body ctx))
    {held : List Ctx} (hallow : held.length ≤ 1 ∧ ∀ ctx ∈ held, ctx.db = .sms) :
    (withCtx .sms caller body).Safe holding (fun _ held' ↦ held' = held) held := by
  unfold withCtx
  rw [Program.safe_bind]
  refine safe_find hallow fun ctx _ ↦ ?_
  rw [Program.safe_bind]
  refine (safe_onCtx (hbody ctx) _).mono fun value held' hheld ↦ ?_
  rw [hheld]
  refine ⟨trivial, fun _ _ ↦ ?_⟩
  show (ctx :: held).erase ctx = held
  exact List.erase_cons_head ..

theorem stable_ownCtx {caller : Caller} {body : Ctx → Code α} {inv : Client → List Ctx → Prop}
    (hbody : ∀ ctx, CtxCode 2 ctx (body ctx)) (hinv : ∀ csp held, inv csp held → Frugal csp held) :
    Stable holding inv (lift (withCtx .sms caller body)) := by
  refine ⟨triple_lift fun csp held hheld ↦ (safe_ownCtx hbody (hinv csp held hheld).allow).mono ?_⟩
  intro _ held' hsame
  rw [hsame]
  exact hheld

theorem triple_takeCtx (keeper : Keeper) : Triple holding EmptyHanded
    (do let ctx ← lift (findCtx .sms (.keeper keeper)); storeDbCtx (some ctx)) fun _ ↦ Frugal := by
  rintro ⟨cfd, dbCtx⟩ held ⟨rfl, rfl⟩
  exact ⟨⟨Nat.zero_le 1, nofun⟩, fun ctx hctx ↦ ⟨trivial, fun _ _ ↦ .inr ⟨ctx, rfl, rfl, hctx⟩⟩⟩

theorem triple_releaseFrugal : Triple holding Frugal releaseBdCtx fun _ ↦ EmptyHanded := by
  rintro ⟨cfd, _ | ctx⟩ held hfrugal
  · exact ⟨trivial, fun _ _ ↦ ⟨trivial, fun _ _ ↦ ⟨rfl, (hfrugal.emptyHanded rfl).2⟩⟩⟩
  · refine ⟨trivial, fun _ _ ↦ ⟨trivial, fun _ _ ↦ ⟨rfl, ?_⟩⟩⟩
    rcases hfrugal with rfl | ⟨ctx', hctx', rfl, -⟩
    · rfl
    · cases hctx'
      exact List.erase_cons_head ..

theorem stable_ensureFrugal (keeper : Keeper) : Stable holding Frugal (ensureDbCtx keeper) := by
  constructor
  rintro ⟨cfd, _ | ctx⟩ held hfrugal
  · exact triple_takeCtx keeper _ _ (hfrugal.emptyHanded rfl)
  · exact hfrugal

theorem triple_useFrugal {body : Ctx → Code α} {post : α → Client → List Ctx → Prop}
    (hbody : ∀ ctx csp held, Frugal csp held → (body ctx).Safe holding (fun value ↦ post value csp) held) :
    Triple holding Frugal (useDbCtx body) post := by
  rintro ⟨cfd, _ | ctx⟩ held hfrugal
  · exact ⟨trivial, fun answer ↦ answer.elim⟩
  · have huse : Triple holding Frugal (lift (body ctx)) post :=
      triple_lift fun csp held hfrugal ↦ hbody ctx csp held hfrugal
    exact huse ⟨cfd, some ctx⟩ held hfrugal

theorem stable_useFrugal {body : Ctx → Code α} (hbody : ∀ ctx, CtxCode 2 ctx (body ctx)) :
    Stable holding Frugal (useDbCtx body) := by
  refine ⟨triple_useFrugal fun ctx csp held hfrugal ↦ (safe_onCtx (hbody ctx) held).mono ?_⟩
  intro _ held' hsame
  rw [hsame]
  exact hfrugal

/-- With the flag, whatever `body` takes in addition is still held at the end. -/
theorem triple_borrowFrugal (borrower : Borrower) {body : Ctx → Code α} (extra : α → Option Ctx)
    (hbody : ∀ ctx held, held.length ≤ 1 ∧ (∀ ctx ∈ held, ctx.db = .sms) → (body ctx).Safe holding
      (fun value held' ↦ held' = (extra value).toList ++ held) held) :
    Triple holding Frugal (borrowDbCtx borrower body) fun value csp held' ↦
      ∃ held, Frugal csp held ∧ held' = (extra value).toList ++ held := by
  let post (value : α) (csp : Client) (held' : List Ctx) : Prop :=
    ∃ held, Frugal csp held ∧ held' = (extra value).toList ++ held
  rintro ⟨cfd, _ | ctx⟩ held hfrugal
  · obtain ⟨-, rfl⟩ := hfrugal.emptyHanded rfl
    refine ⟨⟨Nat.zero_le 1, nofun⟩, fun (ctx : Ctx) (hctx : ctx.db = .sms) ↦ ⟨trivial, fun _ _ ↦ ?_⟩⟩
    have hone : [ctx].length ≤ 1 ∧ ∀ ctx' ∈ [ctx], ctx'.db = .sms := by
      simpa using hctx
    have hrelease (value : α) : Triple holding (fun _ held' ↦ held' = (extra value).toList ++ [ctx])
        (lift (releaseCtx (some ctx))) fun _ ↦ post value := by
      apply triple_lift
      rintro csp _ rfl
      refine ⟨trivial, fun _ _ ↦ ⟨[], .inl rfl, ?_⟩⟩
      show ((extra value).toList ++ [ctx]).erase ctx = _
      rw [erase_toList_append, List.append_nil]
    have hcall : Triple holding (fun _ held ↦ held = [ctx]) (do
        let value ← lift (body ctx)
        lift (releaseCtx (some ctx))
        pure value) post := by
      refine triple_bind (triple_lift fun csp held hheld ↦ ?_) fun value ↦
        triple_bind (hrelease value) fun _ ↦ triple_pure value fun _ _ hpost ↦ hpost
      rw [hheld]
      exact hbody ctx [ctx] hone
    exact hcall ⟨cfd, some ctx⟩ [ctx] rfl
  · have huse : Triple holding Frugal (lift (body ctx)) post :=
      triple_lift fun csp held hfrugal ↦ (hbody ctx held hfrugal.allow).mono fun value held' hheld ↦
        ⟨held, hfrugal, hheld⟩
    exact huse ⟨cfd, some ctx⟩ held hfrugal

theorem stable_borrowFrugal (borrower : Borrower) {body : Ctx → Code α}
    (hbody : ∀ ctx, CtxCode 2 ctx (body ctx)) : Stable holding Frugal (borrowDbCtx borrower body) := by
  constructor
  refine (triple_borrowFrugal borrower (fun _ ↦ none) fun ctx held _ ↦ safe_onCtx (hbody ctx) held).conseq
    (fun _ _ hfrugal ↦ hfrugal) ?_
  rintro value csp _ ⟨held, hfrugal, rfl⟩
  exact hfrugal

/-- The context on the customer database is taken while the other one is held. -/
theorem stable_unlockProvFrugal (key : SdKey) : Stable holding Frugal (unlockProv key) := by
  constructor
  have hbody (ctx : Ctx) (held : List Ctx) (hallow : held.length ≤ 1 ∧ ∀ ctx ∈ held, ctx.db = .sms) :
      (unlockProvOn ctx key).Safe holding
        (fun result held' ↦ held' = (some result.2).toList ++ held) held := by
    unfold unlockProvOn
    rw [Program.safe_bind]
    refine safe_find hallow fun dbCust _ ↦ ?_
    rw [Program.safe_bind]
    refine (@safe_onCtx _ ctx _ inferInstance _).mono fun _ held' hheld ↦ ?_
    rw [hheld, Program.safe_bind]
    refine (@safe_onCtx _ dbCust _ inferInstance _).mono fun _ held'' hheld' ↦ ?_
    rw [hheld']
    rfl
  have hgive (result : Int × Ctx) : Triple holding
      (fun csp held' ↦ ∃ held, Frugal csp held ∧ held' = (some result.2).toList ++ held)
      (lift (releaseCtx (some result.2))) fun _ ↦ Frugal := by
    apply triple_lift
    rintro csp _ ⟨held, hfrugal, rfl⟩
    refine ⟨trivial, fun _ _ ↦ ?_⟩
    show Frugal csp ((result.2 :: held).erase result.2)
    rw [List.erase_cons_head]
    exact hfrugal
  exact triple_bind (triple_borrowFrugal .unlockProv (fun result : Int × Ctx ↦ some result.2) hbody) fun result ↦
    triple_bind (hgive result) fun _ ↦ triple_pure result.1 fun _ _ hfrugal ↦ hfrugal

instance : ContextDiscipline holding Frugal where
  plain code hcode := (plainDiscipline_of_ignores fun _ ↦ holding_ignores_plain).plain code hcode
  ensure := stable_ensureFrugal
  release := ⟨triple_releaseFrugal.conseq (fun _ _ hfrugal ↦ hfrugal) fun _ _ _ hempty ↦ hempty.frugal⟩
  use _ hbody := stable_useFrugal fun ctx ↦ ctxCode_mono (hbody ctx) (Nat.zero_le 2)
  borrow borrower _ hbody := stable_borrowFrugal borrower fun ctx ↦ ctxCode_mono (hbody ctx) (Nat.zero_le 2)
  setLog _ hbody := stable_ownCtx (fun ctx ↦ ctxCode_mono (hbody ctx) (Nat.zero_le 2)) fun _ _ hfrugal ↦ hfrugal
  sdInfo _ := stable_useFrugal fun _ ↦ inferInstance
  custInfo _ := stable_useFrugal fun _ ↦ inferInstance

instance : LockDiscipline holding Frugal where
  lockProv key := stable_borrowFrugal .lockProv inferInstance
  unlockProv := stable_unlockProvFrugal
  lockSD key := by
    have hborrow : Stable holding Frugal (borrowDbCtx .lockSD (lockSDOn · key)) :=
      stable_borrowFrugal .lockSD inferInstance
    unfold lockSD
    infer_instance
  unlockSD key := by
    have hborrow : Stable holding Frugal (borrowDbCtx .unlockSD (haSmssqlUnLock · key)) :=
      stable_borrowFrugal .unlockSD inferInstance
    unfold unlockSD
    infer_instance

instance : JobDiscipline holding Frugal EmptyHanded where
  toSocketDiscipline := socketDiscipline_of_ignores (fun _ ↦ holding_ignores_socket) fun _ _ _ hfrugal ↦ hfrugal
  toReplyDiscipline := replyDiscipline_of_ignores (holding_ignores nofun nofun)
  toScriptDiscipline := scriptDiscipline_of_ignores fun _ ↦ holding_ignores_script
  toStackDiscipline := stackDiscipline_of_ignores (holding_ignores nofun nofun)
  toCountDiscipline := countDiscipline_of_ignores fun _ ↦ holding_ignores nofun nofun
  allow _ _ _ := trivial
  begin_settled _ _ hempty := hempty.frugal
  settled_of_none _ _ hfrugal hctx := hfrugal.emptyHanded hctx
  releaseAll := triple_releaseFrugal
  take := triple_takeCtx
  own _ _ _ hbody := stable_ownCtx hbody fun _ _ hempty ↦ hempty.frugal
  settled_plain := plainDiscipline_of_ignores fun _ ↦ holding_ignores_plain
  settled_connection := connectionDiscipline_of_keeps fun _ hop ↦ (holding_ignores_socket hop).keeps
  settled_script := scriptDiscipline_of_ignores fun _ ↦ holding_ignores_script
  settled_reply := replyDiscipline_of_ignores (holding_ignores nofun nofun)
  settled_stack := stackDiscipline_of_ignores (holding_ignores nofun nofun)

end Idioms

section Threads

variable {ι : Type}

/-- The pool with as many contexts as `InitDBSqlCtx` allocates. -/
def sizedPool (size : Db → ℕ) : Environment signature ι (Set Ctx) := fun active i op answer active' ↦
  pool active i op answer active' ∧ match op, answer with
    | .findCtx db _, ctx => ctx.slot < size db
    | _, _ => True

/-- What a thread of the scheduler runs: one job after the other. -/
def Job.runAll : List Job → Code Unit
  | [] => pure ()
  | job :: jobs => do
      let _ ← job.code
      runAll jobs

def startThreads (work : ι → List Job) : Config signature ι (Set Ctx) (List Ctx) Unit :=
  ⟨∅, fun _ ↦ [], fun i ↦ Job.runAll (work i)⟩

/-- Some thread waits for a context, and every thread has no work left, or waits for a context while all
contexts on its database are in use. -/
structure Deadlocked (size : Db → ℕ) (config : Config signature ι (Set Ctx) (List Ctx) Unit) : Prop where
  waiting : ∃ i db caller next, Offers (config.tasks i) (.findCtx db caller) next
  blocked : ∀ i, config.tasks i = .ret () ∨ ∃ db caller next,
    Offers (config.tasks i) (.findCtx db caller) next ∧ ∀ slot < size db, ⟨db, slot⟩ ∈ config.shared

theorem safe_runAll (jobs : List Job) : (Job.runAll jobs).Safe holding (fun _ held ↦ held = []) [] := by
  induction jobs with
  | nil => rfl
  | cons job jobs ih =>
    have hjob : JobDiscipline holding Frugal EmptyHanded := inferInstance
    unfold Job.runAll
    rw [Program.safe_bind]
    refine (hjob.safe_code job fun _ ↦ ⟨rfl, rfl⟩).mono fun csp held hempty ↦ ?_
    rw [hempty.2]
    exact ih

variable [DecidableEq ι] {size : Db → ℕ} {work : ι → List Job}
  {config : Config signature ι (Set Ctx) (List Ctx) Unit}

theorem covered_step {active active' : Set Ctx} {ghosts : ι → List Ctx} {i : ι} {op : Op} {answer : op.Answer}
    (hcovered : Covered ghosts active) (hpool : pool active i op answer active') :
    Covered (Function.update ghosts i (holding.next (ghosts i) op answer)) active' := by
  have hkept : Covered (Function.update ghosts i (ghosts i)) active :=
    (Function.update_eq_self i ghosts).symm ▸ hcovered
  cases op with
  | findCtx db caller =>
    obtain ⟨-, -, rfl⟩ := hpool
    exact hcovered.take i answer
  | releaseCtx released =>
    cases released with
    | none =>
      cases hpool
      exact hkept
    | some ctx =>
      cases hpool
      exact hcovered.give i ctx
  | _ =>
    cases hpool
    exact hkept

/-- Every context in use is held by a thread, and every thread keeps to its discipline. -/
theorem covered_of_reach
    (hreach : Reach (sizedPool size) holding (fun _ _ _ _ _ ↦ True) (startThreads work) config) :
    Covered config.ghosts config.shared ∧
      ∀ i, (config.tasks i).Safe holding (fun _ held ↦ held = []) (config.ghosts i) := by
  refine @Reach.invariant _ _ _ _ _ _ _ _ _ (fun active ghosts ↦ Covered ghosts active) _ _ _ hreach
    ?_ ?_ (covered_empty _) fun i ↦ safe_runAll (work i)
  · intro active ghosts i op answer active' _ hpool _
    cases op with
    | findCtx db caller => exact hpool.1.2.1
    | _ => trivial
  · intro active ghosts i op answer active' hcovered _ hpool _
    exact covered_step hcovered hpool.1

theorem eq_of_length_le_one {held : List Ctx} (hlength : held.length ≤ 1) {ctx ctx' : Ctx} (hctx : ctx ∈ held)
    (hctx' : ctx' ∈ held) : ctx = ctx' := by
  cases held with
  | nil => cases hctx
  | cons first rest =>
    cases rest with
    | nil => rw [List.mem_singleton.1 hctx, List.mem_singleton.1 hctx']
    | cons second rest => simp at hlength

omit [DecidableEq ι] in
/-- A thread that cannot go on holds no context, or one on the SMS database. -/
theorem Deadlocked.held_le (hdeadlocked : Deadlocked size config)
    (hsafe : ∀ i, (config.tasks i).Safe holding (fun _ held ↦ held = []) (config.ghosts i)) (i : ι) :
    (config.ghosts i).length ≤ 1 ∧ ∀ ctx ∈ config.ghosts i, ctx.db = .sms := by
  rcases hdeadlocked.blocked i with hret | ⟨db, caller, next, hoffers, -⟩
  · have hheld := hsafe i
    rw [hret] at hheld
    have hnil : config.ghosts i = [] := hheld
    rw [hnil]
    exact ⟨Nat.zero_le 1, nofun⟩
  · exact (hoffers.safe (hsafe i)).1

theorem not_deadlocked [Fintype ι] (hsms : Fintype.card ι < size .sms) (hcust : 0 < size .cust)
    (hreach : Reach (sizedPool size) holding (fun _ _ _ _ _ ↦ True) (startThreads work) config) :
    ¬Deadlocked size config := by
  intro hdeadlocked
  obtain ⟨hcovered, hsafe⟩ := covered_of_reach hreach
  have hheld := hdeadlocked.held_le hsafe
  obtain ⟨i, db, caller, next, hoffers⟩ := hdeadlocked.waiting
  have hfull : ∃ db, ∀ slot < size db, ⟨db, slot⟩ ∈ config.shared := by
    rcases hdeadlocked.blocked i with hret | ⟨db, caller, next, -, hfull⟩
    · rw [hret] at hoffers
      cases hoffers
    · exact ⟨db, hfull⟩
  obtain ⟨db, hfull⟩ := hfull
  cases db with
  | sms =>
    have hcard : Fintype.card ι < ((Finset.range (size .sms)).image (Ctx.mk .sms)).card := by
      rw [Finset.card_image_of_injective _ fun _ _ hslot ↦ (Ctx.mk.inj hslot).2, Finset.card_range]
      exact hsms
    obtain ⟨ctx, hctx, hfree⟩ :=
      hcovered.exists_free (fun i r hr s hs _ _ ↦ eq_of_length_le_one (hheld i).1 hr hs) hcard
    obtain ⟨slot, hslot, rfl⟩ := Finset.mem_image.1 hctx
    exact hfree (hfull slot (Finset.mem_range.1 hslot))
  | cust =>
    obtain ⟨j, hj⟩ := hcovered _ (hfull 0 hcust)
    cases (hheld j).2 _ hj

end Threads

section Crowd

open Config (ComesTo)

variable {ι : Type} {size : Db → ℕ} {active : Set Ctx} {slot : ℕ}

/-- A job of each priority that runs a script on behalf of its client context. -/
def scripted : Bool → Job
  | true => .checkVerb 7 "JSGETCONF ABC123".toList
  | false => .updateTask Sim.plainDevice.sd

theorem checkVerb_scripted :
    checkVerb "JSGETCONF ABC123".toList =
      dispatch (verbAction "JSGETCONF" .doGetConfig "*Get router generated configuration" 1) "ABC123".toList := by
  have hfind : (verbTab.find? fun va ↦ va.verb = CString.toupper (splitLine "JSGETCONF ABC123".toList).1) =
      some (verbAction "JSGETCONF" .doGetConfig "*Get router generated configuration" 1) := by
    decide +kernel
  have harg : (splitLine "JSGETCONF ABC123".toList).2 = "ABC123".toList := by
    decide +kernel
  unfold checkVerb
  rw [hfind, harg]
  rfl

theorem find_sms {i : ι} {caller : Caller} (hfree : ⟨.sms, slot⟩ ∉ active) (hslot : slot < size .sms) :
    sizedPool size active i (.findCtx .sms caller) (⟨.sms, slot⟩ : Ctx) (insert ⟨.sms, slot⟩ active) :=
  ⟨⟨hfree, rfl, rfl⟩, hslot⟩

theorem release_sms {i : ι} (hfree : ⟨.sms, slot⟩ ∉ active) :
    sizedPool size (insert ⟨.sms, slot⟩ active) i (.releaseCtx (some ⟨.sms, slot⟩)) () active := by
  refine ⟨?_, trivial⟩
  show active = insert _ active \ {_}
  rw [Set.insert_sdiff_self_of_notMem hfree]

theorem comesTo_setLog (i : ι) (prio : Bool) (hfree : ⟨.sms, slot⟩ ∉ active) (hslot : slot < size .sms) :
    ComesTo (sizedPool size) i (.findCtx .sms .smsBdSetLog) (Job.runAll [scripted prio]) active
      (insert ⟨.sms, slot⟩ active) := by
  cases prio with
  | true =>
    show ComesTo _ _ _ ((Prod.snd <$> checkVerb "JSGETCONF ABC123".toList ⟨7, none⟩) >>= fun _ ↦ Job.runAll []) _ _
    rw [checkVerb_scripted]
    refine .call _ (find_sms hfree hslot) ?_
    refine .call () ⟨rfl, trivial⟩ ?_
    refine .call ⟨0, Sim.plainDevice⟩ ⟨rfl, trivial⟩ ?_
    refine .call () ⟨rfl, trivial⟩ ?_
    refine .bound 1 ?_
    refine .call (.call ⟨true, true, .smsBdSetLog none none none⟩) ⟨rfl, trivial⟩ ?_
    exact .here (.call _ _)
  | false =>
    refine .call _ (find_sms hfree hslot) ?_
    refine .call () ⟨rfl, trivial⟩ ?_
    refine .call ⟨0, Sim.plainDevice⟩ ⟨rfl, trivial⟩ ?_
    refine .call () (release_sms hfree) ?_
    refine .call () ⟨rfl, trivial⟩ ?_
    refine .call () ⟨rfl, trivial⟩ ?_
    refine .bound 2 ?_
    refine .call (.call ⟨true, true, .smsSetUpdateStatus (some "ABC123".toList) 0 (some []) (some []) (some [])⟩)
      ⟨rfl, trivial⟩ ?_
    refine .call _ (find_sms hfree hslot) ?_
    refine .call () ⟨rfl, trivial⟩ ?_
    refine .call ⟨0, ()⟩ ⟨rfl, trivial⟩ ?_
    refine .call () ⟨rfl, trivial⟩ ?_
    refine .call (.call ⟨true, true, .smsBdSetLog none none none⟩) ⟨rfl, trivial⟩ ?_
    exact .here (.call _ _)

theorem comesTo_cust (i : ι) (prio : Bool) (hfree : ⟨.sms, slot⟩ ∉ active) (hslot : slot < size .sms) :
    ComesTo (sizedPool size) i (.findCtx .cust (.borrower .unlockProv)) (Job.runAll [scripted prio]) active
      (insert ⟨.sms, slot⟩ active) := by
  cases prio with
  | true =>
    show ComesTo _ _ _ ((Prod.snd <$> checkVerb "JSGETCONF ABC123".toList ⟨7, none⟩) >>= fun _ ↦ Job.runAll []) _ _
    rw [checkVerb_scripted]
    refine .call _ (find_sms hfree hslot) ?_
    refine .call () ⟨rfl, trivial⟩ ?_
    refine .call ⟨0, Sim.plainDevice⟩ ⟨rfl, trivial⟩ ?_
    refine .call () ⟨rfl, trivial⟩ ?_
    refine .bound 1 ?_
    refine .call (.call ⟨true, true, .smsSdProvUnlock⟩) ⟨rfl, trivial⟩ ?_
    exact .here (.call _ _)
  | false =>
    refine .call _ (find_sms hfree hslot) ?_
    refine .call () ⟨rfl, trivial⟩ ?_
    refine .call ⟨0, Sim.plainDevice⟩ ⟨rfl, trivial⟩ ?_
    refine .call () (release_sms hfree) ?_
    refine .call () ⟨rfl, trivial⟩ ?_
    refine .call () ⟨rfl, trivial⟩ ?_
    refine .bound 1 ?_
    refine .call (.call ⟨true, true, .smsSdProvUnlock⟩) ⟨rfl, trivial⟩ ?_
    refine .call _ (find_sms hfree hslot) ?_
    refine .call () ⟨rfl, trivial⟩ ?_
    exact .here (.call _ _)

theorem offers_scripted (prio : Bool) :
    ∃ caller next, Offers (Job.runAll [scripted prio]) (.findCtx .sms caller) next := by
  cases prio with
  | true =>
    refine ⟨.keeper .checkVerb, ?_⟩
    show ∃ next, Offers
      ((Prod.snd <$> checkVerb "JSGETCONF ABC123".toList ⟨7, none⟩) >>= fun _ ↦ Job.runAll []) _ next
    rw [checkVerb_scripted]
    exact ⟨_, .call _ _⟩
  | false => exact ⟨.keeper .updateTask, _, .call _ _⟩

variable [DecidableEq ι] [Fintype ι]

/-- One thread after the other takes a context and comes to wait for a second one. -/
theorem exists_crowd (size : Db → ℕ) (prio : ι → Bool) (n : ℕ) (hcard : n ≤ Fintype.card ι)
    (hsize : n ≤ size .sms) : ∃ config, Reach (sizedPool size) holding (fun _ _ _ _ _ ↦ True)
      (startThreads fun i ↦ [scripted (prio i)]) config ∧
      config.shared = {ctx | ctx.db = .sms ∧ ctx.slot < n} ∧
      (∀ i, Fintype.equivFin ι i < n → ∃ next, Offers (config.tasks i) (.findCtx .sms .smsBdSetLog) next) ∧
      ∀ i, n ≤ Fintype.equivFin ι i → config.tasks i = Job.runAll [scripted (prio i)] := by
  induction n with
  | zero =>
    refine ⟨_, .start, ?_, fun i hi ↦ absurd hi (Nat.not_lt_zero _), fun i _ ↦ rfl⟩
    ext ctx
    simp [startThreads]
  | succ n ih =>
    obtain ⟨config, hreach, hshared, hwaiting, hfresh⟩ := ih (by omega) (by omega)
    let i := (Fintype.equivFin ι).symm ⟨n, hcard⟩
    have hindex : (Fintype.equivFin ι i : ℕ) = n := by
      simp [i]
    have hfree : (⟨.sms, n⟩ : Ctx) ∉ config.shared := by
      simp [hshared]
    have hcomes := comesTo_setLog i (prio i) hfree hsize
    obtain ⟨final, hreached, hfinal, hoffers, hothers⟩ := Reach.comesTo hcomes hreach fun op next hoffers ↦ by
      rw [hfresh i hindex.ge]
      exact hoffers
    refine ⟨final, hreached, ?_, fun j hj ↦ ?_, fun j hj ↦ ?_⟩
    · rw [hfinal, hshared]
      ext ctx
      obtain ⟨db, slot⟩ := ctx
      cases db with
      | sms =>
        simp
        omega
      | cust => simp
    · by_cases hji : j = i
      · rw [hji]
        exact hoffers
      · have hne : (Fintype.equivFin ι j : ℕ) ≠ n := fun hn ↦
          hji ((Fintype.equivFin ι).injective (Fin.ext (hn.trans hindex.symm)))
        rw [hothers j hji]
        exact hwaiting j (by omega)
    · have hji : j ≠ i := by
        rintro rfl
        omega
      rw [hothers j hji]
      exact hfresh j (by omega)

theorem exists_deadlock [Nonempty ι] (prio : ι → Bool) (hsize : size .sms ≤ Fintype.card ι) :
    ∃ config, Reach (sizedPool size) holding (fun _ _ _ _ _ ↦ True)
      (startThreads fun i ↦ [scripted (prio i)]) config ∧ Deadlocked size config := by
  obtain ⟨config, hreach, hshared, hwaiting, hfresh⟩ := exists_crowd size prio (size .sms) hsize le_rfl
  have hwaits (i : ι) : ∃ caller next, Offers (config.tasks i) (.findCtx .sms caller) next := by
    by_cases hi : Fintype.equivFin ι i < size .sms
    · exact ⟨_, hwaiting i hi⟩
    · rw [hfresh i (by omega)]
      exact offers_scripted (prio i)
  refine ⟨config, hreach, ⟨?_, fun i ↦ .inr ?_⟩⟩
  · obtain ⟨caller, next, hoffers⟩ := hwaits (Classical.arbitrary ι)
    exact ⟨_, _, caller, next, hoffers⟩
  · obtain ⟨caller, next, hoffers⟩ := hwaits i
    refine ⟨.sms, caller, next, hoffers, fun slot hslot ↦ ?_⟩
    rw [hshared]
    exact ⟨rfl, hslot⟩

omit [Fintype ι] in
/-- Without contexts on the customer database, a single thread with work is enough. -/
theorem exists_deadlock_cust (i : ι) (prio : Bool) (hsms : 0 < size .sms) (hcust : size .cust = 0) :
    ∃ config, Reach (sizedPool size) holding (fun _ _ _ _ _ ↦ True)
      (startThreads fun j ↦ if j = i then [scripted prio] else []) config ∧ Deadlocked size config := by
  have hcomes := comesTo_cust i prio (Set.notMem_empty _) hsms
  obtain ⟨config, hreach, -, ⟨next, hoffers⟩, hothers⟩ := Reach.comesTo hcomes
    (Reach.start : Reach (sizedPool size) holding (fun _ _ _ _ _ ↦ True)
      (startThreads fun j ↦ if j = i then [scripted prio] else []) _) fun op next hoffers ↦ by
        simpa [startThreads] using hoffers
  refine ⟨config, hreach, ⟨⟨i, _, _, next, hoffers⟩, fun j ↦ ?_⟩⟩
  by_cases hj : j = i
  · subst hj
    refine .inr ⟨_, _, next, hoffers, fun slot hslot ↦ ?_⟩
    omega
  · left
    rw [hothers j hj]
    simp [startThreads, hj, Job.runAll]

end Crowd

section Daemon

/-- The threads that `gpul_sched_init` is asked for, of low and of high priority. -/
abbrev Thread (config : FileConf) : Type :=
  Fin (config.numbers .numSimultaneous + 2).toNat ⊕ Fin (config.numbers .numSimultaneous + 10).toNat

/-- Connections are served with high priority, and everything else is done with low priority. -/
def Job.prio : Job → Bool
  | .checkVerb _ _ => true
  | _ => false

/-- What the threads have to do. -/
structure Schedule (config : FileConf) where
  work : Thread config → List Job
  prio : ∀ thread, ∀ job ∈ work thread, job.prio = thread.isRight

/-- The contexts that `InitDBSqlCtx` allocates. -/
def FileConf.contexts (config : FileConf) : Db → ℕ
  | .sms => (config.numbers .smsNumContext).toNat
  | .cust => (config.numbers .custNumContext).toNat

theorem contexts_sms (config : FileConf) : config.contexts .sms = (config.numbers .smsNumContext).toNat := rfl

theorem contexts_cust (config : FileConf) : config.contexts .cust = (config.numbers .custNumContext).toNat := rfl

/-- The configuration rules a deadlock out. -/
def NeverDeadlocked (config : FileConf) : Prop :=
  ∀ (schedule : Schedule config) reached, Reach (sizedPool config.contexts) holding (fun _ _ _ _ _ ↦ True)
    (startThreads schedule.work) reached → ¬Deadlocked config.contexts reached

theorem card_thread {config : FileConf} (hthreads : 0 ≤ config.numbers .numSimultaneous) :
    (Fintype.card (Thread config) : Int) = 2 * config.numbers .numSimultaneous + 12 := by
  rw [Fintype.card_sum, Fintype.card_fin, Fintype.card_fin]
  omega

end Daemon

end CoreEngine.Smsd
