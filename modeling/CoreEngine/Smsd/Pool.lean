import CoreEngine.Interaction.Ownership
import CoreEngine.Smsd.Ledger

/-!
# The context pool under concurrency

Any number of jobs share the pool. While no function with the flag `release_db_ctx` takes a context
for itself, every job uses and releases only contexts that it holds, and no context has two holders.
The functions with the flag leave a stale pointer behind, which another job may hold by then.
-/

namespace CoreEngine.Smsd

open Interaction
open Program (Offers)
open Config (Reach)

variable {ι : Type} [DecidableEq ι]

/-- The pool as its library documents it, the shared state being the set of active contexts. All other
operations are answered in any way. -/
def pool : Environment signature ι (Set Ctx) := fun active _ op answer active' ↦
  match op, answer with
  | .findCtx db _, ctx => ctx ∉ active ∧ ctx.db = db ∧ active' = insert ctx active
  | .releaseCtx (some ctx), _ => active' = active \ {ctx}
  | _, _ => active' = active

/-- A function with the flag `release_db_ctx` does not find `csp->db_ctx` null. -/
def nobodyBorrows : Guard signature ι (Set Ctx) Account := fun _ _ _ op _ ↦
  ∀ borrower, op ≠ .findCtx .sms (.borrower borrower)

/-- Every task starts its job. -/
def Job.start (jobs : ι → Job) (active : Set Ctx) : Config signature ι (Set Ctx) Account Client :=
  ⟨active, fun _ ↦ .empty, fun i ↦ (jobs i).code⟩

/-- The operation uses or releases no context but held ones. -/
def Op.OwnedBy (held : List Ctx) : Op → Prop
  | .sql ctx _ | .allocateContext ctx _ | .releaseCtx (some ctx) => ctx ∈ held
  | _ => True

/-- No pointer is stale, and every active context has one holder. -/
def Owned (active : Set Ctx) (accounts : ι → Account) : Prop :=
  (∀ i, (accounts i).lent = false) ∧ Exclusive (fun i ↦ (accounts i).held) active

theorem held_update (accounts : ι → Account) (i : ι) (account : Account) :
    (fun j ↦ (Function.update accounts i account j).held) =
      Function.update (fun j ↦ (accounts j).held) i account.held := by
  funext j
  by_cases hj : j = i
  · subst hj
    simp
  · simp [hj]

theorem lent_update {accounts : ι → Account} (hlent : ∀ i, (accounts i).lent = false) {i : ι}
    {account : Account} (haccount : account.lent = false) (j : ι) :
    (Function.update accounts i account j).lent = false := by
  by_cases hj : j = i
  · subst hj
    rwa [Function.update_self]
  · rw [Function.update_of_ne hj]
    exact hlent j

theorem Owned.step {active active' : Set Ctx} {accounts : ι → Account} {i : ι} {op : Op}
    {answer : op.Answer} (howned : Owned active accounts) (hallow : ledger.allow (accounts i) op)
    (hpool : pool active i op answer active') (hguard : nobodyBorrows active accounts i op answer) :
    Owned active' (Function.update accounts i (ledger.next (accounts i) op answer)) := by
  obtain ⟨hlent, hexclusive⟩ := howned
  have hkept : Exclusive (Function.update (fun j ↦ (accounts j).held) i (accounts i).held) active :=
    (Function.update_eq_self i fun j ↦ (accounts j).held).symm ▸ hexclusive
  unfold Owned
  rw [held_update]
  cases op with
  | findCtx db caller =>
    obtain ⟨hfree, -, rfl⟩ := hpool
    refine ⟨lent_update hlent ?_, hexclusive.take i hfree⟩
    cases db with
    | cust => exact hlent i
    | sms =>
      cases caller with
      | borrower borrower => exact absurd rfl (hguard borrower)
      | keeper keeper => rfl
      | _ => exact hlent i
  | releaseCtx released =>
    cases released with
    | none =>
      cases hpool
      exact ⟨lent_update hlent (hlent i), hkept⟩
    | some ctx =>
      cases hpool
      exact ⟨lent_update hlent (hlent i), hexclusive.give (hallow (hlent i))⟩
  | _ =>
    cases hpool
    exact ⟨lent_update hlent (hlent i), hkept⟩

theorem ownedBy_of_allow {account : Account} (hlent : account.lent = false) {op : Op}
    (hallow : ledger.allow account op) : op.OwnedBy account.held := by
  cases op with
  | releaseCtx released =>
    cases released with
    | none => trivial
    | some ctx => exact hallow hlent
  | sql ctx query => exact hallow hlent
  | allocateContext ctx db => exact hallow hlent
  | _ => trivial

section Simulation

def Sim.activeSet (sim : Sim) : Set Ctx := {ctx | ctx ∈ sim.active}

theorem Sim.sql_active (sim : Sim) (query : Sql) : (sim.sql query).2.active = sim.active := by
  cases query with
  | setLock key =>
    unfold Sim.sql
    split <;> rfl
  | _ => rfl

theorem Sim.readLine_active (sim : Sim) (i : ℕ) : (sim.readLine i).2.active = sim.active := by
  unfold Sim.readLine
  split <;> rfl

theorem Sim.scriptStep_active (sim : Sim) (i : ℕ) : (sim.scriptStep i).2.active = sim.active := by
  unfold Sim.scriptStep
  split <;> rfl

/-- The simulated pool behaves as documented. -/
theorem Sim.pool_of_respond {sim sim' : Sim} {i : ℕ} {op : Op} {answer : op.Answer}
    (hrespond : sim.respond i op = some (answer, sim')) :
    pool sim.activeSet i op answer sim'.activeSet := by
  cases op with
  | findCtx db caller =>
    obtain ⟨ctx, hfind, hanswer⟩ := Option.map_eq_some_iff.1 hrespond
    cases hanswer
    have hfree : answer ∉ sim.active := by
      have hfound := List.find?_some hfind
      simpa using hfound
    have hdb : answer.db = db := by
      obtain ⟨slot, -, rfl⟩ := List.mem_map.1 (List.mem_of_find?_eq_some hfind)
      rfl
    refine ⟨hfree, hdb, ?_⟩
    ext other
    simp [activeSet]
  | releaseCtx released =>
    cases hrespond
    cases released with
    | none => rfl
    | some ctx =>
      show _ = _
      ext other
      simp [activeSet]
  | sql ctx query =>
    have hactive := sim.sql_active query
    rw [Option.some.inj hrespond] at hactive
    show _ = _
    unfold activeSet
    rw [hactive]
  | nullDereference => exact answer.elim
  | nullBody => exact answer.elim
  | socketReadLine fd size timeout =>
    have hactive := sim.readLine_active i
    rw [Option.some.inj hrespond] at hactive
    show _ = _
    unfold activeSet
    rw [hactive]
  | scriptStep =>
    have hactive := sim.scriptStep_active i
    rw [Option.some.inj hrespond] at hactive
    show _ = _
    unfold activeSet
    rw [hactive]
  | _ =>
    cases hrespond
    rfl

end Simulation

/-- As long as no function with the flag takes a context for itself, every job that is about to use or
release a context holds it, and no context is held by two jobs. -/
theorem contexts_owned {jobs : ι → Job} {active : Set Ctx}
    {config : Config signature ι (Set Ctx) Account Client}
    (hreach : Reach pool ledger nobodyBorrows (Job.start jobs active) config) :
    (∀ i op next, Offers (config.tasks i) op next → op.OwnedBy (config.ghosts i).held) ∧
      ∀ i j ctx, ctx ∈ (config.ghosts i).held → ctx ∈ (config.ghosts j).held → i = j := by
  have hinvariant : Owned config.shared config.ghosts ∧
      ∀ i, (config.tasks i).Safe ledger Settled (config.ghosts i) := by
    refine hreach.invariant ?_ ?_ ⟨fun _ ↦ rfl, exclusive_nil active⟩ fun i ↦ (jobs i).safe
    · intros
      trivial
    · intro active accounts i op answer active' howned hallow hpool hguard
      exact howned.step hallow hpool hguard
  obtain ⟨⟨hlent, hexclusive⟩, hsafe⟩ := hinvariant
  refine ⟨fun i op next hoffers ↦ ?_, hexclusive.holder_unique⟩
  exact ownedBy_of_allow (hlent i) (hoffers.safe (hsafe i)).1

/-- Two status requests, each with a context of its own. -/
theorem contexts_owned_checkUpdate :
    ∃ config : Config signature ℕ (Set Ctx) Account Client,
      Reach pool ledger nobodyBorrows
        (Job.start (fun _ ↦ .checkVerb 7 "CHECKUPDATE ABC123".toList) ∅) config ∧
      (config.ghosts 0).held = [⟨.sms, 0⟩] ∧ (config.ghosts 1).held = [⟨.sms, 1⟩] ∧
      ∀ i op next, Offers (config.tasks i) op next → op.OwnedBy (config.ghosts i).held := by
  let check (_ : Sim) (_ : ℕ → Account) (_ : ℕ) (op : Op) : Bool := op = .findCtx .sms (.keeper .checkVerb)
  let start : Config signature ℕ Sim Account Client :=
    ⟨Sim.single [] [], fun _ ↦ .empty, fun _ ↦ (Job.checkVerb 7 "CHECKUPDATE ABC123".toList).code⟩
  have hheld : ((Config.run ledger Sim.respond check 2 [0, 1] start).map
      fun config ↦ ((config.ghosts 0).held, (config.ghosts 1).held)) =
      some ([⟨.sms, 0⟩], [⟨.sms, 1⟩]) := by
    decide +kernel
  obtain ⟨config, hconfig, hpair⟩ := Option.map_eq_some_iff.1 hheld
  obtain ⟨hfirst, hsecond⟩ := Prod.mk.inj hpair
  have hreach : Reach (fun sim i op answer sim' ↦ Sim.respond sim i op = some (answer, sim')) ledger
      (fun _ _ _ op _ ↦ op = .findCtx .sms (.keeper .checkVerb)) start config :=
    Config.reach_run (fun _ _ _ _ _ hrespond ↦ hrespond)
      (fun _ _ _ _ _ _ _ hcheck ↦ of_decide_eq_true hcheck) .start hconfig
  have hpool : Reach pool ledger nobodyBorrows
      (Job.start (fun _ ↦ .checkVerb 7 "CHECKUPDATE ABC123".toList) start.shared.activeSet)
      ⟨config.shared.activeSet, config.ghosts, config.tasks⟩ := by
    refine hreach.map Sim.activeSet (fun _ _ _ _ _ ↦ Sim.pool_of_respond) ?_
    rintro sim accounts i op answer rfl borrower hborrower
    cases hborrower
  have hstart : start.shared.activeSet = ∅ := by
    ext ctx
    simp [Sim.activeSet, start, Sim.single]
  rw [hstart] at hpool
  exact ⟨_, hpool, hfirst, hsecond, (contexts_owned hpool).1⟩

/-- Two requests; the script of the first one locks and unlocks the device after `csp` has lost its
context. -/
def borrowers (i : ℕ) : Job :=
  if i = 0 then .checkVerb 7 "JSEXECSCRIPT ABC123 file".toList
  else .checkVerb 8 "CHECKUPDATE ABC123".toList

/-- The first request calls the database on a context that it has released and that the second request
holds. -/
theorem borrowed_context_shared :
    ∃ (config : Config signature ℕ (Set Ctx) Account Client) (ctx : Ctx) (query : Sql)
      (next : Reply query.Output → Code Client),
      Reach pool ledger (fun _ _ _ _ _ ↦ True) (Job.start borrowers ∅) config ∧
      Offers (config.tasks 0) (.sql ctx query) next ∧
      ctx ∉ (config.ghosts 0).held ∧ ctx ∈ (config.ghosts 1).held := by
  let start : Config signature ℕ Sim Account Client :=
    ⟨Sim.single [] [Sim.call .smsSdLock, Sim.call .smsSdUnlock], fun _ ↦ .empty,
      fun i ↦ (borrowers i).code⟩
  -- seventeen steps of the first request, then the second one takes its context
  let run := Config.run ledger Sim.respond (fun _ _ _ _ ↦ true) 2 (List.replicate 17 0 ++ [1]) start
  have hrun : (run.bind fun config ↦ (Config.offer 2 (config.tasks 0)).map Sigma.fst) =
      some (.sql ⟨.sms, 0⟩ (.unLock ⟨"ABC".toList, 123⟩)) := by
    decide +kernel
  have hheld : (run.map fun config ↦ ((config.ghosts 0).held, (config.ghosts 1).held)) =
      some ([], [⟨.sms, 0⟩]) := by
    decide +kernel
  obtain ⟨config, hconfig, hoffer⟩ := Option.bind_eq_some_iff.1 hrun
  obtain ⟨next, hoffers⟩ := Config.exists_offers hoffer
  have hreach : Reach (fun sim i op answer sim' ↦ Sim.respond sim i op = some (answer, sim')) ledger
      (fun _ _ _ _ _ ↦ True) start config :=
    Config.reach_run (fun _ _ _ _ _ hrespond ↦ hrespond) (fun _ _ _ _ _ _ _ _ ↦ trivial) .start hconfig
  have hstart : start.shared.activeSet = ∅ := by
    ext ctx
    simp [Sim.activeSet, start, Sim.single]
  have hpool : Reach pool ledger (fun _ _ _ _ _ ↦ True) (Job.start borrowers start.shared.activeSet)
      ⟨config.shared.activeSet, config.ghosts, config.tasks⟩ :=
    hreach.map Sim.activeSet (fun _ _ _ _ _ ↦ Sim.pool_of_respond) fun _ _ _ _ _ _ ↦ trivial
  rw [hstart] at hpool
  rw [hconfig] at hheld
  obtain ⟨hfirst, hsecond⟩ := Prod.mk.inj (Option.some.inj hheld)
  refine ⟨⟨_, config.ghosts, config.tasks⟩, _, _, next, hpool, hoffers, ?_, ?_⟩
  · simp only [hfirst, List.not_mem_nil, not_false_eq_true]
  · simp only [hsecond, List.mem_singleton]

end CoreEngine.Smsd
