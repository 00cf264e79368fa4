import CoreEngine.Interaction.Monitor
import CoreEngine.Interaction.Transition

/-!
# Workers that are started during a run

One party, the leader, starts workers and has a state of its own. Each worker runs a program and is watched
by its own copy of a monitor. The workers stay in the order in which they were started, those that have
come to their end as well.
-/

namespace CoreEngine.Interaction

/-- A program and the state of the monitor that watches it. -/
structure Worker (S : Signature) (G α : Type) where
  ghost : G
  program : Program S α

structure Crew (S : Signature) (σ κ G α : Type) where
  shared : σ
  leader : κ
  workers : List (Worker S G α)

namespace Crew

open Program (Offers)

variable {S : Signature} {σ κ G α : Type}

/-- What the leader does: it moves the shared state, and may start a worker. -/
abbrev Lead (S : Signature) (σ κ G α : Type) := κ → σ → Option (Worker S G α) → κ → σ → Prop

/-- The steps of the leader, and of the workers with the answers that `env` allows. -/
inductive Step (lead : Lead S σ κ G α) (env : σ → (op : S.Op) → S.Answer op → σ → Prop) (M : Monitor S G)
    (crew : Crew S σ κ G α) : Option S.Op → Crew S σ κ G α → Prop
  | lead {started : Option (Worker S G α)} {leader : κ} {shared : σ}
      (hlead : lead crew.leader crew.shared started leader shared) :
      Step lead env M crew none ⟨shared, leader, crew.workers ++ started.toList⟩
  | work {before after : List (Worker S G α)} {worker : Worker S G α} {op : S.Op}
      {next : S.Answer op → Program S α} {answer : S.Answer op} {shared : σ}
      (hworkers : crew.workers = before ++ worker :: after) (hoffers : Offers worker.program op next)
      (henv : env crew.shared op answer shared) :
      Step lead env M crew (some op) ⟨shared, crew.leader,
        before ++ ⟨M.next worker.ghost op answer, next answer⟩ :: after⟩

/-- The monitor states of the workers. -/
def ghosts (crew : Crew S σ κ G α) : List G := crew.workers.map Worker.ghost

/-- An assertion about the leader, the shared state and the monitor states that every step of the leader and
every allowed step of a worker keeps, holds throughout, and all workers stay safe. -/
theorem invariant {lead : Lead S σ κ G α} {env : σ → (op : S.Op) → S.Answer op → σ → Prop} {M : Monitor S G}
    {post : α → G → Prop} {start crew : Crew S σ κ G α} {events : List (Option S.Op)}
    (inv : κ → σ → List G → Prop) (hsteps : Steps (Step lead env M) start events crew)
    (hexpect : ∀ g op answer, M.expect g op answer)
    (hlead : ∀ leader shared ghosts started leader' shared', inv leader shared ghosts →
      lead leader shared started leader' shared' →
      inv leader' shared' (ghosts ++ (started.map Worker.ghost).toList) ∧
        ∀ worker ∈ started, worker.program.Safe M post worker.ghost)
    (hwork : ∀ leader shared before g after op answer shared', inv leader shared (before ++ g :: after) →
      M.allow g op → env shared op answer shared' →
      inv leader shared' (before ++ M.next g op answer :: after))
    (hstart : inv start.leader start.shared [] ∧ start.workers = []) :
    inv crew.leader crew.shared crew.ghosts ∧ ∀ worker ∈ crew.workers, worker.program.Safe M post worker.ghost := by
  refine @Steps.invariant _ _ _ _ _ _ (fun crew ↦ inv crew.leader crew.shared crew.ghosts ∧
    ∀ worker ∈ crew.workers, worker.program.Safe M post worker.ghost) hsteps ?_ ?_
  · refine ⟨?_, ?_⟩
    · unfold ghosts
      rw [hstart.2]
      exact hstart.1
    · rw [hstart.2]
      exact List.forall_mem_nil _
  · rintro crew event crew' ⟨hinv, hsafe⟩ hstep
    cases hstep with
    | @lead started _ _ hstarted =>
      obtain ⟨hkept, hnew⟩ := hlead _ _ _ _ _ _ hinv hstarted
      constructor
      · cases started <;> simpa [ghosts] using hkept
      · rw [List.forall_mem_append]
        exact ⟨hsafe, fun worker hworker ↦ hnew worker (Option.mem_toList.1 hworker)⟩
    | @work before after worker op next answer shared hworkers hoffers henv =>
      rw [hworkers, List.forall_mem_append, List.forall_mem_cons] at hsafe
      obtain ⟨hbefore, hworker, hafter⟩ := hsafe
      obtain ⟨hallow, hnext⟩ := hoffers.safe hworker
      constructor
      · have hghosts : crew.ghosts = before.map Worker.ghost ++ worker.ghost :: after.map Worker.ghost := by
          simp [ghosts, hworkers]
        rw [hghosts] at hinv
        simpa [ghosts] using hwork _ _ _ _ _ _ _ _ hinv hallow henv
      · rw [List.forall_mem_append, List.forall_mem_cons]
        exact ⟨hbefore, hnext answer (hexpect _ _ _), hafter⟩

end Crew

end CoreEngine.Interaction
