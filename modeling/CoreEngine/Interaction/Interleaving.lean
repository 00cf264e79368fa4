import CoreEngine.Interaction.Monitor
import Mathlib.Logic.Function.Basic

/-!
# Interleavings of programs over a shared state

Any number of tasks run one program each. A step lets one task perform its next operation; the
environment answers it and moves the shared state. Every task is watched by its own copy of a
monitor, whose state summarises what the task has done so far. Runs may be restricted by a guard,
a condition on each step in terms of the state before it.
-/

namespace CoreEngine.Interaction

/-- Which answers an operation of a task may get in a shared state, and the state it leads to. -/
abbrev Environment (S : Signature) (ι σ : Type) := σ → ι → (op : S.Op) → S.Answer op → σ → Prop

/-- A condition on steps, from the shared state and the monitor states before the step. -/
abbrev Guard (S : Signature) (ι σ G : Type) := σ → (ι → G) → ι → (op : S.Op) → S.Answer op → Prop

structure Config (S : Signature) (ι σ G α : Type) where
  shared : σ
  ghosts : ι → G
  tasks : ι → Program S α

namespace Config

variable {S : Signature} {ι σ G α : Type} [DecidableEq ι]

/-- The configuration after task `i` got `answer` for its operation. -/
def advance (M : Monitor S G) (config : Config S ι σ G α) (i : ι) (op : S.Op)
    (next : S.Answer op → Program S α) (answer : S.Answer op) (shared : σ) : Config S ι σ G α where
  shared := shared
  ghosts := Function.update config.ghosts i (M.next (config.ghosts i) op answer)
  tasks := Function.update config.tasks i (next answer)

/-- The configurations reached by steps that all meet the guard. -/
inductive Reach (env : Environment S ι σ) (M : Monitor S G) (guard : Guard S ι σ G)
    (start : Config S ι σ G α) : Config S ι σ G α → Prop
  | start : Reach env M guard start start
  | step {config : Config S ι σ G α} {i : ι} {op : S.Op} {next : S.Answer op → Program S α}
      {answer : S.Answer op} {shared : σ} (hreach : Reach env M guard start config)
      (hoffers : Program.Offers (config.tasks i) op next)
      (henv : env config.shared i op answer shared)
      (hguard : guard config.shared config.ghosts i op answer) :
      Reach env M guard start (config.advance M i op next answer shared)

/-- An assertion about the shared state and the monitor states that every allowed and expected step
keeps holds in every reached configuration, where all tasks are still safe. -/
theorem Reach.invariant {env : Environment S ι σ} {M : Monitor S G} {guard : Guard S ι σ G}
    {inv : σ → (ι → G) → Prop} {post : ι → α → G → Prop} {start config : Config S ι σ G α}
    (hreach : Reach env M guard start config)
    (hexpect : ∀ shared ghosts i op answer shared', inv shared ghosts →
      env shared i op answer shared' → guard shared ghosts i op answer →
      M.expect (ghosts i) op answer)
    (hstep : ∀ shared ghosts i op answer shared', inv shared ghosts → M.allow (ghosts i) op →
      env shared i op answer shared' → guard shared ghosts i op answer →
      inv shared' (Function.update ghosts i (M.next (ghosts i) op answer)))
    (hstart : inv start.shared start.ghosts)
    (hsafe : ∀ i, (start.tasks i).Safe M (post i) (start.ghosts i)) :
    inv config.shared config.ghosts ∧
      ∀ i, (config.tasks i).Safe M (post i) (config.ghosts i) := by
  induction hreach with
  | start => exact ⟨hstart, hsafe⟩
  | @step config i op next answer shared hreach hoffers henv hguard ih =>
    obtain ⟨hinv, htasks⟩ := ih
    obtain ⟨hallow, hnext⟩ := hoffers.safe (htasks i)
    refine ⟨hstep _ _ _ _ _ _ hinv hallow henv hguard, fun j ↦ ?_⟩
    by_cases hj : j = i
    · subst hj
      simpa [advance] using hnext answer (hexpect _ _ _ _ _ _ hinv henv hguard)
    · simpa [advance, hj] using htasks j

/-- A run over one shared state is a run over its image under `f`, if the steps are. -/
theorem Reach.map {τ : Type} {env : Environment S ι σ} {env' : Environment S ι τ} {M : Monitor S G}
    {guard : Guard S ι σ G} {guard' : Guard S ι τ G} {start config : Config S ι σ G α} (f : σ → τ)
    (henv : ∀ shared i op answer shared', env shared i op answer shared' →
      env' (f shared) i op answer (f shared'))
    (hguard : ∀ shared ghosts i op answer, guard shared ghosts i op answer →
      guard' (f shared) ghosts i op answer)
    (hreach : Reach env M guard start config) :
    Reach env' M guard' ⟨f start.shared, start.ghosts, start.tasks⟩
      ⟨f config.shared, config.ghosts, config.tasks⟩ := by
  induction hreach with
  | start => exact .start
  | step hreach hoffers hstep hmeets ih =>
    exact ih.step hoffers (henv _ _ _ _ _ hstep) (hguard _ _ _ _ _ hmeets)

section Scheduler

/-- The next operation of a program, every pending loop getting `fuel` rounds. -/
def offer (fuel : ℕ) : Program S α → Option ((op : S.Op) × (S.Answer op → Program S α))
  | .ret _ => none
  | .halt => none
  | .call op next => some ⟨op, next⟩
  | .bound next => offer fuel (next fuel)

theorem offers_of_offer {fuel : ℕ} {program : Program S α}
    {offered : (op : S.Op) × (S.Answer op → Program S α)}
    (hoffer : offer fuel program = some offered) :
    Program.Offers program offered.1 offered.2 := by
  induction program with
  | ret value => cases hoffer
  | halt => cases hoffer
  | call op next =>
    cases hoffer
    exact .call op next
  | bound next ih => exact .bound fuel (ih fuel hoffer)

theorem exists_offers {fuel : ℕ} {program : Program S α} {op : S.Op}
    (hoffer : (offer fuel program).map Sigma.fst = some op) :
    ∃ next, Program.Offers program op next := by
  obtain ⟨⟨op', next⟩, hsome, rfl⟩ := Option.map_eq_some_iff.1 hoffer
  exact ⟨next, offers_of_offer hsome⟩

/-- Let the tasks named in `schedule` perform one operation each, in that order, as long as the steps
pass `check`. -/
def run (M : Monitor S G) (respond : σ → ι → (op : S.Op) → Option (S.Answer op × σ))
    (check : σ → (ι → G) → ι → S.Op → Bool) (fuel : ℕ) :
    List ι → Config S ι σ G α → Option (Config S ι σ G α)
  | [], config => some config
  | i :: schedule, config =>
      match offer fuel (config.tasks i) with
      | none => none
      | some ⟨op, next⟩ =>
          if check config.shared config.ghosts i op then
            match respond config.shared i op with
            | none => none
            | some (answer, shared) =>
                run M respond check fuel schedule (config.advance M i op next answer shared)
          else none

theorem reach_run {env : Environment S ι σ} {M : Monitor S G} {guard : Guard S ι σ G}
    {respond : σ → ι → (op : S.Op) → Option (S.Answer op × σ)}
    {check : σ → (ι → G) → ι → S.Op → Bool} {fuel : ℕ} {schedule : List ι}
    {start config final : Config S ι σ G α}
    (hrespond : ∀ shared i op answer shared',
      respond shared i op = some (answer, shared') → env shared i op answer shared')
    (hcheck : ∀ shared ghosts i op answer shared', respond shared i op = some (answer, shared') →
      check shared ghosts i op = true → guard shared ghosts i op answer)
    (hreach : Reach env M guard start config)
    (hrun : run M respond check fuel schedule config = some final) :
    Reach env M guard start final := by
  induction schedule generalizing config with
  | nil =>
    cases hrun
    exact hreach
  | cons i schedule ih =>
    unfold run at hrun
    split at hrun
    · cases hrun
    · next op next hoffer =>
      split at hrun
      · next hchecked =>
        split at hrun
        · cases hrun
        · next answer shared hanswer =>
          exact ih (hreach.step (offers_of_offer hoffer) (hrespond _ _ _ _ _ hanswer)
            (hcheck _ _ _ _ _ _ hanswer hchecked)) hrun
      · cases hrun

end Scheduler

end Config

end CoreEngine.Interaction
