import Mathlib.Logic.Basic
import Mathlib.Data.Nat.Notation

/-!
# Programs that talk to an environment

A program either returns, stops for good, or performs an operation and continues with the answer.
Operations are uninterpreted, so every claim about a program is a claim about all the answers its
environment may give. Loops ask the environment for a bound on their number of rounds: a run of
the unbounded loop, and every prefix of a diverging one, is a run for some bound.
-/

namespace CoreEngine.Interaction

/-- The operations a program can perform, each with the type of its answers. -/
structure Signature where
  Op : Type
  Answer : Op → Type

/-- One performed operation together with the answer it got. -/
abbrev Event (S : Signature) := (op : S.Op) × S.Answer op

inductive Program (S : Signature) (α : Type) : Type
  | ret (value : α)
  | halt
  | call (op : S.Op) (next : S.Answer op → Program S α)
  | bound (next : ℕ → Program S α)

namespace Program

variable {S : Signature} {α β γ σ : Type}

def bind (program : Program S α) (rest : α → Program S β) : Program S β :=
  match program with
  | .ret value => rest value
  | .halt => .halt
  | .call op next => .call op fun answer ↦ (next answer).bind rest
  | .bound next => .bound fun rounds ↦ (next rounds).bind rest

instance : Monad (Program S) where
  pure := .ret
  bind := bind

@[simp] theorem pure_eq_ret (value : α) : (pure value : Program S α) = .ret value := rfl

@[simp] theorem ret_bind (value : α) (rest : α → Program S β) :
    (.ret value : Program S α) >>= rest = rest value := rfl

@[simp] theorem halt_bind (rest : α → Program S β) :
    (.halt : Program S α) >>= rest = .halt := rfl

@[simp] theorem call_bind (op : S.Op) (next : S.Answer op → Program S α) (rest : α → Program S β) :
    (.call op next : Program S α) >>= rest = .call op fun answer ↦ next answer >>= rest := rfl

@[simp] theorem bound_bind (next : ℕ → Program S α) (rest : α → Program S β) :
    (.bound next : Program S α) >>= rest = .bound fun rounds ↦ next rounds >>= rest := rfl

theorem bind_ret (program : Program S α) : program >>= .ret = program := by
  induction program with
  | ret value => rfl
  | halt => rfl
  | call op next ih =>
    rw [call_bind]
    congr 1
    funext answer
    exact ih answer
  | bound next ih =>
    rw [bound_bind]
    congr 1
    funext count
    exact ih count

theorem bind_assoc (program : Program S α) (rest : α → Program S β) (last : β → Program S γ) :
    (program >>= rest) >>= last = program >>= fun value ↦ rest value >>= last := by
  induction program with
  | ret value => rfl
  | halt => rfl
  | call op next ih =>
    simp only [call_bind]
    congr 1
    funext answer
    exact ih answer
  | bound next ih =>
    simp only [bound_bind]
    congr 1
    funext count
    exact ih count

/-- A single operation. -/
def perform (op : S.Op) : Program S (S.Answer op) := .call op .ret

/-- At most the given number of rounds; `Sum.inl` asks for another round. -/
def rounds (body : σ → Program S (σ ⊕ α)) : ℕ → σ → Program S α
  | 0, _ => .halt
  | count + 1, state => body state >>= Sum.elim (rounds body count) .ret

/-- The loop, with as many rounds as the environment grants it. -/
def loop (body : σ → Program S (σ ⊕ α)) (state : σ) : Program S α :=
  .bound fun count ↦ rounds body count state

/-- `Run p trace q`: performing the events of `trace`, the program `p` becomes `q`. -/
inductive Run : Program S α → List (Event S) → Program S α → Prop
  | done (program : Program S α) : Run program [] program
  | call {op : S.Op} {next : S.Answer op → Program S α} {answer : S.Answer op}
      {trace : List (Event S)} {final : Program S α} (rest : Run (next answer) trace final) :
      Run (.call op next) (⟨op, answer⟩ :: trace) final
  | bound {next : ℕ → Program S α} {count : ℕ} {trace : List (Event S)} {final : Program S α}
      (rest : Run (next count) trace final) : Run (.bound next) trace final

/-- A finished run of two programs in sequence is a finished run of each. -/
theorem run_bind_iff {program : Program S α} {rest : α → Program S β} {trace : List (Event S)} {value : β} :
    Run (program >>= rest) trace (.ret value) ↔
      ∃ mid first second, trace = first ++ second ∧ Run program first (.ret mid) ∧
        Run (rest mid) second (.ret value) := by
  constructor
  · intro hrun
    induction program generalizing trace with
    | ret mid => exact ⟨mid, [], trace, rfl, .done _, hrun⟩
    | halt => cases hrun
    | call op next ih =>
      rw [call_bind] at hrun
      cases hrun with
      | call hnext =>
        obtain ⟨mid, first, second, rfl, hfirst, hsecond⟩ := ih _ hnext
        exact ⟨mid, _ :: first, second, rfl, .call hfirst, hsecond⟩
    | bound next ih =>
      rw [bound_bind] at hrun
      cases hrun with
      | bound hnext =>
        obtain ⟨mid, first, second, rfl, hfirst, hsecond⟩ := ih _ hnext
        exact ⟨mid, first, second, rfl, .bound hfirst, hsecond⟩
  · rintro ⟨mid, first, second, rfl, hfirst, hsecond⟩
    generalize hfinal : (Program.ret mid : Program S α) = final at hfirst
    induction hfirst with
    | done program =>
      subst hfinal
      exact hsecond
    | call _ ih => exact .call (ih hfinal)
    | bound _ ih => exact .bound (ih hfinal)

theorem run_ret_iff {value value' : α} {trace : List (Event S)} :
    Run (.ret value) trace (.ret value') ↔ trace = [] ∧ value = value' := by
  constructor
  · intro hrun
    cases hrun
    exact ⟨rfl, rfl⟩
  · rintro ⟨rfl, rfl⟩
    exact .done _

theorem run_perform_bind_iff {op : S.Op} {rest : S.Answer op → Program S α} {trace : List (Event S)} {value : α} :
    Run (perform op >>= rest) trace (.ret value) ↔
      ∃ answer tail, trace = ⟨op, answer⟩ :: tail ∧ Run (rest answer) tail (.ret value) := by
  constructor
  · intro hrun
    cases hrun with
    | call hrest => exact ⟨_, _, rfl, hrest⟩
  · rintro ⟨answer, tail, rfl, hrest⟩
    exact .call hrest

/-- What holds of a finished loop: it holds of the last round, and of one round more. -/
theorem run_loop_induction {body : σ → Program S (σ ⊕ α)} {motive : σ → List (Event S) → α → Prop}
    (hstop : ∀ state trace value, Run (body state) trace (.ret (.inr value)) → motive state trace value)
    (hnext : ∀ state next first rest value, Run (body state) first (.ret (.inl next)) →
      motive next rest value → motive state (first ++ rest) value)
    {state : σ} {trace : List (Event S)} {value : α} (hrun : Run (loop body state) trace (.ret value)) :
    motive state trace value := by
  cases hrun with
  | @bound _ count _ _ hrounds =>
    induction count generalizing state trace with
    | zero => cases hrounds
    | succ count ih =>
      obtain ⟨step, first, rest, rfl, hfirst, hrest⟩ := run_bind_iff.1 hrounds
      cases step with
      | inl next => exact hnext _ _ _ _ _ hfirst (ih hrest)
      | inr last =>
        obtain ⟨rfl, rfl⟩ := run_ret_iff.1 hrest
        rw [List.append_nil]
        exact hstop _ _ _ hfirst

/-- The value a finished program has returned. -/
def result? : Program S α → Option α
  | .ret value => some value
  | _ => none

theorem eq_ret_of_result? {program : Program S α} {value : α} (hresult : program.result? = some value) :
    program = .ret value := by
  cases program <;> simp_all [result?]

/-- The operation a program is about to perform, once its pending loops have their bound. -/
inductive Offers : Program S α → (op : S.Op) → (S.Answer op → Program S α) → Prop
  | call (op : S.Op) (next : S.Answer op → Program S α) : Offers (.call op next) op next
  | bound {op : S.Op} {next : S.Answer op → Program S α} {choice : ℕ → Program S α} (count : ℕ)
      (rest : Offers (choice count) op next) : Offers (.bound choice) op next

/-- Run a program against answers computed from a state, every loop getting `fuel` rounds.
A missing answer leaves the program waiting. -/
def exec (respond : σ → (op : S.Op) → Option (S.Answer op × σ)) (fuel : ℕ) :
    Program S α → σ → List (Event S) × Program S α × σ
  | .ret value, state => ([], .ret value, state)
  | .halt, state => ([], .halt, state)
  | .call op next, state =>
      match respond state op with
      | none => ([], .call op next, state)
      | some (answer, state') =>
          let (trace, final) := exec respond fuel (next answer) state'
          (⟨op, answer⟩ :: trace, final)
  | .bound next, state => exec respond fuel (next fuel) state

/-- What `exec` computes is a run. -/
theorem run_exec (respond : σ → (op : S.Op) → Option (S.Answer op × σ)) (fuel : ℕ)
    (program : Program S α) (state : σ) :
    Run program (exec respond fuel program state).1 (exec respond fuel program state).2.1 := by
  induction program generalizing state with
  | ret value => exact .done _
  | halt => exact .done _
  | call op next ih =>
    unfold exec
    cases hrespond : respond state op with
    | none => exact .done _
    | some pair => exact .call (ih pair.1 pair.2)
  | bound next ih => exact .bound (ih fuel state)

end Program

end CoreEngine.Interaction
