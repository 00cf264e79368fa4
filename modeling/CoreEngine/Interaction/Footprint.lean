import CoreEngine.Interaction.Procedure

/-!
# Footprints

The footprint of a program is a set of operations that contains everything the program may perform.
A monitor that neither objects to these operations nor changes its state on them does not see the
program at all.
-/

namespace CoreEngine.Interaction

/-- The operation is allowed in every state of the monitor, and none of its answers moves the
monitor. -/
def Monitor.Ignores {S : Signature} {G : Type} (M : Monitor S G) (op : S.Op) : Prop :=
  ∀ g, M.allow g op ∧ ∀ answer, M.next g op answer = g

/-- The operation is allowed and keeps an assertion about the monitor and a local state. -/
def Monitor.Keeps {S : Signature} {L G : Type} (M : Monitor S G) (inv : L → G → Prop) (op : S.Op) : Prop :=
  ∀ l g, inv l g → M.allow g op ∧ ∀ answer, M.expect g op answer → inv l (M.next g op answer)

theorem Monitor.Ignores.keeps {S : Signature} {L G : Type} {M : Monitor S G} {inv : L → G → Prop}
    {op : S.Op} (hop : M.Ignores op) : M.Keeps inv op := by
  intro l g hinv
  refine ⟨(hop g).1, fun answer _ ↦ ?_⟩
  rw [(hop g).2 answer]
  exact hinv

namespace Program

variable {S : Signature} {G α β σ : Type} {allowed allowed' : S.Op → Prop}

/-- Every operation the program may perform is in the given set. -/
def Within (allowed : S.Op → Prop) : Program S α → Prop
  | .ret _ => True
  | .halt => True
  | .call op next => allowed op ∧ ∀ answer, (next answer).Within allowed
  | .bound next => ∀ count, (next count).Within allowed

theorem within_bind {program : Program S α} {rest : α → Program S β}
    (hprogram : program.Within allowed) (hrest : ∀ value, (rest value).Within allowed) :
    (program >>= rest).Within allowed := by
  induction program with
  | ret value => exact hrest value
  | halt => trivial
  | call op next ih => exact ⟨hprogram.1, fun answer ↦ ih answer (hprogram.2 answer)⟩
  | bound next ih => exact fun count ↦ ih count (hprogram count)

theorem within_loop {body : σ → Program S (σ ⊕ α)} (hbody : ∀ state, (body state).Within allowed)
    (state : σ) : (loop body state).Within allowed := by
  intro count
  induction count generalizing state with
  | zero => trivial
  | succ count ih =>
    refine within_bind (hbody state) fun result ↦ ?_
    cases result with
    | inl state => exact ih state
    | inr value => trivial

theorem Within.mono {program : Program S α} (hprogram : program.Within allowed)
    (hallowed : ∀ op, allowed op → allowed' op) : program.Within allowed' := by
  induction program with
  | ret value => trivial
  | halt => trivial
  | call op next ih => exact ⟨hallowed op hprogram.1, fun answer ↦ ih answer (hprogram.2 answer)⟩
  | bound next ih => exact fun count ↦ ih count (hprogram count)

/-- A program within operations that keep the assertion `inv` of the monitor state keeps it too. -/
theorem Within.safe {M : Monitor S G} {inv : G → Prop} {program : Program S α}
    (hprogram : program.Within allowed)
    (hallow : ∀ op g, allowed op → inv g → M.allow g op)
    (hnext : ∀ op g answer, allowed op → inv g → M.expect g op answer → inv (M.next g op answer))
    {g : G} (hinv : inv g) : program.Safe M (fun _ ↦ inv) g := by
  induction program generalizing g with
  | ret value => exact hinv
  | halt => trivial
  | call op next ih =>
    refine ⟨hallow op g hprogram.1 hinv, fun answer hanswer ↦ ?_⟩
    exact ih answer (hprogram.2 answer) (hnext op g answer hprogram.1 hinv hanswer)
  | bound next ih => exact fun count ↦ ih count (hprogram count) hinv

/-- `Within` as a class, found from the shape of the program. -/
class Only (S : Signature) {α : Type} (allowed : S.Op → Prop) (program : Program S α) : Prop where
  within : program.Within allowed

instance only_pure (value : α) : Only S allowed (pure value : Program S α) := ⟨trivial⟩

instance only_bind (program : Program S α) (rest : α → Program S β)
    [hprogram : Only S allowed program] [hrest : ∀ value, Only S allowed (rest value)] :
    Only S allowed (program >>= rest) :=
  ⟨within_bind hprogram.within fun value ↦ (hrest value).within⟩

instance only_ite (condition : Prop) [Decidable condition] (yes no : Program S α)
    [hyes : Only S allowed yes] [hno : Only S allowed no] :
    Only S allowed (if condition then yes else no) := by
  split
  · exact hyes
  · exact hno

instance only_loop (body : σ → Program S (σ ⊕ α)) (state : σ)
    [hbody : ∀ state, Only S allowed (body state)] : Only S allowed (loop body state) :=
  ⟨within_loop (fun state ↦ (hbody state).within) state⟩

theorem Only.mono {program : Program S α} (hprogram : Only S allowed program)
    (hallowed : ∀ op, allowed op → allowed' op) : Only S allowed' program :=
  ⟨hprogram.within.mono hallowed⟩

/-- A monitor that ignores everything a program may perform does not see the program. -/
theorem Only.safe_of_ignores {M : Monitor S G} {program : Program S α}
    (hprogram : Only S allowed program) (hignores : ∀ op, allowed op → M.Ignores op) (g : G) :
    program.Safe M (fun _ g' ↦ g' = g) g := by
  refine hprogram.within.safe (fun op g' hop _ ↦ (hignores op hop g').1) ?_ rfl
  intro op g' answer hop hg _
  rw [(hignores op hop g').2 answer, hg]

/-- A procedure whose operations keep an assertion keeps it. -/
theorem Only.stable_of_keeps {L : Type} {M : Monitor S G} {inv : L → G → Prop} {program : Program S α}
    (hprogram : Only S allowed program) (hkeeps : ∀ op, allowed op → M.Keeps inv op) :
    Procedure.Stable M inv (Procedure.lift program) := by
  constructor
  apply Procedure.triple_lift
  intro l g hinv
  apply hprogram.within.safe _ _ hinv
  · intro op g hop hinv
    exact (hkeeps op hop l g hinv).1
  · intro op g answer hop hinv hexpect
    exact (hkeeps op hop l g hinv).2 answer hexpect

theorem only_perform {op : S.Op} (hop : allowed op) : Only S allowed (perform op) :=
  ⟨hop, fun _ ↦ trivial⟩

end Program

end CoreEngine.Interaction
