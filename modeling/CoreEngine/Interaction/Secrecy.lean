import CoreEngine.Interaction.Procedure

/-!
# Hidden inputs

Some operations are answered by what is neither part of the input nor of the environment. A program is
steady if nothing that is observed of it depends on these answers: in one and the same environment, it
shows the same events and returns the same value whatever they are.
-/

namespace CoreEngine.Interaction

/-- An environment that computes its answers from a state. -/
abbrev Responder (S : Signature) (σ : Type) := σ → (op : S.Op) → Option (S.Answer op × σ)

/-- Which operations have hidden answers, and which ones are looked at. -/
structure Visibility (S : Signature) where
  hidden : S.Op → Bool
  observed : S.Op → Bool
  unobserved (op : S.Op) (hop : hidden op = true) : observed op = false

variable {S : Signature} {L G α β σ : Type} {V : Visibility S}

/-- What the hidden operations are answered with, one after the other. -/
abbrev Secrets (V : Visibility S) := ℕ → (op : S.Op) → V.hidden op = true → S.Answer op

namespace Responder

/-- Answer the hidden operations as well, and count them. -/
def conceal (respond : Responder S σ) (secrets : Secrets V) : Responder S (σ × ℕ) := fun state op ↦
  if hop : V.hidden op = true then some (secrets state.2 op hop, (state.1, state.2 + 1))
  else (respond state.1 op).map fun reply ↦ (reply.1, (reply.2, state.2))

/-- All answers are expected ones. -/
def Meets (respond : Responder S σ) (expect : (op : S.Op) → S.Answer op → Prop) : Prop :=
  ∀ state op answer state', respond state op = some (answer, state') → expect op answer

end Responder

namespace Program

/-- What is observed of a run, and the value and the state in which it has returned. -/
def outcome (respond : Responder S σ) (secrets : Secrets V) (fuel : ℕ) (program : Program S α)
    (state : σ × ℕ) : List (Event S) × Option (α × σ) :=
  let result := program.exec (respond.conceal secrets) fuel state
  (result.1.filter (V.observed ·.1), result.2.1.result?.map (·, result.2.2.1))

/-- In every environment with expected answers, both programs have the same outcome, whatever the hidden
answers each of them gets. -/
def Alike (V : Visibility S) (expect : (op : S.Op) → S.Answer op → Prop) (program program' : Program S α) :
    Prop :=
  ∀ (σ : Type) (respond : Responder S σ), respond.Meets expect →
    ∀ (secrets secrets' : Secrets V) (fuel : ℕ) (state : σ) (k k' : ℕ),
      program.outcome respond secrets fuel (state, k) = program'.outcome respond secrets' fuel (state, k')

/-- In every environment with expected answers, the outcome does not depend on the hidden answers. -/
abbrev Steady (V : Visibility S) (expect : (op : S.Op) → S.Answer op → Prop) (program : Program S α) : Prop :=
  Alike V expect program program

section Outcome

variable (respond : Responder S σ) (secrets : Secrets V) (fuel : ℕ)

theorem outcome_ret (value : α) (state : σ × ℕ) :
    (.ret value : Program S α).outcome respond secrets fuel state = ([], some (value, state.1)) := rfl

theorem outcome_hidden {op : S.Op} (hop : V.hidden op = true) (next : S.Answer op → Program S α)
    (state : σ × ℕ) : (.call op next : Program S α).outcome respond secrets fuel state =
      (next (secrets state.2 op hop)).outcome respond secrets fuel (state.1, state.2 + 1) := by
  have hanswer : respond.conceal secrets state op =
      some (secrets state.2 op hop, (state.1, state.2 + 1)) := dif_pos hop
  unfold outcome
  rw [exec]
  simp only [hanswer]
  rw [List.filter_cons_of_neg (by simp [V.unobserved op hop])]

theorem outcome_call {op : S.Op} (hop : V.hidden op = false) (next : S.Answer op → Program S α)
    (state : σ) (k : ℕ) : (.call op next : Program S α).outcome respond secrets fuel (state, k) =
      match respond state op with
      | none => ([], none)
      | some (answer, state') =>
          let result := (next answer).outcome respond secrets fuel (state', k)
          (if V.observed op then ⟨op, answer⟩ :: result.1 else result.1, result.2) := by
  have hanswer : respond.conceal secrets (state, k) op =
      (respond state op).map fun reply ↦ (reply.1, (reply.2, k)) := dif_neg (by simp [hop])
  unfold outcome
  rw [exec]
  cases hrespond : respond state op with
  | none => simp [hanswer, hrespond, result?]
  | some reply => simp [hanswer, hrespond, List.filter_cons]

/-- The outcome of a sequence is the outcome of its second part, behind what was observed of the first. -/
theorem outcome_bind (program : Program S α) (rest : α → Program S β) (state : σ × ℕ) :
    ∃ k, (program >>= rest).outcome respond secrets fuel state =
      match program.outcome respond secrets fuel state with
      | (trace, none) => (trace, none)
      | (trace, some (value, state')) =>
          let result := (rest value).outcome respond secrets fuel (state', k)
          (trace ++ result.1, result.2) := by
  induction program generalizing state with
  | ret value =>
    refine ⟨state.2, ?_⟩
    rw [outcome_ret]
    rfl
  | halt => exact ⟨0, rfl⟩
  | bound next ih => exact ih fuel state
  | call op next ih =>
    rw [call_bind]
    cases hop : V.hidden op with
    | true =>
      rw [outcome_hidden _ _ _ hop, outcome_hidden _ _ _ hop]
      exact ih _ _
    | false =>
      obtain ⟨state, k⟩ := state
      rw [outcome_call _ _ _ hop, outcome_call _ _ _ hop]
      cases respond state op with
      | none => exact ⟨0, rfl⟩
      | some reply =>
        obtain ⟨k', hrest⟩ := ih reply.1 (reply.2, k)
        refine ⟨k', ?_⟩
        simp only [hrest]
        rcases (next reply.1).outcome respond secrets fuel (reply.2, k) with ⟨trace, _ | ⟨value, state'⟩⟩
        · rfl
        · cases V.observed op <;> rfl

end Outcome

section Rules

variable {expect : (op : S.Op) → S.Answer op → Prop}

theorem steady_ret (value : α) : (.ret value : Program S α).Steady V expect :=
  fun _ _ _ _ _ _ _ _ _ ↦ rfl

theorem steady_halt : (.halt : Program S α).Steady V expect :=
  fun _ _ _ _ _ _ _ _ _ ↦ rfl

theorem alike_call {op : S.Op} (hop : V.hidden op = false) {next next' : S.Answer op → Program S α}
    (hnext : ∀ answer, expect op answer → (next answer).Alike V expect (next' answer)) :
    (.call op next : Program S α).Alike V expect (.call op next') := by
  intro σ respond hmeets secrets secrets' fuel state k k'
  rw [outcome_call _ _ _ hop, outcome_call _ _ _ hop]
  cases hrespond : respond state op with
  | none => rfl
  | some reply =>
    have hanswer := hmeets state op reply.1 reply.2 hrespond
    simp only [hnext reply.1 hanswer σ respond hmeets secrets secrets' fuel reply.2 k k']

theorem steady_call {op : S.Op} (hop : V.hidden op = false) {next : S.Answer op → Program S α}
    (hnext : ∀ answer, expect op answer → (next answer).Steady V expect) :
    (.call op next : Program S α).Steady V expect :=
  alike_call hop hnext

/-- A hidden answer that makes no difference. -/
theorem steady_of_alike {op : S.Op} (hop : V.hidden op = true) {next : S.Answer op → Program S α}
    (hnext : ∀ answer answer', (next answer).Alike V expect (next answer')) :
    (.call op next : Program S α).Steady V expect := by
  intro σ respond hmeets secrets secrets' fuel state k k'
  rw [outcome_hidden _ _ _ hop, outcome_hidden _ _ _ hop]
  exact hnext _ _ σ respond hmeets secrets secrets' fuel state (k + 1) (k' + 1)

/-- A hidden answer that nothing is made of. -/
theorem steady_hidden {op : S.Op} (hop : V.hidden op = true) {next : S.Answer op → Program S α}
    {rest : Program S α} (hnext : ∀ answer, next answer = rest) (hrest : rest.Steady V expect) :
    (.call op next : Program S α).Steady V expect := by
  apply steady_of_alike hop
  intro answer answer'
  rw [hnext answer, hnext answer']
  exact hrest

theorem steady_bound {next : ℕ → Program S α} (hnext : ∀ count, (next count).Steady V expect) :
    (.bound next : Program S α).Steady V expect :=
  fun σ respond hmeets secrets secrets' fuel state k k' ↦
    hnext fuel σ respond hmeets secrets secrets' fuel state k k'

theorem Steady.bind {program : Program S α} {rest : α → Program S β} (hprogram : program.Steady V expect)
    (hrest : ∀ value, (rest value).Steady V expect) : (program >>= rest).Steady V expect := by
  intro σ respond hmeets secrets secrets' fuel state k k'
  obtain ⟨k₁, hfirst⟩ := outcome_bind respond secrets fuel program rest (state, k)
  obtain ⟨k₂, hsecond⟩ := outcome_bind respond secrets' fuel program rest (state, k')
  rw [hfirst, hsecond, hprogram σ respond hmeets secrets secrets' fuel state k k']
  rcases program.outcome respond secrets' fuel (state, k') with ⟨trace, _ | ⟨value, state'⟩⟩
  · rfl
  · simp only [hrest value σ respond hmeets secrets secrets' fuel state' k₁ k₂]

theorem steady_rounds {body : σ → Program S (σ ⊕ α)} (hbody : ∀ state, (body state).Steady V expect)
    (count : ℕ) (state : σ) : (rounds body count state).Steady V expect := by
  induction count generalizing state with
  | zero => exact steady_halt
  | succ count ih =>
    apply (hbody state).bind
    intro result
    cases result with
    | inl state => exact ih state
    | inr value => exact steady_ret value

theorem steady_loop {body : σ → Program S (σ ⊕ α)} (hbody : ∀ state, (body state).Steady V expect)
    (state : σ) : (loop body state).Steady V expect :=
  steady_bound fun count ↦ steady_rounds hbody count state

/-- What is safe under a monitor that objects to hidden operations is steady, and so is what follows it. -/
theorem Safe.steady_bind {M : Monitor S G} (hallow : ∀ g op, M.allow g op → V.hidden op = false)
    (hexpect : ∀ g op answer, expect op answer → M.expect g op answer) {program : Program S α}
    {rest : α → Program S β} {post : α → G → Prop} {g : G} (hsafe : program.Safe M post g)
    (hrest : ∀ value g, post value g → (rest value).Steady V expect) :
    (program >>= rest).Steady V expect := by
  induction program generalizing g with
  | ret value => exact hrest value g hsafe
  | halt => exact steady_halt
  | call op next ih =>
    apply steady_call (hallow g op hsafe.1)
    intro answer hanswer
    exact ih answer (hsafe.2 answer (hexpect g op answer hanswer))
  | bound next ih => exact steady_bound fun count ↦ ih count (hsafe count)

theorem Safe.steady {M : Monitor S G} (hallow : ∀ g op, M.allow g op → V.hidden op = false)
    (hexpect : ∀ g op answer, expect op answer → M.expect g op answer) {program : Program S α}
    {post : α → G → Prop} {g : G} (hsafe : program.Safe M post g) : program.Steady V expect := by
  rw [← bind_ret program]
  exact hsafe.steady_bind hallow hexpect fun value _ _ ↦ steady_ret value

end Rules

end Program

namespace Procedure

/-- A procedure that is steady whatever its local state. -/
class Steady (V : Visibility S) (expect : (op : S.Op) → S.Answer op → Prop) (procedure : Procedure S L α) :
    Prop where
  steady (l : L) : (procedure l).Steady V expect

variable {expect : (op : S.Op) → S.Answer op → Prop}

instance steady_pure (value : α) : Steady V expect (pure value : Procedure S L α) :=
  ⟨fun _ ↦ Program.steady_ret _⟩

instance steady_bind (procedure : Procedure S L α) (rest : α → Procedure S L β)
    [hfirst : Steady V expect procedure] [hrest : ∀ value, Steady V expect (rest value)] :
    Steady V expect (procedure >>= rest) :=
  ⟨fun l ↦ (hfirst.steady l).bind fun result ↦ (hrest result.1).steady result.2⟩

instance steady_ite (condition : Prop) [Decidable condition] (yes no : Procedure S L α)
    [hyes : Steady V expect yes] [hno : Steady V expect no] :
    Steady V expect (if condition then yes else no) := by
  split
  · exact hyes
  · exact hno

instance steady_elim {γ : Type} (value : Option γ) (none : Procedure S L α) (some : γ → Procedure S L α)
    [hnone : Steady V expect none] [hsome : ∀ value, Steady V expect (some value)] :
    Steady V expect (value.elim none some) := by
  cases value with
  | none => exact hnone
  | some value => exact hsome value

instance steady_loop {τ : Type} (body : τ → Procedure S L (τ ⊕ α)) (state : τ)
    [hbody : ∀ state, Steady V expect (body state)] : Steady V expect (loop body state) := by
  constructor
  intro l
  apply Program.steady_loop
  intro round
  exact ((hbody round.1).steady round.2).bind fun _ ↦ Program.steady_ret _

end Procedure

end CoreEngine.Interaction
