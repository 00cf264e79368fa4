import CoreEngine.Interaction.Program

/-!
# Monitors and partial correctness

A monitor watches the events of one program and keeps a state of its own. It says which operations
are allowed in that state, which answers are expected from the environment, and how the state moves.
`Safe` is the weakest liberal precondition of a program under a monitor: whatever expected answers
arrive, every operation performed is allowed, and the postcondition holds on return. Its soundness
theorem speaks about all runs, finished or not.
-/

namespace CoreEngine.Interaction

structure Monitor (S : Signature) (G : Type) where
  allow : G → S.Op → Prop
  expect : G → (op : S.Op) → S.Answer op → Prop
  next : G → (op : S.Op) → S.Answer op → G

namespace Monitor

variable {S : Signature} {G : Type} (M : Monitor S G)

/-- The monitor state after a trace. -/
def after (g : G) : List (Event S) → G
  | [] => g
  | event :: trace => after (M.next g event.1 event.2) trace

/-- Every operation of the trace is allowed when it is performed. -/
def Accepts (g : G) : List (Event S) → Prop
  | [] => True
  | event :: trace => M.allow g event.1 ∧ Accepts (M.next g event.1 event.2) trace

/-- Every answer of the trace is one the monitor expects. -/
def Meets (g : G) : List (Event S) → Prop
  | [] => True
  | event :: trace => M.expect g event.1 event.2 ∧ Meets (M.next g event.1 event.2) trace

theorem after_append (g : G) (first second : List (Event S)) :
    M.after g (first ++ second) = M.after (M.after g first) second := by
  induction first generalizing g with
  | nil => rfl
  | cons event trace ih => exact ih _

theorem accepts_append (g : G) (first second : List (Event S)) :
    M.Accepts g (first ++ second) ↔ M.Accepts g first ∧ M.Accepts (M.after g first) second := by
  induction first generalizing g with
  | nil => simp [Accepts, after]
  | cons event trace ih => simp [Accepts, after, ih, and_assoc]

theorem meets_append (g : G) (first second : List (Event S)) :
    M.Meets g (first ++ second) ↔ M.Meets g first ∧ M.Meets (M.after g first) second := by
  induction first generalizing g with
  | nil => simp [Meets, after]
  | cons event trace ih => simp [Meets, after, ih, and_assoc]

/-- A monitor that expects anything is met by every trace. -/
theorem meets_of_expect (hexpect : ∀ g op answer, M.expect g op answer) (g : G)
    (trace : List (Event S)) : M.Meets g trace := by
  induction trace generalizing g with
  | nil => trivial
  | cons event trace ih => exact ⟨hexpect g event.1 event.2, ih _⟩

end Monitor

namespace Program

variable {S : Signature} {G α β σ : Type} {M : Monitor S G}

def Safe (M : Monitor S G) : Program S α → (α → G → Prop) → G → Prop
  | .ret value, post, g => post value g
  | .halt, _, _ => True
  | .call op next, post, g =>
      M.allow g op ∧ ∀ answer, M.expect g op answer → (next answer).Safe M post (M.next g op answer)
  | .bound next, post, g => ∀ count, (next count).Safe M post g

theorem Safe.mono {program : Program S α} {post post' : α → G → Prop} {g : G}
    (hsafe : program.Safe M post g) (hpost : ∀ value g, post value g → post' value g) :
    program.Safe M post' g := by
  induction program generalizing g with
  | ret value => exact hpost value g hsafe
  | halt => trivial
  | call op next ih => exact ⟨hsafe.1, fun answer hanswer ↦ ih answer (hsafe.2 answer hanswer)⟩
  | bound next ih => exact fun count ↦ ih count (hsafe count)

theorem Safe.and {program : Program S α} {post post' : α → G → Prop} {g : G}
    (hsafe : program.Safe M post g) (hsafe' : program.Safe M post' g) :
    program.Safe M (fun value g ↦ post value g ∧ post' value g) g := by
  induction program generalizing g with
  | ret value => exact ⟨hsafe, hsafe'⟩
  | halt => trivial
  | call op next ih =>
    exact ⟨hsafe.1, fun answer hanswer ↦ ih answer (hsafe.2 answer hanswer) (hsafe'.2 answer hanswer)⟩
  | bound next ih => exact fun count ↦ ih count (hsafe count) (hsafe' count)

/-- An assertion under which the monitor objects to nothing, and which every step keeps. -/
theorem safe_of_keeps {inv : G → Prop} (hallow : ∀ g op, inv g → M.allow g op)
    (hnext : ∀ g op answer, inv g → inv (M.next g op answer)) (program : Program S α) {g : G}
    (hinv : inv g) : program.Safe M (fun _ ↦ inv) g := by
  induction program generalizing g with
  | ret value => exact hinv
  | halt => trivial
  | call op next ih => exact ⟨hallow g op hinv, fun answer _ ↦ ih answer (hnext g op answer hinv)⟩
  | bound next ih => exact fun count ↦ ih count hinv

/-- What every step keeps still holds on return. -/
theorem Safe.and_keeps {program : Program S α} {post : α → G → Prop} {inv : G → Prop} {g : G}
    (hsafe : program.Safe M post g) (hnext : ∀ g op answer, inv g → inv (M.next g op answer))
    (hinv : inv g) : program.Safe M (fun value g ↦ post value g ∧ inv g) g := by
  induction program generalizing g with
  | ret value => exact ⟨hsafe, hinv⟩
  | halt => trivial
  | call op next ih =>
    exact ⟨hsafe.1, fun answer hanswer ↦ ih answer (hsafe.2 answer hanswer) (hnext g op answer hinv)⟩
  | bound next ih => exact fun count ↦ ih count (hsafe count) hinv

theorem safe_bind (program : Program S α) (rest : α → Program S β) (post : β → G → Prop) (g : G) :
    (program >>= rest).Safe M post g ↔
      program.Safe M (fun value g ↦ (rest value).Safe M post g) g := by
  induction program generalizing g with
  | ret value => rfl
  | halt => rfl
  | call op next ih => simp only [call_bind, Safe, ih]
  | bound next ih => simp only [bound_bind, Safe, ih]

/-- Loop rule: the invariant `inv` holds at the start of every round. -/
theorem safe_loop {body : σ → Program S (σ ⊕ α)} (inv : σ → G → Prop) {post : α → G → Prop}
    (hbody : ∀ state g, inv state g →
      (body state).Safe M (fun result g ↦ result.elim (inv · g) (post · g)) g)
    {state : σ} {g : G} (hinv : inv state g) : (loop body state).Safe M post g := by
  intro count
  induction count generalizing state g with
  | zero => trivial
  | succ count ih =>
    unfold rounds
    rw [safe_bind]
    refine (hbody state g hinv).mono fun result g hresult ↦ ?_
    cases result with
    | inl state => exact ih hresult
    | inr value => exact hresult

/-- Along every run with expected answers the monitor accepts, and what is left to run stays safe
from the monitor state reached. -/
theorem Run.safe {program final : Program S α} {trace : List (Event S)} {post : α → G → Prop} {g : G}
    (hrun : Run program trace final) (hsafe : program.Safe M post g) (hmeets : M.Meets g trace) :
    M.Accepts g trace ∧ final.Safe M post (M.after g trace) := by
  induction hrun generalizing g with
  | done program => exact ⟨trivial, hsafe⟩
  | call rest ih =>
    obtain ⟨haccept, hfinal⟩ := ih (hsafe.2 _ hmeets.1) hmeets.2
    exact ⟨⟨hsafe.1, haccept⟩, hfinal⟩
  | bound rest ih => exact ih (hsafe _) hmeets

/-- The postcondition holds when a run returns. -/
theorem Run.returns {program : Program S α} {value : α} {trace : List (Event S)}
    {post : α → G → Prop} {g : G} (hrun : Run program trace (.ret value))
    (hsafe : program.Safe M post g) (hmeets : M.Meets g trace) : post value (M.after g trace) :=
  (hrun.safe hsafe hmeets).2

/-- A run that meets another monitor `N`, with an assertion about both monitor states that every
allowed and expected step keeps: the assertion and the postcondition hold together on return. -/
theorem Run.simulates {H : Type} {N : Monitor S H} {inv : G → H → Prop} {program : Program S α}
    {value : α} {trace : List (Event S)} {post : α → G → Prop} {g : G} {h : H}
    (hrun : Run program trace (.ret value)) (hsafe : program.Safe M post g)
    (hexpect : ∀ g h op answer, inv g h → N.expect h op answer → M.expect g op answer)
    (hstep : ∀ g h op answer, inv g h → M.allow g op → N.expect h op answer →
      inv (M.next g op answer) (N.next h op answer))
    (hinv : inv g h) (hmeets : N.Meets h trace) :
    ∃ g', inv g' (N.after h trace) ∧ post value g' := by
  generalize hfinal : (Program.ret value : Program S α) = final at hrun
  induction hrun generalizing g h with
  | done program =>
    subst hfinal
    exact ⟨g, hinv, hsafe⟩
  | call rest ih =>
    obtain ⟨hallow, hnext⟩ := hsafe
    exact ih (hnext _ (hexpect g h _ _ hinv hmeets.1)) (hstep g h _ _ hinv hallow hmeets.1) hmeets.2
      hfinal
  | bound rest ih => exact ih (hsafe _) hinv hmeets hfinal

/-- A safe program offers only allowed operations, and stays safe after an expected answer. -/
theorem Offers.safe {program : Program S α} {op : S.Op} {next : S.Answer op → Program S α}
    {post : α → G → Prop} {g : G} (hoffers : Offers program op next)
    (hsafe : program.Safe M post g) :
    M.allow g op ∧
      ∀ answer, M.expect g op answer → (next answer).Safe M post (M.next g op answer) := by
  induction hoffers with
  | call op next => exact hsafe
  | bound count rest ih => exact ih (hsafe count)

end Program

end CoreEngine.Interaction
