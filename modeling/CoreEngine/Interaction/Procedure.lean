import CoreEngine.Interaction.Monitor

/-!
# Procedures with a local state

A procedure is a program that also reads and writes a state of its own. Triples relate that state
and the state of a monitor before and after. A procedure is stable when it keeps one assertion from
entry to return; stability is a class, so that it follows for a body from the calls it is made of.
-/

namespace CoreEngine.Interaction

/-- Programs with a local state of type `L`. -/
abbrev Procedure (S : Signature) (L : Type) := StateT L (Program S)

namespace Procedure

variable {S : Signature} {L G α β σ : Type}

/-- A program that leaves the local state alone. -/
def lift (program : Program S α) : Procedure S L α := fun l ↦ program >>= fun value ↦ .ret (value, l)

/-- A single operation. -/
def call (op : S.Op) : Procedure S L (S.Answer op) := lift (.perform op)

/-- The loop of `Program.loop`, with the local state carried along. -/
def loop (body : σ → Procedure S L (σ ⊕ α)) (state : σ) : Procedure S L α := fun l ↦
  Program.loop (fun round : σ × L ↦ body round.1 round.2 >>= fun result ↦
    .ret (result.1.map (·, result.2) (·, result.2))) (state, l)

theorem pure_bind_eq (value : α) (rest : α → Procedure S L β) :
    (pure value : Procedure S L α) >>= rest = rest value := rfl

theorem bind_assoc_eq {γ : Type} (procedure : Procedure S L α) (rest : α → Procedure S L β)
    (last : β → Procedure S L γ) :
    (procedure >>= rest) >>= last = procedure >>= fun value ↦ rest value >>= last := by
  funext l
  exact Program.bind_assoc _ _ _

theorem ite_bind_eq {condition : Prop} [Decidable condition] (yes no : Procedure S L α)
    (rest : α → Procedure S L β) :
    (if condition then yes else no) >>= rest = if condition then yes >>= rest else no >>= rest := by
  split
  · rfl
  · rfl

def Triple (M : Monitor S G) (pre : L → G → Prop) (procedure : Procedure S L α)
    (post : α → L → G → Prop) : Prop :=
  ∀ l g, pre l g → (procedure l).Safe M (fun result g ↦ post result.1 result.2 g) g

variable {M : Monitor S G} {pre pre' : L → G → Prop} {post post' : α → L → G → Prop}

theorem Triple.conseq {procedure : Procedure S L α} (htriple : Triple M pre procedure post)
    (hpre : ∀ l g, pre' l g → pre l g) (hpost : ∀ value l g, post value l g → post' value l g) :
    Triple M pre' procedure post' := by
  intro l g hl
  exact (htriple l g (hpre l g hl)).mono fun result g ↦ hpost result.1 result.2 g

theorem Triple.and {procedure : Procedure S L α} (htriple : Triple M pre procedure post)
    (htriple' : Triple M pre' procedure post') :
    Triple M (fun l g ↦ pre l g ∧ pre' l g) procedure fun value l g ↦
      post value l g ∧ post' value l g :=
  fun l g hl ↦ (htriple l g hl.1).and (htriple' l g hl.2)

/-- What every step keeps still holds on return. -/
theorem Triple.and_keeps {procedure : Procedure S L α} {inv : G → Prop}
    (htriple : Triple M pre procedure post) (hnext : ∀ g op answer, inv g → inv (M.next g op answer)) :
    Triple M (fun l g ↦ pre l g ∧ inv g) procedure fun value l g ↦ post value l g ∧ inv g :=
  fun l g hpre ↦ (htriple l g hpre.1).and_keeps hnext hpre.2

/-- A fact about neither state may be assumed for the procedure. -/
theorem triple_and {fact : Prop} {procedure : Procedure S L α} (htriple : fact → Triple M pre procedure post) :
    Triple M (fun l g ↦ fact ∧ pre l g) procedure post :=
  fun l g hpre ↦ htriple hpre.1 l g hpre.2

theorem triple_pure (value : α) (hpre : ∀ l g, pre l g → post value l g) :
    Triple M pre (pure value : Procedure S L α) post :=
  hpre

theorem triple_bind {procedure : Procedure S L α} {rest : α → Procedure S L β}
    {mid : α → L → G → Prop} {post : β → L → G → Prop} (hfirst : Triple M pre procedure mid)
    (hrest : ∀ value, Triple M (mid value) (rest value) post) :
    Triple M pre (procedure >>= rest) post := by
  intro l g hl
  refine (Program.safe_bind _ _ _ _).2 ((hfirst l g hl).mono fun result g hresult ↦ ?_)
  exact hrest result.1 result.2 g hresult

theorem triple_ite {condition : Prop} [Decidable condition] {yes no : Procedure S L α}
    (hyes : condition → Triple M pre yes post) (hno : ¬condition → Triple M pre no post) :
    Triple M pre (if condition then yes else no) post := by
  split
  · exact hyes ‹_›
  · exact hno ‹_›

theorem triple_lift {program : Program S α}
    (hsafe : ∀ l g, pre l g → program.Safe M (fun value g ↦ post value l g) g) :
    Triple M pre (lift program) post := by
  intro l g hl
  exact (Program.safe_bind _ _ _ _).2 (hsafe l g hl)

theorem triple_call {op : S.Op} {post : S.Answer op → L → G → Prop}
    (hallow : ∀ l g, pre l g → M.allow g op)
    (hnext : ∀ l g answer, pre l g → M.expect g op answer → post answer l (M.next g op answer)) :
    Triple M pre (call op) post :=
  triple_lift fun l g hl ↦ ⟨hallow l g hl, fun answer hanswer ↦ hnext l g answer hl hanswer⟩

theorem triple_get {post : L → L → G → Prop} (hpost : ∀ l g, pre l g → post l l g) :
    Triple M pre (get : Procedure S L L) post :=
  hpost

theorem triple_modify {change : L → L} {post : PUnit → L → G → Prop}
    (hpost : ∀ l g, pre l g → post ⟨⟩ (change l) g) :
    Triple M pre (modify change : Procedure S L PUnit) post :=
  hpost

theorem triple_loop {body : σ → Procedure S L (σ ⊕ α)} (inv : σ → L → G → Prop)
    (hbody : ∀ state, Triple M (inv state) (body state)
      fun result l g ↦ result.elim (inv · l g) (post · l g)) (state : σ) :
    Triple M (inv state) (loop body state) post := by
  intro l g hl
  refine Program.safe_loop (fun round g ↦ inv round.1 round.2 g) (fun round g hround ↦ ?_) hl
  refine (Program.safe_bind _ _ _ _).2 ((hbody round.1 round.2 g hround).mono ?_)
  rintro ⟨result | result, l⟩ g hresult
  · exact hresult
  · exact hresult

/-- `procedure` returns with `inv` whenever it is entered with it. -/
class Stable (M : Monitor S G) (inv : L → G → Prop) (procedure : Procedure S L α) : Prop where
  triple : Triple M inv procedure fun _ ↦ inv

section Stable

variable {inv : L → G → Prop}

instance stable_pure (value : α) : Stable M inv (pure value : Procedure S L α) :=
  ⟨triple_pure value fun _ _ hinv ↦ hinv⟩

instance stable_bind (procedure : Procedure S L α) (rest : α → Procedure S L β)
    [hfirst : Stable M inv procedure] [hrest : ∀ value, Stable M inv (rest value)] :
    Stable M inv (procedure >>= rest) :=
  ⟨triple_bind hfirst.triple fun value ↦ (hrest value).triple⟩

instance stable_ite (condition : Prop) [Decidable condition] (yes no : Procedure S L α)
    [hyes : Stable M inv yes] [hno : Stable M inv no] :
    Stable M inv (if condition then yes else no) :=
  ⟨triple_ite (fun _ ↦ hyes.triple) fun _ ↦ hno.triple⟩

instance stable_elim {γ : Type} (value : Option γ) (none : Procedure S L α)
    (some : γ → Procedure S L α) [hnone : Stable M inv none]
    [hsome : ∀ value, Stable M inv (some value)] : Stable M inv (value.elim none some) := by
  cases value with
  | none => exact hnone
  | some value => exact hsome value

instance stable_sumElim {γ δ : Type} (value : γ ⊕ δ) (left : γ → Procedure S L α)
    (right : δ → Procedure S L α) [hleft : ∀ value, Stable M inv (left value)]
    [hright : ∀ value, Stable M inv (right value)] : Stable M inv (value.elim left right) := by
  cases value with
  | inl value => exact hleft value
  | inr value => exact hright value

instance stable_get : Stable M inv (get : Procedure S L L) :=
  ⟨triple_get fun _ _ hinv ↦ hinv⟩

theorem stable_modify {change : L → L} (hchange : ∀ l g, inv l g → inv (change l) g) :
    Stable M inv (modify change : Procedure S L PUnit) :=
  ⟨triple_modify hchange⟩

/-- An assertion about the monitor alone that every step keeps. -/
theorem stable_of_keeps {inv : G → Prop} (hallow : ∀ g op, inv g → M.allow g op)
    (hnext : ∀ g op answer, inv g → inv (M.next g op answer)) (procedure : Procedure S L α) :
    Stable M (fun _ ↦ inv) procedure :=
  ⟨fun l _ hinv ↦ Program.safe_of_keeps hallow hnext (procedure l) hinv⟩

theorem stable_lift {program : Program S α} (hsafe : ∀ g, program.Safe M (fun _ g' ↦ g' = g) g) :
    Stable M inv (lift program : Procedure S L α) := by
  refine ⟨triple_lift fun l g hinv ↦ (hsafe g).mono fun _ g' hg ↦ ?_⟩
  rw [hg]
  exact hinv

instance stable_loop (body : σ → Procedure S L (σ ⊕ α)) (state : σ)
    [hbody : ∀ state, Stable M inv (body state)] : Stable M inv (loop body state) := by
  refine ⟨triple_loop (fun _ ↦ inv) (fun state ↦ ?_) state⟩
  refine (hbody state).triple.conseq (fun _ _ hinv ↦ hinv) ?_
  rintro (result | result) l g hinv
  · exact hinv
  · exact hinv

end Stable

end Procedure

end CoreEngine.Interaction
