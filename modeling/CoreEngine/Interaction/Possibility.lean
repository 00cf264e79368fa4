import CoreEngine.Interaction.Procedure

/-!
# Possible runs

`May` is the counterpart of `Safe`: some expected answers lead the program to return with the
postcondition. It is what a run that shows a defect is built from, for all inputs at once. A program
that is safe and may return is totally correct.
-/

namespace CoreEngine.Interaction

namespace Program

variable {S : Signature} {G α β σ : Type} {M : Monitor S G}

def May (M : Monitor S G) : Program S α → (α → G → Prop) → G → Prop
  | .ret value, post, g => post value g
  | .halt, _, _ => False
  | .call op next, post, g =>
      ∃ answer, M.expect g op answer ∧ (next answer).May M post (M.next g op answer)
  | .bound next, post, g => ∃ count, (next count).May M post g

theorem may_bind (program : Program S α) (rest : α → Program S β) (post : β → G → Prop) (g : G) :
    (program >>= rest).May M post g ↔
      program.May M (fun value g ↦ (rest value).May M post g) g := by
  induction program generalizing g with
  | ret value => rfl
  | halt => rfl
  | call op next ih => simp only [call_bind, May, ih]
  | bound next ih => simp only [bound_bind, May, ih]

/-- A possible outcome is an actual one. -/
theorem May.exists_run {program : Program S α} {post : α → G → Prop} {g : G}
    (hmay : program.May M post g) :
    ∃ trace value, Run program trace (.ret value) ∧ M.Meets g trace ∧ post value (M.after g trace) := by
  induction program generalizing g with
  | ret value => exact ⟨[], value, .done _, trivial, hmay⟩
  | halt => exact hmay.elim
  | call op next ih =>
    obtain ⟨answer, hexpect, hnext⟩ := hmay
    obtain ⟨trace, value, hrun, hmeets, hpost⟩ := ih answer hnext
    exact ⟨⟨op, answer⟩ :: trace, value, .call hrun, ⟨hexpect, hmeets⟩, hpost⟩
  | bound next ih =>
    obtain ⟨count, hnext⟩ := hmay
    obtain ⟨trace, value, hrun, hmeets, hpost⟩ := ih count hnext
    exact ⟨trace, value, .bound hrun, hmeets, hpost⟩

/-- A choice made at the end can be made at the start. -/
theorem May.exists_post {κ : Type} {program : Program S α} {post : κ → α → G → Prop} {g : G}
    (hmay : program.May M (fun value g ↦ ∃ k, post k value g) g) :
    ∃ k, program.May M (post k) g := by
  induction program generalizing g with
  | ret value => exact hmay
  | halt => exact hmay.elim
  | call op next ih =>
    obtain ⟨answer, hexpect, hnext⟩ := hmay
    obtain ⟨k, hk⟩ := ih answer hnext
    exact ⟨k, answer, hexpect, hk⟩
  | bound next ih =>
    obtain ⟨count, hnext⟩ := hmay
    obtain ⟨k, hk⟩ := ih count hnext
    exact ⟨k, count, hk⟩

theorem May.mono {program : Program S α} {post post' : α → G → Prop} {g : G}
    (hmay : program.May M post g) (hpost : ∀ value g, post value g → post' value g) :
    program.May M post' g := by
  induction program generalizing g with
  | ret value => exact hpost value g hmay
  | halt => exact hmay
  | call op next ih =>
    obtain ⟨answer, hexpect, hnext⟩ := hmay
    exact ⟨answer, hexpect, ih answer hnext⟩
  | bound next ih =>
    obtain ⟨count, hnext⟩ := hmay
    exact ⟨count, ih count hnext⟩

/-- One round, and then the loop again if it asks for that. -/
theorem may_loop {body : σ → Program S (σ ⊕ α)} {state : σ} {post : α → G → Prop} {g : G}
    (hround : (body state).May M
      (fun result g ↦ result.elim (fun state ↦ (loop body state).May M post g) (post · g)) g) :
    (loop body state).May M post g := by
  have hcount : (body state).May M (fun result g ↦ ∃ count : ℕ,
      result.elim (fun state ↦ (rounds body count state).May M post g) (post · g)) g := by
    refine hround.mono fun result g hresult ↦ ?_
    cases result with
    | inl state => exact hresult
    | inr value => exact ⟨0, hresult⟩
  obtain ⟨count, hmay⟩ := hcount.exists_post
  refine ⟨count + 1, ?_⟩
  unfold rounds
  rw [may_bind]
  refine hmay.mono fun result g hresult ↦ ?_
  cases result with
  | inl state => exact hresult
  | inr value => exact hresult

/-- What may return, and returns only with the postcondition, may return with it. -/
theorem May.and_safe {program : Program S α} {post : α → G → Prop} {g : G}
    (hmay : program.May M (fun _ _ ↦ True) g) (hsafe : program.Safe M post g) :
    program.May M post g := by
  induction program generalizing g with
  | ret value => exact hsafe
  | halt => exact hmay
  | call op next ih =>
    obtain ⟨answer, hexpect, hnext⟩ := hmay
    exact ⟨answer, hexpect, ih answer hnext (hsafe.2 answer hexpect)⟩
  | bound next ih =>
    obtain ⟨count, hnext⟩ := hmay
    exact ⟨count, ih count hnext (hsafe count)⟩

/-- Some expected answers lead the program up to an operation. -/
def Reaches (M : Monitor S G) (op : S.Op) : Program S α → G → Prop
  | .ret _, _ => False
  | .halt, _ => False
  | .call op' next, g =>
      op' = op ∨ ∃ answer, M.expect g op' answer ∧ (next answer).Reaches M op (M.next g op' answer)
  | .bound next, g => ∃ count, (next count).Reaches M op g

theorem May.reaches_bind {op : S.Op} {program : Program S α} {rest : α → Program S β} {g : G}
    (hmay : program.May M (fun value g ↦ (rest value).Reaches M op g) g) :
    (program >>= rest).Reaches M op g := by
  induction program generalizing g with
  | ret value => exact hmay
  | halt => exact hmay.elim
  | call op next ih =>
    obtain ⟨answer, hexpect, hnext⟩ := hmay
    exact Or.inr ⟨answer, hexpect, ih answer hnext⟩
  | bound next ih =>
    obtain ⟨count, hnext⟩ := hmay
    exact ⟨count, ih count hnext⟩

/-- What is reached first is reached in whatever comes after. -/
theorem Reaches.bind {op : S.Op} {program : Program S α} {g : G} (hreaches : program.Reaches M op g)
    (rest : α → Program S β) : (program >>= rest).Reaches M op g := by
  induction program generalizing g with
  | ret value => exact hreaches.elim
  | halt => exact hreaches.elim
  | call op next ih =>
    apply hreaches.imp_right
    rintro ⟨answer, hexpect, hnext⟩
    exact ⟨answer, hexpect, ih answer hnext⟩
  | bound next ih =>
    obtain ⟨count, hnext⟩ := hreaches
    exact ⟨count, ih count hnext⟩

/-- A run leads up to the operation. -/
theorem Reaches.exists_run {op : S.Op} {program : Program S α} {g : G}
    (hreaches : program.Reaches M op g) :
    ∃ trace final next, Run program trace final ∧ M.Meets g trace ∧ Offers final op next := by
  induction program generalizing g with
  | ret value => exact hreaches.elim
  | halt => exact hreaches.elim
  | call op' next ih =>
    rcases hreaches with rfl | ⟨answer, hexpect, hnext⟩
    · exact ⟨[], _, next, .done _, trivial, .call _ next⟩
    · obtain ⟨trace, final, rest, hrun, hmeets, hoffers⟩ := ih answer hnext
      exact ⟨⟨op', answer⟩ :: trace, final, rest, .call hrun, ⟨hexpect, hmeets⟩, hoffers⟩
  | bound next ih =>
    obtain ⟨count, hnext⟩ := hreaches
    obtain ⟨trace, final, rest, hrun, hmeets, hoffers⟩ := ih count hnext
    exact ⟨trace, final, rest, .bound hrun, hmeets, hoffers⟩

/-- Total correctness: the program is safe, and some expected answers lead it to its end. -/
structure Total (M : Monitor S G) (program : Program S α) (post : α → G → Prop) (g : G) : Prop where
  safe : program.Safe M post g
  may : program.May M (fun _ _ ↦ True) g

theorem total_ret {value : α} {post : α → G → Prop} {g : G} (hpost : post value g) :
    Total M (.ret value) post g :=
  ⟨hpost, trivial⟩

theorem total_bind {program : Program S α} {rest : α → Program S β} {post : β → G → Prop} {g : G}
    (htotal : Total M program (fun value g ↦ Total M (rest value) post g) g) :
    Total M (program >>= rest) post g := by
  constructor
  · rw [safe_bind]
    exact htotal.safe.mono fun _ _ hrest ↦ hrest.safe
  · rw [may_bind]
    exact (htotal.may.and_safe htotal.safe).mono fun _ _ hrest ↦ hrest.may

theorem total_perform {op : S.Op} {post : S.Answer op → G → Prop} {g : G} (hallow : M.allow g op)
    (hanswer : ∃ answer, M.expect g op answer)
    (hpost : ∀ answer, M.expect g op answer → post answer (M.next g op answer)) :
    Total M (perform op) post g := by
  obtain ⟨answer, hexpect⟩ := hanswer
  exact ⟨⟨hallow, hpost⟩, answer, hexpect, trivial⟩

theorem Total.mono {program : Program S α} {post post' : α → G → Prop} {g : G}
    (htotal : Total M program post g) (hpost : ∀ value g, post value g → post' value g) :
    Total M program post' g :=
  ⟨htotal.safe.mono hpost, htotal.may⟩

/-- A totally correct program has a run to its end, and every such run ends with the
postcondition. -/
theorem Total.run {program : Program S α} {post : α → G → Prop} {g : G}
    (htotal : Total M program post g) :
    (∃ trace value, Run program trace (.ret value) ∧ M.Meets g trace) ∧
      ∀ trace value, Run program trace (.ret value) → M.Meets g trace →
        post value (M.after g trace) := by
  constructor
  · obtain ⟨trace, value, hrun, hmeets, -⟩ := htotal.may.exists_run
    exact ⟨trace, value, hrun, hmeets⟩
  · intro trace value hrun hmeets
    exact hrun.returns htotal.safe hmeets

end Program

namespace Procedure

open Program (Total)

variable {S : Signature} {L G α β σ : Type} {M : Monitor S G}

theorem may_bind {procedure : Procedure S L α} {rest : α → Procedure S L β}
    {post : β × L → G → Prop} {l : L} {g : G}
    (hmay : (procedure l).May M (fun result g ↦ (rest result.1 result.2).May M post g) g) :
    ((procedure >>= rest) l).May M post g :=
  (Program.may_bind _ _ _ _).2 hmay

theorem may_call {op : S.Op} {post : S.Answer op × L → G → Prop} {l : L} {g : G} (answer : S.Answer op)
    (hexpect : M.expect g op answer) (hpost : post (answer, l) (M.next g op answer)) :
    ((lift (.perform op) : Procedure S L _) l).May M post g :=
  ⟨answer, hexpect, hpost⟩

theorem may_pure {value : α} {post : α × L → G → Prop} {l : L} {g : G} (hpost : post (value, l) g) :
    ((pure value : Procedure S L α) l).May M post g :=
  hpost

theorem may_get {rest : L → Procedure S L β} {post : β × L → G → Prop} {l : L} {g : G}
    (hmay : (rest l l).May M post g) : ((get >>= rest : Procedure S L β) l).May M post g :=
  hmay

theorem may_ite_pos {condition : Prop} [Decidable condition] {yes no : Procedure S L α}
    {post : α × L → G → Prop} {l : L} {g : G} (hcondition : condition)
    (hmay : (yes l).May M post g) : ((if condition then yes else no) l).May M post g := by
  rw [if_pos hcondition]
  exact hmay

theorem may_ite_neg {condition : Prop} [Decidable condition] {yes no : Procedure S L α}
    {post : α × L → G → Prop} {l : L} {g : G} (hcondition : ¬condition)
    (hmay : (no l).May M post g) : ((if condition then yes else no) l).May M post g := by
  rw [if_neg hcondition]
  exact hmay

theorem may_loop {body : σ → Procedure S L (σ ⊕ α)} {state : σ} {post : α × L → G → Prop} {l : L} {g : G}
    (hround : (body state l).May M (fun result g ↦ result.1.elim
      (fun state ↦ (loop body state result.2).May M post g) (fun value ↦ post (value, result.2) g)) g) :
    (loop body state l).May M post g := by
  refine Program.may_loop ((Program.may_bind _ _ _ _).2 (hround.mono ?_))
  rintro ⟨result | result, l⟩ g hresult
  · exact hresult
  · exact hresult

/-- A loop whose rounds keep an assertion and bring some quantity down may come to its end. -/
theorem may_loop_of_variant {body : σ → Procedure S L (σ ⊕ α)} (inv : σ → L → G → Prop) (variant : G → ℕ)
    {post : α × L → G → Prop} (hround : ∀ state l g, inv state l g → (body state l).May M (fun result g' ↦
      result.1.elim (fun state ↦ inv state result.2 g' ∧ variant g' < variant g)
        fun value ↦ post (value, result.2) g') g) {state : σ} {l : L} {g : G} (hinv : inv state l g) :
    (loop body state l).May M post g := by
  induction hvariant : variant g using Nat.strongRecOn generalizing state l g with
  | _ n ih =>
    apply may_loop
    apply (hround state l g hinv).mono
    rintro ⟨state | value, l⟩ g' hresult
    · exact ih (variant g') (hvariant ▸ hresult.2) hresult.1 rfl
    · exact hresult

theorem reaches_bind {op : S.Op} {procedure : Procedure S L α} {rest : α → Procedure S L β} {l : L} {g : G}
    (hmay : (procedure l).May M (fun result g ↦ (rest result.1 result.2).Reaches M op g) g) :
    ((procedure >>= rest) l).Reaches M op g :=
  hmay.reaches_bind

theorem reaches_ite_neg {op : S.Op} {condition : Prop} [Decidable condition] {yes no : Procedure S L α}
    {l : L} {g : G} (hcondition : ¬condition) (hreaches : (no l).Reaches M op g) :
    ((if condition then yes else no) l).Reaches M op g := by
  rw [if_neg hcondition]
  exact hreaches

theorem reaches_ite_pos {op : S.Op} {condition : Prop} [Decidable condition] {yes no : Procedure S L α}
    {l : L} {g : G} (hcondition : condition) (hreaches : (yes l).Reaches M op g) :
    ((if condition then yes else no) l).Reaches M op g := by
  rw [if_pos hcondition]
  exact hreaches

theorem total_bind {procedure : Procedure S L α} {rest : α → Procedure S L β}
    {post : β × L → G → Prop} {l : L} {g : G}
    (htotal : Total M (procedure l) (fun result g ↦ Total M (rest result.1 result.2) post g) g) :
    Total M ((procedure >>= rest) l) post g :=
  Program.total_bind htotal

theorem total_lift {program : Program S α} {post : α × L → G → Prop} {l : L} {g : G}
    (htotal : Total M program (fun value g ↦ post (value, l) g) g) :
    Total M ((lift program : Procedure S L α) l) post g :=
  Program.total_bind (htotal.mono fun _ _ hpost ↦ Program.total_ret hpost)

end Procedure

end CoreEngine.Interaction
