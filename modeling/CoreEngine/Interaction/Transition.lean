import Mathlib.Data.List.Basic

/-!
# Labelled transition systems

The finite runs of a step relation, with the events that their steps show, and the rules for assertions about
them.
-/

namespace CoreEngine.Interaction

variable {σ ε : Type} {step : σ → ε → σ → Prop}

/-- The runs from a state, with their events in order. -/
inductive Steps (step : σ → ε → σ → Prop) (s : σ) : List ε → σ → Prop
  | nil : Steps step s [] s
  | snoc {events : List ε} {t u : σ} {e : ε} (hsteps : Steps step s events t) (hstep : step t e u) :
      Steps step s (events ++ [e]) u

namespace Steps

variable {s t u : σ} {events later : List ε}

theorem trans (hfirst : Steps step s events t) (hthen : Steps step t later u) :
    Steps step s (events ++ later) u := by
  induction hthen with
  | nil => simpa using hfirst
  | snoc _ hstep ih =>
    rw [← List.append_assoc]
    exact .snoc ih hstep

theorem cons {e : ε} (hstep : step s e t) (hthen : Steps step t later u) : Steps step s (e :: later) u :=
  trans (.snoc .nil hstep) hthen

/-- What every step keeps, and what its events meet. -/
theorem forall_events {inv : σ → Prop} {P : ε → Prop} (hsteps : Steps step s events t) (hstart : inv s)
    (hstep : ∀ s e t, inv s → step s e t → P e ∧ inv t) : (∀ e ∈ events, P e) ∧ inv t := by
  induction hsteps with
  | nil => exact ⟨List.forall_mem_nil _, hstart⟩
  | snoc _ hlast ih =>
    obtain ⟨hevents, hinv⟩ := ih
    obtain ⟨hevent, hinv⟩ := hstep _ _ _ hinv hlast
    exact ⟨List.forall_mem_append.2 ⟨hevents, List.forall_mem_singleton.2 hevent⟩, hinv⟩

theorem invariant {inv : σ → Prop} (hsteps : Steps step s events t) (hstart : inv s)
    (hstep : ∀ s e t, inv s → step s e t → inv t) : inv t :=
  (hsteps.forall_events (P := fun _ ↦ True) hstart fun s e t hinv ht ↦ ⟨trivial, hstep s e t hinv ht⟩).2

/-- What only one event ends either holds still, or the event has happened. -/
theorem mem_or {inv : σ → Prop} {e : ε} (hsteps : Steps step s events t) (hstart : inv s)
    (hstep : ∀ s e' t, inv s → step s e' t → e' = e ∨ inv t) : e ∈ events ∨ inv t := by
  induction hsteps with
  | nil => exact .inr hstart
  | snoc _ hlast ih =>
    rcases ih with hmem | hinv
    · exact .inl (List.mem_append_left _ hmem)
    · exact (hstep _ _ _ hinv hlast).imp (fun he ↦ by simp [he]) id

end Steps

end CoreEngine.Interaction
