import Mathlib.Data.List.Infix

/-!
# Named sections

A text made of sections, each between an opening line and a closing line that carry its name. A reader
looks for the first occurrence of a marker. It finds the right one when something in the marker occurs
nowhere before it.
-/

namespace CoreEngine.Text

variable {α : Type} [DecidableEq α]

/-- The text before the first occurrence of a marker, and the text after it. -/
def breakOn (marker : List α) : List α → Option (List α × List α)
  | [] => none
  | c :: text =>
      if marker <+: c :: text then some ([], (c :: text).drop marker.length)
      else (breakOn marker text).map fun parts ↦ (c :: parts.1, parts.2)

/-- What stands around the name and the text of a section. -/
structure Markers (α : Type) where
  opening : List α
  closing : List α
  eol : List α

namespace Markers

variable (m : Markers α)

def render (part : List α × List α) : List α :=
  m.opening ++ part.1 ++ m.eol ++ part.2 ++ m.closing ++ part.1 ++ m.eol

/-- Read at most the given number of sections, to the end of the text. -/
def read : ℕ → List α → Option (List (List α × List α))
  | 0, text => if text = [] then some [] else none
  | count + 1, text =>
      if text = [] then some [] else do
        let named ← text.dropPrefix? m.opening
        let name ← breakOn m.eol named
        let body ← breakOn (m.closing ++ name.1 ++ m.eol) name.2
        let rest ← read count body.2
        pure ((name.1, body.1) :: rest)

end Markers

variable {c : α} {marker text : List α}

omit [DecidableEq α] in
/-- A marker with an element that the text lacks does not start inside the text. -/
theorem not_isPrefix_of_notMem (hmarker : c ∈ marker) (htext : c ∉ text) (hne : text ≠ []) (rest : List α) :
    ¬marker <+: text ++ (marker ++ rest) := by
  rintro ⟨tail, htail⟩
  obtain ⟨before, after, rfl, hbefore⟩ := List.eq_append_cons_of_mem hmarker
  have hlength : before.length < (text ++ before).length := by
    rw [List.length_append]
    have := List.length_pos_iff.2 hne
    omega
  have hfound : (text ++ before)[before.length]? = some c := by
    calc (text ++ before)[before.length]?
        = (text ++ before ++ (c :: after ++ rest))[before.length]? := (List.getElem?_append_left hlength).symm
      _ = (before ++ c :: after ++ tail)[before.length]? := by simp [htail]
      _ = some c := by simp
  have hmem : c ∈ text ++ before := List.mem_of_getElem? hfound
  exact (List.mem_append.1 hmem).elim htext hbefore

/-- The first occurrence of a marker is the one after a text that lacks something of it. -/
theorem breakOn_append (hmarker : c ∈ marker) (htext : c ∉ text) (rest : List α) :
    breakOn marker (text ++ (marker ++ rest)) = some (text, rest) := by
  induction text with
  | nil =>
    cases marker with
    | nil => exact absurd hmarker List.not_mem_nil
    | cons d marker => simp [breakOn]
  | cons d text ih =>
    have hnot := not_isPrefix_of_notMem hmarker htext (List.cons_ne_nil d text) rest
    rw [List.cons_append] at hnot ⊢
    rw [breakOn, if_neg hnot, ih fun hmem ↦ htext (List.mem_cons_of_mem d hmem)]
    rfl

/-- Sections are read back when no name has some element of the line ending, and no text some element of
the closing. -/
theorem Markers.read_flatMap (m : Markers α) {e : α} (hopening : m.opening ≠ []) (he : e ∈ m.eol)
    (hc : c ∈ m.closing) {parts : List (List α × List α)} (hname : ∀ part ∈ parts, e ∉ part.1)
    (htext : ∀ part ∈ parts, c ∉ part.2) {count : ℕ} (hcount : parts.length ≤ count) :
    m.read count (parts.flatMap m.render) = some parts := by
  induction parts generalizing count with
  | nil => cases count <;> rfl
  | cons part parts ih =>
    cases count with
    | zero => exact absurd hcount (by simp)
    | succ count =>
      have hrest : m.read count (parts.flatMap m.render) = some parts := by
        apply ih
        · exact fun part hpart ↦ hname part (List.mem_cons_of_mem _ hpart)
        · exact fun part hpart ↦ htext part (List.mem_cons_of_mem _ hpart)
        · exact Nat.le_of_succ_le_succ hcount
      have hwhole : (part :: parts).flatMap m.render = m.opening ++ (part.1 ++ (m.eol ++
          (part.2 ++ ((m.closing ++ part.1 ++ m.eol) ++ parts.flatMap m.render)))) := by
        simp [render]
      have hfull : m.opening ++ (part.1 ++ (m.eol ++
          (part.2 ++ ((m.closing ++ part.1 ++ m.eol) ++ parts.flatMap m.render)))) ≠ [] := by
        simp [hopening]
      have hopen (text : List α) : (m.opening ++ text).dropPrefix? m.opening = some text :=
        List.dropPrefix?_eq_some_iff.2 ⟨m.opening, rfl, by simp⟩
      have hcut : c ∈ m.closing ++ part.1 ++ m.eol := by simp [hc]
      rw [hwhole, read, if_neg hfull, hopen]
      simp only [Option.bind_eq_bind, Option.bind_some]
      rw [breakOn_append he (hname part List.mem_cons_self)]
      simp only [Option.bind_some]
      rw [breakOn_append hcut (htext part List.mem_cons_self)]
      simp only [Option.bind_some, hrest]
      rfl

omit [DecidableEq α] in
theorem Markers.length_le_flatMap (m : Markers α) (hopening : m.opening ≠ []) (parts : List (List α × List α)) :
    parts.length ≤ (parts.flatMap m.render).length := by
  have hpos : 0 < m.opening.length := List.length_pos_iff.2 hopening
  induction parts with
  | nil => exact Nat.le_refl 0
  | cons part parts ih =>
    simp only [List.flatMap_cons, List.length_cons, List.length_append, render]
    omega

/-- What a reader makes of each of the parts. -/
theorem mapM_eq_some_map {β γ : Type} {f : β → Option γ} {g : β → γ} {parts : List β}
    (hf : ∀ part ∈ parts, f part = some (g part)) : parts.mapM f = some (parts.map g) := by
  induction parts with
  | nil => rfl
  | cons part parts ih =>
    rw [List.mapM_cons, hf part List.mem_cons_self, ih fun part hpart ↦ hf part (List.mem_cons_of_mem _ hpart)]
    rfl

end CoreEngine.Text
