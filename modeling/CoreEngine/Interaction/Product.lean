import CoreEngine.Interaction.Possibility

/-!
# Two monitors side by side

Two monitors watch the same program. What one of them shows of a program whose operations the other
one is blind to holds for both together, and the other one has not moved.
-/

namespace CoreEngine.Interaction

namespace Monitor

variable {S : Signature} {G H : Type}

/-- Both monitors, each with a state of its own. -/
def pair (M : Monitor S G) (N : Monitor S H) : Monitor S (G × H) where
  allow both op := M.allow both.1 op ∧ N.allow both.2 op
  expect both op answer := M.expect both.1 op answer ∧ N.expect both.2 op answer
  next both op answer := (M.next both.1 op answer, N.next both.2 op answer)

/-- The operation is allowed, takes any answer, and does not move the monitor. -/
def Blind (N : Monitor S H) (op : S.Op) : Prop :=
  ∀ h, N.allow h op ∧ ∀ answer, N.expect h op answer ∧ N.next h op answer = h

/-- It only sees to it that the operations are among the given ones. -/
def guard (allowed : S.Op → Prop) : Monitor S Unit where
  allow _ op := allowed op
  expect _ _ _ := True
  next _ _ _ := ()

end Monitor

namespace Program

variable {S : Signature} {G H α : Type} {M : Monitor S G} {N : Monitor S H} {allowed : S.Op → Prop}
  {program : Program S α} {post : α → G → Prop} {post' : α → Prop}

theorem Safe.pair (hguard : program.Safe (Monitor.guard allowed) (fun value _ ↦ post' value) ())
    (hblind : ∀ op, allowed op → N.Blind op) {g : G} (hsafe : program.Safe M post g) (h : H) :
    program.Safe (M.pair N) (fun value both ↦ post value both.1 ∧ both.2 = h ∧ post' value) (g, h) := by
  induction program generalizing g with
  | ret value => exact ⟨hsafe, rfl, hguard⟩
  | halt => trivial
  | call op next ih =>
    have hop := hblind op hguard.1 h
    refine ⟨⟨hsafe.1, hop.1⟩, fun answer hexpect ↦ ?_⟩
    have hstay : N.next h op answer = h := (hop.2 answer).2
    have hnext := ih answer (hguard.2 answer trivial) (hsafe.2 answer hexpect.1)
    simpa only [Monitor.pair, hstay] using hnext
  | bound next ih => exact fun count ↦ ih count (hguard count) (hsafe count)

theorem May.pair (hguard : program.Safe (Monitor.guard allowed) (fun value _ ↦ post' value) ())
    (hblind : ∀ op, allowed op → N.Blind op) {g : G} (hmay : program.May M (fun _ _ ↦ True) g) (h : H) :
    program.May (M.pair N) (fun _ _ ↦ True) (g, h) := by
  induction program generalizing g with
  | ret value => trivial
  | halt => exact hmay
  | call op next ih =>
    obtain ⟨answer, hexpect, hrest⟩ := hmay
    have hop := (hblind op hguard.1 h).2 answer
    have hnext := ih answer (hguard.2 answer trivial) hrest
    refine ⟨answer, ⟨hexpect, hop.1⟩, ?_⟩
    simpa only [Monitor.pair, hop.2] using hnext
  | bound next ih =>
    obtain ⟨count, hrest⟩ := hmay
    exact ⟨count, ih count (hguard count) hrest⟩

/-- A program that is right for one monitor, and all of whose operations the other one is blind to. -/
theorem Total.pair (hguard : program.Safe (Monitor.guard allowed) (fun value _ ↦ post' value) ())
    (hblind : ∀ op, allowed op → N.Blind op) {g : G} (htotal : Total M program post g) (h : H) :
    Total (M.pair N) program (fun value both ↦ post value both.1 ∧ both.2 = h ∧ post' value) (g, h) :=
  ⟨Safe.pair hguard hblind htotal.safe h, May.pair hguard hblind htotal.may h⟩

end Program

end CoreEngine.Interaction
