import CoreEngine.Interaction.Transition

/-!
# Signals and the accept loop

The loop of `main` that accepts connections, with `reloadConfig`, against the handler `smsSignal` and the
clients: each of them may take its next step at any time. A flag is set before the handler connects to the
daemon, so no flag is still unseen while the daemon waits for a connection.
-/

namespace CoreEngine.Smsd.AcceptLoop

open CoreEngine.Interaction

section Machine

inductive Signal
  | sighup | sigint | sigchld | other
  deriving DecidableEq, Repr

/-- Who has connected: the handler of a signal, or a client. -/
inductive Connection
  | wakeUp | client
  deriving DecidableEq, Repr

/-- The flags are tested before `socketAccept`, and after it with what it has returned. -/
inductive Place
  | beforeAccept
  | afterAccept (cfd : Option Connection)
  deriving DecidableEq, Repr

/-- What the loop does next. -/
inductive Pc
  | testShutdown (place : Place)
  | testReload (place : Place)
  /-- In `reloadConfig`, before its first assignment. -/
  | clearReload (place : Place)
  | callCreateConfig (place : Place)
  | inCreateConfig (place : Place)
  | socketAccept
  | testSocket (cfd : Option Connection)
  | newTask (cfd : Connection)
  | exited
  deriving DecidableEq, Repr

/-- Where the loop goes on after the tests. -/
def Place.next : Place → Pc
  | .beforeAccept => .socketAccept
  | .afterAccept cfd => .testSocket cfd

structure State where
  pc : Pc
  shutdownRequired : Bool
  reloadRequired : Bool
  queue : List Connection
  /-- The handlers that have set their flag and not connected yet. -/
  handlers : ℕ
  deriving DecidableEq, Repr

def State.start : State := ⟨.testShutdown .beforeAccept, false, false, [], 0⟩

inductive Event
  | signal (sig : Signal)
  | wakeUp
  | arrive
  | test
  | clearReload
  | createConfig
  | reloaded
  | reloadFailed
  | accept (cfd : Connection)
  | acceptFailed
  | serve (cfd : Connection)
  | drop (cfd : Connection)
  deriving DecidableEq, Repr

/-- `smsSignal`, up to its connection. -/
def State.smsSignal (s : State) : Signal → State
  | .sighup => { s with reloadRequired := true, handlers := s.handlers + 1 }
  | .sigint => { s with shutdownRequired := true, handlers := s.handlers + 1 }
  | .sigchld => s
  | .other => s

inductive Step (s : State) : Event → State → Prop
  | signal (sig : Signal) : Step s (.signal sig) (s.smsSignal sig)
  | wakeUp (hhandlers : 0 < s.handlers) :
      Step s .wakeUp { s with handlers := s.handlers - 1, queue := s.queue ++ [.wakeUp] }
  | arrive : Step s .arrive { s with queue := s.queue ++ [.client] }
  | testShutdown {place : Place} (hpc : s.pc = .testShutdown place) :
      Step s .test { s with pc := if s.shutdownRequired then .exited else .testReload place }
  | testReload {place : Place} (hpc : s.pc = .testReload place) :
      Step s .test { s with pc := if s.reloadRequired then .clearReload place else place.next }
  | clearReload {place : Place} (hpc : s.pc = .clearReload place) :
      Step s .clearReload { s with reloadRequired := false, pc := .callCreateConfig place }
  | createConfig {place : Place} (hpc : s.pc = .callCreateConfig place) :
      Step s .createConfig { s with pc := .inCreateConfig place }
  | reloaded {place : Place} (hpc : s.pc = .inCreateConfig place) : Step s .reloaded { s with pc := place.next }
  | reloadFailed {place : Place} (hpc : s.pc = .inCreateConfig place) :
      Step s .reloadFailed { s with pc := .exited }
  | accept {cfd : Connection} {queue : List Connection} (hpc : s.pc = .socketAccept)
      (hqueue : s.queue = cfd :: queue) :
      Step s (.accept cfd) { s with queue := queue, pc := .testShutdown (.afterAccept (some cfd)) }
  /-- A signal interrupts `socketAccept`, for example. -/
  | acceptFailed (hpc : s.pc = .socketAccept) :
      Step s .acceptFailed { s with pc := .testShutdown (.afterAccept none) }
  /-- A connection that was broken off is lost with the error. -/
  | acceptAborted {cfd : Connection} {queue : List Connection} (hpc : s.pc = .socketAccept)
      (hqueue : s.queue = cfd :: queue) :
      Step s .acceptFailed { s with queue := queue, pc := .testShutdown (.afterAccept none) }
  | testSocket {cfd : Option Connection} (hpc : s.pc = .testSocket cfd) :
      Step s .test { s with pc := cfd.elim (.testShutdown .beforeAccept) .newTask }
  | serve {cfd : Connection} (hpc : s.pc = .newTask cfd) :
      Step s (.serve cfd) { s with pc := .testShutdown .beforeAccept }
  /-- There is no memory for the client state, or no task for it. -/
  | drop {cfd : Connection} (hpc : s.pc = .newTask cfd) :
      Step s (.drop cfd) { s with pc := .testShutdown .beforeAccept }

end Machine

section Announced

/-- The loop has found that it need not shut down, and has accepted nothing since. -/
def Pc.pastShutdown : Pc → Bool
  | .testReload .beforeAccept | .clearReload .beforeAccept | .callCreateConfig .beforeAccept
  | .inCreateConfig .beforeAccept | .socketAccept => true
  | _ => false

/-- The loop has found no reload to do, or begun it, and has accepted nothing since. -/
def Pc.pastReload : Pc → Bool
  | .callCreateConfig .beforeAccept | .inCreateConfig .beforeAccept | .socketAccept => true
  | _ => false

/-- A connection is waiting, or a handler is about to connect. -/
def State.Woken (s : State) : Prop := 0 < s.handlers ∨ s.queue ≠ []

/-- A flag that has been set behind the loop's back comes with a connection. -/
structure Announced (s : State) : Prop where
  shutdown : s.pc.pastShutdown = true → s.shutdownRequired = true → s.Woken
  reload : s.pc.pastReload = true → s.reloadRequired = true → s.Woken

theorem announced_start : Announced .start where
  shutdown _ hflag := nomatch hflag
  reload _ hflag := nomatch hflag

/-- Steps of the loop that leave the flags and the queue alone, and do not pass a test unless the flag is
down. -/
theorem Announced.goto {s : State} (hs : Announced s) {pc : Pc}
    (hshutdown : pc.pastShutdown = true → s.pc.pastShutdown = true ∨ s.shutdownRequired = false)
    (hreload : pc.pastReload = true → s.pc.pastReload = true ∨ s.reloadRequired = false) :
    Announced { s with pc := pc } where
  shutdown hpc hflag := by
    rcases hshutdown hpc with hpast | hdown
    · exact hs.shutdown hpast hflag
    · exact absurd hflag (by simp [hdown])
  reload hpc hflag := by
    rcases hreload hpc with hpast | hdown
    · exact hs.reload hpast hflag
    · exact absurd hflag (by simp [hdown])

theorem announced_step {s t : State} {e : Event} (hs : Announced s) (hstep : Step s e t) : Announced t := by
  cases hstep with
  | signal sig =>
    cases sig with
    | sighup => exact ⟨fun _ _ ↦ .inl (Nat.succ_pos _), fun _ _ ↦ .inl (Nat.succ_pos _)⟩
    | sigint => exact ⟨fun _ _ ↦ .inl (Nat.succ_pos _), fun _ _ ↦ .inl (Nat.succ_pos _)⟩
    | sigchld => exact hs
    | other => exact hs
  | wakeUp hhandlers => exact ⟨fun _ _ ↦ .inr (by simp), fun _ _ ↦ .inr (by simp)⟩
  | arrive => exact ⟨fun _ _ ↦ .inr (by simp), fun _ _ ↦ .inr (by simp)⟩
  | @testShutdown place hpc =>
    by_cases hflag : s.shutdownRequired = true
    · rw [if_pos hflag]
      exact hs.goto (fun hpast ↦ nomatch hpast) (fun hpast ↦ nomatch hpast)
    · rw [if_neg hflag]
      exact hs.goto (fun _ ↦ .inr (Bool.eq_false_iff.2 hflag)) (fun hpast ↦ nomatch hpast)
  | @testReload place hpc =>
    by_cases hflag : s.reloadRequired = true
    · rw [if_pos hflag]
      apply hs.goto
      · cases place <;> simp [hpc, Pc.pastShutdown]
      · cases place <;> simp [Pc.pastReload]
    · rw [if_neg hflag]
      apply hs.goto
      · cases place <;> simp [hpc, Pc.pastShutdown, Place.next]
      · exact fun _ ↦ .inr (Bool.eq_false_iff.2 hflag)
  | @clearReload place hpc =>
    refine ⟨fun hpast hflag ↦ hs.shutdown ?_ hflag, fun _ hflag ↦ nomatch hflag⟩
    cases place with
    | beforeAccept => simp [hpc, Pc.pastShutdown]
    | afterAccept cfd => exact nomatch hpast
  | @createConfig place hpc =>
    apply hs.goto
    · cases place <;> simp [hpc, Pc.pastShutdown]
    · cases place <;> simp [hpc, Pc.pastReload]
  | @reloaded place hpc =>
    apply hs.goto
    · cases place <;> simp [hpc, Pc.pastShutdown, Place.next]
    · cases place <;> simp [hpc, Pc.pastReload, Place.next]
  | @testSocket cfd hpc =>
    apply hs.goto
    · cases cfd <;> simp [Pc.pastShutdown]
    · cases cfd <;> simp [Pc.pastReload]
  | accept hpc hqueue => exact ⟨fun hpast ↦ (nomatch hpast), fun hpast ↦ (nomatch hpast)⟩
  | acceptAborted hpc hqueue => exact ⟨fun hpast ↦ (nomatch hpast), fun hpast ↦ (nomatch hpast)⟩
  | _ => exact hs.goto (fun h ↦ nomatch h) (fun h ↦ nomatch h)

theorem announced_of_steps {s : State} {events : List Event} (hsteps : Steps Step .start events s) : Announced s :=
  hsteps.invariant announced_start fun _ _ _ ↦ announced_step

/-- A daemon that waits with nothing in its queue, and with no handler at work, has seen every flag. -/
theorem queue_ne_nil {s : State} (hs : Announced s) (hpc : s.pc = .socketAccept) (hhandlers : s.handlers = 0)
    (hflag : s.shutdownRequired = true ∨ s.reloadRequired = true) : s.queue ≠ [] := by
  have hwoken : s.Woken := by
    rcases hflag with hshutdown | hreload
    · exact hs.shutdown (by rw [hpc]; rfl) hshutdown
    · exact hs.reload (by rw [hpc]; rfl) hreload
  exact hwoken.resolve_left (by omega)

end Announced

section Runs

/-- The loop is on its way out. -/
def State.Leaving (s : State) : Prop :=
  s.shutdownRequired = true ∧ ((∃ cfd, s.pc = .testShutdown (.afterAccept cfd)) ∨ s.pc = .exited)

theorem leaving_step {s t : State} {e : Event} (hs : s.Leaving) (hstep : Step s e t) :
    (∀ cfd, e ≠ .serve cfd) ∧ t.Leaving := by
  obtain ⟨hshutdown, hpcs⟩ := hs
  cases hstep with
  | signal sig =>
    refine ⟨fun _ ↦ by simp, ?_⟩
    cases sig with
    | sighup => exact ⟨hshutdown, hpcs⟩
    | sigint => exact ⟨rfl, hpcs⟩
    | sigchld => exact ⟨hshutdown, hpcs⟩
    | other => exact ⟨hshutdown, hpcs⟩
  | wakeUp hhandlers => exact ⟨fun _ ↦ by simp, hshutdown, hpcs⟩
  | arrive => exact ⟨fun _ ↦ by simp, hshutdown, hpcs⟩
  | testShutdown hpc => exact ⟨fun _ ↦ by simp, hshutdown, .inr (by simp [hshutdown])⟩
  | _ => simp_all

/-- A reload has been asked for, and is not begun. -/
def State.ReloadDue (s : State) : Prop := s.reloadRequired = true ∨ ∃ place, s.pc = .callCreateConfig place

theorem reloadDue_step {s t : State} {e : Event} (hs : s.ReloadDue) (hstep : Step s e t) :
    e = .createConfig ∨ t.ReloadDue := by
  cases hstep with
  | createConfig hpc => exact .inl rfl
  | clearReload hpc => exact .inr (.inr ⟨_, rfl⟩)
  | signal sig =>
    right
    cases sig with
    | sighup => exact .inl rfl
    | sigint => exact hs
    | sigchld => exact hs
    | other => exact hs
  | wakeUp hhandlers => exact .inr hs
  | arrive => exact .inr hs
  | _ => exact .inr (hs.imp_right fun ⟨_, hplace⟩ ↦ by simp_all)

/-- No signal is lost: while the loop waits, a flag comes with a connection in the queue; what is accepted after
a shutdown was required is not served; and after a SIGHUP the loop does not wait for good before a
configuration is read again. -/
theorem no_signal_lost {events : List Event} {s : State} (hsteps : Steps Step .start events s) :
    (s.pc = .socketAccept → s.handlers = 0 → s.shutdownRequired = true ∨ s.reloadRequired = true →
      s.queue ≠ []) ∧
    (∀ cfd s' later t, s.shutdownRequired = true → Step s (.accept cfd) s' → Steps Step s' later t →
      ∀ cfd', .serve cfd' ∉ later) ∧
    ∀ s' later t, Step s (.signal .sighup) s' → Steps Step s' later t → t.pc = .socketAccept → t.queue = [] →
      t.handlers = 0 → .createConfig ∈ later := by
  refine ⟨queue_ne_nil (announced_of_steps hsteps), ?_, ?_⟩
  · intro cfd s' later t hshutdown haccept hlater cfd' hserve
    have hleaving : s'.Leaving := by
      cases haccept with
      | accept hpc hqueue => exact ⟨hshutdown, .inl ⟨_, rfl⟩⟩
    have hnone := (hlater.forall_events (P := fun e ↦ ∀ cfd, e ≠ .serve cfd) hleaving
      fun _ _ _ ↦ leaving_step).1
    exact hnone _ hserve cfd' rfl
  · intro s' later t hsignal hlater hpc hqueue hhandlers
    have hdue : s'.ReloadDue := by
      cases hsignal with
      | signal => exact .inl rfl
    rcases hlater.mem_or hdue (fun _ _ _ ↦ reloadDue_step) with hmem | hreload | ⟨place, hplace⟩
    · exact hmem
    · have hreached := announced_of_steps ((hsteps.snoc hsignal).trans hlater)
      exact absurd hqueue (queue_ne_nil hreached hpc hhandlers (.inr hreload))
    · exact nomatch hpc.symm.trans hplace

/-- The loop when it waits and nothing has happened. -/
def State.waiting : State := ⟨.socketAccept, false, false, [], 0⟩

theorem steps_waiting : Steps Step .start [.test, .test] .waiting :=
  .cons (.testShutdown rfl) (.cons (.testReload rfl) .nil)

/-- A SIGHUP and a SIGINT while the loop waits. -/
theorem no_signal_lost_waiting :
    (∃ s, Steps Step .start [.test, .test, .signal .sigint, .wakeUp] s ∧ s.pc = .socketAccept ∧ s.queue ≠ []) ∧
    (∃ s later, Steps Step s later { State.waiting with pc := .exited, shutdownRequired := true } ∧
      s.pc = .testShutdown (.afterAccept (some .wakeUp)) ∧ ∀ cfd, .serve cfd ∉ later) ∧
    ∃ later, Steps Step (State.waiting.smsSignal .sighup) later .waiting ∧ .createConfig ∈ later := by
  have hsigint : Steps Step .start [.test, .test, .signal .sigint, .wakeUp]
      { State.waiting with shutdownRequired := true, queue := [.wakeUp] } :=
    .snoc (.snoc steps_waiting (.signal .sigint)) (.wakeUp (by decide))
  have hexit : Steps Step
      { State.waiting with shutdownRequired := true, pc := .testShutdown (.afterAccept (some .wakeUp)) } [.test]
      { State.waiting with pc := .exited, shutdownRequired := true } :=
    .cons (.testShutdown rfl) .nil
  have hreload : Steps Step (State.waiting.smsSignal .sighup) [.wakeUp, .accept .wakeUp, .test, .test, .clearReload,
      .createConfig, .reloaded, .test, .serve .wakeUp, .test, .test] .waiting :=
    .cons (.wakeUp (by decide)) (.cons (.accept rfl rfl) (.cons (.testShutdown rfl) (.cons (.testReload rfl)
      (.cons (.clearReload rfl) (.cons (.createConfig rfl) (.cons (.reloaded rfl) (.cons (.testSocket rfl)
        (.cons (.serve rfl) (.cons (.testShutdown rfl) (.cons (.testReload rfl) .nil))))))))))
  refine ⟨⟨_, hsigint, rfl, (no_signal_lost hsigint).1 rfl rfl (.inl rfl)⟩, ⟨_, [.test], hexit, rfl, ?_⟩,
    ⟨_, hreload, ?_⟩⟩
  · exact (no_signal_lost hsigint).2.1 .wakeUp _ _ _ rfl (.accept rfl rfl) hexit
  · exact (no_signal_lost steps_waiting).2.2 _ _ _ (.signal .sighup) hreload rfl rfl rfl

end Runs

end CoreEngine.Smsd.AcceptLoop
