import CoreEngine.Interaction.Workers
import CoreEngine.Smsd.Socket

/-!
# Descriptors and their numbers

The system uses the number of a descriptor again as soon as it is closed, while the thread that closed it may
still be at work. The loop of `main` accepts connections and starts a task for each of them; the tasks run
side by side, and the rest of the daemon opens and closes files and sockets of its own. A connection is
reached by its own task only, and no descriptor is left open.
-/

namespace CoreEngine.Smsd

open Interaction
open Procedure (lift Stable Triple triple_bind triple_ite triple_call triple_get triple_pure)
open Program (Offers)

section Connection

/-- An accepted descriptor, and whether it has been closed. -/
structure Connection where
  cfd : Int
  closed : Bool
  deriving DecidableEq, Repr

/-- The task of a connection reads, writes and closes no descriptor but its own, and only until it has closed
it. Calls on -1 fail and do nothing. -/
def connectionWatch : Monitor signature Connection where
  allow connection op := ∀ fd, op.UsesSocket fd → fd = -1 ∨ (fd = connection.cfd ∧ connection.closed = false)
  expect _ _ _ := True
  next connection op _ := if op = .socketClose connection.cfd then { connection with closed := true } else connection

/-- The client context has the descriptor until it is closed, and -1 from then on. -/
def Serving (csp : Client) (connection : Connection) : Prop :=
  connection.cfd ≠ -1 ∧
    ((csp.cfd = connection.cfd ∧ connection.closed = false) ∨ (csp.cfd = -1 ∧ connection.closed = true))

theorem connectionWatch_ignores {op : Op} (huses : ∀ fd, ¬op.UsesSocket fd) : connectionWatch.Ignores op := by
  intro connection
  refine ⟨fun fd hop ↦ absurd hop (huses fd), fun _ ↦ if_neg ?_⟩
  rintro rfl
  exact huses _ rfl

theorem connectionWatch_ignores_database {op : Op} (hop : op.OnDatabase 2) : connectionWatch.Ignores op := by
  apply connectionWatch_ignores
  intro fd
  cases op <;> first | exact hop.elim | exact id

instance {inv : Client → Connection → Prop} : StackDiscipline connectionWatch inv :=
  stackDiscipline_of_ignores (connectionWatch_ignores fun _ ↦ id)

instance {inv : Client → Connection → Prop} : CountDiscipline connectionWatch inv :=
  countDiscipline_of_ignores fun _ ↦ connectionWatch_ignores fun _ ↦ id

instance {inv : Client → Connection → Prop} : BodyDiscipline connectionWatch inv :=
  ⟨fun _ _ _ _ ↦ False.elim⟩

instance : ContextDiscipline connectionWatch Serving :=
  contextDiscipline_of_ignores (fun _ ↦ connectionWatch_ignores_database) (fun _ _ _ hserving ↦ hserving)
    fun _ _ _ ↦ connectionWatch_ignores_database (Sql.rank_le_two _)

instance : LockDiscipline connectionWatch Serving :=
  lockDiscipline_of_ignores (fun _ hop ↦ connectionWatch_ignores_database (hop.mono (by decide)))
    fun _ _ _ hserving ↦ hserving

instance : ReplyDiscipline connectionWatch Serving :=
  replyDiscipline_of_ignores (connectionWatch_ignores fun _ ↦ id)

instance : ScriptDiscipline connectionWatch Serving := by
  refine scriptDiscipline_of_ignores fun op hop ↦ ?_
  cases op <;> first | exact hop.elim | exact connectionWatch_ignores fun _ ↦ id

/-- The descriptor in the client context may be used. -/
theorem Serving.allowed {csp : Client} {connection : Connection} (hserving : Serving csp connection) {op : Op}
    (hop : ∀ fd, op.UsesSocket fd → fd = csp.cfd) : connectionWatch.allow connection op := by
  intro fd huses
  rcases hserving.2 with ⟨hcfd, hopen⟩ | ⟨hcfd, -⟩
  · exact .inr ⟨(hop fd huses).trans hcfd, hopen⟩
  · exact .inl ((hop fd huses).trans hcfd)

theorem triple_useConnection {op : Op} {cfd : Int} (hop : ∀ fd, op.UsesSocket fd → fd = cfd)
    (hclose : ∀ fd, op ≠ .socketClose fd) :
    Triple connectionWatch (fun csp connection ↦ csp.cfd = cfd ∧ Serving csp connection) (lift (ask op))
      fun _ ↦ Serving := by
  apply triple_call
  · rintro csp connection ⟨rfl, hserving⟩
    exact hserving.allowed hop
  · rintro csp connection answer ⟨-, hserving⟩ -
    have hnext : connectionWatch.next connection op answer = connection := if_neg (hclose _)
    rw [hnext]
    exact hserving

/-- What is left of the connection once it has been closed. -/
theorem Serving.close {csp : Client} {connection : Connection} (hserving : Serving csp connection) :
    (connectionWatch.next connection (.socketClose csp.cfd) 0).closed = true ∧
      (connectionWatch.next connection (.socketClose csp.cfd) 0).cfd = connection.cfd := by
  obtain ⟨hfd, ⟨hcfd, hopen⟩ | ⟨hcfd, hclosed⟩⟩ := hserving
  · simp [connectionWatch, hcfd]
  · have hne : ¬(-1 = connection.cfd) := fun heq ↦ hfd heq.symm
    simp [connectionWatch, hcfd, hne, hclosed]

theorem stable_closeConnection : Stable connectionWatch Serving closeUserSocket := by
  constructor
  rintro ⟨cfd, dbCtx⟩ connection hserving
  refine ⟨hserving.allowed fun fd huses ↦ Eq.symm huses, fun answer _ ↦ ?_⟩
  obtain ⟨hclosed, hcfd⟩ := hserving.close
  exact ⟨hcfd ▸ hserving.1, .inr ⟨rfl, hclosed⟩⟩

instance : SocketDiscipline connectionWatch Serving := by
  have hget : Triple connectionWatch Serving get fun value csp connection ↦
      csp.cfd = value.cfd ∧ Serving csp connection :=
    triple_get fun _ _ hserving ↦ ⟨rfl, hserving⟩
  have hconnection : ConnectionDiscipline connectionWatch Serving := by
    refine ⟨fun size timeout ↦ ⟨?_⟩, fun bytes ↦ ⟨?_⟩, fun oid ↦ ⟨?_⟩, fun oid ↦ ⟨?_⟩⟩
    · exact triple_bind hget fun _ ↦ triple_useConnection (fun _ huses ↦ Eq.symm huses) nofun
    · exact triple_bind hget fun _ ↦ triple_useConnection (fun _ huses ↦ Eq.symm huses) nofun
    · exact triple_bind hget fun _ ↦ triple_bind (triple_useConnection (fun _ huses ↦ Eq.symm huses) nofun) fun _ ↦
        triple_pure 0 fun _ _ hserving ↦ hserving
    · exact triple_bind hget fun _ ↦ triple_bind (triple_useConnection (fun _ huses ↦ Eq.symm huses) nofun) fun _ ↦
        triple_pure 0 fun _ _ hserving ↦ hserving
  exact { hconnection with close := stable_closeConnection }

/-- When `serve` returns, its connection has been closed. -/
theorem triple_serveConnection :
    Triple connectionWatch Serving serve fun _ _ connection ↦ connection.closed = true := by
  have hcheck (buf : CString) : Stable connectionWatch Serving (checkVerb buf) :=
    stable_checkVerb_of_ignores (fun _ ↦ connectionWatch_ignores_database) (fun _ _ _ hserving ↦ hserving) buf
  have hend : Triple connectionWatch Serving
      (do
        let csp ← get
        if csp.cfd ≠ -1 then do
          let _ ← lift (ask (.socketClose csp.cfd))
          pure 0
        else pure 0) fun (_ : Int) _ connection ↦ connection.closed = true := by
    have hget : Triple connectionWatch Serving get fun value _ connection ↦ Serving value connection :=
      triple_get fun _ _ hserving ↦ hserving
    refine triple_bind hget fun csp ↦ triple_ite (fun _ ↦ ?_) fun hcfd ↦ ?_
    · refine triple_bind (triple_call (fun _ _ hserving ↦ hserving.allowed fun fd huses ↦ Eq.symm huses) ?_)
        fun _ ↦ triple_pure 0 fun _ _ hclosed ↦ hclosed
      exact fun _ connection answer hserving _ ↦ hserving.close.1
    · refine triple_pure 0 fun _ connection hserving ↦ ?_
      rcases hserving.2 with ⟨hsame, -⟩ | ⟨-, hclosed⟩
      · exact absurd (hsame.symm.trans (not_not.1 hcfd)) hserving.1
      · exact hclosed
  unfold serve
  refine triple_bind Stable.triple fun line ↦ triple_ite (fun _ ↦ ?_) fun _ ↦ ?_
  · exact triple_bind (hcheck line.buf).triple fun _ ↦ hend
  · exact hend

end Connection

section Table

/-- The descriptors that are open in the process, and those among them that are no connection of a client:
log files, sockets, the connections to the databases. -/
structure Descriptors where
  opened : Set Int
  others : Set Int

namespace Descriptors

def openAs (fds : Descriptors) (fd : Int) : Descriptors := { fds with opened := insert fd fds.opened }

def close (fds : Descriptors) (fd : Int) : Descriptors := { fds with opened := fds.opened \ {fd} }

def openOther (fds : Descriptors) (fd : Int) : Descriptors := ⟨insert fd fds.opened, insert fd fds.others⟩

def closeOther (fds : Descriptors) (fd : Int) : Descriptors := ⟨fds.opened \ {fd}, fds.others \ {fd}⟩

/-- The connections that are still open are `owned`: no two of them and nothing else share a number. -/
structure Accounted (fds : Descriptors) (owned : List Int) : Prop where
  nodup : owned.Nodup
  apart : ∀ fd ∈ owned, fd ∉ fds.others
  opened : ∀ fd, fd ∈ fds.opened ↔ fd ∈ fds.others ∨ fd ∈ owned
  numbered : ∀ fd ∈ fds.opened, 0 ≤ fd

variable {fds : Descriptors} {owned owned' : List Int} {fd : Int}

theorem Accounted.perm (haccounted : fds.Accounted owned) (hperm : owned.Perm owned') : fds.Accounted owned' where
  nodup := hperm.nodup_iff.1 haccounted.nodup
  apart fd hfd := haccounted.apart fd (hperm.mem_iff.2 hfd)
  opened fd := by rw [haccounted.opened, hperm.mem_iff]
  numbered := haccounted.numbered

/-- The system gives out numbers that are free. -/
theorem Accounted.openAs (haccounted : fds.Accounted owned) (hfd : 0 ≤ fd) (hfree : fd ∉ fds.opened) :
    (fds.openAs fd).Accounted (fd :: owned) where
  nodup := List.nodup_cons.2 ⟨fun howned ↦ hfree ((haccounted.opened fd).2 (.inr howned)), haccounted.nodup⟩
  apart := by
    refine List.forall_mem_cons.2 ⟨fun hother ↦ hfree ((haccounted.opened fd).2 (.inl hother)), haccounted.apart⟩
  opened fd' := by
    simp only [Descriptors.openAs, Set.mem_insert_iff, haccounted.opened, List.mem_cons]
    exact or_left_comm
  numbered fd' hfd' := by
    rcases hfd' with rfl | hfd'
    · exact hfd
    · exact haccounted.numbered fd' hfd'

theorem Accounted.close (haccounted : fds.Accounted (fd :: owned)) : (fds.close fd).Accounted owned where
  nodup := (List.nodup_cons.1 haccounted.nodup).2
  apart fd' hfd' := haccounted.apart fd' (List.mem_cons_of_mem _ hfd')
  opened fd' := by
    have hother : fd ∉ fds.others := haccounted.apart fd List.mem_cons_self
    have howned : fd ∉ owned := (List.nodup_cons.1 haccounted.nodup).1
    simp only [Descriptors.close, Set.mem_sdiff, Set.mem_singleton_iff, haccounted.opened, List.mem_cons]
    constructor
    · rintro ⟨hother' | hfd' | howned', hne⟩
      · exact .inl hother'
      · exact absurd hfd' hne
      · exact .inr howned'
    · rintro (hother' | howned')
      · exact ⟨.inl hother', fun heq ↦ hother (heq ▸ hother')⟩
      · exact ⟨.inr (.inr howned'), fun heq ↦ howned (heq ▸ howned')⟩
  numbered fd' hfd' := haccounted.numbered fd' hfd'.1

/-- No descriptor has the number -1. -/
theorem Accounted.close_neg_one (haccounted : fds.Accounted owned) : fds.close (-1) = fds := by
  have hfree : (-1 : Int) ∉ fds.opened := fun hopened ↦ absurd (haccounted.numbered _ hopened) (by decide)
  unfold Descriptors.close
  rw [Set.sdiff_singleton_eq_self hfree]

theorem Accounted.openOther (haccounted : fds.Accounted owned) (hfd : 0 ≤ fd) (hfree : fd ∉ fds.opened) :
    (fds.openOther fd).Accounted owned where
  nodup := haccounted.nodup
  apart fd' hfd' := by
    rintro (rfl | hother)
    · exact hfree ((haccounted.opened fd').2 (.inr hfd'))
    · exact haccounted.apart fd' hfd' hother
  opened fd' := by
    simp only [Descriptors.openOther, Set.mem_insert_iff, haccounted.opened]
    exact or_assoc.symm
  numbered fd' hfd' := by
    rcases hfd' with rfl | hfd'
    · exact hfd
    · exact haccounted.numbered fd' hfd'

theorem Accounted.closeOther (haccounted : fds.Accounted owned) (hother : fd ∈ fds.others) :
    (fds.closeOther fd).Accounted owned where
  nodup := haccounted.nodup
  apart fd' hfd' := fun hother' ↦ haccounted.apart fd' hfd' hother'.1
  opened fd' := by
    simp only [Descriptors.closeOther, Set.mem_sdiff, Set.mem_singleton_iff, haccounted.opened]
    constructor
    · rintro ⟨hother' | howned, hne⟩
      · exact .inl ⟨hother', hne⟩
      · exact .inr howned
    · rintro (⟨hother', hne⟩ | howned)
      · exact ⟨.inl hother', hne⟩
      · exact ⟨.inr howned, fun heq ↦ haccounted.apart fd' howned (heq ▸ hother)⟩
  numbered fd' hfd' := haccounted.numbered fd' hfd'.1

end Descriptors

/-- What a call does to the table of the process. Closing a number that is not open fails. -/
def descriptorTable (fds : Descriptors) (op : Op) (_ : op.Answer) (fds' : Descriptors) : Prop :=
  match op with
  | .socketClose fd => fds' = fds.close fd
  | _ => fds' = fds

end Table

section Main

/-- Where the loop of `main` is, with the descriptor that it holds. -/
inductive Main
  | accepting
  | accepted (cfd : Int)
  | stopped (cfd : Option Int)

def Main.owned : Main → List Int
  | .accepting => []
  | .accepted cfd => [cfd]
  | .stopped cfd => cfd.toList

/-- The task that runs `serve` with a new client context. -/
def serveTask (cfd : Int) : Worker signature Connection (Int × Client) := ⟨⟨cfd, false⟩, serve ⟨cfd, none⟩⟩

/-- The loop of `main`, and the rest of the daemon beside it. -/
inductive MainStep : Crew.Lead signature Descriptors Main Connection (Int × Client)
  | accept {fds : Descriptors} {cfd : Int} (hcfd : 0 ≤ cfd) (hfree : cfd ∉ fds.opened) :
      MainStep .accepting fds none (.accepted cfd) (fds.openAs cfd)
  | acceptFailed {fds : Descriptors} : MainStep .accepting fds none .accepting fds
  | shutdown {fds : Descriptors} : MainStep .accepting fds none (.stopped none) fds
  /-- The process exits soon afterwards. -/
  | shutdownAccepted {fds : Descriptors} {cfd : Int} : MainStep (.accepted cfd) fds none (.stopped (some cfd)) fds
  | newTask {fds : Descriptors} {cfd : Int} : MainStep (.accepted cfd) fds (some (serveTask cfd)) .accepting fds
  /-- There is no memory for the client context, or no task for it. -/
  | drop {fds : Descriptors} {cfd : Int} : MainStep (.accepted cfd) fds none .accepting (fds.close cfd)
  | openOther {main : Main} {fds : Descriptors} {fd : Int} (hfd : 0 ≤ fd) (hfree : fd ∉ fds.opened) :
      MainStep main fds none main (fds.openOther fd)
  | closeOther {main : Main} {fds : Descriptors} {fd : Int} (hother : fd ∈ fds.others) :
      MainStep main fds none main (fds.closeOther fd)

abbrev Process := Crew signature Descriptors Main Connection (Int × Client)

/-- The daemon as it begins to accept connections. -/
def Process.start (others : Set Int) : Process := ⟨⟨others, others⟩, .accepting, []⟩

/-- The steps of the process. A new descriptor gets any number that is free. -/
abbrev Process.Step : Process → Option Op → Process → Prop := Crew.Step MainStep descriptorTable connectionWatch

/-- The descriptors of connections that have not been closed. -/
def openConnections (connections : List Connection) : List Int :=
  (connections.filter fun connection ↦ !connection.closed).map Connection.cfd

theorem openConnections_append (first second : List Connection) :
    openConnections (first ++ second) = openConnections first ++ openConnections second := by
  simp [openConnections]

theorem openConnections_open {connection : Connection} (hopen : connection.closed = false) (rest : List Connection) :
    openConnections (connection :: rest) = connection.cfd :: openConnections rest := by
  simp [openConnections, hopen]

theorem openConnections_closed {connection : Connection} (hclosed : connection.closed = true)
    (rest : List Connection) : openConnections (connection :: rest) = openConnections rest := by
  simp [openConnections, hclosed]

/-- What `main` holds, and the open connections of the tasks. -/
def held (main : Main) (connections : List Connection) : List Int := main.owned ++ openConnections connections

theorem held_perm (main : Main) (before after : List Connection) {connection : Connection}
    (hopen : connection.closed = false) :
    (held main (before ++ connection :: after)).Perm (connection.cfd :: held main (before ++ after)) := by
  unfold held
  rw [openConnections_append, openConnections_append, openConnections_open hopen, ← List.append_assoc,
    ← List.append_assoc]
  exact List.perm_middle

theorem held_of_closed (main : Main) (before after : List Connection) {connection : Connection}
    (hclosed : connection.closed = true) :
    held main (before ++ connection :: after) = held main (before ++ after) := by
  unfold held
  rw [openConnections_append, openConnections_append, openConnections_closed hclosed]

theorem held_started (main : Main) (connections : List Connection) (cfd : Int) :
    (held main (connections ++ [⟨cfd, false⟩])).Perm (cfd :: held main connections) := by
  simpa using @held_perm main connections [] ⟨cfd, false⟩ rfl

end Main

section Steps

variable {fds fds' : Descriptors} {main main' : Main} {connections : List Connection}

theorem safe_serveTask {cfd : Int} (hcfd : 0 ≤ cfd) :
    (serveTask cfd).program.Safe connectionWatch (fun _ connection ↦ connection.closed = true)
      (serveTask cfd).ghost :=
  triple_serveConnection ⟨cfd, none⟩ ⟨cfd, false⟩ ⟨show cfd ≠ -1 by omega, .inl ⟨rfl, rfl⟩⟩

theorem accounted_main {started : Option (Worker signature Connection (Int × Client))}
    (haccounted : fds.Accounted (held main connections)) (hstep : MainStep main fds started main' fds') :
    fds'.Accounted (held main' (connections ++ (started.map Worker.ghost).toList)) ∧
      ∀ task ∈ started,
        task.program.Safe connectionWatch (fun _ connection ↦ connection.closed = true) task.ghost := by
  cases hstep with
  | accept hcfd hfree => exact ⟨by simpa [held, Main.owned] using haccounted.openAs hcfd hfree, by simp⟩
  | acceptFailed => exact ⟨by simpa using haccounted, by simp⟩
  | shutdown => exact ⟨by simpa [held, Main.owned] using haccounted, by simp⟩
  | shutdownAccepted => exact ⟨by simpa [held, Main.owned] using haccounted, by simp⟩
  | @newTask _ cfd =>
    have hcfd : 0 ≤ cfd := haccounted.numbered cfd ((haccounted.opened cfd).2 (.inr List.mem_cons_self))
    refine ⟨haccounted.perm (held_started .accepting connections cfd).symm, fun task htask ↦ ?_⟩
    obtain rfl : serveTask cfd = task := by simpa using htask
    exact safe_serveTask hcfd
  | drop => exact ⟨by simpa [held, Main.owned] using haccounted.close, by simp⟩
  | openOther hfd hfree => exact ⟨by simpa using haccounted.openOther hfd hfree, by simp⟩
  | closeOther hother => exact ⟨by simpa using haccounted.closeOther hother, by simp⟩

theorem accounted_task {before after : List Connection} {connection : Connection} {op : Op} {answer : op.Answer}
    (haccounted : fds.Accounted (held main (before ++ connection :: after)))
    (hallow : connectionWatch.allow connection op) (htable : descriptorTable fds op answer fds') :
    fds'.Accounted (held main (before ++ connectionWatch.next connection op answer :: after)) := by
  by_cases hclose : ∃ fd, op = .socketClose fd
  · obtain ⟨fd, rfl⟩ := hclose
    obtain rfl : fds' = fds.close fd := htable
    rcases hallow fd rfl with rfl | ⟨rfl, hopen⟩
    · have hnext : connectionWatch.next connection (.socketClose (-1)) answer = connection := by
        refine (ite_eq_right_iff).2 fun hop ↦ ?_
        have hcfd : connection.cfd = -1 := (Op.socketClose.inj hop).symm
        cases hclosed : connection.closed with
        | false =>
          have hmem := (held_perm main before after hclosed).mem_iff.2 List.mem_cons_self
          have hnumber := haccounted.numbered _ ((haccounted.opened _).2 (.inr hmem))
          omega
        | true => rw [← hclosed]
      rw [hnext, haccounted.close_neg_one]
      exact haccounted
    · have hnext : connectionWatch.next connection (.socketClose connection.cfd) answer =
          { connection with closed := true } := if_pos rfl
      rw [hnext, held_of_closed main before after rfl]
      exact (haccounted.perm (held_perm main before after hopen)).close
  · have hnext : connectionWatch.next connection op answer = connection := if_neg fun hop ↦ hclose ⟨_, hop⟩
    have hsame : fds' = fds := by
      unfold descriptorTable at htable
      split at htable
      · exact absurd ⟨_, rfl⟩ hclose
      · exact htable
    rw [hnext, hsame]
    exact haccounted

theorem mem_openConnections {connections : List Connection} {fd : Int} (hfd : fd ∈ openConnections connections) :
    ∃ connection ∈ connections, connection.cfd = fd ∧ connection.closed = false := by
  obtain ⟨connection, hconnection, rfl⟩ := List.mem_map.1 hfd
  obtain ⟨hmem, hopen⟩ := List.mem_filter.1 hconnection
  exact ⟨connection, hmem, rfl, by simpa using hopen⟩

/-- In every interleaving, whatever numbers the system gives out, a task reads, writes and closes only the
descriptor it was started with, while that is open and nobody else's. A descriptor that is open is not a
connection, or held by `main`, or the connection of a task that has not returned. -/
theorem descriptors_kept_apart {others : Set Int} {events : List (Option Op)} {process : Process}
    (hothers : ∀ fd ∈ others, 0 ≤ fd) (hsteps : Steps Process.Step (.start others) events process) :
    (∀ before task after, process.workers = before ++ task :: after →
      ∀ (op : Op) next, Offers task.program op next → ∀ fd, op.UsesSocket fd → fd ≠ -1 →
        fd = task.ghost.cfd ∧ fd ∈ process.shared.opened ∧ fd ∉ process.shared.others ∧
          fd ∉ held process.leader ((before ++ after).map Worker.ghost)) ∧
    ∀ fd ∈ process.shared.opened, fd ∈ process.shared.others ∨ fd ∈ process.leader.owned ∨
      ∃ task ∈ process.workers, task.ghost.cfd = fd ∧ ∀ result, task.program ≠ .ret result := by
  have hstart : (⟨others, others⟩ : Descriptors).Accounted (held .accepting []) :=
    ⟨List.nodup_nil, List.forall_mem_nil _, fun fd ↦ by simp [held, Main.owned, openConnections], hothers⟩
  obtain ⟨haccounted, hsafe⟩ := Crew.invariant
    (fun main (fds : Descriptors) connections ↦ fds.Accounted (held main connections)) hsteps (fun _ _ _ ↦ trivial)
    (fun _ _ _ _ _ _ haccounted hstep ↦ accounted_main haccounted hstep)
    (fun _ _ _ _ _ _ _ _ haccounted hallow htable ↦ accounted_task haccounted hallow htable) ⟨hstart, rfl⟩
  constructor
  · intro before task after hworkers op next hoffers fd huses hfd
    have htask : task ∈ process.workers := hworkers ▸ List.mem_append_right _ List.mem_cons_self
    have hghosts : process.ghosts = before.map Worker.ghost ++ task.ghost :: after.map Worker.ghost := by
      simp [Crew.ghosts, hworkers]
    have hallow : connectionWatch.allow task.ghost op := (hoffers.safe (hsafe task htask)).1
    obtain ⟨rfl, hopen⟩ := (hallow fd huses).resolve_left hfd
    rw [hghosts] at haccounted
    have howned := haccounted.perm (held_perm process.leader _ _ hopen)
    rw [List.map_append]
    exact ⟨rfl, (howned.opened _).2 (.inr List.mem_cons_self), howned.apart _ List.mem_cons_self,
      (List.nodup_cons.1 howned.nodup).1⟩
  · intro fd hfd
    rcases (haccounted.opened fd).1 hfd with hother | howned
    · exact .inl hother
    · rcases List.mem_append.1 howned with hmain | hconnection
      · exact .inr (.inl hmain)
      · obtain ⟨connection, hmem, hcfd, hopen⟩ := mem_openConnections hconnection
        obtain ⟨task, htask, rfl⟩ := List.mem_map.1 hmem
        refine .inr (.inr ⟨task, htask, hcfd, fun result hreturned ↦ ?_⟩)
        have hclosed : task.ghost.closed = true := by
          have hreturn := hsafe task htask
          rw [hreturned] at hreturn
          exact hreturn
        rw [hopen] at hclosed
        exact Bool.false_ne_true hclosed

/-- The number of a connection is given out again as soon as its task has closed it. -/
theorem descriptors_kept_apart_reuse :
    ∃ process, Steps Process.Step (.start {3}) [none, none, some (.socketReadLine 7 CString.bufsiz selecttimeout),
        some (.socketClose 7), none, none] process ∧ process.workers.length = 2 ∧ 7 ∈ process.shared.opened ∧
      ∀ fd ∈ process.shared.opened, fd ∈ process.shared.others ∨ fd ∈ process.leader.owned ∨
        ∃ task ∈ process.workers, task.ghost.cfd = fd ∧ ∀ result, task.program ≠ .ret result := by
  have hothers : ∀ fd ∈ ({3} : Set Int), 0 ≤ fd := by simp
  have hrun : Steps Process.Step (.start {3})
      [none, none, some (.socketReadLine 7 CString.bufsiz selecttimeout), some (.socketClose 7), none, none]
      ⟨⟨insert 7 (insert 7 {3} \ {7}), {3}⟩, .accepting, [⟨⟨7, true⟩, .ret (0, ⟨7, none⟩)⟩, serveTask 7]⟩ := by
    refine .cons (.lead (@MainStep.accept _ 7 (by decide) (by simp [Process.start]))) ?_
    refine .cons (.lead .newTask) ?_
    refine .cons (@Crew.Step.work signature _ _ _ _ _ _ _ _ [] [] (serveTask 7)
      (Op.socketReadLine 7 CString.bufsiz selecttimeout) _ (⟨0, []⟩ : ReadLine) _ rfl (.call _ _) rfl) ?_
    refine .cons (@Crew.Step.work signature _ _ _ _ _ _ _ _ [] [] _
      (Op.socketClose 7) _ (0 : Int) _ rfl (.call _ _) rfl) ?_
    refine .cons (.lead (@MainStep.accept _ 7 (by decide) fun hopened ↦ hopened.2 rfl)) ?_
    exact .cons (.lead .newTask) .nil
  exact ⟨_, hrun, rfl, .inl rfl, (descriptors_kept_apart hothers hrun).2⟩

end Steps

end CoreEngine.Smsd
