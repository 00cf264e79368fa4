import CoreEngine.Smsd.Simulator
import CoreEngine.Smsd.Indifference

/-!
# The client socket

The descriptor of a connection can be closed by `serve`, by the handler of SDIPUP or by a script. It is
replaced by -1 in the client context when it is closed, and that is what keeps later replies from
using it.
-/

namespace CoreEngine.Smsd

open Interaction
open Procedure (lift Stable Triple triple_bind triple_ite triple_call triple_get triple_modify triple_pure)
open Program (Run)

/-- The operation reads from a descriptor, writes to it or closes it. -/
def Op.UsesSocket (fd : Int) : Op → Prop
  | .socketReadLine fd' _ _ | .socketWrite fd' _ | .socketClose fd' | .doSnmpGet _ fd'
  | .doSnmpGetNext _ fd' => fd' = fd
  | _ => False

/-- Counts how often a descriptor is closed, and allows no use of it after that. -/
def socketWatch (fd : Int) : Monitor signature ℕ where
  allow closes op := op.UsesSocket fd → closes = 0
  expect _ _ _ := True
  next closes op _ := if op = .socketClose fd then closes + 1 else closes

/-- The client context has the descriptor until it is closed, and -1 from then on. -/
def Attached (fd : Int) (csp : Client) (closes : ℕ) : Prop :=
  (csp.cfd = fd ∧ closes = 0) ∨ (csp.cfd = -1 ∧ closes = 1)

variable {fd : Int}

theorem socketWatch_ignores {op : Op} (huses : ¬op.UsesSocket fd) : (socketWatch fd).Ignores op := by
  intro closes
  refine ⟨fun hop ↦ absurd hop huses, fun _ ↦ if_neg ?_⟩
  rintro rfl
  exact huses rfl

theorem socketWatch_ignores_database {op : Op} (hop : op.OnDatabase 2) :
    (socketWatch fd).Ignores op := by
  refine socketWatch_ignores ?_
  cases op <;> first | exact hop.elim | exact id

instance {inv : Client → ℕ → Prop} : StackDiscipline (socketWatch fd) inv :=
  stackDiscipline_of_ignores (socketWatch_ignores id)

instance {inv : Client → ℕ → Prop} : CountDiscipline (socketWatch fd) inv :=
  countDiscipline_of_ignores fun _ ↦ socketWatch_ignores id

instance {inv : Client → ℕ → Prop} : BodyDiscipline (socketWatch fd) inv :=
  ⟨fun _ _ _ ↦ False.elim⟩

instance : ContextDiscipline (socketWatch fd) (Attached fd) :=
  contextDiscipline_of_ignores (fun _ ↦ socketWatch_ignores_database) (fun _ _ _ hattached ↦ hattached)
    fun _ _ _ ↦ socketWatch_ignores_database (Sql.rank_le_two _)

instance : LockDiscipline (socketWatch fd) (Attached fd) :=
  lockDiscipline_of_ignores (fun _ hop ↦ socketWatch_ignores_database (hop.mono (by decide)))
    fun _ _ _ hattached ↦ hattached

instance : ReplyDiscipline (socketWatch fd) (Attached fd) :=
  replyDiscipline_of_ignores (socketWatch_ignores id)

instance : ScriptDiscipline (socketWatch fd) (Attached fd) := by
  refine scriptDiscipline_of_ignores fun op hop ↦ ?_
  cases op <;> first | exact hop.elim | exact socketWatch_ignores id

section Use

variable (hfd : 0 < fd)

include hfd

/-- The descriptor in the client context may be used. -/
theorem Attached.unused {csp : Client} {closes : ℕ} (hattached : Attached fd csp closes)
    (hcfd : csp.cfd = fd) : closes = 0 := by
  rcases hattached with ⟨-, hopen⟩ | ⟨hclosed, -⟩
  · exact hopen
  · omega

/-- An operation on the descriptor `cfd` that the client context was found to have. -/
theorem triple_useSocket {op : Op} {cfd : Int} (huses : op.UsesSocket fd → cfd = fd)
    (hclose : op ≠ .socketClose fd) :
    Triple (socketWatch fd) (fun csp closes ↦ csp.cfd = cfd ∧ Attached fd csp closes) (lift (ask op))
      fun _ ↦ Attached fd := by
  refine triple_call ?_ ?_
  · rintro csp closes ⟨hcfd, hattached⟩ hop
    exact hattached.unused hfd (hcfd.trans (huses hop))
  · rintro csp closes answer ⟨-, hattached⟩ -
    have hnext : (socketWatch fd).next closes op answer = closes := if_neg hclose
    rw [hnext]
    exact hattached

theorem stable_closeUserSocket : Stable (socketWatch fd) (Attached fd) closeUserSocket := by
  constructor
  rintro ⟨cfd, dbCtx⟩ closes hattached
  refine ⟨fun hop ↦ hattached.unused hfd hop, fun answer _ ↦ Or.inr ⟨rfl, ?_⟩⟩
  rcases hattached with ⟨rfl, rfl⟩ | ⟨rfl, rfl⟩
  · exact if_pos rfl
  · refine if_neg fun hclose ↦ ?_
    have hneg : -1 = fd := Op.socketClose.inj hclose
    omega

theorem socketDiscipline_socketWatch : SocketDiscipline (socketWatch fd) (Attached fd) := by
  have hget : Triple (socketWatch fd) (Attached fd) get fun value csp closes ↦
      csp.cfd = value.cfd ∧ Attached fd csp closes :=
    triple_get fun _ _ hattached ↦ ⟨rfl, hattached⟩
  have hconnection : ConnectionDiscipline (socketWatch fd) (Attached fd) := by
    refine ⟨fun size timeout ↦ ⟨?_⟩, fun bytes ↦ ⟨?_⟩, fun oid ↦ ⟨?_⟩, fun oid ↦ ⟨?_⟩⟩
    · exact triple_bind hget fun _ ↦ triple_useSocket hfd id nofun
    · exact triple_bind hget fun _ ↦ triple_useSocket hfd id nofun
    · exact triple_bind hget fun _ ↦ triple_bind (triple_useSocket hfd id nofun) fun _ ↦
        triple_pure 0 fun _ _ hattached ↦ hattached
    · exact triple_bind hget fun _ ↦ triple_bind (triple_useSocket hfd id nofun) fun _ ↦
        triple_pure 0 fun _ _ hattached ↦ hattached
  exact { hconnection with close := stable_closeUserSocket hfd }

/-- When `serve` returns, the descriptor has been closed once. -/
theorem triple_serve : Triple (socketWatch fd) (Attached fd) serve fun _ _ closes ↦ closes = 1 := by
  have hsocket := socketDiscipline_socketWatch hfd
  have hcheck (buf : CString) : Stable (socketWatch fd) (Attached fd) (checkVerb buf) :=
    stable_checkVerb_of_ignores (fun _ ↦ socketWatch_ignores_database) (fun _ _ _ hattached ↦ hattached)
      buf
  have hend : Triple (socketWatch fd) (Attached fd)
      (do
        let csp ← get
        if csp.cfd ≠ -1 then do
          let _ ← lift (ask (.socketClose csp.cfd))
          pure 0
        else pure 0) fun (_ : Int) _ closes ↦ closes = 1 := by
    have hget : Triple (socketWatch fd) (Attached fd) get fun value csp closes ↦
        Attached fd value closes :=
      triple_get fun _ _ hattached ↦ hattached
    refine triple_bind hget fun csp ↦ triple_ite (fun hcfd ↦ ?_) fun hcfd ↦ ?_
    · refine triple_bind (triple_call (fun _ _ hattached hop ↦ hattached.unused hfd hop) ?_) fun _ ↦
        triple_pure 0 fun _ _ hclosed ↦ hclosed
      rintro _ closes answer (⟨hfresh, rfl⟩ | ⟨hgone, -⟩) -
      · rw [hfresh]
        exact if_pos rfl
      · exact absurd hgone hcfd
    · refine triple_pure 0 fun _ closes hattached ↦ ?_
      rcases hattached with ⟨hfresh, -⟩ | ⟨-, hclosed⟩
      · omega
      · exact hclosed
  unfold serve
  refine triple_bind Stable.triple fun line ↦ triple_ite (fun _ ↦ ?_) fun _ ↦ ?_
  · exact triple_bind (hcheck line.buf).triple fun _ ↦ hend
  · exact hend

end Use

/-- How often a descriptor is closed in a trace. -/
def closes (fd : Int) (trace : List (Event signature)) : ℕ :=
  (trace.map Sigma.fst).count (.socketClose fd)

theorem after_socketWatch (count : ℕ) (trace : List (Event signature)) :
    (socketWatch fd).after count trace = count + closes fd trace := by
  induction trace generalizing count with
  | nil => rfl
  | cons event trace ih =>
    unfold Monitor.after
    rw [ih]
    by_cases hclose : event.1 = .socketClose fd
    · simp [socketWatch, closes, hclose]
      omega
    · simp [socketWatch, closes, hclose]

/-- The accepted descriptor has been closed exactly once when `serve` returns, and in no run is it
read, written or closed after it has been closed. -/
theorem socket_closed_once (hfd : 0 < fd) {trace : List (Event signature)} {final : Code (Int × Client)}
    (hrun : Run (serve ⟨fd, none⟩) trace final) :
    (∀ result, final = .ret result → closes fd trace = 1) ∧
      ∀ before event rest, trace = before ++ event :: rest → event.1.UsesSocket fd →
        closes fd before = 0 := by
  have hsafe := triple_serve hfd ⟨fd, none⟩ 0 (Or.inl ⟨rfl, rfl⟩)
  have hmeets := (socketWatch fd).meets_of_expect (fun _ _ _ ↦ trivial) 0 trace
  obtain ⟨haccepts, hfinal⟩ := hrun.safe hsafe hmeets
  constructor
  · rintro result rfl
    have hclosed : (socketWatch fd).after 0 trace = 1 := hfinal
    rw [after_socketWatch] at hclosed
    omega
  · rintro before event rest rfl huses
    rw [Monitor.accepts_append] at haccepts
    have hunused : (socketWatch fd).after 0 before = 0 := haccepts.2.1 huses
    rw [after_socketWatch] at hunused
    omega

/-- A script that closes the socket and then still tries to reply. -/
theorem socket_closed_once_jsgetconf :
    let run := (Sim.single ["JSGETCONF ABC123".toList]
      [Sim.call .smsCloseUserSocket, Sim.call (.smsSendUserOk none), Sim.call .smsCloseUserSocket]).exec 5
      (serve ⟨7, none⟩)
    run.2.1.result?.isSome ∧ closes 7 run.1 = 1 := by
  intro run
  have hresult : run.2.1.result? = some (0, ⟨-1, none⟩) := by decide +kernel
  have honce := (socket_closed_once (by decide : (0 : Int) < 7) (Sim.run_execUntil _ _ _ _)).1 _
    (Program.eq_ret_of_result? hresult)
  exact ⟨by rw [hresult]; rfl, honce⟩

end CoreEngine.Smsd
