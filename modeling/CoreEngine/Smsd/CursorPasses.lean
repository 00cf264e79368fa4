import CoreEngine.Memory.Passes
import CoreEngine.Smsd.LockRow
import CoreEngine.Smsd.Dispatch

/-!
# Tasks for the rows of a cursor

`scan_updated` and `save_all_conf` go over the rows of a cursor and schedule a task for each device. When the
connection is lost they start over.
-/

namespace CoreEngine.Smsd

open Interaction
open Procedure (Triple triple_bind triple_lift triple_pure)
open Program (Run)
open CoreEngine.Memory (passesOver)

/-- What the cursor has returned, and the tasks there are. -/
structure Sweep where
  /-- The rows of each pass that has ended. -/
  ended : List ℕ
  /-- The rows of the current pass. -/
  current : ℕ
  fetched : List SdLike
  tasks : List Task

namespace Sweep

def start : Sweep := ⟨[], 0, [], []⟩

/-- The first of them, before the cursor is opened, is empty. -/
def passes (g : Sweep) : List ℕ := g.ended ++ [g.current]

/-- A pass begins. -/
def first (g : Sweep) (sd : SdLike) : Sweep := ⟨g.passes, 1, g.fetched ++ [sd], g.tasks⟩

def next (g : Sweep) (sd : SdLike) : Sweep := { g with current := g.current + 1, fetched := g.fetched ++ [sd] }

def schedule (g : Sweep) (task : Task) : Sweep := { g with tasks := g.tasks ++ [task] }

end Sweep

/-- The row number `n`, the end of the rows, or a failure. -/
def Fetches (rows : List SdLike) (n : ℕ) (reply : Reply SdLike) : Prop :=
  reply.ret = smsOk ∧ rows[n]? = some reply.output ∨ reply.ret = errDbNotfound ∨ reply.ret = errDbFailed

/-- Both cursors go over the same rows in every pass. The library reconnects for `GetSDconnectedFirst`. -/
def cursor (rows : List SdLike) : Monitor signature Sweep where
  allow _ _ := True
  expect g op answer := match op, answer with
    | .sql _ .getSDToUpdateFirst, reply => Fetches rows 0 reply ∨ reply.ret = errDbConnectionLost
    | .sql _ .getSDconnectedFirst, reply => Fetches rows 0 reply
    | .sql _ .getSDToUpdateNext, reply => Fetches rows g.current reply ∨ reply.ret = errDbConnectionLost
    | .sql _ .getSDconnectedNext, reply => Fetches rows g.current reply ∨ reply.ret = errDbConnectionLost
    | _, _ => True
  next g op answer := match op, answer with
    | .sql _ .getSDToUpdateFirst, reply => if reply.ret = smsOk then g.first reply.output else g
    | .sql _ .getSDconnectedFirst, reply => if reply.ret = smsOk then g.first reply.output else g
    | .sql _ .getSDToUpdateNext, reply => if reply.ret = smsOk then g.next reply.output else g
    | .sql _ .getSDconnectedNext, reply => if reply.ret = smsOk then g.next reply.output else g
    | .newTask task _ _, _ => g.schedule task
    | _, _ => g

/-- The two functions that go over a cursor. -/
inductive CursorScan
  | scanUpdated
  | saveAllConf

namespace CursorScan

def run : CursorScan → M Int
  | .scanUpdated => CoreEngine.Smsd.scanUpdated
  | .saveAllConf => CoreEngine.Smsd.saveAllConf

def task : CursorScan → SdLike → Task
  | .scanUpdated => .updateTask
  | .saveAllConf => .saveConfTask

/-- The devices that get a task. -/
def takes : CursorScan → SdLike → Bool
  | .scanUpdated => fun _ ↦ true
  | .saveAllConf => fun sd ↦ sd.sdConnected ≠ 0

/-- One task for each device of interest that was returned, and no others. -/
def OncePerDevice (scan : CursorScan) (g : Sweep) : Prop :=
  g.tasks.Perm ((g.fetched.filter scan.takes).dedup.map scan.task)

end CursorScan

namespace Sweep

variable {rows : List SdLike} {scan : CursorScan} {g : Sweep} {ctx : Ctx}

/-- The rows that were returned are those of the passes. -/
def Tracks (rows : List SdLike) (g : Sweep) : Prop := g.fetched = passesOver rows g.passes

/-- Every row has its task. -/
def Settled (rows : List SdLike) (scan : CursorScan) (g : Sweep) : Prop :=
  Tracks rows g ∧ g.tasks = (g.fetched.filter scan.takes).map scan.task

/-- The last row is still without its task. -/
def Owes (rows : List SdLike) (scan : CursorScan) (sd : SdLike) (g : Sweep) : Prop :=
  Tracks rows g ∧ ∃ fetched, g.fetched = fetched ++ [sd] ∧ g.tasks = (fetched.filter scan.takes).map scan.task

theorem Settled.first {sd : SdLike} (hsettled : Settled rows scan g) (hsd : rows[0]? = some sd) :
    Owes rows scan sd (g.first sd) := by
  refine ⟨?_, g.fetched, rfl, hsettled.2⟩
  show g.fetched ++ [sd] = passesOver rows (g.passes ++ [1])
  rw [hsettled.1, Memory.passesOver_first hsd]

theorem Settled.next {sd : SdLike} (hsettled : Settled rows scan g) (hsd : rows[g.current]? = some sd) :
    Owes rows scan sd (g.next sd) := by
  refine ⟨?_, g.fetched, rfl, hsettled.2⟩
  show g.fetched ++ [sd] = passesOver rows (g.ended ++ [g.current + 1])
  rw [hsettled.1, Memory.passesOver_next hsd]
  rfl

/-- The task of a device of interest. -/
theorem Owes.schedule {sd : SdLike} (howes : Owes rows scan sd g) (htakes : scan.takes sd = true) :
    Settled rows scan (g.schedule (scan.task sd)) := by
  obtain ⟨htracks, fetched, hfetched, htasks⟩ := howes
  refine ⟨htracks, ?_⟩
  show g.tasks ++ [scan.task sd] = (g.fetched.filter scan.takes).map scan.task
  rw [hfetched, htasks]
  simp [htakes]

/-- The other devices get none. -/
theorem Owes.skip {sd : SdLike} (howes : Owes rows scan sd g) (htakes : scan.takes sd = false) :
    Settled rows scan g := by
  obtain ⟨htracks, fetched, hfetched, htasks⟩ := howes
  refine ⟨htracks, ?_⟩
  rw [hfetched, htasks]
  simp [htakes]

section Fetching

variable {n : ℕ} {step : SdLike → Sweep} {post : Reply SdLike → Sweep → Prop}

/-- The two ways in which a fetch ends that is not lost. -/
theorem fetched_or_ended {reply : Reply SdLike} (hreply : Fetches rows n reply)
    (hok : ∀ sd, rows[n]? = some sd → post ⟨smsOk, sd⟩ (step sd))
    (hended : ∀ reply, reply.ret = errDbNotfound ∨ reply.ret = errDbFailed → post reply g) :
    post reply (if reply.ret = smsOk then step reply.output else g) := by
  obtain ⟨ret, sd⟩ := reply
  rcases hreply with ⟨hret, hsd⟩ | hret
  · obtain rfl : ret = smsOk := hret
    rw [if_pos rfl]
    exact hok sd hsd
  · rw [if_neg (by rcases hret with hret | hret <;> (rw [hret]; decide))]
    exact hended _ hret

theorem safe_toUpdateFirst (hok : ∀ sd, rows[0]? = some sd → post ⟨smsOk, sd⟩ (g.first sd))
    (hended : ∀ reply, reply.ret = errDbNotfound ∨ reply.ret = errDbFailed → post reply g) :
    (haSmssqlGetSDToUpdateFirst ctx .blank).Safe (cursor rows) post g := by
  refine ⟨trivial, fun shutdownRequired _ ↦ ?_⟩
  cases shutdownRequired with
  | true => exact hended _ (Or.inr rfl)
  | false =>
    apply safe_retry_of_inv (· = g) (fun _ ↦ ⟨trivial, fun _ ↦ rfl⟩) (fun _ ↦ ⟨trivial, fun _ ↦ rfl⟩) _ rfl
    rintro g rfl
    refine ⟨trivial, fun reply hreply ↦ ?_⟩
    have hnext : (cursor rows).next g (.sql ctx .getSDToUpdateFirst) reply =
      if reply.ret = smsOk then g.first reply.output else g := rfl
    rw [hnext]
    by_cases hlost : reply.ret = errDbConnectionLost
    · rw [if_pos hlost, if_neg (by rw [hlost]; decide)]
      exact ⟨rfl, hended _ (Or.inr rfl)⟩
    · rw [if_neg hlost]
      exact fetched_or_ended (hreply.resolve_right hlost) hok hended

theorem safe_toUpdateNext (hok : ∀ sd, rows[g.current]? = some sd → post ⟨smsOk, sd⟩ (g.next sd))
    (hended : ∀ reply, reply.ret = errDbNotfound ∨ reply.ret = errDbFailed → post reply g)
    (hlost : ∀ reply, reply.ret = errDbConnectionLost → post reply g) :
    (haSmssqlGetSDToUpdateNext ctx .blank).Safe (cursor rows) post g := by
  refine ⟨trivial, fun shutdownRequired _ ↦ ?_⟩
  cases shutdownRequired with
  | true => exact hended _ (Or.inr rfl)
  | false =>
    refine ⟨trivial, fun reply hreply ↦ ?_⟩
    show Program.Safe _ (if reply.ret = errDbConnectionLost then _ else _) _
      (if reply.ret = smsOk then g.next reply.output else g)
    by_cases hret : reply.ret = errDbConnectionLost
    · rw [if_pos hret, if_neg (by rw [hret]; decide)]
      refine ⟨trivial, fun shutdownRequired _ ↦ ?_⟩
      cases shutdownRequired with
      | true => exact hended _ (Or.inr rfl)
      | false => exact hlost reply hret
    · rw [if_neg hret]
      exact fetched_or_ended (hreply.resolve_right hret) hok hended

theorem safe_connectedFirst (hok : ∀ sd, rows[0]? = some sd → post ⟨smsOk, sd⟩ (g.first sd))
    (hended : ∀ reply, reply.ret = errDbNotfound ∨ reply.ret = errDbFailed → post reply g) :
    (sql ctx .getSDconnectedFirst).Safe (cursor rows) post g :=
  ⟨trivial, fun _ hreply ↦ fetched_or_ended hreply hok hended⟩

theorem safe_connectedNext (hok : ∀ sd, rows[g.current]? = some sd → post ⟨smsOk, sd⟩ (g.next sd))
    (hended : ∀ reply, reply.ret = errDbNotfound ∨ reply.ret = errDbFailed → post reply g)
    (hlost : ∀ reply, reply.ret = errDbConnectionLost → post reply g) :
    (sql ctx .getSDconnectedNext).Safe (cursor rows) post g := by
  refine ⟨trivial, fun reply hreply ↦ ?_⟩
  show post reply (if reply.ret = smsOk then g.next reply.output else g)
  by_cases hret : reply.ret = errDbConnectionLost
  · rw [if_neg (by rw [hret]; decide)]
    exact hlost reply hret
  · exact fetched_or_ended (hreply.resolve_right hret) hok hended

end Fetching

/-- The reply that the inner loop looks at, and the task that is still to come. -/
def Fetched (rows : List SdLike) (scan : CursorScan) (reply : Reply SdLike) (g : Sweep) : Prop :=
  reply.ret = smsOk ∧ Owes rows scan reply.output g ∨ reply.ret = errDbNotfound ∧ Settled rows scan g

/-- The end of a round of the inner loops, when no further row was returned. -/
theorem safe_ended {σ : Type} {again : σ} {next : Reply SdLike} {inv : σ → Sweep → Prop}
    (hended : next.ret = errDbNotfound ∨ next.ret = errDbFailed ∨ next.ret = errDbConnectionLost)
    (hagain : next.ret = errDbNotfound → inv again g) (hsettled : Settled rows scan g) :
    (if next.ret = errDbFailed then pure (.inr false) else if next.ret = errDbConnectionLost then pure (.inr true)
      else pure (.inl again) : Code (σ ⊕ Bool)).Safe (cursor rows)
        (fun result g ↦ result.elim (inv · g) fun _ ↦ Settled rows scan g) g := by
  by_cases hfailed : next.ret = errDbFailed
  · rw [if_pos hfailed]
    exact hsettled
  · rw [if_neg hfailed]
    by_cases hlost : next.ret = errDbConnectionLost
    · rw [if_pos hlost]
      exact hsettled
    · rw [if_neg hlost]
      exact hagain (hended.resolve_right (not_or.2 ⟨hfailed, hlost⟩))

/-- The end of a pass: all is settled, and the outer loop goes on or not. -/
theorem safe_pass_end (lost : Bool) (hsettled : Settled rows scan g) :
    (if lost then pure (.inl ()) else pure (.inr ()) : Code (Unit ⊕ Unit)).Safe (cursor rows)
      (fun result g ↦ result.elim (fun _ ↦ Settled rows scan g) fun _ ↦ Settled rows scan g) g := by
  cases lost with
  | true => exact hsettled
  | false => exact hsettled

section ScanUpdated

theorem safe_updateFetched {reply : Reply SdLike} (hfetched : Fetched rows .scanUpdated reply g) :
    (updateFetched ctx reply).Safe (cursor rows)
      (fun result g ↦ result.elim (Fetched rows .scanUpdated · g) fun _ ↦ Settled rows .scanUpdated g) g := by
  unfold updateFetched
  rcases hfetched with ⟨hret, howes⟩ | ⟨hret, hsettled⟩
  · have hsettled := howes.schedule rfl
    rw [if_neg (by rw [hret]; decide)]
    refine ⟨trivial, fun _ _ ↦ ?_⟩
    show Program.Safe _ (haSmssqlGetSDToUpdateNext ctx .blank >>= _) _ _
    rw [Program.safe_bind]
    apply safe_toUpdateNext
    · intro sd hsd
      exact Or.inl ⟨rfl, hsettled.next hsd⟩
    · intro next hnext
      exact safe_ended (hnext.imp_right Or.inl) (fun hret ↦ Or.inr ⟨hret, hsettled⟩) hsettled
    · intro next hnext
      exact safe_ended (Or.inr (Or.inr hnext)) (fun hret ↦ Or.inr ⟨hret, hsettled⟩) hsettled
  · rw [if_pos hret]
    exact hsettled

theorem safe_updatePass (hsettled : Settled rows .scanUpdated g) :
    (updatePass ctx).Safe (cursor rows)
      (fun result g ↦ result.elim (fun _ ↦ Settled rows .scanUpdated g) fun _ ↦ Settled rows .scanUpdated g) g := by
  unfold updatePass
  rw [Program.safe_bind]
  apply safe_toUpdateFirst
  · intro sd hsd
    rw [if_neg (by decide : ¬(smsOk = errDbFailed ∨ smsOk = errDbNotfound)), Program.safe_bind]
    apply Program.safe_loop (Fetched rows .scanUpdated)
    · intro reply g hfetched
      refine (safe_updateFetched hfetched).mono ?_
      rintro (next | lost) g hresult
      · exact hresult
      · exact safe_pass_end lost hresult
    · exact Or.inl ⟨rfl, hsettled.first hsd⟩
  · intro first hended
    rw [if_pos hended.symm]
    exact hsettled

end ScanUpdated

section SaveAllConf

/-- The next record of `save_all_conf`. -/
theorem safe_saveNext (i : ℕ) (hsettled : Settled rows .saveAllConf g) :
    (sql ctx .getSDconnectedNext >>= fun next ↦
      if next.ret = errDbFailed then pure (.inr false) else if next.ret = errDbConnectionLost then pure (.inr true)
      else pure (.inl (next, i)) : Code (Reply SdLike × ℕ ⊕ Bool)).Safe (cursor rows)
        (fun result g ↦ result.elim (fun state ↦ Fetched rows .saveAllConf state.1 g)
          fun _ ↦ Settled rows .saveAllConf g) g := by
  rw [Program.safe_bind]
  apply safe_connectedNext
  · intro sd hsd
    exact Or.inl ⟨rfl, hsettled.next hsd⟩
  · intro next hnext
    exact safe_ended (hnext.imp_right Or.inl) (fun hret ↦ Or.inr ⟨hret, hsettled⟩) hsettled
  · intro next hnext
    exact safe_ended (Or.inr (Or.inr hnext)) (fun hret ↦ Or.inr ⟨hret, hsettled⟩) hsettled

theorem safe_saveFetched {reply : Reply SdLike} (i : ℕ) (hfetched : Fetched rows .saveAllConf reply g) :
    (saveFetched ctx reply i).Safe (cursor rows) (fun result g ↦ result.elim
      (fun state ↦ Fetched rows .saveAllConf state.1 g) fun _ ↦ Settled rows .saveAllConf g) g := by
  unfold saveFetched
  rcases hfetched with ⟨hret, howes⟩ | ⟨hret, hsettled⟩
  · rw [if_neg (by rw [hret]; decide)]
    by_cases hconnected : reply.output.sdConnected ≠ 0
    · simp only [if_pos hconnected]
      refine ⟨trivial, fun _ _ ↦ ?_⟩
      exact safe_saveNext (i + 1) (howes.schedule (decide_eq_true hconnected))
    · simp only [if_neg hconnected]
      exact safe_saveNext i (howes.skip (decide_eq_false hconnected))
  · rw [if_pos hret]
    exact hsettled

theorem safe_savePass (hsettled : Settled rows .saveAllConf g) :
    (savePass ctx).Safe (cursor rows)
      (fun result g ↦ result.elim (fun _ ↦ Settled rows .saveAllConf g) fun _ ↦ Settled rows .saveAllConf g) g := by
  unfold savePass
  rw [Program.safe_bind]
  apply safe_connectedFirst
  · intro sd hsd
    rw [if_neg (by decide : ¬(smsOk = errDbFailed ∨ smsOk = errDbNotfound)), Program.safe_bind]
    apply Program.safe_loop fun state g ↦ Fetched rows .saveAllConf state.1 g
    · rintro ⟨reply, i⟩ g hfetched
      refine (safe_saveFetched i hfetched).mono ?_
      rintro (next | lost) g hresult
      · exact hresult
      · exact safe_pass_end lost hresult
    · exact Or.inl ⟨rfl, hsettled.first hsd⟩
  · intro first hended
    rw [if_pos hended.symm]
    exact hsettled

end SaveAllConf

theorem safe_withCtx {caller : Caller} {pass : Ctx → Code (Unit ⊕ Unit)}
    (hpass : ∀ ctx g, Settled rows scan g → (pass ctx).Safe (cursor rows)
      (fun result g ↦ result.elim (fun _ ↦ Settled rows scan g) fun _ ↦ Settled rows scan g) g)
    (hsettled : Settled rows scan g) :
    (withCtx .sms caller fun ctx ↦ Program.loop (fun _ ↦ pass ctx) ()).Safe (cursor rows)
      (fun _ ↦ Settled rows scan) g := by
  refine ⟨trivial, fun ctx _ ↦ ?_⟩
  show Program.Safe _ (Program.loop (fun _ ↦ pass ctx) () >>= _) _ _
  rw [Program.safe_bind]
  apply Program.safe_loop (fun _ ↦ Settled rows scan) _ hsettled
  intro _ g hsettled
  apply (hpass ctx g hsettled).mono
  rintro (_ | _) g hresult
  · exact hresult
  · exact ⟨trivial, fun _ _ ↦ hresult⟩

/-- However often the connection is lost, every device of interest that is returned gets a task each time. -/
theorem triple_run (rows : List SdLike) (scan : CursorScan) :
    Triple (cursor rows) (fun _ g ↦ g = .start) scan.run fun _ _ ↦ Settled rows scan := by
  have hstart : Settled rows scan .start := ⟨rfl, rfl⟩
  cases scan with
  | scanUpdated =>
    refine triple_bind (triple_lift ?_) fun _ ↦ triple_pure _ fun _ _ hsettled ↦ hsettled
    rintro _ _ rfl
    exact safe_withCtx (fun _ _ hsettled ↦ safe_updatePass hsettled) hstart
  | saveAllConf =>
    refine triple_bind (triple_lift ?_) fun _ ↦ triple_pure _ fun _ _ hsettled ↦ hsettled
    rintro _ _ rfl
    exact safe_withCtx (fun _ _ hsettled ↦ safe_savePass hsettled) hstart

end Sweep

/-- Every device of interest gets one task for each time that it is returned, and no other task is created. That
is one task for each device exactly if no two passes have a device of interest in common. -/
theorem tasks_eq_and_oncePerDevice_iff (scan : CursorScan) {rows : List SdLike} (hrows : rows.Nodup)
    {csp csp' : Client} {trace : List (Event signature)} {value : Int}
    (hrun : Run (scan.run csp) trace (.ret (value, csp'))) (hmeets : (cursor rows).Meets .start trace) :
    ((cursor rows).after .start trace).tasks =
        (((cursor rows).after .start trace).fetched.filter scan.takes).map scan.task ∧
      (scan.OncePerDevice ((cursor rows).after .start trace) ↔
        ((cursor rows).after .start trace).passes.Pairwise fun m n ↦
          ∀ sd ∈ rows.take (min m n), scan.takes sd = false) := by
  obtain ⟨htracks, htasks⟩ := hrun.returns (Sweep.triple_run rows scan csp .start rfl) hmeets
  refine ⟨htasks, ?_⟩
  unfold CursorScan.OncePerDevice
  rw [htasks, Memory.perm_map_dedup_iff, htracks]
  exact Memory.nodup_filter_passesOver_iff hrows scan.takes

section Runs

/-- A device that is not connected, followed by two that are. -/
def threeRows : List SdLike :=
  [{ Sim.plainDevice.sd with key.seqnum := 121, sdConnected := 0 },
    { Sim.plainDevice.sd with key.seqnum := 122 }, { Sim.plainDevice.sd with key.seqnum := 123 }]

/-- The connection is lost once the first row was returned; the second pass gets to the end of the rows. -/
def saveAgain : List (Event signature) :=
  [⟨.findCtx .sms .saveAllConf, ⟨.sms, 0⟩⟩, ⟨.sql ⟨.sms, 0⟩ .getSDconnectedFirst, ⟨smsOk, threeRows[0]⟩⟩,
    ⟨.sql ⟨.sms, 0⟩ .getSDconnectedNext, ⟨errDbConnectionLost, .blank⟩⟩,
    ⟨.sql ⟨.sms, 0⟩ .getSDconnectedFirst, ⟨smsOk, threeRows[0]⟩⟩,
    ⟨.sql ⟨.sms, 0⟩ .getSDconnectedNext, ⟨smsOk, threeRows[1]⟩⟩,
    ⟨.newTask (.saveConfTask threeRows[1]) ("save conf ".toList ++ threeRows[1].key.text) 1000, ()⟩,
    ⟨.sql ⟨.sms, 0⟩ .getSDconnectedNext, ⟨smsOk, threeRows[2]⟩⟩,
    ⟨.newTask (.saveConfTask threeRows[2]) ("save conf ".toList ++ threeRows[2].key.text) 2000, ()⟩,
    ⟨.sql ⟨.sms, 0⟩ .getSDconnectedNext, ⟨errDbNotfound, .blank⟩⟩, ⟨.releaseCtx (some ⟨.sms, 0⟩), ()⟩]

/-- The only row that is returned twice is not of interest. -/
theorem oncePerDevice_saveAgain :
    CursorScan.saveAllConf.OncePerDevice ((cursor threeRows).after .start saveAgain) := by
  have hrun : Run (CursorScan.saveAllConf.run ⟨-1, none⟩) saveAgain (.ret (smsOk, ⟨-1, none⟩)) :=
    .call (@Run.bound _ _ _ 2 _ _ (.call (@Run.bound _ _ _ 1 _ _ (.call (.call (@Run.bound _ _ _ 4 _ _
      (.call (.call (.call (.call (.call (.call (.done _)))))))))))))
  have hmeets : (cursor threeRows).Meets .start saveAgain :=
    ⟨trivial, Or.inl ⟨rfl, rfl⟩, Or.inr rfl, Or.inl ⟨rfl, rfl⟩, Or.inl (Or.inl ⟨rfl, rfl⟩), trivial,
      Or.inl (Or.inl ⟨rfl, rfl⟩), trivial, Or.inl (Or.inr (Or.inl rfl)), trivial, trivial⟩
  exact (tasks_eq_and_oncePerDevice_iff .saveAllConf (by decide +kernel) hrun hmeets).2.2 (by decide +kernel)

/-- A pass of `scan_updated` over one row, which ends when the next fetch does. -/
def updatePassOver (sd : SdLike) (ret : Int) : List (Event signature) :=
  [⟨.readShutdown, false⟩, ⟨.sql ⟨.sms, 0⟩ .getSDToUpdateFirst, ⟨smsOk, sd⟩⟩,
    ⟨.newTask (.updateTask sd) ("update ".toList ++ sd.key.text) 0, ()⟩, ⟨.readShutdown, false⟩,
    ⟨.sql ⟨.sms, 0⟩ .getSDToUpdateNext, ⟨ret, .blank⟩⟩]

/-- The connection is lost after the only device was returned. -/
def twoPasses (sd : SdLike) : List (Event signature) :=
  ⟨.findCtx .sms .scanUpdated, ⟨.sms, 0⟩⟩ :: updatePassOver sd errDbConnectionLost ++
    ⟨.readShutdown, false⟩ :: updatePassOver sd errDbNotfound ++ [⟨.releaseCtx (some ⟨.sms, 0⟩), ()⟩]

/-- The configuration of the device is pushed twice. -/
theorem twice_after_lost : Run (CursorScan.scanUpdated.run ⟨-1, none⟩) (twoPasses Sim.plainDevice.sd)
      (.ret (0, ⟨-1, none⟩)) ∧
    (cursor [Sim.plainDevice.sd]).Meets .start (twoPasses Sim.plainDevice.sd) ∧
    ¬CursorScan.scanUpdated.OncePerDevice
      ((cursor [Sim.plainDevice.sd]).after .start (twoPasses Sim.plainDevice.sd)) := by
  have hrun : Run (CursorScan.scanUpdated.run ⟨-1, none⟩) (twoPasses Sim.plainDevice.sd) (.ret (0, ⟨-1, none⟩)) :=
    .call (@Run.bound _ _ _ 2 _ _ (.call (@Run.bound _ _ _ 1 _ _ (.call (@Run.bound _ _ _ 1 _ _ (.call (.call (.call
      (.call (.call (@Run.bound _ _ _ 1 _ _ (.call (@Run.bound _ _ _ 2 _ _
        (.call (.call (.call (.call (.done _))))))))))))))))))
  refine ⟨hrun, ?_, ?_⟩
  · exact ⟨trivial, trivial, Or.inl (Or.inl ⟨rfl, rfl⟩), trivial, trivial, Or.inr rfl, trivial, trivial,
      Or.inl (Or.inl ⟨rfl, rfl⟩), trivial, trivial, Or.inl (Or.inr (Or.inl rfl)), trivial, trivial⟩
  · intro hperm
    exact absurd hperm.length_eq (by decide +kernel)

end Runs

end CoreEngine.Smsd
