import CoreEngine.Smsd.Indifference
import CoreEngine.Smsd.Passage

/-!
# Bodies of requests

Six handlers gather a body from the lines that follow the request line, each with a loop of its own.
The body starts as a null pointer, and stays one if no line is taken.
-/

namespace CoreEngine.Smsd

open Interaction
open Procedure (lift Stable Triple triple_bind triple_ite triple_pure triple_call triple_loop
  may_bind may_pure may_call may_get may_ite_pos may_ite_neg may_loop reaches_bind reaches_ite_pos
  reaches_ite_neg)
open Program (Run Offers)

/-- What a client sends after the request line, read by read, and the results of the lookups of the
device, one after the other. -/
structure Feed where
  lines : ℕ → ReadLine
  lookups : ℕ → Int

/-- How many reads and lookups there have been. -/
structure Intake where
  reads : ℕ
  lookups : ℕ
  deriving DecidableEq, Repr

def Intake.start : Intake := ⟨0, 0⟩

/-- The run gets its lines and its lookups from the feed, and follows no missing body. -/
def intake (feed : Feed) : Monitor signature Intake where
  allow _ op := op ≠ .nullBody
  expect g op answer := match op, answer with
    | .socketReadLine _ _ _, line => line = feed.lines g.reads
    | .sql _ (.getSdInfo _), reply => reply.ret = feed.lookups g.lookups
    | _, _ => True
  next g op _ := match op with
    | .socketReadLine _ _ _ => { g with reads := g.reads + 1 }
    | .sql _ (.getSdInfo _) => { g with lookups := g.lookups + 1 }
    | _ => g

/-- The handlers that read a body. -/
def bodyReaders : List Handler :=
  [.doJsSmsexecn, .doJsSmsAddonExec, .doResolve, .doPushConfig, .doCmd, .doCustCmd, .doCallCommand]

/-- Whatever else happens, no run of the handler on this feed gets to the point where a missing body
is followed. -/
def BodyPresent (handler : Handler) (params : CString) (feed : Feed) : Prop :=
  ∀ cfd ctx trace final next, Run (handler.run params ⟨cfd, some ctx⟩) trace final →
    (intake feed).Meets .start trace → ¬Offers final .nullBody next

/-- The handlers that use the body without a look at it, when the first line they read is not taken
and the device is found. -/
def Handler.losesBody (params : CString) (line : ReadLine) (lookup : Int) : Handler → Bool
  | .doJsSmsexecn => line.ret ≤ 0 && lookup = 0
  | .doJsSmsAddonExec => acceptsWords params 2 (2 ≤ ·) && (line.ret ≤ 0 && lookup = 0)
  | .doResolve => line.ret < 0 && lookup = 0
  | _ => false

namespace Intake

variable {feed : Feed}

section Disciplines

/-- Nothing is known. -/
abbrev Anything (_csp : Client) (_g : Intake) : Prop := True

theorem keeps {op : Op} (hop : op ≠ .nullBody) : (intake feed).Keeps Anything op :=
  fun _ _ _ ↦ ⟨hop, fun _ _ ↦ trivial⟩

theorem keeps_database {op : Op} (hop : op.OnDatabase 2) : (intake feed).Keeps Anything op := by
  apply keeps
  rintro rfl
  exact hop

instance : ContextDiscipline (intake feed) Anything :=
  contextDiscipline_of_keeps (fun _ ↦ keeps_database) (fun _ _ _ _ ↦ trivial) fun _ _ _ ↦
    keeps_database (Sql.rank_le_two _)

instance : LockDiscipline (intake feed) Anything :=
  lockDiscipline_of_keeps (fun _ hop ↦ keeps_database (hop.mono (by decide))) fun _ _ _ _ ↦ trivial

instance : SocketDiscipline (intake feed) Anything := by
  apply socketDiscipline_of_keeps _ fun _ _ _ _ ↦ trivial
  intro op hop
  apply keeps
  rintro rfl
  exact hop

instance : StackDiscipline (intake feed) Anything := ⟨stable_ask_of_keeps (keeps nofun)⟩

instance : ReplyDiscipline (intake feed) Anything := ⟨stable_ask_of_keeps (keeps nofun)⟩

instance : ScriptDiscipline (intake feed) Anything := by
  apply scriptDiscipline_of_keeps
  intro op hop
  apply keeps
  rintro rfl
  exact hop

/-- What is known before code that may do what it likes does not matter. -/
theorem triple_anything {α : Type} {pre : Client → Intake → Prop} (procedure : M α)
    [hstable : Stable (intake feed) Anything procedure] :
    Triple (intake feed) pre procedure fun _ ↦ Anything :=
  hstable.triple.conseq (fun _ _ _ ↦ trivial) fun _ _ _ _ ↦ trivial

end Disciplines

section Present

theorem ignores_pool (op : Op) (hop : op.OnPool) : (intake feed).Ignores op := by
  intro g
  cases op <;> first | exact hop.elim | exact ⟨nofun, fun _ ↦ rfl⟩

/-- The first lookup of the device. -/
theorem triple_getSDinfo (sdid : CString) (reads : ℕ) :
    Triple (intake feed) (fun _ g ↦ g = ⟨reads, 0⟩) (getSDinfo sdid) fun info _ g ↦
      info.ret = feed.lookups 0 ∧ g = ⟨reads, 1⟩ := by
  apply triple_useDbCtx_of_pool ignores_pool
  intro ctx g hstart
  rw [hstart]
  exact ⟨nofun, fun info hret ↦ ⟨hret, rfl⟩⟩

/-- While a body is gathered: it is missing only before the first read. -/
def Gathering (lookups : ℕ) (body : Option CString) (_csp : Client) (g : Intake) : Prop :=
  g.lookups = lookups ∧ (body = none → g.reads = 0)

/-- A body has been gathered: it is missing only if the first line was not taken. -/
def Gathered (feed : Feed) (more : Int → Bool) (lookups : ℕ) (body : Option CString) (_csp : Client)
    (g : Intake) : Prop :=
  g.lookups = lookups ∧ (body = none → more (feed.lines 0).ret = false)

theorem triple_readBody (size timeout : ℕ) (more : Int → Bool) (eol : CString) (lookups : ℕ) :
    Triple (intake feed) (fun _ g ↦ g = ⟨0, lookups⟩) (readBody size timeout more eol)
      (Gathered feed more lookups) := by
  have hloop : Triple (intake feed) (Gathering lookups none) (readBody size timeout more eol)
      (Gathered feed more lookups) := by
    apply triple_loop (Gathering lookups)
    intro body
    have hread : Triple (intake feed) (Gathering lookups body) (socketReadLine size timeout)
        fun line _ g ↦ g.lookups = lookups ∧ (body = none → line = feed.lines 0) := by
      intro csp g hgathering
      refine ⟨nofun, fun line hline ↦ ⟨hgathering.1, fun hbody ↦ ?_⟩⟩
      have hfirst : line = feed.lines g.reads := hline
      rw [hfirst, hgathering.2 hbody]
    apply triple_bind hread
    intro line
    apply triple_ite
    · intro _
      exact triple_pure _ fun _ _ hpost ↦ ⟨hpost.1, nofun⟩
    · intro hend
      apply triple_pure
      intro _ g hpost
      refine ⟨hpost.1, fun hbody ↦ ?_⟩
      rw [← hpost.2 hbody]
      exact eq_false_of_ne_true hend
  apply hloop.conseq _ fun _ _ _ hpost ↦ hpost
  rintro _ _ rfl
  exact ⟨rfl, fun _ ↦ rfl⟩

theorem triple_smsexecn (sdid : CString) (addon : Option CString)
    (hpresent : ¬((feed.lines 0).ret ≤ 0 ∧ feed.lookups 0 = 0)) :
    Triple (intake feed) (fun _ g ↦ g = .start) (smsexecn sdid addon) fun _ ↦ Anything := by
  apply triple_bind (triple_readBody _ _ _ _ 0)
  intro commands
  cases commands with
  | some commands =>
    simp only [Option.elim_some]
    exact triple_anything _
  | none =>
    -- without a line the device is not found, and the body is not looked at
    have hlookup : Triple (intake feed) (Gathered feed (0 < ·) 0 none) (getSDinfo sdid)
        fun info _ _ ↦ info.ret ≠ 0 := by
      apply triple_useDbCtx_of_pool ignores_pool
      intro ctx g hgathered
      refine ⟨nofun, fun info hret hzero ↦ hpresent ?_⟩
      have hfound : info.ret = feed.lookups g.lookups := hret
      have hend := of_decide_eq_false (hgathered.2 rfl)
      rw [hgathered.1] at hfound
      omega
    apply triple_bind hlookup
    intro info
    apply triple_ite
    · intro _
      exact triple_anything _
    · intro hfound csp g hfailed
      exact absurd hfailed hfound

theorem triple_doResolve (params : CString)
    (hpresent : ¬((feed.lines 0).ret < 0 ∧ feed.lookups 0 = 0)) :
    Triple (intake feed) (fun _ g ↦ g = .start) (doResolve params) fun _ ↦ Anything := by
  apply triple_bind (triple_getSDinfo _ 0)
  intro info
  apply triple_ite
  · intro _
    exact triple_anything _
  · intro hfound
    have hread : Triple (intake feed) (fun _ g ↦ info.ret = feed.lookups 0 ∧ g = ⟨0, 1⟩)
        (readBody CString.bufsiz 2 (0 ≤ ·) "\n".toList) fun configuration _ _ ↦
          configuration ≠ none := by
      rintro csp g ⟨hret, hstart⟩
      apply (triple_readBody _ _ _ _ 1 csp g hstart).mono
      rintro ⟨configuration, csp⟩ g hgathered hnone
      have hend := of_decide_eq_false (hgathered.2 hnone)
      omega
    apply triple_bind hread
    intro configuration
    cases configuration with
    | none =>
      intro csp g hnone
      exact absurd rfl hnone
    | some configuration =>
      simp only [Option.elim_some]
      exact triple_anything _

/-- A handler that does not lose its body does not follow a missing one. -/
theorem triple_run {handler : Handler} (hhandler : handler ∈ bodyReaders) {params : CString}
    (hpresent : handler.losesBody params (feed.lines 0) (feed.lookups 0) = false) :
    Triple (intake feed) (fun _ g ↦ g = .start) (handler.run params) fun _ ↦ Anything := by
  simp only [bodyReaders, List.mem_cons, List.not_mem_nil, or_false] at hhandler
  rcases hhandler with rfl | rfl | rfl | rfl | rfl | rfl | rfl
  · apply triple_silently
    apply triple_smsexecn
    simpa [Handler.losesBody] using hpresent
  · unfold Handler.run doJsSmsAddonExec
    by_cases haccepts : acceptsWords params 2 (2 ≤ ·) = true
    · apply triple_ite
      · intro _
        exact triple_anything _
      · intro _
        apply triple_ite
        · intro _
          apply triple_silently
          apply triple_smsexecn
          simpa [Handler.losesBody, haccepts] using hpresent
        · intro _
          exact triple_anything _
    · rw [withWords_of_refused (eq_false_of_ne_true haccepts)]
      exact triple_anything _
  · apply triple_doResolve
    simpa [Handler.losesBody] using hpresent
  · apply triple_silently
    exact triple_anything _
  · apply triple_silently
    exact triple_anything _
  · apply triple_silently
    exact triple_anything _
  · apply triple_silently
    exact triple_anything _

end Present

section Missing

variable {cfd : Int} {ctx : Ctx}

/-- The first line is not taken. -/
theorem may_readBody (size timeout : ℕ) {more : Int → Bool} (eol : CString) {lookups : ℕ}
    (hmore : more (feed.lines 0).ret = false) {post : Option CString × Client → Intake → Prop}
    {csp : Client} (hpost : post (none, csp) ⟨1, lookups⟩) :
    (readBody size timeout more eol csp).May (intake feed) post ⟨0, lookups⟩ := by
  apply may_loop
  apply may_bind
  apply may_get
  apply may_call (feed.lines 0) rfl
  apply may_ite_neg (by simp [hmore])
  exact may_pure hpost

/-- The device is found. -/
theorem may_getSDinfo (sdid : CString) (hfound : feed.lookups 0 = 0) {reads : ℕ}
    {post : Reply SdInfo × Client → Intake → Prop}
    (hpost : post (⟨0, Sim.plainDevice⟩, ⟨cfd, some ctx⟩) ⟨reads, 1⟩) :
    (getSDinfo sdid ⟨cfd, some ctx⟩).May (intake feed) post ⟨reads, 0⟩ := by
  apply may_get
  exact may_call (⟨0, Sim.plainDevice⟩ : Reply SdInfo) hfound.symm hpost

theorem reaches_nullBody {α : Type} {csp : Client} {g : Intake} :
    ((lift nullBody : M α) csp).Reaches (intake feed) .nullBody g :=
  Or.inl rfl

theorem reaches_smsexecn (sdid : CString) (addon : Option CString) (hend : (feed.lines 0).ret ≤ 0)
    (hfound : feed.lookups 0 = 0) :
    (smsexecn sdid addon ⟨cfd, some ctx⟩).Reaches (intake feed) .nullBody .start := by
  have hmore : decide (0 < (feed.lines 0).ret) = false := by simpa using hend
  apply reaches_bind
  apply may_readBody _ _ _ hmore
  apply reaches_bind
  apply may_getSDinfo _ hfound
  apply reaches_ite_neg fun hfailed ↦ hfailed rfl
  apply reaches_bind
  apply may_get
  apply may_bind
  apply may_call () trivial
  apply may_get
  apply may_bind
  apply may_call () trivial
  exact reaches_nullBody

theorem reaches_doResolve (params : CString) (hend : (feed.lines 0).ret < 0)
    (hfound : feed.lookups 0 = 0) :
    (doResolve params ⟨cfd, some ctx⟩).Reaches (intake feed) .nullBody .start := by
  have hmore : decide (0 ≤ (feed.lines 0).ret) = false := by simpa using hend
  apply reaches_bind
  apply may_getSDinfo _ hfound
  apply reaches_ite_neg fun hfailed ↦ hfailed rfl
  apply reaches_bind
  apply may_readBody _ _ _ hmore
  exact reaches_nullBody

/-- A handler that loses its body goes on to follow it. -/
theorem reaches_run {handler : Handler} {params : CString}
    (hloses : handler.losesBody params (feed.lines 0) (feed.lookups 0) = true) :
    (handler.run params ⟨cfd, some ctx⟩).Reaches (intake feed) .nullBody .start := by
  cases handler with
  | doJsSmsexecn =>
    obtain ⟨hend, hfound⟩ := (Bool.and_eq_true _ _).mp hloses
    exact (reaches_smsexecn _ _ (of_decide_eq_true hend) (of_decide_eq_true hfound)).bind _
  | doJsSmsAddonExec =>
    obtain ⟨haccepts, hlost⟩ := (Bool.and_eq_true _ _).mp hloses
    obtain ⟨hend, hfound⟩ := (Bool.and_eq_true _ _).mp hlost
    obtain ⟨hlength, henough⟩ := (Bool.and_eq_true _ _).mp haccepts
    apply reaches_ite_neg (Nat.not_le.2 (of_decide_eq_true hlength))
    apply reaches_ite_pos henough
    exact (reaches_smsexecn _ _ (of_decide_eq_true hend) (of_decide_eq_true hfound)).bind _
  | doResolve =>
    obtain ⟨hend, hfound⟩ := (Bool.and_eq_true _ _).mp hloses
    exact reaches_doResolve params (of_decide_eq_true hend) (of_decide_eq_true hfound)
  | _ => cases hloses

end Missing

end Intake

/-- A missing body that is lost is followed. -/
theorem not_bodyPresent {handler : Handler} {params : CString} {feed : Feed}
    (hloses : handler.losesBody params (feed.lines 0) (feed.lookups 0) = true) :
    ¬BodyPresent handler params feed := by
  intro hpresent
  have hreaches : (handler.run params ⟨1, some ⟨.sms, 0⟩⟩).Reaches (intake feed) .nullBody .start :=
    Intake.reaches_run hloses
  obtain ⟨trace, final, next, hrun, hmeets, hoffers⟩ := hreaches.exists_run
  exact hpresent _ _ trace final next hrun hmeets hoffers

end CoreEngine.Smsd
