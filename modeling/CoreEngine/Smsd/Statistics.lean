import CoreEngine.Smsd.Indifference
import CoreEngine.Smsd.Simulator
import Mathlib.Data.List.Infix

/-!
# Statistics

The counters of `currentStat` over a sequence of requests. Each family of requests has one counter for all
and one for those that ended in error.
-/

namespace CoreEngine.Smsd

open Interaction
open Procedure (lift Stable Triple triple_bind triple_call triple_pure)
open Program (Run run_bind_iff)

section Families

inductive Family
  | getReport | getVpnReport | getRouterIp | ipDown | ipUp
  deriving DecidableEq, Repr

/-- The counter of all requests. -/
def Family.total : Family → Counter
  | .getReport => .totalgetreport
  | .getVpnReport => .totalgetvpnreport
  | .getRouterIp => .totalgetrouterip
  | .ipDown => .totalipdown
  | .ipUp => .totalpppipup

/-- The counter of the requests that ended in error. -/
def Family.error : Family → Counter
  | .getReport => .totalerrorgetreport
  | .getVpnReport => .totalerrorgetvpnreport
  | .getRouterIp => .totalerrorgetrouterip
  | .ipDown => .totalerroripdown
  | .ipUp => .totalerrorpppipup

def Handler.family : Handler → Option Family
  | .doGetReport => some .getReport
  | .doGetVPNReport => some .getVpnReport
  | .doGetRouterIp => some .getRouterIp
  | .doIpDown => some .ipDown
  | .doPppIpUp => some .ipUp
  | .doSdIpUp => some .ipUp
  | _ => none

/-- How a request ends: as its log line says, or without the address that SDIPUP needs. -/
inductive Outcome
  | done
  | changed
  | failed
  | unparsed
  deriving DecidableEq, Repr

def Outcome.isError : Outcome → Bool
  | .done | .changed => false
  | .failed | .unparsed => true

def Outcome.ofResult (result : Int) : Outcome :=
  if result = 0 then .done else if result = ipchanged then .changed else .failed

def Outcome.ofBool (done : Bool) : Outcome := if done then .done else .failed

/-- The counter that a handler increments for an outcome, as it comes from the source. -/
def Family.counted (family : Family) (outcome : Outcome) : Option Counter :=
  match outcome with
  | .done | .unparsed => none
  | .changed | .failed => some (if family = .getVpnReport then .totalerrorgetreport else family.error)

/-- A handler in two parts: what it does up to its outcome, and the rest. -/
structure CountedPart where
  family : Family
  Result : Type
  attempt : M Result
  outcome : Result → Outcome
  reply : Result → M Int

def CountedPart.rest (stage : CountedPart) (result : stage.Result) : M Int := do
  (stage.family.counted (stage.outcome result)).elim (pure ()) countUp
  stage.reply result

/-- The stages of the handlers of a family. -/
def Handler.stage (handler : Handler) (params : CString) : Option CountedPart :=
  match handler with
  | .doGetReport => some
      { family := .getReport
        Result := Reply (Option CString)
        attempt := do
          countUp .totalgetreport
          getReport params
        outcome report := .ofBool (report.ret = 0)
        reply report := plainReply report.ret report.output }
  | .doGetVPNReport => some
      { family := .getVpnReport
        Result := Reply (Option CString)
        attempt := do
          countUp .totalgetvpnreport
          getVPNReport params
        outcome report := .ofBool (report.ret = 0)
        reply report := plainReply report.ret report.output }
  | .doGetRouterIp => some
      { family := .getRouterIp
        Result := Reply CString
        attempt := do
          countUp .totalgetrouterip
          getRouterIp params
        outcome ip := .ofBool (ip.ret = 0)
        reply ip := plainReply ip.ret (some ip.output) }
  | .doIpDown => some
      { family := .ipDown
        Result := Reply Bool
        attempt := do
          let words := params.scanWords 2
          let sdid ← scanned words 0
          let ip ← scanned words 1
          countUp .totalipdown
          let info ← getSDinfo sdid
          if info.ret ≠ 0 then pure ⟨errDbNotfound, false⟩ else ipDownWrites ip info.output.sd
        outcome done := .ofBool done.output
        reply done := do
          let _ ← if done.output then sendOk none else sendError none done.ret
          pure 0 }
  | .doPppIpUp => some
      { family := .ipUp
        Result := Int
        attempt := do
          countUp .totalpppipup
          updateRouterIP params
        outcome result := .ofResult result
        reply _ := pure 0 }
  | .doSdIpUp => some
      { family := .ipUp
        Result := Option Int
        attempt := do
          countUp .totalpppipup
          closeUserSocket
          (params.cut ' ').elim (pure none) fun parts ↦
            if parts.2 = [] then pure none else do
              let result ← updateIP parts.1 parts.2
              pure (some result)
        outcome result := result.elim .unparsed .ofResult
        reply _ := pure 0 }
  | _ => none

/-- The count of a failure before the rest. -/
theorem counted_ofBool_bind (family : Family) (ret : Int) (reply : M Int) :
    ((family.counted (.ofBool (ret = 0))).elim (pure ()) countUp >>= fun _ ↦ reply) =
      if ret ≠ 0 then do
        countUp (if family = .getVpnReport then .totalerrorgetreport else family.error)
        reply
      else reply := by
  by_cases hret : ret = 0
  · simp only [hret, decide_true, ne_eq, not_true_eq_false, if_false]
    rfl
  · simp only [hret, decide_false, ne_eq, not_false_eq_true, if_true]
    rfl

theorem counted_ofResult_bind (result : Int) (reply : M Int) :
    ((Family.ipUp.counted (.ofResult result)).elim (pure ()) countUp >>= fun _ ↦ reply) =
      if result ≠ 0 then do
        countUp .totalerrorpppipup
        reply
      else reply := by
  unfold Outcome.ofResult
  by_cases hzero : result = 0
  · simp only [hzero, if_true, ne_eq, not_true_eq_false, if_false]
    rfl
  · rw [if_neg hzero, if_pos hzero]
    split_ifs <;> rfl

/-- The two parts make up the handler. -/
theorem run_eq_of_stage {handler : Handler} {params : CString} {stage : CountedPart}
    (hstage : handler.stage params = some stage) :
    handler.run params = stage.attempt >>= stage.rest := by
  unfold Handler.stage at hstage
  split at hstage
  · obtain rfl := Option.some.inj hstage
    apply Eq.trans _ (Procedure.bind_assoc_eq _ _ _).symm
    exact bind_congr fun _ ↦ bind_congr fun report ↦
      (counted_ofBool_bind .getReport report.ret (plainReply report.ret report.output)).symm
  · obtain rfl := Option.some.inj hstage
    apply Eq.trans _ (Procedure.bind_assoc_eq _ _ _).symm
    exact bind_congr fun _ ↦ bind_congr fun report ↦
      (counted_ofBool_bind .getVpnReport report.ret (plainReply report.ret report.output)).symm
  · obtain rfl := Option.some.inj hstage
    apply Eq.trans _ (Procedure.bind_assoc_eq _ _ _).symm
    exact bind_congr fun _ ↦ bind_congr fun ip ↦
      (counted_ofBool_bind .getRouterIp ip.ret (plainReply ip.ret (some ip.output))).symm
  · obtain rfl := Option.some.inj hstage
    simp only [Procedure.bind_assoc_eq, Procedure.ite_bind_eq, Procedure.pure_bind_eq]
    apply bind_congr
    intro sdid
    apply bind_congr
    intro ip
    apply bind_congr
    intro _
    apply bind_congr
    intro info
    by_cases hret : info.ret = 0
    · simp only [hret, ne_eq, not_true_eq_false, if_false]
      apply bind_congr
      intro done
      cases done with
      | mk ret output => cases output <;> rfl
    · simp only [hret, ne_eq, not_false_eq_true, if_true]
      rfl
  · obtain rfl := Option.some.inj hstage
    apply Eq.trans _ (Procedure.bind_assoc_eq _ _ _).symm
    exact bind_congr fun _ ↦ bind_congr fun result ↦ (counted_ofResult_bind _ _).symm
  · obtain rfl := Option.some.inj hstage
    simp only [Procedure.bind_assoc_eq]
    apply bind_congr
    intro _
    apply bind_congr
    intro _
    cases params.cut ' ' with
    | none => rfl
    | some parts =>
      by_cases hempty : parts.2 = []
      · simp only [Option.elim_some, hempty, if_true]
        rfl
      · simp only [Option.elim_some, hempty, if_false, Procedure.bind_assoc_eq]
        exact bind_congr fun result ↦ (counted_ofResult_bind _ _).symm
  · exact nomatch hstage

end Families

section Tally

/-- `unsigned long`. -/
def bump (stat : Counter → ℕ) (counter : Counter) : Counter → ℕ :=
  Function.update stat counter ((stat counter + 1) % 2 ^ 64)

/-- Keeps `currentStat`. -/
def tally : Monitor signature (Counter → ℕ) where
  allow _ _ := True
  expect _ _ _ := True
  next stat op _ := match op with
    | .countUp counter => bump stat counter
    | _ => stat

namespace Tally

/-- The counters are as they were. -/
abbrev At (stat : Counter → ℕ) (_csp : Client) (now : Counter → ℕ) : Prop := now = stat

variable {stat : Counter → ℕ}

theorem ignores_database {op : Op} (hop : op.OnDatabase 2) : tally.Ignores op := by
  intro now
  cases op <;> first | exact hop.elim | exact ⟨trivial, fun _ ↦ rfl⟩

theorem ignores_socket {op : Op} (hop : op.OnSocket) : tally.Ignores op := by
  intro now
  cases op <;> first | exact hop.elim | exact ⟨trivial, fun _ ↦ rfl⟩

instance : ContextDiscipline tally (At stat) :=
  contextDiscipline_of_ignores (fun _ ↦ ignores_database) (fun _ _ _ hat ↦ hat) fun _ query _ ↦
    ignores_database (Sql.rank_le_two query)

instance : LockDiscipline tally (At stat) :=
  lockDiscipline_of_ignores (fun _ hop ↦ ignores_database (hop.mono (by decide))) fun _ _ _ hat ↦ hat

instance : SocketDiscipline tally (At stat) :=
  socketDiscipline_of_ignores (fun _ ↦ ignores_socket) fun _ _ _ hat ↦ hat

instance : ReplyDiscipline tally (At stat) := replyDiscipline_of_ignores fun _ ↦ ⟨trivial, fun _ ↦ rfl⟩

instance : ScriptDiscipline tally (At stat) := by
  apply scriptDiscipline_of_ignores
  intro op hop now
  cases op <;> first | exact hop.elim | exact ⟨trivial, fun _ ↦ rfl⟩

instance : StackDiscipline tally (At stat) := stackDiscipline_of_ignores fun _ ↦ ⟨trivial, fun _ ↦ rfl⟩

instance : BodyDiscipline tally (At stat) := ⟨fun _ _ _ ↦ trivial⟩

theorem triple_countUp (counter : Counter) :
    Triple tally (At stat) (countUp counter) fun _ ↦ At (bump stat counter) := by
  apply triple_call
  · intro csp now _
    trivial
  · rintro csp now answer rfl -
    rfl

/-- What follows a count. -/
theorem triple_countUp_bind {α : Type} (counter : Counter) {procedure : M α}
    (hprocedure : ∀ stat, Stable tally (At stat) procedure) :
    Triple tally (At stat) (countUp counter >>= fun _ ↦ procedure) fun _ ↦ At (bump stat counter) :=
  triple_bind (triple_countUp counter) fun _ ↦ (hprocedure _).triple

/-- Every request of a family is counted once before its outcome. -/
theorem triple_attempt {handler : Handler} {params : CString} {stage : CountedPart}
    (hstage : handler.stage params = some stage) :
    Triple tally (At stat) stage.attempt fun _ ↦ At (bump stat stage.family.total) := by
  unfold Handler.stage at hstage
  split at hstage
  · obtain rfl := Option.some.inj hstage
    exact triple_countUp_bind _ fun stat ↦ inferInstance
  · obtain rfl := Option.some.inj hstage
    exact triple_countUp_bind _ fun stat ↦ inferInstance
  · obtain rfl := Option.some.inj hstage
    exact triple_countUp_bind _ fun stat ↦ inferInstance
  · obtain rfl := Option.some.inj hstage
    have hscanned (i : ℕ) : Stable tally (At stat) (scanned (params.scanWords 2) i) := inferInstance
    refine triple_bind (hscanned 0).triple fun sdid ↦ triple_bind (hscanned 1).triple fun ip ↦ ?_
    exact triple_countUp_bind _ fun stat ↦ inferInstance
  · obtain rfl := Option.some.inj hstage
    exact triple_countUp_bind _ fun stat ↦ inferInstance
  · obtain rfl := Option.some.inj hstage
    exact triple_countUp_bind _ fun stat ↦ inferInstance
  · exact nomatch hstage

theorem stable_reply {handler : Handler} {params : CString} {stage : CountedPart}
    (hstage : handler.stage params = some stage) (result : stage.Result) :
    Stable tally (At stat) (stage.reply result) := by
  unfold Handler.stage at hstage
  split at hstage
  · obtain rfl := Option.some.inj hstage
    exact inferInstanceAs (Stable tally (At stat) (plainReply _ _))
  · obtain rfl := Option.some.inj hstage
    exact inferInstanceAs (Stable tally (At stat) (plainReply _ _))
  · obtain rfl := Option.some.inj hstage
    exact inferInstanceAs (Stable tally (At stat) (plainReply _ _))
  · obtain rfl := Option.some.inj hstage
    dsimp only
    infer_instance
  · obtain rfl := Option.some.inj hstage
    exact inferInstanceAs (Stable tally (At stat) (pure 0))
  · obtain rfl := Option.some.inj hstage
    exact inferInstanceAs (Stable tally (At stat) (pure 0))
  · exact nomatch hstage

theorem triple_rest {handler : Handler} {params : CString} {stage : CountedPart}
    (hstage : handler.stage params = some stage) (result : stage.Result) :
    Triple tally (At stat) (stage.rest result) fun _ ↦
      At ((stage.family.counted (stage.outcome result)).elim stat (bump stat)) := by
  unfold CountedPart.rest
  cases stage.family.counted (stage.outcome result) with
  | none => exact (stable_reply hstage result).triple
  | some counter => exact triple_countUp_bind counter fun stat ↦ stable_reply hstage result

/-- A handler of no family counts nothing. -/
theorem stable_run_of_family_eq_none {handler : Handler} (hfamily : handler.family = none) (params : CString) :
    Stable tally (At stat) (handler.run params) := by
  by_cases hhandler : handler = .doImmediateSaveConf
  · subst hhandler
    exact stable_doImmediateSaveConf_of_ignores fun _ ↦ ignores_database
  · apply stable_run_of_not_counts hhandler
    cases handler <;> first | rfl | exact nomatch hfamily

end Tally

end Tally

section Requests

/-- A finished request, with its outcome. -/
structure Request where
  handler : Handler
  params : CString
  csp : Client
  trace : List (Event signature)
  outcome : Outcome

/-- The request has been run. -/
inductive Request.Ran : Request → Prop
  | ofFamily {handler : Handler} {params : CString} {csp csp' : Client} {stage : CountedPart} {result : stage.Result}
      {first second : List (Event signature)} {final : Int × Client}
      (hstage : handler.stage params = some stage)
      (hattempt : Run (stage.attempt csp) first (.ret (result, csp')))
      (hrest : Run (stage.rest result csp') second (.ret final)) :
      Ran ⟨handler, params, csp, first ++ second, stage.outcome result⟩
  | other {handler : Handler} {params : CString} {csp : Client} {trace : List (Event signature)}
      {final : Int × Client} (hfamily : handler.family = none)
      (hrun : Run (handler.run params csp) trace (.ret final)) : Ran ⟨handler, params, csp, trace, .done⟩

theorem family_of_stage {handler : Handler} {params : CString} {stage : CountedPart}
    (hstage : handler.stage params = some stage) : handler.family = some stage.family := by
  unfold Handler.stage at hstage
  split at hstage
  all_goals first | (obtain rfl := Option.some.inj hstage; rfl) | exact nomatch hstage

theorem stage_of_family {handler : Handler} {family : Family} (hfamily : handler.family = some family)
    (params : CString) : ∃ stage, handler.stage params = some stage := by
  cases handler <;> first | exact ⟨_, rfl⟩ | exact nomatch hfamily

/-- Every run of a handler to its end is a request with some outcome. -/
theorem ran_iff_run {handler : Handler} {params : CString} {csp : Client} {trace : List (Event signature)} :
    (∃ outcome, Request.Ran ⟨handler, params, csp, trace, outcome⟩) ↔
      ∃ final, Run (handler.run params csp) trace (.ret final) := by
  constructor
  · rintro ⟨outcome, hran⟩
    cases hran with
    | @ofFamily _ _ _ csp' stage result first second final hstage hattempt hrest =>
      refine ⟨final, ?_⟩
      rw [run_eq_of_stage hstage]
      exact run_bind_iff.2 ⟨_, _, _, rfl, hattempt, hrest⟩
    | other hfamily hrun => exact ⟨_, hrun⟩
  · rintro ⟨final, hrun⟩
    cases hfamily : handler.family with
    | none => exact ⟨.done, .other hfamily hrun⟩
    | some family =>
      obtain ⟨stage, hstage⟩ := stage_of_family hfamily params
      rw [run_eq_of_stage hstage] at hrun
      obtain ⟨⟨result, csp'⟩, first, second, rfl, hattempt, hrest⟩ := run_bind_iff.1 hrun
      exact ⟨stage.outcome result, .ofFamily hstage hattempt hrest⟩

/-- The family whose error counter is incremented. -/
def Family.charged (family : Family) : Outcome → Option Family
  | .done | .unparsed => none
  | .changed | .failed => some (if family = .getVpnReport then .getReport else family)

theorem Family.counted_eq (family : Family) (outcome : Outcome) :
    family.counted outcome = (family.charged outcome).map Family.error := by
  cases family <;> cases outcome <;> rfl

/-- The counters after a request. -/
def count (stat : Counter → ℕ) (family : Option Family) (outcome : Outcome) : Counter → ℕ :=
  family.elim stat fun family ↦
    ((family.charged outcome).map Family.error).elim (bump stat family.total) (bump (bump stat family.total))

theorem after_of_ran {r : Request} (hran : r.Ran) (stat : Counter → ℕ) :
    tally.after stat r.trace = count stat r.handler.family r.outcome := by
  have hmeets := tally.meets_of_expect (fun _ _ _ ↦ trivial)
  cases hran with
  | ofFamily hstage hattempt hrest =>
    have hfirst := hattempt.returns (Tally.triple_attempt hstage _ stat rfl) (hmeets stat _)
    have hsecond := hrest.returns (Tally.triple_rest hstage _ _ _ hfirst) (hmeets _ _)
    rw [Monitor.after_append, hsecond, family_of_stage hstage, Family.counted_eq]
    rfl
  | other hfamily hrun =>
    rw [hfamily]
    exact hrun.returns ((Tally.stable_run_of_family_eq_none hfamily _).triple _ stat rfl) (hmeets stat _)

/-- `currentStat` after a sequence of requests. -/
def statistics (requests : List Request) : Counter → ℕ :=
  requests.foldl (fun stat r ↦ tally.after stat r.trace) fun _ ↦ 0

/-- The requests of a family. -/
def number (family : Family) (requests : List Request) : ℕ :=
  requests.countP fun r ↦ r.handler.family = some family

/-- The requests of a family that ended in error. -/
def errors (family : Family) (requests : List Request) : ℕ :=
  requests.countP fun r ↦ r.handler.family = some family ∧ r.outcome.isError = true

/-- The counters say how many requests there were, and how many of them ended in error. -/
structure Truthful (requests : List Request) : Prop where
  total : ∀ family, statistics requests family.total = number family requests
  error : ∀ family, statistics requests family.error = errors family requests

theorem errors_le_number (family : Family) (requests : List Request) :
    errors family requests ≤ number family requests := by
  apply List.countP_mono_left
  intro r _ herror
  simp only [decide_eq_true_eq] at herror ⊢
  exact herror.1

theorem Truthful.error_le_total {requests : List Request} (htruthful : Truthful requests) (family : Family) :
    statistics requests family.error ≤ statistics requests family.total := by
  rw [htruthful.total, htruthful.error]
  exact errors_le_number family requests

/-- A request that the counters are right about: no failure of GETVPNREPORT, no changed address of a PPPIPUP or
SDIPUP, and no SDIPUP without an address. -/
structure Request.CountedRight (r : Request) : Prop where
  vpn : ¬(r.handler = .doGetVPNReport ∧ r.outcome = .failed)
  changed : r.outcome ≠ .changed
  unparsed : r.outcome ≠ .unparsed

section Arithmetic

variable (stat : Counter → ℕ)

theorem total_eq_total_iff {family family' : Family} : family.total = family'.total ↔ family = family' := by
  cases family <;> cases family' <;> decide

theorem error_eq_error_iff {family family' : Family} : family.error = family'.error ↔ family = family' := by
  cases family <;> cases family' <;> decide

theorem total_ne_error (family family' : Family) : family.total ≠ family'.error := by
  cases family <;> cases family' <;> decide

theorem bump_apply (counter counter' : Counter) :
    bump stat counter counter' = if counter' = counter then (stat counter' + 1) % 2 ^ 64 else stat counter' := by
  by_cases heq : counter' = counter
  · simp [bump, heq]
  · simp [bump, heq]

theorem count_total (family : Option Family) (outcome : Outcome) (family' : Family) :
    count stat family outcome family'.total =
      if family = some family' then (stat family'.total + 1) % 2 ^ 64 else stat family'.total := by
  cases family with
  | none => rfl
  | some family =>
    unfold count
    cases hcharged : family.charged outcome with
    | none => simp [bump_apply, hcharged, total_eq_total_iff, eq_comm]
    | some charged =>
      have hne : charged.error ≠ family'.total := (total_ne_error family' charged).symm
      simp [bump_apply, hcharged, hne, total_eq_total_iff, eq_comm]

theorem count_error (family : Option Family) (outcome : Outcome) (family' : Family) :
    count stat family outcome family'.error =
      if (family.bind (·.charged outcome)) = some family' then (stat family'.error + 1) % 2 ^ 64
      else stat family'.error := by
  cases family with
  | none => rfl
  | some family =>
    have hne : family'.error ≠ family.total := (total_ne_error family family').symm
    unfold count
    cases hcharged : family.charged outcome with
    | none => simp [bump_apply, hne, hcharged]
    | some charged => simp [bump_apply, hne, hcharged, error_eq_error_iff, eq_comm]

theorem statistics_concat (requests : List Request) {r : Request} (hran : r.Ran) :
    statistics (requests ++ [r]) = count (statistics requests) r.handler.family r.outcome := by
  rw [← after_of_ran hran]
  simp [statistics]

theorem number_concat (family : Family) (requests : List Request) (r : Request) :
    number family (requests ++ [r]) =
      number family requests + if r.handler.family = some family then 1 else 0 := by
  simp [number, List.countP_append, List.countP_singleton]

theorem errors_concat (family : Family) (requests : List Request) (r : Request) :
    errors family (requests ++ [r]) =
      errors family requests + if r.handler.family = some family ∧ r.outcome.isError = true then 1 else 0 := by
  simp [errors, List.countP_append, List.countP_singleton]

/-- A counter that is incremented when an event has happened agrees with the number of events. -/
theorem incremented_eq_iff {n : ℕ} {incremented happened : Prop} [Decidable incremented] [Decidable happened]
    (hlt : n + (if happened then 1 else 0) < 2 ^ 64) :
    (if incremented then (n + 1) % 2 ^ 64 else n) = n + (if happened then 1 else 0) ↔ (incremented ↔ happened) := by
  by_cases hincremented : incremented
  · by_cases hhappened : happened
    · rw [if_pos hhappened] at hlt
      simpa [hincremented, hhappened] using hlt
    · have hne : (n + 1) % 2 ^ 64 ≠ n := by omega
      simpa [hincremented, hhappened] using hne
  · by_cases hhappened : happened
    · simp [hincremented, hhappened]
    · simp [hincremented, hhappened]

/-- A counter that is incremented by every event agrees with their number as long as it does not run over. -/
theorem incremented_eq_iff_lt {n : ℕ} {happened : Prop} [Decidable happened] (hlt : n < 2 ^ 64) :
    (if happened then (n + 1) % 2 ^ 64 else n) = n + (if happened then 1 else 0) ↔
      n + (if happened then 1 else 0) < 2 ^ 64 := by
  by_cases hhappened : happened
  · simp only [if_pos hhappened]
    omega
  · simpa [hhappened] using hlt

end Arithmetic

theorem outcome_of_family_eq_none {r : Request} (hran : r.Ran) (hfamily : r.handler.family = none) :
    r.outcome = .done := by
  cases hran with
  | ofFamily hstage _ _ => exact nomatch (family_of_stage hstage).symm.trans hfamily
  | other _ _ => rfl

theorem handler_of_family_eq_vpn {handler : Handler} (hfamily : handler.family = some .getVpnReport) :
    handler = .doGetVPNReport := by
  cases handler <;> first | rfl | exact nomatch hfamily

/-- The requests that charge the error counter of their own family if they have ended in error, and no other
counter. -/
theorem countedRight_iff {r : Request} (hran : r.Ran) : r.CountedRight ↔ ∀ family,
    (r.handler.family.bind (·.charged r.outcome) = some family ↔
      r.handler.family = some family ∧ r.outcome.isError = true) := by
  cases hfamily : r.handler.family with
  | none =>
    have houtcome := outcome_of_family_eq_none hran hfamily
    rw [houtcome]
    exact iff_of_true ⟨by simp [houtcome], by simp [houtcome], by simp [houtcome]⟩ (by simp)
  | some own =>
    cases houtcome : r.outcome with
    | done =>
      exact iff_of_true ⟨by simp [houtcome], by simp [houtcome], by simp [houtcome]⟩
        (by simp [Family.charged, Outcome.isError])
    | changed =>
      refine iff_of_false (fun hright ↦ hright.changed houtcome) fun hall ↦ ?_
      have hcharged := (hall (if own = .getVpnReport then .getReport else own)).1 rfl
      exact Bool.false_ne_true hcharged.2
    | unparsed =>
      refine iff_of_false (fun hright ↦ hright.unparsed houtcome) fun hall ↦ ?_
      have hcharged := (hall own).2 ⟨rfl, rfl⟩
      cases hcharged
    | failed =>
      by_cases hvpn : own = .getVpnReport
      · subst hvpn
        refine iff_of_false (fun hright ↦ hright.vpn ⟨handler_of_family_eq_vpn hfamily, houtcome⟩) fun hall ↦ ?_
        have hcharged := (hall .getVpnReport).2 ⟨rfl, rfl⟩
        cases hcharged
      · refine iff_of_true ⟨?_, by simp [houtcome], by simp [houtcome]⟩
          (by simp [Family.charged, hvpn, Outcome.isError])
        rintro ⟨hhandler, -⟩
        rw [hhandler] at hfamily
        exact hvpn (Option.some.inj hfamily).symm

/-- One more request. -/
theorem truthful_concat {requests : List Request} {r : Request} (hran : r.Ran) (htruthful : Truthful requests)
    (hnumber : ∀ family, number family requests < 2 ^ 64) : Truthful (requests ++ [r]) ↔
      r.CountedRight ∧ ∀ family, number family (requests ++ [r]) < 2 ^ 64 := by
  have htotal (family : Family) : statistics (requests ++ [r]) family.total = number family (requests ++ [r]) ↔
      number family (requests ++ [r]) < 2 ^ 64 := by
    rw [statistics_concat requests hran, count_total, htruthful.total, number_concat]
    exact incremented_eq_iff_lt (hnumber family)
  have herror {family : Family} (hlt : number family (requests ++ [r]) < 2 ^ 64) :
      statistics (requests ++ [r]) family.error = errors family (requests ++ [r]) ↔
        (r.handler.family.bind (·.charged r.outcome) = some family ↔
          r.handler.family = some family ∧ r.outcome.isError = true) := by
    have hle := Nat.lt_of_le_of_lt (errors_le_number family (requests ++ [r])) hlt
    rw [errors_concat] at hle
    rw [statistics_concat requests hran, count_error, htruthful.error, errors_concat]
    exact incremented_eq_iff hle
  rw [countedRight_iff hran]
  constructor
  · intro hafter
    have hlt (family : Family) := (htotal family).1 (hafter.total family)
    exact ⟨fun family ↦ (herror (hlt family)).1 (hafter.error family), hlt⟩
  · rintro ⟨hright, hlt⟩
    exact ⟨fun family ↦ (htotal family).2 (hlt family), fun family ↦ (herror (hlt family)).2 (hright family)⟩

/-- The counters tell the truth after every request of a sequence exactly when each of them is counted right and
no counter has run over. -/
theorem truthful_iff_countedRight {requests : List Request} (hran : ∀ r ∈ requests, r.Ran) :
    (∀ before, before <+: requests → Truthful before) ↔
      (∀ r ∈ requests, r.CountedRight) ∧ ∀ family, number family requests < 2 ^ 64 := by
  induction requests using List.reverseRecOn with
  | nil =>
    refine iff_of_true ?_ ⟨List.forall_mem_nil _, fun family ↦ Nat.two_pow_pos 64⟩
    intro before hbefore
    obtain rfl := List.prefix_nil.1 hbefore
    exact ⟨fun family ↦ rfl, fun family ↦ rfl⟩
  | append_singleton requests r ih =>
    have hrequests : ∀ r ∈ requests, r.Ran := fun r' hr' ↦ hran r' (List.mem_append_left _ hr')
    have hr : r.Ran := hran r (by simp)
    have hprefixes : (∀ before, before <+: requests ++ [r] → Truthful before) ↔
        (∀ before, before <+: requests → Truthful before) ∧ Truthful (requests ++ [r]) := by
      simp only [List.prefix_concat_iff, or_imp, forall_and, forall_eq, and_comm]
    have hmono (family : Family) : number family requests ≤ number family (requests ++ [r]) := by
      rw [number_concat]
      omega
    rw [hprefixes, ih hrequests, List.forall_mem_append, List.forall_mem_singleton]
    constructor
    · rintro ⟨⟨hright, hnumber⟩, hafter⟩
      have hbefore := ((ih hrequests).2 ⟨hright, hnumber⟩) requests (List.prefix_refl _)
      obtain ⟨hlast, hnumber'⟩ := (truthful_concat hr hbefore hnumber).1 hafter
      exact ⟨⟨hright, hlast⟩, hnumber'⟩
    · rintro ⟨⟨hright, hlast⟩, hnumber'⟩
      have hnumber (family : Family) := Nat.lt_of_le_of_lt (hmono family) (hnumber' family)
      have hbefore := ((ih hrequests).2 ⟨hright, hnumber⟩) requests (List.prefix_refl _)
      exact ⟨⟨hright, hnumber⟩, (truthful_concat hr hbefore hnumber).2 ⟨hlast, hnumber'⟩⟩

/-- A request that the simulated environment brings to its end. -/
theorem exists_ran {handler : Handler} {stage : CountedPart} {outcome : Outcome} (params : CString)
    (steps : List ScriptStep) (hstage : handler.stage params = some stage)
    (hsim : (((Sim.single [] steps).exec 3 (stage.attempt ⟨1, some ⟨.sms, 0⟩⟩)).2.1.result?.any fun result ↦
      stage.outcome result.1 = outcome ∧
        ((Sim.single [] []).exec 3 (stage.rest result.1 result.2)).2.1.result?.isSome = true) = true) :
    ∃ r : Request, r.Ran ∧ r.handler = handler ∧ r.outcome = outcome := by
  obtain ⟨⟨result, csp'⟩, hresult, hends⟩ := (Option.any_eq_true _ _).1 hsim
  obtain ⟨houtcome, hsome⟩ := of_decide_eq_true hends
  obtain ⟨final, hfinal⟩ := Option.isSome_iff_exists.1 hsome
  have hattempt := Sim.run_execUntil (Sim.single [] steps) (fun _ ↦ false) 3
    (stage.attempt ⟨1, some ⟨.sms, 0⟩⟩)
  have hrest := Sim.run_execUntil (Sim.single [] []) (fun _ ↦ false) 3 (stage.rest result csp')
  rw [Program.eq_ret_of_result? hresult] at hattempt
  rw [Program.eq_ret_of_result? hfinal] at hrest
  exact ⟨_, .ofFamily hstage hattempt hrest, rfl, houtcome⟩

theorem Request.CountedRight.of_eq {r : Request} {handler : Handler} {outcome : Outcome}
    (hhandler : r.handler = handler) (houtcome : r.outcome = outcome)
    (hright : ¬(handler = .doGetVPNReport ∧ outcome = .failed) ∧ outcome ≠ .changed ∧ outcome ≠ .unparsed) :
    r.CountedRight := by
  subst hhandler houtcome
  exact ⟨hright.1, hright.2.1, hright.2.2⟩

/-- Requests of all five families, of which a GETREPORT fails, are counted right. -/
theorem truthful_fiveFamilies : ∃ report vpnReport routerIp ipDown ipUp : Request,
    report.handler = .doGetReport ∧ report.outcome = .failed ∧ vpnReport.handler = .doGetVPNReport ∧
      routerIp.handler = .doGetRouterIp ∧ ipDown.handler = .doIpDown ∧ ipUp.handler = .doSdIpUp ∧
      (∀ r ∈ [report, vpnReport, routerIp, ipDown, ipUp], r.Ran) ∧
      ∀ before, before <+: [report, vpnReport, routerIp, ipDown, ipUp] → Truthful before := by
  obtain ⟨report, hreport, hreport₁, hreport₂⟩ : ∃ r : Request, r.Ran ∧ r.handler = .doGetReport ∧
      r.outcome = .failed := exists_ran "ABC123 1 2".toList [.exit 3 none none] rfl (by decide +kernel)
  obtain ⟨vpnReport, hvpn, hvpn₁, hvpn₂⟩ : ∃ r : Request, r.Ran ∧ r.handler = .doGetVPNReport ∧
      r.outcome = .done := exists_ran "ABC123".toList [] rfl (by decide +kernel)
  obtain ⟨routerIp, hrouter, hrouter₁, hrouter₂⟩ : ∃ r : Request, r.Ran ∧ r.handler = .doGetRouterIp ∧
      r.outcome = .done := exists_ran "ABC123".toList [] rfl (by decide +kernel)
  obtain ⟨ipDown, hdown, hdown₁, hdown₂⟩ : ∃ r : Request, r.Ran ∧ r.handler = .doIpDown ∧
      r.outcome = .done := exists_ran "ABC123 10.0.0.1".toList [] rfl (by decide +kernel)
  obtain ⟨ipUp, hup, hup₁, hup₂⟩ : ∃ r : Request, r.Ran ∧ r.handler = .doSdIpUp ∧
      r.outcome = .done := exists_ran "ABC123 10.0.0.1".toList [] rfl (by decide +kernel)
  have hran : ∀ r ∈ [report, vpnReport, routerIp, ipDown, ipUp], r.Ran := by
    simp only [List.forall_mem_cons]
    exact ⟨hreport, hvpn, hrouter, hdown, hup, List.forall_mem_nil _⟩
  refine ⟨report, vpnReport, routerIp, ipDown, ipUp, hreport₁, hreport₂, hvpn₁, hrouter₁, hdown₁, hup₁, hran,
    (truthful_iff_countedRight hran).2 ⟨?_, fun family ↦ ?_⟩⟩
  · simp only [List.forall_mem_cons]
    exact ⟨.of_eq hreport₁ hreport₂ (by decide), .of_eq hvpn₁ hvpn₂ (by decide),
      .of_eq hrouter₁ hrouter₂ (by decide), .of_eq hdown₁ hdown₂ (by decide), .of_eq hup₁ hup₂ (by decide),
      List.forall_mem_nil _⟩
  · exact Nat.lt_of_le_of_lt List.countP_le_length (show 5 < 2 ^ 64 by decide)

/-- An SDIPUP that changes the address of a device is counted as an error. -/
theorem changedAddress_counted_as_error : ∃ r : Request, r.Ran ∧ r.handler = .doSdIpUp ∧
    r.outcome = .changed ∧ statistics [r] Family.ipUp.error = 1 ∧ errors .ipUp [r] = 0 ∧ ¬Truthful [r] := by
  obtain ⟨stage, hstage, hchanged⟩ : ∃ stage, Handler.stage .doSdIpUp "ABC123 10.0.0.2".toList = some stage ∧
      (((Sim.single [] []).exec 3 (stage.attempt ⟨1, some ⟨.sms, 0⟩⟩)).2.1.result?.any
        fun result ↦ stage.outcome result.1 = .changed) = true :=
    ⟨_, rfl, by decide +kernel⟩
  obtain ⟨⟨result, csp'⟩, hresult, houtcome⟩ := (Option.any_eq_true _ _).1 hchanged
  have houtcome : stage.outcome result = .changed := of_decide_eq_true houtcome
  have hattempt := Sim.run_execUntil (Sim.single [] []) (fun _ ↦ false) 3
    (stage.attempt ⟨1, some ⟨.sms, 0⟩⟩)
  rw [Program.eq_ret_of_result? hresult] at hattempt
  have hrest : Run (stage.rest result csp') [⟨.countUp .totalerrorpppipup, ()⟩] (.ret (0, csp')) := by
    obtain rfl := Option.some.inj hstage
    unfold CountedPart.rest
    rw [houtcome]
    exact .call (.done _)
  have hran := Request.Ran.ofFamily hstage hattempt hrest
  have hstatistics := statistics_concat [] hran
  rw [houtcome] at hran hstatistics
  have hcounted : statistics [_] Family.ipUp.error = 1 := congrFun hstatistics Family.ipUp.error
  refine ⟨_, hran, rfl, rfl, hcounted, rfl, fun htruthful ↦ ?_⟩
  have herror := htruthful.error .ipUp
  rw [hcounted] at herror
  exact nomatch herror

end Requests

end CoreEngine.Smsd
