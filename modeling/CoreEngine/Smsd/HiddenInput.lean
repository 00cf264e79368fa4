import CoreEngine.Interaction.Secrecy
import CoreEngine.Memory.Cells
import CoreEngine.Smsd.Indifference
import CoreEngine.Smsd.Simulator
import CoreEngine.Smsd.Words

/-!
# Hidden input

What a local array holds before it is written is an input that nobody has given. It shows in a request
that misses a word, in a script that fails before its result is stored, and behind an identifier that is
too short.
-/

namespace CoreEngine.Smsd

open Interaction
open Procedure (lift Stable Steady Triple triple_bind triple_pure)

/-- The calls, the replies, the arguments of scripts and what is returned to them, and the alarms. -/
def Op.observed : Op → Bool
  | .sql .. | .socketWrite .. | .doSnmpGet .. | .doSnmpGetNext .. | .scriptStart _ | .phpReturn _
  | .setSdAlarm .. => true
  | _ => false

/-- The contents of arrays are hidden. -/
def arrays : Visibility signature where
  hidden op := op = .uninitialised
  observed := Op.observed
  unobserved op hop := by
    rw [of_decide_eq_true hop]
    rfl

/-- Arrays that hold the given texts, one after the other. -/
def stackOf (stack : ℕ → CString) : Secrets arrays := fun k op hop ↦
  (of_decide_eq_true hop : op = .uninitialised) ▸ stack k

/-- What is observed of a request, in a given environment and with given contents of its arrays. -/
def effect {σ α : Type} (respond : Responder signature σ) (state : σ) (fuel : ℕ) (stack : ℕ → CString)
    (code : Code α) : List (Event signature) :=
  (code.outcome respond (stackOf stack) fuel (state, 0)).1

/-- In every environment with expected answers, the effect does not depend on the contents of arrays. -/
def Determined (expect : (op : Op) → op.Answer → Prop) (request : M Int) : Prop :=
  ∀ (σ : Type) (respond : Responder signature σ), respond.Meets expect →
    ∀ (state : σ) (fuel : ℕ) (csp : Client) (stack stack' : ℕ → CString),
      effect respond state fuel stack (request csp) = effect respond state fuel stack' (request csp)

/-- The identifier that a script passes to a function that decodes it. -/
def PhpFunction.sdid? : PhpFunction → Option CString
  | .smsSetUpdateStatus sdid _ _ _ _ => sdid
  | _ => none

/-- Identifiers that do not come with the request have a full prefix: the one of a device that was found,
and those that scripts pass on. -/
def Prefixed : (op : Op) → op.Answer → Prop
  | .sql _ (.getSdInfo _), reply => reply.ret = 0 → prefixsize ≤ reply.output.sdid.length
  | .scriptStep, step => ∀ request, step = .call request →
      ∀ sdid ∈ request.function.sdid?, prefixsize ≤ sdid.length
  | _, _ => True

/-- No array is looked at before it is written. -/
def candid : Monitor signature Unit where
  allow _ op := op ≠ .uninitialised
  expect _ op answer := Prefixed op answer
  next _ _ _ := ()

namespace Candid

section Disciplines

/-- Nothing is known. -/
abbrev Anything (_csp : Client) (_g : Unit) : Prop := True

theorem ignores {op : Op} (hop : op ≠ .uninitialised) : candid.Ignores op :=
  fun _ ↦ ⟨hop, fun _ ↦ rfl⟩

theorem ignores_database {op : Op} (hop : op.OnDatabase 2) : candid.Ignores op := by
  apply ignores
  rintro rfl
  exact hop

instance : ContextDiscipline candid Anything :=
  contextDiscipline_of_ignores (fun _ ↦ ignores_database) (fun _ _ _ _ ↦ trivial) fun _ _ _ ↦
    ignores_database (Sql.rank_le_two _)

instance : LockDiscipline candid Anything :=
  lockDiscipline_of_ignores (fun _ hop ↦ ignores_database (hop.mono (by decide))) fun _ _ _ _ ↦ trivial

instance : SocketDiscipline candid Anything := by
  apply socketDiscipline_of_ignores _ fun _ _ _ _ ↦ trivial
  intro op hop
  apply ignores
  rintro rfl
  exact hop

instance : ReplyDiscipline candid Anything := replyDiscipline_of_ignores (ignores nofun)

instance : CountDiscipline candid Anything := countDiscipline_of_ignores fun _ ↦ ignores nofun

instance : ScriptDiscipline candid Anything := by
  apply scriptDiscipline_of_ignores
  intro op hop
  apply ignores
  rintro rfl
  exact hop

end Disciplines

section Steady

theorem hidden_of_allow (g : Unit) (op : Op) (hop : candid.allow g op) : arrays.hidden op = false :=
  decide_eq_false hop

/-- What follows code that looks at no array. -/
theorem steady_bind_of_triple {α β : Type} {procedure : M α} {rest : α → M β} {post : α → Prop}
    (htriple : Triple candid Anything procedure fun value _ _ ↦ post value)
    (hrest : ∀ value, post value → Steady arrays Prefixed (rest value)) :
    Steady arrays Prefixed (procedure >>= rest) := by
  constructor
  intro csp
  apply (htriple csp () trivial).steady_bind hidden_of_allow fun _ _ _ hanswer ↦ hanswer
  intro result _ hpost
  exact (hrest result.1 hpost).steady result.2

instance (priority := low) {α : Type} (procedure : M α) [hstable : Stable candid Anything procedure] :
    Steady arrays Prefixed procedure :=
  ⟨fun csp ↦ (hstable.triple csp () trivial).steady hidden_of_allow fun _ _ _ hanswer ↦ hanswer⟩

/-- The call that `smsBdGetProvstatus` makes, with what its record held before. -/
def provstatusInto (info : SdInfo) (stageIndex : Int) (status errorMessage : CString) :
    M (Option SdProvstatus) := do
  let reply ← borrowDbCtx .smsBdGetProvstatus fun ctx ↦
    haSmssqlGetProvStatus ctx ⟨info.sd.key, stageIndex, status, 0, errorMessage⟩
  if reply.ret ≠ 0 then pure none else pure (some reply.output)

/-- A record that comes back with a failure is not looked at. -/
theorem provstatusInto_eq (info : SdInfo) (stageIndex : Int) (status errorMessage : CString) :
    provstatusInto info stageIndex status errorMessage = provstatusInto info stageIndex [] [] := by
  funext csp
  obtain ⟨cfd, dbCtx⟩ := csp
  cases dbCtx with
  | some ctx =>
    apply congrArg (Program.call _)
    funext shutdown
    cases shutdown <;> rfl
  | none =>
    apply congrArg (Program.call _)
    funext ctx
    apply congrArg (Program.call _)
    funext _
    apply congrArg (Program.call _)
    funext shutdown
    cases shutdown <;> rfl

instance (info : SdInfo) (stageIndex : Int) :
    Steady arrays Prefixed (smsBdGetProvstatus info stageIndex) := by
  constructor
  intro csp
  have hinto : Steady arrays Prefixed (provstatusInto info stageIndex [] []) := by
    unfold provstatusInto
    infer_instance
  have herror (status : CString) : Program.Steady arrays Prefixed (.call .uninitialised
      fun errorMessage ↦ provstatusInto info stageIndex status errorMessage csp) := by
    apply Program.steady_hidden rfl _ (hinto.steady csp)
    intro errorMessage
    rw [provstatusInto_eq]
  apply Program.steady_hidden rfl _ (herror [])
  intro status
  apply congrArg (Program.call _)
  funext errorMessage
  exact congrFun ((provstatusInto_eq info stageIndex status errorMessage).trans
    (provstatusInto_eq info stageIndex [] errorMessage).symm) csp

theorem stable_decodeSdid (number : CString → Int) {sdid : CString} (hsdid : prefixsize ≤ sdid.length) :
    Stable candid Anything (decodeSdid number sdid) := by
  rw [decodeSdid_of_le_length number hsdid]
  infer_instance

theorem steady_callPhp (csp : Bool) {info : Option SdInfo} {function : PhpFunction}
    (hinfo : ∀ info' ∈ info, prefixsize ≤ info'.sdid.length)
    (hsdid : ∀ sdid ∈ function.sdid?, prefixsize ≤ sdid.length) :
    Steady arrays Prefixed (callPhp csp info function) := by
  cases function with
  | smsBdGetProvstatus stageIndex =>
    unfold callPhp
    infer_instance
  | smsSdForceasset =>
    cases info with
    | none => exact inferInstanceAs (Steady arrays Prefixed (pure _))
    | some info =>
      have hdecode (number : CString → Int) := stable_decodeSdid number (hinfo info rfl)
      unfold callPhp withPointers
      simp only [Option.elim_some]
      infer_instance
  | smsSetUpdateStatus sdid errorCode type status errorMsg =>
    cases sdid with
    | none => exact inferInstanceAs (Steady arrays Prefixed (pure _))
    | some sdid =>
      have hdecode (number : CString → Int) := stable_decodeSdid number (hsdid sdid rfl)
      unfold callPhp
      simp only [Option.elim_some]
      infer_instance
  | _ =>
    unfold callPhp
    infer_instance

theorem steady_executeScript {script : Script}
    (hscript : ∀ info ∈ script.sdInfo, prefixsize ≤ info.sdid.length) :
    Steady arrays Prefixed (smsModPhpExecuteScript script) := by
  have hstep : Triple candid Anything (lift (ask .scriptStep)) fun step _ _ ↦
      ∀ request, step = .call request → ∀ sdid ∈ request.function.sdid?, prefixsize ≤ sdid.length :=
    Procedure.triple_call (fun _ _ _ ↦ nofun) fun _ _ _ _ hanswer ↦ hanswer
  have hround : Steady arrays Prefixed (do
      let step ← lift (ask .scriptStep)
      scriptRound script step) := by
    apply steady_bind_of_triple hstep
    intro step hsdid
    cases step with
    | exit ret returnBuf outputBuf =>
      unfold scriptRound
      infer_instance
    | call request =>
      have hinfo : ∀ info ∈ if request.sdInfo then script.sdInfo else none,
          prefixsize ≤ info.sdid.length := by
        intro info hmem
        split at hmem
        · exact hscript info hmem
        · cases hmem
      have hcall := steady_callPhp (request.csp && script.hasCsp) hinfo (hsdid request rfl)
      unfold scriptRound
      infer_instance
  unfold smsModPhpExecuteScript
  infer_instance

instance (script : Script) (failed : Int → M Unit)
    [Steady arrays Prefixed (smsModPhpExecuteScript script)] [∀ ret, Steady arrays Prefixed (failed ret)] :
    Steady arrays Prefixed (runScript script failed) := by
  unfold runScript
  infer_instance

theorem triple_getSDinfo (sdid : CString) : Triple candid Anything (getSDinfo sdid) fun info _ _ ↦
    info.ret = 0 → prefixsize ≤ info.output.sdid.length := by
  apply triple_useDbCtx_of_pool fun op hop ↦ ignores_database hop.onDatabase
  exact fun ctx _ _ ↦ ⟨nofun, fun _ hanswer ↦ hanswer⟩

theorem steady_withSDinfo (sdid message : CString) {body : SdInfo → M Int}
    (hbody : ∀ info, prefixsize ≤ info.sdid.length → Steady arrays Prefixed (body info)) :
    Steady arrays Prefixed (withSDinfo sdid message body) := by
  apply steady_bind_of_triple (triple_getSDinfo sdid)
  intro info hfound
  by_cases hret : info.ret = 0
  · have hinfo := hbody info.output (hfound hret)
    simp only [hret, ne_eq, not_true_eq_false, ↓reduceIte]
    exact hinfo
  · simp only [hret, ne_eq, not_false_eq_true, ↓reduceIte]
    infer_instance

end Steady

section Handlers

variable {params : CString}

/-- A script that knows no device but the one that was found. -/
theorem steady_script {info : SdInfo} (hinfo : prefixsize ≤ info.sdid.length) {script : Script}
    (hscript : ∀ info' ∈ script.sdInfo, info' = info) :
    Steady arrays Prefixed (smsModPhpExecuteScript script) := by
  apply steady_executeScript
  intro info' hmem
  rw [hscript info' hmem]
  exact hinfo

theorem steady_smsCmd (params : CString) : Steady arrays Prefixed (smsCmd params) := by
  have hdevice (cmd : CString) (optionalParams : Option CString) (sdid : CString) :
      Steady arrays Prefixed (withSDinfo sdid [] fun info ↦ genericSmsCmd info cmd optionalParams) := by
    apply steady_withSDinfo
    intro info hinfo
    have hscript : Steady arrays Prefixed (smsModPhpExecuteScript ⟨info.sdid, info.routerPath,
        commandFile "do_cmd_" cmd, [str "cmd" cmd, .str "optional_params".toList optionalParams, .csp,
          .sdInfo info]⟩) := steady_script hinfo fun info' hmem ↦ (Option.some.inj hmem).symm
    unfold genericSmsCmd
    infer_instance
  have hdaemon (cmd : CString) (optionalParams : Option CString) :
      Steady arrays Prefixed (genericSmsdCmd cmd optionalParams) := by
    have hscript : Steady arrays Prefixed (smsModPhpExecuteScript ⟨"debug".toList, "smsd".toList,
        commandFile "do_cmd_" cmd, [str "cmd" cmd, .str "optional_params".toList optionalParams, .csp]⟩) :=
      steady_executeScript nofun
    unfold genericSmsdCmd
    infer_instance
  unfold smsCmd withWords
  infer_instance

theorem steady_callCommand (params : CString) : Steady arrays Prefixed (callCommand params) := by
  have hwith (words : List CString) (buf : CString) :
      Steady arrays Prefixed (callCommandWith words buf) := by
    apply steady_withSDinfo
    intro info hinfo
    have hcall (command : CString) (applyConf : Int) (params : Option CString) :
        Steady arrays Prefixed (genericCallCommand info command applyConf params) := by
      have hscript : Steady arrays Prefixed (smsModPhpExecuteScript ⟨info.sdid, "smsd".toList,
          "do_call_command.php".toList, [.csp, .sdInfo info, str "commandName" command,
            .str "commandParams".toList params, .long "apply_conf".toList applyConf]⟩) :=
        steady_script hinfo fun info' hmem ↦ (Option.some.inj hmem).symm
      unfold genericCallCommand
      infer_instance
    infer_instance
  have hread (words : List CString) (buf : Int ⊕ CString) :
      Steady arrays Prefixed (buf.elim replyAnyFailure (callCommandWith words)) := by
    cases buf with
    | inl ret => exact inferInstanceAs (Steady arrays Prefixed (replyAnyFailure ret))
    | inr buf => exact hwith words buf
  unfold callCommand withWords
  infer_instance

theorem steady_resolveTemplate (sdid templatePath : CString) :
    Steady arrays Prefixed (resolveTemplate sdid templatePath) := by
  apply steady_bind_of_triple (triple_getSDinfo sdid)
  intro info hfound
  by_cases hret : info.ret = 0
  · have hinfo := hfound hret
    have hscript (path file : CString) : Steady arrays Prefixed (smsModPhpExecuteScript
        ⟨info.output.sdid, path, file, [.csp, str "template_path" templatePath, .sdInfo info.output]⟩) :=
      steady_script hinfo fun info' hmem ↦ (Option.some.inj hmem).symm
    simp only [hret, ne_eq, not_true_eq_false, ↓reduceIte]
    unfold deviceScript
    infer_instance
  · simp only [hret, ne_eq, not_false_eq_true, ↓reduceIte]
    infer_instance

/-- The words of a request with all its words. -/
theorem scanned_eq_pure {words : List CString} {i : ℕ} (hi : i < words.length) :
    scanned words i = pure (words.get ⟨i, hi⟩) := by
  unfold scanned
  rw [List.getElem?_eq_getElem hi]
  rfl

theorem steady_doResolveTemplate (hwords : (params.scanWords 2).length = 2) :
    Steady arrays Prefixed (doResolveTemplate params) := by
  have hresolve := steady_resolveTemplate
  unfold doResolveTemplate
  simp only [scanned_eq_pure (show 0 < (params.scanWords 2).length by omega),
    scanned_eq_pure (show 1 < (params.scanWords 2).length by omega)]
  infer_instance

set_option synthInstance.maxSize 4000 in
theorem steady_doIpDown (hwords : (params.scanWords 2).length = 2) :
    Steady arrays Prefixed (doIpDown params) := by
  unfold doIpDown
  simp only [scanned_eq_pure (show 0 < (params.scanWords 2).length by omega),
    scanned_eq_pure (show 1 < (params.scanWords 2).length by omega)]
  infer_instance

theorem steady_doCheckCmd (hwords : (params.scanWords 2).length = 2)
    (hsdid : prefixsize ≤ (word (params.scanWords 2) 0).length) :
    Steady arrays Prefixed (doCheckCmd params) := by
  have hdecode (number : CString → Int) := stable_decodeSdid number hsdid
  unfold doCheckCmd
  simp only [scanned_eq_pure (show 1 < (params.scanWords 2).length by omega)]
  infer_instance

theorem steady_doSetConfigMode (hwords : params.scanWords 2 ≠ [])
    (hsdid : prefixsize ≤ (word (params.scanWords 2) 0).length) :
    Steady arrays Prefixed (doSetConfigMode params) := by
  obtain ⟨w, rest, hscan⟩ := List.exists_cons_of_ne_nil hwords
  rw [hscan] at hsdid
  have hdecode (number : CString → Int) : Stable candid Anything (decodeSdid number w) :=
    stable_decodeSdid number hsdid
  have hset (cfgMode : Int) : Steady arrays Prefixed (sdSetConfigMode w cfgMode) := by
    unfold sdSetConfigMode
    infer_instance
  have hbody : Steady arrays Prefixed (do
      let set ← sdSetConfigMode w (configMode (word (w :: rest) 1))
      if set.ret = 0 then do
        let sent ← sendOk (some set.output)
        if sent ≠ 0 then pure (-1) else pure 0
      else do
        let sent ← sendError (some set.output) set.ret
        if sent ≠ 0 then pure (-1) else pure 0) := by
    infer_instance
  unfold doSetConfigMode
  rw [hscan]
  exact hbody

end Handlers

end Candid

section Determined

theorem determined_of_steady {expect : (op : Op) → op.Answer → Prop} {request : M Int}
    (hsteady : Steady arrays expect request) : Determined expect request := by
  intro σ respond hmeets state fuel csp stack stack'
  unfold effect
  rw [hsteady.steady csp σ respond hmeets (stackOf stack) (stackOf stack') fuel state 0 0]

/-- An environment without memory: one device, calls that succeed, no lines from the client. -/
def still : Responder signature Unit := fun _ op ↦
  ((Sim.single [] []).respond 0 op).map fun reply ↦ (reply.1, ())

theorem meets_still : still.Meets Prefixed := by
  intro _ op answer _ hrespond
  cases op with
  | sql ctx query =>
    cases query with
    | getSdInfo sdid =>
      cases hrespond
      exact fun _ ↦ (by decide : prefixsize ≤ Sim.plainDevice.sdid.length)
    | _ => trivial
  | scriptStep =>
    cases hrespond
    nofun
  | _ => trivial

/-- The client context of a request. -/
def connected : Client := ⟨5, some ⟨.sms, 0⟩⟩

/-- Two contents of the arrays that show. -/
theorem not_determined {request : M Int} (text text' : CString) (test : Event signature → Bool)
    (hyes : (effect still () 1 (fun _ ↦ text) (request connected)).any test = true)
    (hno : (effect still () 1 (fun _ ↦ text') (request connected)).any test = false) :
    ¬Determined Prefixed request := by
  intro hdetermined
  have heffect := hdetermined Unit still meets_still () 1 connected (fun _ ↦ text) fun _ ↦ text'
  rw [heffect, hno] at hyes
  cases hyes

/-- The device is looked up. -/
def looksUp (sdid : CString) : Event signature → Bool
  | ⟨.sql _ (.getSdInfo found), _⟩ => found = sdid
  | _ => false

def startsWith (global : PhpGlobal) : Event signature → Bool
  | ⟨.scriptStart script, _⟩ => global ∈ script.globals
  | _ => false

def logs : Event signature → Bool
  | ⟨.sql _ (.setLogById _), _⟩ => true
  | _ => false

theorem scanWords_two_cases (params : CString) :
    params.scanWords 2 = [] ∨ (∃ w, params.scanWords 2 = [w]) ∨ ∃ w v, params.scanWords 2 = [w, v] := by
  have hlength : (params.scanWords 2).length ≤ 2 := by
    rw [scanWords_eq_take]
    exact List.length_take_le 2 _
  match hwords : params.scanWords 2 with
  | [] => exact .inl rfl
  | [w] => exact .inr (.inl ⟨w, rfl⟩)
  | [w, v] => exact .inr (.inr ⟨w, v, rfl⟩)
  | _ :: _ :: _ :: _ =>
    rw [hwords] at hlength
    simp at hlength

theorem determined_doResolveTemplate_iff (params : CString) :
    Determined Prefixed (doResolveTemplate params) ↔ (params.scanWords 2).length = 2 := by
  constructor
  · intro hdetermined
    rcases scanWords_two_cases params with hwords | ⟨w, hwords⟩ | ⟨w, v, hwords⟩
    · refine absurd hdetermined (not_determined "ABC1".toList [] (looksUp "ABC1".toList) ?_ ?_)
      all_goals
        unfold doResolveTemplate
        rw [hwords]
        rfl
    · refine absurd hdetermined
        (not_determined "path".toList [] (startsWith (str "template_path" "path".toList)) ?_ ?_)
      all_goals
        unfold doResolveTemplate
        rw [hwords]
        rfl
    · rw [hwords]
      rfl
  · intro hwords
    exact determined_of_steady (Candid.steady_doResolveTemplate hwords)

theorem determined_doIpDown_iff (params : CString) :
    Determined Prefixed (doIpDown params) ↔ (params.scanWords 2).length = 2 := by
  constructor
  · intro hdetermined
    rcases scanWords_two_cases params with hwords | ⟨w, hwords⟩ | ⟨w, v, hwords⟩
    · refine absurd hdetermined (not_determined "ABC1".toList [] (looksUp "ABC1".toList) ?_ ?_)
      all_goals
        unfold doIpDown
        rw [hwords]
        rfl
    · refine absurd hdetermined (not_determined "10.0.0.1".toList [] logs ?_ ?_)
      all_goals
        unfold doIpDown
        rw [hwords]
        rfl
    · rw [hwords]
      rfl
  · intro hwords
    exact determined_of_steady (Candid.steady_doIpDown hwords)

/-- The status of the given kind of update is asked for. -/
def asksFor (test : SdUpdatestatus → Bool) : Event signature → Bool
  | ⟨.sql _ (.getUpdateStatus status), _⟩ => test status
  | _ => false

theorem determined_doCheckCmd_iff (params : CString) : Determined Prefixed (doCheckCmd params) ↔
    params.scanWords 2 = [] ∨
      (params.scanWords 2).length = 2 ∧ prefixsize ≤ (word (params.scanWords 2) 0).length := by
  constructor
  · intro hdetermined
    rcases scanWords_two_cases params with hwords | ⟨w, hwords⟩ | ⟨w, v, hwords⟩
    · exact .inl hwords
    · refine absurd hdetermined (not_determined "1".toList [] (asksFor (·.updType = "1".toList)) ?_ ?_)
      all_goals
        unfold doCheckCmd checkStatus getUpdateStatus decodeSdid
        rw [hwords]
        by_cases hshort : w.length < prefixsize
        · simp only [word, List.getD_cons_zero, if_pos hshort]
          rfl
        · simp only [word, List.getD_cons_zero, if_neg hshort]
          rfl
    · refine .inr ⟨by rw [hwords]; rfl, ?_⟩
      rw [hwords]
      by_contra hnot
      have hshort : w.length < prefixsize := Nat.lt_of_not_le hnot
      refine absurd hdetermined (not_determined "1".toList [] (asksFor (·.key.seqnum = 1)) ?_ ?_)
      all_goals
        unfold doCheckCmd checkStatus getUpdateStatus decodeSdid
        rw [hwords]
        simp only [word, List.getD_cons_zero, if_pos hshort]
        rfl
  · rintro (hwords | ⟨hwords, hsdid⟩)
    · apply determined_of_steady
      unfold doCheckCmd
      rw [hwords]
      exact inferInstanceAs (Steady arrays Prefixed (do
        let _ ← sendError none errVerbBadParam
        pure errVerbBadParam))
    · exact determined_of_steady (Candid.steady_doCheckCmd hwords hsdid)

/-- The mode of the given device is set. -/
def setsMode (seqnum : Int) : Event signature → Bool
  | ⟨.sql _ (.setSDConfigStep key _), _⟩ => key.seqnum = seqnum
  | _ => false

theorem determined_doSetConfigMode_iff (params : CString) : Determined Prefixed (doSetConfigMode params) ↔
    params.scanWords 2 ≠ [] ∧ prefixsize ≤ (word (params.scanWords 2) 0).length := by
  constructor
  · intro hdetermined
    cases hwords : params.scanWords 2 with
    | nil =>
      refine absurd hdetermined (not_determined "ABC1".toList "ABC2".toList (setsMode 1) ?_ ?_)
      all_goals
        unfold doSetConfigMode
        rw [hwords]
        rfl
    | cons w rest =>
      refine ⟨nofun, ?_⟩
      by_contra hnot
      have hshort : w.length < prefixsize := Nat.lt_of_not_le hnot
      refine absurd hdetermined (not_determined "1".toList [] (setsMode 1) ?_ ?_)
      all_goals
        unfold doSetConfigMode sdSetConfigMode
        rw [hwords]
        have hdecode : decodeSdid CString.atol w = (do
            let behind ← lift (ask .uninitialised)
            pure ⟨w, CString.atol behind⟩) := if_pos hshort
        simp only [scanned, List.getElem?_cons_zero, Option.elim_some, Procedure.pure_bind_eq, hdecode]
        rfl
  · rintro ⟨hwords, hsdid⟩
    exact determined_of_steady (Candid.steady_doSetConfigMode hwords hsdid)

end Determined

section SaveConf

/-- The script of `save_conf_task` ends with `ret`, and a changed configuration has the given severity. -/
def Saving (ret severity : Int) : (op : Op) → op.Answer → Prop
  | .scriptStep, step => ∀ code returnBuf outputBuf, step = .exit code returnBuf outputBuf → code = ret
  | .currentConfig, config => config.alarmSevConfChanged = severity
  | _, _ => True

variable {ret severity : Int}

/-- The monitor of `save_running_conf`, which looks at no array. -/
def saving (ret severity : Int) : Monitor signature Unit where
  allow _ op := op ≠ .uninitialised
  expect _ op answer := Saving ret severity op answer
  next _ _ _ := ()

namespace Saving

/-- Without a client context and a device, a script reaches nothing. -/
theorem triple_callPhp (function : PhpFunction) :
    Triple (saving ret severity) Candid.Anything (callPhp false none function) fun _ _ _ ↦ True := by
  cases function with
  | smsSetUpdateStatus sdid errorCode type status errorMsg =>
    cases sdid <;> cases type <;> cases status <;> cases errorMsg <;> exact fun _ _ _ ↦ trivial
  | smsBdSetProvstatus stageIndex status errorId nextStatus additionalmsg =>
    cases additionalmsg <;> exact fun _ _ _ ↦ trivial
  | smsBdSetLog logMsg logLevel logReference => exact fun _ _ _ ↦ ⟨nofun, nofun⟩
  | smsCloseUserSocket => exact fun _ _ _ ↦ ⟨nofun, nofun⟩
  | _ => exact fun _ _ _ ↦ trivial

theorem triple_executeScript {script : Script} (hcsp : script.hasCsp = false) (hinfo : script.sdInfo = none) :
    Triple (saving ret severity) Candid.Anything (smsModPhpExecuteScript script)
      fun exit _ _ ↦ exit.ret = ret := by
  have hstart : Triple (saving ret severity) Candid.Anything (lift (ask (.scriptStart script)))
      fun _ _ _ ↦ True :=
    Procedure.triple_call (fun _ _ _ ↦ nofun) fun _ _ _ _ _ ↦ trivial
  have hstep : Triple (saving ret severity) Candid.Anything (lift (ask .scriptStep))
      fun step _ _ ↦ Saving ret severity .scriptStep step :=
    Procedure.triple_call (fun _ _ _ ↦ nofun) fun _ _ _ _ hanswer ↦ hanswer
  apply triple_bind hstart
  intro _
  apply Procedure.triple_loop (fun _ _ _ ↦ True)
  intro _
  apply triple_bind hstep
  intro step
  cases step with
  | exit code returnBuf outputBuf => exact fun _ _ hstep ↦ hstep code returnBuf outputBuf rfl
  | call request =>
    have hnone : (if request.sdInfo then script.sdInfo else none) = none := by
      rw [hinfo, ite_self]
    unfold scriptRound
    simp only [hcsp, Bool.and_false, hnone]
    apply triple_bind ((triple_callPhp request.function).conseq (fun _ _ _ ↦ trivial)
      fun _ _ _ htrue ↦ htrue)
    intro value
    exact fun _ _ _ ↦ ⟨nofun, fun _ _ ↦ trivial⟩

/-- What is stored through `version_changed` is there unless the script has failed. -/
theorem triple_saveRunningConf (sd : SdLike) (strFlagUpdate : CString) :
    Triple (saving ret severity) Candid.Anything (saveRunningConf sd strFlagUpdate)
      fun saved _ _ ↦ ret = 0 → saved.2.isSome := by
  have hscript (value : Option CString) : Triple (saving ret severity) Candid.Anything
      (smsModPhpExecuteScript ⟨sd.sdid, "smsd".toList, "save_router_conf.php".toList,
        [str "flag_update" strFlagUpdate, .str "config_type".toList value, str "sdid" sd.sdid]⟩)
      fun exit _ _ ↦ exit.ret = ret := triple_executeScript rfl rfl
  have hafter (value : Option CString) : Triple (saving ret severity) Candid.Anything (do
      let exit ← smsModPhpExecuteScript ⟨sd.sdid, "smsd".toList, "save_router_conf.php".toList,
        [str "flag_update" strFlagUpdate, .str "config_type".toList value, str "sdid" sd.sdid]⟩
      if exit.ret ≠ 0 then pure (exit.ret, none)
      else pure (exit.ret, some (decide (exit.returnBuf.getD [] ≠ []))))
      fun saved _ _ ↦ ret = 0 → saved.2.isSome := by
    apply triple_bind (hscript value)
    intro exit
    apply Procedure.triple_ite
    · intro hfailed
      apply triple_pure
      intro _ _ hret hzero
      exact absurd (hret.trans hzero) hfailed
    · intro _
      exact triple_pure _ fun _ _ _ _ ↦ rfl
  intro csp g _
  exact ⟨nofun, fun library _ ↦ hafter (library.getRouterConfigType sd.manId sd.modId) csp () trivial⟩

/-- The end of `save_conf_task`. -/
def raiseConf (sd : SdLike) (config : SmsConf) (raised : Prop) [Decidable raised] : M Int := do
  if raised then
    lift (ask (.setSdAlarm sd.key config.alarmSevConfChanged "CONF".toList
      "Configuration has been changed".toList))
  pure smsOk

theorem steady_saveConfTask (sd : SdLike) (hcondition : ret = 0 ∨ severity ≤ 0) :
    Steady arrays (Saving ret severity) (saveConfTask sd) := by
  constructor
  intro csp
  apply (triple_saveRunningConf sd "daily config".toList csp () trivial).steady_bind
    (fun _ _ ↦ decide_eq_false) fun _ _ _ hanswer ↦ hanswer
  rintro ⟨⟨code, changed⟩, csp⟩ _ hchanged
  have hsame (config : SmsConf) (hconfig : config.alarmSevConfChanged = severity) (stack stack' : CString) :
      (changed.getD (stack ≠ []) = true ∧ config.alarmSevConfChanged > 0 ↔
        changed.getD (stack' ≠ []) = true ∧ config.alarmSevConfChanged > 0) := by
    rcases hcondition with hret | hseverity
    · obtain ⟨flag, rfl⟩ := Option.isSome_iff_exists.1 (hchanged hret)
      exact Iff.rfl
    · constructor
      · intro ⟨_, hpositive⟩
        omega
      · intro ⟨_, hpositive⟩
        omega
  -- the severity is read after the flag
  apply Program.steady_of_alike rfl
  intro stack stack'
  apply Program.alike_call rfl
  intro config hconfig
  have halarm : Steady arrays (Saving ret severity) (lift (ask (.setSdAlarm sd.key
      config.alarmSevConfChanged "CONF".toList "Configuration has been changed".toList)) : M Unit) :=
    ⟨fun _ ↦ Program.steady_call rfl fun _ _ ↦ Program.steady_ret _⟩
  have hend (raised : Prop) [Decidable raised] :
      Steady arrays (Saving ret severity) (raiseConf sd config raised) := by
    unfold raiseConf
    infer_instance
  have hequal : raiseConf sd config (changed.getD (stack ≠ []) = true ∧ config.alarmSevConfChanged > 0) =
      raiseConf sd config (changed.getD (stack' ≠ []) = true ∧ config.alarmSevConfChanged > 0) := by
    unfold raiseConf
    simp only [hsame config hconfig stack stack']
  have hsteady := (hend (changed.getD (stack' ≠ []) = true ∧ config.alarmSevConfChanged > 0)).steady csp
  exact (congrArg (fun request : M Int ↦ Program.Alike arrays (Saving ret severity) (request csp) _)
    hequal).mpr hsteady

end Saving

/-- The script fails, and changes are worth an alarm. -/
def failing (ret severity : Int) : Responder signature Unit := fun _ op ↦
  match op with
  | .scriptStep => some (.exit ret none none, ())
  | .currentConfig => some (⟨severity, 0, 0, [], []⟩, ())
  | op => still () op

theorem meets_failing (ret severity : Int) : (failing ret severity).Meets (Saving ret severity) := by
  intro _ op answer _ hrespond
  cases op with
  | scriptStep =>
    cases hrespond
    intro code returnBuf outputBuf hexit
    cases hexit
    rfl
  | currentConfig =>
    cases hrespond
    rfl
  | _ => trivial

def raises : Event signature → Bool
  | ⟨.setSdAlarm .., _⟩ => true
  | _ => false

theorem outcome_failing (severity : Int) (sd : SdLike) (hret : ret ≠ 0) (stack : ℕ → CString) :
    ∃ script, (saveRunningConf sd "daily config".toList connected).outcome (failing ret severity)
      (stackOf stack) 1 ((), 0) = ([⟨.scriptStart script, ()⟩], some (((ret, none), connected), ())) := by
  refine ⟨⟨sd.sdid, "smsd".toList, "save_router_conf.php".toList, [str "flag_update" "daily config".toList,
    .str "config_type".toList none, str "sdid" sd.sdid]⟩, ?_⟩
  cases ret with
  | ofNat n =>
    cases n with
    | zero => exact absurd rfl hret
    | succ n => rfl
  | negSucc n => rfl

/-- After a failed script the flag is the one on the stack. -/
theorem any_effect_failing (sd : SdLike) (hret : ret ≠ 0) (stack : CString) :
    (effect (failing ret severity) () 1 (fun _ ↦ stack) (saveConfTask sd connected)).any raises =
      decide (stack ≠ [] ∧ severity > 0) := by
  obtain ⟨script, hsaved⟩ := outcome_failing severity sd hret fun _ ↦ stack
  obtain ⟨k, houtcome⟩ := Program.outcome_bind (failing ret severity) (stackOf fun _ ↦ stack) 1
    (saveRunningConf sd "daily config".toList connected) (fun result ↦ (do
      let stack ← lift (ask .uninitialised)
      let config ← lift (ask .currentConfig)
      Saving.raiseConf sd config
        (result.1.2.getD (stack ≠ []) = true ∧ config.alarmSevConfChanged > 0) : M Int) result.2) ((), 0)
  rw [hsaved] at houtcome
  have hend : effect (failing ret severity) () 1 (fun _ ↦ stack) (saveConfTask sd connected) =
      ⟨.scriptStart script, ()⟩ :: ((Saving.raiseConf sd ⟨severity, 0, 0, [], []⟩
        (decide (stack ≠ []) = true ∧ severity > 0) connected).outcome (failing ret severity)
        (stackOf fun _ ↦ stack) 1 ((), k + 1)).1 := congrArg Prod.fst houtcome
  rw [hend]
  unfold Saving.raiseConf
  by_cases hraised : stack ≠ [] ∧ severity > 0
  · simp only [decide_eq_true_eq, if_pos hraised, decide_eq_true hraised]
    rfl
  · simp only [decide_eq_true_eq, if_neg hraised, decide_eq_false hraised]
    rfl

theorem determined_saveConfTask_iff (sd : SdLike) (ret severity : Int) :
    Determined (Saving ret severity) (saveConfTask sd) ↔ ret = 0 ∨ severity ≤ 0 := by
  constructor
  · intro hdetermined
    by_contra hnot
    have hret : ret ≠ 0 := fun hret ↦ hnot (.inl hret)
    have hpositive : severity > 0 := by omega
    have heffect := hdetermined Unit (failing ret severity) (meets_failing ret severity) () 1 connected
      (fun _ ↦ ['x']) fun _ ↦ []
    have hany := congrArg (List.any · raises) heffect
    simp only [any_effect_failing sd hret, hpositive] at hany
    cases hany
  · intro hcondition
    exact determined_of_steady (Saving.steady_saveConfTask sd hcondition)

end SaveConf

section Decode

open CoreEngine.Memory

variable {sdid : CString}

/-- What `number` makes of the characters from `SDid + PREFIXSIZE` on, in the array that the identifier
was copied to. -/
def seqnumAt (number : CString → Int) (a : Cells CString.bufsiz) : Option Int :=
  (a.text (CString.bufsiz + 1) prefixsize).map number

theorem seqnumAt_of_le_length (number : CString → Int) {a : Cells CString.bufsiz} (hholds : a.Holds 0 sdid)
    (hsdid : prefixsize ≤ sdid.length) : seqnumAt number a = some (number (sdid.drop prefixsize)) := by
  have hbounds := hholds.le
  have hdrop : a.Holds prefixsize (sdid.drop prefixsize) := by
    rw [← List.take_append_drop prefixsize sdid] at hholds
    have hrest := hholds.drop
    rwa [List.length_take_of_le hsdid, Int.zero_add] at hrest
  unfold seqnumAt
  rw [Cells.text_eq hdrop (by rw [List.length_drop]; omega)]
  rfl

/-- `decodeSdid` decodes what the array holds. -/
theorem outcome_decodeSdid {σ : Type} (respond : Responder signature σ) (number : CString → Int)
    {a : Cells CString.bufsiz} (hholds : a.Holds 0 sdid) {behind : CString}
    (hbehind : a.text (CString.bufsiz + 1) prefixsize = some behind) (csp : Client) (state : σ) (fuel k : ℕ) :
    ((decodeSdid number sdid csp).outcome respond (stackOf fun _ ↦ behind) fuel (state, k)).2.map
      (·.1.1.seqnum) = seqnumAt number a := by
  unfold decodeSdid
  by_cases hshort : sdid.length < prefixsize
  · rw [if_pos hshort]
    unfold seqnumAt
    rw [hbehind]
    rfl
  · have hseqnum := seqnumAt_of_le_length number hholds (Nat.le_of_not_lt hshort)
    rw [if_neg hshort, hseqnum]
    rfl

/-- An array that holds a short identifier, and a digit where the sequence number would be. -/
theorem exists_digit_behind (hsdid : sdid.length < prefixsize) (hnul : ∀ c ∈ sdid, c ≠ nul) {c : Char}
    (hc : c ≠ nul) : ∃ a : Cells CString.bufsiz, a.Holds 0 sdid ∧
      a.text (CString.bufsiz + 1) prefixsize = some [c] := by
  have hsize : CString.bufsiz = 8192 := rfl
  have hprefix : prefixsize = 3 := rfl
  have hfirst : (Cells.ofString sdid : Cells CString.bufsiz).Holds 0 sdid :=
    Cells.holds_ofString (by omega) hnul
  obtain ⟨a, hstore⟩ := Cells.exists_store (Cells.ofString sdid : Cells CString.bufsiz) c
    (by omega : (0 : Int) ≤ prefixsize) (by omega)
  have hend : (Cells.ofString sdid : Cells CString.bufsiz).load (prefixsize + 1 : ℕ) = some nul := by
    rw [Cells.load_ofString sdid (by omega), List.getD_eq_getElem?_getD,
      List.getElem?_eq_none (by omega)]
    rfl
  have hdigit : a.Holds prefixsize [c] := by
    refine ⟨?_, hc, ?_⟩
    · rw [Cells.load_store hstore, if_pos rfl]
    · show a.load (prefixsize + 1) = some nul
      rw [Cells.load_store hstore, if_neg (by omega)]
      exact hend
  exact ⟨a, hfirst.store_behind hstore (by omega), Cells.text_eq hdigit (by rw [List.length_singleton]; omega)⟩

theorem seqnumAt_determined_iff (hnul : ∀ c ∈ sdid, c ≠ nul) :
    (∀ a a' : Cells CString.bufsiz, a.Holds 0 sdid → a'.Holds 0 sdid →
      seqnumAt CString.atol a = seqnumAt CString.atol a') ↔ prefixsize ≤ sdid.length := by
  constructor
  · intro hsame
    by_contra hnot
    have hshort : sdid.length < prefixsize := Nat.lt_of_not_le hnot
    obtain ⟨a, ha, htext⟩ := exists_digit_behind hshort hnul (c := '1') (by decide)
    obtain ⟨a', ha', htext'⟩ := exists_digit_behind hshort hnul (c := '2') (by decide)
    have hseqnum := hsame a a' ha ha'
    unfold seqnumAt at hseqnum
    rw [htext, htext'] at hseqnum
    exact absurd hseqnum (by decide)
  · intro hsdid a a' ha ha'
    rw [seqnumAt_of_le_length _ ha hsdid, seqnumAt_of_le_length _ ha' hsdid]

end Decode

/-- What a request does depends on its line, its body and its surroundings alone, exactly when no word that
it takes is missing and every identifier it decodes has a full prefix. -/
theorem effect_determined_iff (params : CString) (sd : SdLike) (ret severity : Int) :
    ((Determined Prefixed (doCheckCmd params) ↔ params.scanWords 2 = [] ∨
        (params.scanWords 2).length = 2 ∧ prefixsize ≤ (word (params.scanWords 2) 0).length) ∧
      (Determined Prefixed (doResolveTemplate params) ↔ (params.scanWords 2).length = 2) ∧
      (Determined Prefixed (doIpDown params) ↔ (params.scanWords 2).length = 2) ∧
      (Determined Prefixed (doSetConfigMode params) ↔
        params.scanWords 2 ≠ [] ∧ prefixsize ≤ (word (params.scanWords 2) 0).length) ∧
      Determined Prefixed (smsCmd params) ∧ Determined Prefixed (callCommand params)) ∧
    (Determined (Saving ret severity) (saveConfTask sd) ↔ ret = 0 ∨ severity ≤ 0) ∧
    ∀ sdid : CString, (∀ c ∈ sdid, c ≠ Memory.nul) →
      ((∀ a a' : Memory.Cells CString.bufsiz, a.Holds 0 sdid → a'.Holds 0 sdid →
        seqnumAt CString.atol a = seqnumAt CString.atol a') ↔ prefixsize ≤ sdid.length) := by
  refine ⟨⟨?_, ?_, ?_, ?_, ?_, ?_⟩, ?_, ?_⟩
  · exact determined_doCheckCmd_iff params
  · exact determined_doResolveTemplate_iff params
  · exact determined_doIpDown_iff params
  · exact determined_doSetConfigMode_iff params
  · exact determined_of_steady (Candid.steady_smsCmd params)
  · exact determined_of_steady (Candid.steady_callCommand params)
  · exact determined_saveConfTask_iff sd ret severity
  · intro sdid hnul
    exact seqnumAt_determined_iff hnul

/-- A complete request, and an identifier with a full prefix. -/
theorem effect_determined_of_full_request :
    Determined Prefixed (doCheckCmd "ABC123 BACKUP".toList) ∧
      ∀ a a' : Memory.Cells CString.bufsiz, a.Holds 0 "ABC123".toList → a'.Holds 0 "ABC123".toList →
        seqnumAt CString.atol a = seqnumAt CString.atol a' := by
  obtain ⟨⟨hcheckCmd, -⟩, -, hseqnum⟩ := effect_determined_iff "ABC123 BACKUP".toList SdLike.blank 0 0
  exact ⟨hcheckCmd.2 (by decide), (hseqnum "ABC123".toList (by decide)).2 (by decide)⟩

/-- CHECKCMD without a command looks up whatever the array held. -/
theorem doCheckCmd_not_determined : ¬Determined Prefixed (doCheckCmd "ABC123".toList) := by
  rw [determined_doCheckCmd_iff]
  decide

end CoreEngine.Smsd
