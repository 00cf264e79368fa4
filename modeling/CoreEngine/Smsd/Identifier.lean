import CoreEngine.Smsd.Indifference
import CoreEngine.Smsd.Passage
import CoreEngine.Smsd.Words

/-!
# The device of a request

The argument of a request on a device starts with the identifier of the device. The handlers take it from
there in five ways, through arrays of different sizes, and look the device up under what they got.
-/

namespace CoreEngine.Smsd

open Interaction
open Procedure (lift Stable Triple)
open Program (Run Offers)

/-- How a handler takes the identifier from its argument. -/
inductive Reading
  /-- It is the whole argument. -/
  | argument
  /-- It is the first word that `sscanf` finds. -/
  | word
  /-- It ends at the first space, if there is one. -/
  | field
  /-- It ends at the first space, and something must follow. -/
  | pair
  /-- As many characters as fit into an array of `SDID_LEN` are copied. -/
  | copy
  deriving DecidableEq, Repr

/-- The handlers that look up the device named by their argument. -/
def Handler.reading : Handler → Option Reading
  | .doCheckProvisioning | .doGetActivityReport | .doGetConfig | .doGetRouterIp | .doGetRunningConf
  | .doGetSDConf | .doGetVPNReport | .doProvisioning | .doUpdateConfig | .doUpdateLicense | .doHaSwap
  | .doJsSmsexecn | .doStaging | .doStagingMap => some .argument
  | .doIpDown | .doBackupConf | .doCmd | .doPushConfig | .doRestoreConf | .doUpdateFirmware
  | .doCallCommand | .doCheckSerial | .doGenTemplate | .doGetArchiveConf | .doResolveTemplate
  | .doSendDataFiles | .doJsSmsAddonExec | .doUnarchiveConf => some .word
  | .doGetReport => some .field
  | .doJsAExecScript | .doJsExecScript | .doJsSmsexec | .doSdIpUp => some .pair
  | .doResolve => some .copy
  | _ => none

/-- The identifier at the start of an argument, with `rest` behind it, is read as it was sent. -/
def Reading.Intact (sdid rest : CString) : Reading → Prop
  | .argument => rest = []
  | .word => True
  | .field => rest = [] ∨ rest.head? = some ' '
  | .pair => ' ' ∈ rest → rest.head? = some ' '
  | .copy => sdid.length < sdidLen ∧ (rest = [] ∨ sdid.length + 1 = sdidLen)

instance (sdid rest : CString) (reading : Reading) : Decidable (reading.Intact sdid rest) := by
  cases reading <;> (unfold Reading.Intact; infer_instance)

/-- Whenever the request is about to look a device up, it is the given one. -/
def Addresses (request : M Int) (sdid : CString) : Prop :=
  ∀ csp trace final ctx looked next, Run (request csp) trace final →
    Offers final (.sql ctx (.getSdInfo looked)) next → looked = sdid

/-- Only the device `sdid` is looked up. -/
def registry (sdid : CString) : Monitor signature Unit where
  allow _ op := match op with
    | .sql _ (.getSdInfo looked) => looked = sdid
    | _ => True
  expect _ _ _ := True
  next _ _ _ := ()

namespace Registry

variable {sdid : CString}

section Disciplines

/-- Nothing is known. -/
abbrev Anything (_csp : Client) (_g : Unit) : Prop := True

theorem ignores {op : Op} (hop : (registry sdid).allow () op) : (registry sdid).Ignores op :=
  fun _ ↦ ⟨hop, fun _ ↦ rfl⟩

theorem ignores_database {op : Op} (hop : op.OnDatabase 1) : (registry sdid).Ignores op := by
  apply ignores
  cases op with
  | sql ctx query =>
    cases query <;> trivial
  | _ => trivial

theorem ignores_socket {op : Op} (hop : op.OnSocket) : (registry sdid).Ignores op := by
  apply ignores
  cases op <;> trivial

instance : QueryDiscipline (registry sdid) Anything :=
  queryDiscipline_of_ignores (fun _ ↦ ignores_database) fun _ _ _ _ ↦ trivial

instance : LockDiscipline (registry sdid) Anything :=
  lockDiscipline_of_ignores (fun _ ↦ ignores_database) fun _ _ _ _ ↦ trivial

instance : SocketDiscipline (registry sdid) Anything :=
  socketDiscipline_of_ignores (fun _ ↦ ignores_socket) fun _ _ _ _ ↦ trivial

instance : ReplyDiscipline (registry sdid) Anything := replyDiscipline_of_ignores (ignores trivial)

instance : ScriptDiscipline (registry sdid) Anything := by
  apply scriptDiscipline_of_ignores
  intro op hop
  apply ignores
  cases op <;> trivial

instance : StackDiscipline (registry sdid) Anything := stackDiscipline_of_ignores (ignores trivial)

instance : CountDiscipline (registry sdid) Anything := countDiscipline_of_ignores fun _ ↦ ignores trivial

instance : BodyDiscipline (registry sdid) Anything := ⟨fun _ _ _ ↦ trivial⟩

instance : Stable (registry sdid) Anything (getSDinfo sdid) := by
  have hnull : Stable (registry sdid) Anything (lift nullDereference : M (Reply SdInfo)) :=
    inferInstance
  have hlookup (ctx : Option Ctx) : Stable (registry sdid) Anything
      (lift (ctx.elim nullDereference fun ctx ↦ sql ctx (.getSdInfo sdid))) := by
    cases ctx with
    | none => exact hnull
    | some ctx => exact stable_ask_of_ignores (ignores rfl)
  unfold getSDinfo useDbCtx
  infer_instance

instance (message : CString) (body : SdInfo → M Int)
    [∀ info, Stable (registry sdid) Anything (body info)] :
    Stable (registry sdid) Anything (withSDinfo sdid message body) := by
  unfold withSDinfo
  infer_instance

end Disciplines

section Lookups

/-! Requests that look up the identifier they are given. -/

set_option synthInstance.maxSize 4000

instance : Stable (registry sdid) Anything (checkProvisioning sdid) := by
  unfold checkProvisioning
  infer_instance

instance : Stable (registry sdid) Anything (getActivityReport sdid) := by
  unfold getActivityReport
  infer_instance

instance : Stable (registry sdid) Anything (getConfig sdid) := by
  unfold getConfig
  infer_instance

instance : Stable (registry sdid) Anything (getRunningConf sdid) := by
  unfold getRunningConf
  infer_instance

instance : Stable (registry sdid) Anything (haSwap sdid) := by
  unfold haSwap
  infer_instance

instance (map : Bool) : Stable (registry sdid) Anything (staging sdid map) := by
  unfold staging
  infer_instance

instance : Stable (registry sdid) Anything (provisioning sdid) := by
  unfold provisioning
  infer_instance

instance : Stable (registry sdid) Anything (getRouterIp sdid) := by
  unfold getRouterIp
  infer_instance

instance : Stable (registry sdid) Anything (getRouterFullConfiguration sdid) := by
  unfold getRouterFullConfiguration
  infer_instance

instance : Stable (registry sdid) Anything (getVPNReport sdid) := by
  unfold getVPNReport
  infer_instance

instance (dates : Int × Int) : Stable (registry sdid) Anything (getReportFor sdid dates) := by
  unfold getReportFor
  infer_instance

instance : Stable (registry sdid) Anything (doUpdateConfig sdid) := by
  unfold doUpdateConfig
  infer_instance

instance : Stable (registry sdid) Anything (updateLicense sdid) := by
  unfold updateLicense
  infer_instance

instance (addon : Option CString) : Stable (registry sdid) Anything (smsexecn sdid addon) := by
  unfold smsexecn
  infer_instance

instance (template : PhpGlobal) : Stable (registry sdid) Anything (resolveWith sdid template) := by
  unfold resolveWith
  infer_instance

instance (ip : CString) : Stable (registry sdid) Anything (updateIP sdid ip) := by
  unfold updateIP
  infer_instance

end Lookups

section Intact

set_option synthInstance.maxSize 4000

variable {params : CString}

theorem stable_argument {handler : Handler} (hreading : handler.reading = some .argument) :
    Stable (registry sdid) Anything (handler.run sdid) := by
  cases handler with
  | doGetRouterIp =>
    unfold Handler.run doGetRouterIp
    infer_instance
  | doGetSDConf =>
    unfold Handler.run doGetSDConf
    infer_instance
  | doGetVPNReport =>
    unfold Handler.run doGetVPNReport
    infer_instance
  | doUpdateLicense =>
    unfold Handler.run doUpdateLicense
    infer_instance
  | _ => first | (unfold Handler.run; infer_instance) | cases hreading

/-- A body that looks up the first of its words. -/
theorem stable_withWords {n : ℕ} (hfirst : (params.scanWords (n + 1)).head? = some sdid)
    {enough : ℕ → Bool} {body : List CString → M Int}
    (hbody : ∀ words, word words 0 = sdid → Stable (registry sdid) Anything (body words)) :
    Stable (registry sdid) Anything (withWords params (n + 1) enough body) := by
  have hword : word (params.scanWords (n + 1)) 0 = sdid := by
    unfold word
    rw [List.getD_eq_getElem?_getD, ← List.head?_eq_getElem?, hfirst]
    rfl
  have hwords := hbody _ hword
  unfold withWords
  infer_instance

/-- A body that looks up the first of the words stored by `sscanf`. -/
theorem stable_scanned {α : Type} {n : ℕ} (hfirst : (params.scanWords (n + 1)).head? = some sdid)
    {body : CString → M α} (hbody : Stable (registry sdid) Anything (body sdid)) :
    Stable (registry sdid) Anything (scanned (params.scanWords (n + 1)) 0 >>= body) := by
  have hscanned : scanned (params.scanWords (n + 1)) 0 = pure sdid := by
    unfold scanned
    rw [← List.head?_eq_getElem?, hfirst]
    rfl
  rw [hscanned]
  exact hbody

theorem stable_word (hfirst : ∀ n, (params.scanWords (n + 1)).head? = some sdid) {handler : Handler}
    (hreading : handler.reading = some .word) :
    Stable (registry sdid) Anything (handler.run params) := by
  have hsilently {request : M Int} (hrequest : Stable (registry sdid) Anything request) :
      Stable (registry sdid) Anything (silently request) := inferInstance
  cases handler with
  | doIpDown =>
    apply stable_scanned (hfirst 1)
    infer_instance
  | doResolveTemplate =>
    apply stable_scanned (hfirst 1)
    unfold resolveTemplate
    infer_instance
  | doUpdateFirmware =>
    have hupdate : Stable (registry sdid) Anything (updateFirmware params) := by
      apply stable_withWords (hfirst 2)
      intro words hword
      rw [hword]
      infer_instance
    unfold Handler.run doUpdateFirmware
    infer_instance
  | doCallCommand =>
    apply hsilently
    apply stable_withWords (hfirst 2)
    intro words hword
    unfold callCommandWith
    rw [hword]
    infer_instance
  | doCmd | doBackupConf | doRestoreConf | doCheckSerial =>
    apply hsilently
    apply stable_withWords (hfirst 1)
    intro words hword
    rw [hword]
    infer_instance
  | doPushConfig | doGenTemplate =>
    apply hsilently
    apply stable_withWords (hfirst 3)
    intro words hword
    rw [hword]
    infer_instance
  | doSendDataFiles =>
    apply hsilently
    apply stable_withWords (hfirst 4)
    intro words hword
    rw [hword]
    infer_instance
  | doGetArchiveConf =>
    unfold Handler.run getArchiveConf
    apply stable_withWords (hfirst 1)
    intro words hword
    rw [hword]
    infer_instance
  | doJsSmsAddonExec =>
    unfold Handler.run doJsSmsAddonExec
    apply stable_withWords (hfirst 1)
    intro words hword
    rw [hword]
    infer_instance
  | doUnarchiveConf =>
    unfold Handler.run unarchiveConf
    apply stable_withWords (hfirst 2)
    intro words hword
    rw [hword]
    infer_instance
  | _ => cases hreading

theorem stable_field (hcut : (params.cut ' ').elim params Prod.fst = sdid) :
    Stable (registry sdid) Anything (Handler.doGetReport.run params) := by
  have hreport : Stable (registry sdid) Anything (getReport params) := by
    unfold getReport
    cases hparts : params.cut ' ' with
    | none =>
      rw [hparts, Option.elim_none] at hcut
      rw [Option.elim_none, hcut]
      infer_instance
    | some parts =>
      rw [hparts, Option.elim_some] at hcut
      rw [Option.elim_some, hcut]
      infer_instance
  unfold Handler.run doGetReport
  infer_instance

theorem stable_pair {handler : Handler} (hreading : handler.reading = some .pair)
    (hcut : ∀ parts ∈ params.cut ' ', parts.1 = sdid) :
    Stable (registry sdid) Anything (handler.run params) := by
  have hargument : ∀ argument ∈ splitArgument params, argument.1 = sdid := by
    intro argument hmem
    obtain ⟨parts, hparts, hrest⟩ := Option.bind_eq_some_iff.1 hmem
    split at hrest
    · cases hrest
    · cases hrest
      exact hcut parts hparts
  have hexec (synchronous : Bool) : Stable (registry sdid) Anything (execScript params synchronous) := by
    unfold execScript
    cases hsplit : splitArgument params with
    | none =>
      rw [Option.elim_none]
      infer_instance
    | some argument =>
      rw [Option.elim_some, hargument argument hsplit]
      infer_instance
  cases handler with
  | doSdIpUp =>
    unfold Handler.run doSdIpUp
    cases hparts : params.cut ' ' with
    | none =>
      simp only [Option.elim_none]
      infer_instance
    | some parts =>
      simp only [Option.elim_some]
      rw [hcut parts hparts]
      infer_instance
  | doJsSmsexec =>
    have hsmsexec : Stable (registry sdid) Anything (smsexec params none) := by
      unfold smsexec
      cases hsplit : splitArgument params with
      | none =>
        rw [Option.elim_none]
        infer_instance
      | some argument =>
        rw [Option.elim_some, hargument argument hsplit]
        infer_instance
    unfold Handler.run
    infer_instance
  | doJsAExecScript | doJsExecScript =>
    unfold Handler.run
    infer_instance
  | _ => cases hreading

theorem stable_copy (hcopy : params.strncpy (sdidLen - 1) = sdid) :
    Stable (registry sdid) Anything (Handler.doResolve.run params) := by
  unfold Handler.run doResolve resolveTemplateBuffer
  rw [hcopy]
  infer_instance

end Intact

section Lost

variable {params : CString} {ctx : Ctx}

instance : Lenient (registry sdid) where
  expect _ _ _ := trivial
  next _ _ _ := rfl

theorem reaches_smsexecn (addon : Option CString) : (smsexecn params addon ⟨1, some ctx⟩).Reaches
    (registry sdid) (.sql ctx (.getSdInfo params)) () := by
  apply Procedure.reaches_bind
  apply may_readBody _ _ _ rfl rfl
  intro _ _
  exact Or.inl rfl

theorem reaches_argument {handler : Handler} (hreading : handler.reading = some .argument) :
    (handler.run params ⟨1, some ctx⟩).Reaches (registry sdid) (.sql ctx (.getSdInfo params)) () := by
  cases handler with
  | doGetRouterIp | doGetVPNReport => exact Or.inr ⟨(), trivial, Or.inl rfl⟩
  | doProvisioning => exact Or.inr ⟨⟨-1, []⟩, trivial, Or.inl rfl⟩
  | doJsSmsexecn => exact (reaches_smsexecn none).bind _
  | _ => first | exact Or.inl rfl | cases hreading

theorem reaches_field {looked : CString} (hcut : (params.cut ' ').elim params Prod.fst = looked) :
    (Handler.doGetReport.run params ⟨1, some ctx⟩).Reaches (registry sdid)
      (.sql ctx (.getSdInfo looked)) () := by
  have hreport : (getReport params ⟨1, some ctx⟩).Reaches (registry sdid)
      (.sql ctx (.getSdInfo looked)) () := by
    unfold getReport
    cases hparts : params.cut ' ' with
    | none =>
      rw [hparts, Option.elim_none] at hcut
      rw [Option.elim_none, hcut]
      exact Or.inl rfl
    | some parts =>
      rw [hparts, Option.elim_some] at hcut
      rw [Option.elim_some, hcut]
      exact Or.inl rfl
  apply Procedure.reaches_bind
  apply may_ask (.countUp .totalgetreport) trivial ()
  exact hreport.bind _

theorem reaches_pair {handler : Handler} (hreading : handler.reading = some .pair)
    {parts : CString × CString} (hcut : params.cut ' ' = some parts)
    (hrest : parts.2.dropWhile (· = ' ') ≠ []) :
    (handler.run params ⟨1, some ctx⟩).Reaches (registry sdid) (.sql ctx (.getSdInfo parts.1)) () := by
  have hargument : splitArgument params = some (parts.1, parts.2.dropWhile (· = ' ')) := by
    unfold splitArgument
    rw [hcut, Option.bind_some, if_neg hrest]
  have hexec (synchronous : Bool) : (execScript params synchronous ⟨1, some ctx⟩).Reaches
      (registry sdid) (.sql ctx (.getSdInfo parts.1)) () := by
    unfold execScript
    rw [hargument]
    exact Or.inl rfl
  cases handler with
  | doJsAExecScript | doJsExecScript => exact (hexec _).bind _
  | doJsSmsexec =>
    have hsmsexec : (smsexec params none ⟨1, some ctx⟩).Reaches (registry sdid)
        (.sql ctx (.getSdInfo parts.1)) () := by
      unfold smsexec
      rw [hargument]
      exact Or.inl rfl
    exact hsmsexec.bind _
  | doSdIpUp =>
    have hsome : parts.2 ≠ [] := by
      intro hnil
      rw [hnil] at hrest
      exact hrest rfl
    unfold Handler.run doSdIpUp
    apply Procedure.reaches_bind
    apply may_ask (.countUp .totalpppipup) trivial ()
    apply Procedure.reaches_bind
    apply Procedure.may_get
    apply Procedure.may_bind
    apply may_ask (.socketClose 1) trivial 0
    rw [hcut, Option.elim_some, if_neg hsome]
    exact Or.inl rfl
  | _ => cases hreading

theorem reaches_copy : (Handler.doResolve.run params ⟨1, some ctx⟩).Reaches (registry sdid)
    (.sql ctx (.getSdInfo (params.strncpy (sdidLen - 1)))) () :=
  Or.inl rfl

end Lost

end Registry

section Text

variable {line params sdid rest : CString}

/-- The argument of a request does not end in a blank. -/
theorem isblank_getLast_splitLine (line : CString) :
    ∀ c ∈ (splitLine line).2.getLast?, CString.isblank c = false := by
  intro c hc
  unfold splitLine at hc
  rw [List.getLast?_reverse] at hc
  have hhead := List.head?_dropWhile_not CString.isblank
    ((((line.takeWhile fun c ↦ !(c = '#' || c = '\r' || c = '\n')).dropWhile CString.isblank).dropWhile
      (!CString.isblank ·)).dropWhile CString.isblank).reverse
  rw [Option.mem_def.1 hc] at hhead
  exact hhead

/-- Something follows the first space of an argument. -/
theorem rest_ne_nil_of_cut {parts : CString × CString} (hcut : (splitLine line).2.cut ' ' = some parts) :
    parts.2.dropWhile (· = ' ') ≠ [] := by
  intro hnil
  have hspaces : ∀ c ∈ ' ' :: parts.2, c = ' ' := by
    simpa using hnil
  have hne : ' ' :: parts.2 ≠ [] := List.cons_ne_nil _ _
  have hlast : (splitLine line).2.getLast? = some ((' ' :: parts.2).getLast hne) := by
    rw [eq_append_of_cut hcut, List.getLast?_append_of_ne_nil _ hne, List.getLast?_eq_some_getLast hne]
  have hblank := isblank_getLast_splitLine line _ hlast
  rw [hspaces _ (List.getLast_mem hne)] at hblank
  exact absurd hblank (by decide)

theorem intact_field (hword : IsWord sdid) :
    (CString.cut ' ' (sdid ++ rest)).elim (sdid ++ rest) Prod.fst = sdid ↔
      Reading.field.Intact sdid rest := by
  rw [hword.cut]
  cases hcut : CString.cut ' ' rest with
  | none =>
    have hhead : rest.head? ≠ some ' ' := fun hhead ↦ cut_eq_none.1 hcut (List.mem_of_head? hhead)
    simp [Reading.Intact, hhead]
  | some parts =>
    have hne : rest ≠ [] := by
      rintro rfl
      cases hcut
    simp [Reading.Intact, hne, cut_fst_eq_nil hcut]

theorem intact_pair (hword : IsWord sdid) :
    (∀ parts ∈ CString.cut ' ' (sdid ++ rest), parts.1 = sdid) ↔ Reading.pair.Intact sdid rest := by
  rw [hword.cut]
  cases hcut : CString.cut ' ' rest with
  | none =>
    have hnot := cut_eq_none.1 hcut
    simp [Reading.Intact, hnot]
  | some parts =>
    have hmem : ' ' ∈ rest := by
      rw [eq_append_of_cut hcut]
      simp
    simp [Reading.Intact, hmem, cut_fst_eq_nil hcut]

theorem intact_copy (hlength : sdid.length ≤ sdidLen) :
    CString.strncpy (sdid ++ rest) (sdidLen - 1) = sdid ↔ Reading.copy.Intact sdid rest := by
  have hsize : sdidLen = 11 := rfl
  unfold CString.strncpy Reading.Intact
  rw [List.take_append, hsize]
  constructor
  · intro hcopy
    have hlen := congrArg List.length hcopy
    simp only [List.length_append, List.length_take] at hlen
    refine ⟨by omega, ?_⟩
    by_cases hfull : sdid.length + 1 = 11
    · exact Or.inr hfull
    · have hrest : rest.length = 0 := by omega
      exact Or.inl (List.length_eq_zero_iff.1 hrest)
  · rintro ⟨hshort, hrest⟩
    rw [List.take_of_length_le (by omega)]
    rcases hrest with rfl | hfull
    · simp
    · simp [show 11 - 1 - sdid.length = 0 by omega]

end Text

/-- A request that only looks up the given device. -/
theorem addresses_of_stable {request : M Int} {sdid : CString}
    (hstable : Stable (registry sdid) Registry.Anything request) : Addresses request sdid := by
  intro csp trace final ctx looked next hrun hoffers
  have hmeets := (registry sdid).meets_of_expect (fun _ _ _ ↦ trivial) () trace
  have hfinal := (hrun.safe (hstable.triple csp () trivial) hmeets).2
  exact (hoffers.safe hfinal).1

/-- A device that can be looked up is the given one, if all are. -/
theorem eq_of_reaches {request : M Int} {sdid looked : CString} (haddresses : Addresses request sdid)
    (hreaches : (request ⟨1, some ⟨.sms, 0⟩⟩).Reaches (registry sdid)
      (.sql ⟨.sms, 0⟩ (.getSdInfo looked)) ()) : looked = sdid := by
  obtain ⟨trace, final, next, hrun, -, hoffers⟩ := hreaches.exists_run
  exact haddresses ⟨1, some ⟨.sms, 0⟩⟩ trace final ⟨.sms, 0⟩ looked next hrun hoffers

set_option synthInstance.maxSize 4000 in
/-- The task that updates a device has room for an identifier of any length. -/
theorem addresses_updateTask {sd : SdLike} (hlength : sd.sdid.length ≤ sdidLen) :
    Addresses (updateTask sd) sd.sdid := by
  have hcopy : sd.sdid.strncpy sdidLen = sd.sdid := List.take_of_length_le hlength
  apply addresses_of_stable
  have hfind : Stable (registry sd.sdid) Registry.Anything (lift (findCtx .sms (.keeper .updateTask))) :=
    stable_lift_of_onDatabase (fun _ ↦ Registry.ignores_database) inferInstance
  have hstore (ctx : Option Ctx) : Stable (registry sd.sdid) Registry.Anything (storeDbCtx ctx) :=
    stable_storeDbCtx_of_ignores (fun _ ↦ Registry.ignores_database) (fun _ _ _ _ ↦ trivial) ctx
  unfold updateTask
  simp only [hcopy]
  infer_instance

/-- A request on a device looks up this device exactly if the identifier is sent in the form that its
handler reads. JSRESOLVE copies it into an array that has no room for the last of eleven characters; the
array of the task that updates devices has. -/
theorem device_addressed_iff {handler : Handler} {reading : Reading}
    (hreading : handler.reading = some reading) {line sdid rest : CString}
    (hline : (splitLine line).2 = sdid ++ rest) (hword : IsWord sdid) (hlength : sdid.length ≤ sdidLen)
    (hrest : EndsWord rest) :
    (Addresses (handler.run (splitLine line).2) sdid ↔ reading.Intact sdid rest) ∧
      ∀ sd : SdLike, sd.sdid.length ≤ sdidLen → Addresses (updateTask sd) sd.sdid := by
  apply And.intro _ fun sd ↦ addresses_updateTask
  have hfollows {parts : CString × CString} (hcut : CString.cut ' ' (sdid ++ rest) = some parts) :
      parts.2.dropWhile (· = ' ') ≠ [] := by
    rw [← hline] at hcut
    exact rest_ne_nil_of_cut hcut
  rw [hline]
  cases reading with
  | argument =>
    constructor
    · intro haddresses
      have hlooked := eq_of_reaches haddresses (Registry.reaches_argument hreading)
      exact List.append_right_eq_self.1 hlooked
    · rintro rfl
      rw [List.append_nil]
      exact addresses_of_stable (Registry.stable_argument hreading)
  | word =>
    have hstable := Registry.stable_word (fun n ↦ hword.head_scanWords hrest n) hreading
    exact iff_of_true (addresses_of_stable hstable) trivial
  | field =>
    obtain rfl : handler = .doGetReport := by
      cases handler <;> first | rfl | cases hreading
    rw [← intact_field hword]
    constructor
    · intro haddresses
      exact eq_of_reaches haddresses (Registry.reaches_field rfl)
    · intro hcut
      exact addresses_of_stable (Registry.stable_field hcut)
  | pair =>
    rw [← intact_pair hword]
    constructor
    · intro haddresses parts hcut
      exact eq_of_reaches haddresses (Registry.reaches_pair hreading hcut (hfollows hcut))
    · intro hcut
      exact addresses_of_stable (Registry.stable_pair hreading hcut)
  | copy =>
    obtain rfl : handler = .doResolve := by
      cases handler <;> first | rfl | cases hreading
    rw [← intact_copy hlength]
    constructor
    · intro haddresses
      exact eq_of_reaches haddresses Registry.reaches_copy
    · intro hcopy
      exact addresses_of_stable (Registry.stable_copy hcopy)

/-- The longest identifier in the array of IPDOWN. -/
theorem device_addressed_iff_ipdown :
    (Addresses (Handler.doIpDown.run (splitLine "IPDOWN ABC12345678 10.0.0.1".toList).2)
        "ABC12345678".toList ↔ Reading.word.Intact "ABC12345678".toList " 10.0.0.1".toList) ∧
      ∀ sd : SdLike, sd.sdid.length ≤ sdidLen → Addresses (updateTask sd) sd.sdid :=
  device_addressed_iff rfl (by decide) (by decide) (by decide) (by decide)

/-- The longest identifier in the array of JSRESOLVE. -/
theorem resolve_addresses_another :
    (splitLine "JSRESOLVE ABC12345678".toList).2 = "ABC12345678".toList ∧
      IsWord "ABC12345678".toList ∧ "ABC12345678".toList.length ≤ sdidLen ∧
      ¬Addresses (Handler.doResolve.run (splitLine "JSRESOLVE ABC12345678".toList).2)
        "ABC12345678".toList := by
  refine ⟨by decide, by decide, by decide, fun haddresses ↦ ?_⟩
  have hlooked := eq_of_reaches haddresses Registry.reaches_copy
  revert hlooked
  decide

end CoreEngine.Smsd
