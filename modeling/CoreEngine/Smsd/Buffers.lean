import CoreEngine.Smsd.Passage
import CoreEngine.Smsd.Words

/-!
# Arrays on the stack

The handlers copy the words of a request into local arrays with `sscanf`, which does not know their
sizes, and compose names in such arrays with `sprintf`. What fits is decided by the length of the line
that `serve` reads.
-/

namespace CoreEngine.Smsd

open Interaction
open Procedure (lift)

section Line

/-- The argument is what is left of the line after its word and at least one blank. -/
theorem length_splitLine {line : CString} (harg : (splitLine line).2 ≠ []) :
    (splitLine line).1.length + 1 + (splitLine line).2.length ≤ line.length := by
  unfold splitLine at harg ⊢
  generalize hcut : (line.takeWhile fun c ↦ !(c = '#' || c = '\r' || c = '\n')).dropWhile
    CString.isblank = text at harg ⊢
  have hline : text.length ≤ line.length := by
    rw [← hcut]
    calc
      _ ≤ (line.takeWhile fun c ↦ !(c = '#' || c = '\r' || c = '\n')).length :=
        List.length_dropWhile_le _ _
      _ ≤ line.length := (List.takeWhile_prefix _).length_le
  have htext : (text.takeWhile (!CString.isblank ·)).length +
      (text.dropWhile (!CString.isblank ·)).length = text.length := by
    rw [← List.length_append, List.takeWhile_append_dropWhile]
  simp only [List.length_reverse]
  cases hrest : text.dropWhile (!CString.isblank ·) with
  | nil => simp [hrest] at harg
  | cons c rest =>
    have hblank : CString.isblank c = true := by
      have hhead := List.head?_dropWhile_not (fun c ↦ !CString.isblank c) text
      simpa [hrest] using hhead
    rw [List.dropWhile_cons_of_pos hblank]
    have htrim := List.length_dropWhile_le CString.isblank (rest.dropWhile CString.isblank).reverse
    have hskip := List.length_dropWhile_le CString.isblank rest
    rw [hrest, List.length_cons] at htext
    rw [List.length_reverse] at htrim
    omega

theorem length_argument_le (line : CString) : (splitLine line).2.length ≤ line.length := by
  by_cases harg : (splitLine line).2 = []
  · simp [harg]
  · have hlength := length_splitLine harg
    omega

end Line

section Scans

/-- A call of `sscanf` for words: its input, and the sizes of the arrays that the words go to. -/
structure Scan where
  text : CString
  sizes : List ℕ
  deriving DecidableEq, Repr

namespace Scan

/-- The words that are stored, one into each array until there are no more. -/
def stored (scan : Scan) : List CString := scan.text.scanWords scan.sizes.length

/-- Every word that is stored is shorter than its array, so that its terminator fits too. -/
def Fits (scan : Scan) : Prop := ∀ store ∈ scan.stored.zip scan.sizes, store.1.length < store.2

instance (scan : Scan) : Decidable scan.Fits := inferInstanceAs (Decidable (∀ _ ∈ _, _))

/-- A scan of the parameters into `n` arrays of `BUFSIZ` characters. -/
def ofParams (params : CString) (n : ℕ) : Scan := ⟨params, List.replicate n CString.bufsiz⟩

/-- The same after the test `strlen(params) >= BUFSIZ`. -/
def guarded (params : CString) (n : ℕ) : Option Scan :=
  if params.length ≥ CString.bufsiz then none else some (ofParams params n)

end Scan

/-- The scan that a handler makes: of its parameters, or of the line it reads. -/
def Handler.scan (params : CString) (line : ReadLine) : Handler → Option Scan
  | .doIpDown => some ⟨params, [64, 64]⟩
  | .doProvisioning => if line.ret > 0 then some ⟨line.buf, [256, 256, 256, 256]⟩ else none
  | .doCheckCmd | .doSetConfigMode | .doResolveTemplate => some (.ofParams params 2)
  | .doJsSmsAddonExec | .doBackupConf | .doRestoreConf | .doCmd | .doCustCmd | .doGetArchiveConf
  | .doCheckSerial => Scan.guarded params 2
  | .doUpdateFirmware | .doUnarchiveConf | .doCallCommand => Scan.guarded params 3
  | .doPushConfig | .doGenTemplate => Scan.guarded params 4
  | .doSendDataFiles => Scan.guarded params 5
  | _ => none

/-- What a request of the handler stores fits. -/
def ScansFit (handler : Handler) (line : CString) (body : ReadLine) : Prop :=
  ∀ scan ∈ handler.scan (splitLine line).2 body, scan.Fits

section Connection

variable {params params' : CString} {scan scan' : Scan} {n : ℕ}

theorem Scan.stored_of_guarded (hscan : Scan.guarded params n = some scan) :
    params.length < CString.bufsiz ∧ scan.stored = params.scanWords n := by
  unfold Scan.guarded at hscan
  split at hscan
  · cases hscan
  · rename_i hlength
    cases hscan
    refine ⟨by omega, ?_⟩
    simp [Scan.stored, Scan.ofParams]

theorem withWords_eq_of_scan {enough : ℕ → Bool} {body : List CString → M Int}
    (hscan : Scan.guarded params n = some scan) (hscan' : Scan.guarded params' n = some scan')
    (hwords : scan.stored = scan'.stored) :
    withWords params n enough body = withWords params' n enough body := by
  obtain ⟨hlength, hstored⟩ := Scan.stored_of_guarded hscan
  obtain ⟨hlength', hstored'⟩ := Scan.stored_of_guarded hscan'
  unfold withWords
  rw [if_neg (Nat.not_le.2 hlength), if_neg (Nat.not_le.2 hlength'), ← hstored, ← hstored', hwords]

/-- What a handler does with its parameters depends only on the words that its scan has stored. -/
theorem run_eq_of_scan {handler : Handler} {line : ReadLine}
    (hparams : handler ∉ [.doProvisioning, .doUpdateFirmware])
    (hscan : handler.scan params line = some scan) (hscan' : handler.scan params' line = some scan')
    (hwords : scan.stored = scan'.stored) : handler.run params = handler.run params' := by
  have hsilently {n : ℕ} {enough : ℕ → Bool} {body : List CString → M Int}
      (hguarded : Scan.guarded params n = some scan) (hguarded' : Scan.guarded params' n = some scan') :
      silently (withWords params n enough body) = silently (withWords params' n enough body) :=
    congrArg silently (withWords_eq_of_scan hguarded hguarded' hwords)
  cases handler with
  | doProvisioning => exact absurd (by decide) hparams
  | doUpdateFirmware => exact absurd (by decide) hparams
  | doJsSmsAddonExec =>
    unfold Handler.run doJsSmsAddonExec
    exact withWords_eq_of_scan hscan hscan' hwords
  | doUnarchiveConf =>
    unfold Handler.run unarchiveConf
    exact withWords_eq_of_scan hscan hscan' hwords
  | doGetArchiveConf =>
    unfold Handler.run getArchiveConf
    exact withWords_eq_of_scan hscan hscan' hwords
  | doIpDown =>
    cases hscan
    cases hscan'
    have htwo : params.scanWords 2 = params'.scanWords 2 := hwords
    simp only [Handler.run, doIpDown, htwo]
  | doCheckCmd =>
    cases hscan
    cases hscan'
    have htwo : params.scanWords 2 = params'.scanWords 2 := hwords
    simp only [Handler.run, doCheckCmd, htwo]
  | doSetConfigMode =>
    cases hscan
    cases hscan'
    have htwo : params.scanWords 2 = params'.scanWords 2 := hwords
    simp only [Handler.run, doSetConfigMode, htwo]
  | doResolveTemplate =>
    cases hscan
    cases hscan'
    have htwo : params.scanWords 2 = params'.scanWords 2 := hwords
    simp only [Handler.run, doResolveTemplate, htwo]
  | _ => first | cases hscan | exact hsilently hscan hscan'

/-- The handler of JSAUPDATEFIRMWARE needs its parameters once more for the asset; the update itself depends on
the words only. -/
theorem updateFirmware_eq_of_scan {line : ReadLine}
    (hscan : Handler.doUpdateFirmware.scan params line = some scan)
    (hscan' : Handler.doUpdateFirmware.scan params' line = some scan') (hwords : scan.stored = scan'.stored) :
    Handler.doUpdateFirmware.run params =
      thenForceAsset .doUpdateFirmware params (updateFirmware params') := by
  have hupdate : updateFirmware params = updateFirmware params' := withWords_eq_of_scan hscan hscan' hwords
  unfold Handler.run doUpdateFirmware
  rw [hupdate]

/-- The line that `provisioning` reads is what it scans. -/
theorem provisioning_eq (sdid : CString) : provisioning sdid = (do
    let line ← socketReadLine CString.bufsiz 2
    let words := (Handler.doProvisioning.scan sdid line).elim [] Scan.stored
    withSDinfo sdid [] fun info ↦
      genericInitialProvisioning info (orRecord (word words 0) info.sd.sdIpConfig)
        (orRecord (word words 1) info.sd.sdLoginEntry) (orRecord (word words 2) info.sd.sdPasswdEntry)
        (orRecord (word words 3) info.sd.sdPasswdAdm)) := by
  unfold provisioning
  congr
  funext line
  by_cases hret : line.ret > 0
  · simp only [Handler.scan, if_pos hret]
    rfl
  · simp only [Handler.scan, if_neg hret]
    rfl

end Connection

theorem Scan.fits_ofParams {params : CString} (hlength : params.length < CString.bufsiz) (n : ℕ) :
    (Scan.ofParams params n).Fits := by
  rintro ⟨word, size⟩ hstore
  have hword := length_le_of_mem_scanWords (List.of_mem_zip hstore).1
  have hsize := List.eq_of_mem_replicate (List.of_mem_zip hstore).2
  simp only [Scan.ofParams] at hword hsize ⊢
  omega

/-- A scan into arrays of one size fits exactly if every word that is stored is shorter. -/
theorem Scan.fits_replicate {text : CString} {n size : ℕ} :
    (Scan.mk text (List.replicate n size)).Fits ↔ ∀ word ∈ (words text).take n, word.length < size := by
  have hwords : (Scan.mk text (List.replicate n size)).stored = (words text).take n := by
    rw [← scanWords_eq_take]
    simp [Scan.stored]
  unfold Scan.Fits
  rw [hwords]
  constructor
  · intro hfits word hword
    obtain ⟨i, hi, rfl⟩ := List.getElem_of_mem hword
    have hin : i < n := by
      rw [List.length_take] at hi
      omega
    apply hfits (_, size)
    rw [List.mem_iff_getElem]
    refine ⟨i, ?_, ?_⟩
    · simp only [List.length_zip, List.length_replicate]
      omega
    · simp
  · rintro hfits ⟨word, size'⟩ hstore
    have hsize := List.eq_of_mem_replicate (List.of_mem_zip hstore).2
    rw [hsize]
    exact hfits word (List.of_mem_zip hstore).1

/-- Every word of a request fits into its array, but for those of IPDOWN that have 64 characters or
more, and those that are sent for a provisioning and have 256 or more. -/
theorem scans_fit_iff (handler : Handler) {line : CString} (hline : line.length < CString.bufsiz)
    (body : ReadLine) :
    ScansFit handler line body ↔
      (handler = .doIpDown → ∀ word ∈ (words (splitLine line).2).take 2, word.length < 64) ∧
      (handler = .doProvisioning → 0 < body.ret → ∀ word ∈ (words body.buf).take 4, word.length < 256) := by
  have hparams : (splitLine line).2.length < CString.bufsiz :=
    Nat.lt_of_le_of_lt (length_argument_le line) hline
  have hguarded (n : ℕ) : ∀ scan ∈ Scan.guarded (splitLine line).2 n, scan.Fits := by
    intro scan hscan
    unfold Scan.guarded at hscan
    rw [if_neg (Nat.not_le.2 hparams)] at hscan
    cases hscan
    exact Scan.fits_ofParams hparams n
  have hdirect (n : ℕ) : ∀ scan ∈ some (Scan.ofParams (splitLine line).2 n), scan.Fits := by
    intro scan hscan
    cases hscan
    exact Scan.fits_ofParams hparams n
  have hnone : ∀ scan ∈ (none : Option Scan), scan.Fits := nofun
  cases handler with
  | doIpDown =>
    have hfits : (Scan.mk (splitLine line).2 (List.replicate 2 64)).Fits ↔ _ := Scan.fits_replicate
    simpa [ScansFit, Handler.scan] using hfits
  | doProvisioning =>
    have hfits : (Scan.mk body.buf (List.replicate 4 256)).Fits ↔ _ := Scan.fits_replicate
    by_cases hret : 0 < body.ret
    · simpa [ScansFit, Handler.scan, hret] using hfits
    · simp [ScansFit, Handler.scan, hret]
  | _ =>
    simp only [reduceCtorEq, false_implies, and_self, iff_true]
    first
      | exact hnone
      | exact hguarded _
      | exact hdirect _

theorem scans_fit_iff_jsarestoreconf :
    ScansFit .doRestoreConf "JSARESTORECONF ABC123 7".toList ⟨-1, []⟩ ↔
      (Handler.doRestoreConf = .doIpDown →
        ∀ word ∈ (words (splitLine "JSARESTORECONF ABC123 7".toList).2).take 2, word.length < 64) ∧
      (Handler.doRestoreConf = .doProvisioning → (0 : Int) < -1 →
        ∀ word ∈ (words []).take 4, word.length < 256) :=
  scans_fit_iff .doRestoreConf (by decide) ⟨-1, []⟩

/-- An identifier of 64 characters for IPDOWN, and an address of 256 characters for PROVISIONING. -/
theorem scan_overruns :
    ¬ScansFit .doIpDown ("IPDOWN ".toList ++ List.replicate 64 'A' ++ " 1.2.3.4".toList) ⟨-1, []⟩ ∧
      ¬ScansFit .doProvisioning "PROVISIONING ABC123".toList ⟨256, List.replicate 256 '1'⟩ := by
  constructor
  · intro hfits
    exact absurd (hfits _ rfl) (by decide +kernel)
  · intro hfits
    exact absurd (hfits _ rfl) (by decide +kernel)

end Scans

section Composed

/-- `sprintf(msg, "RESTORE (revision: %s)", revisionId)`. -/
def restoreMsg (revisionId : CString) : CString :=
  "RESTORE (revision: ".toList ++ revisionId ++ ")".toList

theorem restoreConf_eq (params : CString) : restoreConf params =
    withWords params 2 (· = 2) fun words ↦
      withSDinfo (word words 0) "Cannot get sd info".toList fun info ↦
        genericRestoreConf info (word words 1) (restoreMsg (word words 1)) := rfl

/-- `sprintf(event, "CHECKCMD %s", cmd)`, the event under which CHECKCMD is logged. -/
def checkCmdEvent (cmd : CString) : CString := "CHECKCMD ".toList ++ cmd

/-- The strings that a handler composes. The array `cmd` of CHECKCMD keeps what it held before when
there is no command. -/
def Handler.composed (params leftover : CString) : Handler → List CString
  | .doRestoreConf =>
      if acceptsWords params 2 (· = 2) then [restoreMsg (word (params.scanWords 2) 1)] else []
  | .doCmd =>
      if acceptsWords params 2 (1 ≤ ·) then [commandFile "do_cmd_" (word (params.scanWords 2) 1)] else []
  | .doCustCmd =>
      if acceptsWords params 2 (1 ≤ ·) then [commandFile "do_cust_cmd_" (word (params.scanWords 2) 1)]
      else []
  | .doCheckCmd =>
      if params.scanWords 2 = [] then [] else [checkCmdEvent ((params.scanWords 2)[1]?.getD leftover)]
  | _ => []

section Names

variable {params leftover file : CString}

/-- The name that `sms_cmd` composes is the file of its script. -/
theorem smsCmd_eq (hfile : Handler.doCmd.composed params leftover = [file]) : smsCmd params = (do
    let optionalParams ← readBody CString.bufsiz 2 (0 < ·) "\r\n".toList
    let globals := [str "cmd" (word (params.scanWords 2) 1), .str "optional_params".toList optionalParams, .csp]
    if word (params.scanWords 2) 0 ≠ "NONE".toList then
      withSDinfo (word (params.scanWords 2) 0) [] fun info ↦
        runScript ⟨info.sdid, info.routerPath, file, globals ++ [.sdInfo info]⟩ (replyFailureAndUnlock info)
    else runScript ⟨"debug".toList, "smsd".toList, file, globals⟩ replyFailure) := by
  simp only [Handler.composed] at hfile
  split at hfile
  · obtain rfl := List.singleton_inj.1 hfile
    unfold smsCmd
    rw [withWords_of_accepted ‹_›]
    rfl
  · cases hfile

/-- The name that `sms_cust_cmd` composes is the file of its script. -/
theorem smsCustCmd_eq (hfile : Handler.doCustCmd.composed params leftover = [file]) : smsCustCmd params = (do
    let optionalParams ← readBody CString.bufsiz 2 (0 < ·) "\r\n".toList
    let custInfo ← getCustInfo (word (params.scanWords 2) 0)
    if custInfo.ret ≠ 0 then do
      smsSendUserError (some []) custInfo.ret
      pure custInfo.ret
    else runScript ⟨custInfo.output.custid, "smsd".toList, file,
      [str "cmd" (word (params.scanWords 2) 1), .str "optional_params".toList optionalParams, .csp,
        .custInfo custInfo.output]⟩ replyFailure) := by
  simp only [Handler.composed] at hfile
  split at hfile
  · obtain rfl := List.singleton_inj.1 hfile
    unfold smsCustCmd
    rw [withWords_of_accepted ‹_›]
    rfl
  · cases hfile

/-- What CHECKCMD puts behind its name is the type of the status it looks up: the second word, or what the array
held before. -/
theorem doCheckCmd_eq (hwords : params.scanWords 2 ≠ []) : doCheckCmd params = (do
      let cmd ← ((params.scanWords 2)[1]?.map pure).getD (lift (ask .uninitialised))
      checkStatus (word (params.scanWords 2) 0) cmd) ∧
    Handler.doCheckCmd.composed params leftover =
      [checkCmdEvent ((params.scanWords 2)[1]?.getD leftover)] := by
  constructor
  · unfold doCheckCmd
    rw [if_neg hwords]
    unfold scanned
    cases (params.scanWords 2)[1]? <;> rfl
  · simp only [Handler.composed]
    rw [if_neg hwords]

end Names

/-- What a request of the handler composes fits into `BUFSIZ` characters, terminator included, whatever
string its arrays held before. -/
def ComposedFit (handler : Handler) (line : CString) : Prop :=
  ∀ leftover : CString, leftover.length < CString.bufsiz →
    ∀ text ∈ handler.composed (splitLine line).2 leftover, text.length < CString.bufsiz

theorem length_commandFile (stem : String) (cmd : CString) :
    (commandFile stem cmd).length = stem.toList.length + cmd.length + 4 := by
  simp only [commandFile, CString.tolower, List.length_map, List.length_append]
  rfl

theorem length_restoreMsg (revisionId : CString) : (restoreMsg revisionId).length = revisionId.length + 20 := by
  have hhead : "RESTORE (revision: ".toList.length = 19 := by decide
  have htail : ")".toList.length = 1 := by decide
  unfold restoreMsg
  rw [List.length_append, List.length_append, hhead, htail]
  omega

theorem length_checkCmdEvent (cmd : CString) : (checkCmdEvent cmd).length = cmd.length + 9 := by
  have hhead : "CHECKCMD ".toList.length = 9 := by decide
  unfold checkCmdEvent
  rw [List.length_append, hhead]
  omega

/-- Handlers that compose a string have a single verb each. -/
theorem verb_of_composed (va : VerbAction) (hva : va ∈ verbTab) :
    (va.doVerb = .doRestoreConf → va.verb.length = 14) ∧ (va.doVerb = .doCmd → va.verb.length = 6) ∧
      (va.doVerb = .doCustCmd → va.verb.length = 10) ∧ (va.doVerb = .doCheckCmd → va.verb.length = 8) := by
  revert va
  decide

section Margins

variable {line : CString} {va : VerbAction}
  (hverb : (verbTab.find? fun va ↦ va.verb = CString.toupper (splitLine line).1) = some va)

include hverb

theorem length_verb : va.verb.length = (splitLine line).1.length := by
  have hname := List.find?_some hverb
  simp only [decide_eq_true_eq] at hname
  rw [hname, CString.toupper, List.length_map]

/-- The second word of a request, after the verb, a blank, the identifier and a blank. -/
theorem length_second_word {id second : CString} (hscan : (splitLine line).2.scanWords 2 = [id, second]) :
    va.verb.length + 1 + id.length + 1 + second.length ≤ line.length := by
  have hpair := length_of_scanWords_pair hscan
  have harg : (splitLine line).2 ≠ [] := by
    intro hnil
    rw [hnil] at hscan
    cases hscan
  have hline := length_splitLine harg
  rw [length_verb hverb]
  omega

/-- The second word of a request whose identifier has at least four characters, or the empty one. -/
theorem length_word_one (hid : 4 ≤ (word ((splitLine line).2.scanWords 2) 0).length) :
    word ((splitLine line).2.scanWords 2) 1 = [] ∨
      va.verb.length + 6 + (word ((splitLine line).2.scanWords 2) 1).length ≤ line.length := by
  have htwo : ((splitLine line).2.scanWords 2).length ≤ 2 := by
    rw [scanWords_eq_take]
    exact List.length_take_le 2 _
  match hscan : (splitLine line).2.scanWords 2 with
  | [] => exact Or.inl rfl
  | [id] => exact Or.inl rfl
  | [id, second] =>
    right
    have hlength := length_second_word hverb hscan
    rw [hscan] at hid
    simp only [word, List.getD_cons_zero, List.getD_cons_succ] at hid ⊢
    omega
  | _ :: _ :: _ :: _ =>
    rw [hscan] at htwo
    simp at htwo

end Margins

variable {line : CString} {va : VerbAction}

/-- What is left over in the array of CHECKCMD need not fit behind the name of the verb. -/
theorem not_composedFit_of_leftover (hone : ((splitLine line).2.scanWords 2).length = 1) :
    ¬ComposedFit .doCheckCmd line := by
  intro hfits
  obtain ⟨id, hscan⟩ := List.length_eq_one_iff.1 hone
  have hcomposed (leftover : CString) :
      checkCmdEvent leftover ∈ Handler.doCheckCmd.composed (splitLine line).2 leftover := by
    simp [Handler.composed, hscan]
  have hroom : (List.replicate 8191 'x').length < CString.bufsiz := by
    rw [List.length_replicate]
    decide
  have hlong := hfits (List.replicate 8191 'x') hroom _ (hcomposed _)
  rw [length_checkCmdEvent, List.length_replicate] at hlong
  exact absurd hlong (by decide)

/-- What is composed from the arguments of a request fits, to the last character; only CHECKCMD composes
a string of something else, when the command is missing. -/
theorem composed_fit_iff
    (hverb : (verbTab.find? fun va ↦ va.verb = CString.toupper (splitLine line).1) = some va)
    (hline : line.length < CString.bufsiz)
    (hid : 4 ≤ (word ((splitLine line).2.scanWords 2) 0).length) :
    ComposedFit va.doVerb line ↔
      ¬(va.doVerb = .doCheckCmd ∧ ((splitLine line).2.scanWords 2).length = 1) := by
  have hbufsiz : CString.bufsiz = 8192 := rfl
  have hsecond := length_word_one hverb hid
  obtain ⟨hrestore, hcmd, hcust, hcheck⟩ := verb_of_composed va (List.mem_of_find?_eq_some hverb)
  constructor
  · rintro hfits ⟨hhandler, hone⟩
    rw [hhandler] at hfits
    exact not_composedFit_of_leftover hone hfits
  · intro hpresent leftover _ text htext
    -- a format may add as many characters as the verb, the identifier and two blanks take
    have hroom (added : ℕ) (hadded : added ≤ va.verb.length + 6) (hsmall : added < 8192) :
        (word ((splitLine line).2.scanWords 2) 1).length + added < CString.bufsiz := by
      rcases hsecond with hempty | hlength
      · rw [hempty, List.length_nil]
        omega
      · omega
    cases hhandler : va.doVerb with
    | doRestoreConf =>
      have hname := hrestore hhandler
      rw [hhandler] at htext
      simp only [Handler.composed] at htext
      split at htext
      · rw [List.mem_singleton.1 htext, length_restoreMsg]
        exact hroom 20 (by omega) (by decide)
      · cases htext
    | doCmd =>
      have hname := hcmd hhandler
      have hstem : "do_cmd_".toList.length = 7 := by decide
      rw [hhandler] at htext
      simp only [Handler.composed] at htext
      split at htext
      · have hfits := hroom 11 (by omega) (by decide)
        rw [List.mem_singleton.1 htext, length_commandFile, hstem]
        omega
      · cases htext
    | doCustCmd =>
      have hname := hcust hhandler
      have hstem : "do_cust_cmd_".toList.length = 12 := by decide
      rw [hhandler] at htext
      simp only [Handler.composed] at htext
      split at htext
      · have hfits := hroom 16 (by omega) (by decide)
        rw [List.mem_singleton.1 htext, length_commandFile, hstem]
        omega
      · cases htext
    | doCheckCmd =>
      have hname := hcheck hhandler
      have hfits := hroom 9 (by omega) (by decide)
      rw [hhandler] at htext hpresent
      match hscan : (splitLine line).2.scanWords 2 with
      | [] => simp [Handler.composed, hscan] at htext
      | [id] => exact absurd ⟨rfl, by rw [hscan]; rfl⟩ hpresent
      | id :: second :: rest =>
        rw [hscan] at hfits
        simp only [Handler.composed, hscan] at htext
        rw [List.mem_singleton.1 htext, length_checkCmdEvent]
        exact hfits
    | _ =>
      rw [hhandler] at htext
      cases htext

theorem composed_fit_iff_jsarestoreconf :
    ComposedFit .doRestoreConf "JSARESTORECONF ABC1 7".toList ↔
      ¬(Handler.doRestoreConf = .doCheckCmd ∧
        ((splitLine "JSARESTORECONF ABC1 7".toList).2.scanWords 2).length = 1) := by
  have hverb : (verbTab.find? fun va ↦
      va.verb = CString.toupper (splitLine "JSARESTORECONF ABC1 7".toList).1) =
        some (verbAction "JSARESTORECONF" .doRestoreConf
          "Asynchronous configuration restore (Param: SDid SVNrevisionId" 1) := by
    decide +kernel
  exact composed_fit_iff hverb (by decide) (by decide +kernel)

/-- CHECKCMD without a command. -/
theorem leftover_overruns : ¬ComposedFit .doCheckCmd "CHECKCMD ABC123".toList :=
  not_composedFit_of_leftover (by decide +kernel)

end Composed

end CoreEngine.Smsd
