import CoreEngine.Smsd.BodyLines

/-!
# Whole bodies

Four handlers take an empty line for the end of the body, two the end of the stream. The latter always get all
that was sent. The former lose what comes after a line that fills its last piece, because the piece behind it
is empty.
-/

namespace CoreEngine.Smsd

open Interaction
open Procedure (lift Stable Triple triple_bind triple_ite triple_pure triple_loop may_bind may_pure may_call may_get
  may_ite_pos may_ite_neg may_loop_of_variant reaches_bind reaches_ite_pos reaches_ite_neg)
open Program (Run)
open Text (nextPiece terminator joinLines joinUntilEmpty)

/-- The line ends that handlers put back. -/
abbrev crlf : CString := "\r\n".toList

section UntilEmpty

/-- The handlers that read up to an empty line, with their arguments. -/
inductive BodyReader
  | smsCmd (params : CString)
  | smsCustCmd (params : CString)
  | smsexecn (sdid : CString) (addon : Option CString)
  | callCommand (params : CString)

namespace BodyReader

def handler : BodyReader → M Int
  | .smsCmd params => CoreEngine.Smsd.smsCmd params
  | .smsCustCmd params => CoreEngine.Smsd.smsCustCmd params
  | .smsexecn sdid addon => CoreEngine.Smsd.smsexecn sdid addon
  | .callCommand params => CoreEngine.Smsd.callCommand params

/-- The parameters are not refused. -/
def Accepts : BodyReader → Prop
  | .smsCmd params => acceptsWords params 2 (1 ≤ ·)
  | .smsCustCmd params => acceptsWords params 2 (1 ≤ ·)
  | .smsexecn _ _ => True
  | .callCommand params => acceptsWords params 3 (· = 3)

/-- The result of the loop over the lines. -/
def Body : BodyReader → Type
  | .callCommand _ => Int ⊕ CString
  | _ => Option CString

/-- The loop over the lines. -/
def gather : (reader : BodyReader) → M reader.Body
  | .smsCmd _ => readBody CString.bufsiz 2 (0 < ·) crlf
  | .smsCustCmd _ => readBody CString.bufsiz 2 (0 < ·) crlf
  | .smsexecn _ _ => readBody (CString.bufsiz + 1) 3 (0 < ·) crlf
  | .callCommand _ => readCommandParams

/-- What the handler does with the body. -/
def use : (reader : BodyReader) → reader.Body → M Int
  | .smsCmd params => fun optionalParams ↦
      if word (params.scanWords 2) 0 ≠ "NONE".toList then
        withSDinfo (word (params.scanWords 2) 0) [] fun info ↦
          genericSmsCmd info (word (params.scanWords 2) 1) optionalParams
      else genericSmsdCmd (word (params.scanWords 2) 1) optionalParams
  | .smsCustCmd params => fun optionalParams ↦ do
      let custInfo ← getCustInfo (word (params.scanWords 2) 0)
      if custInfo.ret ≠ 0 then do
        smsSendUserError (some []) custInfo.ret
        pure custInfo.ret
      else genericSmsCustCmd custInfo.output (word (params.scanWords 2) 1) optionalParams
  | .smsexecn sdid addon => fun commands ↦ do
      let info ← getSDinfo sdid
      if info.ret ≠ 0 then replyAnyFailure info.ret else do
        releaseBdCtx
        commands.elim (lift nullBody) fun commands ↦ do
          let ret ← execCommands info.output addon (splitCommands [] commands)
          replyAnyFailure ret
  | .callCommand params => fun buf ↦ buf.elim replyAnyFailure (callCommandWith (params.scanWords 3))

/-- The characters of a body. -/
def text : (reader : BodyReader) → reader.Body → Option CString
  | .smsCmd _ => fun body : Option CString ↦ some (body.getD [])
  | .smsCustCmd _ => fun body : Option CString ↦ some (body.getD [])
  | .smsexecn _ _ => fun body : Option CString ↦ some (body.getD [])
  | .callCommand _ => fun body : Int ⊕ CString ↦ body.getRight?

/-- The size of the buffer for a piece. -/
def size : BodyReader → ℕ
  | .smsCmd _ => CString.bufsiz
  | .smsCustCmd _ => CString.bufsiz
  | .smsexecn _ _ => CString.bufsiz + 1
  | .callCommand _ => CString.bufsiz * 8

/-- What is put back after a line. -/
def eol : BodyReader → CString
  | .callCommand _ => "\n".toList
  | _ => crlf

/-- What the empty line leaves in the body. -/
def last : BodyReader → CString
  | .callCommand _ => "\n".toList
  | _ => []

/-- All lines, and what the empty line leaves. -/
def whole (reader : BodyReader) (lines : List CString) : CString := joinLines reader.eol lines ++ reader.last

/-- An accepted request gathers the body, and uses it. -/
theorem handler_eq {reader : BodyReader} (haccepts : reader.Accepts) :
    reader.handler = reader.gather >>= reader.use := by
  cases reader with
  | smsCmd params =>
    show CoreEngine.Smsd.smsCmd params = _
    unfold CoreEngine.Smsd.smsCmd
    rw [withWords_of_accepted haccepts]
    rfl
  | smsCustCmd params =>
    show CoreEngine.Smsd.smsCustCmd params = _
    unfold CoreEngine.Smsd.smsCustCmd
    rw [withWords_of_accepted haccepts]
    rfl
  | smsexecn sdid addon => rfl
  | callCommand params =>
    show CoreEngine.Smsd.callCommand params = _
    unfold CoreEngine.Smsd.callCommand
    rw [withWords_of_accepted haccepts]
    rfl

/-- Whatever comes after the empty line, there are runs that gather the body, and each of them ends with the
whole of it. -/
def DeliversWhole (reader : BodyReader) (lines rest : List CString) : Prop :=
  ∀ csp, (∃ trace result, Run (reader.gather csp) trace (.ret result) ∧
      (sender fun _ ↦ True).Meets (lines ++ [] :: rest) trace) ∧
    ∀ trace result, Run (reader.gather csp) trace (.ret result) →
      (sender fun _ ↦ True).Meets (lines ++ [] :: rest) trace →
      reader.text result.1 = some (reader.whole lines)

section CommandParams

/-- What `call_command` makes of the lines to come. -/
abbrev commandParams (lines : List CString) : CString :=
  joinUntilEmpty (CString.bufsiz * 8 - 1) "\n".toList "\n".toList lines

/-- What is in the buffer, and what the lines to come will add. -/
def Filling (start : List CString) (buf : CString) (_csp : Client) (lines : List CString) : Prop :=
  [] ∈ lines ∧ buf ++ commandParams lines = commandParams start

/-- The buffer after a piece. -/
def filled (buf : CString) (line : ReadLine) : CString :=
  buf ++ line.buf ++ if line.ret = CString.bufsiz * 8 - 1 then [] else "\n".toList

theorem filled_piece (buf piece : CString) :
    filled buf ⟨piece.length, piece⟩ = buf ++ piece ++ terminator (CString.bufsiz * 8 - 1) "\n".toList piece := by
  have hadded : (if ((⟨piece.length, piece⟩ : ReadLine).ret : Int) = (CString.bufsiz * 8 : ℕ) - 1 then []
      else "\n".toList) = terminator (CString.bufsiz * 8 - 1) "\n".toList piece := added_eq (by decide) piece
  rw [← hadded]
  rfl

/-- One piece of the parameters: the one of the empty line completes them. -/
theorem filling_piece {start : List CString} {buf : CString} {csp : Client} {lines : List CString} {line : ReadLine}
    (hfilling : Filling start buf csp lines) (hline : Delivers (CString.bufsiz * 8) lines line) :
    0 ≤ line.ret ∧ if line.buf = [] then filled buf line = commandParams start
      else Filling start (filled buf line) csp (nextPiece (CString.bufsiz * 8 - 1) lines).2 := by
  obtain ⟨hnil, hbuf⟩ := hfilling
  cases lines with
  | nil => cases hnil
  | cons first lines =>
    obtain rfl : line = ⟨_, _⟩ := hline
    refine ⟨Int.natCast_nonneg _, ?_⟩
    rw [filled_piece]
    by_cases hfirst : first = []
    · have hpiece : nextPiece (CString.bufsiz * 8 - 1) (first :: lines) = ([], lines) := by
        rw [hfirst]
        exact Text.nextPiece_of_lt (by decide) lines
      rw [hpiece, if_pos rfl, ← hbuf, hfirst, commandParams, Text.joinUntilEmpty_nil, List.append_nil]
      rfl
    · have hpiece : (nextPiece (CString.bufsiz * 8 - 1) (first :: lines)).1 ≠ [] :=
        fun hempty ↦ hfirst ((Text.nextPiece_eq_nil_iff (by decide) first lines).1 hempty)
      rw [if_neg hpiece]
      refine ⟨Text.nil_mem_nextPiece hfirst hnil, ?_⟩
      rw [← hbuf, commandParams, commandParams, Text.joinUntilEmpty_nextPiece hfirst]
      simp only [List.append_assoc]

/-- The loop of `call_command` stops at the piece of the empty line, which it keeps. -/
theorem triple_readCommandParams (start : List CString) :
    Triple (sender fun _ ↦ True) (Filling start []) readCommandParams fun buf _ _ ↦
      buf = .inr (commandParams start) := by
  apply triple_loop (Filling start)
  intro buf
  have hread : Triple (sender fun _ ↦ True) (Filling start buf)
      (socketReadLine (CString.bufsiz * 8) selecttimeout) fun line csp lines ↦ 0 ≤ line.ret ∧
        if line.buf = [] then filled buf line = commandParams start else Filling start (filled buf line) csp lines :=
    fun csp lines hfilling ↦ ⟨trivial, fun line hline ↦ filling_piece hfilling hline⟩
  apply triple_bind hread
  intro line
  apply triple_ite
  · intro hneg csp lines hline
    exact absurd hneg (Int.not_lt.2 hline.1)
  · intro _
    apply triple_ite
    · intro hempty
      apply triple_pure
      intro csp lines hline
      rw [if_pos hempty] at hline
      exact congrArg Sum.inr hline.2
    · intro hmore
      apply triple_pure
      intro csp lines hline
      rw [if_neg hmore] at hline
      exact hline.2

/-- The empty line is read at last. -/
theorem may_readCommandParams_join {csp : Client} {lines : List CString} (hnil : [] ∈ lines) :
    (readCommandParams csp).May (sender fun _ ↦ True) (fun _ _ ↦ True) lines := by
  apply may_loop_of_variant (fun _ _ rest ↦ [] ∈ rest) remaining _ hnil
  intro buf csp rest hrest
  apply may_bind
  apply may_get
  cases rest with
  | nil => cases hrest
  | cons first rest =>
    have hpiece : Delivers (CString.bufsiz * 8) (first :: rest) ⟨_, _⟩ := rfl
    apply may_call _ hpiece
    apply may_ite_neg (Int.not_lt.2 (Int.natCast_nonneg _))
    have hempty := Text.nextPiece_eq_nil_iff (by decide : 0 < CString.bufsiz * 8 - 1) first rest
    by_cases hfirst : first = []
    · apply may_ite_pos (hempty.2 hfirst)
      exact may_pure trivial
    · apply may_ite_neg fun hnone ↦ hfirst (hempty.1 hnone)
      apply may_pure
      exact ⟨Text.nil_mem_nextPiece hfirst hrest, Text.length_nextPiece_lt (by decide) first rest⟩

end CommandParams

section Claim

variable (reader : BodyReader)

/-- What the handler makes of the lines, in pieces of its buffer. -/
theorem total_gather (lines : List CString) (hnil : [] ∈ lines) (csp : Client) :
    Program.Total (sender fun _ ↦ True) (reader.gather csp) (fun result _ ↦
      reader.text result.1 = some (joinUntilEmpty (reader.size - 1) reader.eol reader.last lines)) lines := by
  have hread (size timeout : ℕ) (hsize : 1 < size) : Program.Total (sender fun _ ↦ True)
      (readBody size timeout (0 < ·) crlf csp) (fun result _ ↦
        some (result.1.getD []) = some (joinUntilEmpty (size - 1) crlf [] lines)) lines := by
    constructor
    · have htriple : Triple (sender fun _ ↦ True) (fun _ g ↦ g = lines) (readBody size timeout (0 < ·) crlf)
          fun body _ _ ↦ body.getD [] = joinUntilEmpty (size - 1) crlf [] lines :=
        triple_readBody_join (by omega) (joins_untilEmpty hsize) lines
      exact (htriple csp lines rfl).mono fun _ _ hbody ↦ congrArg some hbody
    · exact may_readBody_join hsize (joins_untilEmpty hsize) fun _ _ _ ↦ trivial
  cases reader with
  | smsCmd params => exact hread _ _ (by decide)
  | smsCustCmd params => exact hread _ _ (by decide)
  | smsexecn sdid addon => exact hread _ _ (by decide)
  | callCommand params =>
    constructor
    · apply (triple_readCommandParams lines csp lines ⟨hnil, rfl⟩).mono
      intro result _ hbuf
      exact congrArg Sum.getRight? hbuf
    · exact may_readCommandParams_join hnil

/-- The loops in pieces make the whole of the lines exactly if no line fills its pieces. -/
theorem deliversWhole_iff_join (lines rest : List CString) : reader.DeliversWhole lines rest ↔
    joinUntilEmpty (reader.size - 1) reader.eol reader.last (lines ++ [] :: rest) = reader.whole lines := by
  have hnil : [] ∈ lines ++ [] :: rest := by simp
  constructor
  · intro hwhole
    obtain ⟨⟨trace, result, hrun, hmeets⟩, hresult⟩ := hwhole ⟨1, none⟩
    have hjoin := (reader.total_gather _ hnil ⟨1, none⟩).run.2 trace result hrun hmeets
    rw [hresult trace result hrun hmeets] at hjoin
    exact (Option.some.inj hjoin).symm
  · intro hjoin csp
    have hrun := (reader.total_gather _ hnil csp).run
    rwa [hjoin] at hrun

end Claim

end BodyReader

end UntilEmpty

section UntilEnd

/-- Exactly one string is given to the script under this name. -/
def Script.Passes (name : String) (value : CString) (script : Script) : Prop :=
  ∀ value', .str name.toList value' ∈ script.globals ↔ value' = some value

namespace Sender

variable {lines : List CString}

/-- The configuration that was gathered is the one the script gets. -/
theorem stable_genericPushConfig (info : SdInfo) (addon tsIp tsPort configuration : CString) :
    Stable (sender (Script.Passes "configuration" configuration)) Anything
      (genericPushConfig info addon tsIp tsPort configuration) := by
  refine ⟨triple_bind (triple_configType info.sd) fun type ↦ ?_⟩
  rintro csp rest ⟨⟨value, rfl⟩, hknown⟩
  have hscript : Script.Passes "configuration" configuration ⟨info.sdid, "smsd".toList,
      "do_push_config.php".toList, [.csp, str "addon" addon, str "ts_ip" tsIp, str "ts_port" tsPort,
        str "configuration" configuration, .str "config_type".toList value, .sdInfo info]⟩ := by
    intro value'
    simp [str]
  exact (stable_runScript hscript).triple csp rest hknown

/-- The template that was gathered is the one both scripts get. -/
theorem stable_resolveTemplateBuffer (sdid template : CString) :
    Stable (sender (Script.Passes "template_buffer" template)) Anything (resolveTemplateBuffer sdid template) := by
  have hscript (info : SdInfo) (sdid path file : CString) : Script.Passes "template_buffer" template
      ⟨sdid, path, file, [.csp, str "template_buffer" template, .sdInfo info]⟩ := by
    intro value'
    simp [str]
  have hown (info : SdInfo) := stable_executeScript (hscript info info.sdid info.routerPath
    "do_resolve_template.php".toList)
  have hdefault (info : SdInfo) : Stable (sender _) Anything (runScript _ ignoreFailure) :=
    stable_runScript (hscript info info.sdid "smsd".toList "do_resolve_template.php".toList)
  unfold resolveTemplateBuffer resolveWith deviceScript
  infer_instance

theorem triple_pushConfig (params : CString) (lines : List CString) :
    Triple (sender (Script.Passes "configuration" (joinLines crlf lines))) (fun _ rest ↦ rest = lines)
      (pushConfig params) fun _ ↦ Anything := by
  apply triple_ite
  · intro _
    exact triple_anything _
  · intro _
    apply triple_ite
    · intro _
      apply triple_bind (triple_readBody_join (by decide) joins_all lines)
      intro configuration
      apply triple_of_body
      intro hjoin
      rw [hjoin]
      have hpush (info : SdInfo) := stable_genericPushConfig info (word (params.scanWords 4) 1)
        (word (params.scanWords 4) 2) (word (params.scanWords 4) 3) (joinLines crlf lines)
      infer_instance
    · intro _
      exact triple_anything _

/-- A gathered template is there, and is not empty; without its last character it is what was sent. -/
theorem gathered_template {lines : List CString} (hlines : lines ≠ []) {configuration : Option CString}
    (hjoin : configuration.getD [] = joinLines "\n".toList lines) :
    ∃ template, configuration = some template ∧ template ≠ [] ∧
      template.dropLast = ['\n'].intercalate lines := by
  have hsome : joinLines "\n".toList lines ≠ [] := Text.joinLines_ne_nil (List.cons_ne_nil _ _) hlines
  cases configuration with
  | none => exact absurd hjoin.symm hsome
  | some template =>
    obtain rfl : template = joinLines "\n".toList lines := hjoin
    exact ⟨_, rfl, hsome, Text.dropLast_joinLines '\n' hlines⟩

theorem triple_doResolve (params : CString) {lines : List CString} (hlines : lines ≠ []) :
    Triple (sender (Script.Passes "template_buffer" (['\n'].intercalate lines))) (fun _ rest ↦ rest = lines)
      (doResolve params) fun _ ↦ Anything := by
  have hlookup : Triple (sender (Script.Passes "template_buffer" (['\n'].intercalate lines)))
      (fun _ rest ↦ rest = lines) (getSDinfo (params.strncpy (sdidLen - 1))) fun _ _ rest ↦ rest = lines := by
    apply triple_useDbCtx_of_pool
    · intro op hop rest
      cases op <;> first | exact hop.elim | exact ⟨trivial, fun _ ↦ rfl⟩
    · intro ctx rest hrest
      exact ⟨trivial, fun _ _ ↦ hrest⟩
  apply triple_bind hlookup
  intro info
  apply triple_ite
  · intro _
    exact triple_anything _
  · intro _
    apply triple_bind (triple_readBody_join (by decide) joins_all lines)
    intro configuration
    apply triple_of_body
    intro hjoin
    obtain ⟨template, rfl, -, hdrop⟩ := gathered_template hlines hjoin
    simp only [Option.elim_some]
    rw [hdrop]
    have hresolve := stable_resolveTemplateBuffer (params.strncpy (sdidLen - 1)) (['\n'].intercalate lines)
    infer_instance

variable {cfd : Int} {ctx : Ctx} {handed : Script → Prop}

theorem reaches_pushConfig {params : CString} (haccepts : acceptsWords params 4 (1 ≤ ·)) (hlines : lines ≠ []) :
    ∃ script, (pushConfig params ⟨cfd, some ctx⟩).Reaches (sender handed) (.scriptStart script) lines := by
  apply Exists.intro
  unfold pushConfig
  rw [withWords_of_accepted haccepts]
  apply reaches_bind
  apply may_readBody_join (by decide) joins_all
  intro configuration rest hjoin
  simp only [hjoin]
  apply reaches_ite_neg (Text.joinLines_ne_nil (List.cons_ne_nil _ _) hlines)
  apply reaches_bind
  apply may_getSDinfo
  apply reaches_ite_neg fun hfailed ↦ hfailed rfl
  apply reaches_bind
  apply may_bind
  apply may_call Sim.library trivial
  apply may_pure
  exact reaches_runScript _ _ _

theorem reaches_doResolve (params : CString) (hlines : lines ≠ []) :
    ∃ script, (doResolve params ⟨cfd, some ctx⟩).Reaches (sender handed) (.scriptStart script) lines := by
  apply Exists.intro
  apply reaches_bind
  apply may_getSDinfo
  apply reaches_ite_neg fun hfailed ↦ hfailed rfl
  apply reaches_bind
  apply may_readBody_join (by decide) joins_all
  intro configuration rest hjoin
  obtain ⟨template, rfl, hne, hdrop⟩ := gathered_template hlines hjoin
  simp only [Option.elim_some]
  apply reaches_ite_neg hne
  rw [hdrop]
  apply Program.Reaches.bind
  apply reaches_bind
  apply may_getSDinfo
  apply reaches_ite_neg fun hfailed ↦ hfailed rfl
  exact Or.inl rfl

end Sender

end UntilEnd

end CoreEngine.Smsd
