import CoreEngine.Smsd.WholeBodies

/-!
# Lists of commands

The commands that a client sends line by line are read into one string, split at the line ends, put on a list
and joined by commas for the script.
-/

namespace CoreEngine.Smsd

open Interaction
open Procedure (lift Stable Triple triple_bind triple_ite may_bind may_call may_get reaches_bind reaches_ite_pos
  reaches_ite_neg)
open Program (Run Offers)
open Text (joinLines joinUntilEmpty)

/-- A command that fits the buffer, on a line of its own. -/
structure IsCommand (line : CString) : Prop where
  ne_nil : line ≠ []
  lt_bufsiz : line.length < CString.bufsiz
  oneLine : '\n' ∉ line

instance (line : CString) : Decidable (IsCommand line) :=
  decidable_of_iff (line ≠ [] ∧ line.length < CString.bufsiz ∧ '\n' ∉ line)
    ⟨fun h ↦ ⟨h.1, h.2.1, h.2.2⟩, fun h ↦ ⟨h.ne_nil, h.lt_bufsiz, h.oneLine⟩⟩

section Strings

/-- Read up to the empty line, the commands keep their line ends. -/
theorem joinUntilEmpty_commands {lines : List CString} (hlines : ∀ line ∈ lines, IsCommand line)
    (rest : List CString) :
    joinUntilEmpty (CString.bufsiz + 1 - 1) crlf [] (lines ++ [] :: rest) = joinLines crlf lines := by
  rw [← List.append_nil (joinLines crlf lines), Text.joinUntilEmpty_eq_iff (by decide)]
  intro line hline
  exact Nat.not_dvd_of_pos_of_lt (List.length_pos_iff.2 (hlines line hline).ne_nil) (hlines line hline).lt_bufsiz

/-- A line is split off at the first line feed, with or without carriage returns in it. -/
theorem splitCommands_line (current : CString) {line : CString} (hline : '\n' ∉ line) (rest : CString) :
    splitCommands current (line ++ crlf ++ rest) = (current ++ line) :: splitCommands [] rest := by
  induction line generalizing current with
  | nil => simp [crlf, splitCommands]
  | cons c line ih =>
    have htail : '\n' ∉ line := fun hmem ↦ hline (List.mem_cons_of_mem c hmem)
    have hhead : ∀ tail, c = '\r' → line ++ crlf ++ rest = '\n' :: tail → False := by
      intro tail _ hequal
      cases line with
      | nil => cases hequal
      | cons next line =>
        obtain rfl := List.head_eq_of_cons_eq hequal
        exact htail List.mem_cons_self
    rw [List.cons_append, List.cons_append, splitCommands.eq_2 _ _ _ hhead, ih _ htail, List.append_assoc,
      List.singleton_append]

theorem splitCommands_joinLines {lines : List CString} (hlines : ∀ line ∈ lines, '\n' ∉ line) :
    splitCommands [] (joinLines crlf lines) = lines := by
  induction lines with
  | nil => rfl
  | cons line lines ih =>
    have hjoin : joinLines crlf (line :: lines) = line ++ crlf ++ joinLines crlf lines := List.flatMap_cons
    obtain ⟨hline, hrest⟩ := List.forall_mem_cons.1 hlines
    rw [hjoin, splitCommands_line [] hline, ih hrest, List.nil_append]

/-- The loop over the queue puts a comma before every command but the first. -/
theorem commandList_eq {lines : List CString} (hlines : lines ≠ []) :
    commandList lines = some ([','].intercalate lines) := by
  have hfold (csv : CString) (rest : List CString) : rest.foldl
      (fun csv cmd ↦ CString.strAppend (csv.map (· ++ ",".toList)) cmd) (some csv) =
        some ([','].intercalate (csv :: rest)) := by
    induction rest generalizing csv with
    | nil => simp
    | cons cmd rest ih =>
      have hcsv : CString.strAppend ((some csv).map (· ++ ",".toList)) cmd = some (csv ++ [','] ++ cmd) := rfl
      rw [List.foldl_cons, hcsv, ih, List.intercalate_cons_cons]
      cases rest <;> simp
  obtain ⟨line, rest, rfl⟩ := List.exists_cons_of_ne_nil hlines
  exact hfold line rest

end Strings

section Requests

namespace Sender

variable {lines : List CString}

/-- The script that runs the commands gets them joined by commas. -/
theorem stable_execCommands (info : SdInfo) (addon : Option CString) {commands : List CString}
    (hcommands : commands ≠ []) :
    Stable (sender (Script.Passes "smsexec_list" ([','].intercalate commands))) Anything
      (execCommands info addon commands) := by
  have hlist := commandList_eq hcommands
  cases addon with
  | none =>
    apply stable_runScript
    intro value
    simp [deviceScript, hlist]
  | some addon =>
    apply stable_runScript
    intro value
    simp [deviceScript, str, hlist]

/-- A gathered body is there, and falls into the commands that were sent. -/
theorem gathered_commands (hcommands : ∀ line ∈ lines, IsCommand line) (hlines : lines ≠ []) {rest : List CString}
    {commands : Option CString}
    (hjoin : commands.getD [] = joinUntilEmpty (CString.bufsiz + 1 - 1) crlf [] (lines ++ [] :: rest)) :
    ∃ text, commands = some text ∧ splitCommands [] text = lines := by
  rw [joinUntilEmpty_commands hcommands] at hjoin
  cases commands with
  | none => exact absurd hjoin.symm (Text.joinLines_ne_nil (by decide) hlines)
  | some text =>
    obtain rfl : text = joinLines crlf lines := hjoin
    exact ⟨_, rfl, splitCommands_joinLines fun line hline ↦ (hcommands line hline).oneLine⟩

theorem triple_smsexecn (sdid : CString) (addon : Option CString) (hcommands : ∀ line ∈ lines, IsCommand line)
    (hlines : lines ≠ []) (rest : List CString) :
    Triple (sender (Script.Passes "smsexec_list" ([','].intercalate lines)))
      (fun _ g ↦ g = lines ++ [] :: rest) (smsexecn sdid addon) fun _ ↦ Anything := by
  apply triple_bind (triple_readBody_join (by decide) (joins_untilEmpty (by decide)) _)
  intro commands
  apply triple_of_body
  intro hjoin
  obtain ⟨text, rfl, hsplit⟩ := gathered_commands hcommands hlines hjoin
  simp only [Option.elim_some, hsplit]
  have hexec (info : SdInfo) := stable_execCommands info addon hlines
  infer_instance

variable {cfd : Int} {ctx : Ctx} {handed : Script → Prop}

theorem reaches_execCommands (info : SdInfo) (addon : Option CString) (commands : List CString) :
    ∃ script, ∀ csp rest,
      (execCommands info addon commands csp).Reaches (sender handed) (.scriptStart script) rest := by
  cases addon with
  | none => exact ⟨_, fun csp _ ↦ reaches_runScript _ _ csp⟩
  | some addon => exact ⟨_, fun csp _ ↦ reaches_runScript _ _ csp⟩

theorem reaches_smsexecn (sdid : CString) (addon : Option CString) (hcommands : ∀ line ∈ lines, IsCommand line)
    (hlines : lines ≠ []) (rest : List CString) : ∃ script, (smsexecn sdid addon ⟨cfd, some ctx⟩).Reaches
      (sender handed) (.scriptStart script) (lines ++ [] :: rest) := by
  obtain ⟨script, hscript⟩ : ∃ script, ∀ csp rest, (execCommands Sim.plainDevice addon lines csp).Reaches
      (sender handed) (.scriptStart script) rest := reaches_execCommands Sim.plainDevice addon lines
  refine ⟨script, ?_⟩
  apply reaches_bind
  apply may_readBody_join (by decide) (joins_untilEmpty (by decide))
  intro commands rest' hjoin
  obtain ⟨text, rfl, hsplit⟩ := gathered_commands hcommands hlines hjoin
  simp only [Option.elim_some, hsplit]
  apply reaches_bind
  apply may_getSDinfo
  apply reaches_ite_neg fun hfailed ↦ hfailed rfl
  apply reaches_bind
  apply may_get
  apply may_bind
  apply may_call () trivial
  apply may_get
  apply may_bind
  apply may_call () trivial
  exact (hscript _ _).bind _

end Sender

section HandedOver

variable {lines : List CString}

/-- Commands on lines of their own reach the script joined by commas. -/
theorem handsOver_smsexecn (sdid : CString) (addon : Option CString) (hcommands : ∀ line ∈ lines, IsCommand line)
    (hlines : lines ≠ []) (rest : List CString) : HandsOver (lines ++ [] :: rest) (silently (smsexecn sdid addon))
      (Script.Passes "smsexec_list" ([','].intercalate lines)) := by
  apply handsOver_of_triple
  · have hrequest := Sender.triple_smsexecn sdid addon hcommands hlines rest
    exact triple_bind hrequest fun _ ↦ Sender.triple_anything _
  · intro cfd ctx
    exact (Sender.reaches_smsexecn sdid addon hcommands hlines rest).imp fun script hscript ↦ hscript.bind _

/-- JSSMSEXECN and JSSMSADDONEXEC pass on every list of commands, in order and complete. -/
theorem handsOver_commands (hcommands : ∀ line ∈ lines, IsCommand line) (hlines : lines ≠ [])
    (rest : List CString) :
    (∀ params, HandsOver (lines ++ [] :: rest) (Handler.doJsSmsexecn.run params)
      (Script.Passes "smsexec_list" ([','].intercalate lines))) ∧
    ∀ params, acceptsWords params 2 (2 ≤ ·) →
      HandsOver (lines ++ [] :: rest) (Handler.doJsSmsAddonExec.run params)
        (Script.Passes "smsexec_list" ([','].intercalate lines)) := by
  constructor
  · intro params
    exact handsOver_smsexecn params none hcommands hlines rest
  · intro params haccepts
    have hrequest : Handler.doJsSmsAddonExec.run params =
        silently (smsexecn (word (params.scanWords 2) 0) (some (word (params.scanWords 2) 1))) := by
      show Smsd.doJsSmsAddonExec params = _
      unfold Smsd.doJsSmsAddonExec
      rw [withWords_of_accepted haccepts]
    rw [hrequest]
    exact handsOver_smsexecn _ _ hcommands hlines rest

/-- A line that ends in a carriage return, and one with a comma. -/
theorem handsOver_commands_comma :
    HandsOver ["a\r".toList, "b,c".toList, [], "x".toList] (Handler.doJsSmsexecn.run "ABC123".toList)
        (Script.Passes "smsexec_list" "a\r,b,c".toList) ∧
      HandsOver ["a\r".toList, "b,c".toList, [], "x".toList] (Handler.doJsSmsAddonExec.run "ABC123 card".toList)
        (Script.Passes "smsexec_list" "a\r,b,c".toList) := by
  have hboth := handsOver_commands (by decide : ∀ line ∈ ["a\r".toList, "b,c".toList], IsCommand line)
    (List.cons_ne_nil _ _) ["x".toList]
  exact ⟨hboth.1 _, hboth.2 _ (by decide)⟩

end HandedOver

section Encoding

/-- A list of commands that some run of JSSMSEXECN, for a client that sends these lines, gives to its script. -/
def SmsexecList (lines : List CString) (list : Option CString) : Prop :=
  ∃ params rest csp trace final script next, Run (Handler.doJsSmsexecn.run params csp) trace final ∧
    (sender fun _ ↦ True).Meets (lines ++ [] :: rest) trace ∧ Offers final (.scriptStart script) next ∧
    .str "smsexec_list".toList list ∈ script.globals

/-- What the client sends has nothing to do with what it should. -/
theorem meets_sender {handed handed' : Script → Prop} {lines : List CString} {trace : List (Event signature)}
    (hmeets : (sender handed).Meets lines trace) : (sender handed').Meets lines trace := by
  induction trace generalizing lines with
  | nil => trivial
  | cons event trace ih => exact ⟨hmeets.1, ih hmeets.2⟩

variable {first second : List CString} {list list' : Option CString}

theorem smsexecList_eq (hcommands : ∀ line ∈ first, IsCommand line) (hfirst : first ≠ [])
    (hlist : SmsexecList first list) : list = some ([','].intercalate first) := by
  obtain ⟨params, rest, csp, trace, final, script, next, hrun, hmeets, hoffers, hglobal⟩ := hlist
  have hpasses := (handsOver_smsexecn params none hcommands hfirst rest).every hrun (meets_sender hmeets) hoffers
  exact (hpasses list).1 hglobal

theorem smsexecList_intercalate (hcommands : ∀ line ∈ first, IsCommand line) (hfirst : first ≠ []) :
    SmsexecList first (some ([','].intercalate first)) := by
  have hover := handsOver_smsexecn "ABC123".toList none hcommands hfirst []
  obtain ⟨trace, final, script, next, hrun, hmeets, hoffers⟩ := hover.reached 1 ⟨.sms, 0⟩
  have hpasses := hover.every hrun hmeets hoffers
  exact ⟨_, _, _, trace, final, script, next, hrun, meets_sender hmeets, hoffers, (hpasses _).2 rfl⟩

end Encoding

end Requests

end CoreEngine.Smsd
