import CoreEngine.Smsd.Reload
import CoreEngine.Smsd.Dispatch

/-!
# The listing of verbs and commands

LISTVERB writes the verbs, the commands of the configuration and the modes into one array. The commands
come from the directives `cmd-…` and `cust-cmd-…` of the configuration file, of any number.
-/

namespace CoreEngine.Smsd

section Commands

variable {memory : Memory}

/-- What the modelled functions read of the configuration that the file gives. -/
def FileConf.smsConf (config : FileConf) : SmsConf where
  alarmSevConfChanged := config.numbers .alarmSevConfChanged
  alarmUpdateFail := config.numbers .alarmUpdateFail
  alarmUpdateOk := config.numbers .alarmUpdateOk
  jsacmdList := config.jsacmdList
  jsacustcmdList := config.jsacustcmdList

/-- The arguments of a directive, in the order of the file. -/
def argsOf (directive : Directive) (file : List Statement) : List CString :=
  file.filterMap fun s ↦ if s.1 = directive then some s.2 else none

/-- The arguments of the lines whose command begins with `mark`. -/
def argsMarked (mark : CString) (file : List Line) : List CString :=
  file.filterMap fun line ↦ if line.cmd.take mark.length = mark then some line.arg else none

theorem lists_apply {s s' : Loading} {directive : Directive} {arg : CString}
    (happly : s.apply memory directive arg = .inl s') :
    s'.config.jsacmdList = s.config.jsacmdList ++ argsOf .jsacmd [(directive, arg)] ∧
      s'.config.jsacustcmdList = s.config.jsacustcmdList ++ argsOf .jsacustcmd [(directive, arg)] := by
  cases directive with
  | sms field =>
    rw [(Loading.setSms_eq_inl happly).2.2.1]
    simp [argsOf]
  | mask =>
    rw [(Loading.setSms_eq_inl happly).2.2.1]
    simp [argsOf]
  | syslogServer =>
    rw [(Loading.setSyslog_eq_inl happly).2.2.1]
    simp [argsOf]
  | path field =>
    obtain ⟨-, value, hconfig⟩ := Loading.setPath_eq s memory field arg
    rw [← Sum.inl.inj happly, hconfig]
    simp [argsOf, FileConf.setText]
  | _ =>
    rw [← Sum.inl.inj happly]
    simp [argsOf, FileConf.setText, FileConf.setNumber]

/-- The lists of commands after the last line. -/
theorem lists_all {roles : Roles} {lines : List Line} {s : Loading}
    (hall : (Loading.start roles).all memory lines = .inl s) :
    s.config.jsacmdList = argsOf .jsacmd (statements lines) ∧
      s.config.jsacustcmdList = argsOf .jsacustcmd (statements lines) := by
  apply Loading.all_induction (P := fun before config _ ↦ config.jsacmdList = argsOf .jsacmd before ∧
    config.jsacustcmdList = argsOf .jsacustcmd before) ⟨rfl, rfl⟩ ?_ hall
  intro before s s' directive arg hbefore happly
  obtain ⟨hcmd, hcustcmd⟩ := lists_apply happly
  rw [hcmd, hcustcmd, hbefore.1, hbefore.2]
  simp [argsOf]

/-- No command of the table begins like one of the two that are extended by a name. -/
theorem directives_unmarked : ∀ d ∈ directives, d.1.take 4 ≠ "cmd-".toList ∧ d.1.take 9 ≠ "cust-cmd-".toList := by
  unfold directives
  repeat rw [String.toList_ofList]
  decide +kernel

/-- The two beginnings are told apart by their first characters. -/
theorem take_ne_of_take {cmd : CString} (hcmd : cmd.take 4 = "cmd-".toList) : cmd.take 9 ≠ "cust-cmd-".toList := by
  intro hcustcmd
  have htake : (cmd.take 9).take 4 = cmd.take 4 := by rw [List.take_take, min_eq_left (by decide)]
  rw [hcustcmd, hcmd] at htake
  exact absurd htake (by decide)

theorem directiveOf_eq_iff (cmd : CString) :
    (directiveOf cmd = some .jsacmd ↔ cmd.take 4 = "cmd-".toList) ∧
      (directiveOf cmd = some .jsacustcmd ↔ cmd.take 9 = "cust-cmd-".toList) := by
  unfold directiveOf
  cases hlookup : directives.lookup cmd with
  | some directive =>
    obtain ⟨before, after, happend, -⟩ := List.lookup_eq_some_iff.1 hlookup
    have hmem : (cmd, directive) ∈ directives := by
      rw [happend]
      exact List.mem_append_right _ List.mem_cons_self
    obtain ⟨hcmd, hcustcmd⟩ := directives_unmarked _ hmem
    have hother : ∀ d ∈ directives, d.2 ≠ .jsacmd ∧ d.2 ≠ .jsacustcmd := by decide
    simp only [Option.some.injEq]
    exact ⟨iff_of_false (hother _ hmem).1 hcmd, iff_of_false (hother _ hmem).2 hcustcmd⟩
  | none =>
    simp only
    by_cases hcmd : cmd.take 4 = "cmd-".toList
    · rw [if_pos hcmd]
      exact ⟨iff_of_true rfl hcmd, iff_of_false nofun (take_ne_of_take hcmd)⟩
    · rw [if_neg hcmd]
      by_cases hcustcmd : cmd.take 9 = "cust-cmd-".toList
      · rw [if_pos hcustcmd]
        exact ⟨iff_of_false nofun hcmd, iff_of_true rfl hcustcmd⟩
      · rw [if_neg hcustcmd]
        exact ⟨iff_of_false nofun hcmd, iff_of_false nofun hcustcmd⟩

/-- The arguments of the lines that stand for a directive. -/
theorem argsOf_statements {directive : Directive} (mark : CString) (hmark : mark ≠ [])
    (hdirective : ∀ cmd, directiveOf cmd = some directive ↔ cmd.take mark.length = mark) (lines : List Line) :
    argsOf directive (statements lines) = argsMarked mark lines := by
  unfold argsOf statements argsMarked
  rw [List.filterMap_filterMap]
  apply List.filterMap_congr
  intro line _
  unfold Line.statement
  by_cases hcmd : line.cmd = []
  · have hne : line.cmd.take mark.length ≠ mark := by simpa [hcmd] using hmark.symm
    rw [if_pos hcmd, if_neg hne]
    rfl
  · rw [if_neg hcmd]
    by_cases hline : line.cmd.take mark.length = mark
    · rw [if_pos hline, (hdirective line.cmd).2 hline]
      simp
    · have hne : directiveOf line.cmd ≠ some directive := fun heq ↦ hline ((hdirective line.cmd).1 heq)
      rw [if_neg hline]
      cases hother : directiveOf line.cmd with
      | none => rfl
      | some other =>
        have hdiffer : other ≠ directive := by
          rintro rfl
          exact hne hother
        simp [hdiffer]

/-- The commands of a configuration that is returned. -/
theorem lists_of_createConfig {roles : Roles} {file : List Char} {config : FileConf}
    (hcreate : (createConfig memory roles (some file)).config = some config) :
    config.jsacmdList = argsMarked "cmd-".toList (configLines file) ∧
      config.jsacustcmdList = argsMarked "cust-cmd-".toList (configLines file) := by
  obtain ⟨s, hall, rfl, -⟩ := createConfig_eq_some hcreate
  obtain ⟨hcmd, hcustcmd⟩ := lists_all hall
  rw [argsOf_statements "cmd-".toList (by decide) fun cmd ↦ (directiveOf_eq_iff cmd).1] at hcmd
  rw [argsOf_statements "cust-cmd-".toList (by decide) fun cmd ↦ (directiveOf_eq_iff cmd).2] at hcustcmd
  unfold FileConf.withDomain
  split_ifs
  · exact ⟨hcmd, hcustcmd⟩
  · exact ⟨hcmd, hcustcmd⟩

end Commands

section Text

variable {memory : Memory}

/-- The verbs, with the title of the commands. -/
def verbsPart : CString :=
  "\n".toList ++
    verbTab.flatMap (fun va ↦ padded va.verb ++ " ".toList ++ va.description ++ "\n".toList) ++
    "\n".toList ++ CString.showInt verbTab.length ++ " verbs\n".toList ++
    "\nCommands parameters for JSACMD verb:\n".toList

def customersPart : CString := "\nCommands parameters for JSACUSTCMD verb:\n".toList

def modesPart : CString :=
  "\n\nModes for SETCONFIGMODE:\n".toList ++ configModeList.flatMap (· ++ " ".toList) ++ "\n".toList

/-- The line of a command, and of a command for customers. -/
def jsacmdLine (cmd : CString) : CString := "\tJSACMD SDID ".toList ++ cmd ++ "\n".toList

def jsacustcmdLine (cmd : CString) : CString := "\tJSACUSTCMD CUSTID ".toList ++ cmd ++ "\n".toList

/-- The listing of a configuration without commands. -/
def bareListing : CString := verbsPart ++ customersPart ++ modesPart

/-- The listing of the commands that a file has. -/
def listingOf (file : List Line) : CString :=
  verbsPart ++ (argsMarked "cmd-".toList file).flatMap jsacmdLine ++
    customersPart ++ (argsMarked "cust-cmd-".toList file).flatMap jsacustcmdLine ++ modesPart

theorem listVerbText_eq (currentConfig : SmsConf) : listVerbText currentConfig =
    verbsPart ++ currentConfig.jsacmdList.flatMap jsacmdLine ++
      customersPart ++ currentConfig.jsacustcmdList.flatMap jsacustcmdLine ++ modesPart := by
  unfold listVerbText verbsPart customersPart modesPart jsacmdLine jsacustcmdLine
  simp only [List.append_assoc, -String.reduceToList]

theorem length_jsacmdLine (cmd : CString) : (jsacmdLine cmd).length = cmd.length + 14 := by
  unfold jsacmdLine
  rw [String.toList_ofList, String.toList_ofList, List.length_append, List.length_append]
  simp only [List.length_cons, List.length_nil]
  omega

theorem length_jsacustcmdLine (cmd : CString) : (jsacustcmdLine cmd).length = cmd.length + 20 := by
  unfold jsacustcmdLine
  rw [String.toList_ofList, String.toList_ofList, List.length_append, List.length_append]
  simp only [List.length_cons, List.length_nil]
  omega

theorem length_flatMap_of {f : CString → CString} {n : ℕ} (hf : ∀ cmd, (f cmd).length = cmd.length + n)
    (cmds : List CString) : (cmds.flatMap f).length = (cmds.map (·.length + n)).sum := by
  simp only [List.length_flatMap, hf]

/-- The parts may have any length here, so that they need not be written out. -/
theorem length_parts (verbs customers modes commands commandsForCustomers : CString) :
    (verbs ++ commands ++ customers ++ commandsForCustomers ++ modes).length =
      (verbs ++ customers ++ modes).length + commands.length + commandsForCustomers.length := by
  simp only [List.length_append]
  omega

theorem length_listingOf (file : List Line) : (listingOf file).length =
    bareListing.length + ((argsMarked "cmd-".toList file).map (·.length + 14)).sum +
      ((argsMarked "cust-cmd-".toList file).map (·.length + 20)).sum := by
  unfold listingOf bareListing
  rw [length_parts, length_flatMap_of length_jsacmdLine, length_flatMap_of length_jsacustcmdLine]

theorem listVerbText_of_createConfig {roles : Roles} {file : List Char} {config : FileConf}
    (hcreate : (createConfig memory roles (some file)).config = some config) :
    listVerbText config.smsConf = listingOf (configLines file) := by
  obtain ⟨hcmd, hcustcmd⟩ := lists_of_createConfig hcreate
  rw [listVerbText_eq]
  show verbsPart ++ config.jsacmdList.flatMap jsacmdLine ++ customersPart ++
    config.jsacustcmdList.flatMap jsacustcmdLine ++ modesPart = _
  rw [hcmd, hcustcmd]
  rfl

/-- The listing is complete, and fits the array as long as the commands are short and few enough. -/
theorem listing_fits_iff {roles : Roles} {file : List Char} {config : FileConf}
    (hcreate : (createConfig memory roles (some file)).config = some config) :
    listVerbText config.smsConf = listingOf (configLines file) ∧
        (listVerbText config.smsConf).length < 4 * CString.bufsiz ↔
      bareListing.length + ((argsMarked "cmd-".toList (configLines file)).map (·.length + 14)).sum +
        ((argsMarked "cust-cmd-".toList (configLines file)).map (·.length + 20)).sum < 4 * CString.bufsiz := by
  rw [listVerbText_of_createConfig hcreate, ← length_listingOf]
  simp

/-- The plain file with a command of either kind. -/
def twoCommandsFile : List Char :=
  unlines (plainFile ++ ["cmd-reboot reboot now".toList, "cust-cmd-audit audit".toList])

theorem lengths_twoCommandsFile :
    ((argsMarked "cmd-".toList (configLines twoCommandsFile)).map (·.length + 14)).sum = 24 ∧
      ((argsMarked "cust-cmd-".toList (configLines twoCommandsFile)).map (·.length + 20)).sum = 25 := by
  decide +kernel

/-- Both commands are listed, each in its part, if the rest leaves room for them. -/
theorem listing_fits_iff_twoCommands : ∃ config,
    (createConfig (filledMemory none) .initial (some twoCommandsFile)).config = some config ∧
      config.jsacmdList = ["reboot now".toList] ∧ config.jsacustcmdList = ["audit".toList] ∧
      (listVerbText config.smsConf = listingOf (configLines twoCommandsFile) ∧
          (listVerbText config.smsConf).length < 4 * CString.bufsiz ↔
        bareListing.length + 24 + 25 < 4 * CString.bufsiz) := by
  have hany : (createConfig (filledMemory none) .initial (some twoCommandsFile)).config.any (fun config ↦
      config.jsacmdList = ["reboot now".toList] ∧ config.jsacustcmdList = ["audit".toList]) = true := by
    decide +kernel
  obtain ⟨config, hconfig, hlists⟩ := (Option.any_eq_true _ _).1 hany
  obtain ⟨hcmd, hcustcmd⟩ := of_decide_eq_true hlists
  have hfits := listing_fits_iff hconfig
  rw [lengths_twoCommandsFile.1, lengths_twoCommandsFile.2] at hfits
  exact ⟨config, hconfig, hcmd, hcustcmd, hfits⟩

end Text

section Appending

variable {memory : Memory}

theorem fgetsLines_append (line buf : CString) (rest : List Char) :
    fgetsLines buf (line ++ '\n' :: rest) = fgetsLines buf (line ++ ['\n']) ++ fgetsLines [] rest := by
  induction line generalizing buf with
  | nil => simp [fgetsLines]
  | cons c line ih =>
    simp only [List.cons_append, fgetsLines]
    split_ifs
    · rw [ih, List.cons_append]
    · exact ih _

/-- After its last line a file may go on. -/
theorem configLines_append (lines : List CString) (rest : List Char) :
    configLines (unlines lines ++ rest) = configLines (unlines lines) ++ configLines rest := by
  unfold configLines
  induction lines with
  | nil => rfl
  | cons line lines ih =>
    have hsplit (rest : List Char) : unlines (line :: lines) ++ rest = line ++ '\n' :: (unlines lines ++ rest) := by
      simp [unlines]
    have hwhole := hsplit []
    rw [List.append_nil, List.append_nil] at hwhole
    rw [hsplit, hwhole, fgetsLines_append, fgetsLines_append line [] (unlines lines), List.map_append,
      List.map_append, ih, List.append_assoc]

theorem all_append (s : Loading) (before after : List Line) : s.all memory (before ++ after) =
    (s.all memory before).elim (fun s ↦ s.all memory after) .inr := by
  induction before generalizing s with
  | nil => rfl
  | cons line before ih =>
    simp only [List.cons_append, Loading.all]
    cases s.line memory line with
    | inl s' => exact ih s'
    | inr accesses => rfl

variable (memory) in
/-- Commands make no error, and no mandatory field depends on them. -/
theorem all_commands (s : Loading) {lines : List Line} (hlines : ∀ line ∈ lines, line.cmd.take 4 = "cmd-".toList) :
    ∃ s', s.all memory lines = .inl s' ∧ s'.err = s.err ∧
      s'.config.mandatory = s.config.mandatory := by
  induction lines generalizing s with
  | nil => exact ⟨s, rfl, rfl, rfl⟩
  | cons line lines ih =>
    have hmark : line.cmd.take 4 = "cmd-".toList := hlines line List.mem_cons_self
    have hne : line.cmd ≠ [] := by
      intro hempty
      rw [hempty] at hmark
      exact absurd hmark (by decide)
    have hdirective : directiveOf line.cmd = some .jsacmd := (directiveOf_eq_iff line.cmd).1.2 hmark
    obtain ⟨s', hall, herr, hmandatory⟩ := ih
      { ({ s with lines := s.lines + 1 } : Loading).reach line.accesses with
        config := { s.config with jsacmdList := s.config.jsacmdList ++ [line.arg] } }
      fun line hline ↦ hlines line (List.mem_cons_of_mem _ hline)
    refine ⟨s', ?_, herr, hmandatory⟩
    unfold Loading.all Loading.line
    simp only [if_neg hne, hdirective]
    exact hall

theorem finish_isSome_iff (s : Loading) :
    s.finish.config.isSome = true ↔ s.err = false ∧ (Check.all s.config.mandatory).1 = true := by
  unfold Loading.finish
  cases s.err with
  | true => simp [Created.config]
  | false => cases hall : (Check.all s.config.mandatory).1 <;> simp [Created.config, hall]

/-- A file that is accepted is accepted with more commands at its end. -/
theorem createConfig_commands {roles : Roles} {lines : List CString} {rest : List Char}
    (hcreate : (createConfig memory roles (some (unlines lines))).config.isSome = true)
    (hrest : ∀ line ∈ configLines rest, line.cmd.take 4 = "cmd-".toList) :
    (createConfig memory roles (some (unlines lines ++ rest))).config.isSome = true := by
  unfold createConfig at hcreate ⊢
  simp only [configLines_append, all_append]
  cases hall : (Loading.start roles).all memory (configLines (unlines lines)) with
  | inr accesses =>
    simp only [hall] at hcreate
    exact nomatch hcreate
  | inl s =>
    simp only [hall, Sum.elim_inl] at hcreate ⊢
    obtain ⟨s', hcommands, herr, hmandatory⟩ := all_commands memory s hrest
    rw [finish_isSome_iff] at hcreate
    rw [hcommands, Sum.elim_inl, finish_isSome_iff, herr, hmandatory]
    exact hcreate

end Appending

section Overflow

/-- A line that fits the buffer of `fgets`, in front of other lines. -/
theorem fgetsLines_line {line : CString} (hline : '\n' ∉ line) (buf : CString)
    (hfits : buf.length + line.length < CString.bufsiz - 1) (rest : List Char) :
    fgetsLines buf (line ++ '\n' :: rest) = (buf ++ line ++ ['\n']) :: fgetsLines [] rest := by
  induction line generalizing buf with
  | nil => simp [fgetsLines]
  | cons c line ih =>
    have hc : c ≠ '\n' := fun hc ↦ hline (by simp [hc])
    have hfits' : (buf ++ [c]).length + line.length < CString.bufsiz - 1 := by
      rw [List.length_append, List.length_singleton]
      rw [List.length_cons] at hfits
      omega
    have hbuf : ¬(c = '\n' ∨ buf.length + 1 = CString.bufsiz - 1) := by
      rintro (heq | heq)
      · exact hc heq
      · rw [List.length_cons] at hfits
        omega
    rw [List.cons_append, fgetsLines, if_neg hbuf, ih (fun hmem ↦ hline (List.mem_cons_of_mem c hmem)) _ hfits']
    simp

/-- A command with an argument of the given length. -/
def longLine (n : ℕ) : CString := "cmd-a ".toList ++ List.replicate n 'x'

theorem trimFrom_replicate (n : ℕ) : (trimFrom (List.replicate n 'x') n).1 = List.replicate n 'x' := by
  cases n with
  | zero => rfl
  | succ n =>
    have hlast : (List.replicate (n + 1) 'x').getD n '\x00' = 'x' := by simp
    unfold trimFrom
    rw [hlast, if_neg (by decide)]
    simp

theorem splitConfigLine_longLine (n : ℕ) : splitConfigLine (longLine n ++ ['\n']) =
    ⟨"cmd-a".toList, List.replicate n 'x', (trimFrom (List.replicate n 'x') n).2⟩ := by
  have hwhole : ((longLine n ++ ['\n']).takeWhile (· ≠ '\x00')).takeWhile
      (fun c ↦ c ≠ '#' ∧ c ≠ '\r' ∧ c ≠ '\n') = longLine n := by
    unfold longLine
    rw [String.toList_ofList, List.takeWhile_takeWhile]
    simp
  have hskip : (List.replicate n 'x').dropWhile CString.isblank = List.replicate n 'x' := by
    cases n with
    | zero => rfl
    | succ n => simp [List.replicate_succ, CString.isblank]
  unfold splitConfigLine
  rw [hwhole]
  unfold longLine
  rw [String.toList_ofList, String.toList_ofList]
  simp [CString.isblank, CString.tolower, hskip, trimFrom_replicate]

/-- The long line, as the loop splits it. -/
def longLineSplit (n : ℕ) : Line :=
  ⟨"cmd-a".toList, List.replicate n 'x', (trimFrom (List.replicate n 'x') n).2⟩

theorem longLineSplit_marked (n : ℕ) : (longLineSplit n).cmd.take 4 = "cmd-".toList := by
  unfold longLineSplit
  rw [String.toList_ofList, String.toList_ofList]
  rfl

/-- A number of long lines. -/
def longLines (n count : ℕ) : List Char := (List.replicate count (longLine n ++ ['\n'])).flatten

theorem configLines_longLines {n : ℕ} (hn : n + 6 < CString.bufsiz - 1) (count : ℕ) :
    configLines (longLines n count) = List.replicate count (longLineSplit n) := by
  have hlength : (longLine n).length = n + 6 := by
    unfold longLine
    rw [String.toList_ofList, List.length_append, List.length_replicate]
    simp only [List.length_cons, List.length_nil]
    omega
  have hnewline : '\n' ∉ longLine n := by
    unfold longLine
    rw [String.toList_ofList]
    simp
  induction count with
  | zero => rfl
  | succ count ih =>
    have hsplit : longLines n (count + 1) = longLine n ++ '\n' :: longLines n count := by
      simp [longLines, List.replicate_succ]
    unfold configLines
    rw [hsplit, fgetsLines_line hnewline [] (by rw [hlength, List.length_nil, Nat.zero_add]; exact hn),
      List.map_cons, List.nil_append, splitConfigLine_longLine, List.replicate_succ]
    congr 1

theorem argsMarked_longLines (n count : ℕ) (before : List Line) :
    argsMarked "cmd-".toList (before ++ List.replicate count (longLineSplit n)) =
      argsMarked "cmd-".toList before ++ List.replicate count (List.replicate n 'x') := by
  have hmark : (longLineSplit n).cmd.take "cmd-".toList.length = "cmd-".toList := longLineSplit_marked n
  unfold argsMarked
  rw [List.filterMap_append, List.filterMap_replicate, if_pos hmark]
  rfl

theorem sum_longArgs (n count : ℕ) (before : List CString) :
    ((before ++ List.replicate count (List.replicate n 'x')).map (·.length + 14)).sum =
      (before.map (·.length + 14)).sum + count * (n + 14) := by
  rw [List.map_append, List.sum_append, List.map_replicate, List.sum_replicate_nat, List.length_replicate]

/-- Five commands of 8000 characters at the end of the plain file do not fit. -/
theorem listing_overflows : ∃ config,
    (createConfig (filledMemory none) .initial
      (some (unlines plainFile ++ longLines 8000 5))).config = some config ∧
      ¬(listVerbText config.smsConf).length < 4 * CString.bufsiz := by
  have hlong (bare others forCustomers : ℕ) :
      ¬bare + (others + 5 * (8000 + 14)) + forCustomers < 4 * CString.bufsiz := by
    unfold CString.bufsiz
    omega
  have hlines := configLines_longLines (by decide : 8000 + 6 < CString.bufsiz - 1) 5
  have hcommands : ∀ line ∈ configLines (longLines 8000 5), line.cmd.take 4 = "cmd-".toList := by
    rw [hlines]
    intro line hline
    rw [List.eq_of_mem_replicate hline]
    exact longLineSplit_marked 8000
  obtain ⟨config, hconfig⟩ := Option.isSome_iff_exists.1 (createConfig_commands plainFile_accepted hcommands)
  refine ⟨config, hconfig, ?_⟩
  rw [listVerbText_of_createConfig hconfig, length_listingOf, configLines_append, hlines, argsMarked_longLines,
    sum_longArgs]
  exact hlong _ _ _

end Overflow

end CoreEngine.Smsd
