import CoreEngine.Smsd.Listing
import CoreEngine.Smsd.Numerals
import Mathlib.Data.List.Pairwise

/-!
# Statements as lines

The line that is written for a directive with its argument, and what the loop of `createConfig` makes of it: every
statement that comes out of a file is read back from its line, and so is every number.
-/

namespace CoreEngine.Smsd

section Text

/-- The command that stands for a directive. Those of the lists are written without a name. -/
def Directive.command : Directive → CString
  | .jsacmd => "cmd-".toList
  | .jsacustcmd => "cust-cmd-".toList
  | directive => ((directives.find? fun d ↦ d.2 = directive).map Prod.fst).getD []

/-- A statement as a line. -/
def Statement.text (s : Statement) : CString := s.1.command ++ ' ' :: s.2

end Text

section Lines

/-- A character that does not end a line. -/
def Inner (c : Char) : Prop := c ≠ '\x00' ∧ c ≠ '#' ∧ c ≠ '\r' ∧ c ≠ '\n'

instance (c : Char) : Decidable (Inner c) := inferInstanceAs (Decidable (_ ∧ _))

/-- An argument as it comes out of a line. -/
structure CleanArg (arg : CString) : Prop where
  inner : ∀ c ∈ arg, Inner c
  first : ∀ c ∈ arg.head?, CString.isblank c = false
  last : ∀ c ∈ arg.getLast?, CString.isblank c = false

theorem CleanArg.of_solid {arg : CString} (harg : ∀ c ∈ arg, Inner c ∧ CString.isblank c = false) : CleanArg arg :=
  ⟨fun c hc ↦ (harg c hc).1, fun c hc ↦ (harg c (List.mem_of_head? hc)).2,
    fun c hc ↦ (harg c (List.mem_of_getLast? hc)).2⟩

/-- A command as it is written. -/
structure CleanCommand (cmd : CString) : Prop where
  inner : ∀ c ∈ cmd, Inner c
  solid : ∀ c ∈ cmd, CString.isblank c = false
  lower : CString.tolower cmd = cmd
  ne_nil : cmd ≠ []

theorem CleanArg.nil : CleanArg [] := ⟨by simp, by simp, by simp⟩

theorem isblank_iff {c : Char} : CString.isblank c = true ↔ c = ' ' ∨ c = '\t' := by
  simp [CString.isblank]

/-- The loop over trailing blanks stops at the last character that is none. -/
theorem last_trimFrom (arg : CString) {i : ℕ} (hi : i ≤ arg.length) :
    ∀ c ∈ (trimFrom arg i).1.getLast?, CString.isblank c = false := by
  induction i with
  | zero => exact fun c hc ↦ absurd hc (Option.not_mem_none c)
  | succ i ih =>
    unfold trimFrom
    split_ifs with hblank
    · exact ih (Nat.le_of_succ_le hi)
    · intro c hc
      have hget : arg.getD i '\x00' = c := by
        rw [List.take_succ_eq_append_getElem hi, List.getLast?_concat, Option.mem_some] at hc
        rw [List.getD_eq_getElem?_getD, List.getElem?_eq_getElem hi, hc, Option.getD_some]
      rw [hget] at hblank
      rw [← Bool.not_eq_true, isblank_iff]
      exact hblank

theorem trimFrom_isPrefix (arg : CString) (i : ℕ) : (trimFrom arg i).1 <+: arg := by
  induction i with
  | zero => exact List.nil_prefix
  | succ i ih =>
    unfold trimFrom
    split_ifs
    · exact ih
    · exact List.take_prefix _ _

theorem trimFrom_eq_self {arg : CString} (hlast : ∀ c ∈ arg.getLast?, CString.isblank c = false) :
    (trimFrom arg arg.length).1 = arg := by
  induction arg using List.reverseRecOn with
  | nil => rfl
  | append_singleton arg c =>
    have hc := hlast c (by simp)
    have hget : (arg ++ [c]).getD arg.length '\x00' = c := by simp
    rw [List.length_append, List.length_singleton]
    unfold trimFrom
    rw [hget, if_neg]
    · exact List.take_of_length_le (by simp)
    · rw [← isblank_iff, hc]
      exact Bool.false_ne_true

theorem inner_of_mem_takeWhile {buf : CString} {c : Char}
    (hc : c ∈ (buf.takeWhile (· ≠ '\x00')).takeWhile fun c ↦ c ≠ '#' ∧ c ≠ '\r' ∧ c ≠ '\n') : Inner c := by
  have hzero := List.mem_takeWhile_imp ((List.takeWhile_prefix _).mem hc)
  have hends := List.mem_takeWhile_imp hc
  simp only [ne_eq, decide_not, Bool.not_eq_true', decide_eq_false_iff_not, decide_eq_true_eq] at hzero hends
  exact ⟨hzero, hends⟩

/-- What comes out of a line is clean. -/
theorem cleanArg_splitConfigLine (buf : CString) : CleanArg (splitConfigLine buf).arg := by
  unfold splitConfigLine
  simp only
  generalize htmp : (buf.takeWhile (· ≠ '\x00')).takeWhile (fun c ↦ c ≠ '#' ∧ c ≠ '\r' ∧ c ≠ '\n') = tmp
  have hinner : ∀ c ∈ tmp, Inner c := fun c hc ↦ inner_of_mem_takeWhile (htmp ▸ hc)
  generalize harg : (List.dropWhile (fun c ↦ !CString.isblank c) (tmp.dropWhile CString.isblank)).dropWhile
    CString.isblank = arg
  have hsub : arg <:+ tmp := by
    rw [← harg]
    exact (List.dropWhile_suffix _).trans ((List.dropWhile_suffix _).trans (List.dropWhile_suffix _))
  have hstart := trimFrom_isPrefix arg arg.length
  refine ⟨fun c hc ↦ hinner c (hsub.mem (hstart.mem hc)), fun c hc ↦ ?_, last_trimFrom arg (Nat.le_refl _)⟩
  have hhead : c ∈ arg.head? := by
    obtain ⟨rest, hrest⟩ := hstart
    rw [← hrest]
    cases htrim : (trimFrom arg arg.length).1 with
    | nil =>
      rw [htrim] at hc
      exact absurd hc (Option.not_mem_none c)
    | cons d trimmed =>
      rw [htrim] at hc
      exact hc
  rw [← harg] at hhead
  have hblank := List.head?_dropWhile_not CString.isblank
    (List.dropWhile (fun c ↦ !CString.isblank c) (tmp.dropWhile CString.isblank))
  rw [hhead] at hblank
  simpa using hblank

/-- The command and the argument take as much room as the line had. -/
theorem length_splitConfigLine (buf : CString) (harg : (splitConfigLine buf).arg ≠ []) :
    (splitConfigLine buf).cmd.length + 1 + (splitConfigLine buf).arg.length ≤ buf.length := by
  unfold splitConfigLine at harg ⊢
  simp only at harg ⊢
  generalize htmp : (buf.takeWhile (· ≠ '\x00')).takeWhile (fun c ↦ c ≠ '#' ∧ c ≠ '\r' ∧ c ≠ '\n') = tmp at harg ⊢
  have htmps : tmp.length ≤ buf.length := by
    rw [← htmp]
    exact ((List.takeWhile_prefix _).trans (List.takeWhile_prefix _)).length_le
  generalize hp : tmp.dropWhile CString.isblank = p at harg ⊢
  have hps : p.length ≤ tmp.length := hp ▸ (List.dropWhile_suffix _).length_le
  have hwhole : (p.takeWhile fun c ↦ !CString.isblank c).length +
      (p.dropWhile fun c ↦ !CString.isblank c).length = p.length := by
    rw [← List.length_append, List.takeWhile_append_dropWhile]
  generalize hrest : (p.dropWhile fun c ↦ !CString.isblank c) = rest at harg hwhole ⊢
  have htrim :=
    (trimFrom_isPrefix (rest.dropWhile CString.isblank) (rest.dropWhile CString.isblank).length).length_le
  have hblanks : (rest.dropWhile CString.isblank).length < rest.length := by
    cases rest with
    | nil => exact absurd rfl harg
    | cons c rest =>
      have hc := List.head?_dropWhile_not (fun c ↦ !CString.isblank c) p
      rw [hrest] at hc
      have hblank : CString.isblank c = true := by simpa using hc
      rw [List.dropWhile_cons, if_pos hblank]
      exact Nat.lt_succ_of_le (List.dropWhile_suffix _).length_le
  unfold CString.tolower
  rw [List.length_map]
  omega

/-- A line that is written is read back. -/
theorem splitConfigLine_text {cmd arg ending : CString} (hcmd : CleanCommand cmd) (harg : CleanArg arg)
    (hending : ending = [] ∨ ending = ['\n']) : (splitConfigLine (cmd ++ ' ' :: arg ++ ending)).cmd = cmd ∧
      (splitConfigLine (cmd ++ ' ' :: arg ++ ending)).arg = arg := by
  have hinner : ∀ c ∈ cmd ++ ' ' :: arg, Inner c := by
    rw [List.forall_mem_append, List.forall_mem_cons]
    exact ⟨hcmd.inner, by decide, harg.inner⟩
  have htmp : ((cmd ++ ' ' :: arg ++ ending).takeWhile (· ≠ '\x00')).takeWhile
      (fun c ↦ c ≠ '#' ∧ c ≠ '\r' ∧ c ≠ '\n') = cmd ++ ' ' :: arg := by
    rw [List.takeWhile_takeWhile, List.takeWhile_append_of_pos]
    · rcases hending with rfl | rfl <;> simp
    · intro c hc
      simpa [Inner, and_comm, and_left_comm, and_assoc] using hinner c hc
  obtain ⟨c, rest, rfl⟩ := List.exists_cons_of_ne_nil hcmd.ne_nil
  have hp : (c :: rest ++ ' ' :: arg).dropWhile CString.isblank = c :: rest ++ ' ' :: arg := by
    rw [List.cons_append, List.dropWhile_cons, if_neg]
    rw [hcmd.solid c List.mem_cons_self]
    exact Bool.false_ne_true
  have hsolid : ∀ d ∈ c :: rest, (!CString.isblank d) = true := fun d hd ↦ by rw [hcmd.solid d hd, Bool.not_false]
  have hskip : arg.dropWhile CString.isblank = arg := by
    cases arg with
    | nil => rfl
    | cons d arg =>
      rw [List.dropWhile_cons, if_neg]
      rw [harg.first d rfl]
      exact Bool.false_ne_true
  unfold splitConfigLine
  simp only [htmp, hp]
  rw [List.takeWhile_append_of_pos hsolid, List.dropWhile_append_of_pos hsolid]
  have hblank : CString.isblank ' ' = true := by decide
  constructor
  · rw [List.takeWhile_cons, hblank, Bool.not_true, if_neg Bool.false_ne_true, List.append_nil, hcmd.lower]
  · rw [List.dropWhile_cons, hblank, Bool.not_true, if_neg Bool.false_ne_true, List.dropWhile_cons, if_pos hblank,
      hskip, trimFrom_eq_self harg.last]

end Lines

section Commands

/-- A directive that some command stands for. -/
def Directive.Known (directive : Directive) : Prop := ∃ cmd, directiveOf cmd = some directive

/-- The commands of the table are in lower case, and each stands for its directive. -/
theorem directives_clean : ∀ d ∈ directives, (∀ c ∈ d.1, Inner c ∧ CString.isblank c = false) ∧
    CString.tolower d.1 = d.1 ∧ d.1 ≠ [] ∧ d.1.length < 50 ∧ directives.lookup d.1 = some d.2 := by
  unfold directives
  repeat rw [String.toList_ofList]
  decide +kernel

theorem mem_directives_of_lookup {cmd : CString} {directive : Directive}
    (hlookup : directives.lookup cmd = some directive) : (cmd, directive) ∈ directives := by
  obtain ⟨before, after, happend, -⟩ := List.lookup_eq_some_iff.1 hlookup
  rw [happend]
  exact List.mem_append_right _ List.mem_cons_self

theorem directiveOf_cases {cmd : CString} {directive : Directive} (hcmd : directiveOf cmd = some directive) :
    directive = .jsacmd ∨ directive = .jsacustcmd ∨ (cmd, directive) ∈ directives := by
  unfold directiveOf at hcmd
  cases hlookup : directives.lookup cmd with
  | some other =>
    rw [hlookup] at hcmd
    obtain rfl := Option.some.inj hcmd
    exact .inr (.inr (mem_directives_of_lookup hlookup))
  | none =>
    rw [hlookup] at hcmd
    simp only at hcmd
    split_ifs at hcmd
    · exact .inl (Option.some.inj hcmd).symm
    · exact .inr (.inl (Option.some.inj hcmd).symm)

/-- The command of a directive of the table is the first that stands for it. -/
theorem command_of_mem {cmd : CString} {directive : Directive} (hmem : (cmd, directive) ∈ directives) :
    (directive.command, directive) ∈ directives := by
  have hother : ∀ d ∈ directives, d.2 ≠ .jsacmd ∧ d.2 ≠ .jsacustcmd := by decide
  have hcommand : directive.command = ((directives.find? fun d ↦ d.2 = directive).map Prod.fst).getD [] := by
    cases directive with
    | jsacmd => exact absurd rfl (hother _ hmem).1
    | jsacustcmd => exact absurd rfl (hother _ hmem).2
    | _ => rfl
  obtain ⟨d, hd⟩ : ∃ d, directives.find? (fun d ↦ d.2 = directive) = some d :=
    Option.isSome_iff_exists.1 (List.find?_isSome.2 ⟨_, hmem, by simp⟩)
  have hdirective : d.2 = directive := by simpa using List.find?_some hd
  rw [hcommand, hd, ← hdirective]
  exact List.mem_of_find?_eq_some hd

theorem cleanCommand_of_known {directive : Directive} (hknown : directive.Known) :
    CleanCommand directive.command ∧ directive.command.length < 50 ∧
      directiveOf directive.command = some directive := by
  obtain ⟨cmd, hcmd⟩ := hknown
  rcases directiveOf_cases hcmd with rfl | rfl | hmem
  · unfold Directive.command
    rw [(directiveOf_eq_iff _).1]
    refine ⟨⟨by decide, by decide, by decide, by decide⟩, by decide, by decide⟩
  · unfold Directive.command
    rw [(directiveOf_eq_iff _).2]
    refine ⟨⟨by decide, by decide, by decide, by decide⟩, by decide, by decide⟩
  · obtain ⟨hchars, hlower, hne, hlength, hlookup⟩ := directives_clean _ (command_of_mem hmem)
    refine ⟨⟨fun c hc ↦ (hchars c hc).1, fun c hc ↦ (hchars c hc).2, hlower, hne⟩, hlength, ?_⟩
    unfold directiveOf
    rw [hlookup]

/-- Only the headings of the lists share a directive. -/
theorem command_eq_of_mem {cmd : CString} {directive : Directive} (hmem : (cmd, directive) ∈ directives)
    (hheading : directive ≠ .heading) : directive.command = cmd := by
  have hpairwise : directives.Pairwise fun d e ↦ d.2 = e.2 → d.2 = .heading := by decide
  have hsymm : Std.Symm fun d e : CString × Directive ↦ d.2 = e.2 → d.2 = .heading :=
    ⟨fun d e hd heq ↦ heq.trans (hd heq.symm)⟩
  by_contra hne
  exact hheading (hpairwise.forall (command_of_mem hmem) hmem (fun heq ↦ hne (congrArg Prod.fst heq)) rfl)

/-- No command that stands for a directive is shorter than the one that is written. -/
theorem length_command_le {cmd : CString} {directive : Directive} (hcmd : directiveOf cmd = some directive)
    (hheading : directive ≠ .heading) : directive.command.length ≤ cmd.length := by
  rcases directiveOf_cases hcmd with rfl | rfl | hmem
  · have hlength : (cmd.take 4).length = 4 := congrArg List.length ((directiveOf_eq_iff cmd).1.1 hcmd)
    have hwritten : (Directive.command .jsacmd).length = 4 := rfl
    rw [List.length_take] at hlength
    omega
  · have hlength : (cmd.take 9).length = 9 := congrArg List.length ((directiveOf_eq_iff cmd).2.1 hcmd)
    have hwritten : (Directive.command .jsacustcmd).length = 9 := rfl
    rw [List.length_take] at hlength
    omega
  · rw [command_eq_of_mem hmem hheading]

end Commands

section File

/-- A statement that is read back from the line that is written for it. -/
structure Written (s : Statement) : Prop where
  known : s.1.Known
  clean : CleanArg s.2
  fits : s.text.length ≤ CString.bufsiz - 1

theorem newline_notMem_text {s : Statement} (hs : Written s) : '\n' ∉ s.text := by
  intro hmem
  rcases List.mem_append.1 hmem with hcmd | harg
  · exact ((cleanCommand_of_known hs.known).1.inner _ hcmd).2.2.2 rfl
  · rcases List.mem_cons.1 harg with hspace | harg
    · exact absurd hspace (by decide)
    · exact (hs.clean.inner _ harg).2.2.2 rfl

/-- A line that fills the buffer of `fgets` ends there. -/
theorem fgetsLines_full {line : CString} (hline : '\n' ∉ line) (hne : line ≠ []) (buf : CString)
    (hfull : buf.length + line.length = CString.bufsiz - 1) (rest : List Char) :
    fgetsLines buf (line ++ rest) = (buf ++ line) :: fgetsLines [] rest := by
  induction line generalizing buf with
  | nil => exact absurd rfl hne
  | cons c line ih =>
    rw [List.length_cons] at hfull
    rw [List.cons_append, fgetsLines]
    cases line with
    | nil =>
      rw [if_pos (.inr hfull)]
      rfl
    | cons d line =>
      have hbuf : ¬(c = '\n' ∨ buf.length + 1 = CString.bufsiz - 1) := by
        rintro (rfl | heq)
        · exact hline List.mem_cons_self
        · rw [List.length_cons] at hfull
          omega
      have hfull' : (buf ++ [c]).length + (d :: line).length = CString.bufsiz - 1 := by
        rw [List.length_append, List.length_singleton]
        omega
      rw [if_neg hbuf, ih (fun hmem ↦ hline (List.mem_cons_of_mem c hmem)) (List.cons_ne_nil d line) _ hfull']
      simp

theorem length_fgetsLines {buf : CString} (hbuf : buf.length < CString.bufsiz - 1) (file : List Char) :
    ∀ line ∈ fgetsLines buf file, line.length ≤ CString.bufsiz - 1 := by
  induction file generalizing buf with
  | nil =>
    intro line hline
    unfold fgetsLines at hline
    split_ifs at hline
    · exact absurd hline List.not_mem_nil
    · rw [List.mem_singleton.1 hline]
      exact hbuf.le
  | cons c file ih =>
    have hlength : (buf ++ [c]).length = buf.length + 1 := by simp
    unfold fgetsLines
    split_ifs with hends
    · rw [List.forall_mem_cons, hlength]
      exact ⟨hbuf, ih (by decide)⟩
    · exact ih (by rw [hlength]; omega)

/-- The loop knows what the line stands for. -/
def Line.Understood (line : Line) : Prop := line.cmd = [] ∨ (directiveOf line.cmd).isSome = true

theorem statement_text {s : Statement} (hs : Written s) {ending : CString}
    (hending : ending = [] ∨ ending = ['\n']) :
    (splitConfigLine (s.text ++ ending)).statement = some s ∧ (splitConfigLine (s.text ++ ending)).Understood := by
  obtain ⟨hcommand, -, hdirective⟩ := cleanCommand_of_known hs.known
  obtain ⟨hcmd, harg⟩ := splitConfigLine_text hcommand hs.clean hending
  unfold Statement.text Line.statement Line.Understood
  rw [hcmd, harg, if_neg hcommand.ne_nil, hdirective]
  exact ⟨rfl, .inr rfl⟩

/-- The lines of a statement, in front of other lines. A line without room for its end is followed by an empty
one. -/
theorem configLines_text {s : Statement} (hs : Written s) (rest : List Char) :
    ∃ lines, configLines (s.text ++ '\n' :: rest) = lines ++ configLines rest ∧ statements lines = [s] ∧
      ∀ line ∈ lines, line.Understood := by
  have hnewline := newline_notMem_text hs
  unfold configLines
  rcases Nat.lt_or_eq_of_le hs.fits with hshort | hfull
  · obtain ⟨hstatement, hunderstood⟩ := statement_text hs (.inr rfl)
    refine ⟨[splitConfigLine (s.text ++ ['\n'])], ?_, ?_, ?_⟩
    · rw [fgetsLines_line hnewline [] (by rwa [List.length_nil, Nat.zero_add])]
      rfl
    · simp [statements, hstatement]
    · exact List.forall_mem_singleton.2 hunderstood
  · obtain ⟨hstatement, hunderstood⟩ := statement_text hs (.inl rfl)
    rw [List.append_nil] at hstatement hunderstood
    have hne : s.text ≠ [] := by
      unfold Statement.text
      simp
    refine ⟨[splitConfigLine s.text, splitConfigLine ['\n']], ?_, ?_, ?_⟩
    · rw [fgetsLines_full hnewline hne [] (by rwa [List.length_nil, Nat.zero_add])]
      simp [fgetsLines]
    · have hempty : (splitConfigLine ['\n']).statement = none := by decide
      simp [statements, hstatement, hempty]
    · rw [List.forall_mem_cons, List.forall_mem_singleton]
      exact ⟨hunderstood, .inl (by decide)⟩

/-- A file that is written is read back. -/
theorem statements_unlines {file : List Statement} (hfile : ∀ s ∈ file, Written s) :
    statements (configLines (unlines (file.map Statement.text))) = file ∧
      ∀ line ∈ configLines (unlines (file.map Statement.text)), line.Understood := by
  induction file with
  | nil => exact ⟨rfl, fun line hline ↦ absurd hline (List.not_mem_nil (a := line))⟩
  | cons s file ih =>
    obtain ⟨hs, hrest⟩ := List.forall_mem_cons.1 hfile
    obtain ⟨lines, hlines, hstatements, hunderstood⟩ := configLines_text hs (unlines (file.map Statement.text))
    obtain ⟨hread, hunderstood'⟩ := ih hrest
    have hsplit : unlines ((s :: file).map Statement.text) =
        s.text ++ '\n' :: unlines (file.map Statement.text) := by
      simp [unlines]
    rw [hsplit, hlines]
    refine ⟨?_, List.forall_mem_append.2 ⟨hunderstood, hunderstood'⟩⟩
    calc statements (lines ++ configLines (unlines (file.map Statement.text)))
        = statements lines ++ statements (configLines (unlines (file.map Statement.text))) :=
          List.filterMap_append
      _ = s :: file := by rw [hstatements, hread, List.singleton_append]

/-- A short argument leaves room for any command. -/
theorem Written.of_short {directive : Directive} {arg : CString} (hknown : directive.Known) (harg : CleanArg arg)
    (hlength : arg.length ≤ 100) : Written (directive, arg) := by
  refine ⟨hknown, harg, ?_⟩
  have hcommand := (cleanCommand_of_known hknown).2.1
  have hroom : 151 ≤ CString.bufsiz - 1 := by decide
  have htext : (Statement.text (directive, arg)).length = directive.command.length + (arg.length + 1) := by
    simp [Statement.text]
  omega

/-- The statements of a file can be written. -/
theorem written_of_mem {file : List Char} {s : Statement} (hs : s ∈ statements (configLines file))
    (hheading : s.1 ≠ .heading) : Written s := by
  obtain ⟨line, hline, hstatement⟩ := List.mem_filterMap.1 hs
  obtain ⟨buf, hbuf, rfl⟩ := List.mem_map.1 hline
  unfold Line.statement at hstatement
  split_ifs at hstatement
  obtain ⟨directive, hdirective, rfl⟩ := Option.map_eq_some_iff.1 hstatement
  have hclean := cleanArg_splitConfigLine buf
  by_cases harg : (splitConfigLine buf).arg = []
  · rw [harg]
    exact .of_short ⟨_, hdirective⟩ .nil (by simp)
  · refine ⟨⟨_, hdirective⟩, hclean, ?_⟩
    have hcommand := length_command_le hdirective hheading
    have hroom := length_splitConfigLine buf harg
    have hfits := length_fgetsLines (by decide) file buf hbuf
    have htext : (Statement.text (directive, (splitConfigLine buf).arg)).length =
        directive.command.length + ((splitConfigLine buf).arg.length + 1) := by
      simp [Statement.text]
    omega

end File

section Numbers

open CString (FitsInt)

theorem inner_of_isDigit {c : Char} (hc : c.isDigit = true) : Inner c ∧ CString.isblank c = false := by
  have hne (d : Char) (hd : d.toNat < 48) := CString.ne_of_isDigit hc hd
  refine ⟨⟨hne _ (by decide), hne _ (by decide), hne _ (by decide), hne _ (by decide)⟩, ?_⟩
  simp [CString.isblank, hne ' ' (by decide), hne '\t' (by decide)]

/-- A number that is written is read back. -/
theorem atoi_showInt {n : Int} (hn : FitsInt n) : atoi (CString.showInt n) = n := by
  have hread : CString.atol (CString.showInt n) = n := by
    have hsign := CString.scanSign_append n Nat.toDigits_ne_nil (CString.isDigit_toDigits n.natAbs) []
    have hdigits := CString.digits_append (CString.isDigit_toDigits n.natAbs) [] (by simp)
    rw [List.append_nil] at hsign hdigits
    unfold CString.atol CString.showInt
    rw [hsign, List.append_nil]
    simp only [hdigits, CString.ofDigits_toDigits, CString.sign_mul_natAbs]
    unfold CString.clampLong
    obtain ⟨hlow, hhigh⟩ := hn
    omega
  rw [atoi, hread]
  exact (CString.int32_eq_self_iff n).2 hn

theorem fitsInt_atoi (arg : CString) : FitsInt (atoi arg) := by
  rw [← CString.int32_eq_self_iff]
  exact Int.bmod_bmod

theorem fitsInt_numberOf (file : List Statement) (field : NumberField) : FitsInt (numberOf file field) := by
  unfold numberOf
  cases lastGiven numberGiven file field with
  | some arg => exact fitsInt_atoi arg
  | none => cases field <;> decide

theorem known_number (field : NumberField) : (Directive.number field).Known := by
  have hmem : ∃ d ∈ directives, d.2 = .number field := by cases field <;> decide
  obtain ⟨⟨cmd, -⟩, hmem, rfl⟩ := hmem
  exact ⟨cmd, by rw [directiveOf, (directives_clean _ hmem).2.2.2.2]⟩

theorem written_number (field : NumberField) {n : Int} (hn : FitsInt n) :
    Written (.number field, CString.showInt n) := by
  have hchars : ∀ c ∈ CString.showInt n, Inner c ∧ CString.isblank c = false := by
    intro c hc
    unfold CString.showInt at hc
    split_ifs at hc
    · rcases List.mem_cons.1 hc with rfl | hc
      · decide
      · exact inner_of_isDigit (CString.isDigit_toDigits _ c hc)
    · exact inner_of_isDigit (CString.isDigit_toDigits _ c hc)
  have hlength : (Nat.toDigits 10 n.natAbs).length ≤ 10 := by
    rw [Nat.length_toDigits_le_iff (by decide) (by decide)]
    obtain ⟨hlow, hhigh⟩ := hn
    omega
  refine .of_short (known_number field) (.of_solid hchars) ?_
  unfold CString.showInt
  split_ifs
  · rw [List.length_cons]
    omega
  · omega

end Numbers

end CoreEngine.Smsd
