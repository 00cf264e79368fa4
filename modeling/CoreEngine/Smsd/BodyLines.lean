import CoreEngine.Smsd.Indifference
import CoreEngine.Smsd.Passage
import CoreEngine.Text.Pieces

/-!
# Bodies line by line

What the loops that gather a body make of the lines of a client. `socketReadLine` delivers a line without its
terminator, in pieces that fit the buffer.
-/

namespace CoreEngine.Smsd

open Interaction
open Procedure (lift Stable Triple triple_bind triple_ite triple_pure triple_loop may_bind may_pure may_call may_get
  may_ite_pos may_ite_neg may_loop_of_variant)
open Program (Run Offers)
open Text (nextPiece terminator joinLines joinUntilEmpty)

/-- The answer of `socketReadLine` with a buffer of `size` characters, to a client that still sends `lines`:
a piece and its length, and a negative value at the end of the stream. -/
def Delivers (size : ℕ) (lines : List CString) (line : ReadLine) : Prop :=
  match lines with
  | [] => line.ret < 0
  | _ :: _ => line = ⟨(nextPiece (size - 1) lines).1.length, (nextPiece (size - 1) lines).1⟩

/-- A script is only started with the globals it should be given, and no missing body is followed. -/
def Op.Hands (handed : Script → Prop) : Op → Prop
  | .scriptStart script => handed script
  | .nullBody => False
  | _ => True

/-- A client that sends lines, to a handler that hands over what it should. -/
def sender (handed : Script → Prop) : Monitor signature (List CString) where
  allow _ op := op.Hands handed
  expect lines op answer := match op, answer with
    | .socketReadLine _ size _, line => Delivers size lines line
    | _, _ => True
  next lines op _ := match op with
    | .socketReadLine _ size _ => (nextPiece (size - 1) lines).2
    | _ => lines

section Loops

variable {size timeout : ℕ} {eol : CString} {handed : Script → Prop}

/-- What one round adds to the body. -/
theorem added_eq (hsize : 0 < size) (piece : CString) :
    (if ((⟨piece.length, piece⟩ : ReadLine).ret : Int) = size - 1 then [] else eol) =
      terminator (size - 1) eol piece := by
  unfold terminator
  apply if_congr _ rfl rfl
  show (piece.length : Int) = size - 1 ↔ _
  omega

theorem triple_socketReadLine {pre : List CString → Prop} {post : ReadLine → List CString → Prop}
    (hpost : ∀ lines line, pre lines → Delivers size lines line → post line (nextPiece (size - 1) lines).2) :
    Triple (sender handed) (fun _ ↦ pre) (socketReadLine size timeout) fun line _ ↦ post line :=
  fun _ lines hpre ↦ ⟨trivial, fun line hline ↦ hpost lines line hpre hline⟩

/-- A function that tells what a loop makes of the lines to come: it follows the loop piece by piece. -/
structure Joins (size : ℕ) (more : Int → Bool) (eol : CString) (join : List CString → CString) : Prop where
  more_of_neg {ret : Int} : ret < 0 → more ret = false
  end_of_stream : join [] = []
  stop (line : CString) (lines : List CString) :
    more (nextPiece (size - 1) (line :: lines)).1.length = false → join (line :: lines) = []
  step (line : CString) (lines : List CString) : more (nextPiece (size - 1) (line :: lines)).1.length = true →
    join (line :: lines) = (nextPiece (size - 1) (line :: lines)).1 ++
      terminator (size - 1) eol (nextPiece (size - 1) (line :: lines)).1 ++
      join (nextPiece (size - 1) (line :: lines)).2

theorem joins_untilEmpty (hsize : 1 < size) :
    Joins size (0 < ·) eol (joinUntilEmpty (size - 1) eol []) := by
  have hpiece (line : CString) (lines : List CString) : (nextPiece (size - 1) (line :: lines)).1 = [] ↔ line = [] :=
    Text.nextPiece_eq_nil_iff (by omega) line lines
  refine ⟨?_, rfl, ?_, ?_⟩
  · intro ret hret
    exact decide_eq_false (by omega)
  · intro line lines hstop
    have hnil : line = [] := (hpiece line lines).1 (List.eq_nil_of_length_eq_zero (by simpa using hstop))
    rw [hnil]
    exact Text.joinUntilEmpty_nil lines
  · intro line lines hmore
    apply Text.joinUntilEmpty_nextPiece
    rintro rfl
    rw [(hpiece [] lines).2 rfl] at hmore
    exact nomatch hmore

theorem joins_all : Joins size (0 ≤ ·) eol (joinLines eol) where
  more_of_neg hret := decide_eq_false (by omega)
  end_of_stream := rfl
  stop line lines hstop := by simp at hstop
  step line lines _ := Text.joinLines_nextPiece line lines

variable {more : Int → Bool} {join : List CString → CString}

theorem triple_readBody_join (hsize : 0 < size) (hjoins : Joins size more eol join) (start : List CString) :
    Triple (sender handed) (fun _ lines ↦ lines = start) (readBody size timeout more eol) fun body _ _ ↦
      body.getD [] = join start := by
  have hloop : Triple (sender handed) (fun _ lines ↦ (none : Option CString).getD [] ++ join lines = join start)
      (readBody size timeout more eol) fun body _ _ ↦ body.getD [] = join start := by
    apply triple_loop (fun (body : Option CString) _ lines ↦ body.getD [] ++ join lines = join start)
    intro body
    have hread : Triple (sender handed) (fun _ lines ↦ body.getD [] ++ join lines = join start)
        (socketReadLine size timeout) fun line _ lines ↦
          if more line.ret then body.getD [] ++ line.buf ++ (if line.ret = size - 1 then [] else eol) ++ join lines =
            join start
          else body.getD [] = join start := by
      apply triple_socketReadLine
      intro lines line hbody hline
      cases lines with
      | nil =>
        rw [if_neg (by simp [hjoins.more_of_neg hline])]
        rwa [hjoins.end_of_stream, List.append_nil] at hbody
      | cons first lines =>
        obtain rfl : line = ⟨_, _⟩ := hline
        cases hmore : more (nextPiece (size - 1) (first :: lines)).1.length with
        | false =>
          rw [if_neg nofun]
          rwa [hjoins.stop first lines hmore, List.append_nil] at hbody
        | true =>
          rw [if_pos rfl, added_eq hsize]
          rw [hjoins.step first lines hmore] at hbody
          simpa only [List.append_assoc] using hbody
    apply triple_bind hread
    intro line
    apply triple_ite
    · intro hmore
      apply triple_pure
      intro _ _ hline
      rw [if_pos hmore] at hline
      exact hline
    · intro hmore
      apply triple_pure
      intro _ _ hline
      rw [if_neg hmore] at hline
      exact hline
  exact hloop.conseq (fun _ _ hlines ↦ congrArg join hlines) fun _ _ _ hbody ↦ hbody

/-- How much of the lines there is to come. -/
abbrev remaining (lines : List CString) : ℕ := (lines.map (·.length + 1)).sum

/-- The lines come to an end, and so does the loop. -/
theorem may_readBody_join (hsize : 1 < size) (hjoins : Joins size more eol join) {csp : Client}
    {lines : List CString} {post : Option CString × Client → List CString → Prop}
    (hpost : ∀ body rest, body.getD [] = join lines → post (body, csp) rest) :
    (readBody size timeout more eol csp).May (sender handed) post lines := by
  apply may_loop_of_variant (fun (body : Option CString) csp' rest ↦
    csp' = csp ∧ body.getD [] ++ join rest = join lines) remaining _ ⟨rfl, rfl⟩
  rintro body _ rest ⟨rfl, hbody⟩
  apply may_bind
  apply may_get
  cases rest with
  | nil =>
    have hend : Delivers size [] ⟨-1, []⟩ := Int.negSucc_lt_zero 0
    apply may_call (⟨-1, []⟩ : ReadLine) hend
    apply may_ite_neg (by simp [hjoins.more_of_neg])
    apply may_pure
    apply hpost
    rwa [hjoins.end_of_stream, List.append_nil] at hbody
  | cons line rest =>
    have hpiece : Delivers size (line :: rest) ⟨_, _⟩ := rfl
    apply may_call _ hpiece
    cases hmore : more (nextPiece (size - 1) (line :: rest)).1.length with
    | true =>
      apply may_ite_pos rfl
      apply may_pure
      refine ⟨⟨rfl, ?_⟩, Text.length_nextPiece_lt (by omega) line rest⟩
      rw [← hbody, added_eq (by omega), hjoins.step line rest hmore]
      simp only [Option.getD_some, List.append_assoc]
      rfl
    | false =>
      apply may_ite_neg nofun
      apply may_pure
      apply hpost
      rwa [hjoins.stop line rest hmore, List.append_nil] at hbody

end Loops

namespace Sender

variable {handed : Script → Prop}

/-- Nothing is known. -/
abbrev Anything (_csp : Client) (_lines : List CString) : Prop := True

theorem keeps {op : Op} (hop : op.Hands handed) : (sender handed).Keeps Anything op :=
  fun _ _ _ ↦ ⟨hop, fun _ _ ↦ trivial⟩

theorem keeps_database {op : Op} (hop : op.OnDatabase 2) : (sender handed).Keeps Anything op := by
  apply keeps
  cases op <;> first | exact hop.elim | trivial

instance : ContextDiscipline (sender handed) Anything :=
  contextDiscipline_of_keeps (fun _ ↦ keeps_database) (fun _ _ _ _ ↦ trivial) fun _ _ _ ↦
    keeps_database (Sql.rank_le_two _)

instance : LockDiscipline (sender handed) Anything :=
  lockDiscipline_of_keeps (fun _ hop ↦ keeps_database (hop.mono (by decide))) fun _ _ _ _ ↦ trivial

instance : SocketDiscipline (sender handed) Anything := by
  apply socketDiscipline_of_keeps _ fun _ _ _ _ ↦ trivial
  intro op hop
  apply keeps
  cases op <;> first | exact hop.elim | trivial

instance : StackDiscipline (sender handed) Anything := ⟨stable_ask_of_keeps (keeps trivial)⟩

instance : ReplyDiscipline (sender handed) Anything := ⟨stable_ask_of_keeps (keeps trivial)⟩

/-- A script that is handed what it should be may do what it likes. -/
theorem stable_executeScript {script : Script} (hscript : handed script) :
    Stable (sender handed) Anything (smsModPhpExecuteScript script) := by
  have hstart : Stable (sender handed) Anything (lift (ask (.scriptStart script))) :=
    stable_ask_of_keeps (keeps hscript)
  have hstep : Stable (sender handed) Anything (lift (ask .scriptStep)) := stable_ask_of_keeps (keeps trivial)
  have hanswer (value : PhpValue) : Stable (sender handed) Anything (lift (ask (.phpReturn value))) :=
    stable_ask_of_keeps (keeps trivial)
  have hround (step : ScriptStep) : Stable (sender handed) Anything (scriptRound script step) := by
    cases step <;> (unfold scriptRound; infer_instance)
  unfold smsModPhpExecuteScript
  infer_instance

theorem stable_runScript {script : Script} {failed : Int → M Unit} (hscript : handed script)
    [∀ ret, Stable (sender handed) Anything (failed ret)] :
    Stable (sender handed) Anything (runScript script failed) := by
  have hexecute := stable_executeScript hscript
  unfold runScript
  infer_instance

/-- What is known before code that may do what it likes does not matter. -/
theorem triple_anything {α : Type} {pre : Client → List CString → Prop} (procedure : M α)
    [hstable : Stable (sender handed) Anything procedure] :
    Triple (sender handed) pre procedure fun _ ↦ Anything :=
  hstable.triple.conseq (fun _ _ _ ↦ trivial) fun _ _ _ _ ↦ trivial

/-- A body that has been gathered is there for the rest of the handler. -/
theorem triple_of_body {α : Type} {known : Prop} {procedure : M α}
    (hstable : known → Stable (sender handed) Anything procedure) :
    Triple (sender handed) (fun _ _ ↦ known) procedure fun _ ↦ Anything :=
  fun csp lines hknown ↦ (hstable hknown).triple csp lines trivial

variable {cfd : Int} {ctx : Ctx} {lines : List CString}

/-- The device is found. -/
theorem may_getSDinfo (sdid : CString) {post : Reply SdInfo × Client → List CString → Prop}
    (hpost : post (⟨0, Sim.plainDevice⟩, ⟨cfd, some ctx⟩) lines) :
    (getSDinfo sdid ⟨cfd, some ctx⟩).May (sender handed) post lines := by
  apply may_get
  exact may_call (⟨0, Sim.plainDevice⟩ : Reply SdInfo) trivial hpost

theorem reaches_runScript (script : Script) (failed : Int → M Unit) (csp : Client) :
    (runScript script failed csp).Reaches (sender handed) (.scriptStart script) lines :=
  Or.inl rfl

end Sender

/-- Whatever the answers are, every script that a request starts for a client that sends these lines is
`handed`, and some answers lead it to one. -/
structure HandsOver (lines : List CString) (request : M Int) (handed : Script → Prop) : Prop where
  every {csp : Client} {trace : List (Event signature)} {final : Code (Int × Client)} {script : Script}
    {next : Unit → Code (Int × Client)} : Run (request csp) trace final →
    (sender handed).Meets lines trace → Offers final (.scriptStart script) next → handed script
  reached (cfd : Int) (ctx : Ctx) : ∃ trace final script next, Run (request ⟨cfd, some ctx⟩) trace final ∧
    (sender handed).Meets lines trace ∧ Offers final (.scriptStart script) next

theorem handsOver_of_triple {lines : List CString} {request : M Int} {handed : Script → Prop}
    (htriple : Triple (sender handed) (fun _ g ↦ g = lines) request fun _ ↦ Sender.Anything)
    (hreached : ∀ cfd ctx, ∃ script,
      (request ⟨cfd, some ctx⟩).Reaches (sender handed) (.scriptStart script) lines) :
    HandsOver lines request handed where
  every hrun hmeets hoffers := by
    have hfinal := (hrun.safe (htriple _ _ rfl) hmeets).2
    exact (hoffers.safe hfinal).1
  reached cfd ctx := by
    obtain ⟨script, hscript⟩ := hreached cfd ctx
    obtain ⟨trace, final, next, hrun, hmeets, hoffers⟩ := hscript.exists_run
    exact ⟨trace, final, script, next, hrun, hmeets, hoffers⟩

end CoreEngine.Smsd
