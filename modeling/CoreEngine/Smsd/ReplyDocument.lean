import CoreEngine.Smsd.UserTree

/-!
# JSON replies

The replies of the JSON verbs. A result that begins with a bracket goes into the reply as it is: the reply
is well formed exactly when such a result is what may follow a name in an object.
-/

namespace CoreEngine.Smsd

open Interaction
open Json (Blank Members Rest StringBody NameText Document points Ended Frame)
open Program (Run Total total_ret total_perform)

section Replies

/-- A call of one of the functions that send a reply. -/
inductive UserReply
  | ok (result : Option CString)
  | okEx (result message : Option CString)
  | error (result : Option CString) (e : Int)
  | errorEx (result : Option CString) (e : Int)

namespace UserReply

def send : UserReply → M Unit
  | .ok result => smsSendUserOk result
  | .okEx result message => smsSendUserOkEx result message
  | .error result e => smsSendUserError result e
  | .errorEx result e => smsSendUserErrorEx result e

def result : UserReply → Option CString
  | .ok result | .okEx result _ | .error result _ | .errorEx result _ => result

def status : UserReply → CString
  | .ok _ | .okEx _ _ => "OK".toList
  | .error _ _ | .errorEx _ _ => "FAIL".toList

def message (library : Library) : UserReply → Option CString
  | .ok _ => some []
  | .okEx _ message => message
  | .error _ e => library.getErrorMessage e
  | .errorEx result e =>
      (library.getErrorMessage e).map fun text ↦ text ++ result.elim [] (". ".toList ++ ·)

def code (library : Library) : UserReply → Option CString
  | .ok _ | .okEx _ _ => some "0x00000000".toList
  | .error _ e | .errorEx _ e => library.getErrorCodeStr e

/-- `sms_send_user_error_ex` copies the text of the error, which must not be NULL. -/
def HasText (library : Library) : UserReply → Prop
  | .errorEx _ e => (library.getErrorMessage e).isSome
  | _ => True

def document (library : Library) (reply : UserReply) : CString :=
  userMessage library.gpulBackslashify reply.result reply.status (reply.message library) (reply.code library)

theorem status_eq (reply : UserReply) : reply.status = "OK".toList ∨ reply.status = "FAIL".toList := by
  cases reply <;> simp [status]

end UserReply

/-- What the members of a reply say. -/
structure Describes (status : CString) (result code : Option CString) (members : List (List ℕ × Json)) :
    Prop where
  hasStatus : (∃ v, (points "sms_status".toList, v) ∈ members) ∧
    ∀ v, (points "sms_status".toList, v) ∈ members → v = .str (points status)
  hasResult : (∃ v, (points "sms_result".toList, v) ∈ members) ↔ result.getD [] ≠ []
  hasCode : (∃ v, (points "sms_code".toList, v) ∈ members) ↔ status = "FAIL".toList ∧ code.getD [] ≠ []

/-- The result goes into the reply as it is. -/
def IsRaw (result : CString) : Prop := result.head? = some '\x7b' ∨ result.head? = some '['

/-- A raw result is a value, with further members perhaps; none of them is a code for a reply that has none,
or another status. -/
def Fits (status : CString) (result code : Option CString) : Prop :=
  IsRaw (result.getD []) → ∃ more, Rest (points "sms_result".toList) (result.getD []) more ∧
    (∀ v, (points "sms_status".toList, v) ∈ more → v = .str (points status)) ∧
    ((∃ v, (points "sms_code".toList, v) ∈ more) → status = "FAIL".toList ∧ code.getD [] ≠ [])

end Replies

section Pieces

/-- The part of a reply that holds the result. -/
def resultText (backslashify : CString → CString) (result : CString) : CString :=
  match result with
  | [] => []
  | '\x7b' :: rest => nextName "sms_result".toList ++ '\x7b' :: rest
  | '[' :: rest => nextName "sms_result".toList ++ '[' :: rest
  | text => nextName "sms_result".toList ++ quoted (backslashify text)

/-- A member that is left out when its text is empty. -/
def optionalText (name : CString) (quote : CString → CString) (text : CString) : CString :=
  if text = [] then [] else nextName name ++ quoted (quote text)

def codeText (status code : CString) : CString :=
  if status = "OK".toList then [] else optionalText "sms_code".toList id code

theorem userMessage_eq (backslashify : CString → CString) (result : Option CString) (status : CString)
    (message code : Option CString) : userMessage backslashify result status message code =
      "\x7b\n".toList ++ firstName "sms_status".toList ++ quoted status ++
        resultText backslashify (result.getD []) ++
        optionalText "sms_message".toList backslashify (message.getD []) ++ codeText status (code.getD []) ++
        "\n\x7d\n".toList := by
  unfold userMessage codeText optionalText
  cases hmessage : message.getD [] with
  | nil => cases hcode : code.getD [] <;> rfl
  | cons c message => cases hcode : code.getD [] <;> rfl

/-- The result is escaped, or goes in as it is. -/
theorem resultText_eq (backslashify : CString → CString) (result : CString) :
    IsRaw result ∧ resultText backslashify result = nextName "sms_result".toList ++ result ∨
      ¬IsRaw result ∧ resultText backslashify result = optionalText "sms_result".toList backslashify result := by
  unfold resultText optionalText IsRaw
  split
  · right
    simp
  · left
    simp
  · left
    simp
  · next hne hbrace hbracket =>
    right
    constructor
    · cases result with
      | nil => simp
      | cons c rest => 
        simp only [List.head?_cons, Option.some.injEq, not_or]
        constructor
        · rintro rfl
          exact hbrace rest rfl
        · rintro rfl
          exact hbracket rest rfl
    · rw [if_neg hne]

variable {text : CString} {members : List (List ℕ × Json)}

/-- One more name, with the comma before it. -/
theorem nameText_nextName {name : CString} (hname : PlainName name) :
    ∃ label, NameText label (points name) ∧ nextName name = ',' :: (label ++ " ".toList) := by
  refine ⟨"\n".toList ++ ("\"".toList ++ name ++ "\" :".toList), ?_, ?_⟩
  · exact (nameText_of_plainName hname).pad blank_newline
  · simp [nextName, firstName, quoted]

/-- The members once a result is added as it is. -/
theorem members_rest {name raw : CString} {more : List (List ℕ × Json)} (htext : Members text members)
    (hname : PlainName name) (hrest : Rest (points name) raw more) :
    Members (text ++ (nextName name ++ raw)) (members ++ more) := by
  obtain ⟨label, hlabel, hnext⟩ := nameText_nextName hname
  rw [hnext]
  have hspace : Blank " ".toList := by decide
  induction hrest with
  | value hbefore hvalue hafter =>
    have hsnoc := htext.snoc hlabel (hspace.append hbefore) hvalue hafter
    simpa using hsnoc
  | snoc _ hname hbefore hvalue hafter ih =>
    have hsnoc := ih.snoc hname hbefore hvalue hafter
    simpa using hsnoc

theorem members_quoted {name body : CString} {value : List ℕ} (htext : Members text members)
    (hname : PlainName name) (hbody : StringBody body value) :
    Members (text ++ (nextName name ++ quoted body)) (members ++ [(points name, .str value)]) := by
  have hvalue : Rest (points name) (quoted body) [(points name, .str value)] := by
    have hstr : Rest (points name) _ [(points name, .str value)] :=
      .value (by decide : Blank []) (.str hbody) (by decide : Blank [])
    simpa [quoted] using hstr
  exact members_rest htext hname hvalue

/-- The members that an optional text stands for. -/
def optionalMembers (name text : CString) : List (List ℕ × Json) :=
  if text = [] then [] else [(points name, .str (points text))]

theorem members_optional {name value : CString} {quote : CString → CString} (htext : Members text members)
    (hname : PlainName name) (hquote : value ≠ [] → StringBody (quote value) (points value)) :
    Members (text ++ optionalText name quote value) (members ++ optionalMembers name value) := by
  unfold optionalText optionalMembers
  split_ifs with hvalue
  · simpa using htext
  · exact members_quoted htext hname (hquote hvalue)

end Pieces

section Boundaries

variable {s s' : Json.State} {v : Json} {frames : List Frame} {init : List (List ℕ × Json)} {last : List ℕ}

/-- A member that is not left out follows another one. -/
theorem ended_of_optionalText {name text rest : CString} {quote : CString → CString} (hname : PlainName name)
    (htext : text ≠ []) (hrun : Json.run s (optionalText name quote text ++ rest) = some s') :
    ∃ v frames init last, Ended s v (.member init last :: frames) := by
  have hshape : optionalText name quote text ++ rest =
      (',' :: '\n' :: ("\"".toList ++ name ++ "\" :".toList)) ++ (" ".toList ++ quoted (quote text) ++ rest) := by
    simp [optionalText, htext, nextName, firstName, quoted]
  rw [hshape, Json.run_append] at hrun
  obtain ⟨mid, hmid, -⟩ := Option.bind_eq_some_iff.1 hrun
  exact Json.ended_of_name (nameText_of_plainName hname) hmid

/-- What is read of an optional member. -/
theorem run_optionalText {name text : CString} {quote : CString → CString} (hname : PlainName name)
    (hquote : text ≠ [] → StringBody (quote text) (points text)) (hs : Ended s v (.member init last :: frames)) :
    ∃ s' v' init' last', Json.run s (optionalText name quote text) = some s' ∧
      Ended s' v' (.member init' last' :: frames) ∧
      init' ++ [(last', v')] = init ++ [(last, v)] ++ optionalMembers name text := by
  unfold optionalText optionalMembers
  split_ifs with htext
  · exact ⟨s, v, init, last, rfl, hs, by simp⟩
  · obtain ⟨label, hlabel, hnext⟩ := nameText_nextName hname
    refine ⟨_, .str (points text), init ++ [(last, v)], points name, ?_, .inl rfl, rfl⟩
    have hbody : Json.run (.token none, .member (init ++ [(last, v)]) (points name) :: frames)
        ('"' :: quote text ++ ['"']) = _ := Json.run_stringBody (hquote htext)
    have hshape : nextName name ++ quoted (quote text) =
        ',' :: (label ++ (" ".toList ++ ('"' :: quote text ++ ['"']))) := by simp [hnext, quoted]
    rw [hshape, Json.run_cons, (Json.step_ended_member hs).1, Option.bind_some, Json.run_append,
      Json.run_nameText hlabel, Option.bind_some, Json.run_append,
      Json.run_blank_token (by decide : Blank " ".toList), Option.bind_some, hbody]
    rfl

end Boundaries

section Documents

variable {backslashify : CString → CString} {result message code : Option CString} {status : CString}

def codeMembers (status code : CString) : List (List ℕ × Json) :=
  if status = "OK".toList then [] else optionalMembers "sms_code".toList code

/-- The members of a reply whose result stands for `more`. -/
def replyMembers (status : CString) (more : List (List ℕ × Json)) (message code : Option CString) :
    List (List ℕ × Json) :=
  (points "sms_status".toList, .str (points status)) :: more ++
    optionalMembers "sms_message".toList (message.getD []) ++ codeMembers status (code.getD [])

theorem members_codeText {text : CString} {members : List (List ℕ × Json)} (htext : Members text members)
    (hcode : PlainName (code.getD [])) :
    Members (text ++ codeText status (code.getD [])) (members ++ codeMembers status (code.getD [])) := by
  unfold codeText codeMembers
  split_ifs
  · simpa using htext
  · exact members_optional htext (by decide) fun _ ↦ Json.stringBody_of_isPlain hcode

theorem members_status (hstatus : status = "OK".toList ∨ status = "FAIL".toList) :
    Members ("\n".toList ++ firstName "sms_status".toList ++ quoted status)
      [(points "sms_status".toList, .str (points status))] := by
  have hplain : PlainName status := by rcases hstatus with rfl | rfl <;> decide
  have hlabel : NameText ("\n".toList ++ ("\"".toList ++ "sms_status".toList ++ "\" :".toList))
      (points "sms_status".toList) := (nameText_of_plainName (by decide)).pad blank_newline
  have hsingle := Members.single hlabel (by decide : Blank " ".toList)
    (.str (Json.stringBody_of_isPlain hplain)) (by decide : Blank [])
  simpa [firstName, quoted] using hsingle

/-- The document around the part that holds the result. -/
theorem userMessage_eq_braces (backslashify : CString → CString) (result : Option CString) (status : CString)
    (message code : Option CString) : userMessage backslashify result status message code =
      [] ++ ('\x7b' :: ("\n".toList ++ firstName "sms_status".toList ++ quoted status ++
        resultText backslashify (result.getD []) ++
        optionalText "sms_message".toList backslashify (message.getD []) ++ codeText status (code.getD []) ++
        "\n".toList) ++ ['\x7d']) ++ "\n".toList := by
  rw [userMessage_eq]
  simp

/-- The message and the code are added to what stands for the result. -/
theorem document_of_members (hquote : ∀ text, StringBody (backslashify text) (points text))
    (hcode : PlainName (code.getD [])) {more : List (List ℕ × Json)}
    (hmore : Members ("\n".toList ++ firstName "sms_status".toList ++ quoted status ++
      resultText backslashify (result.getD [])) ((points "sms_status".toList, .str (points status)) :: more)) :
    Document (userMessage backslashify result status message code)
      (.obj (replyMembers status more message code)) := by
  have hmessage := members_optional hmore (by decide : PlainName "sms_message".toList) fun _ ↦
    hquote (message.getD [])
  have hall : Members _ (replyMembers status more message code) :=
    (members_codeText hmessage hcode).pad_right blank_newline
  exact ⟨[], _, "\n".toList, by decide, .obj hall, blank_newline, userMessage_eq_braces ..⟩

/-- The end of a reply after a member of the outermost object. -/
theorem accepted_end {s : Json.State} {v w : Json} {frames : List Frame} {init : List (List ℕ × Json)}
    {last : List ℕ} (hquote : ∀ text, StringBody (backslashify text) (points text))
    (hcode : PlainName (code.getD [])) (hs : Ended s v (.member init last :: frames))
    (hend : (Json.run s (optionalText "sms_message".toList backslashify (message.getD []) ++
      codeText status (code.getD []) ++ "\n\x7d\n".toList)).bind Json.accepted = some w) :
    frames = [] ∧ w = .obj (init ++ [(last, v)] ++ optionalMembers "sms_message".toList (message.getD []) ++
      codeMembers status (code.getD [])) := by
  obtain ⟨s₁, v₁, init₁, last₁, hrun₁, hs₁, hmembers₁⟩ :=
    run_optionalText (by decide : PlainName "sms_message".toList) (fun _ ↦ hquote (message.getD [])) hs
  obtain ⟨s₂, v₂, init₂, last₂, hrun₂, hs₂, hmembers₂⟩ : ∃ s₂ v₂ init₂ last₂,
      Json.run s₁ (codeText status (code.getD [])) = some s₂ ∧ Ended s₂ v₂ (.member init₂ last₂ :: frames) ∧
      init₂ ++ [(last₂, v₂)] = init₁ ++ [(last₁, v₁)] ++ codeMembers status (code.getD []) := by
    unfold codeText codeMembers
    split_ifs
    · exact ⟨s₁, v₁, init₁, last₁, rfl, hs₁, by simp⟩
    · exact run_optionalText (by decide) (fun _ ↦ Json.stringBody_of_isPlain hcode) hs₁
  rw [← hmembers₁, ← hmembers₂]
  rw [Json.run_append, Json.run_append, hrun₁, Option.bind_some, hrun₂, Option.bind_some] at hend
  have hnewline : Json.step s₂ '\n' = some (.after v₂, .member init₂ last₂ :: frames) := Json.step_of_ended hs₂ rfl
  have hclose : Json.run s₂ "\n\x7d\n".toList = some (.after (.obj (init₂ ++ [(last₂, v₂)])), frames) := by
    have hshape : "\n\x7d\n".toList = ['\n', '\x7d', '\n'] := rfl
    rw [hshape, Json.run_cons, hnewline]
    rfl
  rw [hclose, Option.bind_some] at hend
  cases frames with
  | nil => exact ⟨rfl, (Option.some.inj hend).symm⟩
  | cons frame frames => exact nomatch hend

/-- What stands before the end of a reply is a member of an object. -/
theorem ended_of_end {s : Json.State} {w : Json} {members : List (List ℕ × Json)} {name : List ℕ} {raw : CString}
    (hrun : Json.run (.token none, [.member members name]) raw = some s)
    (hend : (Json.run s (optionalText "sms_message".toList backslashify (message.getD []) ++
      codeText status (code.getD []) ++ "\n\x7d\n".toList)).bind Json.accepted = some w) :
    ∃ v frames init last, Ended s v (.member init last :: frames) := by
  obtain ⟨s', hend', -⟩ := Option.bind_eq_some_iff.1 hend
  by_cases hmessage : message.getD [] = []
  · by_cases hcode : status = "OK".toList ∨ code.getD [] = []
    · have htext : codeText status (code.getD []) = [] := by
        unfold codeText optionalText
        rcases hcode with h | h <;> simp [h]
      have hclose : (Json.run s ['\n', '\x7d', '\n']).bind Json.accepted = some w := by
        simpa [optionalText, hmessage, htext] using hend
      obtain ⟨v, init, last, hs, -⟩ := Json.ended_of_close hrun hclose
      exact ⟨v, [], init, last, hs⟩
    · rw [not_or] at hcode
      have htext : codeText status (code.getD []) = optionalText "sms_code".toList id (code.getD []) :=
        if_neg hcode.1
      have hempty : optionalText "sms_message".toList backslashify (message.getD []) = [] := if_pos hmessage
      rw [htext, hempty, List.nil_append] at hend'
      exact ended_of_optionalText (by decide) hcode.2 hend'
  · rw [List.append_assoc] at hend'
    exact ended_of_optionalText (by decide) hmessage hend'

/-- A raw result in a well-formed reply is the rest of an object after a name. -/
theorem rest_of_document (hquote : ∀ text, StringBody (backslashify text) (points text))
    (hcode : PlainName (code.getD [])) (hstatus : status = "OK".toList ∨ status = "FAIL".toList)
    (hraw : IsRaw (result.getD [])) {members : List (List ℕ × Json)}
    (hdocument : Document (userMessage backslashify result status message code) (.obj members)) :
    ∃ more, Rest (points "sms_result".toList) (result.getD []) more ∧
      members = replyMembers status more message code := by
  have hresult : resultText backslashify (result.getD []) = nextName "sms_result".toList ++ result.getD [] := by
    rcases resultText_eq backslashify (result.getD []) with h | h
    · exact h.2
    · exact absurd hraw h.1
  have hparse := Json.parse_of_document hdocument
  have hstart : Json.run (.token none, []) ("\x7b\n".toList ++ firstName "sms_status".toList ++ quoted status ++
      nextName "sms_result".toList) = some (.token none,
        [.member [(points "sms_status".toList, .str (points status))] (points "sms_result".toList)]) := by
    rcases hstatus with rfl | rfl <;> rfl
  have hshape : userMessage backslashify result status message code =
      ("\x7b\n".toList ++ firstName "sms_status".toList ++ quoted status ++ nextName "sms_result".toList) ++
        (result.getD [] ++ (optionalText "sms_message".toList backslashify (message.getD []) ++
          codeText status (code.getD []) ++ "\n\x7d\n".toList)) := by
    rw [userMessage_eq, hresult]
    simp only [List.append_assoc]
  rw [Json.parse, hshape, Json.run_append, hstart, Option.bind_some, Json.run_append, Option.bind_assoc] at hparse
  obtain ⟨s, hrun, hend⟩ := Option.bind_eq_some_iff.1 hparse
  obtain ⟨v, frames, init, last, hs⟩ := ended_of_end hrun hend
  obtain ⟨rfl, hmembers⟩ := accepted_end hquote hcode hs hend
  obtain ⟨more, hmore, hrest⟩ := Json.rest_of_run hrun hs
  refine ⟨more, hrest, ?_⟩
  rw [← hmore] at hmembers
  injection hmembers

theorem mem_optionalMembers {name text : CString} {name' : List ℕ} {v : Json} :
    (name', v) ∈ optionalMembers name text ↔ text ≠ [] ∧ name' = points name ∧ v = .str (points text) := by
  unfold optionalMembers
  split_ifs with htext <;> simp [htext]

/-- The members of a reply, by their names. -/
theorem mem_replyMembers {more : List (List ℕ × Json)} {name : List ℕ} {v : Json} :
    (name, v) ∈ replyMembers status more message code ↔
      name = points "sms_status".toList ∧ v = .str (points status) ∨ (name, v) ∈ more ∨
      (message.getD [] ≠ [] ∧ name = points "sms_message".toList ∧ v = .str (points (message.getD []))) ∨
      (status ≠ "OK".toList ∧ code.getD [] ≠ [] ∧ name = points "sms_code".toList ∧
        v = .str (points (code.getD []))) := by
  unfold replyMembers codeMembers
  by_cases hstatus : status = "OK".toList
  · rw [if_pos hstatus]
    simp only [List.cons_append, List.mem_cons, List.mem_append, Prod.mk.injEq, mem_optionalMembers,
      List.not_mem_nil, hstatus, ne_eq, not_true_eq_false, false_and, or_false]
  · rw [if_neg hstatus]
    simp only [List.cons_append, List.mem_cons, List.mem_append, Prod.mk.injEq, mem_optionalMembers, ne_eq,
      hstatus, not_false_eq_true, true_and, or_assoc]

theorem describes_replyMembers (hstatus : status = "OK".toList ∨ status = "FAIL".toList)
    {more : List (List ℕ × Json)} (hresult : (∃ v, (points "sms_result".toList, v) ∈ more) ↔ result.getD [] ≠ []) :
    Describes status result code (replyMembers status more message code) ↔
      (∀ v, (points "sms_status".toList, v) ∈ more → v = .str (points status)) ∧
      ((∃ v, (points "sms_code".toList, v) ∈ more) → status = "FAIL".toList ∧ code.getD [] ≠ []) := by
  have hmessage : points "sms_message".toList ≠ points "sms_status".toList ∧
      points "sms_message".toList ≠ points "sms_result".toList ∧
      points "sms_message".toList ≠ points "sms_code".toList := by decide
  have hnames : points "sms_status".toList ≠ points "sms_result".toList ∧
      points "sms_status".toList ≠ points "sms_code".toList ∧
      points "sms_result".toList ≠ points "sms_code".toList := by decide
  have hfail : status ≠ "OK".toList ↔ status = "FAIL".toList := by
    rcases hstatus with rfl | rfl <;> decide
  constructor
  · intro hdescribes
    refine ⟨fun v hv ↦ hdescribes.hasStatus.2 v (mem_replyMembers.2 (.inr (.inl hv))), ?_⟩
    rintro ⟨v, hv⟩
    exact hdescribes.hasCode.1 ⟨v, mem_replyMembers.2 (.inr (.inl hv))⟩
  · rintro ⟨hsame, hmore⟩
    refine ⟨⟨⟨_, mem_replyMembers.2 (.inl ⟨rfl, rfl⟩)⟩, ?_⟩, ?_, ?_⟩
    · intro v hv
      rcases mem_replyMembers.1 hv with h | h | h | h
      · exact h.2
      · exact hsame v h
      · exact absurd h.2.1.symm hmessage.1
      · exact absurd h.2.2.1 hnames.2.1
    · rw [← hresult]
      apply exists_congr
      intro v
      refine ⟨fun hv ↦ ?_, fun hv ↦ mem_replyMembers.2 (.inr (.inl hv))⟩
      rcases mem_replyMembers.1 hv with h | h | h | h
      · exact absurd h.1.symm hnames.1
      · exact h
      · exact absurd h.2.1.symm hmessage.2.1
      · exact absurd h.2.2.1 hnames.2.2
    · rw [← hfail] at hmore ⊢
      constructor
      · rintro ⟨v, hv⟩
        rcases mem_replyMembers.1 hv with h | h | h | h
        · exact absurd h.1.symm hnames.2.1
        · exact hmore ⟨v, h⟩
        · exact absurd h.2.1.symm hmessage.2.2
        · exact ⟨h.1, h.2.1⟩
      · rintro ⟨hok, hcode⟩
        exact ⟨_, mem_replyMembers.2 (.inr (.inr (.inr ⟨hok, hcode, rfl, rfl⟩)))⟩

/-- A reply is well formed, and says what it should, exactly when its result fits. -/
theorem document_iff_fits (hquote : ∀ text, StringBody (backslashify text) (points text))
    (hcode : PlainName (code.getD [])) (hstatus : status = "OK".toList ∨ status = "FAIL".toList) :
    (∃ members, Document (userMessage backslashify result status message code) (.obj members) ∧
      Describes status result code members) ↔ Fits status result code := by
  have hfirst := members_status hstatus
  rcases resultText_eq backslashify (result.getD []) with ⟨hraw, hresult⟩ | ⟨hraw, hresult⟩
  · have hne : result.getD [] ≠ [] := by
      intro hempty
      rw [hempty] at hraw
      exact absurd hraw (by simp [IsRaw])
    have hmore {more : List (List ℕ × Json)} (hrest : Rest (points "sms_result".toList) (result.getD []) more) :
        (∃ v, (points "sms_result".toList, v) ∈ more) ↔ result.getD [] ≠ [] :=
      ⟨fun _ ↦ hne, fun _ ↦ hrest.exists_mem⟩
    constructor
    · rintro ⟨members, hdocument, hdescribes⟩ _
      obtain ⟨more, hrest, rfl⟩ := rest_of_document hquote hcode hstatus hraw hdocument
      exact ⟨more, hrest, (describes_replyMembers hstatus (hmore hrest)).1 hdescribes⟩
    · intro hfits
      obtain ⟨more, hrest, hother⟩ := hfits hraw
      have hmembers := members_rest hfirst (by decide) hrest
      rw [← hresult] at hmembers
      exact ⟨_, document_of_members hquote hcode hmembers,
        (describes_replyMembers hstatus (hmore hrest)).2 hother⟩
  · have hmembers := members_optional hfirst (by decide : PlainName "sms_result".toList) fun _ ↦
      hquote (result.getD [])
    rw [← hresult] at hmembers
    have hmem (name : List ℕ) (v : Json) := @mem_optionalMembers "sms_result".toList (result.getD []) name v
    refine ⟨fun _ hraw' ↦ absurd hraw' hraw, fun _ ↦ ⟨_, document_of_members hquote hcode hmembers,
      (describes_replyMembers hstatus ?_).2 ⟨?_, ?_⟩⟩⟩
    · constructor
      · rintro ⟨v, hv⟩
        exact ((hmem _ v).1 hv).1
      · intro hne
        exact ⟨_, (hmem _ _).2 ⟨hne, rfl, rfl⟩⟩
    · intro v hv
      exact absurd ((hmem _ v).1 hv).2.1 (by decide)
    · rintro ⟨v, hv⟩
      exact absurd ((hmem _ v).1 hv).2.1 (by decide)

end Documents

section Sending

variable {library : Library} {csp : Client}

theorem total_askLibrary {post : Library → List CString → Prop} (hpost : post library []) :
    Total (transcript library) (ask .library) post [] :=
  total_askTranscript library rfl fun answer hanswer ↦ by
    obtain rfl : answer = library := hanswer
    exact hpost

theorem total_internalSendUserMessage (hopen : 0 < csp.cfd) (result : Option CString) (status : CString)
    (message code : Option CString) :
    Total (transcript library) (internalSendUserMessage library result status message code csp) (fun _ said ↦
      said = [userMessage library.gpulBackslashify result status message code]) [] := by
  unfold internalSendUserMessage cfdOpen
  refine Procedure.total_bind (Procedure.total_bind (total_ret (total_ret ?_)))
  rw [if_pos (decide_eq_true hopen)]
  refine Procedure.total_bind ((total_writePieces_singleton _).mono fun _ _ hsaid ↦ ?_)
  exact total_ret hsaid

/-- A reply is one document. -/
theorem UserReply.total_send {reply : UserReply} (hopen : 0 < csp.cfd) (htext : reply.HasText library) :
    Total (transcript library) (reply.send csp) (fun _ said ↦ said = [reply.document library]) [] := by
  cases reply with
  | ok result =>
    refine Procedure.total_bind (Procedure.total_lift (total_askLibrary ?_))
    exact total_internalSendUserMessage hopen ..
  | okEx result message =>
    refine Procedure.total_bind (Procedure.total_lift (total_askLibrary ?_))
    exact total_internalSendUserMessage hopen ..
  | error result e =>
    refine Procedure.total_bind (Procedure.total_lift (total_askLibrary ?_))
    exact total_internalSendUserMessage hopen ..
  | errorEx result e =>
    refine Procedure.total_bind (Procedure.total_lift (total_askLibrary ?_))
    obtain ⟨text, hmessage⟩ := Option.isSome_iff_exists.1 htext
    have hdocument : (UserReply.errorEx result e).document library =
        userMessage library.gpulBackslashify result "FAIL".toList
          (some (text ++ result.elim [] (". ".toList ++ ·))) (library.getErrorCodeStr e) := by
      have htext' : (UserReply.errorEx result e).message library =
          some (text ++ result.elim [] (". ".toList ++ ·)) := congrArg (Option.map _) hmessage
      unfold UserReply.document
      rw [htext']
      rfl
    rw [hdocument]
    simp only [hmessage, Option.elim_some]
    exact total_internalSendUserMessage hopen ..

/-- Without a text for the error, `sms_send_user_error_ex` does not return. -/
theorem UserReply.hasText_of_run {reply : UserReply} {trace : List (Event signature)} {value : Unit × Client}
    (hrun : Run (reply.send csp) trace (.ret value)) (hmeets : (transcript library).Meets [] trace) :
    reply.HasText library := by
  cases reply with
  | errorEx result e =>
    have hnever (hmessage : library.getErrorMessage e = none) :
        (smsSendUserErrorEx result e csp).Safe (transcript library) (fun _ _ ↦ False) [] := by
      refine (Program.safe_bind _ _ _ _).2 ((Program.safe_bind _ _ _ _).2 ⟨trivial, fun answer hanswer ↦ ?_⟩)
      obtain rfl : answer = library := hanswer
      change Program.Safe (transcript answer)
        (((answer.getErrorMessage e).elim (Procedure.lift nullDereference) _ : M Unit) csp) _ _
      rw [hmessage]
      exact ⟨trivial, fun answer ↦ answer.elim⟩
    cases hmessage : library.getErrorMessage e with
    | none => exact (hrun.returns (hnever hmessage) hmeets).elim
    | some text => simp [UserReply.HasText, hmessage]
  | _ => trivial

/-- The replies of the JSON verbs are well formed exactly when a result that begins with a bracket fits. -/
theorem send_wellFormed_iff (hquote : ∀ text, StringBody (library.gpulBackslashify text) (points text))
    (hcodes : ∀ e code, library.getErrorCodeStr e = some code → PlainName code) (reply : UserReply)
    (hopen : 0 < csp.cfd) :
    ((∃ trace value, Run (reply.send csp) trace (.ret value) ∧ (transcript library).Meets [] trace) ∧
      ∀ trace value, Run (reply.send csp) trace (.ret value) → (transcript library).Meets [] trace →
        ∃ bytes, (transcript library).after [] trace = [bytes] ∧ ∃ members, Document bytes (.obj members) ∧
          Describes reply.status reply.result (reply.code library) members) ↔
    reply.HasText library ∧ Fits reply.status reply.result (reply.code library) := by
  have hcode : PlainName ((reply.code library).getD []) := by
    have hlibrary (e : Int) : PlainName ((library.getErrorCodeStr e).getD []) := by
      cases hstr : library.getErrorCodeStr e with
      | none => exact List.forall_mem_nil _
      | some code => exact hcodes e code hstr
    have hzero : PlainName "0x00000000".toList := by decide
    cases reply with
    | ok result => exact hzero
    | okEx result message => exact hzero
    | error result e => exact hlibrary e
    | errorEx result e => exact hlibrary e
  have hiff : (∃ members, Document (reply.document library) (.obj members) ∧
      Describes reply.status reply.result (reply.code library) members) ↔
      Fits reply.status reply.result (reply.code library) := document_iff_fits hquote hcode reply.status_eq
  constructor
  · rintro ⟨⟨trace, value, hrun, hmeets⟩, hall⟩
    have htext := UserReply.hasText_of_run hrun hmeets
    refine ⟨htext, hiff.1 ?_⟩
    obtain ⟨bytes, hbytes, hwell⟩ := hall trace value hrun hmeets
    have hdocument := (UserReply.total_send hopen htext).run.2 trace value hrun hmeets
    obtain rfl : bytes = reply.document library := by simpa [hbytes] using hdocument
    exact hwell
  · rintro ⟨htext, hfits⟩
    obtain ⟨hexists, hall⟩ := (UserReply.total_send hopen htext).run
    exact ⟨hexists, fun trace value hrun hmeets ↦ ⟨_, hall trace value hrun hmeets, hiff.2 hfits⟩⟩

/-- A prompt of a device begins with a bracket; the reply is no JSON text. -/
theorem send_prompt_malformed :
    let reply := UserReply.ok (some "[root@router]#".toList)
    (∀ text, StringBody (escapingLibrary.gpulBackslashify text) (points text)) ∧
      ∃ trace value, Run (reply.send ⟨5, none⟩) trace (.ret value) ∧ ∃ bytes,
        (transcript escapingLibrary).after [] trace = [bytes] ∧ ∀ v, ¬Document bytes v := by
  intro reply
  refine ⟨Json.stringBody_escape, ?_⟩
  have htotal : Total (transcript escapingLibrary) (reply.send ⟨5, none⟩) _ [] :=
    UserReply.total_send (by decide) trivial
  obtain ⟨trace, value, hrun, hmeets⟩ := htotal.run.1
  refine ⟨trace, value, hrun, _, htotal.run.2 trace value hrun hmeets, fun v hv ↦ ?_⟩
  have hparse := Json.parse_of_document hv
  have hnone : (Json.parse (reply.document escapingLibrary)).isNone = true := by decide +kernel
  rw [hparse] at hnone
  exact nomatch hnone

/-- A table of routes as JSON is a result that fits. -/
theorem send_wellFormed_iff_json :
    let reply := UserReply.ok (some "[\x7b\"up\":true\x7d]".toList)
    (∃ trace value, Run (reply.send ⟨5, none⟩) trace (.ret value) ∧
      (transcript escapingLibrary).Meets [] trace) ∧
    ∀ trace value, Run (reply.send ⟨5, none⟩) trace (.ret value) →
      (transcript escapingLibrary).Meets [] trace → ∃ bytes,
        (transcript escapingLibrary).after [] trace = [bytes] ∧ ∃ members, Document bytes (.obj members) ∧
          Describes reply.status reply.result (reply.code escapingLibrary) members := by
  intro reply
  have hcodes : ∀ e code, escapingLibrary.getErrorCodeStr e = some code → PlainName code := by
    intro e code hcode
    obtain rfl : "0x00000001".toList = code := Option.some.inj hcode
    decide
  refine (send_wellFormed_iff Json.stringBody_escape hcodes reply (by decide)).2 ⟨trivial, fun _ ↦ ?_⟩
  obtain ⟨v, before, body, after, hbefore, hbody, hafter, htext⟩ :
      ∃ v, Document "[\x7b\"up\":true\x7d]".toList v := ⟨_, Json.document_of_parse rfl⟩
  have hrest : Rest (points "sms_result".toList) (before ++ body ++ after) _ := .value hbefore hbody hafter
  rw [← htext] at hrest
  refine ⟨_, hrest, ?_, ?_⟩
  · intro w hw
    have hname : points "sms_status".toList = points "sms_result".toList :=
      congrArg Prod.fst (List.mem_singleton.1 hw)
    exact absurd hname (by decide)
  · rintro ⟨w, hw⟩
    have hname : points "sms_code".toList = points "sms_result".toList :=
      congrArg Prod.fst (List.mem_singleton.1 hw)
    exact absurd hname (by decide)

end Sending

end CoreEngine.Smsd
