import CoreEngine.Interaction.Possibility
import CoreEngine.Json.Soundness
import CoreEngine.Smsd.Simulator

/-!
# User messages

The functions with which scripts build a message to the user (`php_misc.c`), and the message as the client
decodes it.
-/

namespace CoreEngine.Smsd

open Interaction
open Program (Run Total total_ret total_perform)
open Json (Blank Members Elements StringBody NameText Document points)

section Builders

/-- The message so far, and a comma unless it is NULL or empty. -/
def separated (message : Option CString) : CString :=
  if message.getD [] = [] then [] else message.getD [] ++ ",\n".toList

def smsUserMessageAdd (backslashify : CString → CString) (message : Option CString) (name value : CString) :
    CString :=
  separated message ++ "\"".toList ++ name ++ "\" : \"".toList ++ backslashify value ++ "\"".toList

def smsUserMessageAddJson (message : Option CString) (name value : CString) : CString :=
  separated message ++ "\"".toList ++ name ++ "\" : \x7b\n".toList ++ value ++ "\n\x7d".toList

def smsUserMessageAddArray (message : Option CString) (name array : CString) : CString :=
  separated message ++ "\"".toList ++ name ++ "\" : [\n".toList ++ array ++ "\n]".toList

def smsUserMessageArrayAdd (array : Option CString) (row : CString) : CString :=
  separated array ++ "\x7b\n".toList ++ row ++ "\n\x7d".toList

end Builders

section Trees

/-- A member of a message. -/
inductive Entry
  | text (name value : CString)
  | json (name : CString) (entries : List Entry)
  | array (name : CString) (rows : List (List Entry))

mutual

/-- The members that a message stands for, in their order. -/
def members : List Entry → List (List ℕ × Json)
  | [] => []
  | entry :: entries => entry.member :: members entries

def Entry.member : Entry → List ℕ × Json
  | .text name value => (points name, .str (points value))
  | .json name entries => (points name, .obj (members entries))
  | .array name rows => (points name, .arr (items rows))

def items : List (List Entry) → List Json
  | [] => []
  | row :: rows => .obj (members row) :: items rows

end

theorem members_append (entries : List Entry) (entry : Entry) :
    members (entries ++ [entry]) = members entries ++ [entry.member] := by
  induction entries with
  | nil => simp [members]
  | cons first entries ih => simp [members, ih]

theorem items_append (rows : List (List Entry)) (row : List Entry) :
    items (rows ++ [row]) = items rows ++ [.obj (members row)] := by
  induction rows with
  | nil => simp [items]
  | cons first rows ih => simp [items, ih]

/-- A name that needs no escapes. -/
def PlainName (name : CString) : Prop := ∀ c ∈ name, Json.isPlain c = true

instance (name : CString) : Decidable (PlainName name) := List.decidableBAll _ name

mutual

/-- The calls that build a message from the bottom up. An empty message is NULL or an empty string. -/
inductive Built (backslashify : CString → CString) : Option CString → List Entry → Prop
  | null : Built backslashify none []
  | empty : Built backslashify (some []) []
  | add {message : Option CString} {entries : List Entry} {name : CString} (value : CString)
      (hmessage : Built backslashify message entries) (hname : PlainName name) :
      Built backslashify (some (smsUserMessageAdd backslashify message name value))
        (entries ++ [.text name value])
  | addJson {message value : Option CString} {entries inner : List Entry} {name : CString}
      (hmessage : Built backslashify message entries) (hname : PlainName name)
      (hvalue : Built backslashify value inner) :
      Built backslashify (some (smsUserMessageAddJson message name (value.getD [])))
        (entries ++ [.json name inner])
  | addArray {message array : Option CString} {entries : List Entry} {rows : List (List Entry)}
      {name : CString} (hmessage : Built backslashify message entries) (hname : PlainName name)
      (harray : BuiltArray backslashify array rows) :
      Built backslashify (some (smsUserMessageAddArray message name (array.getD [])))
        (entries ++ [.array name rows])

/-- The calls that build an array, row by row. -/
inductive BuiltArray (backslashify : CString → CString) : Option CString → List (List Entry) → Prop
  | null : BuiltArray backslashify none []
  | empty : BuiltArray backslashify (some []) []
  | add {array row : Option CString} {rows : List (List Entry)} {entries : List Entry}
      (harray : BuiltArray backslashify array rows) (hrow : Built backslashify row entries) :
      BuiltArray backslashify (some (smsUserMessageArrayAdd array (row.getD []))) (rows ++ [entries])

end

end Trees

section Decoding

variable {backslashify : CString → CString}

/-- The text of a message: empty, or members with commas between them. -/
def MessageText (message : Option CString) (entries : List Entry) : Prop :=
  message.getD [] = [] ∧ entries = [] ∨ message.getD [] ≠ [] ∧ Members (message.getD []) (members entries)

def ArrayText (array : Option CString) (rows : List (List Entry)) : Prop :=
  array.getD [] = [] ∧ rows = [] ∨ array.getD [] ≠ [] ∧ Elements (array.getD []) (items rows)

theorem blank_newline : Blank "\n".toList := by decide

/-- The object of a message, with line breaks inside its braces. -/
theorem MessageText.value {message : Option CString} {entries : List Entry} (htext : MessageText message entries) :
    Json.Value ("\x7b\n".toList ++ message.getD [] ++ "\n\x7d".toList) (.obj (members entries)) := by
  have hshape : "\x7b\n".toList ++ message.getD [] ++ "\n\x7d".toList =
      '\x7b' :: ("\n".toList ++ message.getD [] ++ "\n".toList) ++ ['\x7d'] := by simp
  rw [hshape]
  rcases htext with ⟨hempty, rfl⟩ | ⟨-, htext⟩
  · rw [hempty]
    exact .emptyObj (by decide)
  · exact .obj ((htext.pad_left blank_newline).pad_right blank_newline)

theorem ArrayText.value {array : Option CString} {rows : List (List Entry)} (htext : ArrayText array rows) :
    Json.Value ("[\n".toList ++ array.getD [] ++ "\n]".toList) (.arr (items rows)) := by
  have hshape : "[\n".toList ++ array.getD [] ++ "\n]".toList =
      '[' :: ("\n".toList ++ array.getD [] ++ "\n".toList) ++ [']'] := by simp
  rw [hshape]
  rcases htext with ⟨hempty, rfl⟩ | ⟨-, htext⟩
  · rw [hempty]
    exact .emptyArr (by decide)
  · exact .arr ((htext.pad_left blank_newline).pad_right blank_newline)

theorem nameText_of_plainName {name : CString} (hname : PlainName name) :
    NameText ("\"".toList ++ name ++ "\" :".toList) (points name) :=
  ⟨[], name, " ".toList, by decide, Json.stringBody_of_isPlain hname, by decide, by simp⟩

/-- One more member. -/
theorem MessageText.add {message : Option CString} {entries : List Entry}
    (htext : MessageText message entries) (entry : Entry) {name text : CString} {v : Json}
    (hname : PlainName name) (hvalue : Json.Value text v) (hentry : entry.member = (points name, v)) :
    MessageText (some (separated message ++ "\"".toList ++ name ++ "\" : ".toList ++ text))
      (entries ++ [entry]) := by
  have hlabel := nameText_of_plainName hname
  right
  constructor
  · simp
  · rw [members_append, hentry]
    rcases htext with ⟨hempty, rfl⟩ | ⟨hmessage, htext⟩
    · have hsingle : Members _ [(points name, v)] :=
        .single hlabel (by decide : Blank " ".toList) hvalue (by decide : Blank [])
      simpa [separated, hempty, members] using hsingle
    · have hsnoc := htext.snoc (hlabel.pad blank_newline) (by decide : Blank " ".toList) hvalue
        (by decide : Blank [])
      simpa [separated, hmessage] using hsnoc

/-- One more row. -/
theorem ArrayText.add {array row : Option CString} {rows : List (List Entry)} {entries : List Entry}
    (htext : ArrayText array rows) (hrow : MessageText row entries) :
    ArrayText (some (smsUserMessageArrayAdd array (row.getD []))) (rows ++ [entries]) := by
  have hvalue := hrow.value
  right
  constructor
  · simp [smsUserMessageArrayAdd]
  · rw [items_append]
    rcases htext with ⟨hempty, rfl⟩ | ⟨harray, htext⟩
    · have hsingle := Elements.single (by decide : Blank []) hvalue (by decide : Blank [])
      simpa [smsUserMessageArrayAdd, separated, hempty, items] using hsingle
    · have hsnoc := htext.snoc blank_newline hvalue (by decide : Blank [])
      simpa [smsUserMessageArrayAdd, separated, harray] using hsnoc

-- the derivation is followed: sub-messages and rows are built before they are added
mutual

theorem messageText_of_built (hquote : ∀ text, StringBody (backslashify text) (points text))
    {message : Option CString} {entries : List Entry} (hbuilt : Built backslashify message entries) :
    MessageText message entries :=
  match hbuilt with
  | .null => .inl ⟨rfl, rfl⟩
  | .empty => .inl ⟨rfl, rfl⟩
  | @Built.add _ _ _ name value hmessage hname => by
    have hadd := (messageText_of_built hquote hmessage).add (.text name value) hname (.str (hquote value)) rfl
    simpa [smsUserMessageAdd] using hadd
  | @Built.addJson _ _ _ _ inner name hmessage hname hvalue => by
    have hadd := (messageText_of_built hquote hmessage).add (.json name inner) hname
      (messageText_of_built hquote hvalue).value rfl
    simpa [smsUserMessageAddJson] using hadd
  | @Built.addArray _ _ _ _ rows name hmessage hname harray => by
    have hadd := (messageText_of_built hquote hmessage).add (.array name rows) hname
      (arrayText_of_built hquote harray).value rfl
    simpa [smsUserMessageAddArray] using hadd

theorem arrayText_of_built (hquote : ∀ text, StringBody (backslashify text) (points text))
    {array : Option CString} {rows : List (List Entry)} (hbuilt : BuiltArray backslashify array rows) :
    ArrayText array rows :=
  match hbuilt with
  | .null => .inl ⟨rfl, rfl⟩
  | .empty => .inl ⟨rfl, rfl⟩
  | .add harray hrow => (arrayText_of_built hquote harray).add (messageText_of_built hquote hrow)

end

end Decoding

section Sending

/-- What is written to the client, piece by piece; the library is the given one. -/
def transcript (library : Library) : Monitor signature (List CString) where
  allow _ _ := True
  expect _ op answer := match op, answer with
    | .library, answer => answer = library
    | _, _ => True
  next said op _ := match op with
    | .socketWrite _ bytes => said ++ [bytes]
    | _ => said

variable {library : Library} {said : List CString} {csp : Client}

theorem total_askTranscript {op : Op} {post : op.Answer → List CString → Prop} (answer : op.Answer)
    (hanswer : (transcript library).expect said op answer)
    (hpost : ∀ answer, (transcript library).expect said op answer →
      post answer ((transcript library).next said op answer)) :
    Total (transcript library) (ask op) post said :=
  total_perform trivial ⟨answer, hanswer⟩ hpost

/-- A document is written in one piece. -/
theorem total_writePieces_singleton (bytes : CString) : Total (transcript library) (writePieces [bytes] csp)
    (fun _ said' ↦ said' = said ++ [bytes]) said := by
  unfold writePieces socketWrite
  refine Procedure.total_bind (Procedure.total_bind (total_ret (Procedure.total_lift ?_)))
  refine total_askTranscript (0 : Int) trivial fun ret _ ↦ ?_
  by_cases hret : ret ≠ bytes.length
  · rw [if_pos hret]
    exact total_ret rfl
  · rw [if_neg hret]
    refine Procedure.total_bind (Procedure.total_lift ?_)
    exact total_askTranscript () trivial fun _ _ ↦ total_ret rfl

theorem total_smsSendUserMessage (hopen : 0 < csp.cfd) (userMessage : CString) :
    Total (transcript library) (smsSendUserMessage userMessage csp)
      (fun _ said' ↦ said' = said ++ ["\x7b\n".toList ++ userMessage ++ "\n\x7d\n".toList]) said := by
  unfold smsSendUserMessage cfdOpen
  refine Procedure.total_bind (Procedure.total_bind (total_ret (total_ret ?_)))
  rw [if_pos (decide_eq_true hopen)]
  refine Procedure.total_bind ((total_writePieces_singleton _).mono fun _ _ hsaid ↦ ?_)
  exact total_ret hsaid

/-- What the client gets of a message that a script has built decodes to the tree that was built. -/
theorem smsSendUserMessage_decodes (hquote : ∀ text, StringBody (library.gpulBackslashify text) (points text))
    {message : Option CString} {entries : List Entry} (hbuilt : Built library.gpulBackslashify message entries)
    (hopen : 0 < csp.cfd) :
    (∃ trace result, Run (smsSendUserMessage (message.getD []) csp) trace (.ret result) ∧
      (transcript library).Meets [] trace) ∧
    ∀ trace result, Run (smsSendUserMessage (message.getD []) csp) trace (.ret result) →
      (transcript library).Meets [] trace → ∃ bytes, (transcript library).after [] trace = [bytes] ∧
        ∀ v, Document bytes v ↔ v = .obj (members entries) := by
  have htotal : Total (transcript library) (smsSendUserMessage (message.getD []) csp) _ [] :=
    total_smsSendUserMessage hopen (message.getD [])
  have hdocument : Document ("\x7b\n".toList ++ message.getD [] ++ "\n\x7d\n".toList) (.obj (members entries)) :=
    ⟨[], _, "\n".toList, by decide, (messageText_of_built hquote hbuilt).value, blank_newline, by simp⟩
  refine ⟨htotal.run.1, fun trace result hrun hmeets ↦ ⟨_, htotal.run.2 trace result hrun hmeets, fun v ↦ ?_⟩⟩
  constructor
  · intro hv
    have hparse := Json.parse_of_document hv
    rw [Json.parse_of_document hdocument] at hparse
    exact (Option.some.inj hparse).symm
  · rintro rfl
    exact hdocument

/-- A library that escapes what has to be escaped. -/
def escapingLibrary : Library := { Sim.library with gpulBackslashify := Json.escape }

/-- A message with a quote in a value, an empty sub-message, and an array of an empty and a full row. -/
theorem smsSendUserMessage_decodes_nested :
    let add := smsUserMessageAdd escapingLibrary.gpulBackslashify
    let row := add none "ip".toList "10.0.0.1".toList
    let array := smsUserMessageArrayAdd (some (smsUserMessageArrayAdd none [])) row
    let message := smsUserMessageAddArray (some (smsUserMessageAddJson (some (add (some []) "name".toList
      "a \"b\"".toList)) "empty".toList [])) "rows".toList array
    ∃ trace result, Run (smsSendUserMessage message ⟨5, none⟩) trace (.ret result) ∧
      ∃ bytes, (transcript escapingLibrary).after [] trace = [bytes] ∧ Document bytes (.obj
        [(points "name".toList, .str (points "a \"b\"".toList)), (points "empty".toList, .obj []),
          (points "rows".toList, .arr [.obj [],
            .obj [(points "ip".toList, .str (points "10.0.0.1".toList))]])]) := by
  intro add row array message
  have hrow := @Built.add escapingLibrary.gpulBackslashify none [] "ip".toList "10.0.0.1".toList .null
    (by decide)
  have harray := (BuiltArray.null.add .null).add hrow
  have hname := @Built.add escapingLibrary.gpulBackslashify (some []) [] "name".toList "a \"b\"".toList .empty
    (by decide)
  have hmessage := (hname.addJson (by decide : PlainName "empty".toList) .null).addArray
    (by decide : PlainName "rows".toList) harray
  obtain ⟨⟨trace, result, hrun, hmeets⟩, hall⟩ :=
    smsSendUserMessage_decodes Json.stringBody_escape hmessage (by decide : 0 < (⟨5, none⟩ : Client).cfd)
  obtain ⟨bytes, hbytes, hdecodes⟩ := hall trace result hrun hmeets
  refine ⟨trace, result, hrun, bytes, hbytes, (hdecodes _).2 ?_⟩
  simp [members, Entry.member, items]

end Sending

end CoreEngine.Smsd
