import CoreEngine.Smsd.Status

/-!
# Replies to the client

The two reply formats: plain text (`send_ok`, `send_error` of `verb.c`) and JSON documents
(`php_misc.c`). Nothing is written once the client context has lost its socket.
-/

namespace CoreEngine.Smsd

open Interaction
open Procedure (lift)

/-- `socketWrite(csp->cfd, ...)`. -/
def socketWrite (bytes : CString) : M Int := do
  let csp ← get
  lift (ask (.socketWrite csp.cfd bytes))

/-- `socketReadLine(csp->cfd, ...)`. -/
def socketReadLine (size timeout : ℕ) : M ReadLine := do
  let csp ← get
  lift (ask (.socketReadLine csp.cfd size timeout))

/-- `socketClose(csp->cfd); csp->cfd = -1`. -/
def closeUserSocket : M Unit := do
  let csp ← get
  let _ ← lift (ask (.socketClose csp.cfd))
  modify fun csp ↦ { csp with cfd := -1 }

/-- `csp->cfd > 0`. -/
def cfdOpen : M Bool := do
  let csp ← get
  pure (0 < csp.cfd)

/-- Write a reply piece by piece, giving up at the first piece that is not written in full. -/
def writePieces : List CString → M Int
  | [] => do
      lift (ask .replied)
      pure 0
  | piece :: rest => do
      let ret ← socketWrite piece
      if ret ≠ piece.length then pure (-1) else writePieces rest

section PlainText

def smsdOkString : CString := "OK\r\n".toList
def smsdOkAloneString : CString := "OK\r\n\r\n\r\n".toList
def smsdErrorString : CString := "ERROR\r\n".toList
def smsdMsgEnd : CString := "\r\n\r\n".toList

def okPieces (msg : Option CString) : List CString :=
  match msg with
  | some msg => [smsdOkString, msg, smsdMsgEnd]
  | none => [smsdOkAloneString]

def sendOk (msg : Option CString) : M Int := do
  let cfdOpen ← cfdOpen
  if cfdOpen then writePieces (okPieces msg) else pure 0

def errorPieces (library : Library) (msg : Option CString) (error : Int) : List CString :=
  [smsdErrorString, CString.showInt4 error ++ ": ".toList] ++ (library.getErrorMessage error).toList ++
    (msg.elim [] fun msg ↦ [smsdMsgEol, msg]) ++ [smsdMsgEnd]

def sendError (msg : Option CString) (error : Int) : M Int := do
  let cfdOpen ← cfdOpen
  if cfdOpen then do
    let library ← lift (ask .library)
    writePieces (errorPieces library msg error)
  else pure 0

end PlainText

section Json

def quoted (s : CString) : CString := "\"".toList ++ s ++ "\"".toList

/-- `WRITE_FIRST_NAME`. -/
def firstName (name : CString) : CString := quoted name ++ " : ".toList

/-- `WRITE_NAME`. -/
def nextName (name : CString) : CString := ",\n".toList ++ firstName name

/-- The document that `internal_send_user_message` writes. A result that starts with a bracket is
taken for JSON and not quoted. -/
def userMessage (backslashify : CString → CString) (result : Option CString) (status : CString)
    (message code : Option CString) : CString :=
  "\x7b\n".toList ++ firstName "sms_status".toList ++ quoted status ++
    (match result.getD [] with
      | [] => []
      | '\x7b' :: rest => nextName "sms_result".toList ++ '\x7b' :: rest
      | '[' :: rest => nextName "sms_result".toList ++ '[' :: rest
      | text => nextName "sms_result".toList ++ quoted (backslashify text)) ++
    (match message.getD [] with
      | [] => []
      | text => nextName "sms_message".toList ++ quoted (backslashify text)) ++
    (if status = "OK".toList then [] else
      match code.getD [] with
      | [] => []
      | text => nextName "sms_code".toList ++ quoted text) ++
    "\n\x7d\n".toList

def internalSendUserMessage (library : Library) (result : Option CString) (status : CString)
    (message code : Option CString) : M Unit := do
  let cfdOpen ← cfdOpen
  if cfdOpen then do
    let _ ← writePieces [userMessage library.gpulBackslashify result status message code]
    pure ()
  else pure ()

def smsSendUserOkEx (result message : Option CString) : M Unit := do
  let library ← lift (ask .library)
  internalSendUserMessage library result "OK".toList message (some "0x00000000".toList)

def smsSendUserOk (result : Option CString) : M Unit := smsSendUserOkEx result (some [])

def smsSendUserError (result : Option CString) (error : Int) : M Unit := do
  let library ← lift (ask .library)
  internalSendUserMessage library result "FAIL".toList (library.getErrorMessage error)
    (library.getErrorCodeStr error)

/-- The message is the error text followed by the result. -/
def smsSendUserErrorEx (result : Option CString) (error : Int) : M Unit := do
  let library ← lift (ask .library)
  (library.getErrorMessage error).elim (lift nullDereference) fun text ↦
    internalSendUserMessage library result "FAIL".toList
      (some (text ++ result.elim [] (". ".toList ++ ·))) (library.getErrorCodeStr error)

/-- Text that a script sends as it is; it need not be a whole reply. -/
def smsReplyToUser (userMessage : Option CString) : M Unit := do
  let cfdOpen ← cfdOpen
  if cfdOpen = true ∧ userMessage.getD [] ≠ [] then do
    let _ ← socketWrite (userMessage.getD [])
    pure ()
  else pure ()

def smsSendUserMessage (userMessage : CString) : M Unit := do
  let cfdOpen ← cfdOpen
  if cfdOpen then do
    let _ ← writePieces ["\x7b\n".toList ++ userMessage ++ "\n\x7d\n".toList]
    pure ()
  else pure ()

end Json

end CoreEngine.Smsd
