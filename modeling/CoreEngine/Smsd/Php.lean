import CoreEngine.Smsd.UserMessage

/-!
# Scripts

The functions that device scripts call (`php_db.c`, `php_misc.c`), and the execution of a script. A
script may call any of them in any order before it ends with a result code.
-/

namespace CoreEngine.Smsd

open Interaction
open Procedure (lift)

section Functions

def logMesgLen : ℕ := 1000
def logReferenceLen : ℕ := 100
def crudNameLen : ℕ := 200
def crudValueLen : ℕ := 4000

/-- The common form of the functions that need one database call and release its context. -/
def smsBd (borrower : Borrower) (body : Ctx → Code (Reply Unit)) : M Int := do
  let reply ← borrowDbCtx borrower body
  pure reply.ret

/-- Sends nothing to the database unless every stage has a name. -/
def smsBdInitProvstatus (info : SdInfo) (numStages : Int) (stageNames : List (Option CString)) : M Int :=
  ((List.range numStages.toNat).mapM fun i ↦ stageNames[i]?.join).elim (pure errLocalPhp) fun names ↦
    smsBd .smsBdInitProvstatus fun ctx ↦ haSmssqlInitProvStatus ctx info.sd.key numStages names

def smsBdSetProvstatus (info : SdInfo) (stageIndex : Int) (status : CString) (errorId : Int)
    (nextStatus : Option CString) (additionalmsg : CString) : M Int :=
  smsBd .smsBdSetProvstatus fun ctx ↦ do
    let library ← ask .library
    haSmssqlSetProvStatus ctx info.sd.key stageIndex status (nextStatus.filter (· ≠ []))
      (library.getErrorCodeNum errorId)
      ((library.getErrorMessage errorId).getD [] ++
        if additionalmsg = [] then [] else " [".toList ++ additionalmsg ++ "]".toList)

def smsBdGetProvstatus (info : SdInfo) (stageIndex : Int) : M (Option SdProvstatus) := do
  let status ← lift (ask .uninitialised)
  let errorMessage ← lift (ask .uninitialised)
  let reply ← borrowDbCtx .smsBdGetProvstatus fun ctx ↦
    haSmssqlGetProvStatus ctx ⟨info.sd.key, stageIndex, status, 0, errorMessage⟩
  if reply.ret ≠ 0 then pure none else pure (some reply.output)

def smsBdSetPollMode (info : SdInfo) (pollMode : Int) : M Int :=
  smsBd .smsBdSetPollMode fun ctx ↦ haSmssqlSetPollMode ctx info.sd.key pollMode

def smsBdSetIpconfig (info : SdInfo) (ipAddr : CString) : M Int :=
  smsBd .smsBdSetIpconfig fun ctx ↦ haSmssqlSetSDIPConfig ctx info.sd.key ipAddr 1

def smsBdResetConfObjects (info : SdInfo) : M Int :=
  smsBd .smsBdResetConfObjects fun ctx ↦ sql ctx (.resetSDCrudObjects ⟨info.sd.key, [], []⟩)

def smsBdSetConfObjects (info : SdInfo) (name value : CString) : M Int :=
  smsBd .smsBdSetConfObjects fun ctx ↦ sql ctx (.setSDCrudObjects
    ⟨info.sd.key, name.strncpy crudNameLen, value.strncpy crudValueLen⟩)

def smsBdDeleteConfObjects (info : SdInfo) (name : CString) : M Int :=
  smsBd .smsBdDeleteConfObjects fun ctx ↦ sql ctx (.deleteSDCrudObjects
    ⟨info.sd.key, name.strncpy crudNameLen, []⟩)

/-- Takes a context of its own, whatever `csp` holds, and reports success in any case. -/
def smsBdSetLog (info : SdInfo) (logMsg logLevel logReference : Option CString) : M Int := do
  let _ ← lift (withCtx .sms .smsBdSetLog fun ctx ↦ sql ctx (.setLogById
    { key := info.sd.key
      logMsg := (logMsg.getD []).strncpy logMesgLen
      logLevel := logLevel.elim 0 fun level ↦ (CString.strtol level).tmod 8
      logReference := (logReference.getD []).strncpy logReferenceLen }))
  pure smsOk

/-- Raise the alarm for an update that ended, and record its status. The sequence number is decoded with
`strtol` in base 0 here. -/
def endUpdate (sdid : CString) (errorCode : Int) (type status errorMsg : CString) : M Int := do
  let library ← lift (ask .library)
  let currentConfig ← lift (ask .currentConfig)
  let message := if errorMsg = [] then library.getErrorMessage errorCode else some errorMsg
  let severity := if status.head? = some 'F' then currentConfig.alarmUpdateFail
    else currentConfig.alarmUpdateOk
  let key ← decodeSdid CString.strtol sdid
  if severity > 0 then
    lift (ask (.setSdAlarm key severity type (message.getD "(null)".toList)))
  message.elim (lift nullDereference) fun message ↦ setUpdateStatus sdid type status message

def smsSetUpdateStatus (sdid : CString) (errorCode : Int) (type status errorMsg : CString) :
    M Int := do
  if "WORKING".toList <+: status ∨ "NOTPROCESSED".toList <+: status then do
    let ret ← setSdUpdated sdid 0
    if ret ≠ 0 then pure ret else setUpdateStatus sdid type status errorMsg
  else if "ENDED".toList <+: status ∨ "FAILED".toList <+: status then
    endUpdate sdid errorCode type status errorMsg
  else setUpdateStatus sdid type status errorMsg

end Functions

section Execution

/-- The test `if (!sd_info || !csp) return ERR_SD_FAILED`. -/
def withPointers (csp : Bool) (info : Option SdInfo) (body : SdInfo → M Int) : M PhpValue :=
  info.elim (pure (.int errSdFailed)) fun info ↦
    if csp then do
      let ret ← body info
      pure (.int ret)
    else pure (.int errSdFailed)

/-- Functions that do nothing without a client context. -/
def withCsp (csp : Bool) (body : M Unit) : M PhpValue := do
  if csp then body
  pure .void

/-- A call of a script, given the pointers it passes. -/
def callPhp (csp : Bool) (info : Option SdInfo) : PhpFunction → M PhpValue
  | .smsSdProvLock => withPointers csp info fun info ↦ lockProv info.sd.key
  | .smsSdProvUnlock => withPointers csp info fun info ↦ unlockProv info.sd.key
  | .smsSdLock => withPointers csp info fun info ↦ lockSD info.sd.key
  | .smsSdUnlock => withPointers csp info fun info ↦ unlockSD info.sd.key
  | .smsSdForceasset => withPointers csp info fun info ↦ sdForceAsset info.sdid
  | .smsBdInitProvstatus numStages stageNames =>
      withPointers csp info (smsBdInitProvstatus · numStages stageNames)
  | .smsBdSetProvstatus stageIndex status errorId nextStatus additionalmsg =>
      additionalmsg.elim (pure (.int errSdFailed)) fun additionalmsg ↦
        withPointers csp info (smsBdSetProvstatus · stageIndex status errorId nextStatus additionalmsg)
  | .smsBdGetProvstatus stageIndex =>
      info.elim (pure (.provstatus none)) fun info ↦
        if csp then do
          let provstatus ← smsBdGetProvstatus info stageIndex
          pure (.provstatus provstatus)
        else pure (.provstatus none)
  | .smsBdSetPollMode pollMode => withPointers csp info (smsBdSetPollMode · pollMode)
  | .smsBdSetIpconfig ipAddr => withPointers csp info (smsBdSetIpconfig · ipAddr)
  | .smsBdResetConfObjects => withPointers csp info smsBdResetConfObjects
  | .smsBdSetConfObjects name value => withPointers csp info (smsBdSetConfObjects · name value)
  | .smsBdDeleteConfObjects name => withPointers csp info (smsBdDeleteConfObjects · name)
  | .smsBdSetLog logMsg logLevel logReference =>
      info.elim (lift nullDereference) fun info ↦ do
        let ret ← smsBdSetLog info logMsg logLevel logReference
        pure (.int ret)
  | .smsSendUserOkEx result message => withCsp csp (smsSendUserOkEx result message)
  | .smsSendUserOk result => withCsp csp (smsSendUserOk result)
  | .smsSendUserError result error => withCsp csp (smsSendUserError result error)
  | .smsSendUserErrorEx result error => withCsp csp (smsSendUserErrorEx result error)
  | .smsReplyToUser userMessage => withCsp csp (smsReplyToUser userMessage)
  | .smsSendUserMessage userMessage => withCsp csp (smsSendUserMessage userMessage)
  | .smsCloseUserSocket => if csp then do closeUserSocket; pure .void else lift nullDereference
  | .smsSetUpdateStatus sdid errorCode type status errorMsg =>
      sdid.elim (pure (.int errSdFailed)) fun sdid ↦ type.elim (pure (.int errSdFailed)) fun type ↦
        status.elim (pure (.int errSdFailed)) fun status ↦
          errorMsg.elim (pure (.int errSdFailed)) fun errorMsg ↦
            if csp then do
              let ret ← smsSetUpdateStatus sdid errorCode type status errorMsg
              pure (.int ret)
            else pure (.int errSdFailed)

/-- How a script ended. -/
structure ScriptExit where
  ret : Int
  returnBuf : Option CString
  outputBuf : Option CString
  deriving DecidableEq, Repr

/-- A statement about the call that a script makes next, or about its end. -/
def ScriptStep.elim (called : PhpCall → Prop) (ended : ScriptExit → Prop) : ScriptStep → Prop
  | .call request => called request
  | .exit ret returnBuf outputBuf => ended ⟨ret, returnBuf, outputBuf⟩

/-- One action of a running script. -/
def scriptRound (script : Script) (step : ScriptStep) : M (Unit ⊕ ScriptExit) :=
  match step with
  | .call request => do
      let value ← callPhp (request.csp && script.hasCsp)
        (if request.sdInfo then script.sdInfo else none) request.function
      lift (ask (.phpReturn value))
      pure (.inl ())
  | .exit ret returnBuf outputBuf => pure (.inr ⟨ret, returnBuf, outputBuf⟩)

def smsModPhpExecuteScript (script : Script) : M ScriptExit := do
  lift (ask (.scriptStart script))
  Procedure.loop (fun _ ↦ do
    let step ← lift (ask .scriptStep)
    scriptRound script step) ()

end Execution

end CoreEngine.Smsd
