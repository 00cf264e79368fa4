import CoreEngine.Smsd.GenericRouter

/-!
# Requests on devices

What the handlers of the verbs do for a device: decode the parameters, read a body from the client,
look the device up and run a script (`update.c`, `router.c`, `report.c`).
-/

namespace CoreEngine.Smsd

open Interaction
open Procedure (lift)

section Parameters

/-- The word that `sscanf` stores into a buffer emptied before. -/
def word (words : List CString) (i : ℕ) : CString := words.getD i []

/-- Refuse the parameters of a request. -/
def badParam : M Int := do
  smsSendUserError (some []) errVerbBadParam
  pure errVerbBadParam

/-- The test `strlen(params) >= BUFSIZ` followed by a `sscanf` of `n` words, of which a number that
satisfies `enough` must be there. -/
def withWords (params : CString) (n : ℕ) (enough : ℕ → Bool) (body : List CString → M Int) : M Int :=
  if params.length ≥ CString.bufsiz then badParam
  else if enough (params.scanWords n).length then body (params.scanWords n)
  else badParam

/-- Look the device up, and tell the client when that fails. -/
def withSDinfo (sdid message : CString) (body : SdInfo → M Int) : M Int := do
  let info ← getSDinfo sdid
  if info.ret ≠ 0 then do
    smsSendUserError (some message) info.ret
    pure info.ret
  else body info.output

/-- Split `<sd_id> <rest>` at the first blank; the spaces before the rest are skipped, and the rest
must not be empty. -/
def splitArgument (params : CString) : Option (CString × CString) :=
  (params.cut ' ').bind fun parts ↦
    if parts.2.dropWhile (· = ' ') = [] then none else some (parts.1, parts.2.dropWhile (· = ' '))

/-- Read lines from the client while the result satisfies `more`. A full buffer is a line that goes
on, so that no terminator is put back after it. -/
def readBody (size timeout : ℕ) (more : Int → Bool) (eol : CString) : M (Option CString) :=
  Procedure.loop (fun body ↦ do
    let line ← socketReadLine size timeout
    if more line.ret then
      pure (.inl (some (body.getD [] ++ line.buf ++ if line.ret = size - 1 then [] else eol)))
    else pure (.inr body)) none

end Parameters

section Update

def getRouterFullConfiguration (sdid : CString) : M (Reply (Option CString)) := do
  let info ← getSDinfo sdid
  if info.ret ≠ 0 then pure ⟨info.ret, none⟩ else do
    releaseBdCtx
    if info.output.sd.sdProvLock ≠ 0 then pure ⟨errSdProvlock, none⟩
    else if info.output.sd.sdConnected = 0 then pure ⟨errSdTimeoutconnect, none⟩
    else genericGetConfiguration info.output

/-- The commands of a list, each ended by CR LF; text after the last terminator is dropped. -/
def splitCommands (current : CString) : CString → List CString
  | '\r' :: '\n' :: rest => current :: splitCommands [] rest
  | c :: rest => splitCommands (current ++ [c]) rest
  | [] => []

/-- The scripts that run device commands, with or without an addon card. -/
def execCommands (info : SdInfo) (addon : Option CString) (routerCmdList : List CString) : M Int :=
  addon.elim (genericSmsexecCmd info routerCmdList) fun addon ↦
    genericSmsAddonExecCmd info addon routerCmdList

/-- The end of `smsexec` and `smsexecn`: every failure is told to the client, also the ones that
the script wrapper has told already. -/
def replyAnyFailure (ret : Int) : M Int := do
  if ret ≠ 0 then smsSendUserError (some []) ret
  pure ret

def smsexec (params : CString) (addon : Option CString) : M Int :=
  (splitArgument params).elim (replyAnyFailure errVerbBadParam) fun argument ↦ do
    let info ← getSDinfo argument.1
    if info.ret ≠ 0 then replyAnyFailure info.ret else do
      releaseBdCtx
      let ret ← execCommands info.output addon [argument.2]
      replyAnyFailure ret

/-- Without a single command line there is no body to split. -/
def smsexecn (sdid : CString) (addon : Option CString) : M Int := do
  let commands ← readBody (CString.bufsiz + 1) 3 (0 < ·) "\r\n".toList
  let info ← getSDinfo sdid
  if info.ret ≠ 0 then replyAnyFailure info.ret else do
    releaseBdCtx
    commands.elim (lift nullBody) fun commands ↦ do
      let ret ← execCommands info.output addon (splitCommands [] commands)
      replyAnyFailure ret

/-- From the lookup of the device on, the reply is left to the script. -/
def execScript (params : CString) (synchronous : Bool) : M Int :=
  (splitArgument params).elim badParam fun argument ↦
    withSDinfo argument.1 [] fun info ↦ do
      releaseBdCtx
      genericExecScript info argument.2 synchronous

def pushConfig (params : CString) : M Int :=
  withWords params 4 (1 ≤ ·) fun words ↦ do
    let configuration ← readBody CString.bufsiz 2 (0 ≤ ·) "\r\n".toList
    if configuration.getD [] = [] then badParam
    else withSDinfo (word words 0) [] fun info ↦
      genericPushConfig info (word words 1) (word words 2) (word words 3) (configuration.getD [])

/-- The given value, or the one of the device record. -/
def orRecord (value record : CString) : CString := if value = [] then record.strncpy 256 else value

def provisioning (sdid : CString) : M Int := do
  let line ← socketReadLine CString.bufsiz 2
  let words := if line.ret > 0 then line.buf.scanWords 4 else []
  withSDinfo sdid [] fun info ↦
    genericInitialProvisioning info (orRecord (word words 0) info.sd.sdIpConfig)
      (orRecord (word words 1) info.sd.sdLoginEntry) (orRecord (word words 2) info.sd.sdPasswdEntry)
      (orRecord (word words 3) info.sd.sdPasswdAdm)

def checkProvisioning (sdid : CString) : M Int := withSDinfo sdid [] genericCheckProvisioning

def backupRouterFullConfiguration (params : CString) : M Int :=
  withWords params 2 (1 ≤ ·) fun words ↦
    withSDinfo (word words 0) "Cannot get sd info".toList fun info ↦
      genericBackupConf info (word words 1) "update BACKUP".toList

def restoreConf (params : CString) : M Int :=
  withWords params 2 (· = 2) fun words ↦
    withSDinfo (word words 0) "Cannot get sd info".toList fun info ↦
      genericRestoreConf info (word words 1)
        ("RESTORE (revision: ".toList ++ word words 1 ++ ")".toList)

/-- Releases the context twice: before the update and after the asset refresh. -/
def updateConfig (info : SdInfo) : M Int := do
  releaseBdCtx
  let ret ← genericUpdateConf info
  let _ ← sdForceAsset info.sd.sdid
  releaseBdCtx
  let _ ← saveRunningConf info.sd "update".toList
  pure ret

def staging (sdid : CString) (map : Bool) : M Int :=
  withSDinfo sdid [] fun info ↦ if map then genericStagingMap info else genericStaging info

/-- The client is not told when the lookup fails. -/
def updateLicense (sdid : CString) : M Int := do
  let info ← getSDinfo sdid
  if info.ret ≠ 0 then pure info.ret else genericUpdateLicense info.output

/-- The client is not told when the lookup fails. -/
def updateFirmware (params : CString) : M Int :=
  withWords params 3 (1 ≤ ·) fun words ↦ do
    let info ← getSDinfo (word words 0)
    if info.ret ≠ 0 then pure info.ret
    else genericUpdateFirmware info.output (word words 1) (word words 2)

def haSwap (sdid : CString) : M Int := withSDinfo sdid [] genericHaSwap

def smsCmd (params : CString) : M Int :=
  withWords params 2 (1 ≤ ·) fun words ↦ do
    let optionalParams ← readBody CString.bufsiz 2 (0 < ·) "\r\n".toList
    if word words 0 ≠ "NONE".toList then
      withSDinfo (word words 0) [] fun info ↦ genericSmsCmd info (word words 1) optionalParams
    else genericSmsdCmd (word words 1) optionalParams

def smsCustCmd (params : CString) : M Int :=
  withWords params 2 (1 ≤ ·) fun words ↦ do
    let optionalParams ← readBody CString.bufsiz 2 (0 < ·) "\r\n".toList
    let custInfo ← getCustInfo (word words 0)
    if custInfo.ret ≠ 0 then do
      smsSendUserError (some []) custInfo.ret
      pure custInfo.ret
    else genericSmsCustCmd custInfo.output (word words 1) optionalParams

def genTemplate (params : CString) : M Int :=
  withWords params 4 (3 ≤ ·) fun words ↦
    withSDinfo (word words 0) "Cannot get sd info".toList fun info ↦
      genericGenTemplate info (word words 1) (word words 2) (word words 3)

end Update

section Router

def getRunningConf (sdid : CString) : M Int := withSDinfo sdid [] genericGetRunningConf

def getConfig (sdid : CString) : M Int := withSDinfo sdid [] genericGetConfig

def getActivityReport (sdid : CString) : M Int := withSDinfo sdid [] genericGetActivityReport

/-- Tell the client how a script ended that has not done so. -/
def replyOutcome (ret : Int) : M Int := do
  if ret ≠ 0 then do
    smsSendUserError (some []) ret
    pure ret
  else do
    smsSendUserOk (some [])
    pure smsOk

def unarchiveConf (params : CString) : M Int :=
  withWords params 3 (· = 3) fun words ↦
    withSDinfo (word words 0) [] fun info ↦ do
      let ret ← genericUnarchiveConfiguration info (word words 1) (word words 2)
      replyOutcome ret

def getArchiveConf (params : CString) : M Int :=
  withWords params 2 (· = 2) fun words ↦
    withSDinfo (word words 0) [] fun info ↦ do
      let ret ← genericGetArchiveConfiguration info (word words 1)
      replyOutcome ret

/-- `SELECTTIMEOUT`. -/
def selecttimeout : ℕ := 60

/-- The loop of `call_command` over the lines up to and including the first empty one; a read error
is the other result. -/
def readCommandParams : M (Int ⊕ CString) :=
  Procedure.loop (fun buf : CString ↦ do
    let line ← socketReadLine (CString.bufsiz * 8) selecttimeout
    if line.ret < 0 then pure (.inr (.inl line.ret)) else
      let buf := buf ++ line.buf ++ if line.ret = CString.bufsiz * 8 - 1 then [] else "\n".toList
      if line.buf = [] then pure (.inr (.inr buf)) else pure (.inl buf)) []

/-- Look the device up, run the command and tell the client how it ended. -/
def callCommandWith (words : List CString) (buf : CString) : M Int :=
  withSDinfo (word words 0) [] fun info ↦ do
    let reply ← genericCallCommand info (word words 1) (CString.int32 (CString.strtol (word words 2)))
      (some buf)
    if reply.ret ≠ 0 then do
      smsSendUserError (some reply.output.2) reply.ret
      pure reply.ret
    else do
      smsSendUserOkEx (some reply.output.1) (some reply.output.2)
      pure reply.ret

def callCommand (params : CString) : M Int :=
  withWords params 3 (· = 3) fun words ↦ do
    let buf ← readCommandParams
    buf.elim replyAnyFailure (callCommandWith words)

def sendDataFiles (params : CString) : M Int :=
  withWords params 5 (1 ≤ ·) fun words ↦
    withSDinfo (word words 0) [] fun info ↦
      genericSendDataFiles info (word words 1) (word words 2) (word words 3) (word words 4)

def checkSerial (params : CString) : M Int :=
  withWords params 2 (· = 2) fun words ↦
    withSDinfo (word words 0) [] fun info ↦ do
      let ret ← genericCheckSerialNumber info (word words 1)
      replyOutcome ret

end Router

section Report

/-- The dates `<start> <end>` after the identifier, zero where they are missing. -/
def reportDates (s : CString) : Int × Int :=
  match CString.scanInt s with
  | none => (0, 0)
  | some (startDate, rest) => (startDate, (CString.scanInt rest).elim 0 (·.1))

def getReportFor (sdid : CString) (dates : Int × Int) : M (Reply (Option CString)) := do
  let info ← getSDinfo sdid
  if info.ret ≠ 0 then pure ⟨info.ret, none⟩ else do
    releaseBdCtx
    genericGetReport info.output true dates.1 dates.2

def getReport (params : CString) : M (Reply (Option CString)) :=
  (params.cut ' ').elim (getReportFor params (0, 0)) fun parts ↦
    getReportFor parts.1 (reportDates parts.2)

def getVPNReport (sdid : CString) : M (Reply (Option CString)) := do
  let info ← getSDinfo sdid
  if info.ret ≠ 0 then pure ⟨info.ret, none⟩ else do
    releaseBdCtx
    genericGetReport info.output false 0 0

end Report

end CoreEngine.Smsd
