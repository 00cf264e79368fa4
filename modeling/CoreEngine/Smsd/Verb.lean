import CoreEngine.Smsd.IpUpdate

/-!
# Verbs

The handlers of the client protocol (`verb.c`), with the loop over all devices that one of them runs
(`router.c`).
-/

namespace CoreEngine.Smsd

open Interaction
open Procedure (lift)

section SaveAllConf

/-- A record cleared by `calloc`. -/
def SdLike.blank : SdLike := ⟨⟨[], 0⟩, [], [], [], [], [], [], 0, 0, 0, 0⟩

/-- The inner loop of `save_all_conf`: one round per fetched record, with the last reply and the
number of tasks so far. The result says whether the connection was lost and all starts over. -/
def saveFetched (ctx : Ctx) (reply : Reply SdLike) (i : ℕ) : Code (Reply SdLike × ℕ ⊕ Bool) := do
  if reply.ret = errDbNotfound then pure (.inr false) else do
    let i := if reply.output.sdConnected ≠ 0 then i + 1 else i
    if reply.output.sdConnected ≠ 0 then
      ask (.newTask (.saveConfTask reply.output)
        ("save conf ".toList ++ reply.output.key.text) (i * 1000))
    let next ← sql ctx .getSDconnectedNext
    if next.ret = errDbFailed then pure (.inr false)
    else if next.ret = errDbConnectionLost then pure (.inr true)
    else pure (.inl (next, i))

/-- The outer loop, `while (dataBaseShutdown == TRUE)`. -/
def savePass (ctx : Ctx) : Code (Unit ⊕ Unit) := do
  let first ← sql ctx .getSDconnectedFirst
  if first.ret = errDbFailed ∨ first.ret = errDbNotfound then pure (.inr ()) else do
    let lost ← Program.loop (fun state ↦ saveFetched ctx state.1 state.2) (first, 0)
    if lost then pure (.inl ()) else pure (.inr ())

def saveAllConf : M Int := do
  lift (withCtx .sms .saveAllConf fun ctx ↦ Program.loop (fun _ ↦ savePass ctx) ())
  pure smsOk

end SaveAllConf

section Handlers

/-- Handlers that leave the reply to the function they call, and whose own result is zero. -/
def silently (request : M Int) : M Int := do
  let _ ← request
  pure 0

/-- The reply in plain text: a failed write is the result -1. -/
def plainReply (ret : Int) (msg : Option CString) : M Int := do
  if ret = 0 then do
    let sent ← sendOk msg
    if sent ≠ 0 then pure (-1) else pure 0
  else do
    let sent ← sendError none ret
    if sent ≠ 0 then pure (-1) else pure 0

def doReinitLogs : M Int := do
  lift (ask .gpulLogReinit)
  let _ ← sendOk none
  pure 0

def doGetReport (params : CString) : M Int := do
  countUp .totalgetreport
  let report ← getReport params
  if report.ret ≠ 0 then countUp .totalerrorgetreport
  plainReply report.ret report.output

/-- A failure is counted among the failures of GETREPORT. -/
def doGetVPNReport (params : CString) : M Int := do
  countUp .totalgetvpnreport
  let report ← getVPNReport params
  if report.ret ≠ 0 then countUp .totalerrorgetreport
  plainReply report.ret report.output

def doGetSDConf (params : CString) : M Int := do
  let configuration ← getRouterFullConfiguration params
  let sent ← plainReply configuration.ret configuration.output
  if sent ≠ 0 then pure sent else do
    lift (ask (.sleep 2))
    pure 0

/-- The handlers that report the status of one kind of update. -/
def checkStatus (sdid type : CString) : M Int := do
  let status ← getUpdateStatus sdid type
  plainReply status.ret status.output

def doCheckUpdate (params : CString) : M Int := do
  let status ← checkUpdate params
  plainReply status.ret status.output

def doCheckAllUpdate (params : CString) : M Int := do
  let status ← checkAllUpdate params
  plainReply status.ret status.output

def doIsAlive : M Int := plainReply 0 none

def statText (stats : Stats) : CString :=
  let line (label : String) (value : CString) : CString := label.toList ++ "=".toList ++ value ++
    "\n".toList
  let number (n : ℕ) : CString := CString.showUnsignedLong n
  "\n".toList ++ line "totalThreads" (number stats.totalThreads) ++
    line "activeThreads" (number stats.activeThreads) ++ line "update" (number stats.totalupdate) ++
    line "error_update" (number stats.totalerrorupdate) ++
    line "getreport" (number stats.totalgetreport) ++
    line "error_getreport" (number stats.totalerrorgetreport) ++
    line "getconf" (number stats.totalgetconf) ++
    line "error_getconf" (number stats.totalerrorgetconf) ++
    line "getvpnreport" (number stats.totalgetvpnreport) ++
    line "error_getvpnreport" (number stats.totalerrorgetvpnreport) ++
    line "getrouterip" (number stats.totalgetrouterip) ++
    line "error_getrouterip" (number stats.totalerrorgetrouterip) ++
    line "checkupdate" (number stats.totalcheckupdate) ++
    line "error_checkupdate" (number stats.totalerrorcheckupdate) ++
    line "ipdown" (number stats.totalipdown) ++ line "error_ipdown" (number stats.totalerroripdown) ++
    line "start_time" stats.bufstartTime ++ line "current_time" stats.bufcu ++
    line "start_time_seconds" (number stats.startTime) ++
    line "current_time_second" (number stats.currentTime)

def doStat : M Int := do
  let stats ← lift (ask .currentStat)
  plainReply 0 (some (statText stats))

def getRouterIp (params : CString) : M (Reply CString) := do
  let info ← getSDinfo params
  if info.ret ≠ 0 then pure ⟨info.ret, []⟩ else do
    releaseBdCtx
    if info.output.sd.sdIpConfig ≠ [] then pure ⟨0, info.output.sd.sdIpConfig⟩
    else if (info.output.sdExtInterface.elim [] SdInterface.intIpAddr) ≠ [] then
      pure ⟨0, info.output.sdExtInterface.elim [] SdInterface.intIpAddr⟩
    else pure ⟨errSdNoip, []⟩

def doGetRouterIp (params : CString) : M Int := do
  countUp .totalgetrouterip
  let ip ← getRouterIp params
  if ip.ret ≠ 0 then countUp .totalerrorgetrouterip
  plainReply ip.ret (some ip.output)

def doUnlockUpdate (params : CString) : M Int := do
  let ret ← unlockUpdate params
  plainReply ret none

def doLockProvisioning (params : CString) : M Int := do
  let ret ← lockProvisioning params
  plainReply ret none

def doUnLockProvisioning (params : CString) : M Int := do
  let ret ← unlockProvisioning params
  plainReply ret none

def doJsSmsAddonExec (params : CString) : M Int :=
  withWords params 2 (2 ≤ ·) fun words ↦ silently (smsexecn (word words 0) (some (word words 1)))

/-- The command is taken from an array that was not initialised when it is missing. -/
def doCheckCmd (params : CString) : M Int := do
  let words := params.scanWords 2
  if words = [] then do
    let _ ← sendError none errVerbBadParam
    pure errVerbBadParam
  else do
    let cmd ← scanned words 1
    checkStatus (word words 0) cmd

def doGetAsset (params : CString) : M Int := do
  let asset ← sdGetAsset params
  plainReply asset.ret (some asset.output)

def doForceAsset (params : CString) : M Int := do
  let ret ← sdForceAsset params
  plainReply ret none

def configModeList : List CString :=
  ["DEFAULT".toList, "BYLINE".toList, "TFTP".toList, "SCP".toList]

/-- The index of a mode in the list, and zero if it is not there. -/
def configMode (mode : CString) : ℕ :=
  let i := configModeList.findIdx (· = mode)
  if i = configModeList.length then 0 else i

/-- Replies with the empty result buffer, also on failure. -/
def doSetConfigMode (params : CString) : M Int := do
  let words := params.scanWords 2
  let trueSDid ← scanned words 0
  let set ← sdSetConfigMode trueSDid (configMode (word words 1))
  if set.ret = 0 then do
    let sent ← sendOk (some set.output)
    if sent ≠ 0 then pure (-1) else pure 0
  else do
    let sent ← sendError (some set.output) set.ret
    if sent ≠ 0 then pure (-1) else pure 0

def doPing (params : CString) : M Int := do
  let ret ← getPingStatus params
  if ret ≠ 0 then pure (-1) else pure 0

def doUpdateConfig (params : CString) : M Int :=
  silently (withSDinfo params "Cannot get sd info".toList updateConfig)

/-- Only failures are replied to here. -/
def replyError (ret : Int) : M Int := do
  if ret ≠ 0 then do
    let sent ← sendError none ret
    if sent ≠ 0 then pure (-1) else pure 0
  else pure 0

def doResolveTemplate (params : CString) : M Int := do
  let words := params.scanWords 2
  let sdid ← scanned words 0
  let path ← scanned words 1
  let ret ← resolveTemplate sdid path
  replyError ret

/-- `SDID_LEN`. -/
def sdidLen : ℕ := 11

/-- The length of the body is taken before the body is known to be there. -/
def doResolve (params : CString) : M Int := do
  let sdid := params.strncpy (sdidLen - 1)
  let info ← getSDinfo sdid
  if info.ret ≠ 0 then silently (replyError info.ret) else do
    let configuration ← readBody CString.bufsiz 2 (0 ≤ ·) "\n".toList
    configuration.elim (lift nullBody) fun configuration ↦
      if configuration = [] then silently (replyError errVerbBadParam) else do
        let ret ← resolveTemplateBuffer sdid configuration.dropLast
        silently (replyError ret)

/-- The parameters of SNMPTEST, each ended by one blank. -/
def snmpParams : ℕ → CString → List CString
  | 0, _ => []
  | n + 1, s => s.takeWhile (!CString.isblank ·) ::
      snmpParams n ((s.dropWhile (!CString.isblank ·)).drop 1)

def doSnmpTest (params : CString) : M Int :=
  silently (genericSnmpTest (word (snmpParams 4 params) 0) (word (snmpParams 4 params) 1)
    (word (snmpParams 4 params) 2) (word (snmpParams 4 params) 3))

def doPS : M Int := do
  let stats ← lift (ask .gpulSchedStats)
  let _ ← sendOk (some stats)
  pure 0

/-- The levels of SETLOGLEVEL, -1 where they are missing. -/
def logLevels (params : CString) : Int × Int :=
  match CString.scanInt params with
  | none => (-1, -1)
  | some (logLevel, rest) => (logLevel, (CString.scanInt rest).elim (-1) (·.1))

def doSetLogLevel (params : CString) : M Int := do
  if (logLevels params).1 ≠ -1 then lift (ask (.logSetLevel (logLevels params).1))
  if (logLevels params).2 ≠ -1 then lift (ask (.dbgSetLevel (logLevels params).2))
  plainReply 0 none

/-- The library writes to the socket itself. -/
def doSnmpGet (oid : CString) : M Int := do
  let csp ← get
  lift (ask (.doSnmpGet oid csp.cfd))
  pure 0

def doSnmpGetNext (oid : CString) : M Int := do
  let csp ← get
  lift (ask (.doSnmpGetNext oid csp.cfd))
  pure 0

/-- Refreshes the asset once the device has been updated. -/
def thenForceAsset (keeper : Keeper) (params : CString) (update : M Int) : M Int := do
  let result ← update
  if result = 0 then do
    ensureDbCtx keeper
    let _ ← sdForceAsset params
    pure 0
  else pure 0

def doUpdateLicense (params : CString) : M Int :=
  thenForceAsset .doUpdateLicense params (updateLicense params)

def doUpdateFirmware (params : CString) : M Int :=
  thenForceAsset .doUpdateFirmware params (updateFirmware params)

def doImmediateSaveConf : M Int := do
  let ret ← saveAllConf
  if ret ≠ 0 then pure (-1) else pure 0

end Handlers

end CoreEngine.Smsd
