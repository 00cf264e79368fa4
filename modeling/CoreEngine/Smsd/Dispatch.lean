import CoreEngine.Smsd.Verb

/-!
# Dispatch

The table of verbs, the dispatch of a request line (`verb.c`), the service of a connection
(`smsd.c`) and the tasks of the scheduler (`update.c`, `router.c`).
-/

namespace CoreEngine.Smsd

open Interaction
open Procedure (lift)

section Table

/-- The functions that the table points to. -/
inductive Handler
  | doCheckAllUpdate
  | doCheckBackup
  | doCheckCmd
  | doCheckProvisioning
  | doCheckRestore
  | doCheckSendDataFiles
  | doCheckUpdate
  | doCheckUpdateFirmware
  | doCheckUpdateLicense
  | doForceAsset
  | doGetActivityReport
  | doGetAsset
  | doGetConfig
  | doGetReport
  | doGetRouterIp
  | doGetRunningConf
  | doGetSDConf
  | doGetVPNReport
  | doImmediateSaveConf
  | doIpDown
  | doIsAlive
  | doBackupConf
  | doCmd
  | doCustCmd
  | doJsAExecScript
  | doProvisioning
  | doPushConfig
  | doRestoreConf
  | doUpdateConfig
  | doUpdateFirmware
  | doUpdateLicense
  | doCallCommand
  | doCheckSerial
  | doPing
  | doJsExecScript
  | doGenTemplate
  | doGetArchiveConf
  | doHaSwap
  | doResolve
  | doResolveTemplate
  | doSendDataFiles
  | doJsSmsAddonExec
  | doJsSmsexec
  | doJsSmsexecn
  | doSnmpTest
  | doStaging
  | doStagingMap
  | doUnarchiveConf
  | doListVerb
  | doLockProvisioning
  | doPppIpUp
  | doPS
  | doReinitLogs
  | doSdIpUp
  | doSetConfigMode
  | doSetLogLevel
  | doSnmpGet
  | doSnmpGetNext
  | doStat
  | doUnLockProvisioning
  | doUnlockUpdate
  deriving DecidableEq, Repr

/-- An entry of the table of verbs. -/
structure VerbAction where
  verb : CString
  doVerb : Handler
  description : CString
  hasParams : ℕ
  deriving DecidableEq, Repr

def verbAction (verb : String) (doVerb : Handler) (description : String) (hasParams : ℕ) :
    VerbAction :=
  ⟨verb.toList, doVerb, description.toList, hasParams⟩

def verbTab : List VerbAction := [
  verbAction "CHECKALLUPDATE" .doCheckAllUpdate
    "Check the asynchronous update of all the router configurations (configuration, certificate, network)" 1,
  verbAction "CHECKBACKUP" .doCheckBackup "Check asynchronous backup status (Param: SDid)" 1,
  verbAction "CHECKCMD" .doCheckCmd "Check asynchronous Command (Param: SDid Command)" 1,
  verbAction "CHECKPROVISIONING" .doCheckProvisioning "*Check initial Provisioning status" 1,
  verbAction "CHECKRESTORE" .doCheckRestore "Check asynchronous restore status (Param: SDid)" 1,
  verbAction "CHECKSENDDATAFILES" .doCheckSendDataFiles
    "Check asynchronous send data files status (Param: SDid)" 1,
  verbAction "CHECKUPDATE" .doCheckUpdate
    "Check the asynchronous update of the router configuration. (AUPDATECONF)" 1,
  verbAction "CHECKUPDATEFIRMWARE" .doCheckUpdateFirmware "Check update firmware status (Param: SDid)" 1,
  verbAction "CHECKUPDATELICENSE" .doCheckUpdateLicense "Check update license status (Param: SDid)" 1,
  verbAction "FORCEASSET" .doForceAsset "Refresh the asset information of the router" 1,
  verbAction "GETACTIVITYREPORT" .doGetActivityReport "*Get router activity reports" 1,
  verbAction "GETASSET" .doGetAsset "Get asset information from the router" 1,
  verbAction "GETCONFIG" .doGetConfig "*Get router generated configuration" 1,
  verbAction "GETREPORT" .doGetReport "Get the router logs" 1,
  verbAction "GETROUTERIP" .doGetRouterIp "Get the current router IP" 1,
  verbAction "GETRUNNINGCONF" .doGetRunningConf "*Get router running configuration" 1,
  verbAction "GETSDCONF" .doGetSDConf "Get the router running configuration (depuis le routeur)" 1,
  verbAction "GETVPNREPORT" .doGetVPNReport "Get the router VPN logs" 1,
  verbAction "IMMEDIATESAVECONF" .doImmediateSaveConf
    "backup all reachable router configuration in change management" 0,
  verbAction "IPDOWN" .doIpDown "IPDOWN processing (params: sdid @IP)" 1,
  verbAction "ISALIVE" .doIsAlive "Check if SEC engine is alive" 0,
  verbAction "JSABACKUPCONF" .doBackupConf
    "Asynchronous backup of the router running configuration from the router (Param: sdid [addon card])" 1,
  verbAction "JSACMD" .doCmd "Launch Asynchronous Command (params: sdid command [command params])" 1,
  verbAction "JSACUSTCMD" .doCustCmd
    "Launch Asynchronous Command for customer (params: custid command [command params])" 1,
  verbAction "JSAEXECSCRIPT" .doJsAExecScript
    "asynchronous execution of a script on the router (Param: sdid script_file_path" 1,
  verbAction "JSAPROVISIONING" .doProvisioning
    "*initial provisioning (params: SDid [\\n @IP login passwd adminpasswd])" 1,
  verbAction "JSAPUSHCONFIG" .doPushConfig
    ("*push a configuration (params: SDid [addon card/PORTCONSOLE for console port update] [terminal " ++
      "server ip] [terminal server port] [\\n configuration])") 1,
  verbAction "JSARESTORECONF" .doRestoreConf
    "Asynchronous configuration restore (Param: SDid SVNrevisionId" 1,
  verbAction "JSAUPDATECONF" .doUpdateConfig "*Update configuration" 1,
  verbAction "JSAUPDATEFIRMWARE" .doUpdateFirmware
    "Update Firmware of a device based on FMC (Param: SDid [NO_VERIFY][NO_REBOOT][NO_DELETE])" 1,
  verbAction "JSAUPDATELICENSE" .doUpdateLicense "Update License of a device based on FMC (Param: SDid)" 1,
  verbAction "JSCALLCOMMAND" .doCallCommand
    ("*Call a command associated with the device via a repository file (apply_flag is: 0=no application " ++
      "1=apply to base 2=apply to device) (Param: SDid command apply_flag\\r\\nJSONParameters)") 1,
  verbAction "JSCHECKPROVISIONING" .doCheckProvisioning "*Check initial Provisioning status" 1,
  verbAction "JSCHECKSERIAL" .doCheckSerial "*Check the serial number of the device (Param: SDid ipaddr)" 1,
  verbAction "JSDOPING" .doPing "Check ping status on a host or ip address (params: host/ip_address)" 1,
  verbAction "JSEXECSCRIPT" .doJsExecScript
    "synchronous execution of a script on the router (Param: sdid script_file_path)" 1,
  verbAction "JSGENTEMPLATE" .doGenTemplate
    ("Template generation from archived configurations (Param: SDid SVNrevisionId1 SVNrevisionId1 " ++
      "[addon card]") 1,
  verbAction "JSGETACTIVITYREPORT" .doGetActivityReport "*Get router activity reports" 1,
  verbAction "JSGETARCHIVECONF" .doGetArchiveConf
    "Retrieve a backup from a device and create a Stormshield archive (Param: SDid DestinationDirectory)" 1,
  verbAction "JSGETCONF" .doGetConfig "*Get router generated configuration" 1,
  verbAction "JSGETSDCONF" .doGetRunningConf "*Get router running configuration" 1,
  verbAction "JSHASWAP" .doHaSwap "*HA Swap" 1,
  verbAction "JSRESOLVE" .doResolve
    "*Resolve a template buffer for a device ((Param: SDid \\n template_buffer)" 1,
  verbAction "JSRESOLVETEMPLATE" .doResolveTemplate
    "*Resolve a template for a device ((Param: SDid template_path)" 1,
  verbAction "JSSENDDATAFILES" .doSendDataFiles
    "Send attached data files to the router (Param: sdid [addon card])" 1,
  verbAction "JSSMSADDONEXEC" .doJsSmsAddonExec
    "Run a command on the addon card (Param: sdid addon_card \\n commands_to_exec)" 1,
  verbAction "JSSMSEXEC" .doJsSmsexec "Run a command on the router" 1,
  verbAction "JSSMSEXECN" .doJsSmsexecn "Run commands on the router" 1,
  verbAction "JSSNMPTEST" .doSnmpTest "*Test SNMP connectivity (params: [get|walk] ip_addr community oid)" 1,
  verbAction "JSSTAGING" .doStaging "*Staging" 1,
  verbAction "JSSTAGINGMAP" .doStagingMap "*Staging" 1,
  verbAction "JSUNARCHIVECONF" .doUnarchiveConf
    "Unarchive Stormshield configuration (Param: sdid ArchiveName DestinationDirectory)" 1,
  verbAction "LISTVERB" .doListVerb "list the verbs" 0,
  verbAction "LOCKPROVISIONING" .doLockProvisioning "Lock router provisioning" 1,
  verbAction "PPPIPUP" .doPppIpUp "IPUP processing (Param: @IP)" 1,
  verbAction "PROVISIONING" .doProvisioning
    "*initial provisioning (params: SDid [\\n @IP login passwd adminpasswd])" 1,
  verbAction "PS" .doPS "Get SEC engine tasks list" 0,
  verbAction "REINITLOGS" .doReinitLogs "Reinit logs" 0,
  verbAction "SDIPUP" .doSdIpUp "IPUP processing (Param: SDid @IP)" 1,
  verbAction "SETCONFIGMODE" .doSetConfigMode
    "Set the config-step flag for the router (params: SDid mode)" 1,
  verbAction "SETLOGLEVEL" .doSetLogLevel "Set log level (params: log_level dbg_level)" 1,
  verbAction "SNMPGET" .doSnmpGet "Get SNMP counters (get)" 1,
  verbAction "SNMPGETNEXT" .doSnmpGetNext "Get next SNMP Counters (walk)" 1,
  verbAction "SNMPTEST" .doSnmpTest "*Test SNMP connectivity (params: [get|walk] ip_addr community oid)" 1,
  verbAction "STAGING" .doStaging "*Staging" 1,
  verbAction "STAGINGMAP" .doStagingMap "*Staging" 1,
  verbAction "STAT" .doStat "SEC engine statistics" 0,
  verbAction "UNLOCKPROVISIONING" .doUnLockProvisioning "Unlock router provisioning" 1,
  verbAction "UNLOCKUPDATE" .doUnlockUpdate "Unlock router update" 1,
  verbAction "UPDATECONFIG" .doUpdateConfig "*Update configuration" 1]

/-- `%-24s`. -/
def padded (s : CString) : CString := s ++ List.replicate (24 - s.length) ' '

def listVerbText (currentConfig : SmsConf) : CString :=
  "\n".toList ++
    verbTab.flatMap (fun va ↦ padded va.verb ++ " ".toList ++ va.description ++ "\n".toList) ++
    "\n".toList ++ CString.showInt verbTab.length ++ " verbs\n".toList ++
    "\nCommands parameters for JSACMD verb:\n".toList ++
    currentConfig.jsacmdList.flatMap (fun cmd ↦ "\tJSACMD SDID ".toList ++ cmd ++ "\n".toList) ++
    "\nCommands parameters for JSACUSTCMD verb:\n".toList ++
    currentConfig.jsacustcmdList.flatMap
      (fun cmd ↦ "\tJSACUSTCMD CUSTID ".toList ++ cmd ++ "\n".toList) ++
    "\n\nModes for SETCONFIGMODE:\n".toList ++
    configModeList.flatMap (· ++ " ".toList) ++ "\n".toList

def doListVerb : M Int := do
  let currentConfig ← lift (ask .currentConfig)
  plainReply 0 (some (listVerbText currentConfig))

def Handler.run (handler : Handler) (params : CString) : M Int :=
  match handler with
  | doCheckAllUpdate => Smsd.doCheckAllUpdate params
  | doCheckBackup => checkStatus params "BACKUP".toList
  | doCheckCmd => Smsd.doCheckCmd params
  | doCheckProvisioning => silently (checkProvisioning params)
  | doCheckRestore => checkStatus params "RESTORE".toList
  | doCheckSendDataFiles => checkStatus params "SENDDATAFILES".toList
  | doCheckUpdate => Smsd.doCheckUpdate params
  | doCheckUpdateFirmware => checkStatus params "FIRMWARE".toList
  | doCheckUpdateLicense => checkStatus params "LICENSE".toList
  | doForceAsset => Smsd.doForceAsset params
  | doGetActivityReport => silently (getActivityReport params)
  | doGetAsset => Smsd.doGetAsset params
  | doGetConfig => silently (getConfig params)
  | doGetReport => Smsd.doGetReport params
  | doGetRouterIp => Smsd.doGetRouterIp params
  | doGetRunningConf => silently (getRunningConf params)
  | doGetSDConf => Smsd.doGetSDConf params
  | doGetVPNReport => Smsd.doGetVPNReport params
  | doImmediateSaveConf => Smsd.doImmediateSaveConf
  | doIpDown => Smsd.doIpDown params
  | doIsAlive => Smsd.doIsAlive
  | doBackupConf => silently (backupRouterFullConfiguration params)
  | doCmd => silently (smsCmd params)
  | doCustCmd => silently (smsCustCmd params)
  | doJsAExecScript => silently (execScript params false)
  | doProvisioning => silently (provisioning params)
  | doPushConfig => silently (pushConfig params)
  | doRestoreConf => silently (restoreConf params)
  | doUpdateConfig => Smsd.doUpdateConfig params
  | doUpdateFirmware => Smsd.doUpdateFirmware params
  | doUpdateLicense => Smsd.doUpdateLicense params
  | doCallCommand => silently (callCommand params)
  | doCheckSerial => silently (checkSerial params)
  | doPing => Smsd.doPing params
  | doJsExecScript => silently (execScript params true)
  | doGenTemplate => silently (genTemplate params)
  | doGetArchiveConf => getArchiveConf params
  | doHaSwap => silently (haSwap params)
  | doResolve => Smsd.doResolve params
  | doResolveTemplate => Smsd.doResolveTemplate params
  | doSendDataFiles => silently (sendDataFiles params)
  | doJsSmsAddonExec => Smsd.doJsSmsAddonExec params
  | doJsSmsexec => silently (smsexec params none)
  | doJsSmsexecn => silently (smsexecn params none)
  | doSnmpTest => Smsd.doSnmpTest params
  | doStaging => silently (staging params false)
  | doStagingMap => silently (staging params true)
  | doUnarchiveConf => unarchiveConf params
  | doListVerb => Smsd.doListVerb
  | doLockProvisioning => Smsd.doLockProvisioning params
  | doPppIpUp => handlePppIpUp params
  | doPS => Smsd.doPS
  | doReinitLogs => Smsd.doReinitLogs
  | doSdIpUp => Smsd.doSdIpUp params
  | doSetConfigMode => Smsd.doSetConfigMode params
  | doSetLogLevel => Smsd.doSetLogLevel params
  | doSnmpGet => Smsd.doSnmpGet params
  | doSnmpGetNext => Smsd.doSnmpGetNext params
  | doStat => Smsd.doStat
  | doUnLockProvisioning => Smsd.doUnLockProvisioning params
  | doUnlockUpdate => Smsd.doUnlockUpdate params

end Table

section Dispatch

/-- The word and the argument of a line: the part before the first `#`, CR or LF, split at the first
blanks, without leading and trailing blanks. -/
def splitLine (line : CString) : CString × CString :=
  let line := (line.takeWhile fun c ↦ !(c = '#' || c = '\r' || c = '\n')).dropWhile CString.isblank
  let rest := (line.dropWhile (!CString.isblank ·)).dropWhile CString.isblank
  (line.takeWhile (!CString.isblank ·), (rest.reverse.dropWhile CString.isblank).reverse)

/-- The call of a handler with the argument that its entry asks for, and the release of the context
after it. -/
def dispatch (va : VerbAction) (arg : CString) : M Unit := do
  if va.hasParams ≠ 0 then
    if va.hasParams = 1 ∧ arg.length < 4 then pure () else do
      let ctx ← lift (findCtx .sms (.keeper .checkVerb))
      storeDbCtx (some ctx)
      let _ ← va.doVerb.run arg
      finish
  else do
    let _ ← va.doVerb.run "N/A".toList
    finish
where
  finish : M Unit := do
    let csp ← get
    if csp.dbCtx.isSome then releaseBdCtx

def checkVerb (buf : CString) : M Unit :=
  (verbTab.find? fun va ↦ va.verb = CString.toupper (splitLine buf).1).elim
    (if CString.toupper (splitLine buf).1 ≠ "WAKE_UP_SMS".toList then do
      let _ ← sendError (some ['\x00']) errVerbUnknwn
      pure ()
    else pure ())
    (dispatch · (splitLine buf).2)

/-- The service of one connection. -/
def serve : M Int := do
  let line ← socketReadLine CString.bufsiz selecttimeout
  if line.ret > 0 then checkVerb line.buf
  let csp ← get
  if csp.cfd ≠ -1 then do
    let _ ← lift (ask (.socketClose csp.cfd))
    pure 0
  else pure 0

end Dispatch

section Tasks

/-- The end of `update_task`. -/
def recordUpdate (sdid : CString) (ret : Int) : M Unit := do
  if ret ≠ 0 then
    if ret ≠ errSdNotSupported ∧ ret ≠ errSdLock ∧ ret ≠ errSdProvlock then do
      let _ ← smsSetUpdateStatus sdid ret "scan_updated".toList "FAILED".toList []
      pure ()
    else if ret = errSdNotSupported then do
      let _ ← smsSetUpdateStatus sdid smsOk "scan_updated".toList "ENDED".toList []
      let _ ← setSdUpdated sdid 0
      pure ()
  releaseBdCtx

/-- The update of a device found by `scan_updated`; it has no client. -/
def updateTask (sd : SdLike) : M Int := do
  let sdid := sd.sdid.strncpy sdidLen
  let ctx ← lift (findCtx .sms (.keeper .updateTask))
  storeDbCtx (some ctx)
  let info ← getSDinfo sdid
  if info.ret ≠ 0 then recordUpdate sdid info.ret else do
    let ret ← if info.output.sd.sdType.head? = some 'H' then updateConfig info.output
      else pure errSdNotSupported
    ensureDbCtx .updateTask
    recordUpdate sdid ret
  pure 0

/-- The inner loop of `scan_updated`. -/
def updateFetched (ctx : Ctx) (reply : Reply SdLike) : Code (Reply SdLike ⊕ Bool) := do
  if reply.ret = errDbNotfound then pure (.inr false) else do
    ask (.newTask (.updateTask reply.output) ("update ".toList ++ reply.output.key.text) 0)
    let next ← haSmssqlGetSDToUpdateNext ctx .blank
    if next.ret = errDbFailed then pure (.inr false)
    else if next.ret = errDbConnectionLost then pure (.inr true)
    else pure (.inl next)

def updatePass (ctx : Ctx) : Code (Unit ⊕ Unit) := do
  let first ← haSmssqlGetSDToUpdateFirst ctx .blank
  if first.ret = errDbFailed ∨ first.ret = errDbNotfound then pure (.inr ()) else do
    let lost ← Program.loop (updateFetched ctx) first
    if lost then pure (.inl ()) else pure (.inr ())

def scanUpdated : M Int := do
  lift (withCtx .sms .scanUpdated fun ctx ↦ Program.loop (fun _ ↦ updatePass ctx) ())
  pure 0

/-- The flag is taken as it was on the stack when the script has failed. -/
def saveConfTask (sd : SdLike) : M Int := do
  let saved ← saveRunningConf sd "daily config".toList
  let stack ← lift (ask .uninitialised)
  let currentConfig ← lift (ask .currentConfig)
  if saved.2.getD (stack ≠ []) = true ∧ currentConfig.alarmSevConfChanged > 0 then
    lift (ask (.setSdAlarm sd.key currentConfig.alarmSevConfChanged "CONF".toList
      "Configuration has been changed".toList))
  pure smsOk

end Tasks

end CoreEngine.Smsd
