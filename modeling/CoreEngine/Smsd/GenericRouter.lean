import CoreEngine.Smsd.Php

/-!
# Script wrappers

The functions that prepare the globals of a device script, run it and deal with its failure
(`generic_router.c`, `pattern.c`, and the ones of `update.c` and `router.c`). They differ in the
script, in its globals and in what they do when it fails: most reply to the client, five unlock the
device, some do neither.
-/

namespace CoreEngine.Smsd

open Interaction
open Procedure (lift)

/-- Run a script and handle a failure with `failed`. -/
def runScript (script : Script) (failed : Int → M Unit) : M Int := do
  let exit ← smsModPhpExecuteScript script
  if exit.ret ≠ 0 then failed exit.ret
  pure exit.ret

/-- A script of the device's own type. -/
def deviceScript (info : SdInfo) (file : String) (globals : List PhpGlobal) : Script :=
  ⟨info.sdid, info.routerPath, file.toList, globals⟩

/-- A global that holds a string. -/
def str (name : String) (value : CString) : PhpGlobal := .str name.toList (some value)

/-- The failure branch that tells the client. -/
def replyFailure (ret : Int) : M Unit := smsSendUserError (some []) ret

/-- The failure branch that tells the client and unlocks the device. -/
def replyFailureAndUnlock (info : SdInfo) (ret : Int) : M Unit := do
  smsSendUserError (some []) ret
  let _ ← unlockSD info.sd.key
  pure ()

/-- The failure branch that only logs. -/
def ignoreFailure (_ret : Int) : M Unit := pure ()

section Wrappers

def genericStaging (info : SdInfo) : M Int :=
  runScript (deviceScript info "do_staging.php" [.csp, .sdInfo info]) replyFailure

def genericStagingMap (info : SdInfo) : M Int :=
  runScript (deviceScript info "do_stagingmap.php" [.csp, .sdInfo info]) replyFailure

def genericInitialProvisioning (info : SdInfo) (ipaddr login passwd adminpasswd : CString) : M Int :=
  runScript (deviceScript info "do_provisioning.php"
    [.csp, str "ipaddr" ipaddr, str "login" login, str "passwd" passwd,
      str "adminpasswd" adminpasswd, .sdInfo info]) (replyFailureAndUnlock info)

def genericCheckProvisioning (info : SdInfo) : M Int :=
  runScript (deviceScript info "do_checkprovisioning.php" [.csp, .sdInfo info]) replyFailure

/-- Refuses the request itself when its parameters are missing. -/
def genericSnmpTest (cmd address community oid : CString) : M Int := do
  if cmd = [] ∨ address = [] ∨ community = [] ∨ oid = [] ∨
      (cmd ≠ "get".toList ∧ cmd ≠ "walk".toList) then do
    smsSendUserError (some []) errVerbBadParam
    pure (-1)
  else runScript ⟨[], "mon_generic".toList, "snmp_test.php".toList,
    [str "snmp_cmd" cmd, str "ip_address" address, str "snmp_community" community, str "oid" oid,
      str "sdid" [], .csp]⟩ replyFailure

def genericGetConfiguration (info : SdInfo) : M (Reply (Option CString)) := do
  let exit ← smsModPhpExecuteScript (deviceScript info "do_get_sd_conf.php" [.sdInfo info])
  if exit.ret ≠ 0 then pure ⟨exit.ret, none⟩ else pure ⟨exit.ret, some (exit.returnBuf.getD [])⟩

def genericGetRunningConf (info : SdInfo) : M Int :=
  runScript (deviceScript info "do_get_running_conf.php" [.csp, .sdInfo info]) replyFailure

def genericGetConfig (info : SdInfo) : M Int :=
  runScript (deviceScript info "do_get_config.php" [.csp, .sdInfo info]) replyFailure

def genericGetActivityReport (info : SdInfo) : M Int :=
  runScript (deviceScript info "do_get_activity_report.php" [.csp, .sdInfo info]) replyFailure

def genericGetBotnetReport (info : SdInfo) : M Int :=
  runScript (deviceScript info "do_get_botnet_report.php" [.csp, .sdInfo info]) replyFailure

/-- The global `config_type`, looked up by manufacturer and model. -/
def configType (sd : SdLike) : M PhpGlobal := do
  let library ← lift (ask .library)
  pure (.str "config_type".toList (library.getRouterConfigType sd.manId sd.modId))

def genericRestoreConf (info : SdInfo) (revisionId msg : CString) : M Int := do
  let configType ← configType info.sd
  runScript (deviceScript info "do_restore_conf.php"
    [str "revision_id" revisionId, .csp, configType, str "sms_msg" msg, .sdInfo info])
    (replyFailureAndUnlock info)

def genericBackupConf (info : SdInfo) (backupModule msg : CString) : M Int := do
  let configType ← configType info.sd
  runScript (deviceScript info "do_backup_conf.php"
    [.csp, str "backup_module" backupModule, configType, str "sms_msg" msg, .sdInfo info])
    replyFailure

def genericPushConfig (info : SdInfo) (addon tsIp tsPort configuration : CString) : M Int := do
  let configType ← configType info.sd
  runScript ⟨info.sdid, "smsd".toList, "do_push_config.php".toList,
    [.csp, str "addon" addon, str "ts_ip" tsIp, str "ts_port" tsPort,
      str "configuration" configuration, configType, .sdInfo info]⟩ replyFailure

def genericUpdateConf (info : SdInfo) : M Int :=
  runScript (deviceScript info "do_update_conf.php" [.csp, .sdInfo info]) (replyFailureAndUnlock info)

/-- The commands separated by commas; a null pointer if there are none. -/
def commandList (routerCmdList : List CString) : Option CString :=
  routerCmdList.foldl (fun csv cmd ↦ CString.strAppend (csv.map (· ++ ",".toList)) cmd) none

def genericSmsexecCmd (info : SdInfo) (routerCmdList : List CString) : M Int :=
  runScript (deviceScript info "do_smsexec.php"
    [.str "smsexec_list".toList (commandList routerCmdList), .csp, .sdInfo info]) replyFailure

def genericSmsAddonExecCmd (info : SdInfo) (addon : CString) (routerCmdList : List CString) : M Int :=
  runScript (deviceScript info "do_sms_addon_exec.php"
    [str "addon" addon, .str "smsexec_list".toList (commandList routerCmdList), .csp, .sdInfo info])
    replyFailure

def genericUnarchiveConfiguration (info : SdInfo) (archive folder : CString) : M Int :=
  runScript (deviceScript info "do_unarchive_conf.php"
    [.csp, str "archive" archive, str "folder" folder, .sdInfo info]) ignoreFailure

def genericGetArchiveConfiguration (info : SdInfo) (folder : CString) : M Int :=
  runScript (deviceScript info "do_get_archive_conf.php" [.csp, str "folder" folder, .sdInfo info])
    ignoreFailure

def genericUpdateLicense (info : SdInfo) : M Int :=
  runScript (deviceScript info "do_update_license.php" [.csp, .sdInfo info]) ignoreFailure

def genericUpdateFirmware (info : SdInfo) (param serverAddr : CString) : M Int :=
  runScript (deviceScript info "do_update_firmware.php"
    [.csp, str "param1" param, str "param2" serverAddr, .sdInfo info]) ignoreFailure

/-- Unlocks the device on failure, but leaves the reply to the script. -/
def genericExecScript (info : SdInfo) (script : CString) (synchronous : Bool) : M Int :=
  runScript (deviceScript info "do_exec_script.php"
    [.csp, str "exec_script_name" script, .bool "synchronous".toList synchronous, .sdInfo info])
    fun _ ↦ do
      let _ ← unlockSD info.sd.key
      pure ()

/-- The dates that the caller has parsed are not given to the script. -/
def genericGetReport (info : SdInfo) (fullReport : Bool) (_startDate _endDate : Int) :
    M (Reply (Option CString)) := do
  let exit ← smsModPhpExecuteScript (deviceScript info "do_get_report.php"
    [.bool "fullReport".toList fullReport, .sdInfo info])
  if exit.ret ≠ 0 then pure ⟨exit.ret, none⟩ else pure ⟨exit.ret, some (exit.returnBuf.getD [])⟩

def genericHaSwap (info : SdInfo) : M Int :=
  runScript (deviceScript info "do_ha_swap.php" [.csp, .sdInfo info]) ignoreFailure

/-- The manufacturer whose devices have their serial number checked. -/
def netasq : Int := 23

def genericCheckSerialNumber (info : SdInfo) (ipaddr : CString) : M Int :=
  if info.sd.manId ≠ netasq then pure smsOk
  else runScript (deviceScript info "do_check_serial_number.php" [.sdInfo info, str "ipaddr" ipaddr])
    ignoreFailure

/-- Result code, result and output of a command. -/
def genericCallCommand (info : SdInfo) (command : CString) (applyConf : Int)
    (params : Option CString) : M (Reply (CString × CString)) := do
  let exit ← smsModPhpExecuteScript ⟨info.sdid, "smsd".toList, "do_call_command.php".toList,
    [.csp, .sdInfo info, str "commandName" command, .str "commandParams".toList params,
      .long "apply_conf".toList applyConf]⟩
  pure ⟨exit.ret, exit.returnBuf.getD [], exit.outputBuf.getD []⟩

def genericSendDataFiles (info : SdInfo)
    (addon serverAddr serverFtpLogin serverFtpPasswd : CString) : M Int :=
  runScript (deviceScript info "do_send_data_files.php"
    [.csp, str "param1" addon, str "param2" serverAddr, str "param3" serverFtpLogin,
      str "param4" serverFtpPasswd, .sdInfo info]) ignoreFailure

/-- The file that serves a command, in lower case. -/
def commandFile (stem : String) (cmd : CString) : CString :=
  CString.tolower (stem.toList ++ cmd ++ ".php".toList)

def genericSmsCmd (info : SdInfo) (cmd : CString) (optionalParams : Option CString) : M Int :=
  runScript ⟨info.sdid, info.routerPath, commandFile "do_cmd_" cmd,
    [str "cmd" cmd, .str "optional_params".toList optionalParams, .csp, .sdInfo info]⟩
    (replyFailureAndUnlock info)

def genericSmsdCmd (cmd : CString) (optionalParams : Option CString) : M Int :=
  runScript ⟨"debug".toList, "smsd".toList, commandFile "do_cmd_" cmd,
    [str "cmd" cmd, .str "optional_params".toList optionalParams, .csp]⟩ replyFailure

def genericSmsCustCmd (custInfo : CustInfo) (cmd : CString) (optionalParams : Option CString) :
    M Int :=
  runScript ⟨custInfo.custid, "smsd".toList, commandFile "do_cust_cmd_" cmd,
    [str "cmd" cmd, .str "optional_params".toList optionalParams, .csp, .custInfo custInfo]⟩
    replyFailure

def genericGenTemplate (info : SdInfo) (revision1 revision2 addon : CString) : M Int :=
  runScript (deviceScript info "do_gen_template.php"
    [str "revision1" revision1, str "revision2" revision2, str "addon" addon, .csp, .sdInfo info])
    replyFailure

end Wrappers

section OtherScripts

/-- `getPingStatus`: the reply carries what the script left in its return buffer. -/
def getPingStatus (params : CString) : M Int := do
  let exit ← smsModPhpExecuteScript ⟨"debug".toList, "smsd".toList, "do_getPingStatus.php".toList,
    [.csp, str "HOST" params]⟩
  if exit.ret ≠ 0 then smsSendUserError (some (exit.returnBuf.getD [])) exit.ret
  pure exit.ret

def dnsUpdate (sdid ip : CString) : M Int :=
  runScript ⟨sdid, "smsd".toList, "dns_update.php".toList, [str "sdid" sdid, str "ip" ip]⟩
    ignoreFailure

/-- The second component is what is stored through `version_changed`, if anything is. -/
def saveRunningConf (sd : SdLike) (strFlagUpdate : CString) : M (Int × Option Bool) := do
  let configType ← configType sd
  let exit ← smsModPhpExecuteScript ⟨sd.sdid, "smsd".toList, "save_router_conf.php".toList,
    [str "flag_update" strFlagUpdate, configType, str "sdid" sd.sdid]⟩
  if exit.ret ≠ 0 then pure (exit.ret, none)
  else pure (exit.ret, some (exit.returnBuf.getD [] ≠ []))

/-- The common part of the template functions: the script of the device's own type, then the default
one if that fails. -/
def resolveWith (sdid : CString) (template : PhpGlobal) : M Int := do
  let info ← getSDinfo sdid
  if info.ret ≠ 0 then pure info.ret else do
    let globals := [.csp, template, .sdInfo info.output]
    let exit ← smsModPhpExecuteScript
      (deviceScript info.output "do_resolve_template.php" globals)
    if exit.ret ≠ 0 then
      runScript ⟨info.output.sdid, "smsd".toList, "do_resolve_template.php".toList, globals⟩
        ignoreFailure
    else pure exit.ret

def resolveTemplate (sdid templatePath : CString) : M Int :=
  resolveWith sdid (str "template_path" templatePath)

def resolveTemplateBuffer (sdid templateBuffer : CString) : M Int :=
  resolveWith sdid (str "template_buffer" templateBuffer)

end OtherScripts

end CoreEngine.Smsd
