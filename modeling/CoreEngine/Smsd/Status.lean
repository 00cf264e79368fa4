import CoreEngine.Smsd.Lock

/-!
# Device records

Lookup of a device, its update statuses and its asset data (`update.c`, `router.c`).
-/

namespace CoreEngine.Smsd

open Interaction
open Procedure (lift)

def updTypeLen : ℕ := 50
def updStatusLen : ℕ := 20
def failureMessageLen : ℕ := 4000

/-- `SMSD_MSG_EOL`. -/
def smsdMsgEol : CString := "\r\n".toList

def getSDinfo (sdid : CString) : M (Reply SdInfo) := useDbCtx fun ctx ↦ sql ctx (.getSdInfo sdid)

def getCustInfo (custid : CString) : M (Reply CustInfo) :=
  useDbCtx fun ctx ↦ sql ctx (.getCustInfo custid)

def setSdUpdated (sdid : CString) (sdUpdatedFlag : Int) : M Int := do
  let key ← decodeSdid CString.atol sdid
  ensureDbCtx .setSdUpdated
  let reply ← useDbCtx fun ctx ↦ haSmssqlSetSDUpdated ctx key sdUpdatedFlag
  pure reply.ret

def setUpdateStatus (sdid type status failureMsg : CString) : M Int := do
  let key ← decodeSdid CString.atol sdid
  ensureDbCtx .setUpdateStatus
  let reply ← useDbCtx fun ctx ↦ sql ctx (.setUpdateStatus
    { key := key
      updType := type.strncpy updTypeLen
      updStatus := status.strncpy updStatusLen
      updLastdate := []
      updFailureMessage := failureMsg.strncpy failureMessageLen })
  -- other failures count as success
  if reply.ret = errDbFailed ∨ reply.ret = errDbNotfound then pure reply.ret else pure 0

/-- The text of a status. Only the first character of the status itself is kept; when there is none,
its terminator ends the text. -/
def SdUpdatestatus.text (status : SdUpdatestatus) : CString :=
  match status.updStatus with
  | [] => status.updLastdate ++ smsdMsgEol
  | c :: _ => status.updLastdate ++ smsdMsgEol ++ [c] ++ smsdMsgEol ++ status.updFailureMessage

def SdUpdatestatus.notProcessed (status : SdUpdatestatus) : SdUpdatestatus :=
  { status with updLastdate := "01-01-1970 00:00:00".toList, updStatus := "NOTPROCESSED".toList }

def getUpdateStatus (sdid type : CString) : M (Reply (Option CString)) := do
  let key ← decodeSdid CString.atol sdid
  ensureDbCtx .getUpdateStatus
  let reply ← useDbCtx fun ctx ↦ sql ctx (.getUpdateStatus
    { key := key
      updType := type.strncpy updTypeLen
      updStatus := []
      updLastdate := []
      updFailureMessage := [] })
  if reply.ret ≠ 0 then
    if reply.ret ≠ errDbNotfound then pure ⟨reply.ret, none⟩
    else pure ⟨0, some reply.output.notProcessed.text⟩
  else pure ⟨0, some reply.output.text⟩

def checkUpdate (sdid : CString) : M (Reply (Option CString)) :=
  getUpdateStatus sdid "UPDATE".toList

/-- The kinds of updates and the verbs that check them. -/
def events : List (CString × CString) :=
  [("UPDATE".toList, "CHECKUPDATE".toList),
   ("FIRMWARE".toList, "CHECKUPDATEFIRMWARE".toList),
   ("RESTORE".toList, "CHECKRESTORE".toList),
   ("SENDDATAFILES".toList, "CHECKSENDDATAFILES".toList),
   ("BACKUP".toList, "CHECKBACKUP".toList),
   ("SCRIPT".toList, "CHECKEXECSCRIPT".toList),
   ("PUSHCONFIG".toList, "CHECKPUSHCONFIG".toList),
   ("PUSHCONFIGIBA".toList, "CHECKPUSHCONFIGIBA".toList),
   ("PUSHCONFIGSTARTUP".toList, "CHECKPUSHCONFIGSTARTUP".toList),
   ("LICENSE".toList, "CHECKUPDATELICENSE".toList),
   ("NODEMIGRATION".toList, "CHECKNODEMIGRATION".toList),
   ("OBMFAPPLYCONF".toList, "CHECKOBMFAPPLYCONF".toList)]

/-- The loop of `checkAllUpdate` over the rest of the table, with the text built so far. -/
def checkEvents (sdid : CString) :
    List (CString × CString) → Option CString → M (Reply (Option CString))
  | [], updateString => pure ⟨smsOk, updateString⟩
  | event :: rest, updateString => do
      let check ← getUpdateStatus sdid event.1
      if check.ret ≠ 0 then pure ⟨check.ret, none⟩ else
        checkEvents sdid rest (some (updateString.getD [] ++
          "\r\n#begin ".toList ++ event.2 ++ "\r\n".toList ++ check.output.getD [] ++
          "\r\n#end ".toList ++ event.2 ++ "\r\n".toList))

def checkAllUpdate (sdid : CString) : M (Reply (Option CString)) := checkEvents sdid events none

/-- The text that `sdGetAsset` builds. -/
def SdAsset.text (asset : SdAsset) : CString :=
  let line (label : String) (value : CString) : CString :=
    "      ".toList ++ label.toList ++ "[".toList ++ value ++ "]\n".toList
  asset.key.cliPrefix ++ CString.showUnsignedLong asset.key.seqnum ++ "\n".toList ++
    line "model          " asset.sdHardwareModel ++
    line "firmware       " asset.sdFirmware ++
    line "serial number  " asset.sdSerialNumber ++
    line "license        " asset.sdHardwareLicense ++
    line "cpu            " asset.sdCpu ++
    line "memory         " asset.sdMemory ++
    line "ips version    " asset.sdIpsVersion ++
    line "ips_expiration " asset.sdIpsExpiration ++
    line "av_version     " asset.sdAvVersion ++
    line "av_expiration  " asset.sdAvExpiration ++
    line "as_version     " asset.sdAsVersion ++
    line "as_expiration  " asset.sdAsExpiration ++
    line "url_version    " asset.sdUrlVersion ++
    line "url_expiration " asset.sdUrlExpiration

/-- An asset record cleared by `memset` but for its key. -/
def SdAsset.blank (key : SdKey) : SdAsset :=
  ⟨key, [], [], [], [], [], [], [], [], [], [], [], [], [], []⟩

def sdGetAsset (sdid : CString) : M (Reply CString) := do
  let key ← decodeSdid CString.atol sdid
  let reply ← useDbCtx fun ctx ↦ haSmssqlGetAsset ctx (.blank key)
  if reply.ret ≠ 0 then pure ⟨reply.ret, []⟩ else pure ⟨0, reply.output.text⟩

def sdForceAsset (sdid : CString) : M Int := do
  let key ← decodeSdid CString.atol sdid
  let reply ← borrowDbCtx .sdForceAsset fun ctx ↦ sql ctx (.setSDAssetUpdate key 1)
  pure reply.ret

/-- The result buffer is emptied first and never written. -/
def sdSetConfigMode (sdid : CString) (cfgMode : Int) : M (Reply CString) := do
  let key ← decodeSdid CString.atol sdid
  let reply ← useDbCtx fun ctx ↦ haSmssqlSetSDConfigStep ctx key cfgMode
  pure ⟨reply.ret, []⟩

end CoreEngine.Smsd
