import CoreEngine.Smsd.Update

/-!
# Address changes

The handlers of IPUP and IPDOWN notices (`verb.c`). Each reads the device record, decides, and writes
later; the record is not locked in between.
-/

namespace CoreEngine.Smsd

open Interaction
open Procedure (lift)

section Log

def ipupdownLogLevel : Int := 1

/-- `<prefix><seqnum>`. -/
def SdKey.text (key : SdKey) : CString := key.cliPrefix ++ CString.showUnsignedLong key.seqnum

/-- `VNOC-%d-IPUP` and `VNOC-%d-IPDOWN`. -/
def logReference (notice : String) : CString :=
  "VNOC-".toList ++ CString.showInt ipupdownLogLevel ++ "-".toList ++ notice.toList

def ipLog (key : SdKey) (notice : String) (text : CString) : Fildelog :=
  ⟨key, "%".toList ++ logReference notice ++ ": ".toList ++ notice.toList ++ " for ".toList ++ text,
    ipupdownLogLevel, logReference notice⟩

/-- `IPUP_IP_DYN_LOG`. -/
def ipupDynLog (sd : SdLike) (ip : CString) : Fildelog :=
  ipLog sd.key "IPUP" ("router ".toList ++ sd.key.text ++
    " with dynamic ip address. Old address ".toList ++ sd.sdIpConfig ++ ", new address ".toList ++ ip ++
    "\n".toList)

/-- `IPUP_LOG`. -/
def ipupLog (sd : SdLike) (interface : SdInterface) (ip : CString) : Fildelog :=
  ipLog sd.key "IPUP" ((if interface.intIpType.head? = some 'S' then "static".toList
    else "dynamic".toList) ++ " router ".toList ++ sd.key.text ++ ". The address is ".toList ++ ip ++
    "\n".toList)

/-- `IPDOWN_LOG`. -/
def ipdownLog (sd : SdLike) : Fildelog :=
  ipLog sd.key "IPDOWN" ("router ".toList ++ sd.key.text ++ ".\n".toList)

end Log

/-- `ret == ERR_DB_FAILED || ret == ERR_DB_NOTFOUND`: the failures that are looked at. -/
def refused (ret : Int) : Prop := ret = errDbFailed ∨ ret = errDbNotfound

instance (ret : Int) : Decidable (refused ret) := inferInstanceAs (Decidable (_ ∨ _))

section IpUp

/-- Write to the database, then to the log. The output says whether both went through; the result is
the one of the last call made. -/
def writeThenLog (write : Ctx → Code (Reply Unit)) (log : Fildelog) : M (Reply Bool) := do
  let written ← useDbCtx write
  if refused written.ret then pure ⟨written.ret, false⟩ else do
    let logged ← useDbCtx fun ctx ↦ sql ctx (.setLogById log)
    if refused logged.ret then pure ⟨logged.ret, false⟩ else pure ⟨logged.ret, true⟩

/-- The writes of `updateIP` on a record read before, `csp->db_ctx` being set. After a refused write
the context stays in `csp`. -/
def updateIPWrites (sdid ipaddr : CString) (sd : SdLike) (interface : SdInterface) : M Int := do
  if ipaddr ≠ sd.sdIpConfig then
    if interface.intIpType.head? ≠ some 'S' then do
      let done ← writeThenLog (haSmssqlSetSDIPConfig · sd.key ipaddr 1) (ipupDynLog sd ipaddr)
      if done.output then do
        let _ ← dnsUpdate sdid ipaddr
        releaseBdCtx
        if done.ret = 0 then pure ipchanged else pure done.ret
      else pure done.ret
    else do
      releaseBdCtx
      pure 0
  else if sd.sdConnected = 0 then do
    let done ← writeThenLog (haSmssqlSetSDConnected · sd.key 1) (ipupLog sd interface ipaddr)
    if done.output then releaseBdCtx
    pure done.ret
  else do
    releaseBdCtx
    pure 0

def updateIP (sdid ipaddr : CString) : M Int := do
  let info ← getSDinfo sdid
  if info.ret ≠ 0 then pure info.ret else do
    releaseBdCtx
    if info.output.sd.sdProvLock ≠ 0 then pure 0
    else info.output.sdExtInterface.elim (pure 0) fun interface ↦ do
      let ret ← genericCheckSerialNumber info.output ipaddr
      if ret ≠ 0 then pure ret else do
        ensureDbCtx .updateIP
        updateIPWrites sdid ipaddr info.output.sd interface

/-- The writes of `updateRouterIP`. Unlike those of `updateIP` they announce the address after the
release, and report a change whatever the log call returned. -/
def updateRouterIPWrites (params : CString) (sd : SdLike) (interface : SdInterface) : M Int := do
  if params ≠ sd.sdIpConfig then
    if interface.intIpType.head? ≠ some 'S' then do
      let done ← writeThenLog (haSmssqlSetSDIPConfig · sd.key params 1) (ipupDynLog sd params)
      if done.output then do
        releaseBdCtx
        let _ ← dnsUpdate sd.key.text params
        pure ipchanged
      else pure done.ret
    else do
      releaseBdCtx
      pure 0
  else if sd.sdConnected = 0 then do
    let done ← writeThenLog (haSmssqlSetSDConnected · sd.key 1) (ipupLog sd interface params)
    if done.output then do
      releaseBdCtx
      pure 0
    else pure done.ret
  else do
    releaseBdCtx
    pure 0

/-- The record is looked up under the identifier that `memset` left in it, the empty one. -/
def updateRouterIP (params : CString) : M Int := do
  let info ← getSDinfo []
  if info.ret ≠ 0 then pure info.ret else do
    releaseBdCtx
    info.output.sdExtInterface.elim (pure smsOk) fun interface ↦ do
      let ret ← genericCheckSerialNumber info.output params
      if ret ≠ 0 then pure ret else do
        ensureDbCtx .updateRouterIP
        updateRouterIPWrites params info.output.sd interface

def countUp (counter : Counter) : M Unit := lift (ask (.countUp counter))

def handlePppIpUp (params : CString) : M Int := do
  countUp .totalpppipup
  let result ← updateRouterIP params
  if result ≠ 0 then countUp .totalerrorpppipup
  pure 0

/-- There is no reply: the socket is closed first. -/
def doSdIpUp (params : CString) : M Int := do
  countUp .totalpppipup
  closeUserSocket
  (params.cut ' ').elim (pure 0) fun parts ↦
    if parts.2 = [] then pure 0 else do
      let result ← updateIP parts.1 parts.2
      if result ≠ 0 then countUp .totalerrorpppipup
      pure 0

end IpUp

section IpDown

/-- The word that `sscanf` stored into an array, or what the array held before. -/
def scanned (words : List CString) (i : ℕ) : M CString :=
  words[i]?.elim (lift (ask .uninitialised)) pure

/-- The writes of `doIpDown` on a record read before. The output says whether they went through. -/
def ipDownWrites (ip : CString) (sd : SdLike) : M (Reply Bool) := do
  if sd.sdConnected ≠ 0 then
    if ip = sd.sdIpConfig ∨ sd.sdIpConfig = [] then do
      let logged ← useDbCtx fun ctx ↦ sql ctx (.setLogById (ipdownLog sd))
      if refused logged.ret then pure ⟨logged.ret, false⟩ else do
        let written ← useDbCtx fun ctx ↦ haSmssqlSetSDConnected ctx sd.key 0
        if refused written.ret then pure ⟨written.ret, false⟩ else pure ⟨written.ret, true⟩
    else pure ⟨0, true⟩
  else pure ⟨0, true⟩

/-- The end of `doIpDown` at the label `error`. -/
def ipDownError (result : Int) : M Int := do
  countUp .totalerroripdown
  let _ ← sendError none result
  pure 0

def doIpDown (params : CString) : M Int := do
  let words := params.scanWords 2
  let sdid ← scanned words 0
  let ip ← scanned words 1
  countUp .totalipdown
  let info ← getSDinfo sdid
  if info.ret ≠ 0 then ipDownError errDbNotfound else do
    let done ← ipDownWrites ip info.output.sd
    if done.output then do
      let _ ← sendOk none
      pure 0
    else ipDownError done.ret

end IpDown

end CoreEngine.Smsd
