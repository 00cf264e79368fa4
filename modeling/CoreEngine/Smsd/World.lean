import CoreEngine.Interaction.Procedure
import CoreEngine.Smsd.CString

/-!
# The world of the daemon

What the daemon keeps about devices, the database calls it makes, and everything else it asks of
its surroundings: the context pool, the client socket, the scripts and the linked libraries. A task
is a procedure over these operations whose local state is the client context `csp`.
-/

namespace CoreEngine.Smsd

open Interaction

section ErrorIds

/-! Result codes (`sms_error.h`, `router.h`). -/

def smsOk : Int := 0
def errDbFailed : Int := 3
def errDbNotfound : Int := 4
def errDbConnectionLost : Int := 5
def errVerbUnknwn : Int := 9
def errVerbBadParam : Int := 10
def errLocalPhp : Int := 15
def errSdNotSupported : Int := 28
def errSdProvlock : Int := 31
def errSdLock : Int := 32
def errSdFailed : Int := 33
def errSdTimeoutconnect : Int := 39
def errSdNoip : Int := 41
def ipchanged : Int := 955

end ErrorIds

section LockStates

/-! Values of `lock_state` (`smssql.h`). -/

def alreadyLocked : Int := 0
def okLocked : Int := 1
def okLockedByTimeout : Int := 2
def alreadyProvlocked : Int := 3

end LockStates

/-- The databases that the daemon keeps contexts for. -/
inductive Db
  | sms
  | cust
  deriving DecidableEq, Repr

/-- A context of the pool (`database_context_t`). -/
structure Ctx where
  db : Db
  slot : ℕ
  deriving DecidableEq, Repr

/-- The client context `client_state`: the socket and the current database context. -/
structure Client where
  cfd : Int
  dbCtx : Option Ctx
  deriving DecidableEq, Repr

/-- The key of a device. -/
structure SdKey where
  cliPrefix : CString
  seqnum : Int
  deriving DecidableEq, Repr

/-- The columns of `sd_like_t` that the daemon reads. -/
structure SdLike where
  key : SdKey
  sdid : CString
  sdLoginEntry : CString
  sdPasswdEntry : CString
  sdPasswdAdm : CString
  sdType : CString
  sdIpConfig : CString
  sdConnected : Int
  sdProvLock : Int
  manId : Int
  modId : Int
  deriving DecidableEq, Repr

structure SdInterface where
  intIpAddr : CString
  intIpType : CString
  deriving DecidableEq, Repr

structure SdInfo where
  sd : SdLike
  sdid : CString
  sdExtInterface : Option SdInterface
  routerPath : CString
  deriving DecidableEq, Repr

structure CustInfo where
  custid : CString
  deriving DecidableEq, Repr

structure Fildelog where
  key : SdKey
  logMsg : CString
  logLevel : Int
  logReference : CString
  deriving DecidableEq, Repr

structure SdAsset where
  key : SdKey
  sdHardwareModel : CString
  sdFirmware : CString
  sdSerialNumber : CString
  sdHardwareLicense : CString
  sdCpu : CString
  sdMemory : CString
  sdIpsVersion : CString
  sdIpsExpiration : CString
  sdAvVersion : CString
  sdAvExpiration : CString
  sdAsVersion : CString
  sdAsExpiration : CString
  sdUrlVersion : CString
  sdUrlExpiration : CString
  deriving DecidableEq, Repr

structure SdUpdatestatus where
  key : SdKey
  updType : CString
  updStatus : CString
  updLastdate : CString
  updFailureMessage : CString
  deriving DecidableEq, Repr

structure SdCrudObject where
  key : SdKey
  crudName : CString
  crudValue : CString
  deriving DecidableEq, Repr

structure SdProvstatus where
  key : SdKey
  stageIndex : Int
  status : CString
  errorCode : ℕ
  errorMessage : CString
  deriving DecidableEq, Repr

/-- The calls of the database library. -/
inductive Sql
  | getSdInfo (sdid : CString)
  | getCustInfo (custid : CString)
  | setLogById (log : Fildelog)
  | setSDIPConfig (key : SdKey) (ip : CString) (connected : Int)
  | setSDUpdated (key : SdKey) (flag : Int)
  | setSDprovlock (key : SdKey) (provlock : Int)
  | getSDprovlock (key : SdKey)
  | setLock (key : SdKey)
  | unLock (key : SdKey)
  | unLockAll (message : CString)
  | setProvDate (key : SdKey)
  | setSDConfigStep (key : SdKey) (step : Int)
  | setSDConnected (key : SdKey) (flag : Int)
  | getAsset (key : SdKey)
  | getSDToUpdateFirst
  | getSDToUpdateNext
  | getSDconnectedFirst
  | getSDconnectedNext
  | initProvStatus (key : SdKey) (numStages : Int) (stageNames : List CString)
  | setProvStatus (key : SdKey) (stageIndex : Int) (status : CString) (nextStatus : Option CString)
      (errorCode : ℕ) (errorMessage : CString)
  | getProvStatus (key : SdKey) (stageIndex : Int)
  | setPollMode (key : SdKey) (mode : Int)
  | setSDPing (key : SdKey) (pingtime isup doinsert : Int)
  | setSDAssetUpdate (key : SdKey) (flag : Int)
  | setUpdateStatus (status : SdUpdatestatus)
  | getUpdateStatus (status : SdUpdatestatus)
  | resetSDCrudObjects (object : SdCrudObject)
  | setSDCrudObjects (object : SdCrudObject)
  | deleteSDCrudObjects (object : SdCrudObject)
  deriving DecidableEq, Repr

/-- What a call leaves in its output parameter. -/
abbrev Sql.Output : Sql → Type
  | getSdInfo _ => SdInfo
  | getCustInfo _ => CustInfo
  | getSDprovlock _ => Int
  | setLock _ => Int
  | getAsset _ => SdAsset
  | getSDToUpdateFirst => SdLike
  | getSDToUpdateNext => SdLike
  | getSDconnectedFirst => SdLike
  | getSDconnectedNext => SdLike
  | getProvStatus _ _ => SdProvstatus
  | getUpdateStatus _ => SdUpdatestatus
  | _ => Unit

/-- The result code of a call and what it leaves in its output parameter. -/
structure Reply (α : Type) where
  ret : Int
  output : α

/-- The functions with the flag `release_db_ctx`: they take a context when `csp` has none, and release
it again. -/
inductive Borrower
  | lockProv
  | unlockProv
  | lockSD
  | unlockSD
  | sdForceAsset
  | smsBdInitProvstatus
  | smsBdSetProvstatus
  | smsBdGetProvstatus
  | smsBdSetPollMode
  | smsBdSetIpconfig
  | smsBdResetConfObjects
  | smsBdSetConfObjects
  | smsBdDeleteConfObjects
  deriving DecidableEq, Repr

/-- The functions that store the context they take in `csp`, where it stays until `RELEASE_BD_CTX`. -/
inductive Keeper
  | setSdUpdated
  | updateTask
  | setUpdateStatus
  | getUpdateStatus
  | checkVerb
  | updateIP
  | updateRouterIP
  | doUpdateLicense
  | doUpdateFirmware
  deriving DecidableEq, Repr

/-- The functions that take a context from the pool (`__FUNCTION__` at the call of
`sms_db_find_ctx`). The last three keep it in a variable of their own. -/
inductive Caller
  | borrower (borrower : Borrower)
  | keeper (keeper : Keeper)
  | scanUpdated
  | saveAllConf
  | smsBdSetLog
  deriving DecidableEq, Repr

/-- The functions of `php_db.c` and `php_misc.c` that act on the client context or the database,
with the arguments a script gives them. `none` is a null pointer or a missing array entry. The
device identifier that the functions for replies take is only logged, and left out. -/
inductive PhpFunction
  | smsSdProvLock
  | smsSdProvUnlock
  | smsSdLock
  | smsSdUnlock
  | smsSdForceasset
  | smsBdInitProvstatus (numStages : Int) (stageNames : List (Option CString))
  | smsBdSetProvstatus (stageIndex : Int) (status : CString) (errorId : Int)
      (nextStatus additionalmsg : Option CString)
  | smsBdGetProvstatus (stageIndex : Int)
  | smsBdSetPollMode (pollMode : Int)
  | smsBdSetIpconfig (ipAddr : CString)
  | smsBdResetConfObjects
  | smsBdSetConfObjects (name value : CString)
  | smsBdDeleteConfObjects (name : CString)
  | smsBdSetLog (logMsg logLevel logReference : Option CString)
  | smsSendUserOkEx (result message : Option CString)
  | smsSendUserOk (result : Option CString)
  | smsSendUserError (result : Option CString) (error : Int)
  | smsSendUserErrorEx (result : Option CString) (error : Int)
  | smsReplyToUser (userMessage : Option CString)
  | smsSendUserMessage (userMessage : CString)
  | smsCloseUserSocket
  | smsSetUpdateStatus (sdid : Option CString) (errorCode : Int)
      (type status errorMsg : Option CString)
  deriving DecidableEq, Repr

/-- A call from a script. The flags say whether it passes the pointers of its globals `sms_csp` and
`sms_sd_info`, or zero. -/
structure PhpCall where
  csp : Bool
  sdInfo : Bool
  function : PhpFunction
  deriving DecidableEq, Repr

/-- What a function returns to the script. -/
inductive PhpValue
  | void
  | int (value : Int)
  | provstatus (value : Option SdProvstatus)
  deriving DecidableEq, Repr

/-- The globals that are set before a script runs. -/
inductive PhpGlobal
  | csp
  | sdInfo (info : SdInfo)
  | custInfo (info : CustInfo)
  | str (name : CString) (value : Option CString)
  | bool (name : CString) (value : Bool)
  | long (name : CString) (value : Int)
  deriving DecidableEq, Repr

/-- A call of `sms_mod_php_execute_script`. -/
structure Script where
  sdid : CString
  path : CString
  file : CString
  globals : List PhpGlobal
  deriving DecidableEq, Repr

def Script.hasCsp (script : Script) : Bool := .csp ∈ script.globals

def Script.sdInfo (script : Script) : Option SdInfo :=
  script.globals.findSome? fun | .sdInfo info => some info | _ => none

/-- What a running script does next: call a function, or end with a result code, having set
`SMS_RETURN_BUF` and `SMS_OUTPUT_BUF`. -/
inductive ScriptStep
  | call (call : PhpCall)
  | exit (ret : Int) (returnBuf outputBuf : Option CString)
  deriving DecidableEq, Repr

/-- Counters of `currentStat`. -/
inductive Counter
  | totalgetreport
  | totalerrorgetreport
  | totalgetvpnreport
  | totalerrorgetvpnreport
  | totalgetrouterip
  | totalerrorgetrouterip
  | totalipdown
  | totalerroripdown
  | totalpppipup
  | totalerrorpppipup
  deriving DecidableEq, Repr

/-- What STAT prints of `currentStat` and of the clock. -/
structure Stats where
  totalThreads : ℕ
  activeThreads : ℕ
  totalupdate : ℕ
  totalerrorupdate : ℕ
  totalgetreport : ℕ
  totalerrorgetreport : ℕ
  totalgetconf : ℕ
  totalerrorgetconf : ℕ
  totalgetvpnreport : ℕ
  totalerrorgetvpnreport : ℕ
  totalgetrouterip : ℕ
  totalerrorgetrouterip : ℕ
  totalcheckupdate : ℕ
  totalerrorcheckupdate : ℕ
  totalipdown : ℕ
  totalerroripdown : ℕ
  bufstartTime : CString
  bufcu : CString
  startTime : ℕ
  currentTime : ℕ
  deriving DecidableEq, Repr

/-- Tasks handed to the scheduler. -/
inductive Task
  | updateTask (sd : SdLike)
  | saveConfTask (sd : SdLike)
  deriving DecidableEq, Repr

/-- The fields of `currentConfig` that the modelled functions read. -/
structure SmsConf where
  alarmSevConfChanged : Int
  alarmUpdateFail : Int
  alarmUpdateOk : Int
  jsacmdList : List CString
  jsacustcmdList : List CString
  deriving DecidableEq, Repr

/-- Functions of the linked libraries that only compute. -/
structure Library where
  getErrorMessage : Int → Option CString
  getErrorCodeStr : Int → Option CString
  getErrorCodeNum : Int → ℕ
  gpulBackslashify : CString → CString
  getRouterConfigType : Int → Int → Option CString

/-- A line read from a socket and its length, or a negative result. -/
structure ReadLine where
  ret : Int
  buf : CString
  deriving DecidableEq, Repr

/-- Everything a task asks of its surroundings. `storeDbCtx` and `replied` do nothing: they make an
assignment to `csp->db_ctx`, and the end of a reply that was written in full, visible in a run.
`nullDereference` follows a null pointer; `nullBody` does so with the body that a handler has gathered
from the client. `uninitialised` is the content of a local array before it is written, also behind the
end of a string in it. -/
inductive Op
  | readShutdown
  | findCtx (db : Db) (caller : Caller)
  | releaseCtx (ctx : Option Ctx)
  | storeDbCtx (old new : Option Ctx)
  | allocateContext (ctx : Ctx) (db : Db)
  | sql (ctx : Ctx) (query : Sql)
  | nullDereference
  | nullBody
  | socketReadLine (fd : Int) (size timeout : ℕ)
  | socketWrite (fd : Int) (bytes : CString)
  | socketClose (fd : Int)
  | doSnmpGet (oid : CString) (fd : Int)
  | doSnmpGetNext (oid : CString) (fd : Int)
  | replied
  | scriptStart (script : Script)
  | scriptStep
  | phpReturn (value : PhpValue)
  | library
  | currentConfig
  | setSdAlarm (key : SdKey) (level : Int) (reference message : CString)
  | countUp (counter : Counter)
  | currentStat
  | newTask (task : Task) (name : CString) (delay : ℕ)
  | gpulSchedStats
  | gpulLogReinit
  | logSetLevel (level : Int)
  | dbgSetLevel (level : Int)
  | sleep (seconds : ℕ)
  | uninitialised
  deriving DecidableEq, Repr

abbrev Op.Answer : Op → Type
  | readShutdown => Bool
  | findCtx _ _ => Ctx
  | sql _ query => Reply query.Output
  | nullDereference => Empty
  | nullBody => Empty
  | socketReadLine _ _ _ => ReadLine
  | socketWrite _ _ => Int
  | socketClose _ => Int
  | scriptStep => ScriptStep
  | library => Library
  | currentConfig => SmsConf
  | currentStat => Stats
  | gpulSchedStats => CString
  | uninitialised => CString
  | _ => Unit

abbrev signature : Signature := ⟨Op, Op.Answer⟩

/-- Code that does not use the client context. -/
abbrev Code := Program signature

/-- Code that runs on behalf of a client context `csp`. -/
abbrev M := Procedure signature Client

/-- Perform one operation. -/
def ask (op : Op) : Code op.Answer := Program.perform (S := signature) op

end CoreEngine.Smsd
