import CoreEngine.Smsd.CString
import Mathlib.Data.List.ModifyLast

/-!
# The configuration file

`createConfig` of `smsconfig.c`: the lines of the file, the directives, the elements that `realloc` adds to
`smsArray` and `syslogArray`, and the checks at the end. Memory that has not been written yet holds
arbitrary values.
-/

namespace CoreEngine.Smsd

section Fields

/-- The pointers of `sms_t`. -/
inductive SmsField
  | smsAddressIp | smsAddressIpv6 | smsNetworkIp | smsMaskIp | smsInvertedMaskIp
  deriving DecidableEq, Repr

/-- The pointer of `smssyslog_t`. -/
inductive SyslogField
  | syslogAddIp
  deriving DecidableEq, Repr

/-- The strings of `smsConf_t`. -/
inductive TextField
  | domain | logfile | haddr | ntpserver | ntpbackupserver | dnsDefault | ubiVsocName | ubiCentralizedNodeName
  | tftpBase | fmcRepository | fmcEntities2files | smtpServerAddress | notifMailAddress | dbConfFile
  | routerConfFile | scpUser | scpPass | saveAllConfTime | saveAllConfFreq | nodeName
  deriving DecidableEq, Repr

/-- The numbers of `smsConf_t`. -/
inductive NumberField
  | port | loglevel | debug | numSimultaneous | smsNumContext | custNumContext
  | numSimultaneousIngetVPNstatus | listRouterToUpdateFromBaseAtStart | heartBeat | nightlySaveConf
  | alarmSevConfChanged | alarmUpdateFail | alarmUpdateOk | localServerSynchroTimeout
  deriving DecidableEq, Repr

/-- A pointer in an element of an array: NULL, a string that a directive put there, or the address that the
memory of the element held. -/
inductive Pointer
  | null
  | text (s : CString)
  | wild (address : ℕ)
  deriving DecidableEq, Repr

abbrev Sms := SmsField → Pointer

abbrev Syslog := SyslogField → Pointer

/-- What a new pointer holds before it is written. -/
abbrev Leftover := Option ℕ

def Leftover.pointer (leftover : Leftover) : Pointer := leftover.elim .null .wild

structure FileConf where
  texts : TextField → Option CString
  numbers : NumberField → Int
  smsArray : List Sms
  syslogArray : List Syslog
  jsacmdList : List CString
  jsacustcmdList : List CString

namespace FileConf

def smsNumber (config : FileConf) : ℕ := config.smsArray.length

def syslogNumber (config : FileConf) : ℕ := config.syslogArray.length

def setText (config : FileConf) (field : TextField) (text : CString) : FileConf :=
  { config with texts := Function.update config.texts field (some text) }

def setNumber (config : FileConf) (field : NumberField) (n : Int) : FileConf :=
  { config with numbers := Function.update config.numbers field n }

/-- `calloc`, and the default values. -/
def default : FileConf where
  texts _ := none
  numbers
    | .port => 28169
    | .loglevel => 15
    | .debug => 15
    | .smsNumContext => 5
    | .custNumContext => 1
    | .numSimultaneous => 10
    | .alarmUpdateOk => 6
    | .alarmUpdateFail => 1
    | .localServerSynchroTimeout => 300
    | _ => 0
  smsArray := []
  syslogArray := []
  jsacmdList := []
  jsacustcmdList := []

end FileConf

end Fields

section Lines

/-- An access to an element of an array of `n` elements, or to a character of a string with `n` characters
before its terminator. -/
inductive Access
  | sms (index : Int) (n : ℕ)
  | syslog (index : Int) (n : ℕ)
  | text (index : Int) (n : ℕ)
  deriving DecidableEq, Repr

def Access.InBounds : Access → Prop
  | .sms index n | .syslog index n => 0 ≤ index ∧ index < n
  | .text index n => 0 ≤ index ∧ index ≤ n

instance (access : Access) : Decidable access.InBounds := by
  cases access <;> exact inferInstanceAs (Decidable (_ ∧ _))

/-- What the calls of `fgets` return, `buf` being the line so far. A line that is too long comes in
pieces. -/
def fgetsLines (buf : CString) : List Char → List CString
  | [] => if buf = [] then [] else [buf]
  | c :: rest =>
      if c = '\n' ∨ buf.length + 1 = CString.bufsiz - 1 then (buf ++ [c]) :: fgetsLines [] rest
      else fgetsLines (buf ++ [c]) rest

/-- The loop over `arg` from its character before `i` down: trailing blanks are cut off. -/
def trimFrom (arg : CString) : ℕ → CString × List Access
  | 0 => ([], [])
  | i + 1 =>
      if (arg.getD i '\x00') = ' ' ∨ (arg.getD i '\x00') = '\t' then
        ((trimFrom arg i).1, .text i arg.length :: (trimFrom arg i).2)
      else (arg.take (i + 1), [.text i arg.length])

structure Line where
  cmd : CString
  arg : CString
  accesses : List Access
  deriving DecidableEq, Repr

/-- The command and the argument of a line, without comment and end of line. -/
def splitConfigLine (buf : CString) : Line :=
  let tmp := (buf.takeWhile (· ≠ '\x00')).takeWhile fun c ↦ c ≠ '#' ∧ c ≠ '\r' ∧ c ≠ '\n'
  let p := tmp.dropWhile CString.isblank
  let cmd := p.takeWhile (!CString.isblank ·)
  let arg := (p.dropWhile (!CString.isblank ·)).dropWhile CString.isblank
  let trimmed := trimFrom arg arg.length
  ⟨CString.tolower cmd, trimmed.1, trimmed.2⟩

end Lines

section Directives

/-- What a command stands for. -/
inductive Directive
  | smsSection (disaster : Bool)
  | syslogSection (disaster : Bool)
  | text (field : TextField)
  /-- A path, which loses its last character if that is a slash. -/
  | path (field : TextField)
  | number (field : NumberField)
  | sms (field : SmsField)
  /-- `sms-server-mask`, which also sets the inverted mask. -/
  | mask
  | syslogServer
  | heading
  | jsacmd
  | jsacustcmd
  deriving DecidableEq, Repr

def directives : List (CString × Directive) :=
  [("[sms]".toList, .smsSection false),
   ("[sms-disaster]".toList, .smsSection true),
   ("db-conf-file".toList, .text .dbConfFile),
   ("router-conf-file".toList, .text .routerConfFile),
   ("[syslog]".toList, .syslogSection false),
   ("[syslog-disaster]".toList, .syslogSection true),
   ("domain".toList, .text .domain),
   ("port".toList, .number .port),
   ("loglevel".toList, .number .loglevel),
   ("debug".toList, .number .debug),
   ("sms-num-context".toList, .number .smsNumContext),
   ("cust-num-context".toList, .number .custNumContext),
   ("numsimultaneous".toList, .number .numSimultaneous),
   ("numsimultaneousingetvpnstatus".toList, .number .numSimultaneousIngetVPNstatus),
   ("logfile".toList, .text .logfile),
   ("listen-address".toList, .text .haddr),
   ("sms-address-ip".toList, .sms .smsAddressIp),
   ("sms-address-ipv6".toList, .sms .smsAddressIpv6),
   ("sms-server-network".toList, .sms .smsNetworkIp),
   ("local-server-synchro-timeout".toList, .number .localServerSynchroTimeout),
   ("sms-server-mask".toList, .mask),
   ("ntp-ip-address".toList, .text .ntpserver),
   ("ntp-backup-ip-address".toList, .text .ntpbackupserver),
   ("syslog-server".toList, .syslogServer),
   ("dns-default".toList, .text .dnsDefault),
   ("ubi-vsoc-name".toList, .text .ubiVsocName),
   ("ubi-centralized-node-name".toList, .text .ubiCentralizedNodeName),
   ("tftp-base".toList, .text .tftpBase),
   ("fmc-repository".toList, .path .fmcRepository),
   ("fmc-entities2files".toList, .path .fmcEntities2files),
   ("nightly-save-conf".toList, .number .nightlySaveConf),
   ("save-all-conf-time".toList, .text .saveAllConfTime),
   ("save-all-conf-freq".toList, .text .saveAllConfFreq),
   ("alarm-sev-conf-changed".toList, .number .alarmSevConfChanged),
   ("alarm-sev-update-ok".toList, .number .alarmUpdateOk),
   ("alarm-sev-update-failed".toList, .number .alarmUpdateFail),
   ("list-router-to-update-from-base-at-start".toList, .number .listRouterToUpdateFromBaseAtStart),
   ("heart-beat".toList, .number .heartBeat),
   ("smtp-server-address".toList, .text .smtpServerAddress),
   ("notif-mail-address".toList, .text .notifMailAddress),
   ("scp-username".toList, .text .scpUser),
   ("scp-password".toList, .text .scpPass),
   ("node-name".toList, .text .nodeName),
   ("[jsacmd]".toList, .heading),
   ("[jsacustcmd]".toList, .heading)]

/-- The directive of a command, if there is one. -/
def directiveOf (cmd : CString) : Option Directive :=
  match directives.lookup cmd with
  | some directive => some directive
  | none =>
      if cmd.take 4 = "cmd-".toList then some .jsacmd
      else if cmd.take 9 = "cust-cmd-".toList then some .jsacustcmd else none

end Directives

section Loading

/-- One of the four numbers of an address: up to 255, without leading zeros. -/
def inetByte (part : CString) : Option (BitVec 8) :=
  if part ≠ [] ∧ part.all Char.isDigit ∧ (part.head? = some '0' → part = ['0']) ∧ CString.ofDigits 10 part < 256
  then some (.ofNat 8 (CString.ofDigits 10 part)) else none

/-- `inet_pton` for `AF_INET`, in network order; it leaves its result alone when the text is no address. -/
def inetPton (arg : CString) : Option (BitVec 32) :=
  match (arg.splitOn '.').mapM inetByte with
  | some [a, b, c, d] => some (a ++ b ++ c ++ d)
  | _ => none

/-- `inet_ntop` for `AF_INET`. -/
def inetNtop (network : BitVec 32) : CString :=
  ['.'].intercalate ([24, 16, 8, 0].map fun low ↦ Nat.toDigits 10 (network.extractLsb' low 8).toNat)

/-- What `createConfig` finds in memory that it has not written: in the elements that are added to the
arrays, in the variable `network` at the mask of each element, and before the copy of an argument. -/
structure Memory where
  sms : ℕ → SmsField → Leftover
  syslog : ℕ → SyslogField → Leftover
  network : ℕ → BitVec 32
  before : ℕ → Char

/-- `sms_inverted_mask_ip` of an element. The result of `inet_pton` is not looked at. -/
def Memory.invertedMask (memory : Memory) (element : ℕ) (arg : CString) : CString :=
  inetNtop ((inetPton arg).getD (memory.network element) ^^^ 0xFFFFFFFF#32)

/-- The globals that tell the sections apart. -/
structure Roles where
  smsMaster : Int
  smsDisaster : Int
  syslogMaster : Int
  syslogDisaster : Int
  deriving DecidableEq, Repr

def Roles.initial : Roles := ⟨0, 0, 0, 0⟩

/-- `createConfig` in the middle of the file. -/
structure Loading where
  config : FileConf
  roles : Roles
  err : Bool
  lines : ℕ
  accesses : List Access

/-- `atoi`. -/
def atoi (arg : CString) : Int := CString.int32 (CString.atol arg)

variable (memory : Memory)

namespace Loading

def reach (s : Loading) (accesses : List Access) : Loading := { s with accesses := s.accesses ++ accesses }

/-- Fields of the last element of `smsArray`, with so many accesses to it. Without elements the array is NULL,
and the daemon dies at the first one. -/
def setSms (s : Loading) (values : List (SmsField × CString)) (count : ℕ) : Loading ⊕ List Access :=
  let access := Access.sms (s.config.smsNumber - 1) s.config.smsNumber
  let set (sms : Sms) : Sms := values.foldl (fun sms value ↦ Function.update sms value.1 (.text value.2)) sms
  if s.config.smsNumber = 0 then .inr (s.accesses ++ [access])
  else .inl { s.reach (List.replicate count access) with
    config := { s.config with smsArray := s.config.smsArray.modifyLast set } }

def setSyslog (s : Loading) (text : CString) : Loading ⊕ List Access :=
  let access := Access.syslog (s.config.syslogNumber - 1) s.config.syslogNumber
  let set (syslog : Syslog) : Syslog := Function.update syslog .syslogAddIp (.text text)
  if s.config.syslogNumber = 0 then .inr (s.accesses ++ [access])
  else .inl { s.reach [access] with
    config := { s.config with syslogArray := s.config.syslogArray.modifyLast set } }

/-- A path without its trailing slash. The last character of an empty path is what stands before it in
memory. -/
def setPath (s : Loading) (field : TextField) (arg : CString) : Loading :=
  let len : Int := arg.length - 1
  if arg.getLastD (memory.before s.lines) = '/' then
    { s.reach [.text len arg.length, .text len arg.length] with
      config := s.config.setText field arg.dropLast }
  else { s.reach [.text len arg.length] with config := s.config.setText field arg }

def apply (s : Loading) (directive : Directive) (arg : CString) : Loading ⊕ List Access :=
  match directive with
  | .smsSection disaster =>
      let index : Int := s.config.smsNumber
      .inl { s with
        config := { s.config with
          smsArray := s.config.smsArray ++ [fun field ↦ (memory.sms s.config.smsNumber field).pointer] }
        roles := if disaster then { s.roles with smsDisaster := index } else { s.roles with smsMaster := index } }
  | .syslogSection disaster =>
      let index : Int := s.config.syslogNumber
      .inl { s with
        config := { s.config with
          syslogArray :=
            s.config.syslogArray ++ [fun field ↦ (memory.syslog s.config.syslogNumber field).pointer] }
        roles :=
          if disaster then { s.roles with syslogDisaster := index } else { s.roles with syslogMaster := index } }
  | .text field => .inl { s with config := s.config.setText field arg }
  | .path field => .inl (s.setPath memory field arg)
  | .number field => .inl { s with config := s.config.setNumber field (atoi arg) }
  | .sms field => s.setSms [(field, arg)] 1
  | .mask => s.setSms [(.smsMaskIp, arg), (.smsInvertedMaskIp, memory.invertedMask (s.config.smsNumber - 1) arg)] 4
  | .syslogServer => s.setSyslog arg
  | .heading => .inl s
  | .jsacmd => .inl { s with config := { s.config with jsacmdList := s.config.jsacmdList ++ [arg] } }
  | .jsacustcmd => .inl { s with config := { s.config with jsacustcmdList := s.config.jsacustcmdList ++ [arg] } }

/-- One round of the loop over the lines. -/
def line (s : Loading) (line : Line) : Loading ⊕ List Access :=
  let s := { s with lines := s.lines + 1 }
  if line.cmd = [] then .inl s
  else match directiveOf line.cmd with
    | some directive => (s.reach line.accesses).apply memory directive line.arg
    | none => .inl { s.reach line.accesses with err := true }

def all (s : Loading) : List Line → Loading ⊕ List Access
  | [] => .inl s
  | line :: lines => (s.line memory line).elim (fun s ↦ s.all lines) .inr

end Loading

end Loading

section Checks

/-- A check of a mandatory field: a condition, or a pointer of an element that must not be NULL. -/
inductive Check
  | need (holds : Bool)
  | field (access : Access) (pointer : Pointer)

/-- The checks up to the first that fails. -/
def Check.all : List Check → Bool × List Access
  | [] => (true, [])
  | .need holds :: checks => if holds then Check.all checks else (false, [])
  | .field access pointer :: checks =>
      if pointer = .null then (false, [access])
      else ((Check.all checks).1, access :: (Check.all checks).2)

namespace FileConf

/-- A pointer of an element of `smsArray`. -/
def smsPointer (config : FileConf) (i : ℕ) (field : SmsField) : Pointer :=
  (config.smsArray[i]?.getD fun _ ↦ .null) field

def syslogPointer (config : FileConf) (i : ℕ) (field : SyslogField) : Pointer :=
  (config.syslogArray[i]?.getD fun _ ↦ .null) field

def smsCheck (config : FileConf) (i : ℕ) (field : SmsField) : Check :=
  .field (.sms i config.smsNumber) (config.smsPointer i field)

def syslogCheck (config : FileConf) (i : ℕ) : Check :=
  .field (.syslog i config.syslogNumber) (config.syslogPointer i .syslogAddIp)

/-- The checks at the end of `createConfig`. -/
def mandatory (config : FileConf) : List Check :=
  [.need (config.syslogNumber ≠ 0), config.syslogCheck 0,
   .need (config.syslogNumber = 2), config.syslogCheck 1,
   .need (config.smsNumber ≠ 0), config.smsCheck 0 .smsAddressIp, config.smsCheck 0 .smsNetworkIp,
   config.smsCheck 0 .smsMaskIp,
   .need (config.smsNumber = 2), config.smsCheck 1 .smsAddressIp, config.smsCheck 1 .smsNetworkIp,
   config.smsCheck 1 .smsMaskIp,
   .need (config.numbers .numSimultaneousIngetVPNstatus ≠ 0),
   .need (config.texts .dnsDefault).isSome,
   .need (config.texts .ubiVsocName).isSome,
   .need (config.texts .ubiCentralizedNodeName).isSome]

def withDomain (config : FileConf) : FileConf :=
  if config.texts .domain = none then config.setText .domain "ubiqube.net".toList else config

end FileConf

/-- How a call of `createConfig` ends. -/
inductive Created
  | died (accesses : List Access)
  | returned (config : Option FileConf) (roles : Roles) (accesses : List Access)

def Created.accesses : Created → List Access
  | .died accesses => accesses
  | .returned _ _ accesses => accesses

/-- The configuration that is returned, unless it is NULL. -/
def Created.config : Created → Option FileConf
  | .died _ => none
  | .returned config _ _ => config

/-- The end of `createConfig`, after the last line. -/
def Loading.finish (s : Loading) : Created :=
  if s.err then .returned none s.roles s.accesses
  else
    let checked := Check.all s.config.mandatory
    .returned (if checked.1 then some s.config.withDomain else none) s.roles (s.accesses ++ checked.2)

/-- The lines of a file, as the loop splits them. -/
def configLines (file : List Char) : List Line := (fgetsLines [] file).map splitConfigLine

def Loading.start (roles : Roles) : Loading := ⟨.default, roles, false, 0, []⟩

/-- `createConfig` on a file that may be missing, with the globals as they are. -/
def createConfig (memory : Memory) (roles : Roles) (configFile : Option (List Char)) :
    Created :=
  match configFile with
  | none => .returned none roles []
  | some file => ((Loading.start roles).all memory (configLines file)).elim Loading.finish .died

end Checks

end CoreEngine.Smsd
