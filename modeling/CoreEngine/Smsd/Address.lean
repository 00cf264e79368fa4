import CoreEngine.Interaction.Interleaving
import CoreEngine.Smsd.LockRow
import CoreEngine.Smsd.Passage
import CoreEngine.Smsd.Words

/-!
# The address of a device

The columns of a device that IPUP and IPDOWN notices are about, and what a notice does to them: it
reads the record once, decides on at most one write from what it has read, and makes that write later.
-/

namespace CoreEngine.Smsd

open Interaction

/-- `sd_ip_config` and `sd_connected`. -/
structure Address where
  ip : CString
  connected : Int
  deriving DecidableEq, Repr

/-- The calls that change an address. -/
inductive AddressWrite
  | ipConfig (ip : CString) (flag : Int)
  | connected (flag : Int)
  deriving DecidableEq, Repr

def AddressWrite.apply (address : Address) : AddressWrite → Address
  | .ipConfig ip flag => ⟨ip, flag⟩
  | .connected flag => ⟨address.ip, flag⟩

/-- The write to the device `key` that a call makes. -/
def Sql.addressWrite (key : SdKey) : Sql → Option AddressWrite
  | .setSDIPConfig k ip connected => if k = key then some (.ipConfig ip connected) else none
  | .setSDConnected k flag => if k = key then some (.connected flag) else none
  | _ => none

/-- The handler of IPDOWN on two words, once they are scanned. -/
theorem doIpDown_pair {sdid ip : CString} (hsdid : IsWord sdid) (hip : IsWord ip) :
    doIpDown (sdid ++ ' ' :: ip) = (do
      countUp .totalipdown
      let info ← getSDinfo sdid
      if info.ret ≠ 0 then ipDownError errDbNotfound else do
        let done ← ipDownWrites ip info.output.sd
        if done.output then do
          let _ ← sendOk none
          pure 0
        else ipDownError done.ret) := by
  unfold doIpDown
  rw [scanWords_pair hsdid hip]
  rfl

/-- A notice about one device: SDIPUP or IPDOWN with an address. -/
inductive Notice
  | up (ip : CString)
  | down (ip : CString)
  deriving DecidableEq, Repr

namespace Notice

def ip : Notice → CString
  | .up ip => ip
  | .down ip => ip

/-- The handler of the verb, on `<sdid> <ip>`. -/
def handle (sdid : CString) : Notice → M Int
  | .up ip => doSdIpUp (sdid ++ ' ' :: ip)
  | .down ip => doIpDown (sdid ++ ' ' :: ip)

/-- The write that a notice decides on when it reads an address. -/
def write (address : Address) : Notice → Option AddressWrite
  | .up ip =>
      if ip ≠ address.ip then some (.ipConfig ip 1)
      else if address.connected = 0 then some (.connected 1) else none
  | .down ip =>
      if address.connected ≠ 0 ∧ (ip = address.ip ∨ address.ip = []) then some (.connected 0) else none

/-- What a notice does to an address that nobody else changes. -/
def effect (notice : Notice) (address : Address) : Address :=
  (notice.write address).elim address (·.apply address)

variable {address : Address} {ip : CString}

theorem write_up {w : AddressWrite} (hwrite : (up ip).write address = some w) :
    (ip ≠ address.ip ∧ w = .ipConfig ip 1) ∨
      (ip = address.ip ∧ address.connected = 0 ∧ w = .connected 1) := by
  by_cases hip : ip = address.ip
  · by_cases hzero : address.connected = 0
    · simp [write, hip, hzero] at hwrite
      exact Or.inr ⟨hip, hzero, hwrite.symm⟩
    · simp [write, hip, hzero] at hwrite
  · simp [write, hip] at hwrite
    exact Or.inl ⟨hip, hwrite.symm⟩

theorem write_down {w : AddressWrite} (hwrite : (down ip).write address = some w) :
    w = .connected 0 ∧ (ip = address.ip ∨ address.ip = []) := by
  by_cases hdown : address.connected ≠ 0 ∧ (ip = address.ip ∨ address.ip = [])
  · simp [write, hdown] at hwrite
    exact ⟨hwrite.symm, hdown.2⟩
  · simp only [write, if_neg hdown, reduceCtorEq] at hwrite

/-- A notice writes the address it carries, or one of two flags. -/
theorem write_cases {notice : Notice} {w : AddressWrite} (hwrite : notice.write address = some w) :
    (∃ ip, notice = up ip ∧ w = .ipConfig ip 1) ∨
      ∃ flag : Int, (flag = 0 ∨ flag = 1) ∧ w = .connected flag := by
  cases notice with
  | up ip =>
    rcases write_up hwrite with ⟨-, rfl⟩ | ⟨-, -, rfl⟩
    · exact Or.inl ⟨ip, rfl, rfl⟩
    · exact Or.inr ⟨1, Or.inr rfl, rfl⟩
  | down ip =>
    obtain ⟨rfl, -⟩ := write_down hwrite
    exact Or.inr ⟨0, Or.inl rfl, rfl⟩

/-- Only an IPDOWN disconnects, and only for the address it has read. -/
theorem ip_of_down {notice : Notice} (hwrite : notice.write address = some (.connected 0)) :
    notice.ip = address.ip ∨ address.ip = [] := by
  cases notice with
  | up ip => rcases write_up hwrite with ⟨-, hw⟩ | ⟨-, -, hw⟩ <;> cases hw
  | down ip => exact (write_down hwrite).2

theorem effect_of_nothing {notice : Notice} (hwrite : notice.write address = none) :
    notice.effect address = address := by
  rw [effect, hwrite, Option.elim_none]

theorem effect_up (hsettled : address.ip ≠ ip ∨ address.connected = 0 ∨ address.connected = 1) :
    (up ip).effect address = ⟨ip, 1⟩ := by
  obtain ⟨ip', connected⟩ := address
  by_cases hip : ip = ip'
  · subst hip
    rcases hsettled with hne | hzero | hone
    · exact absurd rfl hne
    · obtain rfl : connected = 0 := hzero
      simp [effect, write, AddressWrite.apply]
    · obtain rfl : connected = 1 := hone
      simp [effect, write]
  · simp [effect, write, hip, AddressWrite.apply]

theorem ip_effect_up : ((up ip).effect address).ip = ip := by
  by_cases hip : ip = address.ip
  · by_cases hzero : address.connected = 0
    · simp [effect, write, hip, hzero, AddressWrite.apply]
    · simp [effect, write, hip, hzero]
  · simp [effect, write, hip, AddressWrite.apply]

/-- A notice that finds the address it was sent for, or none, disconnects the device. -/
theorem effect_down (hip : ip = address.ip ∨ address.ip = []) :
    (down ip).effect address = ⟨address.ip, 0⟩ := by
  obtain ⟨ip', connected⟩ := address
  by_cases hzero : connected = 0
  · subst hzero
    simp [effect, write]
  · have hboth : connected ≠ 0 ∧ (ip = ip' ∨ ip' = []) := ⟨hzero, hip⟩
    simp [effect, write, hboth, AddressWrite.apply]

end Notice

/-- A device with a dynamic external interface and no provisioning lock. The address in the record
stands for whatever the database holds. -/
structure DynamicDevice where
  sdid : CString
  info : SdInfo
  interface : SdInterface
  ext : info.sdExtInterface = some interface
  dynamic : interface.intIpType.head? ≠ some 'S'
  unlocked : info.sd.sdProvLock = 0

namespace DynamicDevice

variable (device : DynamicDevice)

def key : SdKey := device.info.sd.key

/-- The record that `getSDinfo` reads. -/
def record (address : Address) : SdInfo :=
  { device.info with
    sd.sdIpConfig := address.ip
    sd.sdConnected := address.connected }

@[simp] theorem record_key (address : Address) : (device.record address).sd.key = device.key := rfl
@[simp] theorem record_ip (address : Address) : (device.record address).sd.sdIpConfig = address.ip := rfl
@[simp] theorem record_connected (address : Address) :
    (device.record address).sd.sdConnected = address.connected := rfl

/-- The answers of a database that does not fail, to a daemon that is not shutting down. -/
def Answers (address : Address) (op : Op) (answer : op.Answer) : Prop :=
  match op, answer with
  | .readShutdown, shutdownRequired => shutdownRequired = false
  | .sql _ (.getSdInfo sdid), reply =>
      reply.ret = 0 ∧ (sdid = device.sdid → reply.output = device.record address)
  | .sql _ _, reply => reply.ret = 0
  | _, _ => True

end DynamicDevice

end CoreEngine.Smsd
