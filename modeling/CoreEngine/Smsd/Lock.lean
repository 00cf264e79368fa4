import CoreEngine.Smsd.Bd

/-!
# Device locks

The two locks of a device (`update.c`). The provisioning lock `sd_prov_lock` is -1 for a new device,
1 while provisioning runs or after it failed, and 0 once it has succeeded. The low-level lock is held
during an update.
-/

namespace CoreEngine.Smsd

open Interaction
open Procedure (lift)

/-- `PREFIXSIZE`, which is `CLI_PREFIX_LEN`. -/
def prefixsize : ℕ := 3

/-- Decode a device identifier: the prefix with `strncpy`, the sequence number with `number`, which is
mostly `atol`, from `SDid + PREFIXSIZE` on. Of an identifier that is shorter, what lies behind its
terminator is read. -/
def decodeSdid (number : CString → Int) (sdid : CString) : M SdKey :=
  if sdid.length < prefixsize then do
    let behind ← lift (ask .uninitialised)
    pure ⟨sdid, number behind⟩
  else pure ⟨sdid.strncpy prefixsize, number (sdid.drop prefixsize)⟩

theorem decodeSdid_of_le_length (number : CString → Int) {sdid : CString}
    (hsdid : prefixsize ≤ sdid.length) :
    decodeSdid number sdid = pure ⟨sdid.strncpy prefixsize, number (sdid.drop prefixsize)⟩ :=
  if_neg (Nat.not_lt.2 hsdid)

/-- The device that an identifier stands for. -/
def keyOf (sdid : CString) : SdKey := ⟨sdid.strncpy prefixsize, CString.atol (sdid.drop prefixsize)⟩

/-- Requests reach the functions with at least four characters. -/
theorem decodeSdid_eq_keyOf {sdid : CString} (hsdid : 4 ≤ sdid.length) :
    decodeSdid CString.atol sdid = pure (keyOf sdid) :=
  decodeSdid_of_le_length _ (Nat.le_of_succ_le hsdid)

/-- The body of `lockProv` between taking and releasing the context. -/
def lockProvOn (ctx : Ctx) (key : SdKey) : Code Int := do
  let provlock ← haSmssqlGetSDprovlock ctx key
  if provlock.ret ≠ 0 then pure provlock.ret else do
    -- a failure to set the device down is only logged
    let _ ← haSmssqlSetSdDown ctx key
    if provlock.output = 1 then pure provlock.ret else do
      let updateLock ← haSmssqlSetLock ctx key
      if updateLock.ret ≠ 0 then pure updateLock.ret
      else if updateLock.output = alreadyLocked then pure errSdLock
      else do
        let set ← haSmssqlSetSDprovlock ctx key 1
        if set.ret ≠ 0 then pure set.ret else do
          let _ ← haSmssqlUnLock ctx key
          pure set.ret

def lockProv (key : SdKey) : M Int := borrowDbCtx .lockProv (lockProvOn · key)

def lockProvisioning (sdid : CString) : M Int := do
  let key ← decodeSdid CString.atol sdid
  lockProv key

/-- The body of `unlockProv` up to the release of `csp->db_ctx`. The context on the customer
database is released after it. -/
def unlockProvOn (ctx : Ctx) (key : SdKey) : Code (Int × Ctx) := do
  let dbCust ← findCtx .cust (.borrower .unlockProv)
  -- the result is only logged, and overwritten by the next one
  let _ ← haSmssqlSetSDprovlock ctx key 0
  let set ← haSmssqlSetProvDate dbCust key
  pure (set.ret, dbCust)

def unlockProv (key : SdKey) : M Int := do
  let result ← borrowDbCtx .unlockProv (unlockProvOn · key)
  lift (releaseCtx (some result.2))
  pure result.1

def unlockProvisioning (sdid : CString) : M Int := do
  let key ← decodeSdid CString.atol sdid
  unlockProv key

def lockSDOn (ctx : Ctx) (key : SdKey) : Code (Reply Int) := haSmssqlSetLock ctx key

def lockSD (key : SdKey) : M Int := do
  let updateLock ← borrowDbCtx .lockSD (lockSDOn · key)
  if updateLock.ret ≠ 0 then pure updateLock.ret
  else if updateLock.output = alreadyLocked then pure errSdLock
  else if updateLock.output = alreadyProvlocked then pure errSdProvlock
  else pure 0

def unlockSD (key : SdKey) : M Int := do
  let reply ← borrowDbCtx .unlockSD (haSmssqlUnLock · key)
  pure reply.ret

def unlockUpdate (sdid : CString) : M Int := do
  let key ← decodeSdid CString.atol sdid
  unlockSD key

end CoreEngine.Smsd
