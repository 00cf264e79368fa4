import CoreEngine.Smsd.Indifference
import CoreEngine.Smsd.Numerals
import CoreEngine.Smsd.Simulator
import CoreEngine.Interaction.Possibility

/-!
# Decoders of identifiers

Ten functions decode a device identifier into a customer prefix and a sequence number, each for itself.
What they record about a device, they record under the key they get.
-/

namespace CoreEngine.Smsd

open Interaction
open Procedure (lift Stable)
open Program (Run Offers Only only_perform)

/-- The device that a call is about. -/
def Sql.key? : Sql → Option SdKey
  | .setLogById log => some log.key
  | .setSDIPConfig key _ _ | .setSDUpdated key _ | .setSDprovlock key _ | .getSDprovlock key
  | .setLock key | .unLock key | .setProvDate key | .setSDConfigStep key _ | .setSDConnected key _
  | .getAsset key | .initProvStatus key _ _ | .setProvStatus key _ _ _ _ _ | .getProvStatus key _
  | .setPollMode key _ | .setSDPing key _ _ _ | .setSDAssetUpdate key _ => some key
  | .setUpdateStatus status | .getUpdateStatus status => some status.key
  | .resetSDCrudObjects object | .setSDCrudObjects object | .deleteSDCrudObjects object => some object.key
  | .getSdInfo _ | .getCustInfo _ | .unLockAll _ | .getSDToUpdateFirst | .getSDToUpdateNext
  | .getSDconnectedFirst | .getSDconnectedNext => none

/-- The device that a call or an alarm is about. -/
def Op.key? : Op → Option SdKey
  | .sql _ query => query.key?
  | .setSdAlarm key _ _ _ => some key
  | _ => none

/-- The functions that decode an identifier, with their other arguments. -/
inductive Decoder
  | setSdUpdated (sdUpdatedFlag : Int)
  | lockProvisioning
  | unlockProvisioning
  | unlockUpdate
  | setUpdateStatus (type status failureMsg : CString)
  | getUpdateStatus (type : CString)
  | sdGetAsset
  | sdForceAsset
  | sdSetConfigMode (cfgMode : Int)
  | smsSetUpdateStatus (errorCode : Int) (type status errorMsg : CString)
  deriving DecidableEq, Repr

/-- The result does not matter here. -/
def Decoder.run (sdid : CString) : Decoder → M Unit
  | setSdUpdated sdUpdatedFlag => do let _ ← Smsd.setSdUpdated sdid sdUpdatedFlag
  | lockProvisioning => do let _ ← Smsd.lockProvisioning sdid
  | unlockProvisioning => do let _ ← Smsd.unlockProvisioning sdid
  | unlockUpdate => do let _ ← Smsd.unlockUpdate sdid
  | setUpdateStatus type status failureMsg => do let _ ← Smsd.setUpdateStatus sdid type status failureMsg
  | getUpdateStatus type => do let _ ← Smsd.getUpdateStatus sdid type
  | sdGetAsset => do let _ ← Smsd.sdGetAsset sdid
  | sdForceAsset => do let _ ← Smsd.sdForceAsset sdid
  | sdSetConfigMode cfgMode => do let _ ← Smsd.sdSetConfigMode sdid cfgMode
  | smsSetUpdateStatus errorCode type status errorMsg => do
      let _ ← Smsd.smsSetUpdateStatus sdid errorCode type status errorMsg

/-- Some run of the decoder is about to perform a call, or to raise an alarm, for the device `key`. -/
def Decoder.Names (decoder : Decoder) (sdid : CString) (key : SdKey) : Prop :=
  ∃ csp trace final op next, Run (decoder.run sdid csp) trace final ∧ Offers final op next ∧
    op.key? = some key

/-- All decoders find the same device behind an identifier. -/
def DecodersAgree (sdid : CString) : Prop :=
  ∀ decoder decoder' key key', Decoder.Names decoder sdid key → Decoder.Names decoder' sdid key' →
    key = key'

/-- The operation is not about another device. -/
def Op.About (key : SdKey) (op : Op) : Prop := ∀ k ∈ op.key?, k = key

/-- Everything is recorded under one key. -/
def file (key : SdKey) : Monitor signature Unit where
  allow _ op := op.About key
  expect _ _ _ := True
  next _ _ _ := ()

namespace File

variable {key : SdKey} {ctx : Ctx}

section Code

theorem only_keyless {op : Op} (hop : op.key? = none) : Only signature (Op.About key) (ask op) := by
  apply only_perform
  intro k hk
  rw [hop] at hk
  cases hk

theorem only_sql {query : Sql} (hquery : query.key? = some key) :
    Only signature (Op.About key) (sql ctx query) := by
  apply only_perform
  intro k hk
  exact Option.some.inj (hk.symm.trans hquery)

instance : Only signature (Op.About key) readShutdown := only_keyless rfl
instance {α : Type} : Only signature (Op.About key) (nullDereference : Code α) :=
  ⟨nofun, fun answer ↦ answer.elim⟩
instance : Only signature (Op.About key) (ask .library) := only_keyless rfl
instance : Only signature (Op.About key) (ask .currentConfig) := only_keyless rfl
instance (db : Db) : Only signature (Op.About key) (haSmssqlAllocateContext ctx db) := only_keyless rfl
instance (db : Db) (caller : Caller) : Only signature (Op.About key) (findCtx db caller) :=
  only_keyless rfl
instance (ctx : Option Ctx) : Only signature (Op.About key) (releaseCtx ctx) := only_keyless rfl
instance (old new : Option Ctx) : Only signature (Op.About key) (ask (.storeDbCtx old new)) :=
  only_keyless rfl
instance (severity : Int) (type message : CString) :
    Only signature (Op.About key) (ask (.setSdAlarm key severity type message)) :=
  only_perform fun _ hk ↦ (Option.some.inj hk).symm

theorem only_retry {query : Sql} (db : Db) (hquery : query.key? = some key) :
    Only signature (Op.About key) (retry ctx db query) := by
  have hsql : Only signature (Op.About key) (sql ctx query) := only_sql hquery
  unfold retry attempt
  infer_instance

theorem only_ha {query : Sql} (db : Db) (initial : query.Output) (hquery : query.key? = some key) :
    Only signature (Op.About key) (ha ctx db query initial) := by
  have hretry : Only signature (Op.About key) (retry ctx db query) := only_retry db hquery
  unfold ha
  infer_instance

instance (flag : Int) : Only signature (Op.About key) (haSmssqlSetSDUpdated ctx key flag) :=
  only_ha _ _ rfl
instance (step : Int) : Only signature (Op.About key) (haSmssqlSetSDConfigStep ctx key step) :=
  only_ha _ _ rfl
instance : Only signature (Op.About key) (haSmssqlGetAsset ctx (.blank key)) := only_ha _ _ rfl
instance : Only signature (Op.About key) (haSmssqlGetSDprovlock ctx key) := only_ha _ _ rfl
instance (provlock : Int) : Only signature (Op.About key) (haSmssqlSetSDprovlock ctx key provlock) :=
  only_ha _ _ rfl
instance : Only signature (Op.About key) (haSmssqlUnLock ctx key) := only_ha _ _ rfl
instance : Only signature (Op.About key) (haSmssqlSetSdDown ctx key) := only_ha _ _ rfl
instance : Only signature (Op.About key) (haSmssqlSetProvDate ctx key) := only_ha _ _ rfl

instance : Only signature (Op.About key) (haSmssqlSetLock ctx key) := by
  have hretry : Only signature (Op.About key) (retry ctx .sms (.setLock key)) := only_retry .sms rfl
  unfold haSmssqlSetLock
  infer_instance

instance : Only signature (Op.About key) (lockProvOn ctx key) := by
  unfold lockProvOn
  infer_instance

instance : Only signature (Op.About key) (unlockProvOn ctx key) := by
  unfold unlockProvOn
  infer_instance

end Code

section Idioms

/-- Nothing is known. -/
abbrev Anything (_csp : Client) (_g : Unit) : Prop := True

instance {α : Type} (code : Code α) [hcode : Only signature (Op.About key) code] :
    Stable (file key) Anything (lift code) :=
  hcode.stable_of_keeps fun _ hop _ _ _ ↦ ⟨hop, fun _ _ ↦ trivial⟩

instance {α : Type} (body : Ctx → Code α) [hbody : ∀ ctx, Only signature (Op.About key) (body ctx)] :
    Stable (file key) Anything (useDbCtx body) := by
  have helim (ctx : Option Ctx) : Only signature (Op.About key) (ctx.elim nullDereference body) := by
    cases ctx with
    | none => exact inferInstanceAs (Only signature _ nullDereference)
    | some ctx => exact hbody ctx
  unfold useDbCtx
  infer_instance

instance (ctx : Option Ctx) : Stable (file key) Anything (storeDbCtx ctx) := by
  have hmodify : Stable (file key) Anything (modify fun csp ↦ { csp with dbCtx := ctx }) :=
    Procedure.stable_modify fun _ _ _ ↦ trivial
  unfold storeDbCtx
  infer_instance

instance (keeper : Keeper) : Stable (file key) Anything (ensureDbCtx keeper) := by
  unfold ensureDbCtx
  infer_instance

instance {α : Type} (borrower : Borrower) (body : Ctx → Code α)
    [∀ ctx, Only signature (Op.About key) (body ctx)] :
    Stable (file key) Anything (borrowDbCtx borrower body) := by
  unfold borrowDbCtx
  infer_instance

end Idioms

section Decoders

variable {sdid : CString}

/-- What is done with the key that was decoded. -/
theorem stable_decodeSdid {α : Type} {number : CString → Int} (hkey : decodeSdid number sdid = pure key)
    (body : SdKey → M α) [hbody : Stable (file key) Anything (body key)] :
    Stable (file key) Anything (decodeSdid number sdid >>= body) := by
  rw [hkey]
  exact hbody

variable (hatol : decodeSdid CString.atol sdid = pure key)

include hatol

theorem stable_setSdUpdated (flag : Int) : Stable (file key) Anything (setSdUpdated sdid flag) :=
  stable_decodeSdid hatol _

theorem stable_setUpdateStatus (type status failureMsg : CString) :
    Stable (file key) Anything (setUpdateStatus sdid type status failureMsg) := by
  have hsql (ctx : Ctx) : Only signature (Op.About key) (sql ctx (.setUpdateStatus
      ⟨key, type.strncpy updTypeLen, status.strncpy updStatusLen, [],
        failureMsg.strncpy failureMessageLen⟩)) :=
    only_sql rfl
  exact stable_decodeSdid hatol _

theorem stable_getUpdateStatus (type : CString) :
    Stable (file key) Anything (getUpdateStatus sdid type) := by
  have hsql (ctx : Ctx) : Only signature (Op.About key) (sql ctx (.getUpdateStatus
      ⟨key, type.strncpy updTypeLen, [], [], []⟩)) :=
    only_sql rfl
  exact stable_decodeSdid hatol _

theorem stable_sdForceAsset : Stable (file key) Anything (sdForceAsset sdid) := by
  have hsql (ctx : Ctx) : Only signature (Op.About key) (sql ctx (.setSDAssetUpdate key 1)) := only_sql rfl
  exact stable_decodeSdid hatol _

theorem stable_endUpdate (hstrtol : decodeSdid CString.strtol sdid = pure key) (errorCode : Int)
    (type status errorMsg : CString) :
    Stable (file key) Anything (endUpdate sdid errorCode type status errorMsg) := by
  have hstatus (message : CString) := stable_setUpdateStatus hatol type status message
  have halarm {α : Type} (body : SdKey → M α) [Stable (file key) Anything (body key)] :
      Stable (file key) Anything (decodeSdid CString.strtol sdid >>= body) := stable_decodeSdid hstrtol body
  unfold endUpdate
  infer_instance

theorem stable_smsSetUpdateStatus (hstrtol : decodeSdid CString.strtol sdid = pure key) (errorCode : Int)
    (type status errorMsg : CString) :
    Stable (file key) Anything (smsSetUpdateStatus sdid errorCode type status errorMsg) := by
  have hupdated := stable_setSdUpdated hatol 0
  have hstatus := stable_setUpdateStatus hatol type status errorMsg
  have hend := stable_endUpdate hatol hstrtol errorCode type status errorMsg
  unfold smsSetUpdateStatus
  infer_instance

/-- If both ways to read the number give one key, everything is recorded under it. -/
theorem stable_run (hstrtol : decodeSdid CString.strtol sdid = pure key) (decoder : Decoder) :
    Stable (file key) Anything (decoder.run sdid) := by
  cases decoder with
  | setSdUpdated flag =>
    have hrun := stable_setSdUpdated hatol flag
    unfold Decoder.run
    infer_instance
  | lockProvisioning =>
    have hlock : Stable (file key) Anything (lockProv key) := by
      unfold lockProv
      infer_instance
    have hrun : Stable (file key) Anything (lockProvisioning sdid) := stable_decodeSdid hatol _
    unfold Decoder.run
    infer_instance
  | unlockProvisioning =>
    have hunlock : Stable (file key) Anything (unlockProv key) := by
      unfold unlockProv
      infer_instance
    have hrun : Stable (file key) Anything (unlockProvisioning sdid) := stable_decodeSdid hatol _
    unfold Decoder.run
    infer_instance
  | unlockUpdate =>
    have hunlock : Stable (file key) Anything (unlockSD key) := by
      unfold unlockSD
      infer_instance
    have hrun : Stable (file key) Anything (unlockUpdate sdid) := stable_decodeSdid hatol _
    unfold Decoder.run
    infer_instance
  | setUpdateStatus type status failureMsg =>
    have hrun := stable_setUpdateStatus hatol type status failureMsg
    unfold Decoder.run
    infer_instance
  | getUpdateStatus type =>
    have hrun := stable_getUpdateStatus hatol type
    unfold Decoder.run
    infer_instance
  | sdGetAsset =>
    have hrun : Stable (file key) Anything (sdGetAsset sdid) := stable_decodeSdid hatol _
    unfold Decoder.run
    infer_instance
  | sdForceAsset =>
    have hrun := stable_sdForceAsset hatol
    unfold Decoder.run
    infer_instance
  | sdSetConfigMode mode =>
    have hrun : Stable (file key) Anything (sdSetConfigMode sdid mode) := stable_decodeSdid hatol _
    unfold Decoder.run
    infer_instance
  | smsSetUpdateStatus errorCode type status errorMsg =>
    have hrun := stable_smsSetUpdateStatus hatol hstrtol errorCode type status errorMsg
    unfold Decoder.run
    infer_instance

end Decoders

section Names

/-- A status is recorded under the key that `atol` gives. -/
theorem reaches_setUpdateStatus {sdid : CString} (hatol : decodeSdid CString.atol sdid = pure key) :
    ((Decoder.setUpdateStatus [] [] []).run sdid ⟨1, some ⟨.sms, 0⟩⟩).Reaches (file key)
      (.sql ⟨.sms, 0⟩ (.setUpdateStatus ⟨key, [], [], [], []⟩)) () := by
  unfold Decoder.run setUpdateStatus
  rw [hatol]
  exact Or.inl rfl

/-- Its alarm is raised under the key that `strtol` gives. -/
theorem reaches_smsSetUpdateStatus {sdid : CString} (hstrtol : decodeSdid CString.strtol sdid = pure key) :
    ((Decoder.smsSetUpdateStatus 0 [] "ENDED".toList []).run sdid ⟨1, some ⟨.sms, 0⟩⟩).Reaches (file key)
      (.setSdAlarm key 1 [] "error".toList) () := by
  have hend : (endUpdate sdid 0 [] "ENDED".toList [] ⟨1, some ⟨.sms, 0⟩⟩).Reaches (file key)
      (.setSdAlarm key 1 [] "error".toList) () := by
    unfold endUpdate
    rw [hstrtol]
    exact Or.inr ⟨Sim.library, trivial, Or.inr ⟨⟨1, 1, 1, [], []⟩, trivial, Or.inl rfl⟩⟩
  exact hend.bind _

end Names

end File

/-- If the decoders agree, so do the two ways to read the number. -/
theorem strtol_eq_atol_of_agree {sdid : CString} (hsdid : prefixsize ≤ sdid.length)
    (hagree : DecodersAgree sdid) :
    CString.strtol (sdid.drop prefixsize) = CString.atol (sdid.drop prefixsize) := by
  have hstatus := File.reaches_setUpdateStatus (decodeSdid_of_le_length CString.atol hsdid)
  have halarm := File.reaches_smsSetUpdateStatus (decodeSdid_of_le_length CString.strtol hsdid)
  obtain ⟨trace, final, next, hrun, -, hoffers⟩ := hstatus.exists_run
  obtain ⟨trace', final', next', hrun', -, hoffers'⟩ := halarm.exists_run
  have hkey := hagree _ _ _ _ ⟨_, trace', final', _, next', hrun', hoffers', rfl⟩
    ⟨_, trace, final, _, next, hrun, hoffers, rfl⟩
  exact congrArg SdKey.seqnum hkey

/-- If both ways to read the number agree, every decoder finds the same device. -/
theorem key_of_names {sdid : CString} (hsdid : prefixsize ≤ sdid.length)
    (heq : CString.strtol (sdid.drop prefixsize) = CString.atol (sdid.drop prefixsize))
    {decoder : Decoder} {key : SdKey} (hnames : decoder.Names sdid key) :
    key = ⟨sdid.strncpy prefixsize, CString.atol (sdid.drop prefixsize)⟩ := by
  have hatol := decodeSdid_of_le_length CString.atol hsdid
  have hstrtol := decodeSdid_of_le_length CString.strtol hsdid
  rw [heq] at hstrtol
  obtain ⟨csp, trace, final, op, next, hrun, hoffers, hkey⟩ := hnames
  have hsafe := (File.stable_run hatol hstrtol decoder).triple csp () trivial
  have hfinal := (hrun.safe hsafe (Monitor.meets_of_expect _ (fun _ _ _ ↦ trivial) () trace)).2
  exact (hoffers.safe hfinal).1 key hkey

/-- The decoders find one device behind an identifier exactly if its number reads the same in base 10 and
in the base that `strtol` takes from it. -/
theorem decoders_agree_iff {sdid : CString} (hlength : 4 ≤ sdid.length) :
    DecodersAgree sdid ↔ CString.Unambiguous (sdid.drop prefixsize) := by
  have hsdid : prefixsize ≤ sdid.length := Nat.le_of_succ_le hlength
  rw [← CString.strtol_eq_atol_iff]
  constructor
  · exact strtol_eq_atol_of_agree hsdid
  · intro heq decoder decoder' key key' hnames hnames'
    rw [key_of_names hsdid heq hnames, key_of_names hsdid heq hnames']

/-- A number without leading zeros. -/
theorem decoders_agree_iff_abc123 :
    DecodersAgree "ABC123".toList ↔ CString.Unambiguous ("ABC123".toList.drop prefixsize) :=
  decoders_agree_iff (by decide)

/-- The status of ABC010 is recorded for device 10, and its alarm raised for device 8. -/
theorem decoders_disagree : 4 ≤ "ABC010".toList.length ∧ ¬DecodersAgree "ABC010".toList := by
  refine ⟨by decide, fun hagree ↦ ?_⟩
  have heq := strtol_eq_atol_of_agree (by decide) hagree
  revert heq
  decide

end CoreEngine.Smsd
