import CoreEngine.Smsd.Dispatch

/-!
# Footprints of database code

Code that works on one context performs calls on that context, reconnects it, and otherwise performs
operations that concern neither contexts nor the socket nor scripts.
-/

namespace CoreEngine.Smsd

open Interaction
open Program (Only only_perform)

/-- Operations that concern no context, no socket, no script, no array and no counter. -/
def Op.Plain : Op → Prop
  | .readShutdown | .nullDereference | .library | .currentConfig | .setSdAlarm ..
  | .currentStat | .newTask .. | .gpulSchedStats | .gpulLogReinit | .logSetLevel _ | .dbgSetLevel _
  | .sleep _ => True
  | _ => False

/-- Calls that read or write one of the locks of a device. -/
def Sql.isLock : Sql → Bool
  | .setLock _ | .unLock _ | .unLockAll _ | .setSDprovlock .. | .getSDprovlock _ => true
  | _ => false

/-- Calls that look up a device or a customer. -/
def Sql.isLookup : Sql → Bool
  | .getSdInfo _ | .getCustInfo _ => true
  | _ => false

/-- The calls in three groups: plain ones, those on locks, and lookups. -/
def Sql.rank (query : Sql) : ℕ := if query.isLookup then 2 else if query.isLock then 1 else 0

theorem Sql.rank_le_two (query : Sql) : query.rank ≤ 2 := by
  unfold Sql.rank
  split <;> (try split) <;> decide

/-- Plain operations and the ones on a given context, with calls up to the given rank. -/
def Op.OnCtx (rank : ℕ) (ctx : Ctx) : Op → Prop
  | .sql c query => c = ctx ∧ query.rank ≤ rank
  | .allocateContext c _ => c = ctx
  | op => op.Plain

variable {rank : ℕ} {ctx : Ctx}

theorem Op.Plain.onCtx {op : Op} (hop : op.Plain) : op.OnCtx rank ctx := by
  cases op <;> first | exact hop | exact hop.elim

/-- A set of operations that contains the plain ones. -/
class Roomy (allowed : Op → Prop) : Prop where
  plain {op : Op} : op.Plain → allowed op

instance : Roomy Op.Plain := ⟨id⟩

instance : Roomy (Op.OnCtx rank ctx) := ⟨fun hop ↦ hop.onCtx⟩

abbrev CtxCode (rank : ℕ) (ctx : Ctx) {α : Type} (code : Code α) : Prop :=
  Only signature (Op.OnCtx rank ctx) code

section Plain

variable {allowed : Op → Prop} [hroomy : Roomy allowed]

theorem only_ask {op : Op} (hop : op.Plain) : Only signature allowed (ask op) :=
  only_perform (hroomy.plain hop)

instance : Only signature allowed readShutdown := only_ask trivial
instance {α : Type} : Only signature allowed (nullDereference : Code α) :=
  ⟨(hroomy.plain trivial : allowed .nullDereference), fun answer ↦ answer.elim⟩
instance : Only signature allowed (ask .library) := only_ask trivial
instance : Only signature allowed (ask .currentConfig) := only_ask trivial
instance : Only signature allowed (ask .currentStat) := only_ask trivial
instance : Only signature allowed (ask .gpulSchedStats) := only_ask trivial
instance : Only signature allowed (ask .gpulLogReinit) := only_ask trivial
instance (seconds : ℕ) : Only signature allowed (ask (.sleep seconds)) := only_ask trivial
instance (level : Int) : Only signature allowed (ask (.logSetLevel level)) := only_ask trivial
instance (level : Int) : Only signature allowed (ask (.dbgSetLevel level)) := only_ask trivial
instance (task : Task) (name : CString) (delay : ℕ) :
    Only signature allowed (ask (.newTask task name delay)) :=
  only_ask trivial
instance (key : SdKey) (level : Int) (reference message : CString) :
    Only signature allowed (ask (.setSdAlarm key level reference message)) :=
  only_ask trivial

end Plain

instance (db : Db) : CtxCode rank ctx (haSmssqlAllocateContext ctx db) := only_perform rfl

theorem ctxCode_sql {query : Sql} (hquery : query.rank ≤ rank) :
    CtxCode rank ctx (sql ctx query) :=
  only_perform ⟨rfl, hquery⟩

theorem ctxCode_retry {query : Sql} (db : Db) (hquery : query.rank ≤ rank) :
    CtxCode rank ctx (retry ctx db query) := by
  have hsql : CtxCode rank ctx (sql ctx query) := ctxCode_sql hquery
  unfold retry attempt
  infer_instance

theorem ctxCode_ha {query : Sql} (db : Db) (initial : query.Output)
    (hquery : query.rank ≤ rank) : CtxCode rank ctx (ha ctx db query initial) := by
  have hretry : CtxCode rank ctx (retry ctx db query) := ctxCode_retry db hquery
  unfold ha
  infer_instance

variable {key : SdKey}

instance (ip : CString) (flag : Int) : CtxCode rank ctx (haSmssqlSetSDIPConfig ctx key ip flag) :=
  ctxCode_ha _ _ rank.zero_le
instance (flag : Int) : CtxCode rank ctx (haSmssqlSetSDUpdated ctx key flag) :=
  ctxCode_ha _ _ rank.zero_le
instance (step : Int) : CtxCode rank ctx (haSmssqlSetSDConfigStep ctx key step) :=
  ctxCode_ha _ _ rank.zero_le
instance (flag : Int) : CtxCode rank ctx (haSmssqlSetSDConnected ctx key flag) :=
  ctxCode_ha _ _ rank.zero_le
instance (asset : SdAsset) : CtxCode rank ctx (haSmssqlGetAsset ctx asset) :=
  ctxCode_ha _ _ rank.zero_le
instance (sd : SdLike) : CtxCode rank ctx (haSmssqlGetSDToUpdateFirst ctx sd) :=
  ctxCode_ha _ _ rank.zero_le
instance (n : Int) (names : List CString) : CtxCode rank ctx (haSmssqlInitProvStatus ctx key n names) :=
  ctxCode_ha _ _ rank.zero_le
instance (stage : Int) (status : CString) (next : Option CString) (code : ℕ) (message : CString) :
    CtxCode rank ctx (haSmssqlSetProvStatus ctx key stage status next code message) :=
  ctxCode_ha _ _ rank.zero_le
instance (provstatus : SdProvstatus) : CtxCode rank ctx (haSmssqlGetProvStatus ctx provstatus) :=
  ctxCode_ha _ _ rank.zero_le
instance (mode : Int) : CtxCode rank ctx (haSmssqlSetPollMode ctx key mode) :=
  ctxCode_ha _ _ rank.zero_le
instance : CtxCode rank ctx (haSmssqlSetSdDown ctx key) := ctxCode_ha _ _ rank.zero_le
instance : CtxCode rank ctx (haSmssqlSetProvDate ctx key) := ctxCode_ha _ _ rank.zero_le

instance (log : Fildelog) : CtxCode rank ctx (sql ctx (.setLogById log)) := ctxCode_sql rank.zero_le
instance : CtxCode rank ctx (sql ctx .getSDToUpdateNext) := ctxCode_sql rank.zero_le
instance : CtxCode rank ctx (sql ctx .getSDconnectedFirst) := ctxCode_sql rank.zero_le
instance : CtxCode rank ctx (sql ctx .getSDconnectedNext) := ctxCode_sql rank.zero_le
instance (flag : Int) : CtxCode rank ctx (sql ctx (.setSDAssetUpdate key flag)) := ctxCode_sql rank.zero_le
instance (status : SdUpdatestatus) : CtxCode rank ctx (sql ctx (.setUpdateStatus status)) :=
  ctxCode_sql rank.zero_le
instance (status : SdUpdatestatus) : CtxCode rank ctx (sql ctx (.getUpdateStatus status)) :=
  ctxCode_sql rank.zero_le
instance (object : SdCrudObject) : CtxCode rank ctx (sql ctx (.resetSDCrudObjects object)) :=
  ctxCode_sql rank.zero_le
instance (object : SdCrudObject) : CtxCode rank ctx (sql ctx (.setSDCrudObjects object)) :=
  ctxCode_sql rank.zero_le
instance (object : SdCrudObject) : CtxCode rank ctx (sql ctx (.deleteSDCrudObjects object)) :=
  ctxCode_sql rank.zero_le

instance (sd : SdLike) : CtxCode rank ctx (haSmssqlGetSDToUpdateNext ctx sd) := by
  unfold haSmssqlGetSDToUpdateNext
  infer_instance

/-! Lookups, and the wrappers on locks. -/

instance (sdid : CString) : CtxCode 2 ctx (sql ctx (.getSdInfo sdid)) := ctxCode_sql (Nat.le_refl 2)
instance (custid : CString) : CtxCode 2 ctx (sql ctx (.getCustInfo custid)) := ctxCode_sql (Nat.le_refl 2)
instance : CtxCode (rank + 1) ctx (haSmssqlGetSDprovlock ctx key) := ctxCode_ha _ _ (Nat.le_add_left 1 rank)
instance (provlock : Int) : CtxCode (rank + 1) ctx (haSmssqlSetSDprovlock ctx key provlock) :=
  ctxCode_ha _ _ (Nat.le_add_left 1 rank)
instance : CtxCode (rank + 1) ctx (haSmssqlUnLock ctx key) := ctxCode_ha _ _ (Nat.le_add_left 1 rank)

instance : CtxCode (rank + 1) ctx (haSmssqlSetLock ctx key) := by
  have hretry : CtxCode (rank + 1) ctx (retry ctx .sms (.setLock key)) := ctxCode_retry .sms (Nat.le_add_left 1 rank)
  unfold haSmssqlSetLock
  infer_instance

instance : CtxCode (rank + 1) ctx (lockProvOn ctx key) := by
  unfold lockProvOn
  infer_instance

instance : CtxCode (rank + 1) ctx (lockSDOn ctx key) := by
  unfold lockSDOn
  infer_instance

theorem ctxCode_mono {α : Type} {code : Code α} {rank' : ℕ} (hcode : CtxCode rank ctx code)
    (hrank : rank ≤ rank') : CtxCode rank' ctx code := by
  refine ⟨hcode.within.mono fun op hop ↦ ?_⟩
  cases op <;> first | exact hop | exact ⟨hop.1, Nat.le_trans hop.2 hrank⟩

instance (reply : Reply SdLike) (i : ℕ) : CtxCode rank ctx (saveFetched ctx reply i) := by
  unfold saveFetched
  infer_instance

instance : CtxCode rank ctx (savePass ctx) := by
  unfold savePass
  infer_instance

instance (reply : Reply SdLike) : CtxCode rank ctx (updateFetched ctx reply) := by
  unfold updateFetched
  infer_instance

instance : CtxCode rank ctx (updatePass ctx) := by
  unfold updatePass
  infer_instance

end CoreEngine.Smsd
