import CoreEngine.Interaction.Footprint
import CoreEngine.Smsd.World

/-!
# Database access

The reconnecting wrappers of `bd.c`, and the idioms by which a task holds its database context in
`csp->db_ctx`. A wrapper repeats its call while the connection is lost, and gives up when the daemon
is shutting down.
-/

namespace CoreEngine.Smsd

open Interaction
open Procedure (lift)

section Wrappers

def readShutdown : Code Bool := ask .readShutdown

def haSmssqlAllocateContext (ctx : Ctx) (db : Db) : Code Unit := ask (.allocateContext ctx db)

/-- A call of the database library on a context. -/
def sql (ctx : Ctx) (query : Sql) : Code (Reply query.Output) := ask (.sql ctx query)

/-- One round of the loop `while (ret == ERR_DB_CONNECTION_LOST)`. -/
def attempt (ctx : Ctx) (db : Db) (query : Sql) : Code (Unit ⊕ Reply query.Output) := do
  let reply ← sql ctx query
  if reply.ret = errDbConnectionLost then do
    haSmssqlAllocateContext ctx db
    let shutdownRequired ← readShutdown
    if shutdownRequired then pure (.inr ⟨errDbFailed, reply.output⟩) else pure (.inl ())
  else pure (.inr reply)

def retry (ctx : Ctx) (db : Db) (query : Sql) : Code (Reply query.Output) :=
  Program.loop (fun _ ↦ attempt ctx db query) ()

/-- The common form of the wrappers. `initial` is what the output parameter holds before. -/
def ha (ctx : Ctx) (db : Db) (query : Sql) (initial : query.Output) : Code (Reply query.Output) := do
  let shutdownRequired ← readShutdown
  if shutdownRequired then pure ⟨errDbFailed, initial⟩ else retry ctx db query

def haSmssqlSetSDIPConfig (ctx : Ctx) (key : SdKey) (sdIpconf : CString) (connectedFlag : Int) :
    Code (Reply Unit) :=
  ha ctx .sms (.setSDIPConfig key sdIpconf connectedFlag) ()

def haSmssqlSetSDUpdated (ctx : Ctx) (key : SdKey) (updatedFlag : Int) : Code (Reply Unit) :=
  ha ctx .sms (.setSDUpdated key updatedFlag) ()

def haSmssqlSetSDprovlock (ctx : Ctx) (key : SdKey) (provlock : Int) : Code (Reply Unit) :=
  ha ctx .sms (.setSDprovlock key provlock) ()

def haSmssqlGetSDprovlock (ctx : Ctx) (key : SdKey) : Code (Reply Int) :=
  ha ctx .sms (.getSDprovlock key) 0

/-- Unlike its siblings, looks at the provisioning lock first. `lock_state` is zero on entry. -/
def haSmssqlSetLock (ctx : Ctx) (key : SdKey) : Code (Reply Int) := do
  let shutdownRequired ← readShutdown
  if shutdownRequired then pure ⟨errDbFailed, 0⟩ else do
    let provlock ← haSmssqlGetSDprovlock ctx key
    if provlock.ret ≠ 0 then pure ⟨provlock.ret, 0⟩
    else if provlock.output ≠ 0 then pure ⟨provlock.ret, alreadyProvlocked⟩
    else retry ctx .sms (.setLock key)

def haSmssqlUnLock (ctx : Ctx) (key : SdKey) : Code (Reply Unit) := ha ctx .sms (.unLock key) ()

def haSmssqlUnLockAll (ctx : Ctx) (errorMesg : CString) : Code (Reply Unit) :=
  ha ctx .sms (.unLockAll errorMesg) ()

/-- The one wrapper that reconnects to the customer database. -/
def haSmssqlSetProvDate (ctx : Ctx) (key : SdKey) : Code (Reply Unit) :=
  ha ctx .cust (.setProvDate key) ()

def haSmssqlSetSDConfigStep (ctx : Ctx) (key : SdKey) (cfgStep : Int) : Code (Reply Unit) :=
  ha ctx .sms (.setSDConfigStep key cfgStep) ()

def haSmssqlSetSDConnected (ctx : Ctx) (key : SdKey) (connectedFlag : Int) : Code (Reply Unit) :=
  ha ctx .sms (.setSDConnected key connectedFlag) ()

def haSmssqlGetAsset (ctx : Ctx) (asset : SdAsset) : Code (Reply SdAsset) :=
  ha ctx .sms (.getAsset asset.key) asset

def haSmssqlGetSDToUpdateFirst (ctx : Ctx) (sd : SdLike) : Code (Reply SdLike) :=
  ha ctx .sms .getSDToUpdateFirst sd

/-- Does not reconnect: a lost connection is reported to the caller, who starts over. -/
def haSmssqlGetSDToUpdateNext (ctx : Ctx) (sd : SdLike) : Code (Reply SdLike) := do
  let shutdownRequired ← readShutdown
  if shutdownRequired then pure ⟨errDbFailed, sd⟩ else do
    let reply ← sql ctx .getSDToUpdateNext
    if reply.ret = errDbConnectionLost then do
      let shutdownRequired ← readShutdown
      if shutdownRequired then pure ⟨errDbFailed, reply.output⟩ else pure reply
    else pure reply

def haSmssqlInitProvStatus (ctx : Ctx) (key : SdKey) (numStages : Int) (stageNames : List CString) :
    Code (Reply Unit) :=
  ha ctx .sms (.initProvStatus key numStages stageNames) ()

def haSmssqlSetProvStatus (ctx : Ctx) (key : SdKey) (stageIndex : Int) (status : CString)
    (nextStatus : Option CString) (errorCode : ℕ) (errorMessage : CString) : Code (Reply Unit) :=
  ha ctx .sms (.setProvStatus key stageIndex status nextStatus errorCode errorMessage) ()

def haSmssqlGetProvStatus (ctx : Ctx) (provstatus : SdProvstatus) : Code (Reply SdProvstatus) :=
  ha ctx .sms (.getProvStatus provstatus.key provstatus.stageIndex) provstatus

def haSmssqlSetPollMode (ctx : Ctx) (key : SdKey) (sdPollMode : Int) : Code (Reply Unit) :=
  ha ctx .sms (.setPollMode key sdPollMode) ()

def haSmssqlSetSdDown (ctx : Ctx) (key : SdKey) : Code (Reply Unit) :=
  ha ctx .sms (.setSDPing key 0 0 0) ()

end Wrappers

section Contexts

def findCtx (db : Db) (caller : Caller) : Code Ctx := ask (.findCtx db caller)

def releaseCtx (ctx : Option Ctx) : Code Unit := ask (.releaseCtx ctx)

def nullDereference {α : Type} : Code α := ask .nullDereference >>= Empty.elim

def nullBody {α : Type} : Code α := ask .nullBody >>= Empty.elim

/-- `csp->db_ctx = ctx`. -/
def storeDbCtx (ctx : Option Ctx) : M Unit := do
  let csp ← get
  lift (ask (.storeDbCtx csp.dbCtx ctx))
  modify fun csp ↦ { csp with dbCtx := ctx }

/-- `RELEASE_BD_CTX(csp)`: release the context and forget it. -/
def releaseBdCtx : M Unit := do
  let csp ← get
  lift (releaseCtx csp.dbCtx)
  storeDbCtx none

/-- `if (csp->db_ctx == NULL) csp->db_ctx = sms_db_find_ctx(...)`; the context stays in `csp`. -/
def ensureDbCtx (keeper : Keeper) : M Unit := do
  let csp ← get
  if csp.dbCtx.isNone then do
    let ctx ← lift (findCtx .sms (.keeper keeper))
    storeDbCtx (some ctx)

/-- Calls through `csp->db_ctx`. -/
def useDbCtx {α : Type} (body : Ctx → Code α) : M α := do
  let csp ← get
  lift (csp.dbCtx.elim nullDereference body)

/-- The idiom of the flag `release_db_ctx`: take a context if there is none, and release it after
`body`. The pointer `csp->db_ctx` is not cleared. -/
def borrowDbCtx {α : Type} (borrower : Borrower) (body : Ctx → Code α) : M α := do
  let csp ← get
  if csp.dbCtx.isNone then do
    let ctx ← lift (findCtx .sms (.borrower borrower))
    storeDbCtx (some ctx)
    let value ← lift (body ctx)
    lift (releaseCtx (some ctx))
    pure value
  else useDbCtx body

/-- A context of its own, released after `body`. -/
def withCtx {α : Type} (db : Db) (caller : Caller) (body : Ctx → Code α) : Code α := do
  let ctx ← findCtx db caller
  let value ← body ctx
  releaseCtx (some ctx)
  pure value

end Contexts

end CoreEngine.Smsd
