import CoreEngine.Interaction.Interleaving
import CoreEngine.Smsd.Dispatch

/-!
# A simulated environment

An environment that can be computed with: a pool of five contexts a database, one device, calls that
succeed, clients that send given lines, and scripts that follow a given course. Runs on it show what
can happen.
-/

namespace CoreEngine.Smsd

open Interaction

structure Sim where
  /-- The contexts marked ACTIVE. -/
  active : List Ctx
  device : SdInfo
  locked : Bool
  /-- What each task still reads from its client. -/
  lines : ℕ → List CString
  /-- What the scripts of each task still do. -/
  steps : ℕ → List ScriptStep

namespace Sim

/-- The first context of the pool that is not active; the pool has five for each database. -/
def firstFree (sim : Sim) (db : Db) : Option Ctx :=
  ((List.range 5).map (Ctx.mk db)).find? (· ∉ sim.active)

/-- A library with a text for every error. -/
def library : Library where
  getErrorMessage _ := some "error".toList
  getErrorCodeStr _ := some "0x00000001".toList
  getErrorCodeNum _ := 1
  gpulBackslashify s := s
  getRouterConfigType _ _ := none

def stats : Stats := ⟨0, 0, 0, 0, 0, 0, 0, 0, 0, 0, 0, 0, 0, 0, 0, 0, [], [], 0, 0⟩

/-- A call of the database library. No device waits for an update or a backup. -/
def sql (sim : Sim) : (query : Sql) → Reply query.Output × Sim
  | .getSdInfo _ => (⟨0, sim.device⟩, sim)
  | .getCustInfo custid => (⟨0, ⟨custid⟩⟩, sim)
  | .setLogById _ => (⟨0, ()⟩, sim)
  | .setSDIPConfig _ ip connected =>
      (⟨0, ()⟩, { sim with device.sd.sdIpConfig := ip, device.sd.sdConnected := connected })
  | .setSDUpdated _ _ => (⟨0, ()⟩, sim)
  | .setSDprovlock _ provlock => (⟨0, ()⟩, { sim with device.sd.sdProvLock := provlock })
  | .getSDprovlock _ => (⟨0, sim.device.sd.sdProvLock⟩, sim)
  | .setLock _ =>
      if sim.locked then (⟨0, alreadyLocked⟩, sim) else (⟨0, okLocked⟩, { sim with locked := true })
  | .unLock _ => (⟨0, ()⟩, { sim with locked := false })
  | .unLockAll _ => (⟨0, ()⟩, { sim with locked := false })
  | .setProvDate _ => (⟨0, ()⟩, sim)
  | .setSDConfigStep _ _ => (⟨0, ()⟩, sim)
  | .setSDConnected _ flag => (⟨0, ()⟩, { sim with device.sd.sdConnected := flag })
  | .getAsset key => (⟨0, .blank key⟩, sim)
  | .getSDToUpdateFirst => (⟨errDbNotfound, .blank⟩, sim)
  | .getSDToUpdateNext => (⟨errDbNotfound, .blank⟩, sim)
  | .getSDconnectedFirst => (⟨errDbNotfound, .blank⟩, sim)
  | .getSDconnectedNext => (⟨errDbNotfound, .blank⟩, sim)
  | .initProvStatus _ _ _ => (⟨0, ()⟩, sim)
  | .setProvStatus _ _ _ _ _ _ => (⟨0, ()⟩, sim)
  | .getProvStatus key stageIndex => (⟨0, ⟨key, stageIndex, [], 0, []⟩⟩, sim)
  | .setPollMode _ _ => (⟨0, ()⟩, sim)
  | .setSDPing _ _ _ _ => (⟨0, ()⟩, sim)
  | .setSDAssetUpdate _ _ => (⟨0, ()⟩, sim)
  | .setUpdateStatus _ => (⟨0, ()⟩, sim)
  | .getUpdateStatus status => (⟨0, status⟩, sim)
  | .resetSDCrudObjects _ => (⟨0, ()⟩, sim)
  | .setSDCrudObjects _ => (⟨0, ()⟩, sim)
  | .deleteSDCrudObjects _ => (⟨0, ()⟩, sim)

/-- The next line of the client of task `i`, or a read error. -/
def readLine (sim : Sim) (i : ℕ) : ReadLine × Sim :=
  match sim.lines i with
  | [] => (⟨-1, []⟩, sim)
  | line :: rest => (⟨line.length, line⟩, { sim with lines := Function.update sim.lines i rest })

/-- The next step of a script of task `i`; when there is none left it ends with success. -/
def scriptStep (sim : Sim) (i : ℕ) : ScriptStep × Sim :=
  match sim.steps i with
  | [] => (.exit 0 none none, sim)
  | step :: rest => (step, { sim with steps := Function.update sim.steps i rest })

/-- The answer to an operation of task `i`. -/
def respond (sim : Sim) (i : ℕ) : (op : Op) → Option (op.Answer × Sim)
  | .readShutdown => some (false, sim)
  | .findCtx db _ => (sim.firstFree db).map fun ctx ↦ (ctx, { sim with active := ctx :: sim.active })
  | .releaseCtx ctx =>
      some ((), { sim with active := ctx.elim sim.active fun ctx ↦ sim.active.filter (· ≠ ctx) })
  | .storeDbCtx _ _ => some ((), sim)
  | .allocateContext _ _ => some ((), sim)
  | .sql _ query => some (sim.sql query)
  | .nullDereference => none
  | .nullBody => none
  | .socketReadLine _ _ _ => some (sim.readLine i)
  | .socketWrite _ bytes => some ((bytes.length : Int), sim)
  | .socketClose _ => some ((0 : Int), sim)
  | .doSnmpGet _ _ => some ((), sim)
  | .doSnmpGetNext _ _ => some ((), sim)
  | .replied => some ((), sim)
  | .scriptStart _ => some ((), sim)
  | .scriptStep => some (sim.scriptStep i)
  | .phpReturn _ => some ((), sim)
  | .library => some (library, sim)
  | .currentConfig => some (⟨0, 0, 0, [], []⟩, sim)
  | .setSdAlarm _ _ _ _ => some ((), sim)
  | .countUp _ => some ((), sim)
  | .currentStat => some (stats, sim)
  | .newTask _ _ _ => some ((), sim)
  | .gpulSchedStats => some (([] : CString), sim)
  | .gpulLogReinit => some ((), sim)
  | .logSetLevel _ => some ((), sim)
  | .dbgSetLevel _ => some ((), sim)
  | .sleep _ => some ((), sim)
  | .uninitialised => some (([] : CString), sim)

/-- A device that is provisioned, connected and unlocked. -/
def plainDevice : SdInfo where
  sd :=
    { key := ⟨"ABC".toList, 123⟩
      sdid := "ABC123".toList
      sdLoginEntry := []
      sdPasswdEntry := []
      sdPasswdAdm := []
      sdType := "H".toList
      sdIpConfig := "10.0.0.1".toList
      sdConnected := 1
      sdProvLock := 0
      manId := 1
      modId := 1 }
  sdid := "ABC123".toList
  sdExtInterface := some ⟨"10.0.0.1".toList, "D".toList⟩
  routerPath := "router".toList

/-- One task, whose client sends `lines` and whose scripts follow `steps`. -/
def single (lines : List CString) (steps : List ScriptStep) : Sim where
  active := []
  device := plainDevice
  locked := false
  lines _ := lines
  steps _ := steps

/-- Run code as task 0, every loop getting `fuel` rounds, up to the first operation in `stop`. -/
def execUntil {α : Type} (sim : Sim) (stop : Op → Bool) (fuel : ℕ) (code : Code α) :
    List (Event signature) × Code α × Sim :=
  Program.exec (S := signature) (fun sim op ↦ if stop op then none else sim.respond 0 op) fuel code sim

theorem run_execUntil {α : Type} (sim : Sim) (stop : Op → Bool) (fuel : ℕ) (code : Code α) :
    Program.Run code (sim.execUntil stop fuel code).1 (sim.execUntil stop fuel code).2.1 :=
  Program.run_exec _ fuel code sim

/-- Run code to its end. -/
abbrev exec {α : Type} (sim : Sim) (fuel : ℕ) (code : Code α) :
    List (Event signature) × Code α × Sim :=
  sim.execUntil (fun _ ↦ false) fuel code

/-- A call that passes both pointers. -/
def call (function : PhpFunction) : ScriptStep := .call ⟨true, true, function⟩

end Sim

end CoreEngine.Smsd
