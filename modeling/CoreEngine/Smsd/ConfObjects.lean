import CoreEngine.Memory.Table
import CoreEngine.Smsd.Indifference
import CoreEngine.Smsd.Simulator

/-!
# Configuration objects

The table that scripts keep through `sms_bd_set_conf_objects` and its siblings. A record has 200 characters
for a name and 4000 for a value, and what a script passes is cut to that.
-/

namespace CoreEngine.Smsd

open Interaction
open CoreEngine.Memory (Table Edit)
open Procedure (lift Triple triple_bind triple_pure)
open Program (Run)

/-- The values of the configuration objects of each device, by name. -/
abbrev ConfTable := Table SdKey CString CString

/-- What a call of the database does to the table: the record is taken as it is. -/
def Sql.confEdit? : Sql → Option (Edit SdKey CString CString)
  | .resetSDCrudObjects object => some (.reset object.key)
  | .setSDCrudObjects object => some (.set object.key object.crudName object.crudValue)
  | .deleteSDCrudObjects object => some (.delete object.key object.crudName)
  | _ => none

/-- The table, which changes with the calls that return `SMS_OK`. -/
def confTable : Monitor signature ConfTable where
  allow _ _ := True
  expect _ _ _ := True
  next table op answer := match op, answer with
    | .sql _ query, reply => if reply.ret = smsOk then query.confEdit?.elim table (Edit.apply table) else table
    | _, _ => table

/-- A call of a script, with the names and values that it passes. -/
inductive ConfCall
  | reset
  | set (name value : CString)
  | delete (name : CString)
  deriving DecidableEq, Repr

namespace ConfCall

def function : ConfCall → PhpFunction
  | .reset => .smsBdResetConfObjects
  | .set name value => .smsBdSetConfObjects name value
  | .delete name => .smsBdDeleteConfObjects name

/-- What the call means for a map from full names to full values. -/
def edit (key : SdKey) : ConfCall → Edit SdKey CString CString
  | .reset => .reset key
  | .set name value => .set key name value
  | .delete name => .delete key name

end ConfCall

/-- The same, with the name and the value cut to the fields of the record. -/
def narrowed (edit : Edit SdKey CString CString) : Edit SdKey CString CString :=
  edit.narrow (CString.strncpy · crudNameLen) (CString.strncpy · crudValueLen)

section Calls

theorem confTable_ignores_pool (op : Op) (hop : op.OnPool) : confTable.Ignores op := by
  intro table
  cases op with
  | sql ctx query => exact hop.elim
  | _ => exact ⟨trivial, fun _ ↦ rfl⟩

variable {table : ConfTable}

theorem confTable_next {ctx : Ctx} {query : Sql} {change : Edit SdKey CString CString} {reply : Reply query.Output}
    (hchange : query.confEdit? = some change) (hret : reply.ret = smsOk) :
    confTable.next table (.sql ctx query) reply = change.apply table := by
  show (if reply.ret = smsOk then query.confEdit?.elim table (Edit.apply table) else table) = _
  rw [if_pos hret, hchange]
  rfl

/-- A function that makes one call passes its result on. -/
theorem triple_smsBd_confTable {borrower : Borrower} {body : Ctx → Code (Reply Unit)}
    {change : Edit SdKey CString CString}
    (hbody : ∀ ctx, (body ctx).Safe confTable (fun reply table' ↦ reply.ret = smsOk → table' = change.apply table)
      table) :
    Triple confTable (fun _ table' ↦ table' = table) (smsBd borrower body) fun ret _ table' ↦
      ret = smsOk → table' = change.apply table := by
  have hborrow : Triple confTable (fun _ table' ↦ table' = table) (borrowDbCtx borrower body)
      fun reply _ table' ↦ reply.ret = smsOk → table' = change.apply table := by
    apply triple_borrowDbCtx_of_pool confTable_ignores_pool
    rintro ctx table' rfl
    exact hbody ctx
  apply triple_bind hborrow
  intro reply
  exact triple_pure _ fun _ _ hreply ↦ hreply

/-- A call that returns zero has put the cut record into the table. -/
theorem triple_conf (info : SdInfo) (call : ConfCall) :
    Triple confTable (fun _ table' ↦ table' = table) (callPhp true (some info) call.function)
      fun value _ table' ↦ value = .int smsOk → table' = (narrowed (call.edit info.sd.key)).apply table := by
  have hpass {body : SdInfo → M Int} (hbody : Triple confTable (fun _ table' ↦ table' = table) (body info)
      fun ret _ table' ↦ ret = smsOk → table' = (narrowed (call.edit info.sd.key)).apply table) :
      Triple confTable (fun _ table' ↦ table' = table) (withPointers true (some info) body) fun value _ table' ↦
        value = .int smsOk → table' = (narrowed (call.edit info.sd.key)).apply table := by
    show Triple _ _ (body info >>= fun ret ↦ pure (PhpValue.int ret) : M PhpValue) _
    apply triple_bind hbody
    intro ret
    exact triple_pure _ fun _ _ hret hvalue ↦ hret (PhpValue.int.inj hvalue)
  cases call with
  | reset => exact hpass (triple_smsBd_confTable fun ctx ↦ ⟨trivial, fun _ _ ↦ confTable_next rfl⟩)
  | set name value => exact hpass (triple_smsBd_confTable fun ctx ↦ ⟨trivial, fun _ _ ↦ confTable_next rfl⟩)
  | delete name => exact hpass (triple_smsBd_confTable fun ctx ↦ ⟨trivial, fun _ _ ↦ confTable_next rfl⟩)

end Calls

section Histories

/-- A call of a script for a device, with what it did. -/
structure ConfAccess where
  info : SdInfo
  call : ConfCall
  trace : List (Event signature)

namespace ConfAccess

/-- The call was made, by some client, and returned zero. -/
def Done (access : ConfAccess) : Prop :=
  ∃ client client', Run (callPhp true (some access.info) access.call.function client) access.trace
    (.ret (.int smsOk, client'))

/-- The edit of the map from full names to full values. -/
def edit (access : ConfAccess) : Edit SdKey CString CString := access.call.edit access.info.sd.key

theorem Done.after {access : ConfAccess} (hdone : access.Done) (table : ConfTable) :
    confTable.after table access.trace = (narrowed access.edit).apply table := by
  obtain ⟨client, client', hrun⟩ := hdone
  have hmeets := Monitor.meets_of_expect (M := confTable) (fun _ _ _ ↦ trivial) table access.trace
  exact hrun.returns (triple_conf access.info access.call client table rfl) hmeets rfl

end ConfAccess

/-- The table after a history of calls. -/
def storedObjects (table : ConfTable) (accesses : List ConfAccess) : ConfTable :=
  confTable.after table (accesses.flatMap ConfAccess.trace)

theorem storedObjects_eq_applyAll (table : ConfTable) {accesses : List ConfAccess}
    (hdone : ∀ access ∈ accesses, access.Done) :
    storedObjects table accesses = Edit.applyAll table (accesses.map fun access ↦ narrowed access.edit) := by
  unfold storedObjects
  induction accesses generalizing table with
  | nil => rfl
  | cons access accesses ih =>
    rw [List.flatMap_cons, Monitor.after_append, (hdone access List.mem_cons_self).after]
    exact ih _ fun access' haccess' ↦ hdone access' (List.mem_cons_of_mem _ haccess')

/-- What the fields of a record take in full. -/
def ConfCall.Fits : ConfCall → Prop
  | .reset => True
  | .set name value => name.length ≤ crudNameLen ∧ value.length ≤ crudValueLen
  | .delete name => name.length ≤ crudNameLen

theorem strncpy_eq_self_iff {s : CString} {n : ℕ} : s.strncpy n = s ↔ s.length ≤ n := by
  constructor
  · intro hsame
    rw [← hsame]
    exact List.length_take_le n s
  · exact List.take_of_length_le

theorem ConfCall.narrowed_eq_iff_fits (key : SdKey) (call : ConfCall) :
    narrowed (call.edit key) = call.edit key ↔ call.Fits := by
  cases call with
  | reset => exact iff_of_true rfl trivial
  | set name value => simp [narrowed, edit, Edit.narrow, Fits, strncpy_eq_self_iff]
  | delete name => simp [narrowed, edit, Edit.narrow, Fits, strncpy_eq_self_iff]

/-- The call changes nothing, neither with what is passed nor with what the record holds of it. -/
def ConfAccess.Idle (table : ConfTable) (access : ConfAccess) : Prop :=
  access.edit.apply table = table ∧ (narrowed access.edit).apply table = table

/-- The table is the map from cut names to cut values. After every call it is the map from full names to full
values exactly when each call fits its record, or changes nothing. -/
theorem storedObjects_map (table : ConfTable) {accesses : List ConfAccess}
    (hdone : ∀ access ∈ accesses, access.Done) :
    storedObjects table accesses = Edit.applyAll table (accesses.map fun access ↦ narrowed access.edit) ∧
    ((∀ before, before <+: accesses →
        storedObjects table before = Edit.applyAll table (before.map ConfAccess.edit)) ↔
      ∀ before access, before ++ [access] <+: accesses →
        access.call.Fits ∨ access.Idle (Edit.applyAll table (before.map ConfAccess.edit))) := by
  refine ⟨storedObjects_eq_applyAll table hdone, ?_⟩
  have hstored (before : List ConfAccess) (hbefore : before <+: accesses) : storedObjects table before =
      Edit.applyAll table (before.map fun access ↦ narrowed access.edit) :=
    storedObjects_eq_applyAll table fun access haccess ↦ hdone access (hbefore.subset haccess)
  have hlaw := Edit.applyAll_narrow_eq_iff ConfAccess.edit (CString.strncpy · crudNameLen)
    (CString.strncpy · crudValueLen) table accesses
  have hlossless (access : ConfAccess) (table : ConfTable) :
      access.edit.Lossless (CString.strncpy · crudNameLen) (CString.strncpy · crudValueLen) table ↔
        access.call.Fits ∨ access.Idle table :=
    or_congr_left (access.call.narrowed_eq_iff_fits access.info.sd.key)
  simp only [hlossless] at hlaw
  rw [← hlaw]
  constructor
  · intro hsame before hbefore
    exact (hstored before hbefore).symm.trans (hsame before hbefore)
  · intro hsame before hbefore
    exact (hstored before hbefore).trans (hsame before hbefore)

/-- A device whose scripts store one object and delete it again. -/
theorem storedObjects_map_short : storedObjects (fun _ _ ↦ none)
    [⟨Sim.plainDevice, .set "acl".toList "permit".toList, [⟨.sql ⟨.sms, 0⟩ (.setSDCrudObjects
        ⟨Sim.plainDevice.sd.key, "acl".toList, "permit".toList⟩), ⟨smsOk, ()⟩⟩]⟩,
      ⟨Sim.plainDevice, .delete "acl".toList, [⟨.sql ⟨.sms, 0⟩ (.deleteSDCrudObjects
        ⟨Sim.plainDevice.sd.key, "acl".toList, []⟩), ⟨smsOk, ()⟩⟩]⟩] =
    Edit.applyAll (fun _ _ ↦ none) [.set Sim.plainDevice.sd.key "acl".toList "permit".toList,
      .delete Sim.plainDevice.sd.key "acl".toList] := by
  refine (storedObjects_map (fun _ _ ↦ none) ?_).1
  intro access haccess
  rcases List.mem_pair.1 haccess with rfl | rfl
  · exact ⟨⟨1, some ⟨.sms, 0⟩⟩, _, .call (.done _)⟩
  · exact ⟨⟨1, some ⟨.sms, 0⟩⟩, _, .call (.done _)⟩

/-- A name of 201 characters is not found under the name it was stored with. -/
theorem storedObjects_longName : ∃ access : ConfAccess, access.Done ∧
    storedObjects (fun _ _ ↦ none) [access] ≠ Edit.applyAll (fun _ _ ↦ none) [access.edit] := by
  obtain ⟨name, hname⟩ : ∃ name : CString, name.strncpy crudNameLen ≠ name :=
    ⟨List.replicate 201 'a', by decide +kernel⟩
  refine ⟨⟨Sim.plainDevice, .set name [], [⟨.sql ⟨.sms, 0⟩ (.setSDCrudObjects
    ⟨Sim.plainDevice.sd.key, name.strncpy crudNameLen, []⟩), ⟨smsOk, ()⟩⟩]⟩, ?_, ?_⟩
  · exact ⟨⟨1, some ⟨.sms, 0⟩⟩, _, .call (.done _)⟩
  · intro hequal
    have hvalue := congrFun (congrFun hequal Sim.plainDevice.sd.key) name
    have hfull : Edit.apply (fun _ _ ↦ none) (.set Sim.plainDevice.sd.key name []) Sim.plainDevice.sd.key name =
        some ([] : CString) := by simp [Edit.apply]
    have hcut : Edit.apply (fun _ _ ↦ none) (.set Sim.plainDevice.sd.key (name.strncpy crudNameLen) ([] : CString))
        Sim.plainDevice.sd.key name = none := by simp [Edit.apply, Function.update_of_ne hname.symm]
    exact absurd (hcut.symm.trans (hvalue.trans hfull)).symm (Option.some_ne_none _)

end Histories

end CoreEngine.Smsd
