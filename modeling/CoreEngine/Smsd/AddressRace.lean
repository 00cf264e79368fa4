import CoreEngine.Smsd.Notifier
import Mathlib.Data.List.Nodup

/-!
# Notices that overtake each other

Any number of IPUP and IPDOWN notices about one device are handled at the same time. Each of them
reads the address and writes to it later. As long as a notice that disconnects the device still finds
the address it has read, the outcome is the one of handling the notices one after the other.
-/

namespace CoreEngine.Smsd

open Interaction

section Race

variable {ι : Type}

/-- The address of a device, and the task whose notice has disconnected it. The database does not know
the latter; it is kept here to speak about it. -/
structure AddressRow (ι : Type) where
  address : Address
  downBy : Option ι

/-- The row after a call of task `i`. -/
def AddressRow.call (key : SdKey) (i : ι) (row : AddressRow ι) (query : Sql) : AddressRow ι :=
  (query.addressWrite key).elim row fun write ↦
    ⟨write.apply row.address, if write = .connected 0 then some i else none⟩

def AddressRow.apply (key : SdKey) (i : ι) (row : AddressRow ι) : Op → AddressRow ι
  | .sql _ query => row.call key i query
  | _ => row

/-- Tasks that share the row: every operation is one step. -/
def addressTable (device : DynamicDevice) : Environment signature ι (AddressRow ι) :=
  fun row i op answer row' ↦ device.Answers row.address op answer ∧ row' = row.apply device.key i op

/-- The scripts that compare serial numbers succeed. -/
def serialsMatch : Guard signature ι (AddressRow ι) Notifier := fun _ notifiers i op answer ↦
  match op, answer with
  | .scriptStep, .exit ret _ _ => (notifiers i).checking = true → ret = 0
  | _, _ => True

/-- A notice that disconnects the device still finds the address it has read. -/
def stillAddressed (device : DynamicDevice) : Guard signature ι (AddressRow ι) Notifier :=
  fun row notifiers i op _ ↦ match op with
    | .sql _ query => query.addressWrite device.key = some (.connected 0) →
        ∀ seen, (notifiers i).stage = .decided seen → row.address.ip = seen.ip
    | _ => True

/-- Every task handles a notice, on a context that was taken for its request. -/
def notices (device : DynamicDevice) (notices : ι → Notice) (cfds : ι → Int) (ctxs : ι → Ctx)
    (address : Address) : Config signature ι (AddressRow ι) Notifier (Int × Client) :=
  ⟨⟨address, none⟩, fun i ↦ ⟨notices i, .asked, false⟩,
    fun i ↦ (notices i).handle device.sdid ⟨cfds i, some (ctxs i)⟩⟩

/-- The address after the notices of `order`, one after the other. -/
def effects (notices : ι → Notice) (order : List ι) (address : Address) : Address :=
  order.foldl (fun address i ↦ (notices i).effect address) address

/-- The settled notices can be put in an order that explains the address, and what the others have
read is still so or was changed by a settled one. -/
structure Serial (notices : ι → Notice) (start : Address) (row : AddressRow ι)
    (notifiers : ι → Notifier) : Prop where
  notice : ∀ i, (notifiers i).notice = notices i
  order : ∃ order : List ι, order.Nodup ∧ (∀ i, i ∈ order ↔ (notifiers i).stage = .settled) ∧
    effects notices order start = row.address
  ip : ∀ i seen, (notifiers i).stage = .decided seen → seen.ip ≠ row.address.ip →
    ∃ j, (notifiers j).stage = .settled ∧ notices j = .up row.address.ip
  written : ∀ i seen, (notifiers i).stage = .decided seen → seen ≠ row.address →
    row.address.connected = 0 ∨ row.address.connected = 1
  down : ∀ i, row.downBy = some i → row.address.ip = [] ∨ (notices i).ip = row.address.ip

namespace Serial

variable [DecidableEq ι] {all : ι → Notice} {start : Address} {row : AddressRow ι}
  {notifiers : ι → Notifier} {i : ι} {seen : Address} {w : AddressWrite}

omit [DecidableEq ι] in
theorem effects_append (order rest : List ι) (address : Address) :
    effects all (order ++ rest) address = effects all rest (effects all order address) :=
  List.foldl_append

/-- A step that moves no stage and leaves the row alone. -/
theorem keep (hserial : Serial all start row notifiers) {notifier : Notifier}
    (hnotice : notifier.notice = (notifiers i).notice) (hstage : notifier.stage = (notifiers i).stage) :
    Serial all start row (Function.update notifiers i notifier) := by
  have hstages (j : ι) : (Function.update notifiers i notifier j).stage = (notifiers j).stage := by
    by_cases hj : j = i
    · rw [hj, Function.update_self, hstage]
    · rw [Function.update_of_ne hj]
  obtain ⟨hnotices, horder, hip, hwritten, hdown⟩ := hserial
  refine ⟨fun j ↦ ?_, ?_, ?_, ?_, hdown⟩
  · by_cases hj : j = i
    · rw [hj, Function.update_self, hnotice, hnotices i]
    · rw [Function.update_of_ne hj, hnotices j]
  · simpa only [hstages] using horder
  · simpa only [hstages] using hip
  · simpa only [hstages] using hwritten

omit [DecidableEq ι] in
/-- The order with one more notice at its end. -/
theorem snoc {order : List ι} (hnodup : order.Nodup)
    (hmem : ∀ j, j ∈ order ↔ (notifiers j).stage = .settled) (hi : (notifiers i).stage ≠ .settled) :
    (order ++ [i]).Nodup ∧ ∀ j, j ∈ order ++ [i] ↔ j = i ∨ (notifiers j).stage = .settled := by
  have hnew : i ∉ order := fun hin ↦ hi ((hmem i).1 hin)
  refine ⟨?_, fun j ↦ ?_⟩
  · rw [List.nodup_append]
    refine ⟨hnodup, List.pairwise_singleton _ i, fun j hj k hk ↦ ?_⟩
    rw [List.mem_singleton.1 hk]
    exact fun hji ↦ hnew (hji ▸ hj)
  · rw [List.mem_append, List.mem_singleton, hmem, or_comm]

/-- A notice whose write comes late, after another one has changed the address: it is put before
that one. -/
theorem snoc_before {order : List ι} {j : ι} (hnodup : order.Nodup)
    (hmem : ∀ j, j ∈ order ↔ (notifiers j).stage = .settled) (hi : (notifiers i).stage ≠ .settled)
    (hj : j ∈ order) :
    (order.erase j ++ [i, j]).Nodup ∧
      ∀ k, k ∈ order.erase j ++ [i, j] ↔ k = i ∨ (notifiers k).stage = .settled := by
  have hperm : (order.erase j ++ [i, j]).Perm (order ++ [i]) := by
    calc (order.erase j ++ [i, j]).Perm ([i, j] ++ order.erase j) := List.perm_append_comm
      _ = i :: j :: order.erase j := rfl
      List.Perm _ (i :: order) := (List.perm_cons_erase hj).symm.cons i
      List.Perm _ (order ++ [i]) := (List.perm_append_singleton i order).symm
  obtain ⟨hnodup', hmem'⟩ := snoc hnodup hmem hi
  refine ⟨hperm.nodup_iff.2 hnodup', fun k ↦ ?_⟩
  rw [hperm.mem_iff, hmem' k]

/-- The write of a notice is explained by an order. -/
theorem explain (hserial : Serial all start row notifiers) (hstage : (notifiers i).stage = .decided seen)
    (hwrite : (all i).write seen = some w) (hguard : w = .connected 0 → row.address.ip = seen.ip) :
    ∃ order : List ι, order.Nodup ∧
      (∀ j, j ∈ order ↔ j = i ∨ (notifiers j).stage = .settled) ∧
      effects all order start = w.apply row.address := by
  obtain ⟨order, hnodup, hmem, heffects⟩ := hserial.order
  have hi : (notifiers i).stage ≠ .settled := by
    rw [hstage]
    nofun
  obtain ⟨hnodup', hmem'⟩ := snoc hnodup hmem hi
  have hlast : effects all (order ++ [i]) start = (all i).effect row.address := by
    rw [effects_append, heffects]
    rfl
  have hchanged : seen ≠ row.address → row.address.connected = 0 ∨ row.address.connected = 1 :=
    hserial.written i seen hstage
  cases hnotice : all i with
  | up ip =>
    rw [hnotice] at hwrite hlast
    rcases Notice.write_up hwrite with ⟨hip, rfl⟩ | ⟨hip, hzero, rfl⟩
    · -- the address is written in any case
      refine ⟨order ++ [i], hnodup', hmem', hlast.trans (Notice.effect_up ?_)⟩
      by_cases hcurrent : row.address.ip = ip
      · refine Or.inr (hchanged fun hseen ↦ hip ?_)
        rw [hseen, hcurrent]
      · exact Or.inl hcurrent
    · by_cases hcurrent : row.address.ip = ip
      · refine ⟨order ++ [i], hnodup', hmem', hlast.trans ?_⟩
        have hflag : row.address.connected = 0 ∨ row.address.connected = 1 := by
          by_cases hseen : seen = row.address
          · rw [← hseen]
            exact Or.inl hzero
          · exact hchanged hseen
        rw [Notice.effect_up (Or.inr hflag), ← hcurrent]
        rfl
      · -- the address has changed since: the notice that has done so comes last
        have hstale : seen.ip ≠ row.address.ip := by
          rw [← hip]
          exact Ne.symm hcurrent
        obtain ⟨j, hsettled, hj⟩ := hserial.ip i seen hstage hstale
        obtain ⟨hnodup'', hmem''⟩ := snoc_before hnodup hmem hi ((hmem j).2 hsettled)
        refine ⟨order.erase j ++ [i, j], hnodup'', hmem'', ?_⟩
        rw [effects_append]
        show (all j).effect ((all i).effect _) = _
        rw [hnotice, hj]
        refine Notice.effect_up (Or.inl ?_)
        rw [Notice.ip_effect_up]
        exact Ne.symm hcurrent
  | down ip =>
    rw [hnotice] at hwrite hlast
    obtain ⟨rfl, hip⟩ := Notice.write_down hwrite
    refine ⟨order ++ [i], hnodup', hmem', hlast.trans (Notice.effect_down ?_)⟩
    rw [hguard rfl]
    exact hip

/-- The read of a notice. When it decides on nothing, the notice is put at the end of the order. -/
theorem read (hserial : Serial all start row notifiers) (hstage : (notifiers i).stage = .asked)
    {notifier : Notifier} (hnotice : notifier.notice = (notifiers i).notice)
    (hread : notifier.stage = (all i).stage row.address) :
    Serial all start row (Function.update notifiers i notifier) := by
  obtain ⟨order, hnodup, hmem, heffects⟩ := hserial.order
  have hsettled (j : ι) (hj : (notifiers j).stage = .settled) :
      (Function.update notifiers i notifier j).stage = .settled := by
    have hne : j ≠ i := by
      rintro rfl
      rw [hstage] at hj
      cases hj
    rw [Function.update_of_ne hne, hj]
  have hdecided (j : ι) (seen : Address)
      (hj : (Function.update notifiers i notifier j).stage = .decided seen) :
      (notifiers j).stage = .decided seen ∨ seen = row.address := by
    by_cases hji : j = i
    · rw [hji, Function.update_self, hread] at hj
      exact Or.inr (Notifier.seen_of_stage hj)
    · rw [Function.update_of_ne hji] at hj
      exact Or.inl hj
  refine ⟨fun j ↦ ?_, ?_, fun j seen hj hne ↦ ?_, fun j seen hj hne ↦ ?_, hserial.down⟩
  · by_cases hj : j = i
    · rw [hj, Function.update_self, hnotice, hserial.notice i]
    · rw [Function.update_of_ne hj, hserial.notice j]
  · cases hwrite : (all i).write row.address with
    | none =>
      rw [Notifier.stage_of_nothing hwrite] at hread
      obtain ⟨hnodup', hmem'⟩ := snoc hnodup hmem (i := i) (by simp [hstage])
      refine ⟨order ++ [i], hnodup', fun j ↦ ?_, ?_⟩
      · rw [hmem' j]
        by_cases hj : j = i
        · simp [hj, hread]
        · simp [hj]
      · rw [effects_append, heffects]
        exact Notice.effect_of_nothing hwrite
    | some w =>
      rw [Notifier.stage_of_write hwrite] at hread
      refine ⟨order, hnodup, fun j ↦ ?_, heffects⟩
      rw [hmem j]
      by_cases hj : j = i
      · simp [hj, hread, hstage]
      · simp [hj]
  · rcases hdecided j seen hj with hold | hnew
    · obtain ⟨k, hk, hup⟩ := hserial.ip j seen hold hne
      exact ⟨k, hsettled k hk, hup⟩
    · exact absurd (congrArg Address.ip hnew) hne
  · rcases hdecided j seen hj with hold | hnew
    · exact hserial.written j seen hold hne
    · exact absurd hnew hne

/-- The write of a notice. -/
theorem write (hserial : Serial all start row notifiers) (hstage : (notifiers i).stage = .decided seen)
    (hwrite : (all i).write seen = some w) (hguard : w = .connected 0 → row.address.ip = seen.ip) :
    Serial all start ⟨w.apply row.address, if w = .connected 0 then some i else none⟩
      (Function.update notifiers i { notifiers i with stage := .settled }) := by
  have hstages (j : ι) : (Function.update notifiers i { notifiers i with stage := .settled } j).stage =
      if j = i then .settled else (notifiers j).stage := by
    by_cases hj : j = i
    · rw [hj, Function.update_self, if_pos rfl]
    · rw [Function.update_of_ne hj, if_neg hj]
  have hothers (j : ι) (seen' : Address)
      (hj : (Function.update notifiers i { notifiers i with stage := .settled } j).stage =
        .decided seen') : (notifiers j).stage = .decided seen' := by
    rw [hstages j] at hj
    by_cases hji : j = i
    · rw [if_pos hji] at hj
      cases hj
    · rwa [if_neg hji] at hj
  refine ⟨fun j ↦ ?_, ?_, fun j seen' hj hne ↦ ?_, fun j seen' hj hne ↦ ?_, fun j hj ↦ ?_⟩
  · by_cases hj : j = i
    · rw [hj, Function.update_self, hserial.notice i]
    · rw [Function.update_of_ne hj, hserial.notice j]
  · obtain ⟨order, hnodup, hmem, heffects⟩ := hserial.explain hstage hwrite hguard
    refine ⟨order, hnodup, fun j ↦ ?_, heffects⟩
    rw [hmem j, hstages j]
    by_cases hj : j = i
    · simp [hj]
    · simp [hj]
  · rcases Notice.write_cases hwrite with ⟨ip, hup, rfl⟩ | ⟨flag, -, rfl⟩
    · refine ⟨i, ?_, hup⟩
      rw [hstages i, if_pos rfl]
    · obtain ⟨k, hk, hup⟩ := hserial.ip j seen' (hothers j seen' hj) hne
      refine ⟨k, ?_, hup⟩
      rw [hstages k, hk, ite_self]
  · rcases Notice.write_cases hwrite with ⟨ip, hup, rfl⟩ | ⟨flag, hflag, rfl⟩
    · exact Or.inr rfl
    · exact hflag
  · by_cases hdown : w = .connected 0
    · rw [if_pos hdown] at hj
      obtain rfl : i = j := Option.some.inj hj
      have hip : (all i).ip = seen.ip ∨ seen.ip = [] := Notice.ip_of_down (hdown ▸ hwrite)
      rw [← hguard hdown] at hip
      rw [hdown]
      exact hip.symm
    · rw [if_neg hdown] at hj
      cases hj

/-- A write through the row. -/
theorem call (hserial : Serial all start row notifiers) {device : DynamicDevice} {ctx : Ctx} {query : Sql}
    {reply : Reply query.Output} (hquery : query.addressWrite device.key = some w)
    (hallow : (notifier device).allow (notifiers i) (.sql ctx query))
    (hguard : stillAddressed device row notifiers i (.sql ctx query) reply) :
    Serial all start (row.call device.key i query)
      (Function.update notifiers i ((notifier device).next (notifiers i) (.sql ctx query) reply)) := by
  obtain ⟨seen, hstage, hwrite⟩ := Notifier.write_of_allow hallow hquery
  have hcall : row.call device.key i query =
      ⟨w.apply row.address, if w = .connected 0 then some i else none⟩ := by
    rw [AddressRow.call, hquery, Option.elim_some]
  rw [hserial.notice i] at hwrite
  rw [hcall, Notifier.next_write reply hquery]
  apply hserial.write hstage hwrite
  intro hdown
  exact hguard (hdown ▸ hquery) seen hstage

theorem step {device : DynamicDevice} {row' : AddressRow ι} {op : Op} {answer : op.Answer}
    (hserial : Serial all start row notifiers) (hallow : (notifier device).allow (notifiers i) op)
    (htable : addressTable device row i op answer row')
    (hguard : stillAddressed device row notifiers i op answer) :
    Serial all start row'
      (Function.update notifiers i ((notifier device).next (notifiers i) op answer)) := by
  obtain ⟨hanswers, rfl⟩ := htable
  cases op with
  | sql ctx query =>
    cases query with
    | getSdInfo sdid =>
      by_cases hsdid : sdid = device.sdid
      · subst hsdid
        apply hserial.read (hallow rfl)
        · simp [notifier]
        · simp [notifier, hanswers.2 rfl, hserial.notice i]
      · apply hserial.keep <;> simp [notifier, hsdid]
    | setSDIPConfig k ip flag =>
      by_cases hkey : k = device.key
      · exact hserial.call (if_pos hkey) hallow hguard
      · have hrow : row.call device.key i (.setSDIPConfig k ip flag) = row := by
          simp [AddressRow.call, Sql.addressWrite, hkey]
        rw [AddressRow.apply, hrow]
        apply hserial.keep <;> simp [notifier, Sql.addressWrite, hkey]
    | setSDConnected k flag =>
      by_cases hkey : k = device.key
      · exact hserial.call (if_pos hkey) hallow hguard
      · have hrow : row.call device.key i (.setSDConnected k flag) = row := by
          simp [AddressRow.call, Sql.addressWrite, hkey]
        rw [AddressRow.apply, hrow]
        apply hserial.keep <;> simp [notifier, Sql.addressWrite, hkey]
    | _ => exact hserial.keep rfl rfl
  | _ => exact hserial.keep rfl rfl

end Serial

end Race

end CoreEngine.Smsd
