import CoreEngine.Smsd.AddressRace
import Mathlib.Data.Fintype.Basic
import Mathlib.Data.Finset.Card

/-!
# Notices one after the other

What the race of several notices is compared with: the same handlers, run to their end one after the
other. A notice that is handled alone is a race of one, so its effect follows from the race.
-/

namespace CoreEngine.Smsd

open Interaction
open Config (Reach)
open Procedure (may_bind may_pure may_call may_get may_ite_pos may_ite_neg may_loop)
open Program (Run)

section OneByOne

/-- The address of a device while a single notice is handled. -/
structure Solo where
  address : Address
  checking : Bool

/-- One notice at a time, under the same expectations. -/
def solo (device : DynamicDevice) : Monitor signature Solo where
  allow _ _ := True
  expect state op answer :=
    device.Answers state.address op answer ∧
    match op, answer with
    | .scriptStep, .exit ret _ _ => state.checking = true → ret = 0
    | _, _ => True
  next state op _ := match op with
    | .sql _ query =>
        { state with
          address := (query.addressWrite device.key).elim state.address (·.apply state.address) }
    | .scriptStart script => { state with checking := script.file = serialScript }
    | _ => state

/-- Handled alone, the notice takes the first address to the second one. -/
def Alone (device : DynamicDevice) (notice : Notice) (csp : Client) (address address' : Address) : Prop :=
  ∃ trace value, Run (notice.handle device.sdid csp) trace (.ret value) ∧
    (solo device).Meets ⟨address, false⟩ trace ∧
    ((solo device).after ⟨address, false⟩ trace).address = address'

/-- The notices of `order` are handled one after the other. -/
inductive OneByOne {ι : Type} (device : DynamicDevice) (notices : ι → Notice) (csps : ι → Client) :
    List ι → Address → Address → Prop
  | nil (address : Address) : OneByOne device notices csps [] address address
  | cons {i : ι} {order : List ι} {first second last : Address}
      (halone : Alone device (notices i) (csps i) first second)
      (hrest : OneByOne device notices csps order second last) :
      OneByOne device notices csps (i :: order) first last

namespace Solo

variable {device : DynamicDevice} {n : Notice} {start : Address} {csp : Client} {ctx : Ctx}

/-- A notice handled alone is a race of one. -/
def Follows (n : Notice) (start : Address) (notifier : Notifier) (state : Solo) : Prop :=
  notifier.checking = state.checking ∧
    ∃ downBy, Serial (fun _ : Unit ↦ n) start ⟨state.address, downBy⟩ fun _ ↦ notifier

theorem expect_of_follows {notifier : Notifier} {state : Solo} {op : Op} {answer : op.Answer}
    (hfollows : Follows n start notifier state) (hexpect : (solo device).expect state op answer) :
    (Smsd.notifier device).expect notifier op answer := by
  obtain ⟨hchecking, -⟩ := hfollows
  obtain ⟨hanswers, hexit⟩ := hexpect
  refine ⟨⟨state.address, hanswers⟩, ?_⟩
  cases op with
  | scriptStep =>
    cases answer with
    | call request => trivial
    | exit ret returnBuf outputBuf => exact fun hcheck ↦ hexit (hchecking ▸ hcheck)
  | _ => trivial

/-- Nobody else changes the address between the read and the write. -/
theorem stillAddressed_of_serial {row : AddressRow Unit} {notifier : Notifier} {op : Op}
    {answer : op.Answer} (hserial : Serial (fun _ : Unit ↦ n) start row fun _ ↦ notifier) :
    stillAddressed device row (fun _ ↦ notifier) () op answer := by
  cases op with
  | sql ctx query =>
    intro _ seen hstage
    by_contra hip
    obtain ⟨j, hsettled, -⟩ := hserial.ip () seen hstage (Ne.symm hip)
    rw [hstage] at hsettled
    cases hsettled
  | _ => trivial

theorem follows_next {notifier : Notifier} {state : Solo} {op : Op} {answer : op.Answer}
    (hfollows : Follows n start notifier state) (hallow : (Smsd.notifier device).allow notifier op)
    (hexpect : (solo device).expect state op answer) :
    Follows n start ((Smsd.notifier device).next notifier op answer)
      ((solo device).next state op answer) := by
  obtain ⟨hchecking, downBy, hserial⟩ := hfollows
  obtain ⟨hanswers, -⟩ := hexpect
  have hstep := hserial.step hallow ⟨hanswers, rfl⟩ (stillAddressed_of_serial hserial)
  have hupdate (g : Notifier) : Function.update (fun _ : Unit ↦ notifier) () g = fun _ ↦ g := by
    funext i
    simp
  rw [hupdate] at hstep
  have haddress : ((AddressRow.apply device.key () ⟨state.address, downBy⟩ op).address) =
      ((solo device).next state op answer).address := by
    cases op with
    | sql ctx query =>
      cases hwrite : query.addressWrite device.key <;>
        simp [AddressRow.apply, AddressRow.call, solo, hwrite]
    | _ => rfl
  constructor
  · cases op with
    | sql ctx query => exact (Notifier.checking_next_sql answer).trans hchecking
    | scriptStart script => rfl
    | _ => exact hchecking
  · rw [← haddress]
    exact ⟨_, hstep⟩

theorem order_of_settled {order : List Unit} (hnodup : order.Nodup) (hmem : () ∈ order) :
    order = [()] := by
  match order, hnodup, hmem with
  | [()], _, _ => rfl
  | () :: () :: rest, hnodup, _ => simp at hnodup

/-- A notice that is handled alone has its effect. -/
theorem eq_effect_of_alone (hsdid : IsWord device.sdid) (hip : IsWord n.ip) {address' : Address}
    (halone : Alone device n csp start address') : address' = n.effect start := by
  obtain ⟨trace, value, hrun, hmeets, rfl⟩ := halone
  have hstart : Serial (fun _ : Unit ↦ n) start ⟨start, none⟩ fun _ ↦ ⟨n, .asked, false⟩ :=
    ⟨fun _ ↦ rfl, ⟨[], by simp, by simp, rfl⟩, nofun, nofun, nofun⟩
  have hsafe := Notifier.triple_handle hsdid hip csp ⟨n, .asked, false⟩ ⟨rfl, rfl⟩
  obtain ⟨notifier, ⟨-, downBy, hserial⟩, -, hsettled⟩ := hrun.simulates hsafe
    (fun _ _ _ _ ↦ expect_of_follows) (fun _ _ _ _ ↦ follows_next) ⟨rfl, none, hstart⟩ hmeets
  obtain ⟨order, hnodup, hmem, heffects⟩ := hserial.order
  have horder : order = [()] := order_of_settled hnodup ((hmem ()).2 hsettled)
  rw [horder] at heffects
  exact heffects.symm

section Handling

variable {state : Solo} {ip : CString}

instance : Lenient (solo device) where
  expect {op} hop _ _ := by cases op <;> first | exact hop.elim | exact ⟨trivial, trivial⟩
  next {op} hop _ _ := by cases op <;> first | exact hop.elim | rfl

theorem may_ha (db : Db) (query : Sql) (initial output : query.Output)
    (hexpect : ∀ state, (solo device).expect state (.sql ctx query) ⟨0, output⟩) :
    (ha ctx db query initial).May (solo device) (fun reply _ ↦ reply.ret = 0) state := by
  apply (Program.may_bind _ _ _ _).2
  refine ⟨false, ⟨rfl, trivial⟩, ?_⟩
  exact may_retry db ⟨0, output⟩ rfl (hexpect _) rfl

theorem may_setSDIPConfig (key : SdKey) (flag : Int) (state : Solo) :
    (haSmssqlSetSDIPConfig ctx key ip flag).May (solo device) (fun reply _ ↦ reply.ret = 0) state := by
  have hexpect (state : Solo) : (solo device).expect state (.sql ctx (.setSDIPConfig key ip flag))
      (⟨0, ()⟩ : Reply Unit) := ⟨rfl, trivial⟩
  exact may_ha .sms (.setSDIPConfig key ip flag) () () hexpect

theorem may_setSDConnected (key : SdKey) (flag : Int) (state : Solo) :
    (haSmssqlSetSDConnected ctx key flag).May (solo device) (fun reply _ ↦ reply.ret = 0) state := by
  have hexpect (state : Solo) : (solo device).expect state (.sql ctx (.setSDConnected key flag))
      (⟨0, ()⟩ : Reply Unit) := ⟨rfl, trivial⟩
  exact may_ha .sms (.setSDConnected key flag) () () hexpect

theorem may_useDbCtx {α : Type} {cfd : Int} (body : Ctx → Code α) (post : α → Prop)
    (hbody : (body ctx).May (solo device) (fun value _ ↦ post value) state) :
    (useDbCtx body ⟨cfd, some ctx⟩).May (solo device)
      (fun result _ ↦ post result.1 ∧ result.2 = ⟨cfd, some ctx⟩) state := by
  apply may_get
  apply (Program.may_bind _ _ _ _).2
  exact hbody.mono fun value state hpost ↦ ⟨hpost, rfl⟩

/-- A script ends at once. -/
theorem may_script (script : Script) : (smsModPhpExecuteScript script csp).May (solo device)
    (fun result _ ↦ result.1.ret = 0 ∧ result.2 = csp) state := by
  apply may_bind
  refine may_call () ⟨trivial, trivial⟩ ?_
  apply may_loop
  apply may_bind
  exact may_call (.exit 0 none none) ⟨trivial, fun _ ↦ rfl⟩ ⟨rfl, rfl⟩

theorem may_runScript (script : Script) (failed : Int → M Unit) :
    (runScript script failed csp).May (solo device) (fun result _ ↦ result.1 = 0 ∧ result.2 = csp)
      state := by
  apply may_bind
  apply (may_script script).mono
  rintro ⟨exit, csp'⟩ state ⟨hret, rfl⟩
  exact may_ite_neg (fun hfailed ↦ hfailed hret) (may_pure ⟨hret, rfl⟩)

theorem may_writeThenLog {cfd : Int} {write : Ctx → Code (Reply Unit)} (log : Fildelog)
    (hwrite : ∀ state, (write ctx).May (solo device) (fun reply _ ↦ reply.ret = 0) state) :
    (writeThenLog write log ⟨cfd, some ctx⟩).May (solo device)
      (fun result _ ↦ result.2 = ⟨cfd, some ctx⟩) state := by
  apply may_bind
  apply (may_useDbCtx _ _ (hwrite _)).mono
  rintro ⟨written, csp'⟩ state ⟨hret, rfl⟩
  apply may_ite_neg
  · rw [hret]
    exact Notifier.not_refused_zero
  · apply may_bind
    have hlog : (sql ctx (.setLogById log)).May (solo device) (fun reply _ ↦ reply.ret = 0) state :=
      ⟨⟨0, ()⟩, ⟨rfl, trivial⟩, rfl⟩
    apply (may_useDbCtx (fun ctx ↦ sql ctx (.setLogById _)) _ hlog).mono
    rintro ⟨logged, csp'⟩ state ⟨hret, rfl⟩
    apply may_ite_neg
    · rw [hret]
      exact Notifier.not_refused_zero
    · exact may_pure rfl

theorem may_updateIPWrites (seen : Address) {cfd : Int} :
    (updateIPWrites device.sdid ip (device.record seen).sd device.interface ⟨cfd, some ctx⟩).May
      (solo device) (fun _ _ ↦ True) state := by
  unfold updateIPWrites
  by_cases hip : ip ≠ (device.record seen).sd.sdIpConfig
  · apply may_ite_pos hip
    apply may_ite_pos device.dynamic
    apply may_bind
    apply (may_writeThenLog _ (may_setSDIPConfig _ 1)).mono
    rintro ⟨done, csp'⟩ state rfl
    by_cases hdone : done.output = true
    · apply may_ite_pos hdone
      apply may_bind
      apply (may_runScript _ _).mono
      rintro ⟨ret, csp'⟩ state ⟨-, rfl⟩
      apply may_bind
      apply may_releaseBdCtx
      by_cases hret : done.ret = 0
      · exact may_ite_pos hret (may_pure trivial)
      · exact may_ite_neg hret (may_pure trivial)
    · exact may_ite_neg hdone (may_pure trivial)
  · apply may_ite_neg hip
    by_cases hzero : (device.record seen).sd.sdConnected = 0
    · apply may_ite_pos hzero
      apply may_bind
      apply (may_writeThenLog _ (may_setSDConnected _ 1)).mono
      rintro ⟨done, csp'⟩ state rfl
      by_cases hdone : done.output = true
      · apply may_ite_pos hdone
        apply may_bind
        exact may_releaseBdCtx (may_pure trivial)
      · exact may_ite_neg hdone (may_pure trivial)
    · apply may_ite_neg hzero
      apply may_bind
      exact may_releaseBdCtx (may_pure trivial)

theorem may_getSDinfo {cfd : Int} : (getSDinfo device.sdid ⟨cfd, some ctx⟩).May (solo device)
    (fun result _ ↦ (∃ seen, result.1 = ⟨0, device.record seen⟩) ∧ result.2 = ⟨cfd, some ctx⟩) state := by
  have hread : (sql ctx (.getSdInfo device.sdid)).May (solo device)
      (fun info _ ↦ ∃ seen, info = ⟨0, device.record seen⟩) state :=
    ⟨⟨0, device.record state.address⟩, ⟨⟨rfl, fun _ ↦ rfl⟩, trivial⟩, state.address, rfl⟩
  exact may_useDbCtx (fun ctx ↦ sql ctx (.getSdInfo device.sdid)) _ hread

theorem may_updateIP {cfd : Int} : (updateIP device.sdid ip ⟨cfd, some ctx⟩).May (solo device)
    (fun _ _ ↦ True) state := by
  apply may_bind
  apply may_getSDinfo.mono
  rintro ⟨info, csp'⟩ state ⟨⟨seen, rfl⟩, rfl⟩
  apply may_ite_neg (fun hfailed ↦ hfailed rfl)
  apply may_bind
  apply may_releaseBdCtx
  apply may_ite_neg (not_not.2 device.unlocked)
  have hext : (device.record seen).sdExtInterface = some device.interface := device.ext
  show ((Option.elim (device.record seen).sdExtInterface _ _ : M Int) _).May _ _ _
  rw [hext]
  apply may_bind
  have hcheck (post : Int × Client → Solo → Prop) (hpost : ∀ state, post (0, ⟨cfd, none⟩) state) :
      (genericCheckSerialNumber (device.record seen) ip ⟨cfd, none⟩).May (solo device) post state := by
    unfold genericCheckSerialNumber
    split
    · exact may_pure (hpost _)
    · apply may_bind
      apply (may_script _).mono
      rintro ⟨exit, csp'⟩ state ⟨hret, rfl⟩
      apply may_ite_neg (fun hfailed ↦ hfailed hret)
      exact may_pure (hret ▸ hpost state)
  apply hcheck
  intro state
  apply may_ite_neg (fun hfailed ↦ hfailed rfl)
  apply may_bind
  apply may_get
  apply may_ite_pos rfl
  apply may_bind
  apply may_ask (.findCtx .sms (.keeper .updateIP)) trivial ctx
  exact may_storeDbCtx _ (may_updateIPWrites seen)

theorem may_doSdIpUp (hsdid : IsWord device.sdid) (hip : IsWord ip) {cfd : Int} :
    (doSdIpUp (device.sdid ++ ' ' :: ip) ⟨cfd, some ctx⟩).May (solo device) (fun _ _ ↦ True) state := by
  unfold doSdIpUp
  rw [cut_pair hsdid]
  apply may_bind
  apply may_ask (.countUp _) trivial ()
  apply may_bind
  apply may_get
  apply may_bind
  apply may_ask (.socketClose _) trivial (0 : Int)
  apply may_ite_neg hip.1
  apply may_bind
  apply may_updateIP.mono
  rintro ⟨result, csp'⟩ state -
  by_cases hresult : result ≠ 0
  · apply may_ite_pos hresult
    apply may_bind
    exact may_ask (.countUp _) trivial () (may_pure trivial)
  · exact may_ite_neg hresult (may_pure trivial)

theorem may_writePieces (pieces : List CString) :
    (writePieces pieces csp).May (solo device) (fun _ _ ↦ True) state := by
  induction pieces with
  | nil =>
    apply may_bind
    exact may_call () ⟨trivial, trivial⟩ trivial
  | cons piece pieces ih =>
    apply may_bind
    apply may_get
    refine may_call (piece.length : Int) ⟨trivial, trivial⟩ ?_
    exact may_ite_neg (fun hshort ↦ hshort rfl) ih

theorem may_ipDownWrites (seen : Address) {cfd : Int} :
    (ipDownWrites ip (device.record seen).sd ⟨cfd, some ctx⟩).May (solo device)
      (fun result _ ↦ result.1.output = true) state := by
  unfold ipDownWrites
  by_cases hconnected : (device.record seen).sd.sdConnected ≠ 0
  · apply may_ite_pos hconnected
    by_cases hip : ip = (device.record seen).sd.sdIpConfig ∨ (device.record seen).sd.sdIpConfig = []
    · apply may_ite_pos hip
      apply may_bind
      have hlog : (sql ctx (.setLogById (ipdownLog (device.record seen).sd))).May (solo device)
          (fun reply _ ↦ reply.ret = 0) state := ⟨⟨0, ()⟩, ⟨rfl, trivial⟩, rfl⟩
      apply (may_useDbCtx (fun ctx ↦ sql ctx (.setLogById _)) _ hlog).mono
      rintro ⟨logged, csp'⟩ state ⟨hret, rfl⟩
      apply may_ite_neg (hret ▸ Notifier.not_refused_zero)
      apply may_bind
      apply (may_useDbCtx _ _ (may_setSDConnected _ 0 _)).mono
      rintro ⟨written, csp'⟩ state ⟨hret, rfl⟩
      exact may_ite_neg (hret ▸ Notifier.not_refused_zero) (may_pure rfl)
    · exact may_ite_neg hip (may_pure rfl)
  · exact may_ite_neg hconnected (may_pure rfl)

theorem may_doIpDown (hsdid : IsWord device.sdid) (hip : IsWord ip) {cfd : Int} :
    (doIpDown (device.sdid ++ ' ' :: ip) ⟨cfd, some ctx⟩).May (solo device) (fun _ _ ↦ True) state := by
  rw [doIpDown_pair hsdid hip]
  apply may_bind
  apply may_ask (.countUp _) trivial ()
  apply may_bind
  apply may_getSDinfo.mono
  rintro ⟨info, csp'⟩ state ⟨⟨seen, rfl⟩, rfl⟩
  apply may_ite_neg (fun hfailed ↦ hfailed rfl)
  apply may_bind
  apply (may_ipDownWrites seen).mono
  rintro ⟨done, csp'⟩ state hdone
  apply may_ite_pos hdone
  apply may_bind
  apply may_bind
  apply may_get
  by_cases hopen : decide (0 < csp'.cfd) = true
  · apply may_ite_pos hopen
    exact (may_writePieces _).mono fun _ _ _ ↦ may_pure trivial
  · exact may_ite_neg hopen (may_pure trivial)

theorem may_handle (hsdid : IsWord device.sdid) (hip : IsWord n.ip) {cfd : Int} :
    (n.handle device.sdid ⟨cfd, some ctx⟩).May (solo device) (fun _ _ ↦ True) state := by
  cases n with
  | up ip => exact may_doSdIpUp hsdid hip
  | down ip => exact may_doIpDown hsdid hip

end Handling

/-- Handled alone, a notice has its effect, and no other one. -/
theorem alone_iff (hsdid : IsWord device.sdid) (hip : IsWord n.ip) {cfd : Int} {address' : Address} :
    Alone device n ⟨cfd, some ctx⟩ start address' ↔ address' = n.effect start := by
  constructor
  · exact eq_effect_of_alone hsdid hip
  · rintro rfl
    obtain ⟨trace, value, hrun, hmeets, -⟩ := (may_handle hsdid hip).exists_run
    have halone : Alone device n ⟨cfd, some ctx⟩ start
        ((solo device).after ⟨start, false⟩ trace).address := ⟨trace, value, hrun, hmeets, rfl⟩
    rwa [eq_effect_of_alone hsdid hip halone] at halone

theorem oneByOne_iff {ι : Type} {all : ι → Notice} {cfds : ι → Int} {ctxs : ι → Ctx}
    (hsdid : IsWord device.sdid) (hip : ∀ i, IsWord (all i).ip) {order : List ι} {address' : Address} :
    OneByOne device all (fun i ↦ ⟨cfds i, some (ctxs i)⟩) order start address' ↔
      address' = effects all order start := by
  induction order generalizing start with
  | nil =>
    constructor
    · rintro ⟨⟩
      rfl
    · rintro rfl
      exact .nil _
  | cons i order ih =>
    constructor
    · rintro ⟨⟩
      next second halone hrest =>
      rw [alone_iff hsdid (hip i)] at halone
      rw [ih.1 hrest, halone]
      rfl
    · rintro rfl
      exact .cons ((alone_iff hsdid (hip i)).2 rfl) (ih.2 rfl)

end Solo

variable {ι : Type} [DecidableEq ι]

/-- Whenever an IPDOWN disconnects the device while the address is still the one it has read, the
outcome of all notices is the one of handling them one after the other in some order, and the device
is not left disconnected by an IPDOWN for another address. -/
theorem notices_serialise {device : DynamicDevice} {all : ι → Notice} {cfds : ι → Int}
    {ctxs : ι → Ctx} {start : Address} (hsdid : IsWord device.sdid) (hip : ∀ i, IsWord (all i).ip)
    {config : Config signature ι (AddressRow ι) Notifier (Int × Client)}
    (hreach : Reach (addressTable device) (notifier device)
      (fun row notifiers i op answer ↦ serialsMatch row notifiers i op answer ∧
        stillAddressed device row notifiers i op answer)
      (notices device all cfds ctxs start) config)
    (hreturned : ∀ i, ∃ value, config.tasks i = .ret value) :
    (∃ order : List ι, order.Nodup ∧ (∀ i, i ∈ order) ∧
      ∀ address, OneByOne device all (fun i ↦ ⟨cfds i, some (ctxs i)⟩) order start address ↔
        address = config.shared.address) ∧
    ∀ i, config.shared.downBy = some i → config.shared.address.ip ≠ [] →
      (all i).ip = config.shared.address.ip := by
  have hinvariant : Serial all start config.shared config.ghosts ∧ ∀ i, (config.tasks i).Safe
      (notifier device) (fun _ notifier ↦ notifier.stage = .settled) (config.ghosts i) := by
    refine hreach.invariant ?_ ?_ ?_ fun i ↦ ?_
    · intro row notifiers i op answer row' _ htable hguard
      exact ⟨⟨row.address, htable.1⟩, hguard.1⟩
    · intro row notifiers i op answer row' hserial hallow htable hguard
      exact hserial.step hallow htable hguard.2
    · exact ⟨fun _ ↦ rfl, ⟨[], by simp, by simp [notices], rfl⟩, nofun, nofun, nofun⟩
    · have hsafe := Notifier.triple_handle hsdid (hip i) ⟨cfds i, some (ctxs i)⟩
        ⟨all i, .asked, false⟩ ⟨rfl, rfl⟩
      exact hsafe.mono fun _ _ hat ↦ hat.2
  obtain ⟨hserial, hsafe⟩ := hinvariant
  have hsettled (i : ι) : (config.ghosts i).stage = .settled := by
    obtain ⟨value, hvalue⟩ := hreturned i
    have hpost := hsafe i
    rw [hvalue] at hpost
    exact hpost
  constructor
  · obtain ⟨order, hnodup, hmem, heffects⟩ := hserial.order
    refine ⟨order, hnodup, fun i ↦ (hmem i).2 (hsettled i), fun address ↦ ?_⟩
    rw [Solo.oneByOne_iff hsdid hip, heffects]
  · intro i hdown hne
    exact (hserial.down i hdown).resolve_left hne

end OneByOne

section Simulation

/-- The outputs of the calls that the handlers of notices make. -/
def AddressRow.output {ι : Type} (device : DynamicDevice) (row : AddressRow ι) :
    (query : Sql) → Option query.Output
  | .getSdInfo _ => some (device.record row.address)
  | .setLogById _ => some ()
  | .setSDIPConfig _ _ _ => some ()
  | .setSDConnected _ _ => some ()
  | _ => none

/-- A database that answers from the row, and scripts that succeed at once. -/
def AddressRow.respond {ι : Type} (device : DynamicDevice) (row : AddressRow ι) (i : ι) (op : Op) :
    Option (op.Answer × AddressRow ι) :=
  match op with
  | .sql _ query => (row.output device query).map fun output ↦
      (⟨0, output⟩, row.call device.key i query)
  | op => ((Sim.single [] []).respond 0 op).map fun answer ↦ (answer.1, row)

theorem AddressRow.table_of_respond {ι : Type} {device : DynamicDevice} {row row' : AddressRow ι}
    {i : ι} {op : Op} {answer : op.Answer}
    (hrespond : AddressRow.respond device row i op = some (answer, row')) :
    addressTable device row i op answer row' := by
  cases op with
  | sql ctx query =>
    obtain ⟨output, houtput, hanswer⟩ := Option.map_eq_some_iff.1 hrespond
    cases hanswer
    refine ⟨?_, rfl⟩
    cases query with
    | getSdInfo sdid => exact ⟨rfl, fun _ ↦ (Option.some.inj houtput).symm⟩
    | _ => rfl
  | readShutdown =>
    cases hrespond
    exact ⟨rfl, rfl⟩
  | _ =>
    simp only [AddressRow.respond, Option.map_eq_some_iff] at hrespond
    obtain ⟨pair, -, hanswer⟩ := hrespond
    cases hanswer
    exact ⟨trivial, rfl⟩

theorem serialsMatch_of_respond {ι : Type} {device : DynamicDevice} {row row' : AddressRow ι}
    {notifiers : ι → Notifier} {i : ι} {op : Op} {answer : op.Answer}
    (hrespond : AddressRow.respond device row i op = some (answer, row')) :
    serialsMatch row notifiers i op answer := by
  cases op with
  | scriptStep =>
    cases hrespond
    exact fun _ ↦ rfl
  | _ => trivial

def plainDynamicDevice : DynamicDevice where
  sdid := "ABC123".toList
  info := Sim.plainDevice
  interface := ⟨"10.0.0.1".toList, "D".toList⟩
  ext := rfl
  dynamic := by decide
  unlocked := rfl

/-- An IPDOWN for the address in the database, and an IPUP with a new one. -/
def upAndDown : Bool → Notice
  | true => .up "10.0.0.2".toList
  | false => .down "10.0.0.1".toList

def upAndDownStart : Config signature Bool (AddressRow Bool) Notifier (Int × Client) :=
  notices plainDynamicDevice upAndDown (fun _ ↦ 7) (fun i ↦ ⟨.sms, if i then 1 else 0⟩)
    ⟨"10.0.0.1".toList, 1⟩

theorem upAndDown_isWord (i : Bool) : IsWord (upAndDown i).ip := by
  cases i with
  | true => exact ⟨by decide, by decide⟩
  | false => exact ⟨by decide, by decide⟩

theorem returned_of_results {config : Config signature Bool (AddressRow Bool) Notifier (Int × Client)}
    (hup : (config.tasks true).result?.isSome = true)
    (hdown : (config.tasks false).result?.isSome = true) (i : Bool) :
    ∃ value, config.tasks i = .ret value := by
  have hresult : (config.tasks i).result?.isSome = true := by
    cases i with
    | true => exact hup
    | false => exact hdown
  obtain ⟨value, hvalue⟩ := Option.isSome_iff_exists.1 hresult
  exact ⟨value, Program.eq_ret_of_result? hvalue⟩

/-- In either order the device ends up connected. -/
theorem effects_upAndDown {order : List Bool} (hnodup : order.Nodup) (hall : ∀ i, i ∈ order) :
    effects upAndDown order ⟨"10.0.0.1".toList, 1⟩ = ⟨"10.0.0.2".toList, 1⟩ := by
  have hlength : order.length = 2 := by
    have huniv : order.toFinset = Finset.univ := by
      ext i
      simp [hall i]
    rw [← List.toFinset_card_of_nodup hnodup, huniv]
    rfl
  obtain ⟨first, second, rfl⟩ := List.length_eq_two.1 hlength
  cases first <;> cases second
  · simp at hnodup
  · decide
  · decide
  · simp at hnodup

/-- A stricter test than `stillAddressed`: whatever a task calls, it has seen the address that is there. -/
def seenAddress (row : AddressRow Bool) (notifiers : Bool → Notifier) (i : Bool) : Op → Bool
  | .sql _ _ => ∀ seen ∈ (notifiers i).seen?, row.address.ip = seen.ip
  | _ => true

theorem stillAddressed_of_seenAddress {row : AddressRow Bool} {notifiers : Bool → Notifier} {i : Bool} {op : Op}
    {answer : op.Answer} (hseen : seenAddress row notifiers i op = true) :
    stillAddressed plainDynamicDevice row notifiers i op answer := by
  cases op with
  | sql ctx query =>
    intro _ seen hstage
    apply of_decide_eq_true hseen
    simp [Notifier.seen?, hstage]
  | _ => trivial

/-- The device loses its address before it gets a new one. -/
theorem upAndDown_serialise :
    ∃ config : Config signature Bool (AddressRow Bool) Notifier (Int × Client),
      Reach (addressTable plainDynamicDevice) (notifier plainDynamicDevice)
        (fun row notifiers i op answer ↦ serialsMatch row notifiers i op answer ∧
          stillAddressed plainDynamicDevice row notifiers i op answer)
        upAndDownStart config ∧
      (∀ i, ∃ value, config.tasks i = .ret value) ∧
      (∃ order : List Bool, order.Nodup ∧ (∀ i, i ∈ order) ∧
        ∀ address, OneByOne plainDynamicDevice upAndDown
          (fun i ↦ ⟨7, some ⟨.sms, if i then 1 else 0⟩⟩) order ⟨"10.0.0.1".toList, 1⟩ address ↔
            address = config.shared.address) ∧
      ∀ i, config.shared.downBy = some i → config.shared.address.ip ≠ [] →
        (upAndDown i).ip = config.shared.address.ip := by
  have hrun : ((Config.run (notifier plainDynamicDevice) (AddressRow.respond plainDynamicDevice) seenAddress 2
      (List.replicate 7 false ++ List.replicate 15 true) upAndDownStart).map
      fun config ↦ ((config.tasks true).result?.isSome, (config.tasks false).result?.isSome)) =
      some (true, true) := by
    decide +kernel
  obtain ⟨config, hconfig, hpair⟩ := Option.map_eq_some_iff.1 hrun
  obtain ⟨hup, hdown⟩ := Prod.mk.inj hpair
  have hreach : Reach (addressTable plainDynamicDevice) (notifier plainDynamicDevice)
      (fun row notifiers i op answer ↦ serialsMatch row notifiers i op answer ∧
        stillAddressed plainDynamicDevice row notifiers i op answer) upAndDownStart config := by
    apply Config.reach_run (fun _ _ _ _ _ ↦ AddressRow.table_of_respond) _ .start hconfig
    intro row notifiers i op answer row' hrespond hcheck
    exact ⟨serialsMatch_of_respond hrespond, stillAddressed_of_seenAddress hcheck⟩
  have hreturned := returned_of_results hup hdown
  exact ⟨config, hreach, hreturned,
    notices_serialise ⟨by decide, by decide⟩ upAndDown_isWord hreach hreturned⟩

/-- An IPDOWN that has read the old address disconnects the device after an IPUP has given it a new
one. No order of the two explains that. -/
theorem stale_down_overrides_up :
    ∃ config : Config signature Bool (AddressRow Bool) Notifier (Int × Client),
      Reach (addressTable plainDynamicDevice) (notifier plainDynamicDevice) serialsMatch
        upAndDownStart config ∧
      (∀ i, ∃ value, config.tasks i = .ret value) ∧
      (¬∃ order : List Bool, order.Nodup ∧ (∀ i, i ∈ order) ∧
        OneByOne plainDynamicDevice upAndDown
          (fun i ↦ ⟨7, some ⟨.sms, if i then 1 else 0⟩⟩) order ⟨"10.0.0.1".toList, 1⟩
            config.shared.address) ∧
      config.shared.downBy = some false ∧ config.shared.address.connected = 0 ∧
      config.shared.address.ip ≠ [] ∧ (upAndDown false).ip ≠ config.shared.address.ip := by
  have hrun : ((Config.run (notifier plainDynamicDevice) (AddressRow.respond plainDynamicDevice)
      (fun _ _ _ _ ↦ true) 2
      (List.replicate 4 false ++ List.replicate 15 true ++ List.replicate 3 false) upAndDownStart).map
      fun config ↦ ((config.tasks true).result?.isSome, (config.tasks false).result?.isSome,
        config.shared.address, config.shared.downBy)) =
      some (true, true, ⟨"10.0.0.2".toList, 0⟩, some false) := by
    decide +kernel
  obtain ⟨config, hconfig, hresults⟩ := Option.map_eq_some_iff.1 hrun
  obtain ⟨hup, hdown, haddress, hdownBy⟩ := by simpa only [Prod.mk.injEq] using hresults
  have hreach : Reach (addressTable plainDynamicDevice) (notifier plainDynamicDevice) serialsMatch
      upAndDownStart config :=
    Config.reach_run (fun _ _ _ _ _ ↦ AddressRow.table_of_respond)
      (fun _ _ _ _ _ _ hrespond _ ↦ serialsMatch_of_respond hrespond) .start hconfig
  refine ⟨config, hreach, returned_of_results hup hdown, ?_, hdownBy, ?_⟩
  · rintro ⟨order, hnodup, hall, honeByOne⟩
    rw [Solo.oneByOne_iff ⟨by decide, by decide⟩ upAndDown_isWord, haddress,
      effects_upAndDown hnodup hall] at honeByOne
    cases honeByOne
  · rw [haddress]
    decide

end Simulation

end CoreEngine.Smsd
