import CoreEngine.Smsd.Address

/-!
# Addresses announced to DNS

A sequence of SDIPUP requests on one device, any call of which may fail: the address that the database
holds after each of them, and the last one that `dnsUpdate` was called with.
-/

namespace CoreEngine.Smsd

open Interaction
open Procedure (lift Stable Triple triple_bind triple_ite triple_call triple_pure triple_lift)
open Program (Only only_perform)

/-- The address that `dnsUpdate` announces for a device when it starts this script. -/
def Script.announces (sdid : CString) (script : Script) : Option CString :=
  if script.file = "dns_update.php".toList ∧ script.sdid = sdid then
    script.globals.findSome? fun
      | .str name value => if name = "ip".toList then value else none
      | _ => none
  else none

/-- `sd_ip_config`, whether it has changed, the last address announced since the first change, and the
address that the current request has changed it to without announcing it. -/
structure Announced where
  ip : CString
  changed : Bool
  announced : Option CString
  pending : Option CString
  deriving DecidableEq, Repr

namespace Announced

/-- A device whose address has not changed yet. -/
def initial (ip : CString) : Announced := ⟨ip, false, none, none⟩

/-- The next request begins. -/
def begin (g : Announced) : Announced := { g with pending := none }

def write (g : Announced) (ip : CString) : Announced :=
  { g with ip := ip, changed := true, pending := some ip }

def announce (g : Announced) (ip : CString) : Announced :=
  { g with
    announced := if g.changed then some ip else g.announced
    pending := if g.pending = some ip then none else g.pending }

/-- What has changed is announced, and announced correctly. -/
def Settled (g : Announced) : Prop := g.pending = none ∧ (g.changed = true → g.announced = some g.ip)

end Announced

/-- Follows the requests on a device. Lookups return its record, the call that writes an address has one
of its documented results, and `condition` is what the log calls are expected to return. -/
def announcing (sdid : CString) (key : SdKey) (condition : Announced → Int → Prop) :
    Monitor signature Announced where
  allow _ _ := True
  expect g op answer := match op, answer with
    | .sql _ (.getSdInfo s), reply => s = sdid → reply.ret = 0 →
        reply.output.sd.key = key ∧ reply.output.sd.sdIpConfig = g.ip
    | .sql _ (.setSDIPConfig ..), reply => reply.ret = 0 ∨ reply.ret = errDbFailed ∨
        reply.ret = errDbNotfound ∨ reply.ret = errDbConnectionLost
    | .sql _ (.setLogById _), reply => condition g reply.ret
    | _, _ => True
  next g op answer := match op, answer with
    | .sql _ (.setSDIPConfig k ip _), reply => if k = key ∧ reply.ret = 0 then g.write ip else g
    | .scriptStart script, _ => (script.announces sdid).elim g g.announce
    | _, _ => g

/-- The log is not refused once the address has changed. -/
def Logged (g : Announced) (ret : Int) : Prop := g.pending.isSome = true → ¬refused ret

namespace Announced

variable {sdid : CString} {key : SdKey} {condition : Announced → Int → Prop} {inv : Client → Announced → Prop}

section Disciplines

/-- Operations that neither write an address nor start a script. -/
def Aside : Op → Prop
  | .sql _ (.setSDIPConfig ..) | .scriptStart _ => False
  | _ => True

theorem ignores {op : Op} (hop : Aside op) : (announcing sdid key condition).Ignores op := by
  intro g
  cases op with
  | sql ctx query => cases query <;> first | exact hop.elim | exact ⟨trivial, fun _ ↦ rfl⟩
  | _ => first | exact hop.elim | exact ⟨trivial, fun _ ↦ rfl⟩

theorem ignores_pool (op : Op) (hop : op.OnPool) : (announcing sdid key condition).Ignores op := by
  apply ignores
  cases op <;> first | exact hop.elim | trivial

instance : PlainDiscipline (announcing sdid key condition) inv :=
  plainDiscipline_of_ignores fun op hop ↦ ignores_pool op (Roomy.plain hop)

instance : CountDiscipline (announcing sdid key condition) inv := countDiscipline_of_ignores fun _ ↦ ignores trivial

instance : Neutral (announcing sdid key condition) where
  allow_sql _ _ _ := trivial
  ignores_shutdown := ignores trivial
  ignores_allocate _ _ := ignores trivial
  failed {g ctx query reply} hret := by
    cases query with
    | setSDIPConfig k ip flag => exact if_neg fun hboth ↦ hret hboth.2
    | _ => rfl

variable {pre : Announced → Prop}

instance : SocketDiscipline (announcing sdid key condition) fun _ ↦ pre :=
  socketDiscipline_of_ignores (fun op hop ↦ ignores (by cases op <;> first | exact hop.elim | trivial))
    fun _ _ _ hpre ↦ hpre

instance : Stable (announcing sdid key condition) (fun _ ↦ pre) releaseBdCtx :=
  stable_releaseBdCtx_of_keeps (fun _ _ _ hpre ↦ hpre) fun op hop ↦ (ignores_pool op hop).keeps

instance (keeper : Keeper) :
    Stable (announcing sdid key condition) (fun _ ↦ pre) (ensureDbCtx keeper) :=
  stable_ensureDbCtx_of_keeps (fun _ _ _ hpre ↦ hpre) (fun op hop ↦ (ignores_pool op hop).keeps) keeper

theorem stable_smsBdSetLog (info : SdInfo) (message level reference : Option CString) :
    Stable (announcing sdid key condition) inv (smsBdSetLog info message level reference) := by
  have hlift {α : Type} (code : Code α) [hcode : Only signature Aside code] :
      Stable (announcing sdid key condition) inv (lift code) :=
    Procedure.stable_lift (hcode.safe_of_ignores fun _ ↦ ignores)
  have hfind : Only signature Aside (findCtx .sms .smsBdSetLog) := only_perform trivial
  have hrelease (ctx : Option Ctx) : Only signature Aside (releaseCtx ctx) := only_perform trivial
  have hlog (ctx : Ctx) (log : Fildelog) : Only signature Aside (sql ctx (.setLogById log)) :=
    only_perform trivial
  unfold smsBdSetLog withCtx
  infer_instance

/-- A script without a client changes no address. -/
theorem triple_executeScript {script : Script} {post : Announced → Prop} (hcsp : script.hasCsp = false)
    (hstart : ∀ g, pre g → post ((script.announces sdid).elim g g.announce)) :
    Triple (announcing sdid key condition) (fun _ ↦ pre) (smsModPhpExecuteScript script) fun _ _ ↦ post := by
  have hbegin : Triple (announcing sdid key condition) (fun _ : Client ↦ pre) (lift (ask (.scriptStart script)))
      fun _ _ ↦ post :=
    triple_call (fun _ _ _ ↦ trivial) fun _ g _ hpre _ ↦ hstart g hpre
  have hstep : Triple (announcing sdid key condition) (fun _ : Client ↦ post) (lift (ask .scriptStep))
      fun step _ g ↦ step.elim (fun _ ↦ post g) fun _ ↦ post g := by
    refine triple_call (fun _ _ _ ↦ trivial) fun _ g step hpost _ ↦ ?_
    cases step with
    | call request => exact hpost
    | exit ret returnBuf outputBuf => exact hpost
  have hcall (request : PhpCall) : Triple (announcing sdid key condition) (fun _ : Client ↦ post)
      (callPhp (request.csp && script.hasCsp) (if request.sdInfo then script.sdInfo else none)
        request.function) fun _ _ ↦ post := by
    rw [hcsp, Bool.and_false]
    exact (stable_callPhp_false stable_smsBdSetLog _ _).triple
  have hanswer (value : PhpValue) : Stable (announcing sdid key condition) (fun _ : Client ↦ post)
      (lift (ask (.phpReturn value))) := stable_ask_of_ignores (ignores trivial)
  exact Smsd.triple_executeScript hbegin hstep hcall fun value ↦ (hanswer value).triple

theorem triple_runScript {script : Script} {post : Announced → Prop} (hcsp : script.hasCsp = false)
    (hstart : ∀ g, pre g → post ((script.announces sdid).elim g g.announce)) :
    Triple (announcing sdid key condition) (fun _ ↦ pre) (runScript script ignoreFailure) fun _ _ ↦ post := by
  apply triple_bind (triple_executeScript hcsp hstart)
  intro exit
  have hend : Stable (announcing sdid key condition) (fun _ ↦ post) (do
      if exit.ret ≠ 0 then ignoreFailure exit.ret
      pure exit.ret : M Int) := by
    unfold ignoreFailure
    infer_instance
  exact hend.triple

end Disciplines

section Requests

variable {ip : CString} {info : SdInfo}

theorem triple_checkSerial (info : SdInfo) (ip : CString) {pre : Announced → Prop} :
    Triple (announcing sdid key condition) (fun _ ↦ pre) (genericCheckSerialNumber info ip)
      fun _ _ ↦ pre := by
  apply triple_ite
  · exact fun _ ↦ triple_pure _ fun _ _ hpre ↦ hpre
  · intro _
    apply triple_runScript rfl
    exact fun _ hpre ↦ hpre

/-- `dnsUpdate` announces the address that is pending. -/
theorem triple_dnsUpdate : Triple (announcing sdid key condition)
    (fun _ g ↦ g.ip = ip ∧ g.changed = true ∧ g.pending = some ip) (dnsUpdate sdid ip) fun _ _ g ↦ g.Settled := by
  apply triple_runScript rfl
  rintro g ⟨hip, hchanged, hpending⟩
  have hannounces : Script.announces sdid ⟨sdid, "smsd".toList, "dns_update.php".toList,
      [str "sdid" sdid, str "ip" ip]⟩ = some ip := if_pos ⟨rfl, rfl⟩
  rw [hannounces]
  simp [Settled, announce, hip, hchanged, hpending]

/-- The record that is read holds the address of the device. -/
theorem triple_getSDinfo : Triple (announcing sdid key condition) (fun _ g ↦ g.Settled) (getSDinfo sdid)
    fun info _ g ↦ g.Settled ∧ (info.ret = 0 → info.output.sd.key = key ∧ info.output.sd.sdIpConfig = g.ip) := by
  apply triple_useDbCtx_of_pool ignores_pool
  intro ctx g hsettled
  exact ⟨trivial, fun reply hreply ↦ ⟨hsettled, hreply rfl⟩⟩

/-- The call that writes the address: it takes effect, or is refused. -/
theorem triple_setSDIPConfig (flag : Int) : Triple (announcing sdid key condition) (fun _ g ↦ g.Settled)
    (useDbCtx fun ctx ↦ haSmssqlSetSDIPConfig ctx key ip flag) fun written _ g ↦
      (refused written.ret ∧ g.Settled) ∨
        (¬refused written.ret ∧ g.ip = ip ∧ g.changed = true ∧ g.pending = some ip) := by
  apply triple_useDbCtx_of_pool ignores_pool
  intro ctx g hsettled
  apply safe_ha_of_neutral
  · rintro ⟨ret, output⟩ _ hret
    obtain rfl : ret = 0 := hret
    refine .inr ⟨(by decide : ¬refused 0), ?_⟩
    have hnext : (announcing sdid key condition).next g (.sql ctx (.setSDIPConfig key ip flag)) ⟨0, output⟩ =
        g.write ip := if_pos ⟨rfl, rfl⟩
    rw [hnext]
    exact ⟨rfl, rfl, rfl⟩
  · rintro ⟨ret, output⟩ hret hreply
    refine .inl ⟨?_, hsettled⟩
    rcases hreply with hfailed | ⟨hexpect, hlost⟩
    · exact .inl hfailed
    · rcases hexpect with hzero | hfailed | hnotfound | hconnection
      · exact absurd hzero hret
      · exact .inl hfailed
      · exact .inr hnotfound
      · exact absurd hconnection hlost

/-- The log that must not be refused. -/
theorem triple_setLog (log : Fildelog) {pre : Announced → Prop} : Triple (announcing sdid key condition)
    (fun _ ↦ pre) (useDbCtx fun ctx ↦ sql ctx (.setLogById log)) fun logged _ g ↦
      condition g logged.ret ∧ pre g := by
  apply triple_useDbCtx_of_pool ignores_pool
  intro ctx g hpre
  exact ⟨trivial, fun reply hreply ↦ ⟨hreply, hpre⟩⟩

theorem triple_writeAddress (log : Fildelog) : Triple (announcing sdid key Logged) (fun _ g ↦ g.Settled)
    (writeThenLog (haSmssqlSetSDIPConfig · key ip 1) log) fun done _ g ↦
      (done.output = false ∧ g.Settled) ∨
        (done.output = true ∧ g.ip = ip ∧ g.changed = true ∧ g.pending = some ip) := by
  apply triple_bind (triple_setSDIPConfig 1)
  intro written
  apply triple_ite
  · intro hrefused
    apply triple_pure
    rintro _ g (hpost | hpost)
    · exact .inl ⟨rfl, hpost.2⟩
    · exact absurd hrefused hpost.1
  · intro hrefused
    apply triple_bind (triple_setLog log)
    intro logged
    apply triple_ite
    · intro hlog
      apply triple_pure
      rintro _ g ⟨hlogged, hpost | hpost⟩
      · exact absurd hpost.1 hrefused
      · exact absurd hlog (hlogged (by rw [hpost.2.2.2]; rfl))
    · intro _
      apply triple_pure
      rintro _ g ⟨_, hpost | hpost⟩
      · exact absurd hpost.1 hrefused
      · exact .inr ⟨rfl, hpost.2⟩

theorem stable_setConnected (log : Fildelog) {pre : Announced → Prop} (flag : Int) :
    Stable (announcing sdid key condition) (fun _ ↦ pre)
      (writeThenLog (haSmssqlSetSDConnected · key flag) log) := by
  have hwrite : Stable (announcing sdid key condition) (fun _ ↦ pre)
      (useDbCtx fun ctx ↦ haSmssqlSetSDConnected ctx key flag) := by
    constructor
    apply triple_useDbCtx_of_pool ignores_pool
    intro ctx g hpre
    apply safe_ha_of_neutral
    · exact fun _ _ _ ↦ hpre
    · exact fun _ _ _ ↦ hpre
  have hlog : Stable (announcing sdid key condition) (fun _ ↦ pre)
      (useDbCtx fun ctx ↦ sql ctx (.setLogById log)) :=
    ⟨(triple_setLog log).conseq (fun _ _ hpre ↦ hpre) fun _ _ _ hpost ↦ hpost.2⟩
  unfold writeThenLog
  infer_instance

theorem triple_updateIPWrites {sd : SdLike} (hkey : sd.key = key) (interface : SdInterface) :
    Triple (announcing sdid key Logged) (fun _ g ↦ g.Settled) (updateIPWrites sdid ip sd interface)
      fun _ _ g ↦ g.Settled := by
  subst hkey
  have hconnected : Stable (announcing sdid sd.key Logged) (fun _ g ↦ g.Settled)
      (writeThenLog (haSmssqlSetSDConnected · sd.key 1) (ipupLog sd interface ip)) := stable_setConnected _ 1
  have hlast (done : Reply Bool) : Stable (announcing sdid sd.key Logged) (fun _ g ↦ g.Settled) (do
      releaseBdCtx
      if done.ret = 0 then pure ipchanged else pure done.ret : M Int) := inferInstance
  apply triple_ite
  · intro _
    apply triple_ite
    · intro _
      apply triple_bind (triple_writeAddress (ipupDynLog sd ip))
      intro done
      apply triple_ite
      · intro hdone
        refine (triple_bind triple_dnsUpdate fun _ ↦ (hlast done).triple).conseq ?_ fun _ _ _ hpost ↦ hpost
        rintro _ g (hpost | hpost)
        · rw [hdone] at hpost
          exact absurd hpost.1 (by decide)
        · exact hpost.2
      · intro hdone
        apply triple_pure
        rintro _ g (hpost | hpost)
        · exact hpost.2
        · exact absurd hpost.1 hdone
    · exact fun _ ↦ Stable.triple
  · intro _
    exact Stable.triple

theorem triple_updateIP : Triple (announcing sdid key Logged) (fun _ g ↦ g.Settled) (updateIP sdid ip)
    fun _ _ g ↦ g.Settled := by
  apply triple_bind triple_getSDinfo
  intro info
  apply triple_ite
  · exact fun _ ↦ triple_pure _ fun _ _ hpost ↦ hpost.1
  · intro hfound
    have hret : info.ret = 0 := not_not.1 hfound
    by_cases hkey : info.output.sd.key = key
    · have hwrites (interface : SdInterface) : Triple (announcing sdid key Logged) (fun _ g ↦ g.Settled) (do
          let ret ← genericCheckSerialNumber info.output ip
          if ret ≠ 0 then pure ret else do
            ensureDbCtx .updateIP
            updateIPWrites sdid ip info.output.sd interface : M Int) fun _ _ g ↦ g.Settled := by
        apply triple_bind (triple_checkSerial info.output ip)
        intro ret
        apply triple_ite
        · exact fun _ ↦ triple_pure _ fun _ _ hpost ↦ hpost
        · intro _
          have hensure : Stable (announcing sdid key Logged) (fun _ g ↦ g.Settled) (ensureDbCtx .updateIP) :=
            inferInstance
          exact triple_bind hensure.triple fun _ ↦ triple_updateIPWrites hkey interface
      have hrelease : Stable (announcing sdid key Logged) (fun _ g ↦ g.Settled) releaseBdCtx := inferInstance
      refine (triple_bind hrelease.triple fun _ ↦ ?_).conseq (fun _ _ hpost ↦ hpost.1) fun _ _ _ hpost ↦ hpost
      apply triple_ite
      · exact fun _ ↦ triple_pure _ fun _ _ hpost ↦ hpost
      · intro _
        cases info.output.sdExtInterface with
        | none => exact triple_pure _ fun _ _ hpost ↦ hpost
        | some interface => exact hwrites interface
    · exact fun _ _ hpost ↦ absurd (hpost.2 hret).1 hkey

/-- One request, once the log is not refused. -/
theorem triple_doSdIpUp (hsdid : ' ' ∉ sdid) : Triple (announcing sdid key Logged) (fun _ g ↦ g.Settled)
    (doSdIpUp (sdid ++ ' ' :: ip)) fun _ _ g ↦ g.Settled := by
  unfold doSdIpUp
  rw [cut_append hsdid]
  apply triple_bind Stable.triple
  intro _
  apply triple_bind Stable.triple
  intro _
  apply triple_ite
  · exact fun _ ↦ triple_pure _ fun _ _ hpost ↦ hpost
  · intro _
    apply triple_bind triple_updateIP
    intro result
    exact Stable.triple

theorem triple_dispatch {va : VerbAction} (hva : va ∈ verbTab) (hverb : va.doVerb = .doSdIpUp)
    (hsdid : ' ' ∉ sdid) : Triple (announcing sdid key Logged) (fun _ g ↦ g.Settled)
      (dispatch va (sdid ++ ' ' :: ip)) fun _ _ g ↦ g.Settled := by
  have hparams : va.hasParams = 1 := by
    revert va
    decide
  apply triple_dispatch_of_pool ignores_pool hparams
  · intro _
    rw [hverb]
    exact triple_doSdIpUp hsdid
  · exact fun _ hsettled ↦ hsettled

end Requests

end Announced

/-- `SDIPUP <sdid> <ip>` requests, one after the other, with what is known after the last one. -/
inductive Served (sdid : CString) (key : SdKey) (condition : Announced → Int → Prop) :
    Announced → List CString → Announced → Prop
  | none (g : Announced) : Served sdid key condition g [] g
  | request {g g' : Announced} {ip : CString} {rest : List CString} {va : VerbAction} {csp : Client}
      {result : Unit × Client} {trace : List (Event signature)} (hva : va ∈ verbTab)
      (hverb : va.doVerb = .doSdIpUp)
      (hrun : Program.Run (dispatch va (sdid ++ ' ' :: ip) csp) trace (.ret result))
      (hmeets : (announcing sdid key condition).Meets g.begin trace)
      (hrest : Served sdid key condition ((announcing sdid key condition).after g.begin trace) rest g') :
      Served sdid key condition g (ip :: rest) g'

variable {sdid : CString} {key : SdKey}

/-- The requests so far, each with a log that was not refused. -/
theorem Served.settled (hsdid : ' ' ∉ sdid) {g g' : Announced} {ips : List CString} (hsettled : g.Settled)
    (hserved : Served sdid key Logged g ips g') : g'.Settled := by
  induction hserved with
  | none g => exact hsettled
  | @request g _ ip _ va csp _ _ hva hverb hrun hmeets _ ih =>
    have hbegin : g.begin.Settled := ⟨rfl, hsettled.2⟩
    apply ih
    exact hrun.returns (Announced.triple_dispatch hva hverb hsdid csp g.begin hbegin) hmeets

/-- While the log of an address change is not refused, every request that changes the address announces
it, and the last announcement is the address that the database holds. -/
theorem announced_of_logged (hsdid : ' ' ∉ sdid) (ip : CString) {ips : List CString} {g : Announced}
    (hserved : Served sdid key Logged (.initial ip) ips g) :
    g.pending = none ∧ (g.changed = true → g.announced = some g.ip) :=
  hserved.settled hsdid ⟨rfl, fun hchanged ↦ absurd hchanged Bool.false_ne_true⟩

/-- The entry of the table. -/
def sdIpUp : VerbAction := verbAction "SDIPUP" .doSdIpUp "IPUP processing (Param: SDid @IP)" 1

/-- A database that refuses the log when `refuses` says so. -/
def Sim.loggingUnless (refuses : Bool) (sim : Sim) (op : Op) : Option (op.Answer × Sim) :=
  match op with
  | .sql _ (.setLogById _) => some (⟨if refuses then errDbFailed else 0, ()⟩, sim)
  | op => sim.respond 0 op

/-- The request `SDIPUP ABC123 10.0.0.2` to that database. -/
def addressChange (refuses : Bool) : List (Event signature) × Code (Unit × Client) × Sim :=
  Program.exec (Sim.loggingUnless refuses) 1 (dispatch sdIpUp "ABC123 10.0.0.2".toList ⟨5, none⟩)
    (Sim.single [] [])

/-- What is known after that request. -/
def afterChange (refuses : Bool) (condition : Announced → Int → Prop) : Announced :=
  (announcing "ABC123".toList ⟨"ABC".toList, 123⟩ condition).after (.initial "10.0.0.1".toList)
    (addressChange refuses).1

theorem served_addressChange (refuses : Bool) {condition : Announced → Int → Prop}
    (hcondition : condition ⟨"10.0.0.2".toList, true, none, some "10.0.0.2".toList⟩
      (if refuses then errDbFailed else 0)) :
    Served "ABC123".toList ⟨"ABC".toList, 123⟩ condition (.initial "10.0.0.1".toList) ["10.0.0.2".toList]
      (afterChange refuses condition) := by
  have hreturns : ∃ result, (addressChange refuses).2.1 = .ret result := by
    cases refuses <;> exact ⟨_, rfl⟩
  obtain ⟨result, hresult⟩ := hreturns
  have hrun : Program.Run (dispatch sdIpUp "ABC123 10.0.0.2".toList ⟨5, none⟩) (addressChange refuses).1
      (addressChange refuses).2.1 := Program.run_exec _ 1 _ _
  rw [hresult] at hrun
  refine .request (by decide +kernel : sdIpUp ∈ verbTab) rfl hrun ?_ (.none _)
  -- the lookup, the write and the log are the only calls with an expectation
  cases refuses
  all_goals
    iterate 4 apply And.intro trivial
    apply And.intro fun _ _ ↦ ⟨rfl, rfl⟩
    iterate 5 apply And.intro trivial
    apply And.intro (Or.inl rfl)
    apply And.intro hcondition
    repeat apply And.intro trivial
    trivial

/-- A change whose log is written is announced. -/
theorem announced_of_logged_change :
    (afterChange false Logged).ip = "10.0.0.2".toList ∧ (afterChange false Logged).changed = true ∧
      (afterChange false Logged).pending = none ∧
      ((afterChange false Logged).changed = true →
        (afterChange false Logged).announced = some (afterChange false Logged).ip) := by
  refine ⟨rfl, rfl, announced_of_logged (by decide) _ (served_addressChange false ?_)⟩
  exact fun _ ↦ (by decide : ¬refused 0)

/-- A change whose log is refused is not announced, and the next request with the same address would not
announce it either. -/
theorem refused_log_drops_announcement :
    ¬∀ (sdid : CString) (key : SdKey) (ip : CString) (ips : List CString) (g : Announced), ' ' ∉ sdid →
      Served sdid key (fun _ _ ↦ True) (.initial ip) ips g →
      g.pending = none ∧ (g.changed = true → g.announced = some g.ip) := by
  intro hclaim
  have hsettled := hclaim _ _ _ _ _ (by decide) (served_addressChange true trivial)
  exact absurd hsettled.1 (by decide)

end CoreEngine.Smsd
