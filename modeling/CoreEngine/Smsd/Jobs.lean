import CoreEngine.Smsd.Ledger

/-!
# Jobs under a discipline

What the scheduler runs starts and ends without a database context in its client context. A monitor that
watches the pool has one assertion for that, and one for the states in between in which there may be a
context. It keeps both over every job if the idioms by which contexts are taken and given back do.
-/

namespace CoreEngine.Smsd

open Interaction
open Procedure (lift Stable Triple triple_bind triple_ite triple_pure bind_assoc_eq)

/-- `settled` holds between jobs and `inv` inside them. -/
class JobDiscipline {G : Type} (D : Monitor signature G) (inv settled : Client → G → Prop) : Prop extends
    ContextDiscipline D inv, LockDiscipline D inv, SocketDiscipline D inv, ReplyDiscipline D inv,
    ScriptDiscipline D inv, StackDiscipline D inv, CountDiscipline D inv, BodyDiscipline D inv where
  begin_settled (csp : Client) (g : G) : settled csp g → inv csp g
  settled_of_none (csp : Client) (g : G) : inv csp g → csp.dbCtx = none → settled csp g
  releaseAll : Triple D inv releaseBdCtx fun _ ↦ settled
  take (keeper : Keeper) : Triple D settled
    (do let ctx ← lift (findCtx .sms (.keeper keeper)); storeDbCtx (some ctx)) fun _ ↦ inv
  own {α : Type} (caller : Caller) (body : Ctx → Code α) (hcaller : caller.stores = false)
    (hbody : ∀ ctx, CtxCode 2 ctx (body ctx)) : Stable D settled (lift (withCtx .sms caller body))
  settled_plain : PlainDiscipline D settled
  settled_connection : ConnectionDiscipline D settled
  settled_script : ScriptDiscipline D settled
  settled_reply : ReplyDiscipline D settled
  settled_stack : StackDiscipline D settled

namespace JobDiscipline

variable {G : Type} {D : Monitor signature G} {inv settled : Client → G → Prop}
  (hjob : JobDiscipline D inv settled)

include hjob

theorem triple_taken {α : Type} (keeper : Keeper) {rest : M α} {post : α → Client → G → Prop}
    (hrest : Triple D inv rest post) : Triple D settled
      (do let ctx ← lift (findCtx .sms (.keeper keeper)); storeDbCtx (some ctx); rest) post := by
  have htaken := triple_bind (hjob.take keeper) fun _ ↦ hrest
  rw [bind_assoc_eq] at htaken
  exact htaken

theorem triple_finish : Triple D inv dispatch.finish fun _ ↦ settled := by
  rintro ⟨cfd, _ | ctx⟩ g hinv
  · exact hjob.settled_of_none _ _ hinv rfl
  · exact hjob.releaseAll ⟨cfd, some ctx⟩ g hinv

theorem stable_saveAllConf : Stable D settled saveAllConf := by
  have hplain := hjob.settled_plain
  have hpass := hjob.own .saveAllConf (fun ctx ↦ Program.loop (fun _ ↦ savePass ctx) ()) rfl
    fun _ ↦ inferInstance
  unfold saveAllConf
  infer_instance

theorem stable_scanUpdated : Stable D settled scanUpdated := by
  have hplain := hjob.settled_plain
  have hpass := hjob.own .scanUpdated (fun ctx ↦ Program.loop (fun _ ↦ updatePass ctx) ()) rfl
    fun _ ↦ inferInstance
  unfold scanUpdated
  infer_instance

theorem triple_handler {va : VerbAction} (params : CString) :
    Triple D settled (va.doVerb.run params) fun _ ↦ inv := by
  by_cases hhandler : va.doVerb = .doImmediateSaveConf
  · rw [hhandler]
    have hplain := hjob.settled_plain
    have hconnection := hjob.settled_connection
    have hreply := hjob.settled_reply
    have hsave := hjob.stable_saveAllConf
    have hrun : Stable D settled (Handler.doImmediateSaveConf.run params) := by
      unfold Handler.run doImmediateSaveConf
      infer_instance
    exact hrun.triple.conseq (fun _ _ hsettled ↦ hsettled) fun _ ↦ hjob.begin_settled
  · exact (stable_run hhandler params).triple.conseq hjob.begin_settled fun _ _ _ hinv ↦ hinv

theorem triple_dispatch {va : VerbAction} (hva : va ∈ verbTab) (arg : CString) :
    Triple D settled (dispatch va arg) fun _ ↦ settled := by
  unfold dispatch
  apply triple_ite
  · intro hparams
    apply triple_ite
    · exact fun _ ↦ triple_pure () fun _ _ hsettled ↦ hsettled
    · intro _
      have hhandler : va.doVerb ≠ .doImmediateSaveConf := fun hsave ↦
        hparams (hasParams_of_doImmediateSaveConf va hva hsave)
      have hrun : Stable D inv (va.doVerb.run arg) := stable_run hhandler arg
      exact hjob.triple_taken .checkVerb (triple_bind hrun.triple fun _ ↦ hjob.triple_finish)
  · exact fun _ ↦ triple_bind (hjob.triple_handler _) fun _ ↦ hjob.triple_finish

theorem triple_checkVerb (buf : CString) : Triple D settled (checkVerb buf) fun _ ↦ settled := by
  have hplain := hjob.settled_plain
  have hconnection := hjob.settled_connection
  have hreply := hjob.settled_reply
  unfold checkVerb
  cases hfind : verbTab.find? fun va ↦ va.verb = CString.toupper (splitLine buf).1 with
  | none =>
    have hrefuse : Stable D settled
        (if CString.toupper (splitLine buf).1 ≠ "WAKE_UP_SMS".toList then do
          let _ ← sendError (some ['\x00']) errVerbUnknwn
          pure ()
        else pure ()) := inferInstance
    exact hrefuse.triple
  | some va => exact hjob.triple_dispatch (List.mem_of_find?_eq_some hfind) _

theorem triple_recordUpdate (sdid : CString) (ret : Int) :
    Triple D inv (recordUpdate sdid ret) fun _ ↦ settled := by
  unfold recordUpdate
  apply triple_ite
  · intro _
    apply triple_ite
    · exact fun _ ↦ triple_bind Stable.triple fun _ ↦ hjob.releaseAll
    · intro _
      apply triple_ite
      · exact fun _ ↦ triple_bind Stable.triple fun _ ↦ triple_bind Stable.triple fun _ ↦ hjob.releaseAll
      · exact fun _ ↦ hjob.releaseAll
  · exact fun _ ↦ hjob.releaseAll

theorem triple_updateTask (sd : SdLike) : Triple D settled (updateTask sd) fun _ ↦ settled := by
  have hend (sdid : CString) (ret : Int) :
      Triple D inv (do recordUpdate sdid ret; pure 0) fun _ : Int ↦ settled :=
    triple_bind (hjob.triple_recordUpdate sdid ret) fun _ ↦ triple_pure 0 fun _ _ hsettled ↦ hsettled
  have hrecord (sdid : CString) (ret : Int) : Triple D inv
      (do ensureDbCtx .updateTask; recordUpdate sdid ret; pure 0) fun _ : Int ↦ settled :=
    triple_bind Stable.triple fun _ ↦ hend sdid ret
  unfold updateTask
  apply hjob.triple_taken .updateTask
  apply triple_bind Stable.triple
  intro info
  apply triple_ite
  · exact fun _ ↦ hend _ _
  · intro _
    apply triple_ite
    · exact fun _ ↦ triple_bind Stable.triple fun ret ↦ hrecord _ ret
    · exact fun _ ↦ hrecord _ _

theorem stable_saveConfTask (sd : SdLike) : Stable D settled (saveConfTask sd) := by
  have hplain := hjob.settled_plain
  have hscript := hjob.settled_script
  have hstack := hjob.settled_stack
  have hwith {α : Type} (body : Ctx → Code α) [hbody : ∀ ctx, CtxCode 2 ctx (body ctx)] :
      Stable D settled (lift (withCtx .sms .smsBdSetLog body)) := hjob.own .smsBdSetLog body rfl hbody
  have hlog (info : SdInfo) (message level reference : Option CString) :
      Stable D settled (smsBdSetLog info message level reference) := by
    unfold smsBdSetLog
    infer_instance
  have hsave (flag : CString) : Stable D settled (saveRunningConf sd flag) :=
    stable_saveRunningConf_of_log hlog sd flag
  unfold saveConfTask
  infer_instance

theorem safe_code (job : Job) {g : G} (hstart : ∀ cfd, settled ⟨cfd, none⟩ g) :
    job.code.Safe D settled g := by
  cases job with
  | checkVerb cfd line => exact (Program.safe_bind _ _ _ _).2 (hjob.triple_checkVerb line _ _ (hstart cfd))
  | updateTask sd => exact (Program.safe_bind _ _ _ _).2 (hjob.triple_updateTask sd _ _ (hstart (-1)))
  | scanUpdated => exact (Program.safe_bind _ _ _ _).2 (hjob.stable_scanUpdated.triple _ _ (hstart (-1)))
  | saveAllConf => exact (Program.safe_bind _ _ _ _).2 (hjob.stable_saveAllConf.triple _ _ (hstart (-1)))
  | saveConfTask sd =>
    exact (Program.safe_bind _ _ _ _).2 ((hjob.stable_saveConfTask sd).triple _ _ (hstart (-1)))

end JobDiscipline

end CoreEngine.Smsd
