import ControlPlane.Db.Calls
import ControlPlane.Db.Frames
import ControlPlane.Workers.Runner

/-!
What the programs of the worker can call, for every answer they may get. A
worker claims, runs and closes jobs and merges fields into approvals; it never
decides an approval and never makes a job pending again.
-/

namespace ControlPlane

open Lib JobService AuditService ApprovalService EmailPersistence EmailService
  ChatOrchestrate Tasks

theorem nextPending_pending {r : Reading} {s : Database} {job : Job}
    (h : nextPending r s = some job) : job ∈ s.jobs.rows ∧ job.status = .pending := by
  have hmem := List.mem_of_getElem? h
  simp only [eligible, List.mem_filter, decide_eq_true_eq] at hmem
  exact ⟨hmem.1.1, hmem.1.2.1⟩

section

variable [Deployment]

/-- The row is one that `record` builds for the event. -/
def Describes (e : NewEvent) (row : AuditEvent) : Prop :=
  ∃ head now, e.link head now = .ok row

theorem link_eq_ok {e : NewEvent} {head : Option AuditEvent} {now : Moment}
    {row : AuditEvent} (h : e.link head now = .ok row) :
    ∃ hash, row = { e.row head now with eventHash := some hash } := by
  unfold NewEvent.link at h
  cases hhash : computeEventHash (e.row head now) (previousHash head) with
  | error error =>
      rw [hhash] at h
      cases h
  | ok hash =>
      rw [hhash] at h
      cases h
      exact ⟨hash, rfl⟩

theorem Describes.action {e : NewEvent} {row : AuditEvent}
    (h : Describes e row) : row.action = e.action := by
  obtain ⟨head, now, hlink⟩ := h
  obtain ⟨hash, rfl⟩ := link_eq_ok hlink
  rfl

theorem Describes.resourceId {e : NewEvent} {row : AuditEvent}
    (h : Describes e row) : row.resourceId = e.resourceId := by
  obtain ⟨head, now, hlink⟩ := h
  obtain ⟨hash, rfl⟩ := link_eq_ok hlink
  rfl

theorem Describes.resourceType {e : NewEvent} {row : AuditEvent}
    (h : Describes e row) : row.resourceType = e.resourceType := by
  obtain ⟨head, now, hlink⟩ := h
  obtain ⟨hash, rfl⟩ := link_eq_ok hlink
  rfl

theorem Describes.tenantId {e : NewEvent} {row : AuditEvent}
    (h : Describes e row) : row.tenantId = e.tenantId := by
  obtain ⟨head, now, hlink⟩ := h
  obtain ⟨hash, rfl⟩ := link_eq_ok hlink
  rfl

/-- The changes a worker makes to the job it runs. -/
inductive JobChange (loaded : Job) : Job → Prop where
  | attempt (attempts : Nat) : JobChange loaded { loaded with attempts := attempts }
  | fail (message : String) : JobChange loaded
      { loaded with status := .failed, lastError := some message }
  | succeed (payload : Option Dict) : JobChange loaded
      { loaded with status := .succeeded, payloadJson := payload }

/-- The calls of a worker that neither send nor write approvals or jobs. What it logs is no
decision, and is not about a governed action. -/
inductive ElsewhereCall : Call → Prop where
  | select (query : Query) : ElsewhereCall (.select query)
  | createDraft (threadId subject body : String) :
      ElsewhereCall (.createDraft threadId subject body)
  | readThread (threadId : String) : ElsewhereCall (.readThread threadId)
  | audit {row : AuditEvent} (happroved : row.action ≠ AuditAction.approvalApproved)
      (hrejected : row.action ≠ AuditAction.approvalRejected)
      (hresource : row.resourceType ≠ "governed_action") :
      ElsewhereCall (.commit (.insertAudit row))
  | mail {tx : Transaction} (h : tx.target = .emailDeliveries ∨ tx.target = .emailThreads) :
      ElsewhereCall (.commit tx)

/-- The calls of a worker for a job it has claimed. -/
inductive WorkerCall : Call → Prop where
  | elsewhere {q : Call} (h : ElsewhereCall q) : WorkerCall q
  | send (approvalId : String) (draftId : Json) :
      WorkerCall (.sendApprovedDraft approvalId draftId)
  | updateJob {loaded new : Job} (h : JobChange loaded new) :
      WorkerCall (.commit (.updateJob loaded new))
  | insertApproval {row : ApprovalRequest} (h : row.status = .pending) :
      WorkerCall (.commit (.insertApproval row))
  | merge (loaded : ApprovalRequest) (fields : Dict) :
      WorkerCall (.commit (.updateApproval loaded { loaded with
        payloadJson := some ((loads loaded.payloadJson).update fields) }))

omit [Deployment] in
theorem ElsewhereCall.target_ne {tx : Transaction} (h : ElsewhereCall (.commit tx)) :
    tx.target ≠ .approvals ∧ tx.target ≠ .jobs := by
  cases h with
  | audit _ _ _ => simp [Transaction.target]
  | mail htarget => rcases htarget with htarget | htarget <;> simp [htarget]

omit [Deployment] in
theorem WorkerCall.select (query : Query) : WorkerCall (.select query) :=
  .elsewhere (.select query)

theorem calls_worker {α : Type} {p : Session α} (h : Calls ElsewhereCall p) :
    Calls WorkerCall p :=
  h.mono fun _ => .elsewhere

/-- The calls of the claim before it. -/
inductive ClaimCall : Call → Prop where
  | select (query : Query) : ClaimCall (.select query)
  | claim {loaded : Job} (h : loaded.status = .pending) :
      ClaimCall (.commit (.updateJob loaded { loaded with status := .running }))

/-- The calls of `record`. -/
inductive RecordCall (e : NewEvent) : Call → Prop where
  | head : RecordCall e (.select .chainHead)
  | append {row : AuditEvent} (h : Describes e row) :
      RecordCall e (.commit (.insertAudit row))

theorem recordFrom_calls (e : NewEvent) (attempts : Nat) :
    Calls (RecordCall e) (recordFrom e attempts) := by
  induction attempts with
  | zero => exact calls_throw _
  | succ attempts ih =>
      rw [recordFrom_succ]
      refine calls_act .head ?_
      intro r s
      refine Calls.bind_answered ?_
      intro row hlink
      refine calls_act (.append ⟨_, _, hlink⟩) ?_
      intro r' s'
      unfold afterCommit
      split
      · exact calls_pure _
      · exact ih
      · exact ih
      · exact calls_throw _

theorem record_calls (e : NewEvent) : Calls (RecordCall e) (record e) :=
  recordFrom_calls e maxRecordAttempts

theorem record_elsewhere {e : NewEvent}
    (happroved : e.action ≠ AuditAction.approvalApproved)
    (hrejected : e.action ≠ AuditAction.approvalRejected)
    (hresource : e.resourceType ≠ "governed_action") :
    Calls ElsewhereCall (record e) := by
  refine (record_calls e).mono ?_
  rintro q (_ | h)
  · exact .select _
  · exact .audit (h.action ▸ happroved) (h.action ▸ hrejected) (h.resourceType ▸ hresource)

variable {C : Call → Prop}

theorem found_calls {α : Type} (row : Option α) : Calls C (found row) := by
  cases row <;> trivial

theorem refreshJob_calls {id : String} (h : C (.select (.job (.str id)))) :
    Calls C (refreshJob id) :=
  (calls_select h).bind fun row => found_calls row

theorem raiseIf_calls (message : Option String) : Calls C (raiseIf message) := by
  cases message <;> trivial

theorem markJobFailed_calls (job : Job) (message : String) :
    Calls WorkerCall (markJobFailed job message) :=
  (calls_commit (.updateJob (.fail message))).bind fun _ => calls_pure ()

theorem markJobSucceeded_calls (job : Job) (result : Dict) :
    Calls WorkerCall (markJobSucceeded job result) :=
  (refreshJob_calls (.select _)).bind fun _ =>
    (calls_commit (.updateJob (.succeed _))).bind fun _ => calls_pure ()

theorem claimNextPending_calls : Calls ClaimCall claimNextPending := by
  refine calls_select_bind (.select _) ?_
  intro r s
  cases hjob : nextPending r s with
  | none => exact calls_pure none
  | some job =>
      refine (calls_commit (.claim (nextPending_pending hjob).2)).bind fun _ => ?_
      exact (refreshJob_calls (.select _)).bind fun job => calls_pure (some job)

/-- The gate only reads a job. -/
theorem validateOutboundSendGate_reads (h : ∀ id, C (.select (.job id)))
    (approval : ApprovalRequest) : Calls C (validateOutboundSendGate approval) := by
  unfold validateOutboundSendGate
  split
  · exact calls_throw _
  · dsimp only
    split
    · exact calls_pure ()
    · split
      · exact calls_throw _
      · split
        · exact calls_throw _
        · refine (calls_select (h _)).bind ?_
          intro job
          cases job <;> trivial

theorem validateSendEnqueueEligibility_reads (h : ∀ id, C (.select (.job id)))
    (approval : ApprovalRequest) :
    Calls C (validateSendEnqueueEligibility approval) := by
  unfold validateSendEnqueueEligibility
  split
  · exact calls_throw _
  · refine (validateOutboundSendGate_reads h approval).bind ?_
    intro _
    split
    · exact calls_throw _
    · exact calls_pure ()

theorem getRequest_calls {approvalId : Json} {tenantId : Option String}
    (h : C (.select (.approval approvalId))) :
    Calls C (getRequest approvalId tenantId) :=
  (calls_select h).bind fun _ => calls_pure _

theorem reload_calls {id : String} (h : C (.select (.approval (.str id)))) :
    Calls C (reload id) :=
  (getRequest_calls h).bind fun row => found_calls row

theorem createRequest_calls (kind : String) (tenantId : Option String)
    (jobId : String) (payload : Dict) :
    Calls WorkerCall (createRequest kind tenantId jobId payload) :=
  (calls_commit (.insertApproval rfl)).bind fun _ =>
    (calls_worker (record_elsewhere (by simp; decide) (by simp; decide) (by simp))).bind fun _ =>
      reload_calls (.select _)

theorem mergeExecutionContext_calls (row : ApprovalRequest) (fields : Dict) :
    Calls WorkerCall (mergeExecutionContext row fields) :=
  (calls_commit (.merge row fields)).bind fun _ => calls_pure ()

theorem selectThread_elsewhere (tenantId : Option String) (externalThreadId : String) :
    Calls ElsewhereCall (selectThread tenantId externalThreadId) := by
  refine (calls_select (.select _)).bind fun rows => ?_
  rcases rows with _ | ⟨row, _ | ⟨_, _⟩⟩
  · exact calls_pure none
  · exact calls_pure (some row)
  · trivial

theorem upsertThreadRecord_elsewhere (tenantId : Option String) (externalThreadId : String)
    (sourceJobId snippet intent : Option String) (extra : Option Dict) :
    Calls ElsewhereCall (upsertThreadRecord tenantId externalThreadId sourceJobId snippet intent
      extra) := by
  refine (selectThread_elsewhere tenantId externalThreadId).bind fun row => ?_
  cases row with
  | none => exact (calls_commit (.mail (.inr rfl))).bind fun _ => calls_pure ()
  | some row => exact (calls_commit (.mail (.inr rfl))).bind fun _ => calls_pure ()

theorem upsertOutboundDelivery_elsewhere (tenantId : Option String)
    (threadExternalId gmailDraftId approvalId sourceJobId : String)
    (status : DeliveryStatus) :
    Calls ElsewhereCall (upsertOutboundDelivery tenantId threadExternalId
      gmailDraftId approvalId sourceJobId status) := by
  refine (calls_select (.select _)).bind fun row => ?_
  cases row with
  | none => exact (calls_commit (.mail (.inl rfl))).bind fun _ => calls_pure ()
  | some row =>
      exact (calls_commit (.mail (.inl rfl))).bind fun _ => calls_pure ()

theorem markDeliverySent_elsewhere (approvalId : Json)
    (executionJobId gmailMessageId : String) :
    Calls ElsewhereCall (markDeliverySent approvalId executionJobId gmailMessageId) := by
  refine (calls_select (.select _)).bind fun row => ?_
  cases row with
  | none => exact calls_pure ()
  | some row =>
      exact (calls_commit (.mail (.inl rfl))).bind fun _ => calls_pure ()

theorem markDeliveryFailed_elsewhere (approvalId : Json)
    (executionJobId error : String) :
    Calls ElsewhereCall (markDeliveryFailed approvalId executionJobId error) := by
  refine (calls_select (.select _)).bind fun row => ?_
  cases row with
  | none => exact calls_pure ()
  | some row =>
      exact (calls_commit (.mail (.inl rfl))).bind fun _ => calls_pure ()

theorem attachDraft_calls (job : Job) (threadHint draftId : String)
    (approval : Option ApprovalRequest) :
    Calls WorkerCall (attachDraft job threadHint draftId approval) := by
  cases approval with
  | none => exact calls_pure ()
  | some approval =>
      exact (mergeExecutionContext_calls approval _).bind fun _ =>
        calls_worker (upsertOutboundDelivery_elsewhere _ _ _ _ _ _)

theorem draftForApproval_calls (job : Job) (message threadHint : String)
    (artifacts : List ArtifactRef) (result : ChatOrchestrateResult)
    (approval : Option ApprovalRequest) :
    Calls WorkerCall
      (draftForApproval job message threadHint artifacts result approval) :=
  (calls_createDraft (.elsewhere (.createDraft _ _ _))).bind fun draftId =>
    (attachDraft_calls job threadHint draftId approval).bind fun _ => calls_pure _

theorem enrichCompleted_elsewhere (job : Job) (intent : EmailIntent)
    (message threadHint : String) (artifacts : List ArtifactRef)
    (result : ChatOrchestrateResult) : Calls ElsewhereCall
      (enrichCompleted job intent message threadHint artifacts result) := by
  cases intent with
  | inboxRead =>
      refine Calls.bind ?_ fun _ => calls_pure _
      exact (calls_readThread (.readThread _)).bind fun _ =>
        (upsertThreadRecord_elsewhere _ _ _ _ _ _).bind fun _ => calls_pure _
  | draftReply =>
      exact (upsertThreadRecord_elsewhere _ _ _ _ _ _).bind fun _ =>
        (calls_createDraft (.createDraft _ _ _)).bind fun _ => calls_pure _
  | outboundSend => exact calls_pure _

theorem enrichOrchestrateResult_calls (job : Job) (payload : ChatPayload)
    (result : ChatOrchestrateResult) (approval : Option ApprovalRequest) :
    Calls WorkerCall (enrichOrchestrateResult job payload result approval) := by
  unfold enrichOrchestrateResult
  dsimp only
  split
  · exact calls_pure _
  · split
    · exact calls_pure _
    · split
      · exact draftForApproval_calls _ _ _ _ _ _
      · exact calls_pure _
    · exact calls_worker (enrichCompleted_elsewhere _ _ _ _ _ _)

theorem executeChatOrchestrate_calls (job : Job) :
    Calls WorkerCall (executeChatOrchestrate job) := by
  refine (calls_answered _).bind fun payload => ?_
  unfold orchestrate
  dsimp only
  split
  · exact enrichOrchestrateResult_calls _ _ _ _
  · split
    · exact (createRequest_calls _ _ _ _).bind fun approval =>
        enrichOrchestrateResult_calls _ _ _ _
    · exact enrichOrchestrateResult_calls _ _ _ _

theorem validateSendExecutionInvariants_calls (job : Job)
    (approval : ApprovalRequest) :
    Calls WorkerCall (validateSendExecutionInvariants job approval) := by
  unfold validateSendExecutionInvariants
  split
  · exact calls_throw _
  · split
    · exact calls_throw _
    · split
      · exact calls_throw _
      · exact validateSendEnqueueEligibility_reads (fun _ => .select _) approval

theorem sendAndRecord_calls (job : Job) (approval : ApprovalRequest)
    (draftId : Json) : Calls WorkerCall (sendAndRecord job approval draftId) :=
  (calls_sendApprovedDraft (.send _ _)).bind fun _ =>
    (mergeExecutionContext_calls approval _).bind fun _ =>
      (calls_worker (markDeliverySent_elsewhere _ _ _)).bind fun _ =>
        (calls_worker (record_elsewhere (by simp; decide) (by simp; decide) (by simp))).bind
          fun _ => calls_pure _

theorem executeSend_calls (job : Job) (approvalId : Json)
    (approval : ApprovalRequest) :
    Calls WorkerCall (executeSend job approvalId approval) := by
  unfold executeSend
  dsimp only
  split
  · exact calls_throw _
  · split
    · exact (calls_worker (markDeliverySent_elsewhere _ _ _)).bind fun _ => calls_pure _
    · exact (sendAndRecord_calls _ _ _).bind fun _ => calls_pure _

theorem runSendApprovedJob_calls (job : Job) :
    Calls WorkerCall (runSendApprovedJob job) := by
  unfold runSendApprovedJob
  dsimp only
  split
  · exact calls_throw _
  · refine (getRequest_calls (.select _)).bind fun approval => ?_
    cases approval with
    | none => exact calls_throw _
    | some approval =>
        exact (validateSendExecutionInvariants_calls job approval).bind fun _ =>
          executeSend_calls job _ approval

theorem countAttempt_calls (job : Job) : Calls WorkerCall (countAttempt job) :=
  (calls_commit (.updateJob (.attempt _))).bind fun _ =>
    refreshJob_calls (.select _)

/-- What a handler does around its service. -/
theorem caught_calls {α : Type} {p : Session α} (h : Calls WorkerCall p) :
    Calls WorkerCall (tryCatch (do
        let result ← p
        return Except.ok result)
      fun e => match caughtMessage e with
        | some message => return Except.error message
        | none => throw e) := by
  refine (h.bind fun _ => calls_pure _).handle fun e => ?_
  cases caughtMessage e with
  | none => exact calls_throw e
  | some message => exact calls_pure _

theorem auditSendJobFailed_elsewhere (job : Job) (error : String) :
    Calls ElsewhereCall (auditSendJobFailed job error) := by
  unfold auditSendJobFailed
  split
  · exact calls_pure ()
  · dsimp only
    have hrecord : ∀ metadata : Option Dict, Calls ElsewhereCall (record {
        action := AuditAction.sendJobFailed
        resourceType := "job"
        resourceId := job.id
        tenantId := job.tenantId
        metadata := metadata }) :=
      fun _ => record_elsewhere (by simp; decide) (by simp; decide) (by simp)
    split
    · exact (markDeliveryFailed_elsewhere _ _ _).bind fun _ =>
        (hrecord _).bind fun _ => calls_pure ()
    · exact (hrecord _).bind fun _ => calls_pure ()

theorem handleChatOrchestrate_calls (job : Job) :
    Calls WorkerCall (handleChatOrchestrate job) := by
  refine (countAttempt_calls job).bind fun job => ?_
  refine (caught_calls (executeChatOrchestrate_calls job)).bind fun outcome => ?_
  cases outcome with
  | error message => exact markJobFailed_calls job message
  | ok result => exact markJobSucceeded_calls job _

theorem handleEmailSendApproved_calls (job : Job) :
    Calls WorkerCall (handleEmailSendApproved job) := by
  refine (countAttempt_calls job).bind fun job => ?_
  refine (caught_calls (runSendApprovedJob_calls job)).bind fun outcome => ?_
  cases outcome with
  | error message =>
      exact (markJobFailed_calls job message).bind fun _ =>
        calls_worker (auditSendJobFailed_elsewhere job message)
  | ok result => exact markJobSucceeded_calls job _

theorem runTask_calls (job : Job) : Calls WorkerCall (runTask job) := by
  unfold runTask
  split
  · exact (handleChatOrchestrate_calls job).bind fun _ => calls_pure _
  · split
    · exact (handleEmailSendApproved_calls job).bind fun _ => calls_pure _
    · exact calls_pure _

theorem recordException_calls (job : Job) (e : PyErr) :
    Calls WorkerCall (Runner.recordException job e) := by
  unfold Runner.recordException
  split
  · exact calls_throw _
  · exact calls_throw _
  · exact (refreshJob_calls (.select _)).bind fun job => markJobFailed_calls job _

theorem processJob_calls (job : Job) : Calls WorkerCall (Runner.processJob job) := by
  refine Calls.bind ?_ fun outcome => ?_
  · exact ((runTask_calls job).bind fun _ => calls_pure _).handle
      fun _ => calls_pure _
  · match outcome with
    | .error e => exact recordException_calls job e
    | .ok (some error) =>
        exact (refreshJob_calls (.select _)).bind fun job => markJobFailed_calls job _
    | .ok none => exact calls_pure ()

theorem pollOnce_calls :
    Calls (fun q => ClaimCall q ∨ WorkerCall q) Runner.pollOnce := by
  refine (claimNextPending_calls.mono fun _ => Or.inl).bind fun job => ?_
  cases job with
  | none => exact calls_pure _
  | some job =>
      exact ((processJob_calls job).mono fun _ => Or.inr).bind fun _ => calls_pure _

end

end ControlPlane
