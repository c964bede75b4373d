import ControlPlane.App.Api
import ControlPlane.Services.Footprints

/-!
The requests of the outside world, as one type, and what serving them can call.
Only these decide approvals, create jobs and put failed jobs back.
-/

namespace ControlPlane

open Lib JobService AuditService ApprovalService Api

inductive Request where
  | chat (body : ChatRequest) (tenantId : Option String)
  | approve (approvalId actor : String) (note tenantId : Option String)
  | reject (approvalId actor reason : String) (tenantId : Option String)
  | retry (jobId : String) (tenantId : Option String)

inductive Response where
  | queued (response : ChatResponse)
  | approved (decision : ApprovalDecision)
  | rejected (detail : ApprovalDetail)
  | retried (job : Job)

variable [Deployment]

def serve : Request → Session Response
  | .chat body tenantId => do
      let response ← chat body tenantId
      return .queued response
  | .approve approvalId actor note tenantId => do
      let decision ← approveRequest approvalId actor note tenantId
      return .approved decision
  | .reject approvalId actor reason tenantId => do
      let detail ← rejectRequest approvalId actor reason tenantId
      return .rejected detail
  | .retry jobId tenantId => do
      let job ← retryJob jobId tenantId
      return .retried job

/-- The calls that create jobs and record that. -/
inductive EnqueueCall : Call → Prop where
  | select (query : Query) : EnqueueCall (.select query)
  | audit {row : AuditEvent} (happroved : row.action ≠ AuditAction.approvalApproved)
      (hrejected : row.action ≠ AuditAction.approvalRejected)
      (hresource : row.resourceType ≠ "governed_action") :
      EnqueueCall (.commit (.insertAudit row))
  | insertJob {row : Job} (h : row.status = .pending) :
      EnqueueCall (.commit (.insertJob row))

inductive RetryCall : Call → Prop where
  | select (query : Query) : RetryCall (.select query)
  | retry {loaded : Job} (h : loaded.status = .failed) :
      RetryCall (.commit (.updateJob loaded
        { loaded with status := .pending, lastError := none }))

/-- The calls of a decision, before the enqueue that may follow it. -/
inductive DecisionCall : Call → Prop where
  | select (query : Query) : DecisionCall (.select query)
  | decide {loaded : ApprovalRequest} (h : loaded.status = .pending)
      (status : ApprovalStatus) (decision : Dict) (now : Moment) :
      DecisionCall
        (.commit (.updateApproval loaded (decided loaded status decision now)))
  | audit {row : AuditEvent} (hresource : row.resourceType ≠ "governed_action") :
      DecisionCall (.commit (.insertAudit row))

inductive RequestCall : Call → Prop where
  | enqueue {q : Call} (h : EnqueueCall q) : RequestCall q
  | retry {q : Call} (h : RetryCall q) : RequestCall q
  | decision {q : Call} (h : DecisionCall q) : RequestCall q

variable {C : Call → Prop}

/-- A handler that only translates the exception. -/
theorem translated_calls {α : Type} {p : Session α} {f : PyErr → PyErr}
    (h : Calls C p) : Calls C (tryCatch p fun e => throw (f e)) :=
  h.handle fun e => calls_throw (f e)

theorem record_enqueue {e : NewEvent}
    (happroved : e.action ≠ AuditAction.approvalApproved)
    (hrejected : e.action ≠ AuditAction.approvalRejected)
    (hresource : e.resourceType ≠ "governed_action") :
    Calls EnqueueCall (record e) := by
  refine (record_calls e).mono ?_
  rintro q (_ | h)
  · exact .select _
  · exact .audit (h.action ▸ happroved) (h.action ▸ hrejected) (h.resourceType ▸ hresource)

theorem createJob_calls (jobType : String) (payload : Option Dict)
    (tenantId idempotencyKey : Option String) :
    Calls EnqueueCall (createJob jobType payload tenantId idempotencyKey) :=
  (calls_commit (.insertJob rfl)).bind fun _ => calls_pure _

theorem chat_calls (body : ChatRequest) (tenantId : Option String) :
    Calls EnqueueCall (chat body tenantId) :=
  (createJob_calls _ _ _ _).bind fun _ => calls_pure _

theorem enqueueEmailSendJob_calls (approval : ApprovalRequest) :
    Calls EnqueueCall (enqueueEmailSendJob approval) := by
  have hrecord : ∀ metadata : Option Dict, Calls EnqueueCall (record {
      action := AuditAction.sendJobEnqueued
      resourceType := "approval"
      resourceId := approval.id
      tenantId := approval.tenantId
      metadata := metadata }) :=
    fun _ => record_enqueue (by simp; decide) (by simp; decide) (by simp)
  refine (validateSendEnqueueEligibility_reads (fun _ => .select _) approval).bind fun _ => ?_
  refine (calls_select (.select _)).bind fun existing => ?_
  cases existing with
  | some existing => exact (hrecord _).bind fun _ => calls_pure _
  | none =>
      exact (createJob_calls _ _ _ _).bind fun _ =>
        (hrecord _).bind fun _ => calls_pure _

theorem enqueueAfterApproval_calls (row : ApprovalRequest) :
    Calls EnqueueCall (enqueueAfterApproval row) := by
  unfold enqueueAfterApproval
  split
  · exact (translated_calls (enqueueEmailSendJob_calls row)).bind
      fun _ => calls_pure _
  · exact calls_pure _

theorem enrichApprovalDetail_calls (id : String) :
    Calls EnqueueCall (enrichApprovalDetail id) :=
  (reload_calls (.select _)).bind fun _ =>
    (calls_select (.select _)).bind fun _ => calls_pure _

theorem record_decision {e : NewEvent} (hresource : e.resourceType ≠ "governed_action") :
    Calls DecisionCall (record e) := by
  refine (record_calls e).mono ?_
  rintro q (_ | h)
  · exact .select _
  · exact .audit (h.resourceType ▸ hresource)

theorem approve_calls (approvalId actor : String) (note tenantId : Option String) :
    Calls DecisionCall (approve approvalId actor note tenantId) := by
  refine (calls_select (.select _)).bind fun loaded => ?_
  obtain ⟨row, now⟩ := loaded
  cases row with
  | none => exact calls_throw _
  | some row =>
      dsimp only
      split
      · exact calls_throw _
      · next hstatus =>
          have hpending : row.status = .pending := not_not.mp hstatus
          have htail : Calls DecisionCall (do
              let _ ← commit (.updateApproval row (decided row .approved
                [("status", .str "approved"), ("actor", .str actor),
                  ("note", .ofOption note)] now))
              let _ ← record {
                action := AuditAction.approvalApproved
                resourceType := "approval"
                resourceId := row.id
                tenantId := row.tenantId
                actor := some actor
                metadata := some [("note", .ofOption note)] }
              reload row.id) :=
            (calls_commit (.decide hpending _ _ _)).bind fun _ =>
              (record_decision (by simp)).bind fun _ => reload_calls (.select _)
          split
          · exact (validateOutboundSendGate_reads (fun _ => .select _) row).bind fun _ => htail
          · exact htail

theorem reject_calls (approvalId actor reason : String) (tenantId : Option String) :
    Calls DecisionCall (reject approvalId actor reason tenantId) := by
  refine (calls_select (.select _)).bind fun loaded => ?_
  obtain ⟨row, now⟩ := loaded
  cases row with
  | none => exact calls_throw _
  | some row =>
      dsimp only
      split
      · exact calls_throw _
      · next hstatus =>
          exact (calls_commit (.decide (not_not.mp hstatus) _ _ _)).bind fun _ =>
            (record_decision (by simp)).bind fun _ => reload_calls (.select _)

theorem assertEmailSendRetryAllowed_calls (job : Job) :
    Calls RetryCall (assertEmailSendRetryAllowed job) := by
  unfold assertEmailSendRetryAllowed
  dsimp only
  split
  · exact (calls_select (.select _)).bind fun _ =>
      (raiseIf_calls _).bind fun _ => (calls_select (.select _)).bind fun _ =>
        raiseIf_calls _
  · exact calls_pure ()

theorem retryFailedJob_calls (jobId : String) (tenantId : Option String) :
    Calls RetryCall (retryFailedJob jobId tenantId) := by
  refine (calls_select (.select _)).bind fun job => ?_
  cases job with
  | none => exact calls_throw _
  | some job =>
      dsimp only
      split
      · exact calls_throw _
      · split
        · exact calls_throw _
        · next hstatus =>
            exact (assertEmailSendRetryAllowed_calls job).bind fun _ =>
              (calls_commit (.retry (not_not.mp hstatus))).bind fun _ =>
                refreshJob_calls (.select _)

theorem retryJob_calls (jobId : String) (tenantId : Option String) :
    Calls RetryCall (retryJob jobId tenantId) := by
  refine (translated_calls (retryFailedJob_calls jobId tenantId)).bind fun _ => ?_
  refine (calls_select (.select _)).bind fun job => ?_
  cases job with
  | none => exact calls_throw _
  | some job => exact calls_pure _

theorem serve_calls (req : Request) : Calls RequestCall (serve req) := by
  cases req with
  | chat body tenantId =>
      exact ((chat_calls body tenantId).mono fun _ => .enqueue).bind
        fun _ => calls_pure _
  | approve approvalId actor note tenantId =>
      refine Calls.bind ?_ fun _ => calls_pure _
      refine (translated_calls ((approve_calls _ _ _ _).mono fun _ =>
        .decision)).bind fun row => ?_
      exact ((enqueueAfterApproval_calls row).mono fun _ => .enqueue).bind fun _ =>
        ((enrichApprovalDetail_calls row.id).mono fun _ => .enqueue).bind
          fun _ => calls_pure _
  | reject approvalId actor reason tenantId =>
      refine Calls.bind ?_ fun _ => calls_pure _
      exact (translated_calls ((reject_calls _ _ _ _).mono fun _ =>
        .decision)).bind fun row =>
          (enrichApprovalDetail_calls row.id).mono fun _ => .enqueue
  | retry jobId tenantId =>
      exact ((retryJob_calls jobId tenantId).mono fun _ => .retry).bind
        fun _ => calls_pure _

end ControlPlane
