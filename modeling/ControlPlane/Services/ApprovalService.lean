import ControlPlane.Services.AuditService
import ControlPlane.Services.JobService

/-!
`services/approval_service.py`: the approval of a gated action, from the
pending request over the operator's decision to the enqueued send.

The status check of a decision and its commit are separate steps, and
`merge_execution_context` rewrites a payload it loaded earlier. An approval
that `create_request` or `approve` returns was expired by the commit of its
audit event; its attributes are those of the row when the caller first reads
them, which is modelled as a last SELECT of the service.
-/

namespace ControlPlane

open Lib

namespace ApprovalService

open JobService AuditService

def jobGate : String := "job.gate"
def outboundWorkflow : String := "email.outbound"

/-- `data.get("workflow")` is neither `None` nor the outbound workflow. -/
def wrongWorkflow (data : Dict) : Bool :=
  match data.get? "workflow" with
  | none => false
  | some .null => false
  | some v => v ≠ .str outboundWorkflow

variable [Deployment]

def validateOutboundSendGate (approval : ApprovalRequest) : Session Unit :=
  if approval.kind ≠ jobGate then throw (.valueError "approval_invalid_kind")
  else
    let data := loads approval.payloadJson
    if !Json.truthy (data.get? "gmail_draft_id") then return ()
    else if wrongWorkflow data then throw (.valueError "approval_wrong_workflow")
    else if !Json.truthy (data.get? "job_id") then
      throw (.valueError "approval_missing_source_job")
    else do
      let job ← getJobById ((data.get? "job_id").getD .null) none
      match job with
      | none => throw (.valueError "source_job_not_found")
      | some _ => return ()

def validateSendEnqueueEligibility (approval : ApprovalRequest) :
    Session Unit :=
  if approval.status ≠ .approved then
    throw (.valueError "approval_not_approved")
  else do
    validateOutboundSendGate approval
    if !Json.truthy ((loads approval.payloadJson).get? "gmail_draft_id") then
      throw (.valueError "missing_gmail_draft_id_for_enqueue")
    else return ()

/-- `get_request`, with the clock reading next to it. -/
def getRequestAt (approvalId : Json) (tenantId : Option String) :
    Session (Option ApprovalRequest × Moment) :=
  select (.approval approvalId) fun r s =>
    ((s.approval? approvalId).filter fun row =>
      tenantId = none ∨ row.tenantId = tenantId, r.now)

def getRequest (approvalId : Json) (tenantId : Option String) :
    Session (Option ApprovalRequest) := do
  let (row, _) ← getRequestAt approvalId tenantId
  return row

/-- The attributes of an expired row when they are read next. -/
def reload (id : String) : Session ApprovalRequest := do
  let row ← getRequest (.str id) none
  found row

def createRequest (kind : String) (tenantId : Option String) (jobId : String)
    (payload : Dict) : Session ApprovalRequest := do
  let row : ApprovalRequest := {
    id := ""
    tenantId := tenantId
    kind := kind
    status := .pending
    payloadJson := some (Dict.update [("job_id", .str jobId)] payload)
    decidedAt := none
    createdAt := unset }
  let r ← commit (.insertApproval row)
  let _ ← record {
    action := AuditAction.approvalCreated
    resourceType := "approval"
    resourceId := r.newId
    tenantId := tenantId
    metadata := some [("kind", .str kind), ("source_job_id", .str jobId)] }
  reload r.newId

/-- The loaded row with a decision on it. -/
def decided (row : ApprovalRequest) (status : ApprovalStatus) (decision : Dict)
    (now : Moment) : ApprovalRequest :=
  { row with
    status := status
    payloadJson :=
      some ((loads row.payloadJson).set "decision" (.obj decision))
    decidedAt := some (Deployment.stored (.utc now)) }

def approve (approvalId actor : String) (note tenantId : Option String) :
    Session ApprovalRequest := do
  let (row, now) ← getRequestAt (.str approvalId) tenantId
  match row with
  | none => throw (.valueError "approval_not_found")
  | some row =>
      if row.status ≠ .pending then
        throw (.valueError "approval_not_pending")
      else do
        if Json.truthy ((loads row.payloadJson).get? "gmail_draft_id") then
          validateOutboundSendGate row
        let _ ← commit (.updateApproval row (decided row .approved
          [("status", .str "approved"), ("actor", .str actor),
            ("note", .ofOption note)] now))
        let _ ← record {
          action := AuditAction.approvalApproved
          resourceType := "approval"
          resourceId := row.id
          tenantId := row.tenantId
          actor := some actor
          metadata := some [("note", .ofOption note)] }
        reload row.id

def reject (approvalId actor reason : String) (tenantId : Option String) :
    Session ApprovalRequest := do
  let (row, now) ← getRequestAt (.str approvalId) tenantId
  match row with
  | none => throw (.valueError "approval_not_found")
  | some row =>
      if row.status ≠ .pending then
        throw (.valueError "approval_not_pending")
      else do
        let _ ← commit (.updateApproval row (decided row .rejected
          [("status", .str "rejected"), ("actor", .str actor),
            ("reason", .str reason)] now))
        let _ ← record {
          action := AuditAction.approvalRejected
          resourceType := "approval"
          resourceId := row.id
          tenantId := row.tenantId
          actor := some actor
          metadata := some [("reason", .str reason)] }
        reload row.id

/-- `merge_execution_context`. `row` is what `session.get` returns: the row in
the session's identity map, as it was last loaded. -/
def mergeExecutionContext (row : ApprovalRequest) (fields : Dict) :
    Session Unit := do
  let _ ← commit (.updateApproval row
    { row with payloadJson := some ((loads row.payloadJson).update fields) })

def recordSendCompleted (row : ApprovalRequest) (gmailMessageId : String) :
    Session Unit :=
  mergeExecutionContext row
    [("gmail_message_id", .str gmailMessageId), ("send_status", .str "sent")]

def shouldEnqueueEmailSendAfterApproval (approval : ApprovalRequest) : Bool :=
  let data := loads approval.payloadJson
  approval.kind = jobGate && Json.truthy (data.get? "gmail_draft_id") &&
    !wrongWorkflow data

/-- `f"email.send:{approval.id}"`. -/
def sendKey (approvalId : String) : String := "email.send:" ++ approvalId

def enqueueEmailSendJob (approval : ApprovalRequest) : Session Job := do
  validateSendEnqueueEligibility approval
  let existing ← getJobByIdempotencyKey (sendKey approval.id)
  match existing with
  | some existing => do
      let _ ← record {
        action := AuditAction.sendJobEnqueued
        resourceType := "approval"
        resourceId := approval.id
        tenantId := approval.tenantId
        metadata :=
          some [("job_id", .str existing.id), ("idempotent", .bool true)] }
      return existing
  | none => do
      let sendJob ← createJob emailSendApprovedType
        (some [("approval_id", .str approval.id)]) approval.tenantId
        (some (sendKey approval.id))
      let _ ← record {
        action := AuditAction.sendJobEnqueued
        resourceType := "approval"
        resourceId := approval.id
        tenantId := approval.tenantId
        metadata := some [("job_id", .str sendJob.id)] }
      return sendJob

end ApprovalService

end ControlPlane
