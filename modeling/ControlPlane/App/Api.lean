import ControlPlane.Services.ApprovalService

/-!
The routes of `app/main.py`, `app/api/approvals.py` and `app/api/jobs.py` that
write: chat intake, the operator's decisions, and the retry of a failed send.
Authentication has happened; `tenantId` is the tenant it resolved to.
-/

namespace ControlPlane.Api

open Lib JobService ApprovalService

structure ChatRequest where
  sessionId : String
  message : String
  maxSteps : Int := 8

structure ChatResponse where
  jobId : String
  status : String
  message : String

/-- `ApprovalDetailResponse`, without the two timestamps' formatting. -/
structure ApprovalDetail where
  id : String
  tenantId : Option String
  kind : String
  status : ApprovalStatus
  payload : Dict
  decision : Option Json
  createdAt : Datetime
  decidedAt : Option Datetime
  sourceJobId : Option Json
  executionJobId : Option String
  gmailMessageId : Option Json
  sendStatus : Option Json

def approvalToDetail (row : ApprovalRequest) (executionJobId : Option String) :
    ApprovalDetail :=
  let raw := loads row.payloadJson
  let data : Dict := raw.filter fun f => f.1 ≠ "decision"
  { id := row.id
    tenantId := row.tenantId
    kind := row.kind
    status := row.status
    payload := data
    decision := raw.get? "decision"
    createdAt := row.createdAt
    decidedAt := row.decidedAt
    sourceJobId := data.get? "job_id"
    executionJobId := executionJobId
    gmailMessageId := data.get? "gmail_message_id"
    sendStatus := data.get? "send_status" }

structure ApprovalDecision where
  approval : ApprovalDetail
  executionJobId : Option String

/-- `HTTPException`: a missing resource and one of another tenant look alike. -/
def httpError (missing : Option String) : PyErr → PyErr
  | .valueError message =>
      .http (if some message = missing then 404 else 400) message
  | e => e

variable [Deployment]

def chat (body : ChatRequest) (tenantId : Option String) :
    Session ChatResponse := do
  let job ← createJob chatOrchestrateType
    (some [("session_id", .str body.sessionId), ("message", .str body.message),
      ("max_steps", .num body.maxSteps)]) tenantId none
  return { jobId := job.id, status := "queued", message := "Chat request accepted" }

/-- `_enrich_approval_detail`; the row is read again, since a commit has
expired it. -/
def enrichApprovalDetail (id : String) : Session ApprovalDetail := do
  let row ← reload id
  let job ← getJobByIdempotencyKey (sendKey id)
  return approvalToDetail row (job.map Job.id)

/-- The enqueue after a decision; the id of the send job. -/
def enqueueAfterApproval (row : ApprovalRequest) : Session (Option String) :=
  if shouldEnqueueEmailSendAfterApproval row then do
    let job ← tryCatch (enqueueEmailSendJob row) fun e => throw (httpError none e)
    return some job.id
  else return none

def approveRequest (approvalId actor : String) (note tenantId : Option String) :
    Session ApprovalDecision := do
  let row ← tryCatch (approve approvalId actor note tenantId)
    fun e => throw (httpError (some "approval_not_found") e)
  let executionJobId ← enqueueAfterApproval row
  let detail ← enrichApprovalDetail row.id
  return { approval := detail, executionJobId := executionJobId }

def rejectRequest (approvalId actor reason : String) (tenantId : Option String) :
    Session ApprovalDetail := do
  let row ← tryCatch (reject approvalId actor reason tenantId)
    fun e => throw (httpError (some "approval_not_found") e)
  enrichApprovalDetail row.id

def retryJob (jobId : String) (tenantId : Option String) : Session Job := do
  let _ ← tryCatch (retryFailedJob jobId tenantId)
    fun e => throw (httpError (some "job_not_found") e)
  let job ← getJobById (.str jobId) tenantId
  match job with
  | none => throw (.http 404 "job_not_found")
  | some job => return job

end ControlPlane.Api
