import ControlPlane.Db.Session

/-!
`services/job_service.py`: durable jobs, the claim of the worker, and the retry
of failed sends. The claim is a SELECT followed by an UPDATE by primary key,
with no lock in between.
-/

namespace ControlPlane

open Lib

def chatOrchestrateType : String := "chat.orchestrate"
def emailSendApprovedType : String := "email.send_approved"

namespace JobService

/-- `session.refresh(row)` finds the row again; rows are never deleted. -/
def found {α : Type} : Option α → Session α
  | some row => .pure row
  | none => .raise (.other "InvalidRequestError" "Could not refresh instance")

/-- Jobs that `claim_next_pending` may pick. -/
def eligible (now : Moment) (rows : List Job) : List Job :=
  rows.filter fun job => job.status = .pending ∧
    ∀ t, job.runAfter = some t → t.instant ≤ now.wall

/-- `ORDER BY created_at LIMIT 1` over the eligible jobs; the choice is among
those created at the same, earliest time. -/
def nextPending (r : Reading) (s : Database) : Option Job :=
  let jobs := eligible r.now s.jobs.rows
  let oldest := jobs.filter fun job =>
    ∀ other ∈ jobs, job.createdAt.instant ≤ other.createdAt.instant
  oldest[r.choice % oldest.length]?

variable [Deployment]

def createJob (jobType : String) (payload : Option Dict)
    (tenantId idempotencyKey : Option String) : Session Job := do
  let row : Job := {
    id := ""
    tenantId := tenantId
    type := jobType
    status := .pending
    idempotencyKey := idempotencyKey
    payloadJson := payload
    attempts := 0
    lastError := none
    runAfter := none
    createdAt := unset }
  let r ← commit (.insertJob row)
  return row.inserted r

def markJobFailed (job : Job) (message : String) : Session Unit := do
  let _ ← commit
    (.updateJob job { job with status := .failed, lastError := some message })

def getJobById (id : Json) (tenantId : Option String) : Session (Option Job) :=
  select (.job id) fun _ s => (s.job? id).filter fun job =>
    tenantId = none ∨ job.tenantId = tenantId

def getJobByIdempotencyKey (key : String) : Session (Option Job) :=
  select (.jobByIdempotencyKey key) fun _ s => s.jobs.findUnique? key

def refreshJob (id : String) : Session Job := do
  let job ← getJobById (.str id) none
  found job

/-- `claim_next_pending`. -/
def claimNextPending : Session (Option Job) := do
  let job ← select .nextPendingJob nextPending
  match job with
  | none => return none
  | some job => do
      let _ ← commit (.updateJob job { job with status := .running })
      let job ← refreshJob job.id
      return some job

def getDelivery (approvalId : Json) : Session (Option EmailDeliveryRecord) :=
  select (.delivery approvalId) fun _ s => s.delivery? approvalId

def getApproval (id : Json) : Session (Option ApprovalRequest) :=
  select (.approval id) fun _ s => s.approval? id

/-- What the approval of a send says about a retry. -/
def retryBlockedByApproval (approval : ApprovalRequest) : Option String :=
  if approval.status = .rejected then some "retry_blocked_approval_rejected"
  else if Json.truthy ((loads approval.payloadJson).get? "gmail_message_id") then
    some "retry_blocked_already_sent"
  else none

def retryBlockedByDelivery (row : EmailDeliveryRecord) : Option String :=
  if row.status = .sent ∧ Json.truthy (row.gmailMessageId.map Json.str) then
    some "retry_blocked_delivery_sent"
  else none

/-- Raise a `ValueError` unless nothing blocks. -/
def raiseIf : Option String → Session Unit
  | some message => .raise (.valueError message)
  | none => .pure ()

def assertEmailSendRetryAllowed (job : Job) : Session Unit :=
  let aid := (loads job.payloadJson).get? "approval_id"
  if Json.truthy aid then do
    let aid := aid.getD .null
    let approval ← getApproval aid
    raiseIf (approval.bind retryBlockedByApproval)
    let row ← getDelivery aid
    raiseIf (row.bind retryBlockedByDelivery)
  else return ()

def retryFailedJob (jobId : String) (tenantId : Option String) : Session Job := do
  let job ← getJobById (.str jobId) tenantId
  match job with
  | none => throw (.valueError "job_not_found")
  | some job =>
      if job.type ≠ emailSendApprovedType then
        throw (.valueError "job_not_retryable")
      else if job.status ≠ .failed then
        throw (.valueError "job_not_failed")
      else do
        assertEmailSendRetryAllowed job
        let _ ← commit
          (.updateJob job { job with status := .pending, lastError := none })
        refreshJob job.id

/-- `mark_job_succeeded`; the job was expired by the last commit and is read
again. -/
def markJobSucceeded (job : Job) (result : Dict) : Session Unit := do
  let job ← refreshJob job.id
  let _ ← commit (.updateJob job { job with
    status := .succeeded
    payloadJson := some ((loads job.payloadJson).set "result" (.obj result)) })

end JobService

end ControlPlane
