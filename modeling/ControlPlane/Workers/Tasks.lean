import ControlPlane.Services.ChatOrchestrate

/-!
`workers/tasks.py`: the handlers of the two job types. Each counts the attempt,
runs the service, and turns `ValueError` and `ConnectorError` into a failed job.
Any other exception leaves the handler.
-/

namespace ControlPlane.Tasks

open Lib JobService AuditService EmailPersistence EmailService ChatOrchestrate

variable [Deployment]

/-- The commit of `job.attempts + 1`, and the refresh after it. -/
def countAttempt (job : Job) : Session Job := do
  let _ ← commit (.updateJob job { job with attempts := job.attempts + 1 })
  refreshJob job.id

/-- The message a handler records for an exception it catches: `str(exc)` of a
`ValueError`, and the class name in front for a `ConnectorError`. -/
def caughtMessage : PyErr → Option String
  | .valueError message => some message
  | .connector cls message => some (cls.name ++ ":" ++ message)
  | _ => none

def handleChatOrchestrate (job : Job) : Session Unit := do
  let job ← countAttempt job
  let outcome ← tryCatch (do
      let result ← executeChatOrchestrate job
      return Except.ok result)
    fun e => match caughtMessage e with
      | some message => return Except.error message
      | none => throw e
  match outcome with
  | .error message => markJobFailed job message
  | .ok result => markJobSucceeded job result.dump

/-- `_audit_send_job_failed`. -/
def auditSendJobFailed (job : Job) (error : String) : Session Unit :=
  if job.type ≠ emailSendApprovedType then return ()
  else do
    let aid := (loads job.payloadJson).get? "approval_id"
    if Json.truthy aid then
      markDeliveryFailed (aid.getD .null) job.id error
    let _ ← record {
      action := AuditAction.sendJobFailed
      resourceType := "job"
      resourceId := job.id
      tenantId := job.tenantId
      metadata :=
        some [("error", .str error), ("approval_id", aid.getD .null)] }

def handleEmailSendApproved (job : Job) : Session Unit := do
  let job ← countAttempt job
  let outcome ← tryCatch (do
      let result ← runSendApprovedJob job
      return Except.ok result)
    fun e => match caughtMessage e with
      | some message => return Except.error message
      | none => throw e
  match outcome with
  | .error message => do
      markJobFailed job message
      auditSendJobFailed job message
  | .ok result => markJobSucceeded job result

/-- `run_task`: the error of a job type without handler, or nothing. -/
def runTask (job : Job) : Session (Option String) :=
  if job.type = chatOrchestrateType then do
    handleChatOrchestrate job
    return none
  else if job.type = emailSendApprovedType then do
    handleEmailSendApproved job
    return none
  else return some ("unknown_job_type:" ++ job.type)

end ControlPlane.Tasks
