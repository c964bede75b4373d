import ControlPlane.Services.ApprovalService
import ControlPlane.Services.EmailPersistence
import ControlPlane.Services.PolicyService

/-!
`services/email_service.py` and the result shapes of `app/schemas/results.py`:
the mail side of an orchestrated message, and the execution of an approved
send.
-/

namespace ControlPlane

open Lib

structure ArtifactRef where
  kind : String
  uri : Option String := none
  refId : Option String := none
  metadata : Dict := []

inductive ResultStatus where
  | completed
  | blocked
  | needsApproval
  deriving DecidableEq, Repr

def ResultStatus.value : ResultStatus → String
  | .completed => "completed"
  | .blocked => "blocked"
  | .needsApproval => "needs_approval"

structure ChatOrchestrateResult where
  status : ResultStatus
  summary : String
  artifacts : List ArtifactRef := []
  approvalRequired : Bool
  nextAction : Option String := none
  taskType : String
  policyCategory : String
  approvalId : Option String := none

def ArtifactRef.dump (a : ArtifactRef) : Json :=
  .obj [("kind", .str a.kind), ("uri", .ofOption a.uri),
    ("ref_id", .ofOption a.refId), ("metadata", .obj a.metadata)]

/-- `result.model_dump(mode="json")`. -/
def ChatOrchestrateResult.dump (r : ChatOrchestrateResult) : Dict :=
  [("kind", .str "chat.orchestrate"), ("status", .str r.status.value),
    ("summary", .str r.summary),
    ("artifacts", .arr (r.artifacts.map ArtifactRef.dump)),
    ("approval_required", .bool r.approvalRequired),
    ("next_action", .ofOption r.nextAction), ("task_type", .str r.taskType),
    ("policy_category", .str r.policyCategory),
    ("approval_id", .ofOption r.approvalId)]

namespace EmailService

open JobService AuditService ApprovalService EmailPersistence PolicyService

inductive EmailIntent where
  | inboxRead
  | draftReply
  | outboundSend
  deriving DecidableEq, Repr

def EmailIntent.value : EmailIntent → String
  | .inboxRead => "inbox_read"
  | .draftReply => "draft_reply"
  | .outboundSend => "outbound_send"

def isEmailRelated (message : String) : Bool :=
  let t := Text.lower message
  Text.anyOccurs (outboundPhraseMarkers ++ readMarkers) t ||
    Text.anyOccurs [" email", "email ", "gmail", "inbox", "reply to"] t

/-- The source has a further case for drafts, with the same result as the
default. -/
def classifyEmailIntent (message : String) : EmailIntent :=
  let t := Text.lower message
  if Text.anyOccurs outboundPhraseMarkers t then .outboundSend
  else if Text.anyOccurs readMarkers t then .inboxRead
  else .draftReply

def parseThreadHint (message sessionId : String) : String :=
  match Text.searchHint message.toList with
  | some hint => hint
  | none => "session:" ++ sessionId

/-- `message[:n]`. -/
def clip (n : Nat) (message : String) : String :=
  String.ofList (message.toList.take n)

/-- The validated payload of a `chat.orchestrate` job. -/
structure ChatPayload where
  sessionId : String
  message : String
  maxSteps : Int

def classificationArtifact (intent : EmailIntent) (threadHint : String)
    (result : ChatOrchestrateResult) : ArtifactRef where
  kind := "email.classification"
  metadata := [("intent", .str intent.value), ("thread_hint", .str threadHint),
    ("policy_category", .str result.policyCategory)]

variable [Deployment]

/-- `workflow_read_thread`. -/
def workflowReadThread (threadId : String) (tenantId : Option String)
    (sourceJobId : String) (intent : EmailIntent) : Session ThreadEnvelope := do
  let data ← readThread threadId
  upsertThreadRecord tenantId (Json.ofOption data.threadId).pyStr (some sourceJobId)
    (data.snippet.filter fun s => s ≠ "") (some intent.value) none
  return data

/-- The draft id is merged into the approval as it was loaded before the draft
was created; the delivery row follows. -/
def attachDraft (job : Job) (threadHint draftId : String) :
    Option ApprovalRequest → Session Unit
  | some approval => do
      mergeExecutionContext approval
        [("gmail_draft_id", .str draftId), ("thread_hint", .str threadHint),
          ("workflow", .str "email.outbound")]
      upsertOutboundDelivery job.tenantId threadHint draftId approval.id job.id
        .awaitingApproval
  | none => return ()

/-- The outbound branch. -/
def draftForApproval (job : Job) (message threadHint : String)
    (artifacts : List ArtifactRef) (result : ChatOrchestrateResult)
    (approval : Option ApprovalRequest) : Session ChatOrchestrateResult := do
  let draftId ← createDraft threadHint "Outbound (pending approval)"
    (clip 2000 message)
  attachDraft job threadHint draftId approval
  return { result with
    artifacts := artifacts ++ [{
      kind := "gmail.draft"
      refId := some draftId
      metadata := [("awaiting_approval", .bool true),
        ("thread_hint", .str threadHint)] }]
    summary := result.summary ++ " Draft prepared for gated send." }

/-- The branches of a completed result. -/
def enrichCompleted (job : Job) (intent : EmailIntent)
    (message threadHint : String) (artifacts : List ArtifactRef)
    (result : ChatOrchestrateResult) : Session ChatOrchestrateResult :=
  match intent with
  | .inboxRead => do
      let data ← workflowReadThread threadHint job.tenantId job.id intent
      return { result with
        artifacts := artifacts ++ [{
          kind := "gmail.thread"
          refId := some (Json.ofOption data.threadId).pyStr
          metadata := [("snippet", .ofOption data.snippet),
            ("message_count", .num data.messageCount)] }]
        summary := result.summary ++ " Thread envelope loaded (stub)." }
  | .draftReply => do
      upsertThreadRecord job.tenantId threadHint (some job.id) none (some intent.value) none
      let draftId ← createDraft threadHint "Draft reply"
        ("Draft regarding: " ++ clip 1500 message)
      return { result with
        artifacts := artifacts ++ [{
          kind := "gmail.draft"
          refId := some draftId
          metadata := [("thread_hint", .str threadHint)] }]
        summary := result.summary ++ " Draft created (stub)." }
  | .outboundSend => return { result with artifacts := artifacts }

/-- `enrich_orchestrate_result`. `approval` is the row behind
`result.approval_id`, as the session has loaded it. -/
def enrichOrchestrateResult (job : Job) (payload : ChatPayload)
    (result : ChatOrchestrateResult) (approval : Option ApprovalRequest) :
    Session ChatOrchestrateResult :=
  let message := payload.message
  if !isEmailRelated message then return result
  else
    let intent := classifyEmailIntent message
    let threadHint := parseThreadHint message payload.sessionId
    let artifacts :=
      classificationArtifact intent threadHint result :: result.artifacts
    match result.status with
    | .blocked => return { result with artifacts := artifacts }
    | .needsApproval =>
        if intent = .outboundSend then
          draftForApproval job message threadHint artifacts result approval
        else return { result with artifacts := artifacts }
    | .completed => enrichCompleted job intent message threadHint artifacts result

def validateSendExecutionInvariants (job : Job) (approval : ApprovalRequest) :
    Session Unit :=
  if job.type ≠ emailSendApprovedType then
    throw (.valueError "invalid_execution_job_type")
  else if (loads job.payloadJson).get? "approval_id" ≠ some (.str approval.id) then
    throw (.valueError "execution_job_approval_mismatch")
  else if job.tenantId ≠ approval.tenantId then
    throw (.valueError "tenant_mismatch_execution_job")
  else validateSendEnqueueEligibility approval

def buildSendApprovedResult (approvalId sourceJobId draftId : Json)
    (messageId : String) (decision : Json) (deduped : Bool) : Dict :=
  [("kind", .str "email.send_approved"), ("status", .str "sent"),
    ("summary", .str (if deduped then
      "Send already completed (idempotent worker replay)."
      else "Outbound message sent (stub).")),
    ("approval_id", approvalId), ("source_job_id", sourceJobId),
    ("deduped", .bool deduped),
    ("artifacts", .arr [
      .obj [("kind", .str "gmail.message"), ("ref_id", .str messageId),
        ("metadata", .obj [("draft_id", draftId)])],
      .obj [("kind", .str "approval.decision"), ("ref_id", approvalId),
        ("metadata", .obj [("decision", decision)])]])]

/-- `body.get("decision") or {}`. -/
def decisionOf (body : Dict) : Json :=
  match body.get? "decision" with
  | some v => if Json.truthy (some v) then v else .obj []
  | none => .obj []

/-- The result of a send, from the payload the job has loaded. -/
def sendResult (approvalId : Json) (body : Dict) (messageId : String)
    (deduped : Bool) : Dict :=
  buildSendApprovedResult approvalId ((body.get? "job_id").getD .null)
    ((body.get? "gmail_draft_id").getD .null) messageId (decisionOf body) deduped

/-- The send proper, and what is recorded after it. -/
def sendAndRecord (job : Job) (approval : ApprovalRequest) (draftId : Json) :
    Session String := do
  let messageId ← sendApprovedDraft approval.id draftId
  recordSendCompleted approval messageId
  markDeliverySent (.str approval.id) job.id messageId
  let _ ← record {
    action := AuditAction.sendJobSucceeded
    resourceType := "job"
    resourceId := job.id
    tenantId := job.tenantId
    metadata := some [("approval_id", .str approval.id),
      ("gmail_message_id", .str messageId)] }
  return messageId

/-- After the invariants hold: a message id on the approval means the send was
done before. -/
def executeSend (job : Job) (approvalId : Json) (approval : ApprovalRequest) :
    Session Dict :=
  let body := loads approval.payloadJson
  let draftId := body.get? "gmail_draft_id"
  if !Json.truthy draftId then throw (.valueError "missing_gmail_draft_id")
  else
    let existing := body.get? "gmail_message_id"
    if Json.truthy existing then do
      let messageId := (existing.getD .null).pyStr
      markDeliverySent approvalId job.id messageId
      return sendResult approvalId body messageId true
    else do
      let messageId ← sendAndRecord job approval (draftId.getD .null)
      return sendResult approvalId body messageId false

/-- `run_send_approved_job`. -/
def runSendApprovedJob (job : Job) : Session Dict :=
  let approvalId := (loads job.payloadJson).get? "approval_id"
  if !Json.truthy approvalId then throw (.valueError "missing_approval_id")
  else do
    let approvalId := approvalId.getD .null
    let approval ← getRequest approvalId none
    match approval with
    | none => throw (.valueError "approval_not_found")
    | some approval => do
        validateSendExecutionInvariants job approval
        executeSend job approvalId approval

end EmailService

end ControlPlane
