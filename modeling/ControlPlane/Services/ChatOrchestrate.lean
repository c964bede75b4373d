import ControlPlane.Services.EmailService

/-!
`services/chat_orchestrate.py`: validation of the job payload, the policy
decision, and the pending approval of a gated message.
-/

namespace ControlPlane.ChatOrchestrate

open Lib ApprovalService EmailService PolicyService

def requiredPayloadKeys : List String := ["session_id", "message", "max_steps"]

/-- `isinstance(v, str)` and not blank; the stripped text. -/
def nonBlank : Option Json → Option String
  | some (.str s) => if Text.strip s = "" then none else some (Text.strip s)
  | _ => none

/-- `isinstance(v, int)`, of which `bool` is a subclass, and at least one. -/
def positiveInt : Option Json → Option Int
  | some (.num n) => if n < 1 then none else some n
  | some (.bool true) => some 1
  | _ => none

/-- `_validate_payload`. -/
def validatePayload (raw : Dict) : Except PyErr ChatPayload :=
  let missing := requiredPayloadKeys.filter fun k => (raw.get? k).isNone
  if !missing.isEmpty then
    .error (.valueError ("missing_fields:" ++ ",".intercalate missing))
  else match nonBlank (raw.get? "session_id") with
    | none => .error (.valueError "invalid_session_id")
    | some sessionId => match nonBlank (raw.get? "message") with
      | none => .error (.valueError "invalid_message")
      | some message => match positiveInt (raw.get? "max_steps") with
        | none => .error (.valueError "invalid_max_steps")
        | some maxSteps => .ok { sessionId, message, maxSteps }

variable [Deployment]

def contentWords : List String :=
  ["script", "draft", "caption", "thumbnail", "post"]

def taskTypeLabel (category : PolicyCategory) (message : String) : String :=
  match category with
  | .readOnly => "inbox_read"
  | .outboundSend => "outbound_message"
  | .publish => "publish_request"
  | .destructive => "destructive_request"
  | .draftOnly =>
      if Text.searchWords contentWords false (Text.lower message) then
        "content_draft"
      else "general"

/-- The result of a message the policy blocks. -/
def blockedResult (category : PolicyCategory) (taskType : String) :
    ChatOrchestrateResult where
  status := .blocked
  summary := (evaluateAction category).reason.getD "blocked_by_policy"
  approvalRequired := false
  taskType := taskType
  policyCategory := category.value

def needsApprovalResult (category : PolicyCategory) (taskType : String)
    (approval : ApprovalRequest) : ChatOrchestrateResult where
  status := .needsApproval
  summary := (evaluateAction category).reason.getD "approval_required"
  artifacts := [{
    kind := "approval.request"
    refId := some approval.id
    metadata := [("kind", .str approval.kind)] }]
  approvalRequired := true
  nextAction := some "await_approval"
  taskType := taskType
  policyCategory := category.value
  approvalId := some approval.id

def completedResult (category : PolicyCategory) (taskType : String) :
    ChatOrchestrateResult where
  status := .completed
  summary := "Classified and cleared policy; orchestration stub (no LLM or connectors)."
  approvalRequired := false
  taskType := taskType
  policyCategory := category.value

/-- What happens to a message of a category. -/
def orchestrate (job : Job) (payload : ChatPayload) (category : PolicyCategory) :
    Session ChatOrchestrateResult :=
  let evaluation := evaluateAction category
  let taskType := taskTypeLabel category payload.message
  if evaluation.blocked || !evaluation.allowed then
    enrichOrchestrateResult job payload (blockedResult category taskType) none
  else if evaluation.requiresApproval then do
    let approval ← createRequest jobGate job.tenantId job.id
      [("policy_category", .str category.value), ("task_type", .str taskType)]
    enrichOrchestrateResult job payload
      (needsApprovalResult category taskType approval) (some approval)
  else
    enrichOrchestrateResult job payload (completedResult category taskType) none

/-- `execute_chat_orchestrate`. -/
def executeChatOrchestrate (job : Job) : Session ChatOrchestrateResult := do
  let payload ← answered (validatePayload (loads job.payloadJson))
  orchestrate job payload (classifyMessagePolicyCategory payload.message)

end ControlPlane.ChatOrchestrate
