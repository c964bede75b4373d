import ControlPlane.Services.IncidentReplay
import ControlPlane.Services.PolicyVersionService
import ControlPlane.Services.RiskService

/-!
`services/governance_workflow.py`: the governance review of a vendor, from the
intake over policy and risk to the governed action with its approval gate, and
the two reads of a run. The writes to the graph are those of
`services/evidence_graph.py`.
-/

namespace ControlPlane

open Lib EvidenceGraph

namespace EvidenceGraph

section

variable [Deployment]

/-- The columns of a new action that its callers choose. -/
structure NewAction where
  tenantId : Option String
  actionType : String
  policyVersion : Option String := none
  policyVersionId : Option String := none
  policyDecision : Option String := none
  status : String := "pending"
  metadata : Dict := []

/-- `json.dumps(metadata) if metadata else None`. -/
def metadataColumn (metadata : Dict) : Option Dict :=
  if metadata.isEmpty then none else some metadata

def NewAction.row (new : NewAction) : GovernedAction where
  id := ""
  tenantId := new.tenantId
  workflowId := none
  sourceJobId := none
  approvalId := none
  executionJobId := none
  actionType := new.actionType
  policyVersion := new.policyVersion
  policyVersionId := new.policyVersionId
  policyDecision := new.policyDecision
  status := new.status
  metadataJson := metadataColumn new.metadata
  createdAt := unset

def createGovernedAction (new : NewAction) : StoreSession GovernedAction := do
  let r ← commitChange (.insertAction new.row)
  let row ← peek fun S => S.governance.actions.find? r.newId
  foundAgain row

def createRiskAssessment (tenantId : Option String) (riskLevel : String)
    (summary : Option String) (metadata : Dict) : StoreSession RiskAssessment := do
  let r ← commitChange (.insertRisk {
    id := ""
    tenantId := tenantId
    riskLevel := riskLevel
    summary := summary
    metadataJson := metadataColumn metadata })
  let row ← peek fun S => S.governance.risks.find? r.newId
  foundAgain row

def recordEvidenceArtifact (tenantId : Option String) (artifactType : String)
    (governedActionId uri : Option String) (metadata : Dict) :
    StoreSession EvidenceArtifact := do
  let r ← commitChange (.insertArtifact {
    id := ""
    tenantId := tenantId
    governedActionId := governedActionId
    artifactType := artifactType
    uri := uri
    metadataJson := metadataColumn metadata
    createdAt := unset })
  let row ← peek fun S => S.governance.artifacts.find? r.newId
  foundAgain row

end

end EvidenceGraph

namespace GovernanceWorkflow

open PolicyService RiskService PolicyVersionService

def actionType : String := "ai_vendor.governance_review"
def policyVersion : String := "pilot-v1"

structure Intake where
  vendorName : String
  systemType : String
  intendedUse : String
  dataSensitivity : Option String
  externalExposure : Bool
  autonomyLevel : Option String

def Intake.fields (intake : Intake) : Dict :=
  [("vendor_name", .str intake.vendorName),
    ("system_type", .str intake.systemType),
    ("intended_use", .str intake.intendedUse),
    ("data_sensitivity", .ofOption intake.dataSensitivity),
    ("external_exposure", .bool intake.externalExposure),
    ("autonomy_level", .ofOption intake.autonomyLevel)]

def policyCategoryFor (externalExposure : Bool) (autonomyLevel : Option String) :
    PolicyCategory :=
  let autonomy := normalized (autonomyLevel.getD "")
  if externalExposure || autonomy = "autonomous" || autonomy = "semi_autonomous" then
    .outboundSend
  else .draftOnly

def Intake.category (intake : Intake) : PolicyCategory :=
  policyCategoryFor intake.externalExposure intake.autonomyLevel

def Intake.policy (intake : Intake) : PolicyEvaluation :=
  evaluateAction intake.category

def Intake.risk (intake : Intake) : RiskResult :=
  classifyRisk intake.dataSensitivity intake.externalExposure intake.autonomyLevel
    (some intake.category)

def Intake.requiresApproval (intake : Intake) : Bool :=
  intake.policy.requiresApproval || intake.risk.level = "medium" ||
    intake.risk.level = "high"

def Intake.status (intake : Intake) : String :=
  if intake.policy.blocked then "blocked"
  else if intake.requiresApproval then "pending_approval"
  else "cleared"

def reasonsJson (risk : RiskResult) : Json := .arr (risk.reasons.map Json.str)

def riskJson (risk : RiskResult) : Json :=
  .obj [("level", .str risk.level), ("score", .num risk.score),
    ("reasons", reasonsJson risk)]

def policyJson (policy : PolicyEvaluation) : Dict :=
  [("category", .str policy.category.value),
    ("requires_approval", .bool policy.requiresApproval),
    ("blocked", .bool policy.blocked),
    ("reason", .ofOption policy.reason)]

/-- The action of a submission, bound to the policy version in effect. -/
def Intake.action (intake : Intake) (tenantId : Option String)
    (active : Option GovernancePolicy) : NewAction :=
  let policyVersionId := active.map GovernancePolicy.id
  let label := (active.map GovernancePolicy.version).getD policyVersion
  { tenantId := tenantId
    actionType := actionType
    policyVersion := some label
    policyVersionId := policyVersionId
    policyDecision := some intake.category.value
    status := intake.status
    metadata := [
      ("intake", .obj intake.fields),
      ("policy", .obj (policyJson intake.policy ++
        [("policy_version_id", .ofOption policyVersionId),
          ("policy_version", .str label)])),
      ("risk", riskJson intake.risk)] }

section

variable [Deployment]

def audit (action gaId : String) (tenantId actor : Option String) (metadata : Dict) :
    StoreSession AuditEvent :=
  recordEvent {
    action := action
    resourceType := "governed_action"
    resourceId := gaId
    tenantId := tenantId
    actor := actor
    actionType := some actionType
    metadata := some metadata }

/-- The approval gate of an action that requires one. -/
def openGate (intake : Intake) (tenantId actor : Option String) (actionId : String) :
    StoreSession String := do
  let approval ← inPipeline (ApprovalService.createRequest "governance.review" tenantId
    actionId [("workflow", .str actionType), ("governed_action_id", .str actionId),
      ("risk_level", .str intake.risk.level),
      ("policy_category", .str intake.category.value)])
  let _ ← commitChange (.linkApproval actionId approval.id)
  let _ ← audit "governance_review.approval_required" actionId tenantId actor
    [("approval_id", .str approval.id), ("risk_level", .str intake.risk.level)]
  return approval.id

/-- What a submission does after its three audit events. -/
def settle (intake : Intake) (tenantId actor : Option String) (actionId : String) :
    StoreSession (Option String) :=
  if intake.policy.blocked then do
    let _ ← audit "governance_review.blocked" actionId tenantId actor
      [("reason", .ofOption intake.policy.reason)]
    return none
  else if intake.requiresApproval then do
    let approvalId ← openGate intake tenantId actor actionId
    return some approvalId
  else do
    let _ ← audit "governance_review.auto_cleared" actionId tenantId actor
      [("risk_level", .str intake.risk.level)]
    return none

structure ReviewSummary where
  governedActionId : String
  status : String
  requiresApproval : Bool
  approvalId : Option String
  policy : PolicyEvaluation
  risk : RiskResult

def submitVendorGovernanceReview (tenantId actor : Option String) (intake : Intake) :
    StoreSession ReviewSummary := do
  let active ← peek fun S => getActive S.governance tenantId defaultPolicyName
  let action ← createGovernedAction (intake.action tenantId active)
  let _ ← createRiskAssessment tenantId intake.risk.level
    (some s!"{intake.vendorName}: {intake.risk.level} risk (score {intake.risk.score})")
    [("reasons", reasonsJson intake.risk), ("governed_action_id", .str action.id)]
  let _ ← audit "governance_review.submitted" action.id tenantId actor
    [("vendor_name", .str intake.vendorName), ("system_type", .str intake.systemType)]
  let _ ← audit "governance_review.policy_evaluated" action.id tenantId actor
    [("category", .str intake.category.value),
      ("requires_approval", .bool intake.policy.requiresApproval),
      ("blocked", .bool intake.policy.blocked)]
  let _ ← audit "governance_review.risk_classified" action.id tenantId actor
    [("level", .str intake.risk.level), ("score", .num intake.risk.score),
      ("reasons", reasonsJson intake.risk)]
  let approvalId ← settle intake tenantId actor action.id
  let _ ← recordEvidenceArtifact tenantId "governance_review_intake" (some action.id) none
    [("intake", .obj intake.fields), ("risk_level", .str intake.risk.level),
      ("policy_category", .str intake.category.value)]
  return {
    governedActionId := action.id
    status := intake.status
    requiresApproval := intake.requiresApproval
    approvalId := approvalId
    policy := intake.policy
    risk := intake.risk }

end

/-- `_run_status`. -/
def runStatus (action : GovernedAction) (approval : Option ApprovalRequest) :
    Except PyErr String := do
  let blocked ← Json.getField (metaField action "policy") "blocked"
  if Json.truthy (some blocked) then return "blocked"
  else match action.approvalId, approval with
    | none, _ => return "cleared"
    | some _, none => return action.status
    | some _, some row => match row.status with
      | .pending => return "pending_approval"
      | .approved => return "approved"
      | .rejected => return "rejected"

structure RunView where
  governedActionId : String
  actionType : String
  status : String
  approvalId : Option String
  approvalStatus : Option ApprovalStatus
  policy : Option Json
  risk : Option Json
  intake : Option Json
  auditEventCount : Nat
  evidenceArtifactCount : Nat

/-- An entry of `list_runs`. -/
structure RunEntry where
  governedActionId : String
  status : String
  approvalId : Option String
  risk : Option Json
  policyDecision : Option String

def getRun [Deployment] (S : Store) (governedActionId : String)
    (tenantId : Option String) : Except PyErr (Option RunView) :=
  match getEvidenceGraph S governedActionId tenantId with
  | none => return none
  | some graph => do
      let action := graph.governedAction
      let status ← runStatus action graph.approval
      let actionEvents := AuditService.listForResource S.db "governed_action" action.id
        tenantId
      return some {
        governedActionId := action.id
        actionType := action.actionType
        status := status
        approvalId := action.approvalId
        approvalStatus := graph.approval.map ApprovalRequest.status
        policy := (loads action.metadataJson).get? "policy"
        risk := (loads action.metadataJson).get? "risk"
        intake := (loads action.metadataJson).get? "intake"
        auditEventCount := ((actionEvents ++ graph.auditEvents).map
          AuditEvent.id).dedup.length
        evidenceArtifactCount := graph.evidenceArtifacts.length }

/-- The status of an entry is the one stored with the action. -/
def runEntry (action : GovernedAction) : RunEntry where
  governedActionId := action.id
  status := action.status
  approvalId := action.approvalId
  risk := (loads action.metadataJson).get? "risk"
  policyDecision := action.policyDecision

def listRuns (g : Governance) (tenantId : Option String) : List RunEntry :=
  ((listGovernedActions g tenantId none none none).filter fun action =>
    action.actionType = actionType).map runEntry

end GovernanceWorkflow

end ControlPlane
