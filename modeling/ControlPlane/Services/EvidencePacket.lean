import ControlPlane.Db.StoreSession
import ControlPlane.Services.EvidenceGraph

/-!
The builders of `services/evidence_packet.py`. A packet is a structure with the
dictionary it stands for; the entries are the dictionaries of its lists. The
generation time is an argument.
-/

namespace ControlPlane

open Lib EvidenceGraph

namespace EvidencePackets

def controlMappingLanguage : String :=
  "supports evidence collection, control mapping, audit readiness, and governance workflows"

structure Verification where
  scope : String
  result : AuditService.ChainVerificationResult

structure ActionEntry where
  id : String
  actionType : String
  status : String
  deriving DecidableEq, Repr

structure ApprovalEntry where
  governedActionId : String
  id : String
  status : ApprovalStatus
  deriving DecidableEq, Repr

structure PolicyEntry where
  governedActionId : String
  policyVersion : Option String
  policyVersionId : Option String
  decision : Option String
  deriving DecidableEq, Repr

structure JobEntry where
  id : String
  status : JobStatus
  deriving DecidableEq, Repr

structure ExecutionEntry where
  governedActionId : String
  sourceJob : Option JobEntry
  executionJob : Option JobEntry
  deriving DecidableEq, Repr

structure AuditEntry where
  id : String
  seq : Option Int
  action : String
  resourceType : String
  resourceId : String
  deriving DecidableEq, Repr

structure ControlEntry where
  governedActionId : String
  code : Option String
  title : Option String
  framework : Option String
  deriving DecidableEq, Repr

structure ArtifactEntry where
  governedActionId : String
  id : String
  artifactType : String
  uri : Option String
  deriving DecidableEq, Repr

structure OverrideEntry where
  governedActionId : String
  id : String
  overriddenByUserId : Option String
  reason : String
  authorityBasis : String
  acceptedRisk : Option String
  compensatingControl : String
  expiration : Option Datetime
  status : String
  deriving DecidableEq, Repr

structure WorkflowEntry where
  id : String
  name : String
  deriving DecidableEq, Repr

structure TimeRange where
  startAt : Option Datetime
  endAt : Option Datetime
  deriving DecidableEq, Repr

/-- The gaps a packet can report. -/
inductive Gap where
  | brokenAuditChain
  | missingApproval
  | missingAuditRecords
  | missingControlMappings
  | missingEvidenceArtifacts
  deriving DecidableEq, Repr

def Gap.value : Gap → String
  | .brokenAuditChain => "broken_audit_chain"
  | .missingApproval => "missing_approval"
  | .missingAuditRecords => "missing_audit_records"
  | .missingControlMappings => "missing_control_mappings"
  | .missingEvidenceArtifacts => "missing_evidence_artifacts"

/-- The gaps in the order of their texts. -/
def Gap.all : List Gap :=
  [.brokenAuditChain, .missingApproval, .missingAuditRecords, .missingControlMappings,
    .missingEvidenceArtifacts]

structure Packet where
  packetType : String
  scopeId : Option String
  tenantId : Option String
  generatedAt : String
  workflow : Option WorkflowEntry
  timeRange : Option TimeRange
  governedActions : List ActionEntry
  approvals : List ApprovalEntry
  policyDecisions : List PolicyEntry
  executionHistory : List ExecutionEntry
  auditEvents : List AuditEntry
  auditChainVerification : Verification
  mappedControls : List ControlEntry
  mappedRegulations : List String
  evidenceArtifacts : List ArtifactEntry
  overrides : List OverrideEntry
  evidenceGaps : List Gap
  executiveSummary : String

/-- `_effective_action_status`: the status shown for an action. -/
def effectiveActionStatus (action : GovernedAction) (approval : Option ApprovalRequest) :
    String :=
  if action.status = overrideRecorded then overrideRecorded
  else match approval with
    | some row => match row.status with
      | .pending => "pending_approval"
      | .approved => "approved"
      | .rejected => "rejected"
    | none => action.status

def actionEntry (graph : ActionGraph) : ActionEntry where
  id := graph.governedAction.id
  actionType := graph.governedAction.actionType
  status := effectiveActionStatus graph.governedAction graph.approval

def approvalEntries (graph : ActionGraph) : List ApprovalEntry :=
  graph.approval.toList.map fun row =>
    { governedActionId := graph.governedAction.id, id := row.id, status := row.status }

def policyEntry (graph : ActionGraph) : PolicyEntry where
  governedActionId := graph.governedAction.id
  policyVersion := graph.governedAction.policyVersion
  policyVersionId := graph.governedAction.policyVersionId
  decision := graph.governedAction.policyDecision

def jobEntry (job : Job) : JobEntry := { id := job.id, status := job.status }

def executionEntry (graph : ActionGraph) : ExecutionEntry where
  governedActionId := graph.governedAction.id
  sourceJob := graph.sourceJob.map jobEntry
  executionJob := graph.executionJob.map jobEntry

def auditEntry (event : AuditEvent) : AuditEntry where
  id := event.id
  seq := event.seq
  action := event.action
  resourceType := event.resourceType
  resourceId := event.resourceId

def controlEntries (graph : ActionGraph) : List ControlEntry :=
  graph.controlMappings.map fun mapping =>
    { governedActionId := graph.governedAction.id
      code := mapping.control.map Control.code
      title := mapping.control.map Control.title
      framework := mapping.framework.map ControlFramework.name }

def regulationNames (graph : ActionGraph) : List String :=
  graph.controlMappings.filterMap fun mapping => mapping.regulation.map Regulation.name

def artifactEntries (graph : ActionGraph) : List ArtifactEntry :=
  graph.evidenceArtifacts.map fun artifact =>
    { governedActionId := graph.governedAction.id
      id := artifact.id
      artifactType := artifact.artifactType
      uri := artifact.uri }

def overrideEntries (graph : ActionGraph) : List OverrideEntry :=
  graph.overrides.map fun ov =>
    { governedActionId := graph.governedAction.id
      id := ov.id
      overriddenByUserId := ov.overriddenByUserId
      reason := ov.reason
      authorityBasis := ov.authorityBasis
      acceptedRisk := ov.acceptedRisk
      compensatingControl := ov.compensatingControl
      expiration := ov.expiration
      status := ov.status }

/-- The gaps one graph adds to the set. -/
def graphGaps (graph : ActionGraph) : List Gap :=
  (if graph.approval.isNone then [.missingApproval] else []) ++
  (if graph.auditEvents.isEmpty then [.missingAuditRecords] else []) ++
  (if graph.controlMappings.isEmpty then [.missingControlMappings] else []) ++
  (if graph.evidenceArtifacts.isEmpty then [.missingEvidenceArtifacts] else [])

/-- `_summary`. -/
def summary (packetType : String) (tenantId : Option String)
    (actions approvals events controls artifacts gaps : Nat) (chain : String) : String :=
  s!"Evidence packet ({packetType}) for tenant " ++ tenantId.getD "None" ++ ": " ++
  s!"{actions} governed action(s), {approvals} approval(s), " ++
  s!"{events} audit event(s), {controls} mapped control(s), " ++
  s!"{artifacts} evidence artifact(s). Audit chain verification: {chain}. " ++
  s!"{gaps} evidence gap(s) identified. " ++
  s!"This packet {controlMappingLanguage}."

/-- `sorted(set(names))`. -/
def sortedNames (names : List String) : List String :=
  names.dedup.insertionSort fun a b => a ≤ b

def gapSet (verification : Verification) (graphs : List ActionGraph) : List Gap :=
  let gaps := graphs.flatMap graphGaps ++
    (if verification.result.status = .failed then [.brokenAuditChain] else [])
  Gap.all.filter fun gap => gaps.contains gap

def chainStatus : AuditService.ChainStatus → String
  | .verified => "verified"
  | .failed => "failed"
  | .empty => "empty"

def assemble (generatedAt packetType : String) (scopeId tenantId : Option String)
    (graphs : List ActionGraph) (workflow : Option Workflow)
    (timeRange : Option TimeRange) (verification : Verification) : Packet :=
  let approvals := graphs.flatMap approvalEntries
  let auditEvents := graphs.flatMap fun graph => graph.auditEvents.map auditEntry
  let mappedControls := graphs.flatMap controlEntries
  let evidenceArtifacts := graphs.flatMap artifactEntries
  let evidenceGaps := gapSet verification graphs
  { packetType := packetType
    scopeId := scopeId
    tenantId := tenantId
    generatedAt := generatedAt
    workflow := workflow.map fun w => { id := w.id, name := w.name }
    timeRange := timeRange
    governedActions := graphs.map actionEntry
    approvals := approvals
    policyDecisions := graphs.map policyEntry
    executionHistory := graphs.map executionEntry
    auditEvents := auditEvents
    auditChainVerification := verification
    mappedControls := mappedControls
    mappedRegulations := sortedNames (graphs.flatMap regulationNames)
    evidenceArtifacts := evidenceArtifacts
    overrides := graphs.flatMap overrideEntries
    evidenceGaps := evidenceGaps
    executiveSummary := summary packetType tenantId graphs.length approvals.length
      auditEvents.length mappedControls.length evidenceArtifacts.length
      evidenceGaps.length (chainStatus verification.result.status) }

section

variable [Deployment]

/-- `_verify`. -/
def verify (S : Store) (tenantId : Option String) : Except PyErr Verification :=
  match tenantId with
  | some t => (AuditService.verifyTenantEvents S.db t).map fun result =>
      { scope := "tenant_self_hash", result := result }
  | none => (AuditService.verifyChain S.db.auditEvents.rows).map fun result =>
      { scope := "global_chain", result := result }

def buildActionPacket (S : Store) (generatedAt governedActionId : String)
    (tenantId : Option String) : Except PyErr (Option Packet) :=
  match getEvidenceGraph S governedActionId tenantId with
  | none => return none
  | some graph => do
      let verification ← verify S tenantId
      return some (assemble generatedAt "governed_action" (some governedActionId) tenantId
        [graph] graph.workflow none verification)

def graphsOf (S : Store) (actions : List GovernedAction) (tenantId : Option String) :
    List ActionGraph :=
  actions.filterMap fun action => getEvidenceGraph S action.id tenantId

def buildWorkflowPacket (S : Store) (generatedAt workflowId : String)
    (tenantId : Option String) : Except PyErr (Option Packet) :=
  match getWorkflow S.governance workflowId tenantId with
  | none => return none
  | some workflow => do
      let actions :=
        listGovernedActions S.governance tenantId (some workflowId) none none
      let verification ← verify S tenantId
      return some (assemble generatedAt "workflow" (some workflowId) tenantId
        (graphsOf S actions tenantId) (some workflow) none verification)

def buildTenantPacket (S : Store) (generatedAt tenantId : String)
    (startAt endAt : Option Datetime) : Except PyErr Packet := do
  let actions := listGovernedActions S.governance (some tenantId) none startAt endAt
  let timeRange : Option TimeRange :=
    if startAt.isSome || endAt.isSome then some { startAt, endAt } else none
  let verification ← verify S (some tenantId)
  return assemble generatedAt "tenant" (some tenantId) (some tenantId)
    (graphsOf S actions (some tenantId)) none timeRange verification

end

end EvidencePackets

end ControlPlane
