import ControlPlane.Services.Reads

/-!
The reads of `services/evidence_graph.py`: the nodes of the graph in a caller's
scope, and the assembled graph of one governed action. The assembler runs many
SELECTs in one transaction; here it is a function of one store.
-/

namespace ControlPlane

open Lib

namespace EvidenceGraph

/-- `_scoped`. -/
def ifScoped {α : Type} (tenant : α → Option String) (tenantId : Option String)
    (row : Option α) : Option α :=
  row.filter fun r => inScope tenantId (tenant r)

/-- `session.get(Model, id) if id else None`. -/
def linked {α : Type} (id : Option String) (get : String → Option α) : Option α :=
  if falsy id then none else id.bind get

def getWorkflow (g : Governance) (workflowId : String) (tenantId : Option String) :
    Option Workflow :=
  ifScoped Workflow.tenantId tenantId (g.workflows.find? workflowId)

def getGovernedAction (g : Governance) (governedActionId : String)
    (tenantId : Option String) : Option GovernedAction :=
  ifScoped GovernedAction.tenantId tenantId (g.actions.find? governedActionId)

/-- The bounds are compared with `created_at`. -/
def listGovernedActions (g : Governance) (tenantId workflowId : Option String)
    (startAt endAt : Option Datetime) : List GovernedAction :=
  newestFirst GovernedAction.createdAt <| g.actions.rows.filter fun row =>
    inScope tenantId row.tenantId &&
      (workflowId = none || row.workflowId = workflowId) &&
      (startAt.all fun t => t.instant ≤ row.createdAt.instant) &&
      (endAt.all fun t => row.createdAt.instant ≤ t.instant)

def listEvidenceArtifacts (g : Governance) (tenantId governedActionId : Option String) :
    List EvidenceArtifact :=
  newestFirst EvidenceArtifact.createdAt <| g.artifacts.rows.filter fun row =>
    inScope tenantId row.tenantId &&
      (governedActionId = none || row.governedActionId = governedActionId)

/-- A mapped control with what the catalogue says of it. -/
structure ControlMapping where
  control : Option Control
  framework : Option ControlFramework
  regulation : Option Regulation
  rationale : Option String

/-- What `get_evidence_graph` returns; the policy decision is the two columns of
the action. -/
structure ActionGraph where
  governedAction : GovernedAction
  aiSystem : Option AiSystem
  workflow : Option Workflow
  approval : Option ApprovalRequest
  sourceJob : Option Job
  executionJob : Option Job
  auditEvents : List AuditEvent
  controlMappings : List ControlMapping
  evidenceArtifacts : List EvidenceArtifact
  overrides : List ActionOverride

def controlMapping (g : Governance) (mapping : GovernedActionControlMapping) :
    ControlMapping :=
  let control := g.controls.find? mapping.controlId
  { control := control
    framework := control.bind fun c => g.frameworks.find? c.frameworkId
    regulation := linked mapping.regulationId g.regulations.find?
    rationale := mapping.rationale }

/-- The ids whose audit events belong to an action: its own and the linked ones. -/
def resourceIds (action : GovernedAction) : List String :=
  ([some action.id, action.approvalId, action.sourceJobId,
    action.executionJobId].filterMap id).filter fun rid => rid ≠ ""

variable [Deployment]

def actionEvents (db : Database) (action : GovernedAction) (tenantId : Option String) :
    List AuditEvent :=
  (db.auditEvents.rows.filter fun row =>
    (resourceIds action).contains row.resourceId && inScope tenantId row.tenantId
  ).insertionSort fun a b => AuditService.seqLe a b

def getEvidenceGraph (S : Store) (governedActionId : String)
    (tenantId : Option String) : Option ActionGraph := do
  let g := S.governance
  let action ← getGovernedAction g governedActionId tenantId
  let workflow := linked action.workflowId fun id => getWorkflow g id tenantId
  return {
    governedAction := action
    aiSystem := workflow.bind fun w => linked w.aiSystemId fun id =>
      ifScoped AiSystem.tenantId tenantId (g.aiSystems.find? id)
    workflow := workflow
    approval := linked action.approvalId fun id =>
      ifScoped ApprovalRequest.tenantId tenantId (S.db.approvals.find? id)
    sourceJob := linked action.sourceJobId fun id =>
      ifScoped Job.tenantId tenantId (S.db.jobs.find? id)
    executionJob := linked action.executionJobId fun id =>
      ifScoped Job.tenantId tenantId (S.db.jobs.find? id)
    auditEvents := actionEvents S.db action tenantId
    controlMappings := (g.mappings.rows.filter fun row =>
      row.governedActionId = action.id && inScope tenantId row.tenantId).map
        (controlMapping g)
    evidenceArtifacts := listEvidenceArtifacts g tenantId (some action.id)
    overrides := g.overrides.rows.filter fun row =>
      row.governedActionId = action.id && inScope tenantId row.tenantId }

end EvidenceGraph

end ControlPlane
