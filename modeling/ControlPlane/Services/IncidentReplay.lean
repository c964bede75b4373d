import ControlPlane.Services.EvidencePacket

/-!
`build_incident_replay` of `services/incident_replay.py`: the timeline of one
governed action and what a packet says of it.
-/

namespace ControlPlane

open Lib EvidenceGraph EvidencePackets

/-- What Python calls the type of a decoded value. -/
def Json.typeName : Json → String
  | .null => "NoneType"
  | .bool _ => "bool"
  | .num _ => "int"
  | .str _ => "str"
  | .arr _ => "list"
  | .obj _ => "dict"

/-- `v.get(key)`; only a dictionary has it. -/
def Json.getField (v : Json) (key : String) : Except PyErr Json :=
  match v with
  | .obj fields => .ok ((Dict.get? fields key).getD .null)
  | v => .error (.other "AttributeError"
      s!"'{Json.typeName v}' object has no attribute 'get'")

/-- `meta.get(key, {})`. -/
def metaField (action : GovernedAction) (key : String) : Json :=
  ((loads action.metadataJson).get? key).getD (.obj [])

namespace IncidentReplay

structure TimelineEntry where
  seq : Option Int
  action : String
  resourceType : String
  resourceId : String
  actor : Option String
  createdAt : String
  deriving DecidableEq, Repr

structure DataTouched where
  dataSensitivity : Json
  externalExposure : Json
  autonomyLevel : Json

/-- What `build_incident_replay` returns; the texts that do not depend on the
action are left out. -/
structure Replay where
  governedActionId : String
  actionType : String
  status : String
  generatedAt : String
  tenantId : Option String
  originalRequest : Json
  actor : Option String
  policyVersion : Option String
  policyVersionId : Option String
  policyDecision : Option String
  policyCategory : Json
  risk : Json
  approvals : List ApprovalEntry
  overrides : List OverrideEntry
  dataTouched : DataTouched
  evidenceArtifacts : List ArtifactEntry
  executionJob : Option JobEntry
  auditTimeline : List TimelineEntry
  auditChainVerification : EvidencePackets.Verification
  evidenceGaps : List Gap

def timelineEntry (e : AuditEvent) : TimelineEntry where
  seq := e.seq
  action := e.action
  resourceType := e.resourceType
  resourceId := e.resourceId
  actor := e.actor
  createdAt := e.createdAt.isoformat

def submitted : String := "governance_review.submitted"

/-- The actor of the first submission that has one. -/
def replayActor (events : List AuditEvent) : Option String :=
  (events.filter fun e => e.action = submitted).findSome? AuditEvent.actor

/-- `timeline.sort(key=…)`, which is stable. -/
def timeline (events : List AuditEvent) : List TimelineEntry :=
  (events.map timelineEntry).insertionSort fun a b => a.seq.getD 0 ≤ b.seq.getD 0

variable [Deployment]

def buildIncidentReplay (S : Store) (generatedAt governedActionId : String)
    (tenantId : Option String) : Except PyErr (Option Replay) :=
  match getEvidenceGraph S governedActionId tenantId with
  | none => return none
  | some graph => do
      let some packet ← buildActionPacket S generatedAt governedActionId tenantId
        | throw (.other "TypeError" "'NoneType' object is not subscriptable")
      let action := graph.governedAction
      let intake := metaField action "intake"
      let category ← Json.getField (metaField action "policy") "category"
      let dataSensitivity ← Json.getField intake "data_sensitivity"
      let externalExposure ← Json.getField intake "external_exposure"
      let autonomyLevel ← Json.getField intake "autonomy_level"
      return some {
        governedActionId := action.id
        actionType := action.actionType
        status := (packet.governedActions.head?.map ActionEntry.status).getD action.status
        generatedAt := generatedAt
        tenantId := tenantId
        originalRequest := intake
        actor := replayActor graph.auditEvents
        policyVersion := action.policyVersion
        policyVersionId := action.policyVersionId
        policyDecision := action.policyDecision
        policyCategory := category
        risk := metaField action "risk"
        approvals := packet.approvals
        overrides := packet.overrides
        dataTouched := { dataSensitivity, externalExposure, autonomyLevel }
        evidenceArtifacts := packet.evidenceArtifacts
        executionJob := graph.executionJob.map jobEntry
        auditTimeline := timeline graph.auditEvents
        auditChainVerification := packet.auditChainVerification
        evidenceGaps := packet.evidenceGaps }

end IncidentReplay

end ControlPlane
