import ControlPlane.Db.Identity

/-!
The governance tables of `db/models.py`: policies, the control catalogue, the
evidence graph and what is derived from it. A metadata column holds the
dictionary its text decodes to, since the services write it with `json.dumps`
and read it with `json.loads`; the exports of a packet stay text.
-/

namespace ControlPlane

open Lib

structure GovernancePolicy where
  id : String
  tenantId : Option String
  name : String
  version : String
  rulesJson : Option Dict
  isActive : Bool
  status : String
  effectiveFrom : Option Datetime
  effectiveTo : Option Datetime
  createdByUserId : Option String
  approvedByUserId : Option String
  changeReason : Option String
  createdAt : Datetime

structure Regulation where
  id : String
  name : String
  jurisdiction : Option String
  description : Option String
  deriving DecidableEq, Repr

structure ControlFramework where
  id : String
  name : String
  version : String
  description : Option String
  deriving DecidableEq, Repr

structure Control where
  id : String
  frameworkId : String
  code : String
  title : String
  description : Option String
  deriving DecidableEq, Repr

structure AiSystem where
  id : String
  tenantId : Option String
  name : String
  description : Option String
  ownerUserId : Option String
  createdAt : Datetime

structure Workflow where
  id : String
  tenantId : Option String
  aiSystemId : Option String
  name : String
  description : Option String
  createdAt : Datetime

structure GovernedAction where
  id : String
  tenantId : Option String
  workflowId : Option String
  sourceJobId : Option String
  approvalId : Option String
  executionJobId : Option String
  actionType : String
  policyVersion : Option String
  policyVersionId : Option String
  policyDecision : Option String
  status : String
  metadataJson : Option Dict
  createdAt : Datetime

structure RiskAssessment where
  id : String
  tenantId : Option String
  riskLevel : String
  summary : Option String
  metadataJson : Option Dict

structure GovernedActionControlMapping where
  id : String
  tenantId : Option String
  governedActionId : String
  controlId : String
  regulationId : Option String
  rationale : Option String

structure EvidenceArtifact where
  id : String
  tenantId : Option String
  governedActionId : Option String
  artifactType : String
  uri : Option String
  metadataJson : Option Dict
  createdAt : Datetime

structure EvidencePacket where
  id : String
  tenantId : Option String
  scopeType : String
  scopeId : Option String
  jsonExport : Option String
  markdownExport : Option String
  createdByUserId : Option String
  packetHash : Option String
  version : Option Int
  retentionStatus : String
  packetSignature : Option String
  signatureAlgorithm : Option String
  signedAt : Option Datetime
  expiresAt : Option Datetime
  revokedAt : Option Datetime
  revocationReason : Option String
  createdAt : Datetime

structure ActionOverride where
  id : String
  tenantId : Option String
  governedActionId : String
  overriddenByUserId : Option String
  reason : String
  authorityBasis : String
  acceptedRisk : Option String
  compensatingControl : String
  expiration : Option Datetime
  status : String

structure TrustScore where
  id : String
  tenantId : Option String
  scopeType : String
  scopeId : String
  score : Int
  scoreBand : String
  scoreBreakdown : Option Json
  version : Int
  createdAt : Datetime

structure TrustVerification where
  id : String
  tenantId : Option String
  subjectType : String
  subjectId : String
  status : String
  evidencePacketId : Option String
  trustScoreId : Option String
  trustScore : Option Int
  minScoreRequired : Int
  requestedByUserId : Option String
  reviewedByUserId : Option String
  decidedByUserId : Option String
  reviewNotes : Option String
  decisionReason : Option String
  reviewedAt : Option Datetime
  decidedAt : Option Datetime

abbrev PolicyTable :=
  Table GovernancePolicy String (String × String × String) GovernancePolicy.id
    fun row => row.tenantId.map fun t => (t, row.name, row.version)

abbrev RegulationTable :=
  Table Regulation String String Regulation.id fun row => some row.name

abbrev FrameworkTable :=
  Table ControlFramework String (String × String) ControlFramework.id
    fun row => some (row.name, row.version)

abbrev ControlTable :=
  Table Control String (String × String) Control.id
    fun row => some (row.frameworkId, row.code)

abbrev AiSystemTable :=
  Table AiSystem String (String × String) AiSystem.id
    fun row => row.tenantId.map fun t => (t, row.name)

abbrev WorkflowTable :=
  Table Workflow String (String × String) Workflow.id
    fun row => row.tenantId.map fun t => (t, row.name)

/-- The columns of `uq_governed_action_tenant_job`. -/
def GovernedAction.tenantJob (row : GovernedAction) : Option (String × String) :=
  row.tenantId.bind fun t => row.sourceJobId.map fun job => (t, job)

abbrev ActionTable :=
  Table GovernedAction String (String × String) GovernedAction.id
    GovernedAction.tenantJob

abbrev RiskTable :=
  Table RiskAssessment String Empty RiskAssessment.id fun _ => none

abbrev MappingTable :=
  Table GovernedActionControlMapping String (String × String × String)
    GovernedActionControlMapping.id
    fun row => row.tenantId.map fun t => (t, row.governedActionId, row.controlId)

abbrev ArtifactTable :=
  Table EvidenceArtifact String Empty EvidenceArtifact.id fun _ => none

abbrev PacketTable :=
  Table EvidencePacket String Empty EvidencePacket.id fun _ => none

abbrev OverrideTable :=
  Table ActionOverride String Empty ActionOverride.id fun _ => none

abbrev ScoreTable := Table TrustScore String Empty TrustScore.id fun _ => none

abbrev VerificationTable :=
  Table TrustVerification String Empty TrustVerification.id fun _ => none

structure Governance where
  policies : PolicyTable := Table.empty
  regulations : RegulationTable := Table.empty
  frameworks : FrameworkTable := Table.empty
  controls : ControlTable := Table.empty
  aiSystems : AiSystemTable := Table.empty
  workflows : WorkflowTable := Table.empty
  actions : ActionTable := Table.empty
  risks : RiskTable := Table.empty
  mappings : MappingTable := Table.empty
  artifacts : ArtifactTable := Table.empty
  packets : PacketTable := Table.empty
  overrides : OverrideTable := Table.empty
  scores : ScoreTable := Table.empty
  verifications : VerificationTable := Table.empty

/-- The whole database. -/
structure Store where
  db : Database := {}
  identity : Identity := {}
  governance : Governance := {}

end ControlPlane
