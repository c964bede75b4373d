import ControlPlane.Services.EvidencePacket
import ControlPlane.Services.EvidenceStore

/-!
The dictionary that `_assemble` of `services/evidence_packet.py` returns, key by key and in its
order. No key occurs twice, so it is a document that can be persisted.
-/

namespace ControlPlane

open Lib EvidenceGraph

namespace EvidencePackets

def ActionEntry.dict (e : ActionEntry) : Json :=
  .obj [("id", .str e.id), ("action_type", .str e.actionType), ("status", .str e.status)]

def ApprovalEntry.dict (e : ApprovalEntry) : Json :=
  .obj [("governed_action_id", .str e.governedActionId), ("id", .str e.id),
    ("status", .str e.status.value)]

def PolicyEntry.dict (e : PolicyEntry) : Json :=
  .obj [("governed_action_id", .str e.governedActionId),
    ("policy_version", .ofOption e.policyVersion),
    ("policy_version_id", .ofOption e.policyVersionId), ("decision", .ofOption e.decision)]

def JobEntry.dict (e : JobEntry) : Json :=
  .obj [("id", .str e.id), ("status", .str e.status.value)]

/-- A dictionary or `None`. -/
def optional {α : Type} (dict : α → Json) : Option α → Json
  | some e => dict e
  | none => .null

def ExecutionEntry.dict (e : ExecutionEntry) : Json :=
  .obj [("governed_action_id", .str e.governedActionId),
    ("source_job", optional JobEntry.dict e.sourceJob),
    ("execution_job", optional JobEntry.dict e.executionJob)]

def AuditEntry.dict (e : AuditEntry) : Json :=
  .obj [("id", .str e.id), ("seq", EvidenceSignature.numOrNull e.seq), ("action", .str e.action),
    ("resource_type", .str e.resourceType), ("resource_id", .str e.resourceId)]

def ControlEntry.dict (e : ControlEntry) : Json :=
  .obj [("governed_action_id", .str e.governedActionId), ("code", .ofOption e.code),
    ("title", .ofOption e.title), ("framework", .ofOption e.framework)]

def ArtifactEntry.dict (e : ArtifactEntry) : Json :=
  .obj [("governed_action_id", .str e.governedActionId), ("id", .str e.id),
    ("artifact_type", .str e.artifactType), ("uri", .ofOption e.uri)]

def OverrideEntry.dict (e : OverrideEntry) : Json :=
  .obj [("governed_action_id", .str e.governedActionId), ("id", .str e.id),
    ("overridden_by_user_id", .ofOption e.overriddenByUserId), ("reason", .str e.reason),
    ("authority_basis", .str e.authorityBasis), ("accepted_risk", .ofOption e.acceptedRisk),
    ("compensating_control", .str e.compensatingControl),
    ("expiration", .ofOption (e.expiration.map Datetime.isoformat)), ("status", .str e.status)]

def Verification.dict (v : Verification) : Json :=
  .obj [("scope", .str v.scope), ("status", .str (chainStatus v.result.status)),
    ("ok", .bool v.result.ok), ("verified_count", .num v.result.verifiedCount),
    ("total_count", .num v.result.totalCount), ("reason", .ofOption v.result.reason),
    ("broken_at_seq", EvidenceSignature.numOrNull v.result.brokenAtSeq)]

def WorkflowEntry.dict (e : WorkflowEntry) : Json :=
  .obj [("id", .str e.id), ("name", .str e.name)]

def TimeRange.dict (r : TimeRange) : Json :=
  .obj [("start_at", .ofOption (r.startAt.map Datetime.isoformat)),
    ("end_at", .ofOption (r.endAt.map Datetime.isoformat))]

def disclaimer : String :=
  "This packet supports evidence collection, control mapping, audit readiness, " ++
  "and governance workflows. It is provided for audit-readiness and governance " ++
  "review only and is not a certification, guarantee, or regulatory " ++
  "determination of compliance."

def Packet.fields (p : Packet) : Dict :=
  [("packet_type", .str p.packetType), ("scope_id", .ofOption p.scopeId),
    ("tenant_id", .ofOption p.tenantId), ("generated_at", .str p.generatedAt),
    ("tenant", .obj [("id", .ofOption p.tenantId)]),
    ("workflow", optional WorkflowEntry.dict p.workflow),
    ("time_range", optional TimeRange.dict p.timeRange),
    ("governed_actions", .arr (p.governedActions.map ActionEntry.dict)),
    ("approvals", .arr (p.approvals.map ApprovalEntry.dict)),
    ("policy_decisions", .arr (p.policyDecisions.map PolicyEntry.dict)),
    ("execution_history", .arr (p.executionHistory.map ExecutionEntry.dict)),
    ("audit_events", .arr (p.auditEvents.map AuditEntry.dict)),
    ("audit_chain_verification", p.auditChainVerification.dict),
    ("mapped_controls", .arr (p.mappedControls.map ControlEntry.dict)),
    ("mapped_regulations", .arr (p.mappedRegulations.map Json.str)),
    ("evidence_artifacts", .arr (p.evidenceArtifacts.map ArtifactEntry.dict)),
    ("overrides", .arr (p.overrides.map OverrideEntry.dict)),
    ("evidence_gaps", .arr (p.evidenceGaps.map fun gap => .str gap.value)),
    ("disclaimer", .str disclaimer), ("executive_summary", .str p.executiveSummary)]

theorem distinctItems_map {α : Type} {dict : α → Json} (h : ∀ e, Value.Distinct (dict e)) :
    ∀ entries : List α, Value.DistinctItems (entries.map dict)
  | [] => trivial
  | e :: rest => ⟨h e, distinctItems_map h rest⟩

theorem distinct_arr {α : Type} {dict : α → Json} (h : ∀ e, Value.Distinct (dict e))
    (entries : List α) : Value.Distinct (.arr (entries.map dict)) :=
  distinctItems_map h entries

@[simp] theorem distinct_ofOption (value : Option String) : Value.Distinct (.ofOption value) := by
  cases value <;> trivial

@[simp] theorem distinct_numOrNull (value : Option Int) :
    Value.Distinct (EvidenceSignature.numOrNull value) := by
  cases value <;> trivial

theorem distinct_optional {α : Type} {dict : α → Json} (h : ∀ e, Value.Distinct (dict e))
    (value : Option α) : Value.Distinct (optional dict value) := by
  cases value with
  | none => trivial
  | some e => exact h e

theorem distinct_texts {α : Type} (text : α → String) (values : List α) :
    Value.Distinct (.arr (values.map fun value => .str (text value))) := by
  have hstr : ∀ value, Value.Distinct (.str (text value)) := fun _ => trivial
  exact distinct_arr hstr values

theorem ActionEntry.distinct (e : ActionEntry) : Value.Distinct e.dict := by
  simp [dict]

theorem ApprovalEntry.distinct (e : ApprovalEntry) : Value.Distinct e.dict := by
  simp [dict]

theorem PolicyEntry.distinct (e : PolicyEntry) : Value.Distinct e.dict := by
  simp [dict]

theorem JobEntry.distinct (e : JobEntry) : Value.Distinct e.dict := by
  simp [dict]

theorem ExecutionEntry.distinct (e : ExecutionEntry) : Value.Distinct e.dict := by
  simp [dict, distinct_optional JobEntry.distinct]

theorem AuditEntry.distinct (e : AuditEntry) : Value.Distinct e.dict := by
  simp [dict]

theorem ControlEntry.distinct (e : ControlEntry) : Value.Distinct e.dict := by
  simp [dict]

theorem ArtifactEntry.distinct (e : ArtifactEntry) : Value.Distinct e.dict := by
  simp [dict]

theorem OverrideEntry.distinct (e : OverrideEntry) : Value.Distinct e.dict := by
  simp [dict]

theorem Verification.distinct (v : Verification) : Value.Distinct v.dict := by
  simp [dict]

theorem WorkflowEntry.distinct (e : WorkflowEntry) : Value.Distinct e.dict := by
  simp [dict]

theorem TimeRange.distinct (r : TimeRange) : Value.Distinct r.dict := by
  simp [dict]

/-- No key occurs twice, at any depth. -/
theorem Packet.distinct (p : Packet) : Value.Distinct (.obj p.fields) := by
  refine ⟨by simp [fields], ?_⟩
  simp only [fields, Value.distinctFields_cons]
  refine ⟨trivial, distinct_ofOption _, distinct_ofOption _, trivial, ?_,
    distinct_optional WorkflowEntry.distinct _, distinct_optional TimeRange.distinct _,
    distinct_arr ActionEntry.distinct _, distinct_arr ApprovalEntry.distinct _,
    distinct_arr PolicyEntry.distinct _, distinct_arr ExecutionEntry.distinct _,
    distinct_arr AuditEntry.distinct _, Verification.distinct _,
    distinct_arr ControlEntry.distinct _, distinct_texts id _,
    distinct_arr ArtifactEntry.distinct _, distinct_arr OverrideEntry.distinct _,
    distinct_texts Gap.value _, trivial, trivial, trivial⟩
  simp

def Packet.document (p : Packet) : EvidenceStore.Document where
  fields := p.fields
  distinct := p.distinct

end EvidencePackets

end ControlPlane
