import ControlPlane.Db.Governance

/-!
States that agree on some tenants' rows. The catalogue of frameworks, controls
and regulations carries no tenant and is the same in both.
-/

namespace ControlPlane

open Lib

/-- Two tables have the same rows of the tenants in `p`, in the same order. -/
def SameRows {α κ υ : Type} {key : α → κ} {uniq : α → Option υ}
    (tenant : α → Option String) (p : Option String → Bool)
    (T T' : Table α κ υ key uniq) : Prop :=
  (T.rows.filter fun row => p (tenant row)) = T'.rows.filter fun row => p (tenant row)

section Rows

variable {α κ υ : Type} {key : α → κ} {uniq : α → Option υ}
  {tenant : α → Option String} {p : Option String → Bool}
  {T T' : Table α κ υ key uniq}

/-- What selects only rows of these tenants selects the same rows. -/
theorem SameRows.filter (h : SameRows tenant p T T') {q : α → Bool}
    (hq : ∀ row, q row → p (tenant row)) : T.rows.filter q = T'.rows.filter q := by
  have hsplit : ∀ rows : List α,
      rows.filter q = (rows.filter fun row => p (tenant row)).filter q := by
    intro rows
    rw [List.filter_filter]
    apply List.filter_congr
    intro row _
    cases hrow : q row with
    | false => simp
    | true => simp [hq row hrow]
  rw [hsplit, hsplit T'.rows, h]

end Rows

structure Database.AgreeOn (p : Option String → Bool) (s s' : Database) : Prop where
  jobs : SameRows Job.tenantId p s.jobs s'.jobs
  approvals : SameRows ApprovalRequest.tenantId p s.approvals s'.approvals
  auditEvents : SameRows AuditEvent.tenantId p s.auditEvents s'.auditEvents
  emailThreads : SameRows EmailThreadRecord.tenantId p s.emailThreads s'.emailThreads
  emailDeliveries :
    SameRows EmailDeliveryRecord.tenantId p s.emailDeliveries s'.emailDeliveries

structure Governance.AgreeOn (p : Option String → Bool) (s s' : Governance) :
    Prop where
  regulations : s.regulations = s'.regulations
  frameworks : s.frameworks = s'.frameworks
  controls : s.controls = s'.controls
  policies : SameRows GovernancePolicy.tenantId p s.policies s'.policies
  aiSystems : SameRows AiSystem.tenantId p s.aiSystems s'.aiSystems
  workflows : SameRows Workflow.tenantId p s.workflows s'.workflows
  actions : SameRows GovernedAction.tenantId p s.actions s'.actions
  risks : SameRows RiskAssessment.tenantId p s.risks s'.risks
  mappings :
    SameRows GovernedActionControlMapping.tenantId p s.mappings s'.mappings
  artifacts : SameRows EvidenceArtifact.tenantId p s.artifacts s'.artifacts
  packets : SameRows EvidencePacket.tenantId p s.packets s'.packets
  overrides : SameRows ActionOverride.tenantId p s.overrides s'.overrides
  scores : SameRows TrustScore.tenantId p s.scores s'.scores
  verifications :
    SameRows TrustVerification.tenantId p s.verifications s'.verifications

structure Store.AgreeOn (p : Option String → Bool) (S S' : Store) : Prop where
  db : S.db.AgreeOn p S'.db
  governance : S.governance.AgreeOn p S'.governance

/-- Roles are linked to permissions without a tenant, and that is the same. -/
structure Identity.AgreeOn (p : Option String → Bool) (s s' : Identity) : Prop where
  permissions : s.permissions = s'.permissions
  rolePermissions : s.rolePermissions = s'.rolePermissions
  users : SameRows User.tenantId p s.users s'.users
  roles : SameRows Role.tenantId p s.roles s'.roles
  userRoles : SameRows UserRole.tenantId p s.userRoles s'.userRoles
  apiKeys : SameRows ApiKey.tenantId p s.apiKeys s'.apiKeys

theorem Database.agreeOn_refl (p : Option String → Bool) (s : Database) :
    s.AgreeOn p s := by
  constructor <;> rfl

theorem Governance.agreeOn_refl (p : Option String → Bool) (s : Governance) :
    s.AgreeOn p s := by
  constructor <;> rfl

theorem Identity.agreeOn_refl (p : Option String → Bool) (s : Identity) :
    s.AgreeOn p s := by
  constructor <;> rfl

end ControlPlane
