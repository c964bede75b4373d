import ControlPlane.App.Inspection
import ControlPlane.Lib.StableSort
import ControlPlane.Reviews.LatestScore
import ControlPlane.Services.GovernanceWorkflow
import ControlPlane.Services.VerificationService
import ControlPlane.Tenancy.Agreement

/-!
What a caller with a tenant reads is computed from the rows of that tenant and the catalogue: two
databases that agree on these give it the same answers, whatever else they hold.

Two reads look a row up before they look at its tenant, so one reference has to stay within a
tenant: a job executes the deliveries of one tenant, and the send of an approval runs as a job of
the approval's tenant.
-/

namespace ControlPlane

open Lib JobService ApprovalService EmailPersistence EvidenceGraph EvidencePackets
  TrustScoreService

/-- The rows of one tenant. -/
def ownedBy (t : String) (tenantId : Option String) : Bool := tenantId = some t

theorem ownedBy_of_inScope {t : String} {tenantId : Option String}
    (h : inScope (some t) tenantId = true) : ownedBy t tenantId = true := by
  simpa [inScope, ownedBy] using h

structure Database.SendsOwned (s : Database) : Prop where
  deliveries : ∀ row ∈ s.emailDeliveries.rows, ∀ row' ∈ s.emailDeliveries.rows, ∀ jobId,
    row.executionJobId = some jobId → row'.executionJobId = some jobId →
      row.tenantId = row'.tenantId
  jobs : ∀ row ∈ s.approvals.rows, ∀ job ∈ s.jobs.rows,
    job.idempotencyKey = some (sendKey row.id) → job.tenantId = row.tenantId

section Rows

variable {α κ υ : Type} {key : α → κ} {uniq : α → Option υ} {tenant : α → Option String}
  {p : Option String → Bool} {T T' : Table α κ υ key uniq} {q : α → Bool}

theorem SameRows.mem_iff (h : SameRows tenant p T T') {row : α} (hrow : p (tenant row) = true) :
    row ∈ T.rows ↔ row ∈ T'.rows := by
  have hmem : row ∈ T.rows.filter (fun row => p (tenant row)) ↔
      row ∈ T'.rows.filter fun row => p (tenant row) := by rw [h]
  simpa [List.mem_filter, hrow] using hmem

/-- A row looked up by its id and then tested. -/
theorem SameRows.find? [DecidableEq κ] (h : SameRows tenant p T T')
    (hq : ∀ row, q row → p (tenant row)) (k : κ) :
    (T.find? k).filter q = (T'.find? k).filter q := by
  apply Option.ext
  intro row
  simp only [Option.filter_eq_some_iff, Table.find?_eq_some]
  constructor
  · rintro ⟨⟨hmem, hkey⟩, htest⟩
    exact ⟨⟨(h.mem_iff (hq row htest)).mp hmem, hkey⟩, htest⟩
  · rintro ⟨⟨hmem, hkey⟩, htest⟩
    exact ⟨⟨(h.mem_iff (hq row htest)).mpr hmem, hkey⟩, htest⟩

theorem SameRows.findUnique? [DecidableEq υ] (h : SameRows tenant p T T')
    (hq : ∀ row, q row → p (tenant row)) (u : υ) :
    (T.findUnique? u).filter q = (T'.findUnique? u).filter q := by
  apply Option.ext
  intro row
  simp only [Option.filter_eq_some_iff, Table.findUnique?_eq_some]
  constructor
  · rintro ⟨⟨hmem, hkey⟩, htest⟩
    exact ⟨⟨(h.mem_iff (hq row htest)).mp hmem, hkey⟩, htest⟩
  · rintro ⟨⟨hmem, hkey⟩, htest⟩
    exact ⟨⟨(h.mem_iff (hq row htest)).mpr hmem, hkey⟩, htest⟩

/-- All rows in order of time, and then the tested ones. -/
theorem SameRows.newestFirst (h : SameRows tenant p T T')
    (hq : ∀ row, q row → p (tenant row)) (createdAt : α → Datetime) :
    (newestFirst createdAt T.rows).filter q = (newestFirst createdAt T'.rows).filter q := by
  have htrans : IsTrans α fun a b => (createdAt b).instant ≤ (createdAt a).instant :=
    ⟨fun _ _ _ hab hbc => hbc.trans hab⟩
  have htotal : Std.Total fun a b : α => (createdAt b).instant ≤ (createdAt a).instant :=
    ⟨fun a b => Int.le_total (createdAt b).instant (createdAt a).instant⟩
  unfold ControlPlane.newestFirst
  rw [filter_insertionSort, filter_insertionSort, h.filter hq]

/-- If a test tells no two elements apart, testing the first one is as good as testing all. -/
theorem filter_head?_of_same {l : List α} (h : ∀ a ∈ l, ∀ b ∈ l, q a = q b) :
    l.head?.filter q = (l.filter q).head? := by
  cases l with
  | nil => rfl
  | cons a l =>
      rw [List.head?_cons, Option.filter_some]
      cases ha : q a with
      | true => rw [List.filter_cons_of_pos ha]; rfl
      | false =>
          have hnone : (a :: l).filter q = [] := by
            apply List.filter_eq_nil_iff.mpr
            intro b hb
            rw [← h a (.head l) b hb, ha]
            exact Bool.false_ne_true
          rw [hnone]
          rfl

end Rows

section Pipeline

variable {t : String} {s s' : Database}

/-- The first delivery that the job executes is tested as any other would be. -/
theorem getDeliveryByExecutionJobId_owned (hs : s.SendsOwned) (jobId : String) :
    getDeliveryByExecutionJobId s jobId (some t) =
      (s.emailDeliveries.rows.filter fun row =>
        inScope (some t) row.tenantId && row.executionJobId = some jobId).head? := by
  have hsplit : (s.emailDeliveries.rows.filter fun row =>
        inScope (some t) row.tenantId && row.executionJobId = some jobId) =
      (s.emailDeliveries.rows.filter fun row => row.executionJobId = some jobId).filter
        fun row => inScope (some t) row.tenantId := List.filter_filter.symm
  rw [hsplit]
  unfold getDeliveryByExecutionJobId
  rw [← List.head?_filter]
  apply filter_head?_of_same
  intro row hrow row' hrow'
  simp only [List.mem_filter, decide_eq_true_eq] at hrow hrow'
  rw [hs.deliveries row hrow.1 row' hrow'.1 jobId hrow.2 hrow'.2]

/-- The send of a row of the tenant is a job of the tenant. -/
theorem jobByKey_owned (hs : s.SendsOwned) {approvalId : String} {row : ApprovalRequest}
    (hrow : requestById s approvalId (some t) = some row) : jobByKey s (sendKey row.id) =
      (jobByKey s (sendKey row.id)).filter fun job => inScope (some t) job.tenantId := by
  obtain ⟨hfind, hscope⟩ := Option.filter_eq_some_iff.mp hrow
  cases hjob : jobByKey s (sendKey row.id) with
  | none => rfl
  | some job =>
      obtain ⟨hmem, hkey⟩ := (Table.findUnique?_eq_some _).mp hjob
      rw [Option.filter_some, hs.jobs row (Table.mem_of_find? hfind) job hmem hkey, if_pos hscope]

variable (h : s.AgreeOn (ownedBy t) s')
include h

theorem jobById_agree (jobId : String) :
    jobById s jobId (some t) = jobById s' jobId (some t) :=
  h.jobs.find? (fun _ hrow => ownedBy_of_inScope hrow) jobId

theorem listJobs_agree (status jobType : Option String) (limit : Nat) :
    listJobs s status jobType (some t) limit = listJobs s' status jobType (some t) limit := by
  unfold listJobs
  rw [h.jobs.filter fun row hrow => ownedBy_of_inScope (by simp at hrow; exact hrow.1.1)]

theorem requestById_agree (approvalId : String) :
    requestById s approvalId (some t) = requestById s' approvalId (some t) :=
  h.approvals.find? (fun _ hrow => ownedBy_of_inScope hrow) approvalId

theorem listApprovals_agree (status : Option String) (limit : Nat) :
    listApprovals s status (some t) limit = listApprovals s' status (some t) limit := by
  unfold listApprovals
  rw [h.approvals.filter fun row hrow => ownedBy_of_inScope (by simp at hrow; exact hrow.1)]

theorem listDeliveries_agree [Timestamps] (status : Option String) (limit : Nat) :
    listDeliveries s status (some t) limit = listDeliveries s' status (some t) limit := by
  unfold listDeliveries
  rw [h.emailDeliveries.filter fun row hrow =>
    ownedBy_of_inScope (by simp at hrow; exact hrow.1)]

theorem getDeliveryByApprovalId_agree (approvalId : String) :
    getDeliveryByApprovalId s approvalId (some t) =
      getDeliveryByApprovalId s' approvalId (some t) :=
  h.emailDeliveries.findUnique? (fun _ hrow => ownedBy_of_inScope hrow) approvalId

theorem getDeliveryByExecutionJobId_agree (hs : s.SendsOwned) (hs' : s'.SendsOwned)
    (jobId : String) : getDeliveryByExecutionJobId s jobId (some t) =
      getDeliveryByExecutionJobId s' jobId (some t) := by
  rw [getDeliveryByExecutionJobId_owned hs, getDeliveryByExecutionJobId_owned hs',
    h.emailDeliveries.filter fun row hrow => ownedBy_of_inScope (by simp at hrow; exact hrow.1)]

theorem getThreadSummary_agree (externalThreadId : String) :
    getThreadSummary s (some t) externalThreadId =
      getThreadSummary s' (some t) externalThreadId := by
  unfold getThreadSummary
  rw [h.emailThreads.filter (fun row hrow => by simp at hrow; simp [ownedBy, hrow.2]),
    h.emailDeliveries.filter (fun row hrow => by simp at hrow; simp [ownedBy, hrow.2])]

theorem approvalDetail_agree (hs : s.SendsOwned) (hs' : s'.SendsOwned) (approvalId : String) :
    (requestById s approvalId (some t)).map (enrichedDetail s) =
      (requestById s' approvalId (some t)).map (enrichedDetail s') := by
  rw [← requestById_agree h]
  cases hrow : requestById s approvalId (some t) with
  | none => rfl
  | some row =>
      have hrow' := hrow
      rw [requestById_agree h] at hrow'
      rw [Option.map_some, Option.map_some]
      unfold enrichedDetail
      rw [jobByKey_owned hs hrow, jobByKey_owned hs' hrow']
      unfold jobByKey
      rw [h.jobs.findUnique? fun _ hjob => ownedBy_of_inScope hjob]

theorem listAuditEvents_agree (resourceType resourceId : Option String) (limit : Nat) :
    AuditService.listAuditEvents s resourceType resourceId (some t) limit =
      AuditService.listAuditEvents s' resourceType resourceId (some t) limit := by
  unfold AuditService.listAuditEvents
  rw [h.auditEvents.filter fun row hrow => ownedBy_of_inScope (by simp at hrow; exact hrow.1.1)]

theorem listForResource_agree (resourceType resourceId : String) :
    AuditService.listForResource s resourceType resourceId (some t) =
      AuditService.listForResource s' resourceType resourceId (some t) := by
  unfold AuditService.listForResource
  rw [h.auditEvents.filter fun row hrow => ownedBy_of_inScope (by simp at hrow; exact hrow.2)]

theorem verifyTenantEvents_agree [Deployment] :
    AuditService.verifyTenantEvents s t = AuditService.verifyTenantEvents s' t := by
  unfold AuditService.verifyTenantEvents
  rw [h.auditEvents.filter fun row hrow => by simpa [ownedBy] using hrow]

theorem actionEvents_agree [Deployment] (action : GovernedAction) :
    actionEvents s action (some t) = actionEvents s' action (some t) := by
  unfold actionEvents
  rw [h.auditEvents.filter fun row hrow => ownedBy_of_inScope (by simp at hrow; exact hrow.2)]

end Pipeline

section Governance

variable {t : String} {g g' : Governance} (h : g.AgreeOn (ownedBy t) g')
include h

theorem getWorkflow_agree (workflowId : String) :
    getWorkflow g workflowId (some t) = getWorkflow g' workflowId (some t) :=
  h.workflows.find? (fun _ hrow => ownedBy_of_inScope hrow) workflowId

theorem getGovernedAction_agree (governedActionId : String) :
    getGovernedAction g governedActionId (some t) =
      getGovernedAction g' governedActionId (some t) :=
  h.actions.find? (fun _ hrow => ownedBy_of_inScope hrow) governedActionId

theorem listGovernedActions_agree (workflowId : Option String)
    (startAt endAt : Option Datetime) :
    listGovernedActions g (some t) workflowId startAt endAt =
      listGovernedActions g' (some t) workflowId startAt endAt := by
  unfold listGovernedActions
  rw [h.actions.filter fun row hrow => ownedBy_of_inScope (by simp at hrow; exact hrow.1.1.1)]

theorem listEvidenceArtifacts_agree (governedActionId : Option String) :
    listEvidenceArtifacts g (some t) governedActionId =
      listEvidenceArtifacts g' (some t) governedActionId := by
  unfold listEvidenceArtifacts
  rw [h.artifacts.filter fun row hrow => ownedBy_of_inScope (by simp at hrow; exact hrow.1)]

/-- What the catalogue says of a mapping is the same for all tenants. -/
theorem controlMapping_agree (mapping : GovernedActionControlMapping) :
    controlMapping g mapping = controlMapping g' mapping := by
  unfold controlMapping
  rw [h.controls, h.frameworks, h.regulations]

theorem listRuns_agree :
    GovernanceWorkflow.listRuns g (some t) = GovernanceWorkflow.listRuns g' (some t) := by
  unfold GovernanceWorkflow.listRuns
  rw [listGovernedActions_agree h]

theorem getPacket_agree (packetId : String) :
    EvidenceStore.getPacket g packetId (some t) = EvidenceStore.getPacket g' packetId (some t) :=
  h.packets.find? (fun _ hrow => ownedBy_of_inScope hrow) packetId

theorem listPackets_agree (scopeId : Option String) :
    EvidenceStore.listPackets g (some t) scopeId =
      EvidenceStore.listPackets g' (some t) scopeId := by
  unfold EvidenceStore.listPackets
  apply h.packets.newestFirst
  intro row hrow
  simp at hrow
  exact ownedBy_of_inScope hrow.1

theorem getVersion_agree (versionId : String) :
    PolicyVersionService.getVersion g versionId (some t) =
      PolicyVersionService.getVersion g' versionId (some t) :=
  h.policies.find? (fun _ hrow => ownedBy_of_inScope hrow) versionId

theorem listVersions_agree (name : Option String) :
    PolicyVersionService.listVersions g (some t) name =
      PolicyVersionService.listVersions g' (some t) name := by
  unfold PolicyVersionService.listVersions
  rw [h.policies.filter fun row hrow => ownedBy_of_inScope (by simp at hrow; exact hrow.1)]

theorem scopeScores_agree (scopeType scopeId : String) :
    scopeScores scopeType scopeId (some t) g = scopeScores scopeType scopeId (some t) g' :=
  h.scores.filter fun row hrow => ownedBy_of_inScope (by simp at hrow; exact hrow.2)

theorem latestResult_agree (scopeType scopeId : String) :
    LatestResult g scopeType scopeId (some t) = LatestResult g' scopeType scopeId (some t) := by
  have hscores := scopeScores_agree h scopeType scopeId
  funext view
  apply propext
  constructor
  · rintro (hnone | hfound)
    · exact .missing (hscores ▸ hnone)
    · exact .found (hscores ▸ hfound)
  · rintro (hnone | hfound)
    · exact .missing (hscores ▸ hnone)
    · exact .found (hscores ▸ hfound)

theorem getVerification_agree (verificationId : String) :
    VerificationService.getVerification g verificationId (some t) =
      VerificationService.getVerification g' verificationId (some t) :=
  h.verifications.find? (fun _ hrow => ownedBy_of_inScope hrow) verificationId

theorem latestSignedPacket_agree [Deployment] (subjectId : String) :
    VerificationService.latestSignedPacket g (some t) subjectId =
      VerificationService.latestSignedPacket g' (some t) subjectId := by
  unfold VerificationService.latestSignedPacket VerificationService.signedPackets
  rw [h.packets.filter fun row hrow => ownedBy_of_inScope (by simp at hrow; exact hrow.2)]

end Governance

section Evidence

variable [Deployment] {t : String} {S S' : Store} (h : S.AgreeOn (ownedBy t) S')
include h

/-- Every node of the graph is looked up by a link and then tested. -/
theorem getEvidenceGraph_agree (governedActionId : String) :
    getEvidenceGraph S governedActionId (some t) =
      getEvidenceGraph S' governedActionId (some t) := by
  have hworkflow : (fun id => getWorkflow S.governance id (some t)) =
      fun id => getWorkflow S'.governance id (some t) :=
    funext fun id => getWorkflow_agree h.governance id
  have hsystem : (fun id => ifScoped AiSystem.tenantId (some t)
        (S.governance.aiSystems.find? id)) =
      fun id => ifScoped AiSystem.tenantId (some t) (S'.governance.aiSystems.find? id) :=
    funext fun id => h.governance.aiSystems.find? (fun _ hrow => ownedBy_of_inScope hrow) id
  have happroval : (fun id => ifScoped ApprovalRequest.tenantId (some t)
        (S.db.approvals.find? id)) =
      fun id => ifScoped ApprovalRequest.tenantId (some t) (S'.db.approvals.find? id) :=
    funext fun id => h.db.approvals.find? (fun _ hrow => ownedBy_of_inScope hrow) id
  have hjob : (fun id => ifScoped Job.tenantId (some t) (S.db.jobs.find? id)) =
      fun id => ifScoped Job.tenantId (some t) (S'.db.jobs.find? id) :=
    funext fun id => h.db.jobs.find? (fun _ hrow => ownedBy_of_inScope hrow) id
  have hmapping : controlMapping S.governance = controlMapping S'.governance :=
    funext fun mapping => controlMapping_agree h.governance mapping
  unfold getEvidenceGraph
  simp only [getGovernedAction_agree h.governance, hworkflow, hsystem, happroval, hjob, hmapping,
    actionEvents_agree h.db, listEvidenceArtifacts_agree h.governance]
  congr 1
  funext action
  rw [h.governance.mappings.filter fun row hrow =>
      ownedBy_of_inScope (by simp at hrow; exact hrow.2),
    h.governance.overrides.filter fun row hrow =>
      ownedBy_of_inScope (by simp at hrow; exact hrow.2)]

theorem verify_agree : verify S (some t) = verify S' (some t) := by
  unfold verify
  dsimp only
  rw [verifyTenantEvents_agree h.db]

theorem buildActionPacket_agree (generatedAt governedActionId : String) :
    buildActionPacket S generatedAt governedActionId (some t) =
      buildActionPacket S' generatedAt governedActionId (some t) := by
  unfold buildActionPacket
  rw [getEvidenceGraph_agree h, verify_agree h]

theorem graphsOf_agree (actions : List GovernedAction) :
    graphsOf S actions (some t) = graphsOf S' actions (some t) := by
  unfold graphsOf
  simp only [getEvidenceGraph_agree h]

theorem buildWorkflowPacket_agree (generatedAt workflowId : String) :
    buildWorkflowPacket S generatedAt workflowId (some t) =
      buildWorkflowPacket S' generatedAt workflowId (some t) := by
  unfold buildWorkflowPacket
  rw [getWorkflow_agree h.governance]
  simp only [listGovernedActions_agree h.governance, graphsOf_agree h, verify_agree h]

theorem buildTenantPacket_agree (generatedAt : String) (startAt endAt : Option Datetime) :
    buildTenantPacket S generatedAt t startAt endAt =
      buildTenantPacket S' generatedAt t startAt endAt := by
  unfold buildTenantPacket
  simp only [listGovernedActions_agree h.governance, graphsOf_agree h, verify_agree h]

theorem buildIncidentReplay_agree (generatedAt governedActionId : String) :
    IncidentReplay.buildIncidentReplay S generatedAt governedActionId (some t) =
      IncidentReplay.buildIncidentReplay S' generatedAt governedActionId (some t) := by
  unfold IncidentReplay.buildIncidentReplay
  simp only [getEvidenceGraph_agree h, buildActionPacket_agree h]

theorem getRun_agree (governedActionId : String) :
    GovernanceWorkflow.getRun S governedActionId (some t) =
      GovernanceWorkflow.getRun S' governedActionId (some t) := by
  unfold GovernanceWorkflow.getRun
  simp only [getEvidenceGraph_agree h, listForResource_agree h.db]

end Evidence

/-- What a caller can ask for in its tenant. -/
inductive TenantRead where
  | jobById (jobId : String)
  | listJobs (status jobType : Option String) (limit : Nat)
  | requestById (approvalId : String)
  | approvalDetail (approvalId : String)
  | listApprovals (status : Option String) (limit : Nat)
  | listAuditEvents (resourceType resourceId : Option String) (limit : Nat)
  | listForResource (resourceType resourceId : String)
  | verifyTenantEvents
  | listDeliveries (status : Option String) (limit : Nat)
  | getDeliveryByApprovalId (approvalId : String)
  | getDeliveryByExecutionJobId (jobId : String)
  | getThreadSummary (externalThreadId : String)
  | getWorkflow (workflowId : String)
  | listGovernedActions (workflowId : Option String) (startAt endAt : Option Datetime)
  | listEvidenceArtifacts (governedActionId : Option String)
  | getEvidenceGraph (governedActionId : String)
  | buildActionPacket (generatedAt governedActionId : String)
  | buildWorkflowPacket (generatedAt workflowId : String)
  | buildTenantPacket (generatedAt : String) (startAt endAt : Option Datetime)
  | buildIncidentReplay (generatedAt governedActionId : String)
  | getRun (governedActionId : String)
  | listRuns
  | getPacket (packetId : String)
  | listPackets (scopeId : Option String)
  | latestSignedPacket (subjectId : String)
  | getVersion (versionId : String)
  | listVersions (name : Option String)
  | latestResult (scopeType scopeId : String)
  | getVerification (verificationId : String)

namespace TenantRead

abbrev Result : TenantRead → Type
  | jobById _ => Option Job
  | listJobs _ _ _ => List Job
  | requestById _ => Option ApprovalRequest
  | approvalDetail _ => Option Api.ApprovalDetail
  | listApprovals _ _ => List ApprovalRequest
  | listAuditEvents _ _ _ | listForResource _ _ => List AuditEvent
  | verifyTenantEvents => Except PyErr AuditService.ChainVerificationResult
  | listDeliveries _ _ => List EmailDeliveryRecord
  | getDeliveryByApprovalId _ | getDeliveryByExecutionJobId _ => Option EmailDeliveryRecord
  | getThreadSummary _ => Except StoreError ThreadSummary
  | getWorkflow _ => Option Workflow
  | listGovernedActions _ _ _ => List GovernedAction
  | listEvidenceArtifacts _ => List EvidenceArtifact
  | getEvidenceGraph _ => Option ActionGraph
  | buildActionPacket _ _ | buildWorkflowPacket _ _ => Except PyErr (Option Packet)
  | buildTenantPacket _ _ _ => Except PyErr Packet
  | buildIncidentReplay _ _ => Except PyErr (Option IncidentReplay.Replay)
  | getRun _ => Except PyErr (Option GovernanceWorkflow.RunView)
  | listRuns => List GovernanceWorkflow.RunEntry
  | getPacket _ | latestSignedPacket _ => Option EvidencePacket
  | listPackets _ => List EvidencePacket
  | getVersion _ => Option GovernancePolicy
  | listVersions _ => List GovernancePolicy
  | latestResult _ _ => Option ScoreView → Prop
  | getVerification _ => Option TrustVerification

variable [Deployment] [Timestamps]

/-- The answer to a caller in tenant `t`. The latest score is the relation of the answers the
database may give. -/
def answer (S : Store) (t : String) : (read : TenantRead) → read.Result
  | jobById jobId => JobService.jobById S.db jobId (some t)
  | listJobs status jobType limit => JobService.listJobs S.db status jobType (some t) limit
  | requestById approvalId => ApprovalService.requestById S.db approvalId (some t)
  | approvalDetail approvalId =>
      (ApprovalService.requestById S.db approvalId (some t)).map (enrichedDetail S.db)
  | listApprovals status limit => ApprovalService.listApprovals S.db status (some t) limit
  | listAuditEvents resourceType resourceId limit =>
      AuditService.listAuditEvents S.db resourceType resourceId (some t) limit
  | listForResource resourceType resourceId =>
      AuditService.listForResource S.db resourceType resourceId (some t)
  | verifyTenantEvents => AuditService.verifyTenantEvents S.db t
  | listDeliveries status limit => EmailPersistence.listDeliveries S.db status (some t) limit
  | getDeliveryByApprovalId approvalId =>
      EmailPersistence.getDeliveryByApprovalId S.db approvalId (some t)
  | getDeliveryByExecutionJobId jobId =>
      EmailPersistence.getDeliveryByExecutionJobId S.db jobId (some t)
  | getThreadSummary externalThreadId =>
      EmailPersistence.getThreadSummary S.db (some t) externalThreadId
  | getWorkflow workflowId => EvidenceGraph.getWorkflow S.governance workflowId (some t)
  | listGovernedActions workflowId startAt endAt =>
      EvidenceGraph.listGovernedActions S.governance (some t) workflowId startAt endAt
  | listEvidenceArtifacts governedActionId =>
      EvidenceGraph.listEvidenceArtifacts S.governance (some t) governedActionId
  | getEvidenceGraph governedActionId =>
      EvidenceGraph.getEvidenceGraph S governedActionId (some t)
  | buildActionPacket generatedAt governedActionId =>
      EvidencePackets.buildActionPacket S generatedAt governedActionId (some t)
  | buildWorkflowPacket generatedAt workflowId =>
      EvidencePackets.buildWorkflowPacket S generatedAt workflowId (some t)
  | buildTenantPacket generatedAt startAt endAt =>
      EvidencePackets.buildTenantPacket S generatedAt t startAt endAt
  | buildIncidentReplay generatedAt governedActionId =>
      IncidentReplay.buildIncidentReplay S generatedAt governedActionId (some t)
  | getRun governedActionId => GovernanceWorkflow.getRun S governedActionId (some t)
  | listRuns => GovernanceWorkflow.listRuns S.governance (some t)
  | getPacket packetId => EvidenceStore.getPacket S.governance packetId (some t)
  | listPackets scopeId => EvidenceStore.listPackets S.governance (some t) scopeId
  | latestSignedPacket subjectId =>
      VerificationService.latestSignedPacket S.governance (some t) subjectId
  | getVersion versionId => PolicyVersionService.getVersion S.governance versionId (some t)
  | listVersions name => PolicyVersionService.listVersions S.governance (some t) name
  | latestResult scopeType scopeId => LatestResult S.governance scopeType scopeId (some t)
  | getVerification verificationId =>
      VerificationService.getVerification S.governance verificationId (some t)

end TenantRead

/-- What a caller of a tenant reads depends on the rows of the tenant and on the catalogue
alone: each of the reads answers alike over two stores that agree on these. In both stores the
sends are assumed to stay within a tenant, which the two reads need that follow the job of a
send; nothing is assumed of any other reference. -/
theorem tenant_reads_isolated [Deployment] [Timestamps] {t : String} {S S' : Store}
    (hagree : S.AgreeOn (ownedBy t) S') (hS : S.db.SendsOwned) (hS' : S'.db.SendsOwned)
    (read : TenantRead) : read.answer S t = read.answer S' t := by
  obtain ⟨hdb, hgovernance⟩ := hagree
  cases read with
  | jobById jobId => exact jobById_agree hdb jobId
  | listJobs status jobType limit => exact listJobs_agree hdb status jobType limit
  | requestById approvalId => exact requestById_agree hdb approvalId
  | approvalDetail approvalId => exact approvalDetail_agree hdb hS hS' approvalId
  | listApprovals status limit => exact listApprovals_agree hdb status limit
  | listAuditEvents resourceType resourceId limit =>
      exact listAuditEvents_agree hdb resourceType resourceId limit
  | listForResource resourceType resourceId =>
      exact listForResource_agree hdb resourceType resourceId
  | verifyTenantEvents => exact verifyTenantEvents_agree hdb
  | listDeliveries status limit => exact listDeliveries_agree hdb status limit
  | getDeliveryByApprovalId approvalId => exact getDeliveryByApprovalId_agree hdb approvalId
  | getDeliveryByExecutionJobId jobId =>
      exact getDeliveryByExecutionJobId_agree hdb hS hS' jobId
  | getThreadSummary externalThreadId => exact getThreadSummary_agree hdb externalThreadId
  | getWorkflow workflowId => exact getWorkflow_agree hgovernance workflowId
  | listGovernedActions workflowId startAt endAt =>
      exact listGovernedActions_agree hgovernance workflowId startAt endAt
  | listEvidenceArtifacts governedActionId =>
      exact listEvidenceArtifacts_agree hgovernance governedActionId
  | getEvidenceGraph governedActionId =>
      exact getEvidenceGraph_agree ⟨hdb, hgovernance⟩ governedActionId
  | buildActionPacket generatedAt governedActionId =>
      exact buildActionPacket_agree ⟨hdb, hgovernance⟩ generatedAt governedActionId
  | buildWorkflowPacket generatedAt workflowId =>
      exact buildWorkflowPacket_agree ⟨hdb, hgovernance⟩ generatedAt workflowId
  | buildTenantPacket generatedAt startAt endAt =>
      exact buildTenantPacket_agree ⟨hdb, hgovernance⟩ generatedAt startAt endAt
  | buildIncidentReplay generatedAt governedActionId =>
      exact buildIncidentReplay_agree ⟨hdb, hgovernance⟩ generatedAt governedActionId
  | getRun governedActionId => exact getRun_agree ⟨hdb, hgovernance⟩ governedActionId
  | listRuns => exact listRuns_agree hgovernance
  | getPacket packetId => exact getPacket_agree hgovernance packetId
  | listPackets scopeId => exact listPackets_agree hgovernance scopeId
  | latestSignedPacket subjectId => exact latestSignedPacket_agree hgovernance subjectId
  | getVersion versionId => exact getVersion_agree hgovernance versionId
  | listVersions name => exact listVersions_agree hgovernance name
  | latestResult scopeType scopeId => exact latestResult_agree hgovernance scopeType scopeId
  | getVerification verificationId => exact getVerification_agree hgovernance verificationId

section Sample

local instance instReadsDeployment : Deployment := .sqlite

local instance instReadsTimestamps : Timestamps := ⟨fun _ => unset⟩

/-- The send of the approval by the job. -/
def sendOf (tenant jobId approvalId : String) (status : JobStatus) : Job where
  id := jobId
  tenantId := some tenant
  type := emailSendApprovedType
  status := status
  idempotencyKey := some (sendKey approvalId)
  payloadJson := none
  attempts := 1
  lastError := none
  runAfter := none
  createdAt := unset

def approvalOf (tenant approvalId : String) : ApprovalRequest where
  id := approvalId
  tenantId := some tenant
  kind := jobGate
  status := .approved
  payloadJson := none
  decidedAt := none
  createdAt := unset

def deliveryOf (tenant approvalId jobId : String) (status : DeliveryStatus) :
    EmailDeliveryRecord where
  id := approvalId
  tenantId := some tenant
  threadExternalId := "t"
  gmailDraftId := none
  gmailMessageId := none
  approvalId := some approvalId
  sourceJobId := none
  executionJobId := some jobId
  status := status
  lastError := none

theorem rivalSend_accepted (status : JobStatus) :
    (Table.single (sendOf "acme" "j1" "a1" .succeeded) : JobTable).Accepts
      (sendOf "rival" "j2" "a2" status) := by
  constructor <;> simp [Table.single, sendOf, sendKey]

theorem rivalApproval_accepted : (Table.single (approvalOf "acme" "a1") : ApprovalTable).Accepts
    (approvalOf "rival" "a2") := by
  constructor <;> simp [Table.single, approvalOf]

theorem rivalDelivery_accepted (status : DeliveryStatus) :
    (Table.single (deliveryOf "acme" "a1" "j1" .sent) : DeliveryTable).Accepts
      (deliveryOf "rival" "a2" "j2" status) := by
  constructor <;> simp [Table.single, deliveryOf]

/-- A mail of each of two tenants; that of `acme` is sent, and that of its rival is on the way. -/
def twoTenants (job : JobStatus) (delivery : DeliveryStatus) : Store :=
  { db :=
    { jobs := (Table.single (sendOf "acme" "j1" "a1" .succeeded)).append _ (rivalSend_accepted job)
      approvals := (Table.single (approvalOf "acme" "a1")).append _ rivalApproval_accepted
      emailDeliveries := (Table.single (deliveryOf "acme" "a1" "j1" .sent)).append _
        (rivalDelivery_accepted delivery) } }

theorem twoTenants_agree (job job' : JobStatus) (delivery delivery' : DeliveryStatus) :
    (twoTenants job delivery).AgreeOn (ownedBy "acme") (twoTenants job' delivery') := by
  constructor
  · constructor <;> rfl
  · exact Governance.agreeOn_refl _ _

theorem twoTenants_sendsOwned (job : JobStatus) (delivery : DeliveryStatus) :
    (twoTenants job delivery).db.SendsOwned where
  deliveries row hrow row' hrow' jobId hjob hjob' := by
    change row ∈ [deliveryOf "acme" "a1" "j1" .sent, deliveryOf "rival" "a2" "j2" delivery] at hrow
    change row' ∈ [deliveryOf "acme" "a1" "j1" .sent, deliveryOf "rival" "a2" "j2" delivery]
      at hrow'
    simp only [List.mem_cons, List.not_mem_nil, or_false] at hrow hrow'
    rcases hrow with rfl | rfl <;> rcases hrow' with rfl | rfl
    · rfl
    · rw [← hjob'] at hjob
      simp [deliveryOf] at hjob
    · rw [← hjob'] at hjob
      simp [deliveryOf] at hjob
    · rfl
  jobs row hrow send hsend hkey := by
    change row ∈ [approvalOf "acme" "a1", approvalOf "rival" "a2"] at hrow
    change send ∈ [sendOf "acme" "j1" "a1" .succeeded, sendOf "rival" "j2" "a2" job] at hsend
    simp only [List.mem_cons, List.not_mem_nil, or_false] at hrow hsend
    rcases hrow with rfl | rfl <;> rcases hsend with rfl | rfl
    · rfl
    · cases hkey
    · cases hkey
    · rfl

/-- While the mail of the rival is sent, `acme` reads the same delivery and the same detail of its
own, and the rival reads another one. -/
theorem rival_send_unread :
    (TenantRead.getDeliveryByExecutionJobId "j1").answer (twoTenants .running .awaitingApproval)
          "acme" =
        (TenantRead.getDeliveryByExecutionJobId "j1").answer (twoTenants .succeeded .sent) "acme" ∧
      (TenantRead.approvalDetail "a1").answer (twoTenants .running .awaitingApproval) "acme" =
        (TenantRead.approvalDetail "a1").answer (twoTenants .succeeded .sent) "acme" ∧
      (TenantRead.getDeliveryByExecutionJobId "j1").answer (twoTenants .succeeded .sent) "acme" =
        some (deliveryOf "acme" "a1" "j1" .sent) ∧
      (TenantRead.getDeliveryByExecutionJobId "j2").answer (twoTenants .running .awaitingApproval)
          "rival" ≠
        (TenantRead.getDeliveryByExecutionJobId "j2").answer (twoTenants .succeeded .sent)
          "rival" := by
  have hagree := twoTenants_agree .running .succeeded .awaitingApproval .sent
  have hrunning := twoTenants_sendsOwned .running .awaitingApproval
  have hsent := twoTenants_sendsOwned .succeeded .sent
  refine ⟨tenant_reads_isolated hagree hrunning hsent _,
    tenant_reads_isolated hagree hrunning hsent _, rfl, ?_⟩
  intro hsame
  cases hsame

end Sample

end ControlPlane
