import ControlPlane.Audit.ScopedVerification
import ControlPlane.Services.TrustScoreService
import Mathlib.Data.List.Dedup

/-!
The score of an action as points for what a caller sees of it. A caller of a tenant
sees the linked records of its tenant, the operator sees all of them; with an intact
chain the points depend on nothing else.
-/

namespace ControlPlane

open Lib EvidenceGraph EvidencePackets AuditService

/-- What the packet of a caller says of an intact chain. -/
theorem EvidencePackets.verify_of_intact [Deployment] {S : Store}
    (h : Unbroken S.db.auditEvents.rows) (tenantId : Option String) :
    ∃ v, verify S tenantId = .ok v ∧
      v.result.status = if inChain S.db.auditEvents.rows tenantId then .verified
        else .empty := by
  cases tenantId with
  | none =>
      obtain ⟨result, hresult, hstatus⟩ := h.verifyChain
      exact ⟨⟨"global_chain", result⟩, by rw [verify, hresult]; rfl, hstatus⟩
  | some t =>
      obtain ⟨result, hresult, hstatus, _⟩ := h.verifyTenantEvents t
      exact ⟨⟨"tenant_self_hash", result⟩, by rw [verify, hresult]; rfl, hstatus⟩

namespace TrustScoreService

/-- What a caller sees of an action and of the records that are linked to it. -/
structure Sight where
  /-- The packet is bound to a tenant. -/
  bound : Bool
  /-- The chain covers an event in scope. -/
  chain : Bool
  approval : Option ApprovalStatus
  controls : Bool
  regulations : Bool
  artifacts : Bool
  overrides : Bool
  events : Bool
  submitted : Bool
  decided : Bool
  deriving DecidableEq, Repr

namespace Sight

def gaps (v : Sight) : Nat :=
  v.approval.isNone.toNat + (!v.events).toNat + (!v.controls).toNat + (!v.artifacts).toNat

/-- The points of an action with an intact chain; `versioned` says that its decision is
bound to a policy version. -/
def points (v : Sight) (appEnv : AppEnv) (versioned : Bool) : Nat :=
  (if v.chain then 15 else 0) + (if v.approval = some .approved then 12 else 0) +
    (if v.controls then 12 else 0) + (12 - v.gaps * 4) + (if v.regulations then 10 else 0) +
    (if appEnv = .demo then 5 else 10) + (if v.bound then 8 else 0) +
    (if v.overrides then 4 else 7) + (if versioned then 7 else 0) +
    ((if v.submitted then 3 else 0) + if v.decided then 4 else 0)

theorem ite_le (b : Bool) (n : Nat) : (if b then n else 0) ≤ n := by
  cases b <;> simp

theorem points_le (v : Sight) (appEnv : AppEnv) (versioned : Bool) :
    v.points appEnv versioned ≤ 100 := by
  have happroval : (if v.approval = some .approved then 12 else 0) ≤ 12 := by
    split <;> simp
  have hrbac : (if appEnv = .demo then 5 else 10) ≤ 10 := by
    split <;> simp
  have hoverrides : (if v.overrides then 4 else 7) ≤ 7 := by
    split <;> simp
  have hchain := ite_le v.chain 15
  have hcontrols := ite_le v.controls 12
  have hregulations := ite_le v.regulations 10
  have hbound := ite_le v.bound 8
  have hversioned := ite_le versioned 7
  have hsubmitted := ite_le v.submitted 3
  have hdecided := ite_le v.decided 4
  unfold points
  omega

end Sight

section

variable [Deployment] {S : Store} {graph : ActionGraph} {tenantId : Option String}

/-- The sight of an assembled graph. -/
def sightOf (graph : ActionGraph) (tenantId : Option String) (chain : Bool) : Sight where
  bound := !falsy tenantId
  chain := chain
  approval := graph.approval.map ApprovalRequest.status
  controls := !graph.controlMappings.isEmpty
  regulations := graph.controlMappings.any fun mapping => mapping.regulation.isSome
  artifacts := !graph.evidenceArtifacts.isEmpty
  overrides := !graph.overrides.isEmpty
  events := !graph.auditEvents.isEmpty
  submitted := graph.auditEvents.any fun e => submits e.action
  decided := graph.auditEvents.any fun e => decides e.action

omit [Deployment] in
/-- The gaps of a packet of one graph, with a chain that did not fail. -/
theorem gaps_length {v : Verification} (hv : v.result.status ≠ .failed) (chain : Bool) :
    (gapSet v [graph]).length = (sightOf graph tenantId chain).gaps := by
  have hgaps : [graph].flatMap graphGaps ++
      (if v.result.status = .failed then [Gap.brokenAuditChain] else []) =
        graphGaps graph := by
    rw [if_neg hv, List.append_nil, List.flatMap_singleton]
  unfold gapSet
  dsimp only
  rw [hgaps]
  unfold graphGaps sightOf Sight.gaps
  cases graph.approval <;> cases graph.auditEvents <;> cases graph.controlMappings <;>
    cases graph.evidenceArtifacts <;> rfl

omit [Deployment] in
theorem sortedNames_isEmpty (names : List String) :
    (sortedNames names).isEmpty = names.isEmpty := by
  have hmem : ∀ name, name ∈ sortedNames names ↔ name ∈ names := by
    intro name
    rw [sortedNames, List.mem_insertionSort, List.mem_dedup]
  cases names with
  | nil => rfl
  | cons name rest =>
      have hname := (hmem name).mpr List.mem_cons_self
      rw [List.isEmpty_cons]
      cases hsorted : sortedNames (name :: rest) with
      | nil =>
          rw [hsorted] at hname
          cases hname
      | cons _ _ => rfl

omit [Deployment] in
theorem regulationNames_isEmpty :
    (regulationNames graph).isEmpty =
      !graph.controlMappings.any fun mapping => mapping.regulation.isSome := by
  unfold regulationNames
  induction graph.controlMappings with
  | nil => rfl
  | cons mapping rest ih =>
      cases hreg : mapping.regulation with
      | none => simpa [hreg] using ih
      | some regulation => simp [hreg]

section

variable {generatedAt packetType : String} {scopeId : Option String}
  {workflow : Option Workflow} {timeRange : Option TimeRange} {chain : Bool}
  {v : Verification} {d : Dimension} {appEnv : AppEnv}

omit [Deployment] in
theorem earned_auditIntegrity
    (hv : v.result.status = if chain then .verified else .empty) :
    (scoreAuditIntegrity d (assemble generatedAt packetType scopeId tenantId [graph] workflow
      timeRange v) appEnv).earned = if chain then d.maxPoints else d.earned := by
  unfold scoreAuditIntegrity assemble
  dsimp only
  cases chain <;> rw [hv] <;> rfl

omit [Deployment] in
theorem earned_approvalCoverage :
    (scoreApprovalCoverage d (assemble generatedAt packetType scopeId tenantId [graph]
      workflow timeRange v) appEnv).earned =
        if graph.approval.map ApprovalRequest.status = some .approved then d.maxPoints
        else d.earned := by
  unfold scoreApprovalCoverage assemble
  simp only [List.flatMap_singleton]
  unfold approvalEntries
  cases graph.approval with
  | none => rfl
  | some row => cases hstatus : row.status <;> simp [hstatus, Dimension.earn, Dimension.note]

omit [Deployment] in
theorem earned_controlCoverage :
    (scoreControlCoverage d (assemble generatedAt packetType scopeId tenantId [graph]
      workflow timeRange v) appEnv).earned =
        if !graph.controlMappings.isEmpty then d.maxPoints else d.earned := by
  unfold scoreControlCoverage assemble
  simp only [List.flatMap_singleton]
  unfold controlEntries
  cases graph.controlMappings with
  | nil => rfl
  | cons mapping rest => simp [Dimension.earn]

omit [Deployment] in
theorem earned_evidenceCompleteness (hv : v.result.status ≠ .failed) (chain : Bool) :
    (scoreEvidenceCompleteness d (assemble generatedAt packetType scopeId tenantId [graph]
      workflow timeRange v) appEnv).earned =
        d.maxPoints - (sightOf graph tenantId chain).gaps * 4 := by
  have hlength : (gapSet v [graph]).length = (sightOf graph tenantId chain).gaps :=
    gaps_length hv chain
  unfold scoreEvidenceCompleteness assemble
  dsimp only
  rw [← hlength]
  cases gapSet v [graph] with
  | nil => rfl
  | cons gap rest =>
      have hle : d.maxPoints - min d.maxPoints ((gap :: rest).length * 4) =
          d.maxPoints - (gap :: rest).length * 4 := by
        omega
      exact hle

omit [Deployment] in
theorem earned_regulatoryMapping :
    (scoreRegulatoryMapping d (assemble generatedAt packetType scopeId tenantId [graph]
      workflow timeRange v) appEnv).earned =
        if graph.controlMappings.any fun mapping => mapping.regulation.isSome then d.maxPoints
        else d.earned := by
  have hnames : (sortedNames ([graph].flatMap regulationNames)).isEmpty =
      !graph.controlMappings.any fun mapping => mapping.regulation.isSome := by
    rw [sortedNames_isEmpty, List.flatMap_singleton, regulationNames_isEmpty]
  unfold scoreRegulatoryMapping assemble
  dsimp only
  rw [hnames, Bool.not_not]
  cases graph.controlMappings.any fun mapping => mapping.regulation.isSome <;> rfl

omit [Deployment] in
theorem earned_tenantIsolation :
    (scoreTenantIsolation d (assemble generatedAt packetType scopeId tenantId [graph]
      workflow timeRange v) appEnv).earned =
        if !falsy tenantId then d.maxPoints else d.earned := by
  unfold scoreTenantIsolation assemble
  dsimp only
  cases falsy tenantId <;> rfl

omit [Deployment] in
theorem earned_incidentHistory (hv : v.result.status ≠ .failed) :
    (scoreIncidentHistory d (assemble generatedAt packetType scopeId tenantId [graph]
      workflow timeRange v) appEnv).earned =
        if !graph.overrides.isEmpty then roundQuotient d.maxPoints 2 else d.maxPoints := by
  unfold scoreIncidentHistory assemble
  simp only [List.flatMap_singleton, if_neg hv]
  unfold overrideEntries
  cases graph.overrides with
  | nil => rfl
  | cons row rest => simp [Dimension.earn]

omit [Deployment] in
theorem earned_policyEnforcement :
    (scorePolicyEnforcement d (assemble generatedAt packetType scopeId tenantId [graph]
      workflow timeRange v) appEnv).earned =
        if !falsy graph.governedAction.policyVersionId then d.maxPoints else d.earned := by
  unfold scorePolicyEnforcement assemble policyEntry
  dsimp only
  cases hfalsy : falsy graph.governedAction.policyVersionId <;>
    simp [hfalsy, Dimension.earn, Dimension.note]

omit [Deployment] in
theorem earned_executionTraceability :
    (scoreExecutionTraceability d (assemble generatedAt packetType scopeId tenantId [graph]
      workflow timeRange v) appEnv).earned =
        (if graph.auditEvents.any fun e => submits e.action then d.maxPoints / 2 else 0) +
          (if graph.auditEvents.any fun e => decides e.action then
            d.maxPoints - d.maxPoints / 2 else 0) := by
  unfold scoreExecutionTraceability assemble auditEntry
  simp [Dimension.earn, List.any_map, Function.comp_def]

end

omit [Deployment] in
theorem earned_rbacEnforcement {packet : Packet} :
    (scoreRbacEnforcement d packet appEnv).earned =
      if appEnv = .demo then roundQuotient d.maxPoints 2 else d.maxPoints := by
  unfold scoreRbacEnforcement
  cases appEnv <;> rfl

omit [Deployment] in
/-- The score is the points of what the caller sees. -/
theorem score_eq_points (hv : v.result.status = if chain then .verified else .empty) :
    (scorePacket (assemble generatedAt packetType scopeId tenantId [graph] workflow timeRange
      v) appEnv).score = (sightOf graph tenantId chain).points appEnv
        (!falsy graph.governedAction.policyVersionId) := by
  have hnot : v.result.status ≠ .failed := by
    rw [hv]
    cases chain <;> simp
  have hsum : ((dimensions.map fun entry => entry.2 entry.1 (assemble generatedAt packetType
      scopeId tenantId [graph] workflow timeRange v) appEnv).map Dimension.earned).sum =
        (sightOf graph tenantId chain).points appEnv
          (!falsy graph.governedAction.policyVersionId) := by
    simp only [dimensions, List.map_cons, List.map_nil, List.sum_cons, List.sum_nil,
      earned_auditIntegrity hv, earned_approvalCoverage, earned_controlCoverage,
      earned_evidenceCompleteness hnot chain, earned_regulatoryMapping,
      earned_rbacEnforcement, earned_tenantIsolation, earned_incidentHistory hnot,
      earned_policyEnforcement, earned_executionTraceability]
    have hround : roundQuotient 7 2 = 4 ∧ roundQuotient 10 2 = 5 := ⟨rfl, rfl⟩
    have hhalf : 7 - 7 / 2 = 4 ∧ 7 / 2 = 3 := ⟨rfl, rfl⟩
    rw [hround.1, hround.2, hhalf.1, hhalf.2]
    unfold Sight.points sightOf
    dsimp only
    omega
  have hle := (sightOf graph tenantId chain).points_le appEnv
    (!falsy graph.governedAction.policyVersionId)
  unfold scorePacket
  dsimp only
  rw [hsum]
  omega

end

theorem any_insertionSort {α : Type} (r : α → α → Prop) [DecidableRel r] (rows : List α)
    (p : α → Bool) : (rows.insertionSort r).any p = rows.any p := by
  rw [Bool.eq_iff_iff, List.any_eq_true, List.any_eq_true]
  simp only [List.mem_insertionSort]

theorem not_isEmpty {α : Type} (rows : List α) : (!rows.isEmpty) = rows.any fun _ => true := by
  cases rows <;> simp

section

variable [Deployment] {S : Store} {action : GovernedAction} {tenantId : Option String}

/-- The sight of a caller, off the tables. -/
def seen (S : Store) (action : GovernedAction) (tenantId : Option String) : Sight where
  bound := !falsy tenantId
  chain := inChain S.db.auditEvents.rows tenantId
  approval := (linked action.approvalId fun id => ifScoped ApprovalRequest.tenantId tenantId
    (S.db.approvals.find? id)).map ApprovalRequest.status
  controls := S.governance.mappings.rows.any fun row =>
    row.governedActionId = action.id && inScope tenantId row.tenantId
  regulations := S.governance.mappings.rows.any fun row =>
    (row.governedActionId = action.id && inScope tenantId row.tenantId) &&
      (linked row.regulationId S.governance.regulations.find?).isSome
  artifacts := S.governance.artifacts.rows.any fun row =>
    inScope tenantId row.tenantId && row.governedActionId = some action.id
  overrides := S.governance.overrides.rows.any fun row =>
    row.governedActionId = action.id && inScope tenantId row.tenantId
  events := S.db.auditEvents.rows.any fun row =>
    (resourceIds action).contains row.resourceId && inScope tenantId row.tenantId
  submitted := S.db.auditEvents.rows.any fun row =>
    ((resourceIds action).contains row.resourceId && inScope tenantId row.tenantId) &&
      submits row.action
  decided := S.db.auditEvents.rows.any fun row =>
    ((resourceIds action).contains row.resourceId && inScope tenantId row.tenantId) &&
      decides row.action

theorem sightOf_graph {id : String} {graph : ActionGraph}
    (h : getEvidenceGraph S id tenantId = some graph) :
    sightOf graph tenantId (inChain S.db.auditEvents.rows tenantId) =
      seen S graph.governedAction tenantId := by
  unfold getEvidenceGraph at h
  dsimp only at h
  cases haction : getGovernedAction S.governance id tenantId with
  | none =>
      rw [haction] at h
      cases h
  | some action =>
      rw [haction] at h
      cases h
      unfold sightOf seen actionEvents listEvidenceArtifacts newestFirst controlMapping
      simp only [not_isEmpty, any_insertionSort, List.any_filter, List.any_map,
        Function.comp_def, Bool.and_true, reduceCtorEq, decide_false, Bool.false_or]

theorem graph_of_action {id : String}
    (h : getGovernedAction S.governance id tenantId = some action) :
    ∃ graph, getEvidenceGraph S id tenantId = some graph ∧ graph.governedAction = action := by
  unfold getEvidenceGraph
  dsimp only
  rw [h]
  exact ⟨_, rfl, rfl⟩

/-- With an intact chain a packet is built for every action in scope, and its score is
the points of what the caller sees. -/
theorem buildActionPacket_score {id : String} (hchain : Unbroken S.db.auditEvents.rows)
    (h : getGovernedAction S.governance id tenantId = some action) (generatedAt : String)
    (appEnv : AppEnv) :
    ∃ packet, buildActionPacket S generatedAt id tenantId = .ok (some packet) ∧
      (scorePacket packet appEnv).score =
        (seen S action tenantId).points appEnv (!falsy action.policyVersionId) := by
  obtain ⟨graph, hgraph, rfl⟩ := graph_of_action h
  obtain ⟨v, hverify, hv⟩ := verify_of_intact hchain tenantId
  have hsight := sightOf_graph hgraph
  unfold buildActionPacket
  rw [hgraph]
  dsimp only
  rw [hverify]
  refine ⟨_, rfl, ?_⟩
  rw [score_eq_points hv, hsight]

theorem buildActionPacket_none {id : String}
    (h : getGovernedAction S.governance id tenantId = none) (generatedAt : String) :
    buildActionPacket S generatedAt id tenantId = .ok none := by
  unfold buildActionPacket getEvidenceGraph
  dsimp only
  rw [h]
  rfl

end

end TrustScoreService

end ControlPlane
