import ControlPlane.Services.EvidencePacket
import Mathlib.Data.Finset.Sort
import Mathlib.Data.String.Basic

/-!
The loop of `_assemble`. `assemble` states its result list by list; here the lists are
filled graph by graph, as the source fills them, and the two packets are the same.
-/

namespace ControlPlane

open Lib EvidenceGraph

namespace EvidencePackets

/-- The lists and sets that the loop fills. -/
structure Tally where
  governedActions : List ActionEntry := []
  approvals : List ApprovalEntry := []
  policyDecisions : List PolicyEntry := []
  executionHistory : List ExecutionEntry := []
  auditEvents : List AuditEntry := []
  mappedControls : List ControlEntry := []
  mappedRegulations : Finset String := ∅
  evidenceArtifacts : List ArtifactEntry := []
  overrides : List OverrideEntry := []
  gaps : Finset Gap := ∅

namespace Tally

/-- `gaps.add(gap)`. -/
def missing (t : Tally) (gap : Gap) : Tally := { t with gaps := insert gap t.gaps }

def addAction (t : Tally) (entry : ActionEntry) : Tally :=
  { t with governedActions := t.governedActions ++ [entry] }

def addApproval (t : Tally) (entry : ApprovalEntry) : Tally :=
  { t with approvals := t.approvals ++ [entry] }

def addPolicy (t : Tally) (entry : PolicyEntry) : Tally :=
  { t with policyDecisions := t.policyDecisions ++ [entry] }

def addExecution (t : Tally) (entry : ExecutionEntry) : Tally :=
  { t with executionHistory := t.executionHistory ++ [entry] }

def addEvent (t : Tally) (event : AuditEvent) : Tally :=
  { t with auditEvents := t.auditEvents ++ [auditEntry event] }

/-- A mapped control, and its regulation if it has one. -/
def addControl (actionId : String) (t : Tally) (mapping : ControlMapping) : Tally :=
  let t := { t with
    mappedControls := t.mappedControls ++ [{
      governedActionId := actionId
      code := mapping.control.map Control.code
      title := mapping.control.map Control.title
      framework := mapping.framework.map ControlFramework.name }] }
  match mapping.regulation with
  | some regulation =>
      { t with mappedRegulations := insert regulation.name t.mappedRegulations }
  | none => t

def addArtifact (actionId : String) (t : Tally) (artifact : EvidenceArtifact) : Tally :=
  { t with
    evidenceArtifacts := t.evidenceArtifacts ++ [{
      governedActionId := actionId
      id := artifact.id
      artifactType := artifact.artifactType
      uri := artifact.uri }] }

def addOverride (actionId : String) (t : Tally) (ov : ActionOverride) : Tally :=
  { t with
    overrides := t.overrides ++ [{
      governedActionId := actionId
      id := ov.id
      overriddenByUserId := ov.overriddenByUserId
      reason := ov.reason
      authorityBasis := ov.authorityBasis
      acceptedRisk := ov.acceptedRisk
      compensatingControl := ov.compensatingControl
      expiration := ov.expiration
      status := ov.status }] }

/-- An action without a part of its evidence adds a gap instead. -/
def addApprovalOf (t : Tally) (actionId : String) : Option ApprovalRequest → Tally
  | some row => t.addApproval ⟨actionId, row.id, row.status⟩
  | none => t.missing .missingApproval

def addEvents (t : Tally) : List AuditEvent → Tally
  | [] => t.missing .missingAuditRecords
  | events => events.foldl addEvent t

def addControls (t : Tally) (actionId : String) : List ControlMapping → Tally
  | [] => t.missing .missingControlMappings
  | mappings => mappings.foldl (addControl actionId) t

def addArtifacts (t : Tally) (actionId : String) : List EvidenceArtifact → Tally
  | [] => t.missing .missingEvidenceArtifacts
  | artifacts => artifacts.foldl (addArtifact actionId) t

/-- The body of `for graph in graphs`. -/
def addGraph (t : Tally) (graph : ActionGraph) : Tally :=
  let actionId := graph.governedAction.id
  let t := t.addAction (actionEntry graph)
  let t := t.addApprovalOf actionId graph.approval
  let t := t.addPolicy (policyEntry graph)
  let t := t.addExecution (executionEntry graph)
  let t := t.addEvents graph.auditEvents
  let t := t.addControls actionId graph.controlMappings
  let t := t.addArtifacts actionId graph.evidenceArtifacts
  graph.overrides.foldl (addOverride actionId) t

end Tally

/-- `a <= b` for the texts of two gaps. -/
def Gap.le (a b : Gap) : Prop := a.value ≤ b.value

instance : DecidableRel Gap.le := fun a b => inferInstanceAs (Decidable (a.value ≤ b.value))

theorem Gap.value_injective : Function.Injective Gap.value := by
  intro a b h
  cases a <;> cases b <;> first | rfl | exact absurd h (by decide)

instance : Std.Total Gap.le := ⟨fun a b => le_total a.value b.value⟩

instance : IsTrans Gap Gap.le := ⟨fun _ _ _ h h' => le_trans (α := String) h h'⟩

instance : Std.Antisymm Gap.le := ⟨fun _ _ h h' => Gap.value_injective (le_antisymm h h')⟩

/-- `_assemble`, with its loop. -/
def assembleByLoop (generatedAt packetType : String) (scopeId tenantId : Option String)
    (graphs : List ActionGraph) (workflow : Option Workflow)
    (timeRange : Option TimeRange) (verification : Verification) : Packet :=
  let t := graphs.foldl Tally.addGraph {}
  let gaps := if verification.result.status = .failed then insert .brokenAuditChain t.gaps
    else t.gaps
  let evidenceGaps := gaps.sort Gap.le
  { packetType := packetType
    scopeId := scopeId
    tenantId := tenantId
    generatedAt := generatedAt
    workflow := workflow.map fun w => { id := w.id, name := w.name }
    timeRange := timeRange
    governedActions := t.governedActions
    approvals := t.approvals
    policyDecisions := t.policyDecisions
    executionHistory := t.executionHistory
    auditEvents := t.auditEvents
    auditChainVerification := verification
    mappedControls := t.mappedControls
    mappedRegulations := t.mappedRegulations.sort (· ≤ ·)
    evidenceArtifacts := t.evidenceArtifacts
    overrides := t.overrides
    evidenceGaps := evidenceGaps
    executiveSummary := summary packetType tenantId t.governedActions.length
      t.approvals.length t.auditEvents.length t.mappedControls.length
      t.evidenceArtifacts.length evidenceGaps.length
      (chainStatus verification.result.status) }

namespace Tally

theorem foldl_addEvent (t : Tally) (events : List AuditEvent) :
    events.foldl addEvent t =
      { t with auditEvents := t.auditEvents ++ events.map auditEntry } := by
  induction events generalizing t with
  | nil => simp
  | cons event rest ih => simp [ih, addEvent]

theorem foldl_addArtifact (actionId : String) (t : Tally) (artifacts : List EvidenceArtifact) :
    artifacts.foldl (addArtifact actionId) t =
      { t with evidenceArtifacts := t.evidenceArtifacts ++ artifacts.map fun artifact =>
        ⟨actionId, artifact.id, artifact.artifactType, artifact.uri⟩ } := by
  induction artifacts generalizing t with
  | nil => simp
  | cons artifact rest ih => simp [ih, addArtifact]

theorem foldl_addOverride (actionId : String) (t : Tally) (overrides : List ActionOverride) :
    overrides.foldl (addOverride actionId) t =
      { t with overrides := t.overrides ++ overrides.map fun ov =>
        ⟨actionId, ov.id, ov.overriddenByUserId, ov.reason, ov.authorityBasis,
          ov.acceptedRisk, ov.compensatingControl, ov.expiration, ov.status⟩ } := by
  induction overrides generalizing t with
  | nil => simp
  | cons ov rest ih => simp [ih, addOverride]

theorem foldl_addControl (actionId : String) (t : Tally) (mappings : List ControlMapping) :
    mappings.foldl (addControl actionId) t =
      { t with
        mappedControls := t.mappedControls ++ mappings.map fun mapping =>
          ⟨actionId, mapping.control.map Control.code, mapping.control.map Control.title,
            mapping.framework.map ControlFramework.name⟩
        mappedRegulations := t.mappedRegulations ∪
          (mappings.filterMap fun mapping =>
            mapping.regulation.map Regulation.name).toFinset } := by
  induction mappings generalizing t with
  | nil => simp
  | cons mapping rest ih =>
      rw [List.foldl_cons, ih]
      cases hregulation : mapping.regulation with
      | none => simp [addControl, hregulation]
      | some regulation =>
          simp [addControl, hregulation, Finset.insert_union]

theorem addApprovalOf_eq (t : Tally) (graph : ActionGraph) :
    t.addApprovalOf graph.governedAction.id graph.approval = { t with
      approvals := t.approvals ++ approvalEntries graph
      gaps := t.gaps ∪
        (if graph.approval.isNone then [Gap.missingApproval] else []).toFinset } := by
  unfold approvalEntries
  cases graph.approval with
  | none => simp [addApprovalOf, missing]
  | some row => simp [addApprovalOf, addApproval]

theorem addEvents_eq (t : Tally) (events : List AuditEvent) :
    t.addEvents events = { t with
      auditEvents := t.auditEvents ++ events.map auditEntry
      gaps := t.gaps ∪
        (if events.isEmpty then [Gap.missingAuditRecords] else []).toFinset } := by
  cases events with
  | nil => simp [addEvents, missing]
  | cons event rest =>
      unfold addEvents
      dsimp only
      rw [foldl_addEvent]
      simp

theorem addControls_eq (t : Tally) (graph : ActionGraph) :
    t.addControls graph.governedAction.id graph.controlMappings = { t with
      mappedControls := t.mappedControls ++ controlEntries graph
      mappedRegulations := t.mappedRegulations ∪ (regulationNames graph).toFinset
      gaps := t.gaps ∪
        (if graph.controlMappings.isEmpty then [Gap.missingControlMappings]
          else []).toFinset } := by
  unfold controlEntries regulationNames
  cases graph.controlMappings with
  | nil => simp [addControls, missing]
  | cons mapping rest =>
      unfold addControls
      dsimp only
      rw [foldl_addControl]
      simp

theorem addArtifacts_eq (t : Tally) (graph : ActionGraph) :
    t.addArtifacts graph.governedAction.id graph.evidenceArtifacts = { t with
      evidenceArtifacts := t.evidenceArtifacts ++ artifactEntries graph
      gaps := t.gaps ∪
        (if graph.evidenceArtifacts.isEmpty then [Gap.missingEvidenceArtifacts]
          else []).toFinset } := by
  unfold artifactEntries
  cases graph.evidenceArtifacts with
  | nil => simp [addArtifacts, missing]
  | cons artifact rest =>
      unfold addArtifacts
      dsimp only
      rw [foldl_addArtifact]
      simp

/-- What one graph adds to each list and set. -/
theorem addGraph_eq (t : Tally) (graph : ActionGraph) :
    t.addGraph graph = {
      governedActions := t.governedActions ++ [actionEntry graph]
      approvals := t.approvals ++ approvalEntries graph
      policyDecisions := t.policyDecisions ++ [policyEntry graph]
      executionHistory := t.executionHistory ++ [executionEntry graph]
      auditEvents := t.auditEvents ++ graph.auditEvents.map auditEntry
      mappedControls := t.mappedControls ++ controlEntries graph
      mappedRegulations := t.mappedRegulations ∪ (regulationNames graph).toFinset
      evidenceArtifacts := t.evidenceArtifacts ++ artifactEntries graph
      overrides := t.overrides ++ overrideEntries graph
      gaps := t.gaps ∪ (graphGaps graph).toFinset } := by
  simp only [addGraph, addAction, addApprovalOf_eq, addPolicy, addExecution, addEvents_eq,
    addControls_eq, addArtifacts_eq, foldl_addOverride, overrideEntries, graphGaps,
    List.toFinset_append, Finset.union_assoc]

/-- What the whole loop gathers, from any start. -/
theorem foldl_addGraph (t : Tally) (graphs : List ActionGraph) :
    graphs.foldl addGraph t = {
      governedActions := t.governedActions ++ graphs.map actionEntry
      approvals := t.approvals ++ graphs.flatMap approvalEntries
      policyDecisions := t.policyDecisions ++ graphs.map policyEntry
      executionHistory := t.executionHistory ++ graphs.map executionEntry
      auditEvents := t.auditEvents ++ graphs.flatMap fun g => g.auditEvents.map auditEntry
      mappedControls := t.mappedControls ++ graphs.flatMap controlEntries
      mappedRegulations := t.mappedRegulations ∪ (graphs.flatMap regulationNames).toFinset
      evidenceArtifacts := t.evidenceArtifacts ++ graphs.flatMap artifactEntries
      overrides := t.overrides ++ graphs.flatMap overrideEntries
      gaps := t.gaps ∪ (graphs.flatMap graphGaps).toFinset } := by
  induction graphs generalizing t with
  | nil => simp
  | cons graph rest ih =>
      rw [List.foldl_cons, ih, addGraph_eq]
      simp only [List.map_cons, List.flatMap_cons, List.toFinset_append, List.append_assoc,
        Finset.union_assoc, List.singleton_append]

end Tally

/-- What makes a gap one of the packet's. -/
def HasGap (verification : Verification) (graphs : List ActionGraph) : Gap → Prop
  | .brokenAuditChain => verification.result.status = .failed
  | .missingApproval => ∃ graph ∈ graphs, graph.approval = none
  | .missingAuditRecords => ∃ graph ∈ graphs, graph.auditEvents = []
  | .missingControlMappings => ∃ graph ∈ graphs, graph.controlMappings = []
  | .missingEvidenceArtifacts => ∃ graph ∈ graphs, graph.evidenceArtifacts = []

theorem mem_graphGaps {graph : ActionGraph} {gap : Gap} :
    gap ∈ graphGaps graph ↔
      (gap = .missingApproval ∧ graph.approval = none) ∨
      (gap = .missingAuditRecords ∧ graph.auditEvents = []) ∨
      (gap = .missingControlMappings ∧ graph.controlMappings = []) ∨
      (gap = .missingEvidenceArtifacts ∧ graph.evidenceArtifacts = []) := by
  unfold graphGaps
  simp only [List.mem_append, List.mem_ite_nil_right, List.mem_singleton, Option.isNone_iff_eq_none,
    List.isEmpty_iff, or_assoc]
  simp only [and_comm]

/-- The gaps that the loop and the check of the chain gather. -/
def gapsFound (verification : Verification) (graphs : List ActionGraph) : Finset Gap :=
  let t := graphs.foldl Tally.addGraph {}
  if verification.result.status = .failed then insert .brokenAuditChain t.gaps else t.gaps

theorem mem_gapsFound {verification : Verification} {graphs : List ActionGraph} {gap : Gap} :
    gap ∈ gapsFound verification graphs ↔ HasGap verification graphs gap := by
  have hloop : gap ∈ (graphs.flatMap graphGaps).toFinset ↔ ∃ graph ∈ graphs,
      gap ∈ graphGaps graph := by simp
  have hfound : gap ∈ gapsFound verification graphs ↔
      (gap = .brokenAuditChain ∧ verification.result.status = .failed) ∨
        gap ∈ (graphs.flatMap graphGaps).toFinset := by
    unfold gapsFound
    dsimp only
    rw [Tally.foldl_addGraph]
    split
    next hfailed => simp [hfailed]
    next hfailed => simp [hfailed]
  rw [hfound, hloop]
  simp only [mem_graphGaps]
  cases gap <;> simp [HasGap]

/-- A strictly sorted list is the sorted list of its members. -/
theorem eq_sort_of_pairwise {α : Type} [DecidableEq α] {r : α → α → Prop} [DecidableRel r]
    [IsTrans α r] [Std.Antisymm r] [Std.Total r] {rows : List α} {members : Finset α}
    (hsorted : rows.Pairwise r) (hnodup : rows.Nodup) (h : ∀ x, x ∈ rows ↔ x ∈ members) :
    members.sort r = rows := by
  have hperm : (members.sort r).Perm rows :=
    (List.perm_ext_iff_of_nodup (Finset.sort_nodup ..) hnodup).mpr fun x => by
      rw [Finset.mem_sort, h]
  exact hperm.eq_of_pairwise' (Finset.pairwise_sort ..) hsorted

theorem Gap.mem_all (gap : Gap) : gap ∈ Gap.all := by
  cases gap <;> decide

theorem sort_gaps (found : Finset Gap) :
    found.sort Gap.le = Gap.all.filter fun gap => gap ∈ found := by
  have hall : Gap.all.Pairwise Gap.le ∧ Gap.all.Nodup := by decide
  refine eq_sort_of_pairwise (hall.1.filter _) (hall.2.filter _) fun gap => ?_
  simp [Gap.mem_all]

theorem sort_names (names : List String) :
    names.toFinset.sort (· ≤ ·) = sortedNames names := by
  refine eq_sort_of_pairwise (List.pairwise_insertionSort _ _) ?_ fun name => ?_
  · exact (List.perm_insertionSort _ _).nodup_iff.mpr names.nodup_dedup
  · unfold sortedNames
    rw [(List.perm_insertionSort _ _).mem_iff, List.mem_dedup, List.mem_toFinset]

theorem sortedNames_sorted (names : List String) : (sortedNames names).Pairwise (· < ·) := by
  have hsorted : (sortedNames names).Pairwise (· ≤ ·) := List.pairwise_insertionSort _ _
  have hnodup : (sortedNames names).Nodup :=
    (List.perm_insertionSort _ _).nodup_iff.mpr names.nodup_dedup
  exact (hsorted.and hnodup).imp fun h => lt_of_le_of_ne h.1 h.2

theorem mem_regulations {graphs : List ActionGraph} {name : String} :
    name ∈ sortedNames (graphs.flatMap regulationNames) ↔ ∃ graph ∈ graphs,
      ∃ mapping ∈ graph.controlMappings, ∃ regulation,
        mapping.regulation = some regulation ∧ regulation.name = name := by
  unfold sortedNames regulationNames
  rw [(List.perm_insertionSort _ _).mem_iff, List.mem_dedup]
  simp only [List.mem_flatMap, List.mem_filterMap, Option.map_eq_some_iff]

theorem gapSet_sorted (verification : Verification) (graphs : List ActionGraph) :
    ((gapSet verification graphs).map Gap.value).Pairwise (· < ·) := by
  have hall : Gap.all.Pairwise fun a b => a.value < b.value := by decide
  rw [List.pairwise_map]
  exact hall.filter _

theorem gapSet_eq (verification : Verification) (graphs : List ActionGraph) :
    gapSet verification graphs =
      Gap.all.filter fun gap => gap ∈ gapsFound verification graphs := by
  unfold gapSet
  refine List.filter_congr fun gap _ => ?_
  rw [Bool.eq_iff_iff, List.contains_iff_mem, decide_eq_true_eq, gapsFound,
    Tally.foldl_addGraph]
  split
  next hfailed => simp [or_comm]
  next hfailed => simp

section

variable (generatedAt packetType : String) (scopeId tenantId : Option String)
variable (workflow : Option Workflow) (timeRange : Option TimeRange)

/-- The loop and the comprehensions make the same packet. -/
theorem assembleByLoop_eq (graphs : List ActionGraph) (verification : Verification) :
    assembleByLoop generatedAt packetType scopeId tenantId graphs workflow timeRange
        verification =
      assemble generatedAt packetType scopeId tenantId graphs workflow timeRange
        verification := by
  have hgaps : (gapsFound verification graphs).sort Gap.le = gapSet verification graphs := by
    rw [sort_gaps, gapSet_eq]
  unfold gapsFound at hgaps
  unfold assembleByLoop assemble
  dsimp only at hgaps ⊢
  rw [hgaps, Tally.foldl_addGraph]
  simp only [List.nil_append, Finset.empty_union, sort_names, List.length_map]

/-- The packet of any list of graphs holds one entry for each graph or part of a graph, in
order, and reports a gap exactly if a graph lacks that part or the chain does not verify. -/
theorem assembly_complete (graphs : List ActionGraph) (verification : Verification) :
    let packet := assembleByLoop generatedAt packetType scopeId tenantId graphs workflow
      timeRange verification
    packet.governedActions = graphs.map actionEntry ∧
    packet.policyDecisions = graphs.map policyEntry ∧
    packet.executionHistory = graphs.map executionEntry ∧
    packet.approvals = graphs.flatMap approvalEntries ∧
    packet.auditEvents = (graphs.flatMap fun graph => graph.auditEvents.map auditEntry) ∧
    packet.mappedControls = graphs.flatMap controlEntries ∧
    packet.evidenceArtifacts = graphs.flatMap artifactEntries ∧
    packet.overrides = graphs.flatMap overrideEntries ∧
    packet.mappedRegulations.Pairwise (· < ·) ∧
    (∀ name, name ∈ packet.mappedRegulations ↔ ∃ graph ∈ graphs,
      ∃ mapping ∈ graph.controlMappings, ∃ regulation,
        mapping.regulation = some regulation ∧ regulation.name = name) ∧
    (packet.evidenceGaps.map Gap.value).Pairwise (· < ·) ∧
    (∀ gap, gap ∈ packet.evidenceGaps ↔ HasGap verification graphs gap) ∧
    packet = assemble generatedAt packetType scopeId tenantId graphs workflow timeRange
      verification := by
  dsimp only
  rw [assembleByLoop_eq]
  refine ⟨rfl, rfl, rfl, rfl, rfl, rfl, rfl, rfl, ?_, ?_, ?_, ?_, rfl⟩
  · exact sortedNames_sorted _
  · intro name
    exact mem_regulations
  · exact gapSet_sorted verification graphs
  · intro gap
    unfold assemble
    rw [gapSet_eq]
    simp [Gap.mem_all, mem_gapsFound]

end

end EvidencePackets

end ControlPlane
