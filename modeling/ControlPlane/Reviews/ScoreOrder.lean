import ControlPlane.Reviews.ScoreBounds

/-!
Better evidence does not lower a trust score. One packet improves on another if it
covers whatever the other covers; each scorer gives it at least the points.
-/

namespace ControlPlane

open EvidencePackets AuditService

namespace TrustScoreService

/-- The verification outcomes from the worst to the best. -/
def chainRank : ChainStatus → Nat
  | .failed => 0
  | .empty => 1
  | .verified => 2

/-- As many rows, and a row that is good for every one that was, in some order. -/
def Upgraded {α : Type} (good : α → Bool) (rows rows' : List α) : Prop :=
  ∃ order, order.Perm rows' ∧ List.Forall₂ (fun a b => good a → good b) rows order

/-- The evidence of `p'` is at least that of `p`. The gaps are sets in the source, so a
subset is a list with no gap more often than in the other. -/
structure Improves (p p' : Packet) : Prop where
  approvals : Upgraded (fun a => a.status = .approved) p.approvals p'.approvals
  policies : Upgraded (fun pd => !falsy pd.policyVersionId) p.policyDecisions p'.policyDecisions
  controls : p.mappedControls ≠ [] → p'.mappedControls ≠ []
  regulations : p.mappedRegulations ≠ [] → p'.mappedRegulations ≠ []
  gaps : p'.evidenceGaps.Subperm p.evidenceGaps
  overrides : p.overrides = [] → p'.overrides = []
  actions : ∀ e ∈ p.auditEvents, ∃ e' ∈ p'.auditEvents, e'.action = e.action
  tenant : falsy p.tenantId = false → falsy p'.tenantId = false
  verification : chainRank p.auditChainVerification.result.status ≤
    chainRank p'.auditChainVerification.result.status

theorem countP_forall₂ {α : Type} {good : α → Bool} {rows order : List α}
    (h : List.Forall₂ (fun a b => good a → good b) rows order) :
    rows.countP good ≤ order.countP good := by
  induction h with
  | nil => exact le_rfl
  | @cons a b rows order hab _ ih =>
      rw [List.countP_cons, List.countP_cons]
      by_cases hgood : good a
      · rw [if_pos hgood, if_pos (hab hgood)]
        omega
      · rw [if_neg hgood]
        omega

theorem Upgraded.length_eq {α : Type} {good : α → Bool} {rows rows' : List α}
    (h : Upgraded good rows rows') : rows.length = rows'.length := by
  obtain ⟨order, hperm, hpairs⟩ := h
  rw [hpairs.length_eq, hperm.length_eq]

theorem Upgraded.countP_le {α : Type} {good : α → Bool} {rows rows' : List α}
    (h : Upgraded good rows rows') : rows.countP good ≤ rows'.countP good := by
  obtain ⟨order, hperm, hpairs⟩ := h
  rw [← hperm.countP_eq]
  exact countP_forall₂ hpairs

/-- A scorer gives better evidence at least the points. -/
def Ordered (scorer : Scorer) : Prop :=
  ∀ d p p' appEnv, d.earned = 0 → Improves p p' →
    (scorer d p appEnv).earned ≤ (scorer d p' appEnv).earned

@[simp] theorem earned_earn (d : Dimension) (points : Nat) (reason : String) :
    (d.earn points reason).earned = points := rfl

@[simp] theorem earned_note (d : Dimension) (reason : String) :
    (d.note reason).earned = d.earned := rfl

theorem ordered_auditIntegrity : Ordered scoreAuditIntegrity := by
  intro d p p' appEnv hd h
  have hrank := h.verification
  unfold scoreAuditIntegrity
  dsimp only
  cases hp : p.auditChainVerification.result.status with
  | verified =>
      cases hp' : p'.auditChainVerification.result.status with
      | verified => exact le_rfl
      | empty => simp [hp, hp', chainRank] at hrank
      | failed => simp [hp, hp', chainRank] at hrank
  | empty => simp [hd]
  | failed => simp [hd]

/-- More rows covered of as many earn no fewer points. -/
theorem sharedPoints_mono {points k k' n : Nat} (hk : k ≤ k') (hk' : k' ≤ n) :
    sharedPoints points k n ≤ sharedPoints points k' n := by
  unfold sharedPoints
  split_ifs with hn hall hall' hsome' hall' hsome hsome hsome
  all_goals first
    | omega
    | exact roundQuotient_share_le (by omega) (by omega)
    | exact roundQuotient_mono (by omega) (Nat.mul_le_mul_left points hk)

theorem ordered_approvalCoverage : Ordered scoreApprovalCoverage := by
  intro d p p' appEnv hd h
  rw [shared_approvalCoverage hd, shared_approvalCoverage hd, h.approvals.length_eq]
  exact sharedPoints_mono h.approvals.countP_le List.countP_le_length

theorem ordered_controlCoverage : Ordered scoreControlCoverage := by
  intro d p p' appEnv hd h
  have hcontrols := h.controls
  unfold scoreControlCoverage
  simp only [ne_eq, List.length_eq_zero_iff] at hcontrols ⊢
  by_cases hp : p.mappedControls = []
  · simp [hp, hd]
  · simp [hp, hcontrols hp]

theorem ordered_evidenceCompleteness : Ordered scoreEvidenceCompleteness := by
  intro d p p' appEnv hd h
  have hlength := h.gaps.length_le
  unfold scoreEvidenceCompleteness
  simp only [List.isEmpty_iff]
  by_cases hp : p.evidenceGaps = []
  · have hp' : p'.evidenceGaps = [] := by
      rw [hp, List.length_nil, Nat.le_zero, List.length_eq_zero_iff] at hlength
      exact hlength
    simp [hp, hp']
  · rw [if_neg hp]
    split
    · exact Nat.sub_le _ _
    · rw [earned_earn, earned_earn]
      omega

theorem ordered_regulatoryMapping : Ordered scoreRegulatoryMapping := by
  intro d p p' appEnv hd h
  have hregulations := h.regulations
  unfold scoreRegulatoryMapping
  simp only [Bool.not_eq_true', List.isEmpty_eq_false_iff]
  by_cases hp : p.mappedRegulations = []
  · simp [hp, hd]
  · simp [hp, hregulations hp]

theorem ordered_rbacEnforcement : Ordered scoreRbacEnforcement := by
  intro d p p' appEnv _ _
  exact le_rfl

theorem ordered_tenantIsolation : Ordered scoreTenantIsolation := by
  intro d p p' appEnv hd h
  have htenant := h.tenant
  unfold scoreTenantIsolation
  cases hp : falsy p.tenantId with
  | true => simp [hd]
  | false => simp [htenant hp]

theorem ordered_incidentHistory : Ordered scoreIncidentHistory := by
  intro d p p' appEnv hd h
  have hrank := h.verification
  have hoverrides := h.overrides
  unfold scoreIncidentHistory
  simp only [List.length_eq_zero_iff]
  by_cases hp : p.auditChainVerification.result.status = .failed
  · simp [hp, hd]
  · have hp' : p'.auditChainVerification.result.status ≠ .failed := by
      intro hfailed
      rw [hfailed] at hrank
      cases hstatus : p.auditChainVerification.result.status
      · simp [hstatus, chainRank] at hrank
      · exact hp hstatus
      · simp [hstatus, chainRank] at hrank
    rw [if_neg hp, if_neg hp']
    by_cases hnone : p.overrides = []
    · rw [if_pos hnone, if_pos (hoverrides hnone)]
    · rw [if_neg hnone]
      split
      · exact roundQuotient_half_le d.maxPoints
      · exact le_rfl

theorem ordered_policyEnforcement : Ordered scorePolicyEnforcement := by
  intro d p p' appEnv hd h
  rw [shared_policyEnforcement hd, shared_policyEnforcement hd, h.policies.length_eq]
  exact sharedPoints_mono h.policies.countP_le List.countP_le_length

theorem any_action_mono (test : String → Bool) {events events' : List AuditEntry}
    (h : ∀ e ∈ events, ∃ e' ∈ events', e'.action = e.action)
    (hany : (events.any fun e => test e.action) = true) :
    (events'.any fun e => test e.action) = true := by
  obtain ⟨e, he, htest⟩ := List.any_eq_true.mp hany
  obtain ⟨e', he', haction⟩ := h e he
  exact List.any_eq_true.mpr ⟨e', he', by rw [haction]; exact htest⟩

theorem ordered_executionTraceability : Ordered scoreExecutionTraceability := by
  intro d p p' appEnv _ h
  have hsubmit := any_action_mono submits h.actions
  have hdecision := any_action_mono decides h.actions
  unfold scoreExecutionTraceability
  rw [earned_earn, earned_earn]
  refine Nat.add_le_add ?_ ?_
  · split
    next hp => rw [if_pos (hsubmit hp)]
    next => exact Nat.zero_le _
  · split
    next hp => rw [if_pos (hdecision hp)]
    next => exact Nat.zero_le _

theorem ordered_dimensions {entry : Dimension × Scorer} (h : entry ∈ dimensions) :
    Ordered entry.2 := by
  simp only [dimensions, List.mem_cons, List.not_mem_nil, or_false] at h
  rcases h with rfl | rfl | rfl | rfl | rfl | rfl | rfl | rfl | rfl | rfl
  · exact ordered_auditIntegrity
  · exact ordered_approvalCoverage
  · exact ordered_controlCoverage
  · exact ordered_evidenceCompleteness
  · exact ordered_regulatoryMapping
  · exact ordered_rbacEnforcement
  · exact ordered_tenantIsolation
  · exact ordered_incidentHistory
  · exact ordered_policyEnforcement
  · exact ordered_executionTraceability

/-- A packet that covers whatever another one covers earns at least its score and at least its
band, in every environment. The entries may be of any number and in any order, as long as there
are as many approvals and as many policy decisions in both. -/
theorem score_monotone_in_evidence {p p' : Packet} (h : Improves p p') (appEnv : AppEnv) :
    (scorePacket p appEnv).score ≤ (scorePacket p' appEnv).score ∧
      bandRank (scorePacket p appEnv).scoreBand ≤
        bandRank (scorePacket p' appEnv).scoreBand := by
  have hscore : (scorePacket p appEnv).score ≤ (scorePacket p' appEnv).score := by
    rw [score_eq_sum, score_eq_sum]
    have hpoints : ((scorePacket p appEnv).breakdown.map Dimension.earned).sum ≤
        ((scorePacket p' appEnv).breakdown.map Dimension.earned).sum := by
      unfold scorePacket
      dsimp only
      rw [List.map_map, List.map_map]
      refine List.sum_le_sum fun entry hentry => ?_
      exact ordered_dimensions hentry entry.1 p p' appEnv (explains_dimensions hentry).1 h
    exact_mod_cast hpoints
  exact ⟨hscore, by rw [scoreBand_eq, scoreBand_eq]; exact bandRank_mono hscore⟩

/-- The packet after the last decision, with the records that were missing. -/
def approvedPacket : Packet :=
  { nearlyApprovedPacket with
    approvals := List.replicate 23 ⟨"ga-1", "ap-1", .approved⟩ ++ [⟨"ga-24", "ap-24", .approved⟩]
    auditEvents := [⟨"ev-1", some 1, "approval.approved", "approval_request", "ap-24"⟩]
    auditChainVerification := ⟨"tenant_self_hash", ⟨.verified, 1, 1, none, none⟩⟩
    evidenceGaps := [] }

theorem approved_improves : Improves nearlyApprovedPacket approvedPacket where
  approvals := by
    refine ⟨⟨"ga-24", "ap-24", .approved⟩ :: List.replicate 23 ⟨"ga-1", "ap-1", .approved⟩, ?_, ?_⟩
    · exact (List.perm_append_singleton _ _).symm
    · refine List.Forall₂.cons (fun _ => rfl) ?_
      exact List.forall₂_same.mpr fun _ _ h => h
  policies := ⟨[], List.Perm.refl _, List.Forall₂.nil⟩
  controls h := h
  regulations h := h
  gaps := List.nil_subperm
  overrides h := h
  actions := by decide
  tenant h := h
  verification := by decide

theorem score_monotone_in_evidence_approved :
    (scorePacket nearlyApprovedPacket .production).score ≤
        (scorePacket approvedPacket .production).score ∧
      bandRank (scorePacket nearlyApprovedPacket .production).scoreBand ≤
        bandRank (scorePacket approvedPacket .production).scoreBand :=
  score_monotone_in_evidence approved_improves .production

end TrustScoreService

end ControlPlane
