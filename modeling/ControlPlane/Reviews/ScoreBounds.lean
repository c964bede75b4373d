import ControlPlane.Lib.Rounding
import ControlPlane.Services.TrustScoreService
import Mathlib.Algebra.Order.BigOperators.Group.List
import Mathlib.Data.List.Forall2

/-!
The breakdown of a trust score. Each scorer stays within its maximum and says why;
it gives no fewer points for better evidence; and the rounded proportion of a
partial coverage can meet the points of none or of all.
-/

namespace ControlPlane

open Lib EvidencePackets

namespace TrustScoreService

theorem roundsTo_roundQuotient (n : Nat) {d : Nat} (hd : 0 < d) :
    RoundsTo ((n : Rat) / d) (roundQuotient n d) := by
  rw [roundsTo_div_iff hd]
  have hsum := Nat.div_add_mod n d
  have hmod := Nat.mod_lt n hd
  have hnext : d * (n / d + 1) = d * (n / d) + d := Nat.mul_succ d (n / d)
  unfold roundQuotient
  dsimp only
  split
  · omega
  · split
    · omega
    · split
      · omega
      · omega

theorem roundQuotient_eq_iff {n d q : Nat} (hd : 0 < d) :
    roundQuotient n d = q ↔
      2 * (d * q) ≤ 2 * n + d ∧ 2 * n ≤ 2 * (d * q) + d ∧
        (2 * n = 2 * (d * q) + d → q % 2 = 0) ∧ (2 * (d * q) = 2 * n + d → q % 2 = 0) := by
  rw [← roundsTo_div_iff (α := Rat) hd]
  constructor
  · rintro rfl
    exact roundsTo_roundQuotient n hd
  · intro h
    exact_mod_cast (roundsTo_roundQuotient n hd).unique h

theorem roundQuotient_mono {n m d : Nat} (hd : 0 < d) (h : n ≤ m) :
    roundQuotient n d ≤ roundQuotient m d := by
  have hle : (n : Rat) / d ≤ (m : Rat) / d := by gcongr
  exact_mod_cast (roundsTo_roundQuotient n hd).mono (roundsTo_roundQuotient m hd) hle

theorem roundQuotient_le {n c d : Nat} (hd : 0 < d) (h : n ≤ c * d) :
    roundQuotient n d ≤ c := by
  have hpos : (0 : Rat) < d := by exact_mod_cast hd
  have hle : (n : Rat) / d ≤ ((c : Int) : Rat) := by
    rw [div_le_iff₀ hpos]
    exact_mod_cast h
  exact_mod_cast (roundsTo_roundQuotient n hd).le_intCast hle

/-- A scored dimension: the points stay within the maximum, for a reason. -/
structure Explained (d scored : Dimension) : Prop where
  key : scored.key = d.key
  label : scored.label = d.label
  maxPoints : scored.maxPoints = d.maxPoints
  earned : scored.earned ≤ scored.maxPoints
  reasons : scored.reasons ≠ []

theorem explained_earn {d : Dimension} {points : Nat} {reason : String}
    (h : points ≤ d.maxPoints) : Explained d (d.earn points reason) :=
  ⟨rfl, rfl, rfl, h, by simp [Dimension.earn]⟩

theorem explained_note {d : Dimension} {reason : String} (h : d.earned = 0) :
    Explained d (d.note reason) :=
  ⟨rfl, rfl, rfl, by simp [Dimension.note, h], by simp [Dimension.note]⟩

/-- A scorer explains what it gives to a dimension without points. -/
def Explains (scorer : Scorer) : Prop :=
  ∀ d packet appEnv, d.earned = 0 → Explained d (scorer d packet appEnv)

theorem explains_auditIntegrity : Explains scoreAuditIntegrity := by
  intro d packet appEnv hd
  unfold scoreAuditIntegrity
  dsimp only
  split
  · exact explained_earn le_rfl
  · exact explained_note hd
  · exact explained_note hd

/-- A part of a nonempty list earns at most the maximum. -/
theorem roundQuotient_share_le {points k n : Nat} (hk : k ≤ n) (hk0 : k ≠ 0) :
    roundQuotient (points * k) n ≤ points :=
  roundQuotient_le (by omega) (Nat.mul_le_mul_left points hk)

theorem explains_approvalCoverage : Explains scoreApprovalCoverage := by
  intro d packet appEnv hd
  unfold scoreApprovalCoverage
  dsimp only
  split
  · exact explained_note hd
  · split
    · exact explained_earn le_rfl
    · split
      next hsome => exact explained_earn (roundQuotient_share_le List.countP_le_length hsome)
      next => exact explained_note hd

theorem explains_controlCoverage : Explains scoreControlCoverage := by
  intro d packet appEnv hd
  unfold scoreControlCoverage
  dsimp only
  split
  · exact explained_earn le_rfl
  · exact explained_note hd

theorem explains_evidenceCompleteness : Explains scoreEvidenceCompleteness := by
  intro d packet appEnv hd
  unfold scoreEvidenceCompleteness
  dsimp only
  split
  · exact explained_earn le_rfl
  · exact explained_earn (Nat.sub_le _ _)

theorem explains_regulatoryMapping : Explains scoreRegulatoryMapping := by
  intro d packet appEnv hd
  unfold scoreRegulatoryMapping
  dsimp only
  split
  · exact explained_earn le_rfl
  · exact explained_note hd

theorem roundQuotient_half_le (points : Nat) : roundQuotient points 2 ≤ points :=
  roundQuotient_le (by omega) (by omega)

theorem explains_rbacEnforcement : Explains scoreRbacEnforcement := by
  intro d packet appEnv _
  unfold scoreRbacEnforcement
  split
  · exact explained_earn le_rfl
  · exact explained_earn (roundQuotient_half_le _)

theorem explains_tenantIsolation : Explains scoreTenantIsolation := by
  intro d packet appEnv hd
  unfold scoreTenantIsolation
  split
  · exact explained_earn le_rfl
  · exact explained_note hd

theorem explains_incidentHistory : Explains scoreIncidentHistory := by
  intro d packet appEnv hd
  unfold scoreIncidentHistory
  dsimp only
  split
  · exact explained_note hd
  · split
    · exact explained_earn le_rfl
    · exact explained_earn (roundQuotient_half_le _)

theorem explains_policyEnforcement : Explains scorePolicyEnforcement := by
  intro d packet appEnv hd
  unfold scorePolicyEnforcement
  dsimp only
  split
  · exact explained_earn le_rfl
  · split
    next hsome => exact explained_earn (roundQuotient_share_le List.countP_le_length hsome)
    next => exact explained_note hd

theorem explains_executionTraceability : Explains scoreExecutionTraceability := by
  intro d packet appEnv _
  unfold scoreExecutionTraceability
  refine explained_earn ?_
  split
  · split <;> omega
  · split <;> omega

theorem explains_dimensions {entry : Dimension × Scorer} (h : entry ∈ dimensions) :
    entry.1.earned = 0 ∧ Explains entry.2 := by
  simp only [dimensions, List.mem_cons, List.not_mem_nil, or_false] at h
  rcases h with rfl | rfl | rfl | rfl | rfl | rfl | rfl | rfl | rfl | rfl
  · exact ⟨rfl, explains_auditIntegrity⟩
  · exact ⟨rfl, explains_approvalCoverage⟩
  · exact ⟨rfl, explains_controlCoverage⟩
  · exact ⟨rfl, explains_evidenceCompleteness⟩
  · exact ⟨rfl, explains_regulatoryMapping⟩
  · exact ⟨rfl, explains_rbacEnforcement⟩
  · exact ⟨rfl, explains_tenantIsolation⟩
  · exact ⟨rfl, explains_incidentHistory⟩
  · exact ⟨rfl, explains_policyEnforcement⟩
  · exact ⟨rfl, explains_executionTraceability⟩

/-- Every entry of the breakdown is an explained dimension. -/
theorem explained_breakdown (packet : Packet) (appEnv : AppEnv) {scored : Dimension}
    (h : scored ∈ (scorePacket packet appEnv).breakdown) :
    ∃ entry ∈ dimensions, scored = entry.2 entry.1 packet appEnv ∧
      Explained entry.1 scored := by
  obtain ⟨entry, hentry, rfl⟩ := List.mem_map.mp h
  obtain ⟨hzero, hexplains⟩ := explains_dimensions hentry
  exact ⟨entry, hentry, rfl, hexplains entry.1 packet appEnv hzero⟩

theorem length_breakdown (packet : Packet) (appEnv : AppEnv) :
    (scorePacket packet appEnv).breakdown.length = 10 := by
  unfold scorePacket
  dsimp only
  rw [List.length_map]
  rfl

theorem maxPoints_breakdown (packet : Packet) (appEnv : AppEnv) :
    (scorePacket packet appEnv).breakdown.map Dimension.maxPoints =
      dimensions.map fun entry => entry.1.maxPoints := by
  unfold scorePacket
  dsimp only
  rw [List.map_map]
  refine List.map_congr_left fun entry hentry => ?_
  obtain ⟨hzero, hexplains⟩ := explains_dimensions hentry
  exact (hexplains entry.1 packet appEnv hzero).maxPoints

theorem sum_maxPoints (packet : Packet) (appEnv : AppEnv) :
    ((scorePacket packet appEnv).breakdown.map Dimension.maxPoints).sum = 100 := by
  rw [maxPoints_breakdown]
  decide

theorem sum_earned_le (packet : Packet) (appEnv : AppEnv) :
    ((scorePacket packet appEnv).breakdown.map Dimension.earned).sum ≤ 100 := by
  rw [← sum_maxPoints packet appEnv]
  refine List.sum_le_sum fun scored hscored => ?_
  obtain ⟨_, _, _, hexplained⟩ := explained_breakdown packet appEnv hscored
  exact hexplained.earned

/-- The clamp to 0..100 never changes the sum. -/
theorem score_eq_sum (packet : Packet) (appEnv : AppEnv) :
    (scorePacket packet appEnv).score =
      (((scorePacket packet appEnv).breakdown.map Dimension.earned).sum : Nat) := by
  have hle := sum_earned_le packet appEnv
  unfold scorePacket at hle ⊢
  dsimp only at hle ⊢
  omega

theorem bandFor_eq (score : Int) :
    bandFor score = if 90 ≤ score then "Verified" else if 75 ≤ score then "Strong"
      else if 60 ≤ score then "Moderate" else if 40 ≤ score then "Weak" else "High Risk" := by
  unfold bandFor bands
  by_cases h90 : 90 ≤ score
  · simp [h90]
  by_cases h75 : 75 ≤ score
  · simp [h90, h75]
  by_cases h60 : 60 ≤ score
  · simp [h90, h75, h60]
  by_cases h40 : 40 ≤ score
  · simp [h90, h75, h60, h40]
  · simp only [List.find?_cons, h90, h75, h60, h40, decide_false, if_false]
    cases decide (0 ≤ score) <;> rfl

/-- The band of a score is the last one that starts at or below it. -/
theorem bandFor_spec {score : Int} (h : 0 ≤ score) :
    ∃ lower, (lower, bandFor score) ∈ bands ∧ lower ≤ score ∧
      ∀ band ∈ bands, band.1 ≤ score → band.1 ≤ lower := by
  rw [bandFor_eq]
  simp only [bands, List.mem_cons, List.not_mem_nil, or_false, Prod.mk.injEq, forall_eq_or_imp,
    forall_eq]
  split_ifs
  · exact ⟨90, by simp, by omega, by omega⟩
  · exact ⟨75, by simp, by omega, by omega⟩
  · exact ⟨60, by simp, by omega, by omega⟩
  · exact ⟨40, by simp, by omega, by omega⟩
  · exact ⟨0, by simp, by omega, by omega⟩

theorem scoreBand_eq (packet : Packet) (appEnv : AppEnv) :
    (scorePacket packet appEnv).scoreBand = bandFor (scorePacket packet appEnv).score := by
  simp only [scorePacket]

/-- The place of a band from the bottom. -/
def bandRank (label : String) : Nat := (bands.map Prod.snd).reverse.idxOf label

theorem bandRank_mono {score score' : Int} (h : score ≤ score') :
    bandRank (bandFor score) ≤ bandRank (bandFor score') := by
  have hranks : bandRank "High Risk" = 0 ∧ bandRank "Weak" = 1 ∧ bandRank "Moderate" = 2 ∧
      bandRank "Strong" = 3 ∧ bandRank "Verified" = 4 := by decide
  rw [bandFor_eq, bandFor_eq]
  split_ifs <;> omega

/-- `round(n / d)`, which raises for a zero denominator. -/
def dividedRound (n d : Nat) : Except PyErr Int :=
  if d = 0 then .error (.other "ZeroDivisionError" "division by zero")
  else .ok (roundQuotient n d)

/-- The points of `_score_approval_coverage`, with the division it runs. -/
def approvalPoints (maxPoints : Nat) (packet : Packet) : Except PyErr Int :=
  let n := packet.approvals.length
  let approved := packet.approvals.countP fun a => a.status = .approved
  if packet.approvals = [] then .ok 0
  else if approved = n then .ok maxPoints
  else if approved ≠ 0 then dividedRound (maxPoints * approved) n
  else .ok 0

/-- The points of `_score_evidence_completeness`, as integers. -/
def evidencePoints (maxPoints : Nat) (packet : Packet) : Except PyErr Int :=
  if packet.evidenceGaps = [] then .ok maxPoints
  else .ok (maxPoints - min (maxPoints : Int) (packet.evidenceGaps.length * 4))

/-- The points of `_score_policy_enforcement`, with the division it runs. -/
def policyPoints (maxPoints : Nat) (packet : Packet) : Except PyErr Int :=
  let n := packet.policyDecisions.length
  let bound := packet.policyDecisions.countP fun pd => !falsy pd.policyVersionId
  if packet.policyDecisions ≠ [] ∧ bound = n then .ok maxPoints
  else if bound ≠ 0 then dividedRound (maxPoints * bound) n
  else .ok 0

theorem approvalPoints_eq {d : Dimension} (hd : d.earned = 0) (packet : Packet)
    (appEnv : AppEnv) :
    approvalPoints d.maxPoints packet =
      .ok ((scoreApprovalCoverage d packet appEnv).earned : Int) := by
  unfold approvalPoints scoreApprovalCoverage
  simp only [List.length_eq_zero_iff]
  split_ifs with hnil hall hsome
  · simp [Dimension.note, hd]
  · simp [Dimension.earn]
  · simp [Dimension.earn, dividedRound, hnil]
  · simp [Dimension.note, hd]

theorem evidencePoints_eq {d : Dimension} (packet : Packet) (appEnv : AppEnv) :
    evidencePoints d.maxPoints packet =
      .ok ((scoreEvidenceCompleteness d packet appEnv).earned : Int) := by
  unfold evidencePoints scoreEvidenceCompleteness
  simp only [List.isEmpty_iff]
  split_ifs
  · rfl
  · simp only [Dimension.earn, Except.ok.injEq]
    omega

theorem policyPoints_eq {d : Dimension} (hd : d.earned = 0) (packet : Packet)
    (appEnv : AppEnv) :
    policyPoints d.maxPoints packet =
      .ok ((scorePolicyEnforcement d packet appEnv).earned : Int) := by
  unfold policyPoints scorePolicyEnforcement
  dsimp only
  by_cases hnil : packet.policyDecisions = []
  · simp [hnil, Dimension.note, hd]
  · simp only [hnil, ne_eq, not_false_eq_true, true_and, List.length_eq_zero_iff, decide_true,
      Bool.true_and, decide_eq_true_eq]
    split_ifs
    · rfl
    · simp [Dimension.note, hd]
    · simp [Dimension.earn, dividedRound, hnil]

/-- The scorers with a division or a difference, by their points as integers. -/
def checkedPoints : List (String × (Nat → Packet → Except PyErr Int)) := [
  ("approval_coverage", approvalPoints),
  ("evidence_completeness", evidencePoints),
  ("policy_enforcement", policyPoints)]

theorem checkedPoints_breakdown {packet : Packet} {appEnv : AppEnv} {scored : Dimension}
    (h : scored ∈ (scorePacket packet appEnv).breakdown) {key : String}
    {points : Nat → Packet → Except PyErr Int} (hpoints : (key, points) ∈ checkedPoints)
    (hkey : scored.key = key) :
    points scored.maxPoints packet = .ok (scored.earned : Int) := by
  obtain ⟨entry, hentry, rfl, hexplained⟩ := explained_breakdown packet appEnv h
  rw [hexplained.key] at hkey
  rw [hexplained.maxPoints]
  obtain ⟨hzero, _⟩ := explains_dimensions hentry
  simp only [checkedPoints, List.mem_cons, List.not_mem_nil, or_false, Prod.mk.injEq] at hpoints
  have hdistinct : (dimensions.map fun e => e.1.key).Nodup := by decide
  have hsame : ∀ other ∈ dimensions, other.1.key = key → entry = other := fun other hother h' =>
    List.inj_on_of_nodup_map hdistinct hentry hother (hkey.trans h'.symm)
  rcases hpoints with ⟨rfl, rfl⟩ | ⟨rfl, rfl⟩ | ⟨rfl, rfl⟩
  · obtain rfl := hsame (⟨"approval_coverage", "Approval Coverage", 12, 0, []⟩,
      scoreApprovalCoverage) (by simp [dimensions]) rfl
    exact approvalPoints_eq hzero packet appEnv
  · obtain rfl := hsame (⟨"evidence_completeness", "Evidence Completeness", 12, 0, []⟩,
      scoreEvidenceCompleteness) (by simp [dimensions]) rfl
    exact evidencePoints_eq packet appEnv
  · obtain rfl := hsame (⟨"policy_enforcement", "Policy Enforcement", 7, 0, []⟩,
      scorePolicyEnforcement) (by simp [dimensions]) rfl
    exact policyPoints_eq hzero packet appEnv

/-- The score is the sum of the points of its breakdown, and every dimension stays within
its maximum for a reason. The last part runs the same scorers with Python's integers:
no division raises, and no difference is negative. -/
theorem score_explained_by_breakdown (packet : Packet) (appEnv : AppEnv) :
    let result := scorePacket packet appEnv
    result.breakdown.length = 10 ∧
    (∀ scored ∈ result.breakdown, scored.earned ≤ scored.maxPoints ∧ scored.reasons ≠ []) ∧
    (result.breakdown.map Dimension.maxPoints).sum = 100 ∧
    result.score = ((result.breakdown.map Dimension.earned).sum : Nat) ∧
    (∃ lower, (lower, result.scoreBand) ∈ bands ∧ lower ≤ result.score ∧
      ∀ band ∈ bands, band.1 ≤ result.score → band.1 ≤ lower) ∧
    (∀ scored ∈ result.breakdown, ∀ points, (scored.key, points) ∈ checkedPoints →
      points scored.maxPoints packet = .ok (scored.earned : Int)) := by
  dsimp only
  have hsum := score_eq_sum packet appEnv
  have hnonneg : 0 ≤ (scorePacket packet appEnv).score := by omega
  refine ⟨length_breakdown packet appEnv, ?_, sum_maxPoints packet appEnv, hsum, ?_, ?_⟩
  · intro scored hscored
    obtain ⟨_, _, _, hexplained⟩ := explained_breakdown packet appEnv hscored
    exact ⟨hexplained.earned, hexplained.reasons⟩
  · rw [scoreBand_eq]
    exact bandFor_spec hnonneg
  · intro scored hscored points hpoints
    exact checkedPoints_breakdown hscored hpoints rfl

/-- The rounded share of `k` out of `n` is neither nothing nor everything. -/
def SharedStrictly (points k n : Nat) : Prop :=
  n < 2 * (points * k) ∧
    if points % 2 = 0 then n < 2 * (points * (n - k)) else n ≤ 2 * (points * (n - k))

instance (points k n : Nat) : Decidable (SharedStrictly points k n) := by
  unfold SharedStrictly
  infer_instance

theorem sharedStrictly_iff {points k n : Nat} (hk : k < n) :
    SharedStrictly points k n ↔
      0 < roundQuotient (points * k) n ∧ roundQuotient (points * k) n < points := by
  have hn : 0 < n := by omega
  have hle : roundQuotient (points * k) n ≤ points := by
    exact roundQuotient_le hn (Nat.mul_le_mul_left points hk.le)
  have hzero := roundQuotient_eq_iff (n := points * k) (q := 0) hn
  have hfull := roundQuotient_eq_iff (n := points * k) (q := points) hn
  have hrest : points * (n - k) + points * k = n * points := by
    rw [← Nat.mul_add, Nat.sub_add_cancel hk.le, Nat.mul_comm]
  rw [Nat.mul_zero] at hzero
  unfold SharedStrictly
  split <;> omega

/-- The points that both coverage scorers give for `k` out of `n`. -/
def sharedPoints (points k n : Nat) : Nat :=
  if n = 0 then 0
  else if k = n then points
  else if k ≠ 0 then roundQuotient (points * k) n
  else 0

theorem shared_approvalCoverage {d : Dimension} (hd : d.earned = 0) (packet : Packet)
    (appEnv : AppEnv) :
    (scoreApprovalCoverage d packet appEnv).earned =
      sharedPoints d.maxPoints (packet.approvals.countP fun a => a.status = .approved)
        packet.approvals.length := by
  unfold scoreApprovalCoverage sharedPoints
  dsimp only
  split_ifs
  · exact hd
  · rfl
  · rfl
  · exact hd

theorem shared_policyEnforcement {d : Dimension} (hd : d.earned = 0) (packet : Packet)
    (appEnv : AppEnv) :
    (scorePolicyEnforcement d packet appEnv).earned =
      sharedPoints d.maxPoints (packet.policyDecisions.countP fun pd => !falsy pd.policyVersionId)
        packet.policyDecisions.length := by
  have hle := List.countP_le_length (p := fun pd : PolicyEntry => !falsy pd.policyVersionId)
    (l := packet.policyDecisions)
  unfold scorePolicyEnforcement sharedPoints
  simp only [ne_eq, Bool.and_eq_true, decide_eq_true_eq]
  split_ifs <;> first | rfl | exact hd | omega

/-- All points for all rows, and points in between for some of them. -/
def Covers {α : Type} (good : α → Bool) (rows : List α) (scored : Dimension) : Prop :=
  (scored.earned = scored.maxPoints ↔ rows ≠ [] ∧ ∀ row ∈ rows, good row) ∧
  ((∃ row ∈ rows, good row) → (∃ row ∈ rows, ¬ good row) →
    0 < scored.earned ∧ scored.earned < scored.maxPoints)

theorem covers_iff {α : Type} (good : α → Bool) (rows : List α) (scored : Dimension)
    (hmax : 0 < scored.maxPoints)
    (h : scored.earned = sharedPoints scored.maxPoints (rows.countP good) rows.length) :
    Covers good rows scored ↔ (0 < rows.countP good → rows.countP good < rows.length →
      SharedStrictly scored.maxPoints (rows.countP good) rows.length) := by
  have hle := List.countP_le_length (p := good) (l := rows)
  have hall : (∀ row ∈ rows, good row = true) ↔ rows.countP good = rows.length :=
    List.countP_eq_length.symm
  have hsome : (∃ row ∈ rows, good row = true) ↔ 0 < rows.countP good :=
    List.countP_pos_iff.symm
  have hrest : (∃ row ∈ rows, ¬ good row = true) ↔ rows.countP good < rows.length := by
    rw [lt_iff_le_and_ne, ← not_forall_not]
    simp only [hle, true_and, ne_eq, ← hall, not_and, not_not]
  unfold Covers
  rw [hall, hsome, hrest, h, ← List.length_pos_iff]
  unfold sharedPoints
  split_ifs with hn hfull hzero
  · omega
  · omega
  · rw [sharedStrictly_iff (by omega)]
    omega
  · omega

/-- The dimension of a result with a key. -/
def Result.dimension? (result : Result) (key : String) : Option Dimension :=
  result.breakdown.find? fun scored => scored.key = key

theorem dimension?_scorePacket (packet : Packet) (appEnv : AppEnv) (key : String) :
    (scorePacket packet appEnv).dimension? key =
      (dimensions.find? fun entry => entry.1.key = key).map fun entry =>
        entry.2 entry.1 packet appEnv := by
  have hkeys : ∀ entries : List (Dimension × Scorer), (∀ entry ∈ entries, entry ∈ dimensions) →
      (entries.map fun entry => entry.2 entry.1 packet appEnv).find?
          (fun scored => scored.key = key) =
        (entries.find? fun entry => entry.1.key = key).map fun entry =>
          entry.2 entry.1 packet appEnv := by
    intro entries hentries
    induction entries with
    | nil => rfl
    | cons entry rest ih =>
        obtain ⟨hzero, hexplains⟩ := explains_dimensions (hentries entry List.mem_cons_self)
        have hkey := (hexplains entry.1 packet appEnv hzero).key
        have hrest := ih fun e he => hentries e (List.mem_cons_of_mem _ he)
        rw [List.map_cons, List.find?_cons, List.find?_cons, hkey, hrest]
        cases decide (entry.1.key = key) <;> rfl
  exact hkeys dimensions fun _ h => h

/-- Full marks mean full coverage exactly for the lists in which a partial coverage is
neither rounded down to nothing nor up to everything. -/
theorem full_marks_iff_share_apart (packet : Packet) (appEnv : AppEnv) :
    (∃ approval policy,
      (scorePacket packet appEnv).dimension? "approval_coverage" = some approval ∧
      (scorePacket packet appEnv).dimension? "policy_enforcement" = some policy ∧
      Covers (fun a => a.status = .approved) packet.approvals approval ∧
      Covers (fun pd => !falsy pd.policyVersionId) packet.policyDecisions policy) ↔
    (let n := packet.approvals.length
     let k := packet.approvals.countP fun a => a.status = .approved
     0 < k → k < n → n < 24 * k ∧ n < 24 * (n - k)) ∧
    (let n := packet.policyDecisions.length
     let k := packet.policyDecisions.countP fun pd => !falsy pd.policyVersionId
     0 < k → k < n → n < 14 * k ∧ n ≤ 14 * (n - k)) := by
  have happroval := dimension?_scorePacket packet appEnv "approval_coverage"
  have hpolicy := dimension?_scorePacket packet appEnv "policy_enforcement"
  rw [happroval, hpolicy]
  have hcovers₁ := covers_iff (fun a : ApprovalEntry => decide (a.status = .approved))
    packet.approvals (scoreApprovalCoverage
      ⟨"approval_coverage", "Approval Coverage", 12, 0, []⟩ packet appEnv)
  have hexplained₁ := explains_approvalCoverage
    ⟨"approval_coverage", "Approval Coverage", 12, 0, []⟩ packet appEnv rfl
  have hcovers₂ := covers_iff (fun pd : PolicyEntry => !falsy pd.policyVersionId)
    packet.policyDecisions (scorePolicyEnforcement
      ⟨"policy_enforcement", "Policy Enforcement", 7, 0, []⟩ packet appEnv)
  have hexplained₂ := explains_policyEnforcement
    ⟨"policy_enforcement", "Policy Enforcement", 7, 0, []⟩ packet appEnv rfl
  rw [hexplained₁.maxPoints, shared_approvalCoverage rfl] at hcovers₁
  rw [hexplained₂.maxPoints, shared_policyEnforcement rfl] at hcovers₂
  have hfirst := hcovers₁ (by decide) rfl
  have hsecond := hcovers₂ (by decide) rfl
  unfold SharedStrictly at hfirst hsecond
  dsimp only at hfirst hsecond
  rw [if_pos (by decide)] at hfirst
  rw [if_neg (by decide)] at hsecond
  constructor
  · rintro ⟨approval, policy, happ, hpol, hcov₁, hcov₂⟩
    obtain rfl := Option.some.inj happ
    obtain rfl := Option.some.inj hpol
    have h₁ := hfirst.mp hcov₁
    have h₂ := hsecond.mp hcov₂
    dsimp only at h₁ h₂ ⊢
    omega
  · rintro ⟨h₁, h₂⟩
    dsimp only at h₁ h₂
    refine ⟨_, _, rfl, rfl, hfirst.mpr fun hk hlt => ?_, hsecond.mpr fun hk hlt => ?_⟩
    · omega
    · omega

/-- The packet of a tenant with 24 approvals, of which one is pending. -/
def nearlyApprovedPacket : Packet where
  packetType := "tenant"
  scopeId := some "acme"
  tenantId := some "acme"
  generatedAt := "2026-01-05T09:30:00+00:00"
  workflow := none
  timeRange := none
  governedActions := []
  approvals := ⟨"ga-24", "ap-24", .pending⟩ ::
    List.replicate 23 ⟨"ga-1", "ap-1", .approved⟩
  policyDecisions := []
  executionHistory := []
  auditEvents := []
  auditChainVerification := ⟨"tenant_self_hash", ⟨.empty, 0, 0, none, none⟩⟩
  mappedControls := []
  mappedRegulations := []
  evidenceArtifacts := []
  overrides := []
  evidenceGaps := [.missingAuditRecords]
  executiveSummary := ""

theorem nearlyApproved_full_marks :
    ¬ ∃ approval policy,
      (scorePacket nearlyApprovedPacket .production).dimension? "approval_coverage" =
        some approval ∧
      (scorePacket nearlyApprovedPacket .production).dimension? "policy_enforcement" =
        some policy ∧
      Covers (fun a => a.status = .approved) nearlyApprovedPacket.approvals approval ∧
      Covers (fun pd => !falsy pd.policyVersionId) nearlyApprovedPacket.policyDecisions
        policy := by
  rintro ⟨approval, _, happroval, _, ⟨hfull, _⟩, _⟩
  have hscored : (scorePacket nearlyApprovedPacket .production).dimension? "approval_coverage" =
      some ⟨"approval_coverage", "Approval Coverage", 12, 12, ["23/24 approval(s) approved"]⟩ := by
    decide
  rw [hscored] at happroval
  obtain rfl := Option.some.inj happroval
  have hpending := (hfull.mp rfl).2 ⟨"ga-24", "ap-24", .pending⟩ List.mem_cons_self
  exact absurd hpending (by decide)

end TrustScoreService

end ControlPlane
