import ControlPlane.App.Config
import ControlPlane.Services.EvidencePacket
import ControlPlane.Services.Text

/-!
`services/trust_score_service.py`: the score of an evidence packet, and the rows
it is stored in. A quotient of two lengths is rounded as a rational number; the
float that Python rounds is on the same side of every half, for lists of fewer
than 2⁴⁹ entries.
-/

namespace ControlPlane

open Lib EvidencePackets

namespace TrustScoreService

/-- The bands by their lower bounds. -/
def bands : List (Int × String) :=
  [(90, "Verified"), (75, "Strong"), (60, "Moderate"), (40, "Weak"), (0, "High Risk")]

def bandFor (score : Int) : String :=
  ((bands.find? fun band => band.1 ≤ score).map Prod.snd).getD "High Risk"

structure Dimension where
  key : String
  label : String
  maxPoints : Nat
  earned : Nat := 0
  reasons : List String := []
  deriving DecidableEq, Repr

namespace Dimension

def toDict (d : Dimension) : Json :=
  .obj [("dimension", .str d.key), ("label", .str d.label), ("points", .num d.earned),
    ("max_points", .num d.maxPoints), ("reasons", .arr (d.reasons.map Json.str))]

/-- `d.earned = points` and `d.reasons.append(reason)`. -/
def earn (d : Dimension) (points : Nat) (reason : String) : Dimension :=
  { d with earned := points, reasons := d.reasons ++ [reason] }

def note (d : Dimension) (reason : String) : Dimension :=
  { d with reasons := d.reasons ++ [reason] }

end Dimension

/-- `round(n / d)`: halves go to the even neighbour. -/
def roundQuotient (n d : Nat) : Nat :=
  let q := n / d
  let r := n % d
  if 2 * r < d then q
  else if d < 2 * r then q + 1
  else if q % 2 = 0 then q
  else q + 1

abbrev Scorer := Dimension → Packet → AppEnv → Dimension

def scoreAuditIntegrity : Scorer := fun d packet _ =>
  let v := packet.auditChainVerification.result
  match v.status with
  | .verified => d.earn d.maxPoints
      s!"audit chain verified ({v.verifiedCount}/{v.totalCount})"
  | .empty => d.note "no audit events recorded yet"
  | .failed => d.note
      ("audit chain not verified (status=failed, reason=" ++ v.reason.getD "None" ++ ")")

def scoreApprovalCoverage : Scorer := fun d packet _ =>
  let n := packet.approvals.length
  let approved := packet.approvals.countP fun a => a.status = .approved
  if n = 0 then d.note "no approvals recorded for this scope"
  else if approved = n then d.earn d.maxPoints s!"all {n} approval(s) approved"
  else if approved ≠ 0 then
    d.earn (roundQuotient (d.maxPoints * approved) n) s!"{approved}/{n} approval(s) approved"
  else d.note s!"{n} approval(s) pending/rejected, none approved"

def scoreControlCoverage : Scorer := fun d packet _ =>
  let n := packet.mappedControls.length
  if n ≠ 0 then d.earn d.maxPoints s!"{n} control(s) mapped"
  else d.note "no controls mapped (gap: missing_control_mappings)"

def scoreEvidenceCompleteness : Scorer := fun d packet _ =>
  let gaps := packet.evidenceGaps
  if gaps.isEmpty then d.earn d.maxPoints "no evidence gaps identified"
  else
    let penalty := min d.maxPoints (gaps.length * 4)
    d.earn (d.maxPoints - penalty)
      (s!"{gaps.length} evidence gap(s): " ++ String.intercalate ", " (gaps.map Gap.value))

def scoreRegulatoryMapping : Scorer := fun d packet _ =>
  let regs := packet.mappedRegulations
  if !regs.isEmpty then
    d.earn d.maxPoints ("mapped to regulation(s): " ++ String.intercalate ", " regs)
  else d.note "no regulations mapped"

def envName : AppEnv → String
  | .demo => "demo"
  | .staging => "staging"
  | .production => "production"

def scoreRbacEnforcement : Scorer := fun d _ appEnv =>
  if appEnv = .production || appEnv = .staging then
    d.earn d.maxPoints s!"RBAC enforced (app_env={envName appEnv}, no operator bypass)"
  else
    d.earn (roundQuotient d.maxPoints 2) (s!"demo mode (app_env={envName appEnv}): " ++
      "operator bypass possible; harden for production")

def scoreTenantIsolation : Scorer := fun d packet _ =>
  if !falsy packet.tenantId then
    d.earn d.maxPoints ("scope bound to tenant " ++ packet.tenantId.getD "")
  else d.note "scope is not tenant-bound (unscoped)"

def scoreIncidentHistory : Scorer := fun d packet _ =>
  let n := packet.overrides.length
  if packet.auditChainVerification.result.status = .failed then
    d.note "audit chain failure is an open integrity incident"
  else if n = 0 then d.earn d.maxPoints "no overrides or integrity incidents on record"
  else d.earn (roundQuotient d.maxPoints 2) s!"{n} documented human override(s) on record"

def scorePolicyEnforcement : Scorer := fun d packet _ =>
  let n := packet.policyDecisions.length
  let bound := packet.policyDecisions.countP fun pd => !falsy pd.policyVersionId
  if n ≠ 0 && bound = n then
    d.earn d.maxPoints s!"all {n} decision(s) bound to a policy version"
  else if bound ≠ 0 then
    d.earn (roundQuotient (d.maxPoints * bound) n)
      s!"{bound}/{n} decision(s) bound to a policy version"
  else d.note "no policy version bound to the decision(s)"

/-- `str(a).endswith("submitted")`. -/
def submits (action : String) : Bool := "submitted".toList.isSuffixOf action.toList

/-- `"approv" in str(a)`. -/
def decides (action : String) : Bool := Text.occurs "approv".toList action.toList

def scoreExecutionTraceability : Scorer := fun d packet _ =>
  let hasSubmit := packet.auditEvents.any fun e => submits e.action
  let hasDecision := packet.auditEvents.any fun e => decides e.action
  let earned := (if hasSubmit then d.maxPoints / 2 else 0) +
    (if hasDecision then d.maxPoints - d.maxPoints / 2 else 0)
  d.earn earned
    (if earned = d.maxPoints then
      "lifecycle traceable end-to-end (submission through decision)"
    else if earned ≠ 0 then "lifecycle partially traceable"
    else "no traceable lifecycle events")

def dimensions : List (Dimension × Scorer) := [
  (⟨"audit_integrity", "Audit Integrity", 15, 0, []⟩, scoreAuditIntegrity),
  (⟨"approval_coverage", "Approval Coverage", 12, 0, []⟩, scoreApprovalCoverage),
  (⟨"control_coverage", "Control Coverage", 12, 0, []⟩, scoreControlCoverage),
  (⟨"evidence_completeness", "Evidence Completeness", 12, 0, []⟩, scoreEvidenceCompleteness),
  (⟨"regulatory_mapping", "Regulatory Mapping Coverage", 10, 0, []⟩, scoreRegulatoryMapping),
  (⟨"rbac_enforcement", "RBAC Enforcement", 10, 0, []⟩, scoreRbacEnforcement),
  (⟨"tenant_isolation", "Tenant Isolation Status", 8, 0, []⟩, scoreTenantIsolation),
  (⟨"incident_history", "Incident History", 7, 0, []⟩, scoreIncidentHistory),
  (⟨"policy_enforcement", "Policy Enforcement", 7, 0, []⟩, scorePolicyEnforcement),
  (⟨"execution_traceability", "Execution Traceability", 7, 0, []⟩,
    scoreExecutionTraceability)]

/-- What `score_packet` returns; the maximum and the disclaimer are constant. -/
structure Result where
  score : Int
  scoreBand : String
  breakdown : List Dimension
  deriving DecidableEq, Repr

def scorePacket (packet : Packet) (appEnv : AppEnv) : Result :=
  let dims := dimensions.map fun entry => entry.2 entry.1 packet appEnv
  let total : Int := max 0 (min 100 ((dims.map Dimension.earned).sum : Nat))
  { score := total, scoreBand := bandFor total, breakdown := dims }

/-- A score with the row it was stored in, if it was. -/
structure Scored where
  scoreId : Option String
  tenantId : Option String
  scopeType : String
  scopeId : String
  version : Option Int
  result : Result
  deriving DecidableEq, Repr

/-- `max((p.version for p in prior.all()), default=0) + 1`. -/
def nextVersion (prior : List TrustScore) : Int :=
  ((prior.map TrustScore.version).max?).getD 0 + 1

/-- The scores of a scope, in the caller's tenant if it has one. -/
def scopeScores (scopeType scopeId : String) (tenantId : Option String)
    (g : Governance) : List TrustScore :=
  g.scores.rows.filter fun p =>
    p.scopeType = scopeType && p.scopeId = scopeId && inScope tenantId p.tenantId

def scoreRow (tenantId : Option String) (scopeType scopeId : String) (result : Result)
    (version : Int) : TrustScore where
  id := ""
  tenantId := tenantId
  scopeType := scopeType
  scopeId := scopeId
  score := result.score
  scoreBand := result.scoreBand
  scoreBreakdown := some (.arr (result.breakdown.map Dimension.toDict))
  version := version
  createdAt := unset

def resultWithRow (result : Result) (row : TrustScore) (scopeType scopeId : String) :
    Scored where
  scoreId := some row.id
  tenantId := row.tenantId
  scopeType := scopeType
  scopeId := scopeId
  version := some row.version
  result := result

def unstored (result : Result) (scopeType scopeId : String) : Scored where
  scoreId := none
  tenantId := none
  scopeType := scopeType
  scopeId := scopeId
  version := none
  result := result

section

variable [Deployment]

/-- `_persist`; the row is read again after the commit. -/
def persist (tenantId : Option String) (scopeType scopeId : String) (result : Result) :
    StoreSession TrustScore := do
  let prior ← peek fun S => scopeScores scopeType scopeId tenantId S.governance
  let version := nextVersion prior
  let inserted ← commitChange
    (.insertScore (scoreRow tenantId scopeType scopeId result version))
  let row ← peek fun S => S.governance.scores.find? inserted.newId
  foundAgain row

/-- A packet is scored, and the score is stored unless it is only asked for. -/
def scoreScope (settings : Settings) (tenantId : Option String)
    (scopeType scopeId : String) (persisting : Bool) (packet : Packet) :
    StoreSession Scored :=
  let result := scorePacket packet settings.appEnv
  if persisting then do
    let row ← persist tenantId scopeType scopeId result
    return resultWithRow result row scopeType scopeId
  else return unstored result scopeType scopeId

def scoreAction (settings : Settings) (governedActionId : String)
    (tenantId : Option String) (persisting : Bool) : StoreSession (Option Scored) := do
  let now ← readClock
  let built ← peek fun S =>
    buildActionPacket S (Datetime.utc now).isoformat governedActionId tenantId
  match ← outcome built with
  | none => return none
  | some packet => do
      let scored ← scoreScope settings tenantId "governed_action" governedActionId
        persisting packet
      return some scored

def scoreWorkflow (settings : Settings) (workflowId : String)
    (tenantId : Option String) (persisting : Bool) : StoreSession (Option Scored) := do
  let now ← readClock
  let built ← peek fun S =>
    buildWorkflowPacket S (Datetime.utc now).isoformat workflowId tenantId
  match ← outcome built with
  | none => return none
  | some packet => do
      let scored ← scoreScope settings tenantId "workflow" workflowId persisting packet
      return some scored

def scoreTenant (settings : Settings) (tenantId : String) (persisting : Bool) :
    StoreSession Scored := do
  let now ← readClock
  let built ← peek fun S =>
    buildTenantPacket S (Datetime.utc now).isoformat tenantId none none
  let packet ← outcome built
  scoreScope settings (some tenantId) "tenant" tenantId persisting packet

end

end TrustScoreService

end ControlPlane
