import ControlPlane.Services.EvidenceStore
import ControlPlane.Services.TrustScoreService

/-!
`services/verification_service.py`: the lifecycle of a procurement verification.
It consumes the signed packet of a subject and a fresh trust score.

The attributes of a row expire with every commit, that of the score included, so
the row is read again before its required minimum is looked at.
-/

namespace ControlPlane

open Lib EvidenceGraph

def EvidenceSignature.PacketStatus.value : EvidenceSignature.PacketStatus → String
  | .valid => "valid"
  | .expired => "expired"
  | .revoked => "revoked"
  | .tampered => "tampered"
  | .unsigned => "unsigned"

namespace VerificationService

open EvidenceStore EvidenceSignature TrustScoreService

def subjectGovernedAction : String := "governed_action"

def getVerification (g : Governance) (verificationId : String)
    (tenantId : Option String) : Option TrustVerification :=
  (g.verifications.find? verificationId).filter fun row => inScope tenantId row.tenantId

section

variable [Deployment]

/-- `ORDER BY version DESC`, with NULLs where the database puts them. -/
def newerFirst (a b : EvidencePacket) : Bool :=
  match a.version, b.version with
  | none, none => true
  | some _, none => Deployment.nullsFirst
  | none, some _ => !Deployment.nullsFirst
  | some m, some n => n ≤ m

def signedPackets (g : Governance) (tenantId : Option String) (subjectId : String) :
    List EvidencePacket :=
  g.packets.rows.filter fun p =>
    p.scopeType = subjectGovernedAction && p.scopeId = some subjectId &&
      p.packetSignature.isSome && inScope tenantId p.tenantId

/-- `_latest_signed_packet`. -/
def latestSignedPacket (g : Governance) (tenantId : Option String) (subjectId : String) :
    Option EvidencePacket :=
  ((signedPackets g tenantId subjectId).insertionSort fun a b => newerFirst a b).head?

end

/-- What `_evidence_status` returns. -/
inductive Evidence where
  | missing
  | verified (verification : Verification)

def Evidence.status : Evidence → String
  | .missing => "missing"
  | .verified verification => verification.status.value

section

variable [Deployment]

def requested (tenantId : Option String) (subjectId : String) (requestedBy : Option String)
    (subjectType : String) (minScoreRequired : Int) (packetId : String) :
    TrustVerification where
  id := ""
  tenantId := tenantId
  subjectType := subjectType
  subjectId := subjectId
  status := "requested"
  evidencePacketId := some packetId
  trustScoreId := none
  trustScore := none
  minScoreRequired := minScoreRequired
  requestedByUserId := requestedBy
  reviewedByUserId := none
  decidedByUserId := none
  reviewNotes := none
  decisionReason := none
  reviewedAt := none
  decidedAt := none

/-- Evidence that is not valid holds the verification out of the approvable path. -/
def reviewed (row : TrustVerification) (ev : Evidence) (reviewedBy notes : Option String)
    (now : Moment) : TrustVerification :=
  { row with
    reviewedByUserId := reviewedBy
    reviewNotes := notes
    reviewedAt := some (Deployment.stored (.utc now))
    status := if ev.status = "valid" then "under_review" else "rejected"
    decisionReason := if ev.status = "valid" then none else some ("evidence_" ++ ev.status) }

def approved (row : TrustVerification) (score : Scored) (approvedBy : Option String)
    (now : Moment) : TrustVerification :=
  { row with
    status := "approved"
    decidedByUserId := approvedBy
    decidedAt := some (Deployment.stored (.utc now))
    trustScore := some score.result.score
    trustScoreId := score.scoreId
    decisionReason := some "approved" }

def revoked (row : TrustVerification) (revokedBy : Option String) (reason : String)
    (now : Moment) : TrustVerification :=
  { row with
    status := "revoked"
    decidedByUserId := revokedBy
    decidedAt := some (Deployment.stored (.utc now))
    decisionReason := some reason }

/-- `_audit`. -/
def audit (action : String) (row : TrustVerification) (actor : Option String)
    (fields : Dict) : StoreSession AuditEvent :=
  recordEvent {
    action := action
    resourceType := "trust_verification"
    resourceId := row.id
    tenantId := row.tenantId
    actor := actor
    metadata := some
      ([("status", .str row.status), ("subject_id", .str row.subjectId)] ++ fields) }

/-- The attributes of a row after a commit. -/
def reloadVerification (id : String) : StoreSession TrustVerification := do
  let row ← peek fun S => S.governance.verifications.find? id
  foundAgain row

/-- The row that a transition starts from. -/
def inStatus (verificationId : String) (tenantId : Option String) (status : String) :
    StoreSession TrustVerification := do
  let found ← peek fun S => getVerification S.governance verificationId tenantId
  match found with
  | none => throw (.valueError "verification_not_found")
  | some row =>
      if row.status ≠ status then throw (.valueError "invalid_transition")
      else return row

/-- A transition is committed, and then audited. -/
def transition (action : String) (row new : TrustVerification) (actor : Option String)
    (fields : TrustVerification → Dict) : StoreSession TrustVerification := do
  let _ ← commitChange (.updateVerification row new)
  let row ← reloadVerification row.id
  let _ ← audit action row actor (fields row)
  return row

def requestVerification (tenantId : Option String) (subjectId : String)
    (requestedBy : Option String) (subjectType : String) (minScoreRequired : Int) :
    StoreSession TrustVerification := do
  let graph ← peek fun S => getEvidenceGraph S subjectId tenantId
  match graph with
  | none => throw (.valueError "subject_not_found")
  | some _ => do
      let packet ← peek fun S => latestSignedPacket S.governance tenantId subjectId
      match packet with
      | none => throw (.valueError "no_signed_evidence")
      | some packet => do
          let inserted ← commitChange (.insertVerification (requested tenantId subjectId
            requestedBy subjectType minScoreRequired packet.id))
          let row ← reloadVerification inserted.newId
          let _ ← audit "verification.requested" row requestedBy
            [("evidence_packet_id", .str packet.id),
              ("min_score_required", .num minScoreRequired)]
          return row

def revokeVerification (verificationId : String) (tenantId revokedBy : Option String)
    (reason : String) : StoreSession TrustVerification := do
  let row ← inStatus verificationId tenantId "approved"
  let now ← readClock
  transition "verification.revoked" row (revoked row revokedBy reason now) revokedBy
    fun _ => [("reason", .str reason)]

variable [Python] [Ed25519]

/-- `_evidence_status`; the packet is looked up in the tenant of the row. -/
def evidenceStatus (row : TrustVerification) : StoreSession Evidence :=
  if falsy row.evidencePacketId then return .missing
  else do
    let found ← peek fun S =>
      getPacket S.governance (row.evidencePacketId.getD "") row.tenantId
    match found with
    | none => return .missing
    | some packet => do
        let now ← readClock
        let verification ← outcome (verifyPacket packet now)
        return .verified verification

def reviewVerification (verificationId : String)
    (tenantId reviewedBy notes : Option String) :
    StoreSession (TrustVerification × Evidence) := do
  let row ← inStatus verificationId tenantId "requested"
  let ev ← evidenceStatus row
  let now ← readClock
  let row ← transition "verification.reviewed" row (reviewed row ev reviewedBy notes now)
    reviewedBy fun _ => [("evidence_status", .str ev.status)]
  return (row, ev)

/-- The end of an approval, once the subject is scored. -/
def decideApproval (verificationId : String) (score : Scored)
    (approvedBy : Option String) : StoreSession (TrustVerification × Scored) := do
  let row ← reloadVerification verificationId
  if score.result.score < row.minScoreRequired then
    throw (.valueError "insufficient_trust_score")
  else do
    let now ← readClock
    let row ← transition "verification.approved" row (approved row score approvedBy now)
      approvedBy fun row => [("trust_score", .num score.result.score),
        ("min_score_required", .num row.minScoreRequired)]
    return (row, score)

def approveVerification (settings : Settings) (verificationId : String)
    (tenantId approvedBy : Option String) :
    StoreSession (TrustVerification × Scored) := do
  let row ← inStatus verificationId tenantId "under_review"
  let ev ← evidenceStatus row
  if ev.status ≠ "valid" then throw (.valueError ("evidence_not_valid:" ++ ev.status))
  else do
    let scored ← scoreAction settings row.subjectId tenantId true
    match scored with
    | none => throw (.valueError "subject_not_found")
    | some score => decideApproval row.id score approvedBy

end

end VerificationService

end ControlPlane
