import ControlPlane.Db.Session
import ControlPlane.Lib.HashChain

/-!
`services/audit_service.py`: the canonical payload of an audit event, the
append loop `record`, and the verification of the whole chain. The digest is
the deployment's; nothing here depends on which function it is.

The queries keep the order of insertion among rows with equal `seq`. Only rows
with a NULL `seq` can be equal there, and `record` writes none.
-/

namespace ControlPlane

open Lib

namespace AuditAction

def approvalCreated : String := "approval.created"
def approvalApproved : String := "approval.approved"
def approvalRejected : String := "approval.rejected"
def sendJobEnqueued : String := "email.send_approved.enqueued"
def sendJobSucceeded : String := "email.send_approved.succeeded"
def sendJobFailed : String := "email.send_approved.failed"

end AuditAction

namespace AuditService

variable [Deployment]

/-- The root of the chain, `"0" * 64`. -/
def genesisHash : String := String.ofList (List.replicate 64 '0')

def maxRecordAttempts : Nat := 50

def iso : Option Datetime → Except PyErr (Option String)
  | none => .ok none
  | some value =>
      match value.utcText with
      | some text => .ok (some text)
      | none => .error (.other "OverflowError" "date value out of range")

/-- The dictionary of `_canonical_payload`, in the order of the source. -/
def payloadFields (row : AuditEvent) (createdAt previousHash : Option String) :
    Dict :=
  [("seq", (row.seq.map Json.num).getD .null),
    ("action", .str row.action),
    ("resource_type", .str row.resourceType),
    ("resource_id", .str row.resourceId),
    ("tenant_id", .ofOption row.tenantId),
    ("actor", .ofOption row.actor),
    ("actor_user_id", .ofOption row.actorUserId),
    ("actor_type", .ofOption row.actorType),
    ("action_type", .ofOption row.actionType),
    ("policy_version", .ofOption row.policyVersion),
    ("decision", .ofOption row.decision),
    ("reason", .ofOption row.reason),
    ("metadata_json", .ofOption row.metadataJson),
    ("created_at", .ofOption createdAt),
    ("previous_hash", .ofOption previousHash)]

def canonicalPayload (row : AuditEvent) (previousHash : Option String) :
    Except PyErr String := do
  let createdAt ← iso (some row.createdAt)
  return (Json.obj (payloadFields row createdAt previousHash)).dumps true .compact

def computeEventHash (row : AuditEvent) (previousHash : Option String) :
    Except PyErr String := do
  let payload ← canonicalPayload row previousHash
  return Deployment.sha256 payload

/-- Rows of the chain; rows from before the chain have no hash. -/
def chained (rows : List AuditEvent) : List AuditEvent :=
  rows.filter fun r => r.eventHash.isSome

def seqLe (a b : AuditEvent) : Bool :=
  match a.seq, b.seq with
  | none, none => true
  | none, some _ => Deployment.nullsFirst
  | some _, none => !Deployment.nullsFirst
  | some m, some n => m ≤ n

/-- `WHERE event_hash IS NOT NULL ORDER BY seq`. -/
def orderedChain (rows : List AuditEvent) : List AuditEvent :=
  (chained rows).insertionSort fun a b => seqLe a b

/-- `_chain_head`: the descending order puts the last row first. -/
def chainHead (rows : List AuditEvent) : Option AuditEvent :=
  (orderedChain rows).getLast?

/-- The arguments of `record`. -/
structure NewEvent where
  action : String
  resourceType : String
  resourceId : String
  tenantId : Option String := none
  actor : Option String := none
  metadata : Option Dict := none
  actorUserId : Option String := none
  actorType : Option String := none
  actionType : Option String := none
  policyVersion : Option String := none
  decision : Option String := none
  reason : Option String := none

/-- `json.dumps(metadata, sort_keys=True) if metadata else None`. -/
def NewEvent.metadataJson (e : NewEvent) : Option String :=
  match e.metadata with
  | none => none
  | some [] => none
  | some fields => some ((Json.obj fields).dumps true .standard)

def previousHash : Option AuditEvent → Option String
  | some head => head.eventHash
  | none => some genesisHash

def nextSeq : Option AuditEvent → Int
  | some head => match head.seq with
    | some n => n + 1
    | none => 1
  | none => 1

/-- The row `record` builds after reading the head, before its hash is set. -/
def NewEvent.row (e : NewEvent) (head : Option AuditEvent) (now : Moment) :
    AuditEvent where
  id := ""
  action := e.action
  resourceType := e.resourceType
  resourceId := e.resourceId
  tenantId := e.tenantId
  actor := e.actor
  actorUserId := e.actorUserId
  actorType := e.actorType
  actionType := e.actionType
  policyVersion := e.policyVersion
  decision := e.decision
  reason := e.reason
  metadataJson := e.metadataJson
  seq := some (nextSeq head)
  previousHash := previousHash head
  eventHash := none
  createdAt := .utc now

def NewEvent.link (e : NewEvent) (head : Option AuditEvent) (now : Moment) :
    Except PyErr AuditEvent := do
  let hash ← computeEventHash (e.row head now) (previousHash head)
  return { e.row head now with eventHash := some hash }

/-- After the commit of one pass: a lost race or a locked database is answered
by the rest of the loop, any other error leaves it. -/
def afterCommit (row : AuditEvent) (retry : Session AuditEvent) (r : DbReply)
    (s : Database) : Session AuditEvent :=
  match (Transaction.insertAudit row).run r s with
  | .ok _ => .pure (row.inserted r)
  | .error (.db .integrity _) => retry
  | .error (.db .operational _) => retry
  | .error e => .raise e

def append (row : AuditEvent) (retry : Session AuditEvent) :
    Session AuditEvent :=
  .act (.commit (.insertAudit row)) (Transaction.insertAudit row).write
    (afterCommit row retry)

/-- The loop of `record` with `attempts` passes left. -/
def recordFrom (e : NewEvent) : Nat → Session AuditEvent
  | 0 => .raise (.runtimeError
      s!"audit record failed after {maxRecordAttempts} attempts")
  | attempts + 1 =>
      .act (.select .chainHead) (fun _ s => s) fun (r : Reading) s =>
        (answered (e.link (chainHead s.auditEvents.rows) r.now)).bind fun row =>
          append row (recordFrom e attempts)

theorem recordFrom_succ (e : NewEvent) (attempts : Nat) :
    recordFrom e (attempts + 1) =
      .act (.select .chainHead) (fun _ s => s) fun (r : Reading) s =>
        (answered (e.link (chainHead s.auditEvents.rows) r.now)).bind fun row =>
          append row (recordFrom e attempts) := rfl

def record (e : NewEvent) : Session AuditEvent := recordFrom e maxRecordAttempts

inductive ChainStatus where
  | verified
  | failed
  | empty
  deriving DecidableEq, Repr

structure ChainVerificationResult where
  status : ChainStatus
  verifiedCount : Nat
  totalCount : Nat
  brokenAtSeq : Option Int := none
  reason : Option String := none
  deriving DecidableEq, Repr

/-- `self.status in ("verified", "empty")`. -/
def ChainVerificationResult.ok (result : ChainVerificationResult) : Bool :=
  result.status = .verified || result.status = .empty

/-- The loop of `verify_chain` over the rows from position `index` on. -/
def verifyFrom (expectedPrevious : Option String) (index total : Nat) :
    List AuditEvent → Except PyErr ChainVerificationResult
  | [] => .ok { status := .verified, verifiedCount := total, totalCount := total }
  | row :: rest =>
      if row.previousHash ≠ expectedPrevious then
        .ok {
          status := .failed
          verifiedCount := index
          totalCount := total
          brokenAtSeq := row.seq
          reason := some "broken_link" }
      else do
        let hash ← computeEventHash row row.previousHash
        if some hash ≠ row.eventHash then
          .ok {
            status := .failed
            verifiedCount := index
            totalCount := total
            brokenAtSeq := row.seq
            reason := some "hash_mismatch" }
        else verifyFrom row.eventHash (index + 1) total rest

def verifyChain (rows : List AuditEvent) : Except PyErr ChainVerificationResult :=
  let rows := orderedChain rows
  if rows.isEmpty then
    .ok { status := .empty, verifiedCount := 0, totalCount := 0 }
  else verifyFrom (some genesisHash) 0 rows.length rows

end AuditService

end ControlPlane
