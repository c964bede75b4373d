import ControlPlane.Lib.Calendar
import ControlPlane.Lib.Json
import ControlPlane.Lib.Sha256
import ControlPlane.Lib.Table

/-!
The rows and tables of `db/models.py` that the modelled services read or write.
A `payload_json` column holds the dictionary its text decodes to: the services
only ever write it with `json.dumps` and read it with `json.loads`. The
metadata of an audit event stays text, because its hash is over the text.

`updated_at` is left out, and so are foreign keys, which SQLite does not check
as configured here.
-/

namespace ControlPlane

open Lib

inductive JobStatus where
  | pending
  | running
  | succeeded
  | failed
  | cancelled
  deriving DecidableEq, Repr

inductive ApprovalStatus where
  | pending
  | approved
  | rejected
  deriving DecidableEq, Repr

inductive DeliveryStatus where
  | draftCreated
  | awaitingApproval
  | sent
  | failed
  deriving DecidableEq, Repr

structure Job where
  id : String
  tenantId : Option String
  type : String
  status : JobStatus
  idempotencyKey : Option String
  payloadJson : Option Dict
  attempts : Nat
  lastError : Option String
  runAfter : Option Datetime
  createdAt : Datetime
  deriving DecidableEq, Repr

structure ApprovalRequest where
  id : String
  tenantId : Option String
  kind : String
  status : ApprovalStatus
  payloadJson : Option Dict
  decidedAt : Option Datetime
  createdAt : Datetime
  deriving DecidableEq, Repr

structure AuditEvent where
  id : String
  action : String
  resourceType : String
  resourceId : String
  tenantId : Option String
  actor : Option String
  actorUserId : Option String
  actorType : Option String
  actionType : Option String
  policyVersion : Option String
  decision : Option String
  reason : Option String
  metadataJson : Option String
  seq : Option Int
  previousHash : Option String
  eventHash : Option String
  createdAt : Datetime
  deriving DecidableEq, Repr

structure EmailThreadRecord where
  id : String
  tenantId : Option String
  externalThreadId : String
  lastSnippet : Option String
  lastIntent : Option String
  sourceJobId : Option String
  extraJson : Option Dict
  deriving Repr

structure EmailDeliveryRecord where
  id : String
  tenantId : Option String
  threadExternalId : String
  gmailDraftId : Option String
  gmailMessageId : Option String
  approvalId : Option String
  sourceJobId : Option String
  executionJobId : Option String
  status : DeliveryStatus
  lastError : Option String
  deriving DecidableEq, Repr

/-- The value of a column before the server's default fills it. -/
def unset : Datetime := .naive (.utc ⟨1, 0, by decide, by decide, by decide⟩)

/-- `json.loads(column or "{}")`. -/
def loads (column : Option Dict) : Dict := column.getD []

abbrev JobTable := Table Job String String Job.id Job.idempotencyKey

abbrev ApprovalTable :=
  Table ApprovalRequest String Empty ApprovalRequest.id fun _ => none

abbrev AuditTable := Table AuditEvent String Int AuditEvent.id AuditEvent.seq

/-- The columns of `uq_email_thread_tenant_ext`. -/
def EmailThreadRecord.tenantExt (r : EmailThreadRecord) :
    Option (String × String) :=
  r.tenantId.map fun t => (t, r.externalThreadId)

abbrev ThreadTable := Table EmailThreadRecord String (String × String)
  EmailThreadRecord.id EmailThreadRecord.tenantExt

abbrev DeliveryTable := Table EmailDeliveryRecord String String
  EmailDeliveryRecord.id EmailDeliveryRecord.approvalId

structure Database where
  jobs : JobTable := Table.empty
  approvals : ApprovalTable := Table.empty
  auditEvents : AuditTable := Table.empty
  emailThreads : ThreadTable := Table.empty
  emailDeliveries : DeliveryTable := Table.empty

/-- What the services assume of the installation: the digest, the Unicode
database of the interpreter, how the database orders NULLs, and what a timestamp
column returns for a UTC value. SQLite drops the offset, PostgreSQL keeps the
instant. -/
class Deployment where
  /-- `hashlib.sha256(payload.encode("utf-8")).hexdigest()`. -/
  sha256 : String → String
  /-- `str.isalnum` of a character outside ASCII. -/
  isAlnum : Char → Bool
  /-- NULLs come first in an ascending `ORDER BY`. -/
  nullsFirst : Bool
  /-- A `DateTime(timezone=True)` value after a round trip. -/
  stored : Datetime → Datetime
  instant_stored : ∀ m, (stored (Datetime.utc m)).instant = m.wall

namespace Deployment

@[reducible] def sqlite : Deployment where
  sha256 := Sha256.hexdigest
  isAlnum := Char.isAlpha
  nullsFirst := true
  stored := Datetime.naive
  instant_stored := Datetime.instant_naive_utc

end Deployment

end ControlPlane
