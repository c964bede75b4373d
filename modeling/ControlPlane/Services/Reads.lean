import ControlPlane.Db.Governance
import ControlPlane.Services.ApprovalService
import ControlPlane.Services.EmailPersistence
import ControlPlane.Services.TenantService

/-!
The tenant-scoped reads of `services/`: jobs, approvals, audit events,
deliveries, threads and the control catalogue. Each is one SELECT and therefore
a function of the store. `tenantId = none` is the unscoped caller.

Rows that an `ORDER BY` leaves tied keep the order of the table.
-/

namespace ControlPlane

open Lib

/-- `if tenant_id is not None: stmt = stmt.where(tenant_id == …)`. -/
def inScope (tenantId rowTenant : Option String) : Bool :=
  tenantId = none || rowTenant = tenantId

/-- `if value: stmt = stmt.where(column == value)`. -/
def selected (value : Option String) (column : String) : Bool :=
  falsy value || value = some column

/-- `order_by(created_at.desc())`. -/
def newestFirst {α : Type} (createdAt : α → Datetime) (rows : List α) : List α :=
  rows.insertionSort fun a b => (createdAt b).instant ≤ (createdAt a).instant

theorem mem_newestFirst {α : Type} {createdAt : α → Datetime} {rows : List α} {row : α} :
    row ∈ newestFirst createdAt rows ↔ row ∈ rows :=
  List.mem_insertionSort _

def oldestFirst {α : Type} (createdAt : α → Datetime) (rows : List α) : List α :=
  rows.insertionSort fun a b => (createdAt a).instant ≤ (createdAt b).instant

def JobStatus.value : JobStatus → String
  | .pending => "pending"
  | .running => "running"
  | .succeeded => "succeeded"
  | .failed => "failed"
  | .cancelled => "cancelled"

def ApprovalStatus.value : ApprovalStatus → String
  | .pending => "pending"
  | .approved => "approved"
  | .rejected => "rejected"

def DeliveryStatus.value : DeliveryStatus → String
  | .draftCreated => "draft_created"
  | .awaitingApproval => "awaiting_approval"
  | .sent => "sent"
  | .failed => "failed"

/-- The column `updated_at`, which the rows of this model leave out, by the id of
the row. -/
class Timestamps where
  updatedAt : String → Datetime

namespace JobService

/-- `get_job_by_id`. -/
def jobById (s : Database) (jobId : String) (tenantId : Option String) : Option Job :=
  (s.jobs.find? jobId).filter fun job => inScope tenantId job.tenantId

/-- `get_job_by_idempotency_key`. -/
def jobByKey (s : Database) (key : String) : Option Job :=
  s.jobs.findUnique? key

def listJobs (s : Database) (status jobType tenantId : Option String)
    (limit : Nat) : List Job :=
  let rows := s.jobs.rows.filter fun job =>
    inScope tenantId job.tenantId && selected status job.status.value &&
      selected jobType job.type
  (newestFirst Job.createdAt rows).take (min limit 200)

end JobService

namespace ApprovalService

/-- `get_request`. -/
def requestById (s : Database) (approvalId : String) (tenantId : Option String) :
    Option ApprovalRequest :=
  (s.approvals.find? approvalId).filter fun row => inScope tenantId row.tenantId

def listApprovals (s : Database) (status tenantId : Option String) (limit : Nat) :
    List ApprovalRequest :=
  let rows := s.approvals.rows.filter fun row =>
    inScope tenantId row.tenantId && selected status row.status.value
  (newestFirst ApprovalRequest.createdAt rows).take (min limit 200)

end ApprovalService

namespace EmailPersistence

section

variable [Timestamps]

def listDeliveries (s : Database) (status tenantId : Option String) (limit : Nat) :
    List EmailDeliveryRecord :=
  let rows := s.emailDeliveries.rows.filter fun row =>
    inScope tenantId row.tenantId && selected status row.status.value
  (newestFirst (fun row => Timestamps.updatedAt row.id) rows).take (min limit 200)

end

def getDeliveryByApprovalId (s : Database) (approvalId : String)
    (tenantId : Option String) : Option EmailDeliveryRecord :=
  (s.emailDeliveries.findUnique? approvalId).filter fun row =>
    inScope tenantId row.tenantId

/-- The first row is fetched before its tenant is looked at. -/
def getDeliveryByExecutionJobId (s : Database) (jobId : String)
    (tenantId : Option String) : Option EmailDeliveryRecord :=
  (s.emailDeliveries.rows.find? fun row => row.executionJobId = some jobId).filter
    fun row => inScope tenantId row.tenantId

structure ThreadView where
  id : String
  externalThreadId : String
  lastSnippet : Option String
  lastIntent : Option String
  sourceJobId : Option String
  deriving DecidableEq, Repr

structure DeliveryView where
  id : String
  approvalId : Option String
  status : DeliveryStatus
  gmailDraftId : Option String
  gmailMessageId : Option String
  sourceJobId : Option String
  executionJobId : Option String
  lastError : Option String
  deriving DecidableEq, Repr

structure ThreadSummary where
  thread : Option ThreadView
  deliveries : List DeliveryView
  deriving DecidableEq, Repr

def threadView (row : EmailThreadRecord) : ThreadView where
  id := row.id
  externalThreadId := row.externalThreadId
  lastSnippet := row.lastSnippet
  lastIntent := row.lastIntent
  sourceJobId := row.sourceJobId

def deliveryView (row : EmailDeliveryRecord) : DeliveryView where
  id := row.id
  approvalId := row.approvalId
  status := row.status
  gmailDraftId := row.gmailDraftId
  gmailMessageId := row.gmailMessageId
  sourceJobId := row.sourceJobId
  executionJobId := row.executionJobId
  lastError := row.lastError

/-- Here no tenant means the rows without a tenant. -/
def getThreadSummary (s : Database) (tenantId : Option String)
    (externalThreadId : String) : Except StoreError ThreadSummary := do
  let thread ← scalarOneOrNone (s.emailThreads.rows.filter fun row =>
    row.externalThreadId = externalThreadId && row.tenantId = tenantId)
  let deliveries := s.emailDeliveries.rows.filter fun row =>
    row.threadExternalId = externalThreadId && row.tenantId = tenantId
  return {
    thread := thread.map threadView
    deliveries := deliveries.map deliveryView }

end EmailPersistence

namespace AuditService

def listAuditEvents (s : Database) (resourceType resourceId tenantId : Option String)
    (limit : Nat) : List AuditEvent :=
  let rows := s.auditEvents.rows.filter fun row =>
    inScope tenantId row.tenantId && selected resourceType row.resourceType &&
      selected resourceId row.resourceId
  (newestFirst AuditEvent.createdAt rows).take (min limit 500)

def listForResource (s : Database) (resourceType resourceId : String)
    (tenantId : Option String) : List AuditEvent :=
  let rows := s.auditEvents.rows.filter fun row =>
    row.resourceType = resourceType && row.resourceId = resourceId &&
      inScope tenantId row.tenantId
  oldestFirst AuditEvent.createdAt rows

variable [Deployment]

/-- The loop of `verify_tenant_events` from position `index` on. -/
def verifyEventsFrom (index total : Nat) :
    List AuditEvent → Except PyErr ChainVerificationResult
  | [] => .ok { status := .verified, verifiedCount := total, totalCount := total }
  | row :: rest => do
      let hash ← computeEventHash row row.previousHash
      if some hash ≠ row.eventHash then
        .ok {
          status := .failed
          verifiedCount := index
          totalCount := total
          brokenAtSeq := row.seq
          reason := some "hash_mismatch" }
      else verifyEventsFrom (index + 1) total rest

/-- Each of the tenant's events on its own; the links between them are not
looked at. -/
def verifyTenantEvents (s : Database) (tenantId : String) :
    Except PyErr ChainVerificationResult :=
  let rows := orderedChain
    (s.auditEvents.rows.filter fun row => row.tenantId = some tenantId)
  if rows.isEmpty then
    .ok { status := .empty, verifiedCount := 0, totalCount := 0 }
  else verifyEventsFrom 0 rows.length rows

end AuditService

namespace ControlCatalog

def listFrameworks (s : Governance) : List ControlFramework :=
  s.frameworks.rows.insertionSort fun a b => a.name ≤ b.name

def getFramework (s : Governance) (frameworkId : String) : Option ControlFramework :=
  s.frameworks.find? frameworkId

def listControls (s : Governance) (frameworkId : String) : List Control :=
  (s.controls.rows.filter fun row => row.frameworkId = frameworkId).insertionSort
    fun a b => a.code ≤ b.code

def listRegulations (s : Governance) : List Regulation :=
  s.regulations.rows.insertionSort fun a b => a.name ≤ b.name

end ControlCatalog

end ControlPlane
