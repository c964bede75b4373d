import ControlPlane.App.Api
import ControlPlane.App.Routes
import ControlPlane.Services.Reads

/-!
The response to an HTTP request: the inspection routes of `app/api/`, the public
catalogue, chat intake and the static pages. The handlers behind a permission
are a parameter, because the statements here are about callers who reach none
of them.
-/

namespace ControlPlane

open Lib JobService ApprovalService EmailPersistence OperatorAuthMiddleware

structure JobSummary where
  id : String
  type : String
  status : JobStatus
  tenantId : Option String
  createdAt : Datetime
  deriving DecidableEq, Repr

def jobToSummary (job : Job) : JobSummary where
  id := job.id
  type := job.type
  status := job.status
  tenantId := job.tenantId
  createdAt := job.createdAt

structure JobDetail where
  id : String
  tenantId : Option String
  type : String
  status : JobStatus
  attempts : Nat
  lastError : Option String
  createdAt : Datetime
  updatedAt : Datetime
  payload : Dict
  result : Option Dict
  deriving DecidableEq, Repr

/-- `split_stored_payload`. -/
def splitStoredPayload (payload : Option Dict) : Dict × Option Dict :=
  let data := loads payload
  let rest : Dict := data.filter fun f => f.1 ≠ "result"
  match data.get? "result" with
  | none => (rest, none)
  | some .null => (rest, none)
  | some (.obj result) => (rest, some result)
  | some result => (rest.set "_result_non_object" result, none)

structure ApprovalSummary where
  id : String
  kind : String
  status : ApprovalStatus
  tenantId : Option String
  createdAt : Datetime
  deriving DecidableEq, Repr

def approvalToSummary (row : ApprovalRequest) : ApprovalSummary where
  id := row.id
  kind := row.kind
  status := row.status
  tenantId := row.tenantId
  createdAt := row.createdAt

structure DeliveryDetail where
  row : EmailDeliveryRecord
  updatedAt : Datetime
  deriving DecidableEq, Repr

section

variable [Timestamps]

def jobToDetail (job : Job) : JobDetail where
  id := job.id
  tenantId := job.tenantId
  type := job.type
  status := job.status
  attempts := job.attempts
  lastError := job.lastError
  createdAt := job.createdAt
  updatedAt := Timestamps.updatedAt job.id
  payload := (splitStoredPayload job.payloadJson).1
  result := (splitStoredPayload job.payloadJson).2

/-- `delivery_to_detail` returns every column. -/
def deliveryToDetail (row : EmailDeliveryRecord) : DeliveryDetail where
  row := row
  updatedAt := Timestamps.updatedAt row.id

end

inductive Body where
  | jobs (items : List JobSummary)
  | job (detail : JobDetail)
  | approvals (items : List ApprovalSummary)
  | approval (detail : Api.ApprovalDetail)
  | deliveries (items : List DeliveryDetail)
  | delivery (detail : DeliveryDetail)
  | thread (summary : ThreadSummary)
  | frameworks (items : List ControlFramework)
  | controls (items : List Control)
  | regulations (items : List Regulation)
  | queued (response : Api.ChatResponse)
  | status (text : String)
  | page (endpoint : Endpoint)

inductive HttpReply where
  | ok (body : Body)
  | error (status : Nat) (detail : String)

def HttpReply.found : Option Body → String → HttpReply
  | some body, _ => .ok body
  | none, detail => .error 404 detail

@[simp] theorem HttpReply.found_some (body : Body) (detail : String) :
    HttpReply.found (some body) detail = .ok body := rfl

@[simp] theorem HttpReply.found_none (detail : String) :
    HttpReply.found none detail = .error 404 detail := rfl

/-- The answer to one request: the id and the clock reading for a new row. -/
structure Fresh where
  newId : String
  now : Datetime

section Handlers

variable [Deployment] [Framework] [Timestamps]

/-- The limit of a list route, whose check has passed. -/
def limitOf (rule : QueryRule) (r : HttpRequest) : Nat :=
  match rule with
  | .limit default max => (limitParam default max r).getD default
  | _ => 0

/-- `_enrich_approval_detail` of a row that was just read. -/
def enrichedDetail (s : Database) (row : ApprovalRequest) : Api.ApprovalDetail :=
  Api.approvalToDetail row ((jobByKey s (sendKey row.id)).map Job.id)

/-- The row `create_job` inserts for a chat request. -/
def chatJob (body : Api.ChatRequest) (tenantId : Option String) (fresh : Fresh) :
    Job where
  id := fresh.newId
  tenantId := tenantId
  type := chatOrchestrateType
  status := .pending
  idempotencyKey := none
  payloadJson := some [("session_id", .str body.sessionId),
    ("message", .str body.message), ("max_steps", .num body.maxSteps)]
  attempts := 0
  lastError := none
  runAfter := none
  createdAt := fresh.now

/-- The handler of `POST /chat`; the body was checked. -/
def chatReply (s : Database) (body : Api.ChatRequest) (tenantId : Option String)
    (fresh : Fresh) : HttpReply :=
  match s.jobs.insert (chatJob body tenantId fresh) with
  | none => .error 500 ""
  | some _ => .ok (.queued {
      jobId := fresh.newId
      status := "queued"
      message := "Chat request accepted" })

/-- The handlers of the routes that ask for a tenant only. -/
def tenantHandler (s : Store) (route : Route) (params : List String)
    (tenantId : Option String) (r : HttpRequest) (fresh : Fresh) : HttpReply :=
  let limit := limitOf route.query r
  let param := params.headD ""
  match route.endpoint with
  | .listJobsApi => .ok (.jobs ((listJobs s.db (r.param "status") (r.param "type")
      tenantId limit).map jobToSummary))
  | .getJob => .found ((jobById s.db param tenantId).map fun job =>
      .job (jobToDetail job)) "job_not_found"
  | .listApprovalsApi => .ok (.approvals ((listApprovals s.db (r.param "status")
      tenantId limit).map approvalToSummary))
  | .getApproval => .found ((requestById s.db param tenantId).map fun row =>
      .approval (enrichedDetail s.db row)) "approval_not_found"
  | .listDeliveries => .ok (.deliveries ((listDeliveries s.db (r.param "status")
      tenantId limit).map deliveryToDetail))
  | .getDeliveryByApproval => .found ((getDeliveryByApprovalId s.db param
      tenantId).map fun row => .delivery (deliveryToDetail row)) "delivery_not_found"
  | .getDeliveryByJob => .found ((getDeliveryByExecutionJobId s.db param
      tenantId).map fun row => .delivery (deliveryToDetail row)) "delivery_not_found"
  | .threadSummary =>
      match getThreadSummary s.db tenantId param with
      | .ok summary => .ok (.thread summary)
      | .error _ => .error 500 ""
  | .chat => chatReply s.db (Framework.chatBody r) tenantId fresh
  | _ => .error 500 ""

/-- The handlers that depend on no caller. -/
def publicHandler (s : Governance) (route : Route) (params : List String) :
    HttpReply :=
  match route.endpoint with
  | .listFrameworks => .ok (.frameworks (ControlCatalog.listFrameworks s))
  | .listFrameworkControls =>
      let frameworkId := params.headD ""
      match ControlCatalog.getFramework s frameworkId with
      | none => .error 404 "framework_not_found"
      | some _ => .ok (.controls (ControlCatalog.listControls s frameworkId))
  | .listRegulations => .ok (.regulations (ControlCatalog.listRegulations s))
  | .health => .ok (.status "ok")
  | endpoint => .ok (.page endpoint)

/-- The response to a request. `governed` stands for the handlers behind a
permission. -/
def respond (governed : Store → Route → List String → RbacService.Principal →
      HttpRequest → HttpReply)
    (settings : Settings) (s : Store) (fresh : Fresh) (r : HttpRequest) :
    HttpReply :=
  match (dispatch settings s.identity fresh.now r).1 with
  | .replied status detail => .error status detail
  | .handler route params .anyone => publicHandler s.governance route params
  | .handler route params (.tenant tenantId) =>
      tenantHandler s route params tenantId r fresh
  | .handler route params (.principal principal) =>
      governed s route params principal r

end Handlers

end ControlPlane
