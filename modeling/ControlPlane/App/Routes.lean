import ControlPlane.App.Api
import ControlPlane.Services.RbacService

/-!
The HTTP surface: the routers of `app/main.py` in the order of their
registration, the operator middleware, and the dependencies that stand before a
handler. A handler itself is a value here; what it does is modelled elsewhere.

The parsing of integers in a query and of bodies against their schemas belongs
to the web framework and is a parameter. So is `urlPath`, the path the framework rebuilds
for `request.url`: the middleware tests it, while routing uses `path`.
-/

namespace ControlPlane

open Lib RbacService

inductive Router where
  | jobs
  | approvals
  | audit
  | email
  | controls
  | evidence
  | workflows
  | policies
  | incidents
  | trust
  | verification
  /-- `/health`, `/console`, `/chat` and the generated documentation. -/
  | app
  deriving DecidableEq, Repr

/-- The router serves operators; the others are public. -/
def Router.operatorFacing : Router → Bool
  | .controls | .app => false
  | _ => true

inductive Guard where
  | none
  /-- `Depends(get_current_tenant_id)`. -/
  | tenant
  /-- `Depends(require_permission(permission))`. -/
  | permission (name : String)
  deriving DecidableEq, Repr

inductive Segment where
  | lit (text : String)
  | param
  deriving DecidableEq, Repr

inductive Endpoint where
  | openapi | swaggerUi | swaggerRedirect | redoc
  | listJobsApi | retryJob | getJob
  | listApprovalsApi | getApproval | approveRequest | rejectRequest
  | listAudit | verifyAuditChain
  | listDeliveries | getDeliveryByApproval | getDeliveryByJob | threadSummary
  | listFrameworks | listFrameworkControls | listRegulations
  | listAiSystems | listActions | getActionGraph | actionPacket | workflowPacket
  | exportPacket | persistActionPacket | listStoredPackets | getStoredPacket
  | verifyPacket | revokePacket | downloadStoredPacket
  | submitVendorGovernanceReview | listRuns | getRun | overrideRun
  | listPolicies | createPolicy | getPolicy | activatePolicy | rollbackPolicy
  | getIncidentReplay
  | getActionTrustScore | getWorkflowTrustScore | getTenantTrustScore
  | computeActionTrustScore | computeWorkflowTrustScore | computeTenantTrustScore
  | requestVerification | reviewVerification | approveVerification
  | revokeVerification
  | health | console | chat
  deriving DecidableEq, Repr

/-- The constraints on the query parameters of a route. -/
inductive QueryRule where
  | free
  /-- `limit: int = Query(default=default, ge=1, le=max)`. -/
  | limit (default max : Nat)
  /-- `format: str = Query(default="json", pattern="^(json|md)$")`. -/
  | format
  deriving DecidableEq, Repr

structure Route where
  endpoint : Endpoint
  router : Router
  methods : List String
  pattern : List Segment
  guard : Guard
  query : QueryRule
  hasBody : Bool
  deriving DecidableEq, Repr

def Route.get (endpoint : Endpoint) (router : Router) (pattern : List Segment)
    (guard : Guard) (query : QueryRule := .free) : Route :=
  { endpoint, router, methods := ["GET"], pattern, guard, query, hasBody := false }

def Route.post (endpoint : Endpoint) (router : Router) (pattern : List Segment)
    (guard : Guard) (hasBody : Bool := true) : Route :=
  { endpoint, router, methods := ["POST"], pattern, guard, query := .free, hasBody }

/-- A documentation page, added before all routers. -/
def Route.page (endpoint : Endpoint) (pattern : List Segment) : Route :=
  { endpoint, router := .app, methods := ["GET", "HEAD"], pattern
    guard := .none, query := .free, hasBody := false }

open Segment Guard in
/-- The registered routes; the first that matches is taken. -/
def routes : List Route := [
  .page .openapi [lit "openapi.json"],
  .page .swaggerUi [lit "docs"],
  .page .swaggerRedirect [lit "docs", lit "oauth2-redirect"],
  .page .redoc [lit "redoc"],
  .get .listJobsApi .jobs [lit "jobs"] tenant (.limit 50 200),
  .post .retryJob .jobs [lit "jobs", param, lit "retry"]
    (permission "execute_approved_action") false,
  .get .getJob .jobs [lit "jobs", param] tenant,
  .get .listApprovalsApi .approvals [lit "approvals"] tenant (.limit 50 200),
  .get .getApproval .approvals [lit "approvals", param] tenant,
  .post .approveRequest .approvals [lit "approvals", param, lit "approve"]
    (permission "approve_action"),
  .post .rejectRequest .approvals [lit "approvals", param, lit "reject"]
    (permission "reject_action"),
  .get .listAudit .audit [lit "audit"] (permission "view_audit") (.limit 100 500),
  .get .verifyAuditChain .audit [lit "audit", lit "verify"]
    (permission "view_audit"),
  .get .listDeliveries .email [lit "email", lit "deliveries"] tenant
    (.limit 50 200),
  .get .getDeliveryByApproval .email
    [lit "email", lit "deliveries", lit "by-approval", param] tenant,
  .get .getDeliveryByJob .email
    [lit "email", lit "deliveries", lit "by-job", param] tenant,
  .get .threadSummary .email
    [lit "email", lit "threads", param, lit "summary"] tenant,
  .get .listFrameworks .controls [lit "controls", lit "frameworks"] none,
  .get .listFrameworkControls .controls
    [lit "controls", lit "frameworks", param, lit "controls"] none,
  .get .listRegulations .controls [lit "controls", lit "regulations"] none,
  .get .listAiSystems .evidence [lit "evidence", lit "ai-systems"]
    (permission "view_audit"),
  .get .listActions .evidence [lit "evidence", lit "actions"]
    (permission "view_audit"),
  .get .getActionGraph .evidence
    [lit "evidence", lit "actions", param, lit "graph"] (permission "view_audit"),
  .get .actionPacket .evidence
    [lit "evidence", lit "packets", lit "action", param] (permission "view_audit"),
  .get .workflowPacket .evidence
    [lit "evidence", lit "packets", lit "workflow", param] (permission "view_audit"),
  .get .exportPacket .evidence
    [lit "evidence", lit "packets", lit "export", param] (permission "view_audit")
    .format,
  .post .persistActionPacket .evidence
    [lit "evidence", lit "packets", lit "action", param, lit "persist"]
    (permission "export_evidence") false,
  .get .listStoredPackets .evidence [lit "evidence", lit "packets"]
    (permission "view_audit"),
  .get .getStoredPacket .evidence [lit "evidence", lit "packets", param]
    (permission "view_audit"),
  .get .verifyPacket .evidence [lit "evidence", lit "verify", param]
    (permission "view_audit"),
  .post .revokePacket .evidence [lit "evidence", lit "packets", param, lit "revoke"]
    (permission "export_evidence"),
  .get .downloadStoredPacket .evidence
    [lit "evidence", lit "packets", param, lit "download"]
    (permission "export_evidence") .format,
  .post .submitVendorGovernanceReview .workflows
    [lit "workflows", lit "vendor-governance-review"]
    (permission "create_governed_action"),
  .get .listRuns .workflows [lit "workflows", lit "runs"] (permission "view_audit"),
  .get .getRun .workflows [lit "workflows", lit "runs", param]
    (permission "view_audit"),
  .post .overrideRun .workflows
    [lit "workflows", lit "runs", param, lit "override"]
    (permission "override_high_risk_action"),
  .get .listPolicies .policies [lit "policies"] (permission "view_audit"),
  .post .createPolicy .policies [lit "policies"] (permission "manage_policies"),
  .get .getPolicy .policies [lit "policies", param] (permission "view_audit"),
  .post .activatePolicy .policies [lit "policies", param, lit "activate"]
    (permission "manage_policies") false,
  .post .rollbackPolicy .policies [lit "policies", param, lit "rollback"]
    (permission "manage_policies"),
  .get .getIncidentReplay .incidents [lit "incidents", param, lit "replay"]
    (permission "view_audit") .format,
  .get .getActionTrustScore .trust [lit "trust", lit "score", param]
    (permission "view_audit"),
  .get .getWorkflowTrustScore .trust [lit "trust", lit "workflow", param]
    (permission "view_audit"),
  .get .getTenantTrustScore .trust [lit "trust", lit "tenant", param]
    (permission "view_audit"),
  .post .computeActionTrustScore .trust [lit "trust", lit "compute", param]
    (permission "export_evidence") false,
  .post .computeWorkflowTrustScore .trust
    [lit "trust", lit "compute", lit "workflow", param]
    (permission "export_evidence") false,
  .post .computeTenantTrustScore .trust
    [lit "trust", lit "compute", lit "tenant", param]
    (permission "export_evidence") false,
  .post .requestVerification .verification [lit "verification", lit "request"]
    (permission "create_governed_action"),
  .post .reviewVerification .verification [lit "verification", lit "review"]
    (permission "approve_action"),
  .post .approveVerification .verification [lit "verification", lit "approve"]
    (permission "approve_action"),
  .post .revokeVerification .verification [lit "verification", lit "revoke"]
    (permission "approve_action"),
  .get .health .app [lit "health"] none,
  .get .console .app [lit "console"] none,
  .post .chat .app [lit "chat"] tenant]

/-- The parts of a path between its slashes. -/
def segments (path : String) : List (List Char) :=
  path.toList.splitOn '/'

/-- The parameters of a match. A parameter is not empty, and a pattern ends
before a final newline, as `$` does. -/
def matchSegments : List Segment → List (List Char) → Option (List String)
  | [], [] => some []
  | [.lit text], [part] =>
      if part = text.toList ∨ part = text.toList ++ ['\n'] then some [] else none
  | .lit text :: pattern, part :: parts =>
      if part = text.toList then matchSegments pattern parts else none
  | .param :: pattern, part :: parts =>
      if part = [] then none
      else (matchSegments pattern parts).map (String.ofList part :: ·)
  | _, _ => none

def Route.matches (route : Route) (path : String) : Option (List String) :=
  match segments path with
  | [] :: parts => matchSegments route.pattern parts
  | _ => none

structure HttpRequest where
  method : String
  path : String
  urlPath : String
  /-- Names in lower case, as the server hands them over. -/
  headers : List (String × String)
  query : List (String × String)
  body : String

/-- `request.headers.get(name)`. -/
def HttpRequest.header (r : HttpRequest) (name : String) : Option String :=
  r.headers.lookup name

/-- A query parameter; the last of several is taken. -/
def HttpRequest.param (r : HttpRequest) (name : String) : Option String :=
  r.query.reverse.lookup name

def apiKeyHeader : String := "x-api-key"

def HttpRequest.apiKey (r : HttpRequest) : Option String := r.header apiKeyHeader

/-- The route a request is served by, with the values of its path parameters. -/
def route? (r : HttpRequest) : Option (Route × List String) :=
  routes.findSome? fun route =>
    if r.method ∈ route.methods then
      (route.matches r.path).map fun params => (route, params)
    else none

inductive Check where
  /-- The body is no JSON at all, which is noticed before any dependency runs. -/
  | malformed
  | invalid
  | valid
  deriving DecidableEq, Repr

/-- The framework's part: integers in a query, bodies against their schemas, the
body of `POST /chat`, and its own answer where no route matches. -/
class Framework where
  parseInt : String → Option Int
  checkBody : Endpoint → HttpRequest → Check
  chatBody : HttpRequest → Api.ChatRequest
  unmatched : HttpRequest → Nat

section Checks

variable [Framework]

/-- The value of a `limit` parameter, if it passes. -/
def limitParam (default max : Nat) (r : HttpRequest) : Option Nat :=
  match r.param "limit" with
  | none => some default
  | some text => do
      let n ← Framework.parseInt text
      if 1 ≤ n ∧ n ≤ max then some n.toNat else none

def QueryRule.passes (r : HttpRequest) : QueryRule → Bool
  | .free => true
  | .limit default max => (limitParam default max r).isSome
  | .format => (r.param "format").all fun text =>
      text ∈ ["json", "md"]

def Route.check (route : Route) (r : HttpRequest) : Check :=
  let body := if route.hasBody then Framework.checkBody route.endpoint r else .valid
  if body = .valid ∧ ¬ route.query.passes r then .invalid else body

end Checks

/-- What the dependencies of a route resolved the caller to. -/
inductive Caller where
  | anyone
  | tenant (tenantId : Option String)
  | principal (p : Principal)

inductive Dispatch where
  /-- Answered before any handler ran. -/
  | replied (status : Nat) (detail : String)
  | handler (route : Route) (params : List String) (caller : Caller)

section Dispatching

variable [Deployment]

/-- The dependency of a route; `Except.error` is its HTTP error. -/
def Guard.resolve (settings : Settings) (s : Identity) (now : Datetime)
    (apiKey : Option String) : Guard → Except (Nat × String) (Caller × Identity)
  | .none => .ok (.anyone, s)
  | .tenant =>
      match TenantService.resolveTenantId s now apiKey with
      | .error _ => .error (401, "invalid_api_key")
      | .ok (s', tenantId) => .ok (.tenant tenantId, s')
  | .permission name =>
      match resolvePrincipal settings s apiKey with
      | .error _ => .error (401, "invalid_api_key")
      | .ok principal =>
          if principal.has name then .ok (.principal principal, s)
          else .error (403, "permission_denied")

variable [Framework]

/-- Routing and dependencies, behind the middleware. -/
def callNext (settings : Settings) (s : Identity) (now : Datetime)
    (r : HttpRequest) : Dispatch × Identity :=
  match route? r with
  | none => (.replied (Framework.unmatched r) "", s)
  | some (route, params) =>
      if route.check r = .malformed then (.replied 422 "", s)
      else
        match route.guard.resolve settings s now r.apiKey with
        | .error (status, detail) => (.replied status detail, s)
        | .ok (caller, s') =>
            if route.check r = .valid then
              (.handler route params caller, s')
            else (.replied 422 "", s')

end Dispatching

namespace OperatorAuthMiddleware

def protectedPrefixes : List String := ["/jobs", "/approvals", "/audit", "/email"]

/-- `path == prefix or path.startswith(prefix + "/")` for one of the prefixes. -/
def isProtected (path : String) : Bool :=
  protectedPrefixes.any fun mount =>
    path.toList = mount.toList || (mount.toList ++ ['/']).isPrefixOf path.toList

def operatorKeyHeader : String := "x-operator-key"

variable [Deployment] [Framework]

def dispatch (settings : Settings) (s : Identity) (now : Datetime)
    (r : HttpRequest) : Dispatch × Identity :=
  if falsy settings.operatorApiKey then
    callNext settings s now r
  else if ¬ isProtected r.urlPath then
    callNext settings s now r
  else if r.header operatorKeyHeader ≠ settings.operatorApiKey then
    (.replied 401 "operator_key_required", s)
  else
    callNext settings s now r

end OperatorAuthMiddleware

end ControlPlane
