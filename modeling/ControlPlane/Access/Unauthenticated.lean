import ControlPlane.Access.OperatorKey
import ControlPlane.App.Inspection
import ControlPlane.Tenancy.Agreement

/-!
Callers without an API key outside demo mode. A route that asks for a permission
turns them away; a route that asks for a tenant only reads the missing key as
"all tenants". The catalogue, intake and the thread summary show no tenant's
rows either way.
-/

namespace ControlPlane

open Lib RbacService JobService ApprovalService EmailPersistence
  OperatorAuthMiddleware

/-- The two states differ in rows of tenants only. -/
structure Store.DifferInTenants (s s' : Store) : Prop where
  db : s.db.AgreeOn Option.isNone s'.db
  identity : s.identity.AgreeOn Option.isNone s'.identity
  governance : s.governance.AgreeOn Option.isNone s'.governance

/-- The id drawn for a new row is the id of no job. -/
def Fresh.For (fresh : Fresh) (s : Store) : Prop :=
  s.db.jobs.find? fresh.newId = none

/-- The handlers of a permission-guarded route. -/
abbrev Governed := Store → Route → List String → Principal → HttpRequest → HttpReply

/-- The filter on a status lets some rows through. -/
def NamesStatus (r : HttpRequest) (values : List String) : Prop :=
  ∃ value ∈ values, selected (r.param "status") value

def jobStatuses : List String :=
  ["pending", "running", "succeeded", "failed", "cancelled"]

def approvalStatuses : List String := ["pending", "approved", "rejected"]

def deliveryStatuses : List String :=
  ["draft_created", "awaiting_approval", "sent", "failed"]

/-- The reads that a missing tenant leaves unscoped. -/
def Endpoint.Unscoped (r : HttpRequest) : Endpoint → Prop
  | .listJobsApi => NamesStatus r jobStatuses
  | .listApprovalsApi => NamesStatus r approvalStatuses
  | .listDeliveries => NamesStatus r deliveryStatuses
  | .getJob | .getApproval | .getDeliveryByApproval | .getDeliveryByJob => True
  | _ => False

section Silent

variable {r : HttpRequest} {s s' : Store} {fresh : Fresh}

theorem publicHandler_same {route : Route} {params : List String}
    (h : s.governance.AgreeOn Option.isNone s'.governance) :
    publicHandler s.governance route params =
      publicHandler s'.governance route params := by
  unfold publicHandler ControlCatalog.listFrameworks ControlCatalog.getFramework
    ControlCatalog.listControls ControlCatalog.listRegulations
  rw [h.frameworks, h.controls, h.regulations]

/-- A filter that names no status lets no row through. -/
theorem not_selected {values : List String} {value : String}
    (h : ¬ NamesStatus r values) (hmem : value ∈ values) :
    selected (r.param "status") value = false := by
  cases hsel : selected (r.param "status") value with
  | false => rfl
  | true => exact absurd ⟨value, hmem, hsel⟩ h

theorem jobStatus_mem (status : JobStatus) : status.value ∈ jobStatuses := by
  cases status <;> decide

theorem approvalStatus_mem (status : ApprovalStatus) :
    status.value ∈ approvalStatuses := by
  cases status <;> decide

theorem deliveryStatus_mem (status : DeliveryStatus) :
    status.value ∈ deliveryStatuses := by
  cases status <;> decide

/-- A listing whose rows all have statuses the filter leaves out is empty. -/
theorem listing_empty {α : Type} {values : List String} {status : α → String}
    {keep : α → Bool} (h : ¬ NamesStatus r values) (hmem : ∀ row, status row ∈ values)
    (hkeep : ∀ row, keep row → selected (r.param "status") (status row))
    (createdAt : α → Datetime) (rows : List α) (limit : Nat) :
    (newestFirst createdAt (rows.filter keep)).take limit = [] := by
  have hnone : rows.filter keep = [] := by
    refine List.filter_eq_nil_iff.mpr fun row _ hrow => ?_
    have hsel := hkeep row hrow
    rw [not_selected h (hmem row)] at hsel
    cases hsel
  simp [hnone, newestFirst]

theorem listJobs_empty (h : ¬ NamesStatus r jobStatuses) (db : Database)
    (jobType tenantId : Option String) (limit : Nat) :
    listJobs db (r.param "status") jobType tenantId limit = [] :=
  listing_empty h (fun job : Job => jobStatus_mem job.status)
    (fun job hkeep => by simp_all) _ _ _

theorem listApprovals_empty (h : ¬ NamesStatus r approvalStatuses) (db : Database)
    (tenantId : Option String) (limit : Nat) :
    listApprovals db (r.param "status") tenantId limit = [] :=
  listing_empty h (fun row : ApprovalRequest => approvalStatus_mem row.status)
    (fun row hkeep => by simp_all) _ _ _

theorem listDeliveries_empty [Timestamps] (h : ¬ NamesStatus r deliveryStatuses)
    (db : Database) (tenantId : Option String) (limit : Nat) :
    listDeliveries db (r.param "status") tenantId limit = [] :=
  listing_empty h (fun row : EmailDeliveryRecord => deliveryStatus_mem row.status)
    (fun row hkeep => by simp_all) _ _ _

theorem getThreadSummary_same (h : s.db.AgreeOn Option.isNone s'.db)
    (externalThreadId : String) :
    getThreadSummary s.db none externalThreadId =
      getThreadSummary s'.db none externalThreadId := by
  unfold getThreadSummary
  rw [h.emailThreads.filter (by simp), h.emailDeliveries.filter (by simp)]

theorem chatReply_fresh (body : Api.ChatRequest) (tenantId : Option String)
    (h : fresh.For s) : chatReply s.db body tenantId fresh =
      .ok (.queued ⟨fresh.newId, "queued", "Chat request accepted"⟩) := by
  have hkey : s.db.jobs.find? (chatJob body tenantId fresh).id = none := h
  obtain ⟨jobs, hinsert⟩ := Table.exists_insert hkey rfl
  simp only [chatReply, hinsert]

/-- The routes that list rows, with their constraint on `limit`. -/
theorem limit_of_list : ∀ route ∈ routes, route.endpoint ∈
    [Endpoint.listJobsApi, .listApprovalsApi, .listDeliveries] →
    route.query = .limit 50 200 := by
  decide

/-- A job of some tenant. -/
def tenantJob (id type : String) (status : JobStatus) : Job where
  id := id
  tenantId := some "tenant"
  type := type
  status := status
  idempotencyKey := none
  payloadJson := none
  attempts := 0
  lastError := none
  runAfter := none
  createdAt := unset

def tenantApproval (id : String) (status : ApprovalStatus) : ApprovalRequest where
  id := id
  tenantId := some "tenant"
  kind := jobGate
  status := status
  payloadJson := none
  decidedAt := none
  createdAt := unset

def tenantDelivery (approvalId jobId : String) (status : DeliveryStatus) :
    EmailDeliveryRecord where
  id := "delivery"
  tenantId := some "tenant"
  threadExternalId := "thread"
  gmailDraftId := none
  gmailMessageId := none
  approvalId := some approvalId
  sourceJobId := none
  executionJobId := some jobId
  status := status
  lastError := none

def jobStore (job : Job) : Store := { db := { jobs := .single job } }

def approvalStore (row : ApprovalRequest) : Store :=
  { db := { approvals := .single row } }

def deliveryStore (row : EmailDeliveryRecord) : Store :=
  { db := { emailDeliveries := .single row } }

theorem sameRows_single {α κ υ : Type} {key : α → κ} {uniq : α → Option υ}
    {tenant : α → Option String} {row : α} (h : tenant row = some "tenant") :
    SameRows tenant Option.isNone (.empty : Table α κ υ key uniq) (.single row) := by
  simp [SameRows, Table.single, Table.empty, h]

/-- A row of a tenant in one table, and nothing else, is a difference in tenants. -/
theorem differInTenants_of_db {db : Database}
    (h : ({} : Database).AgreeOn Option.isNone db) :
    Store.DifferInTenants {} { db := db } :=
  ⟨h, Identity.agreeOn_refl _ _, Governance.agreeOn_refl _ _⟩

theorem jobStore_differs (job : Job) (h : job.tenantId = some "tenant") :
    Store.DifferInTenants {} (jobStore job) :=
  differInTenants_of_db
    { Database.agreeOn_refl Option.isNone {} with jobs := sameRows_single h }

theorem approvalStore_differs (row : ApprovalRequest)
    (h : row.tenantId = some "tenant") :
    Store.DifferInTenants {} (approvalStore row) :=
  differInTenants_of_db
    { Database.agreeOn_refl Option.isNone {} with approvals := sameRows_single h }

theorem deliveryStore_differs (row : EmailDeliveryRecord)
    (h : row.tenantId = some "tenant") :
    Store.DifferInTenants {} (deliveryStore row) :=
  differInTenants_of_db
    { Database.agreeOn_refl Option.isNone {} with emailDeliveries := sameRows_single h }

/-- A listing of one row that the filter lets through shows the row. -/
theorem listing_single {α : Type} {keep : α → Bool} {row : α} {limit : Nat}
    (createdAt : α → Datetime) (hkeep : keep row) (hlimit : 1 ≤ limit) :
    (newestFirst createdAt ([row].filter keep)).take (min limit 200) = [row] := by
  have hrows : [row].filter keep = [row] :=
    List.filter_eq_self.mpr (List.forall_mem_singleton.mpr hkeep)
  rw [hrows]
  apply List.take_of_length_le
  simp [newestFirst]
  omega

theorem selected_getD (value : Option String) : selected value (value.getD "") := by
  cases value <;> simp [selected, falsy]

theorem listJobs_single {status jobType : Option String} {limit : Nat} {job : Job}
    (hstatus : selected status job.status.value) (htype : selected jobType job.type)
    (hlimit : 1 ≤ limit) :
    listJobs (jobStore job).db status jobType none limit = [job] :=
  listing_single _ (by simp [inScope, hstatus, htype]) hlimit

theorem listApprovals_single {status : Option String} {limit : Nat}
    {row : ApprovalRequest} (hstatus : selected status row.status.value)
    (hlimit : 1 ≤ limit) :
    listApprovals (approvalStore row).db status none limit = [row] :=
  listing_single _ (by simp [inScope, hstatus]) hlimit

theorem listDeliveries_single [Timestamps] {status : Option String} {limit : Nat}
    {row : EmailDeliveryRecord} (hstatus : selected status row.status.value)
    (hlimit : 1 ≤ limit) :
    listDeliveries (deliveryStore row).db status none limit = [row] :=
  listing_single _ (by simp [inScope, hstatus]) hlimit

theorem exists_other (id : String) : ∃ newId : String, id ≠ newId := by
  by_cases h : id = "a"
  · exact ⟨"b", by simp [h]⟩
  · exact ⟨"a", h⟩

end Silent

section Responses

variable [Deployment] [Framework] [Timestamps]

/-- The response tells nothing about the rows of tenants. -/
def Sealed (settings : Settings) (r : HttpRequest) : Prop :=
  ∀ (governed : Governed) (fresh : Fresh) (s s' : Store), s.DifferInTenants s' →
    fresh.For s → fresh.For s' →
    respond governed settings s fresh r = respond governed settings s' fresh r

/-- The request is a well-formed one to an unscoped read. -/
def HttpRequest.Unscoped (r : HttpRequest) : Prop :=
  ∃ route params, route? r = some (route, params) ∧ route.check r = .valid ∧
    route.guard = .tenant ∧ route.endpoint.Unscoped r

variable {settings : Settings} {r : HttpRequest} {s s' : Store} {fresh : Fresh}

/-- A route that asks for a tenant is served, unscoped. -/
theorem respond_tenant (governed : Governed) {route : Route} {params : List String}
    (hoperator : falsy settings.operatorApiKey) (hkey : falsy r.apiKey)
    (hroute : route? r = some (route, params)) (hcheck : route.check r = .valid)
    (hguard : route.guard = .tenant) (s : Store) (fresh : Fresh) :
    respond governed settings s fresh r =
      tenantHandler s route params none r fresh := by
  have hnext : dispatch settings s.identity fresh.now r =
      callNext settings s.identity fresh.now r := by
    simp [dispatch, hoperator]
  simp [respond, hnext, callNext, hroute, hcheck, hguard, Guard.resolve,
    resolveTenantId_no_key hkey]

/-- How a request without a key is answered outside demo mode. -/
theorem dispatch_no_key (governed : Governed) (henv : settings.appEnv ≠ .demo)
    (hoperator : falsy settings.operatorApiKey) (hkey : falsy r.apiKey) :
    (∃ status detail, ∀ s fresh,
      respond governed settings s fresh r = .error status detail) ∨
    ∃ route params, route? r = some (route, params) ∧ route.check r = .valid ∧
      ((route.guard = .none ∧ ∀ s fresh, respond governed settings s fresh r =
          publicHandler s.governance route params) ∨
        (route.guard = .tenant ∧ ∀ s fresh, respond governed settings s fresh r =
          tenantHandler s route params none r fresh)) := by
  have hnext : ∀ s now, dispatch settings s now r = callNext settings s now r := by
    intro s now
    simp [dispatch, hoperator]
  cases hroute : route? r with
  | none =>
      refine Or.inl ⟨Framework.unmatched r, "", fun s fresh => ?_⟩
      simp [respond, hnext, callNext, hroute]
  | some found =>
      obtain ⟨route, params⟩ := found
      cases hcheck : route.check r with
      | malformed =>
          refine Or.inl ⟨422, "", fun s fresh => ?_⟩
          simp [respond, hnext, callNext, hroute, hcheck]
      | invalid =>
          cases hguard : route.guard with
          | none =>
              refine Or.inl ⟨422, "", fun s fresh => ?_⟩
              simp [respond, hnext, callNext, hroute, hcheck, hguard, Guard.resolve]
          | tenant =>
              refine Or.inl ⟨422, "", fun s fresh => ?_⟩
              simp [respond, hnext, callNext, hroute, hcheck, hguard, Guard.resolve,
                resolveTenantId_no_key hkey]
          | permission name =>
              refine Or.inl ⟨403, "permission_denied", fun s fresh => ?_⟩
              simp [respond, hnext, callNext, hroute, hcheck, hguard, Guard.resolve,
                resolvePrincipal_no_key hkey, henv, Principal.has]
      | valid =>
          cases hguard : route.guard with
          | none =>
              refine Or.inr ⟨route, params, rfl, hcheck, Or.inl ⟨hguard, ?_⟩⟩
              intro s fresh
              simp [respond, hnext, callNext, hroute, hcheck, hguard, Guard.resolve]
          | tenant =>
              refine Or.inr ⟨route, params, rfl, hcheck, Or.inr ⟨hguard, ?_⟩⟩
              exact respond_tenant governed hoperator hkey hroute hcheck hguard
          | permission name =>
              refine Or.inl ⟨403, "permission_denied", fun s fresh => ?_⟩
              simp [respond, hnext, callNext, hroute, hcheck, hguard, Guard.resolve,
                resolvePrincipal_no_key hkey, henv, Principal.has]

omit [Deployment] in
theorem tenantHandler_same {route : Route} {params : List String}
    (h : s.db.AgreeOn Option.isNone s'.db) (hfresh : fresh.For s)
    (hfresh' : fresh.For s') (hscoped : ¬ route.endpoint.Unscoped r) :
    tenantHandler s route params none r fresh =
      tenantHandler s' route params none r fresh := by
  unfold tenantHandler
  cases hend : route.endpoint <;> rw [hend] at hscoped
  case listJobsApi => simp only [listJobs_empty hscoped]
  case listApprovalsApi => simp only [listApprovals_empty hscoped]
  case listDeliveries => simp only [listDeliveries_empty hscoped]
  case getJob => exact absurd trivial hscoped
  case getApproval => exact absurd trivial hscoped
  case getDeliveryByApproval => exact absurd trivial hscoped
  case getDeliveryByJob => exact absurd trivial hscoped
  case threadSummary => simp only [getThreadSummary_same h]
  case chat => simp only [chatReply_fresh _ _ hfresh, chatReply_fresh _ _ hfresh']

omit [Deployment] [Timestamps] in
theorem passes_of_valid {route : Route} (h : route.check r = .valid) :
    route.query.passes r := by
  by_contra hpass
  simp only [Route.check] at h
  by_cases hbody :
      (if route.hasBody then Framework.checkBody route.endpoint r else .valid) = .valid
  · rw [if_pos ⟨hbody, hpass⟩] at h
    cases h
  · rw [if_neg fun hand => hbody hand.1] at h
    exact hbody h

omit [Deployment] [Timestamps] in
theorem limitOf_pos {route : Route} (hroute : route ∈ routes)
    (hcheck : route.check r = .valid) (hlist : route.endpoint ∈
      [Endpoint.listJobsApi, .listApprovalsApi, .listDeliveries]) :
    1 ≤ limitOf route.query r := by
  have hpass := passes_of_valid hcheck
  rw [limit_of_list route hroute hlist] at hpass ⊢
  simp only [QueryRule.passes, limitParam, limitOf] at hpass ⊢
  cases hparam : r.param "limit" with
  | none => simp
  | some text =>
      rw [hparam] at hpass
      cases hparse : Framework.parseInt text with
      | none => simp [hparse] at hpass
      | some n =>
          by_cases hrange : 1 ≤ n ∧ n ≤ 200
          · simp [hparse, hrange]
            omega
          · simp [hparse, hrange] at hpass

omit [Deployment] in
/-- An unscoped read tells the empty tables from a table with one tenant's row.
The cases are the seven routes. -/
theorem tenantHandler_tells {route : Route} (params : List String)
    (hroute : route ∈ routes) (hcheck : route.check r = .valid)
    (hunscoped : route.endpoint.Unscoped r) :
    ∃ s', Store.DifferInTenants {} s' ∧
      (∀ job ∈ s'.db.jobs.rows, job.id = params.headD "") ∧
      ∀ fresh, tenantHandler {} route params none r fresh ≠
        tenantHandler s' route params none r fresh := by
  cases hend : route.endpoint <;> rw [hend] at hunscoped
  case listJobsApi =>
    obtain ⟨value, hvalue, hselected⟩ := hunscoped
    obtain ⟨status, _, rfl⟩ : ∃ status ∈ [JobStatus.pending, .running, .succeeded,
        .failed, .cancelled], status.value = value := List.mem_map.mp hvalue
    have hpos := limitOf_pos hroute hcheck (by simp [hend])
    let job := tenantJob (params.headD "") ((r.param "type").getD "") status
    refine ⟨jobStore job, jobStore_differs job rfl, ?_, fun fresh => ?_⟩
    · exact List.forall_mem_singleton.mpr rfl
    · have hlist : listJobs (jobStore job).db _ _ none _ = [job] :=
        listJobs_single hselected (selected_getD _) hpos
      simp only [tenantHandler, hend, hlist]
      simp [listJobs, Table.empty, newestFirst]
  case listApprovalsApi =>
    obtain ⟨value, hvalue, hselected⟩ := hunscoped
    obtain ⟨status, _, rfl⟩ : ∃ status ∈ [ApprovalStatus.pending, .approved,
        .rejected], status.value = value := List.mem_map.mp hvalue
    have hpos := limitOf_pos hroute hcheck (by simp [hend])
    let row := tenantApproval (params.headD "") status
    refine ⟨approvalStore row, approvalStore_differs row rfl, ?_, fun fresh => ?_⟩
    · exact List.forall_mem_nil _
    · have hlist : listApprovals (approvalStore row).db _ none _ = [row] :=
        listApprovals_single hselected hpos
      simp only [tenantHandler, hend, hlist]
      simp [listApprovals, Table.empty, newestFirst]
  case listDeliveries =>
    obtain ⟨value, hvalue, hselected⟩ := hunscoped
    obtain ⟨status, _, rfl⟩ : ∃ status ∈ [DeliveryStatus.draftCreated,
        .awaitingApproval, .sent, .failed], status.value = value :=
      List.mem_map.mp hvalue
    have hpos := limitOf_pos hroute hcheck (by simp [hend])
    let row := tenantDelivery "" "" status
    refine ⟨deliveryStore row, deliveryStore_differs row rfl, ?_, fun fresh => ?_⟩
    · exact List.forall_mem_nil _
    · have hlist : listDeliveries (deliveryStore row).db _ none _ = [row] :=
        listDeliveries_single hselected hpos
      simp only [tenantHandler, hend, hlist]
      simp [listDeliveries, Table.empty, newestFirst]
  case getJob =>
    let job := tenantJob (params.headD "") "" .pending
    refine ⟨jobStore job, jobStore_differs job rfl, ?_, fun fresh => ?_⟩
    · exact List.forall_mem_singleton.mpr rfl
    · have hfind : (jobStore job).db.jobs.find? (params.headD "") = some job :=
        Table.find?_single job
      simp only [tenantHandler, hend, jobById, hfind, Table.find?_empty]
      simp [inScope, Option.filter]
  case getApproval =>
    let row := tenantApproval (params.headD "") .pending
    refine ⟨approvalStore row, approvalStore_differs row rfl, ?_, fun fresh => ?_⟩
    · exact List.forall_mem_nil _
    · have hfind : (approvalStore row).db.approvals.find? (params.headD "") = some row :=
        Table.find?_single row
      simp only [tenantHandler, hend, requestById, hfind, Table.find?_empty]
      simp [inScope, Option.filter]
  case getDeliveryByApproval =>
    let row := tenantDelivery (params.headD "") "" .sent
    refine ⟨deliveryStore row, deliveryStore_differs row rfl, ?_, fun fresh => ?_⟩
    · exact List.forall_mem_nil _
    · have hfind : (deliveryStore row).db.emailDeliveries.findUnique?
          (params.headD "") = some row :=
        (Table.findUnique?_eq_some _).mpr ⟨List.mem_singleton.mpr rfl, rfl⟩
      simp only [tenantHandler, hend, getDeliveryByApprovalId, hfind]
      simp [inScope, Option.filter, Table.findUnique?, Table.empty]
  case getDeliveryByJob =>
    let row := tenantDelivery "" (params.headD "") .sent
    refine ⟨deliveryStore row, deliveryStore_differs row rfl, ?_, fun fresh => ?_⟩
    · exact List.forall_mem_nil _
    · have hfind : (deliveryStore row).db.emailDeliveries.rows.find?
          (fun row => row.executionJobId = some (params.headD "")) = some row := by
        simp [deliveryStore, Table.single, row, tenantDelivery]
      simp only [tenantHandler, hend, getDeliveryByExecutionJobId, hfind]
      simp [inScope, Option.filter, Table.empty]
  all_goals cases hunscoped

/-- The empty tables and one row of a tenant are told apart. -/
theorem not_sealed_of_unscoped (hoperator : falsy settings.operatorApiKey)
    (hkey : falsy r.apiKey) (h : r.Unscoped) : ¬ Sealed settings r := by
  obtain ⟨route, params, hroute, hcheck, hguard, hunscoped⟩ := h
  intro hsealed
  obtain ⟨s', hdiffer, hids, htells⟩ :=
    tenantHandler_tells params (mem_routes hroute) hcheck hunscoped
  obtain ⟨newId, hnew⟩ := exists_other (params.headD "")
  let fresh : Fresh := ⟨newId, unset⟩
  have hfresh : fresh.For s' := by
    apply (Table.find?_eq_none _).mpr
    intro job hjob
    rw [hids job hjob]
    exact hnew
  let governed : Governed := fun _ _ _ _ _ => .error 500 ""
  have hsame := hsealed governed fresh {} s' hdiffer (Table.find?_empty newId) hfresh
  rw [respond_tenant governed hoperator hkey hroute hcheck hguard,
    respond_tenant governed hoperator hkey hroute hcheck hguard] at hsame
  exact htells fresh hsame

/-- Outside demo mode a caller without a key learns nothing about the rows of
tenants if and only if the request is not a well-formed one to an unscoped
read. -/
theorem sealed_iff (henv : settings.appEnv ≠ .demo)
    (hoperator : falsy settings.operatorApiKey) (hkey : falsy r.apiKey) :
    Sealed settings r ↔ ¬ r.Unscoped := by
  constructor
  · intro hsealed hunscoped
    exact not_sealed_of_unscoped hoperator hkey hunscoped hsealed
  · intro hscoped governed fresh s s' hdiffer hfresh hfresh'
    rcases dispatch_no_key governed henv hoperator hkey with
      ⟨status, detail, hreply⟩ | ⟨route, params, hroute, hcheck, hhandler⟩
    · rw [hreply, hreply]
    · rcases hhandler with ⟨_, hpublic⟩ | ⟨hguard, htenant⟩
      · rw [hpublic, hpublic, publicHandler_same hdiffer.governance]
      · rw [htenant, htenant]
        apply tenantHandler_same hdiffer.db hfresh hfresh'
        intro hunscoped
        exact hscoped ⟨route, params, hroute, hcheck, hguard, hunscoped⟩

end Responses

section JobsRoute

local instance jobsDeployment : Deployment := Deployment.sqlite

local instance jobsFramework : Framework where
  parseInt _ := none
  checkBody _ _ := .valid
  chatBody _ := ⟨"session", "hello", 8⟩
  unmatched _ := 404

local instance jobsTimestamps : Timestamps := ⟨fun _ => unset⟩

theorem jobsRequest_unscoped : jobsRequest.Unscoped := by
  have hroute : route? jobsRequest = some
      (.get .listJobsApi .jobs [.lit "jobs"] .tenant (.limit 50 200), []) := by
    decide
  exact ⟨_, _, hroute, by decide, rfl, "pending", by decide, rfl⟩

/-- In production a listing of jobs without any key shows the jobs of tenants. -/
theorem jobs_listed_without_key : ¬ ∀ (settings : Settings) (r : HttpRequest),
    settings.appEnv ≠ .demo → falsy settings.operatorApiKey → falsy r.apiKey →
    Sealed settings r := by
  intro hsealed
  have hproduction : Sealed { appEnv := .production } jobsRequest :=
    hsealed _ _ (by decide) rfl rfl
  exact not_sealed_of_unscoped rfl rfl jobsRequest_unscoped hproduction

theorem evidence_sealed_without_key :
    Sealed { appEnv := .production } evidenceRequest := by
  apply (sealed_iff (by decide) rfl rfl).mpr
  rintro ⟨route, params, hroute, _, hguard, _⟩
  rw [evidenceRequest_route] at hroute
  cases hroute
  cases hguard

end JobsRoute

end ControlPlane
