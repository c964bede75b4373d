import ControlPlane.Access.KeyPermissions
import ControlPlane.App.Routes

/-!
The operator key. The middleware asks for it under four path prefixes; six
further routers serve operators as well and are mounted elsewhere. There the
key is never looked at, and the demo mode lets a caller without an API key in
as the operator.
-/

namespace ControlPlane

open Lib RbacService OperatorAuthMiddleware

/-- A handler of an operator-facing router runs for a caller who is the operator
by bypass, or who is bound to no tenant. -/
def Dispatch.Bypasses : Dispatch → Prop
  | .handler route _ caller => route.router.operatorFacing ∧
      match caller with
      | .anyone => False
      | .tenant tenantId => tenantId = none
      | .principal p => p.isOperator ∨ p.tenantId = none
  | .replied _ _ => False

/-- The request is refused for lack of credentials. -/
def Dispatch.Refused : Dispatch → Prop
  | .replied status _ => status = 401 ∨ status = 403
  | .handler _ _ _ => False

/-- The guard lets a caller without an API key pass. -/
def Guard.Open (settings : Settings) : Guard → Prop
  | .permission _ => settings.appEnv = .demo ∧ ¬ settings.requireRbacForOperator
  | _ => True

/-- Well-formed, without an API key, for an operator route that is open to such
a caller. -/
def HttpRequest.Keyless [Framework] (settings : Settings) (r : HttpRequest) :
    Prop :=
  falsy r.apiKey ∧ ∃ route params, route? r = some (route, params) ∧
    route.router.operatorFacing ∧ route.check r = .valid ∧
    route.guard.Open settings

/-- Such a request whose path lies outside what the middleware protects. -/
def HttpRequest.Escapes [Framework] (settings : Settings) (r : HttpRequest) :
    Prop :=
  ¬ isProtected r.urlPath ∧ r.Keyless settings

/-- Every route of an operator-facing router has a guard. -/
theorem guarded_of_operatorFacing : ∀ route ∈ routes,
    route.router.operatorFacing → route.guard ≠ .none := by
  decide

theorem mem_routes {r : HttpRequest} {route : Route} {params : List String}
    (h : route? r = some (route, params)) : route ∈ routes := by
  obtain ⟨route', hmem, hmatch⟩ := List.exists_of_findSome?_eq_some h
  split at hmatch
  · obtain ⟨params', _, heq⟩ := Option.map_eq_some_iff.mp hmatch
    cases heq
    exact hmem
  · cases hmatch

section Guards

variable [Deployment] {settings : Settings} {s s' : Identity} {now : Datetime}
  {apiKey : Option String} {caller : Caller}

/-- Every key of the table is bound to a tenant. -/
def KeysBound (s : Identity) : Prop :=
  ∀ key ∈ s.apiKeys.rows, key.tenantId ≠ none

theorem resolveTenantId_none (hkeys : KeysBound s)
    (h : TenantService.resolveTenantId s now apiKey = .ok (s', none)) :
    falsy apiKey := by
  cases apiKey with
  | none => rfl
  | some raw =>
      by_cases hraw : raw = ""
      · simp [falsy, hraw]
      · simp only [TenantService.resolveTenantId, hraw, if_false] at h
        cases hkey : TenantService.activeKey s raw with
        | none =>
            rw [hkey] at h
            cases h
        | some row =>
            simp only [hkey] at h
            have hrow := (TenantService.activeKey_eq_some.mp hkey).1
            have htenant : row.tenantId = none :=
              congrArg Prod.snd (Except.ok.inj h)
            exact absurd htenant (hkeys row hrow)

/-- Provisioning binds every key to a tenant. -/
theorem KeysBound.step {op : Operation} (h : KeysBound s)
    (happly : op.apply s = .ok s') : KeysBound s' := by
  cases op with
  | seedRbac newId =>
      obtain ⟨_, _, _, hkeys⟩ := seedRbac_spec happly
      intro key hmem
      rw [hkeys] at hmem
      exact h key hmem
  | provisionUser =>
      obtain ⟨users, rfl, _⟩ := provisionUser_rows happly
      exact h
  | assignRole =>
      obtain ⟨role, userRoles, _, rfl, _⟩ := assignRole_rows happly
      exact h
  | provisionApiKey =>
      obtain ⟨apiKeys, rfl, hrows⟩ := provisionApiKey_rows happly
      intro key hmem
      rw [hrows, List.mem_append, List.mem_singleton] at hmem
      rcases hmem with hmem | rfl
      · exact h key hmem
      · exact Option.some_ne_none _
  | deactivateUser =>
      cases happly
      exact h
  | deactivateApiKey =>
      cases happly
      intro key hmem
      simp only [Table.mem_modify] at hmem
      obtain ⟨key₀, hmem₀, hkey⟩ := hmem
      have hbound := h key₀ hmem₀
      split at hkey <;> (subst hkey; exact hbound)

theorem keysBound_run (ops : List Operation) :
    KeysBound (runOperations {} ops) := by
  apply run_invariant _ KeysBound.step ops
  intro key hmem
  cases hmem

/-- A principal without a tenant presented no key. -/
theorem resolvePrincipal_unscoped {principal : Principal} (hkeys : KeysBound s)
    (h : resolvePrincipal settings s apiKey = .ok principal)
    (hunscoped : principal.isOperator ∨ principal.tenantId = none) :
    falsy apiKey := by
  unfold resolvePrincipal at h
  split at h
  · next hfalsy => exact hfalsy
  · split at h
    · cases h
    · next row hkey =>
        have hrow := (TenantService.activeKey_eq_some.mp hkey).1
        have htenant := hkeys row hrow
        split at h
        all_goals
          cases h
          rcases hunscoped with hoperator | hnone
          · cases hoperator
          · exact absurd hnone htenant

theorem resolvePrincipal_no_key (hfalsy : falsy apiKey) :
    resolvePrincipal settings s apiKey = .ok ⟨none, none, [],
      settings.appEnv = .demo && !settings.requireRbacForOperator⟩ := by
  simp [resolvePrincipal, hfalsy]

theorem resolveTenantId_no_key (hfalsy : falsy apiKey) :
    TenantService.resolveTenantId s now apiKey = .ok (s, none) := by
  cases apiKey with
  | none => rfl
  | some raw =>
      have hraw : raw = "" := by simpa [falsy] using hfalsy
      simp [TenantService.resolveTenantId, hraw]

/-- What a guard makes of a caller is a bypass only without a key. -/
theorem bypasses_of_resolve {guard : Guard} {route : Route} {params : List String}
    (hkeys : KeysBound s)
    (hresolve : guard.resolve settings s now apiKey = .ok (caller, s'))
    (hbypass : (Dispatch.handler route params caller).Bypasses) :
    falsy apiKey ∧ guard.Open settings := by
  obtain ⟨_, hcaller⟩ := hbypass
  cases guard with
  | none =>
      cases hresolve
      cases hcaller
  | tenant =>
      simp only [Guard.resolve] at hresolve
      split at hresolve
      · cases hresolve
      · next s₁ tenantId hok =>
          cases hresolve
          cases hcaller
          exact ⟨resolveTenantId_none hkeys hok, trivial⟩
  | permission name =>
      simp only [Guard.resolve] at hresolve
      split at hresolve
      · cases hresolve
      · next principal hok =>
          split at hresolve
          · next hhas =>
              cases hresolve
              have hfalsy := resolvePrincipal_unscoped hkeys hok hcaller
              rw [resolvePrincipal_no_key hfalsy] at hok
              cases hok
              refine ⟨hfalsy, ?_⟩
              simpa [Principal.has, Guard.Open] using hhas
          · cases hresolve

/-- Without a key an open guard lets the caller in unscoped. -/
theorem resolve_open (s : Identity) (now : Datetime) {guard : Guard} (hguard : guard ≠ .none)
    (hfalsy : falsy apiKey) (hopen : guard.Open settings) :
    ∃ caller, guard.resolve settings s now apiKey = .ok (caller, s) ∧
      ∀ (route : Route) (params : List String), route.router.operatorFacing →
        (Dispatch.handler route params caller).Bypasses := by
  cases guard with
  | none => exact absurd rfl hguard
  | tenant =>
      refine ⟨.tenant none, ?_, fun _ _ hrouter => ⟨hrouter, rfl⟩⟩
      simp [Guard.resolve, resolveTenantId_no_key hfalsy]
  | permission name =>
      obtain ⟨hdemo, hrbac⟩ := hopen
      refine ⟨.principal ⟨none, none, [], true⟩, ?_,
        fun _ _ hrouter => ⟨hrouter, Or.inl rfl⟩⟩
      simp [Guard.resolve, resolvePrincipal_no_key hfalsy, hdemo, hrbac,
        Principal.has]

end Guards

section Enforcement

variable [Deployment] [Framework] {settings : Settings} {s : Identity}
  {now : Datetime} {r : HttpRequest}

/-- Behind the middleware, exactly the keyless requests are a bypass. -/
theorem callNext_bypasses_iff (hkeys : KeysBound s) :
    (callNext settings s now r).1.Bypasses ↔ r.Keyless settings := by
  constructor
  · intro hbypass
    unfold callNext at hbypass
    split at hbypass
    · cases hbypass
    · next route params hroute =>
        split at hbypass
        · cases hbypass
        · split at hbypass
          · cases hbypass
          · next caller s' hresolve =>
              split at hbypass
              · next hvalid =>
                  obtain ⟨hfalsy, hopen⟩ :=
                    bypasses_of_resolve hkeys hresolve hbypass
                  exact ⟨hfalsy, route, params, hroute, hbypass.1, hvalid, hopen⟩
              · cases hbypass
  · rintro ⟨hfalsy, route, params, hroute, hrouter, hvalid, hopen⟩
    have hguard := guarded_of_operatorFacing route (mem_routes hroute) hrouter
    obtain ⟨caller, hresolve, hbypass⟩ := resolve_open s now hguard hfalsy hopen
    simp only [callNext, hroute, hvalid, hresolve]
    exact hbypass route params hrouter

/-- The request does not reach an operator route as the operator or unscoped; if
it would have, it is refused instead. -/
def Enforced (settings : Settings) (s : Identity) (now : Datetime)
    (r : HttpRequest) : Prop :=
  ¬ (dispatch settings s now r).1.Bypasses ∧
    ((callNext settings s now r).1.Bypasses → (dispatch settings s now r).1.Refused)

theorem enforced_of_keysBound (hkeys : KeysBound s)
    (hset : falsy settings.operatorApiKey = false)
    (hlacks : r.header operatorKeyHeader ≠ settings.operatorApiKey) :
    Enforced settings s now r ↔ ¬ r.Escapes settings := by
  by_cases hprotected : isProtected r.urlPath
  · have hdispatch : dispatch settings s now r =
        (.replied 401 "operator_key_required", s) := by
      simp [dispatch, hset, hprotected, hlacks]
    constructor
    · rintro _ ⟨hescapes, _⟩
      exact hescapes hprotected
    · intro _
      rw [Enforced, hdispatch]
      exact ⟨fun hbypass => hbypass, fun _ => Or.inl rfl⟩
  · have hdispatch : dispatch settings s now r = callNext settings s now r := by
      simp [dispatch, hset, hprotected]
    rw [Enforced, hdispatch, callNext_bypasses_iff hkeys]
    constructor
    · rintro ⟨hkeyless, _⟩ ⟨_, hescapes⟩
      exact hkeyless hescapes
    · intro hescapes
      have hkeyless : ¬ r.Keyless settings := fun h => hescapes ⟨hprotected, h⟩
      exact ⟨hkeyless, fun h => absurd h hkeyless⟩

/-- With a configured operator key, a request that lacks it is kept from the operator routes if
and only if it does not escape the middleware. This holds after every provisioning run: the API
keys that exist, and what they may do, make no difference. -/
theorem operator_key_enforced_iff (ops : List Operation) {key : String}
    (hset : settings.operatorApiKey = some key) (hkey : key ≠ "")
    (hlacks : r.header operatorKeyHeader ≠ some key) :
    Enforced settings (runOperations {} ops) now r ↔ ¬ r.Escapes settings := by
  apply enforced_of_keysBound (keysBound_run ops)
  · simp [hset, falsy, hkey]
  · rw [hset]
    exact hlacks

end Enforcement

/-- Between slashes, a path that starts with `/m` and one that starts with `/q`
share a mount only if `m` and `q` are the same. -/
theorem startsAt_iff {m q rest : List Char} (hm : '/' ∉ m) (hq : '/' ∉ q)
    (hrest : rest = [] ∨ ∃ more, rest = '/' :: more) :
    (m ++ rest = q ∨ q ++ ['/'] <+: m ++ rest) ↔ m = q := by
  induction m generalizing q with
  | nil =>
      cases q with
      | nil => rcases hrest with rfl | ⟨more, rfl⟩ <;> simp
      | cons c q =>
          rcases hrest with rfl | ⟨more, rfl⟩
          · simp
          · have hc : c ≠ '/' := fun h => hq (h ▸ List.mem_cons_self)
            simp [hc, hc.symm]
  | cons d m ih =>
      have hd : d ≠ '/' := fun h => hm (h ▸ List.mem_cons_self)
      have hm' : '/' ∉ m := fun h => hm (List.mem_cons_of_mem _ h)
      cases q with
      | nil => simp [hd.symm]
      | cons c q =>
          have hq' : '/' ∉ q := fun h => hq (List.mem_cons_of_mem _ h)
          have hrec := ih hm' hq'
          simp only [List.cons_append, List.cons.injEq, List.cons_prefix_cons]
          rw [← hrec]
          tauto

theorem toList_of_segments {path : String} {part : List Char}
    {parts : List (List Char)} (h : segments path = [] :: part :: parts) :
    ∃ rest, path.toList = '/' :: part ++ rest ∧
      (rest = [] ∨ ∃ more, rest = '/' :: more) := by
  have hpath : ['/'].intercalate ([] :: part :: parts) = path.toList := by
    rw [← h]
    exact List.intercalate_splitOn '/'
  cases parts with
  | nil => exact ⟨[], by rw [← hpath]; simp [List.intercalate], Or.inl rfl⟩
  | cons next parts =>
      refine ⟨'/' :: ['/'].intercalate (next :: parts), ?_, Or.inr ⟨_, rfl⟩⟩
      rw [← hpath]
      simp [List.intercalate]

theorem part_of_match {text : String} {pattern : List Segment}
    {part : List Char} {parts : List (List Char)} {params : List String}
    (h : matchSegments (.lit text :: pattern) (part :: parts) = some params) :
    part = text.toList ∨ part = text.toList ++ ['\n'] := by
  unfold matchSegments at h
  split at h
  · next heq _ => cases heq
  · next heq heq' =>
      cases heq
      cases heq'
      split at h
      · next hpart => exact hpart
      · cases h
  · next heq heq' =>
      cases heq
      cases heq'
      split at h
      · next hpart => exact Or.inl hpart
      · cases h
  · next heq _ => cases heq
  · cases h

/-- A route whose pattern starts with `mount`. -/
def Route.MountedAt (route : Route) (mount : String) : Prop :=
  route.pattern.head? = some (.lit mount)

instance (route : Route) (mount : String) : Decidable (route.MountedAt mount) :=
  inferInstanceAs (Decidable (_ = _))

/-- A matched path starts with the mount of the route. -/
theorem toList_of_matches {route : Route} {path mount : String}
    {params : List String} (hmount : route.MountedAt mount)
    (hline : '\n' ∉ path.toList) (h : route.matches path = some params) :
    ∃ rest, path.toList = '/' :: mount.toList ++ rest ∧
      (rest = [] ∨ ∃ more, rest = '/' :: more) := by
  unfold Route.matches at h
  split at h
  · next parts hsegments =>
      obtain ⟨pattern, hpattern⟩ : ∃ pattern, route.pattern = .lit mount :: pattern := by
        cases hp : route.pattern with
        | nil => simp [Route.MountedAt, hp] at hmount
        | cons segment pattern =>
            simp only [Route.MountedAt, hp, List.head?_cons, Option.some.injEq] at hmount
            exact ⟨pattern, by rw [hmount]⟩
      rw [hpattern] at h
      cases parts with
      | nil => cases pattern <;> simp [matchSegments] at h
      | cons part parts =>
          obtain ⟨rest, hpath, hrest⟩ := toList_of_segments hsegments
          have hpart : part = mount.toList := by
            have hnewline : part ≠ mount.toList ++ ['\n'] := by
              rintro rfl
              apply hline
              rw [hpath]
              simp
            exact (part_of_match h).resolve_right hnewline
          rw [hpart] at hpath
          exact ⟨rest, hpath, hrest⟩
  · cases h

/-- The path of a request under `mount` is protected if and only if `mount` is
one of the four. -/
theorem isProtected_iff {mount path : String} {rest : List Char}
    (hmount : '/' ∉ mount.toList) (hpath : path.toList = '/' :: mount.toList ++ rest)
    (hrest : rest = [] ∨ ∃ more, rest = '/' :: more) :
    isProtected path ↔ mount ∈ ["jobs", "approvals", "audit", "email"] := by
  have hlist : ∀ q : String, '/' ∉ q.toList →
      ((path.toList = '/' :: q.toList ∨ ('/' :: q.toList ++ ['/']) <+: path.toList) ↔
        mount = q) := by
    intro q hq
    rw [hpath, ← String.toList_inj, ← startsAt_iff hmount hq hrest]
    simp
  simp only [isProtected, protectedPrefixes, List.any_cons, List.any_nil,
    Bool.or_false, Bool.or_eq_true, decide_eq_true_eq, List.isPrefixOf_iff_prefix]
  have hjobs := hlist "jobs" (by decide)
  have happrovals := hlist "approvals" (by decide)
  have haudit := hlist "audit" (by decide)
  have hemail := hlist "email" (by decide)
  simp only [List.mem_cons, List.not_mem_nil, or_false]
  rw [← hjobs, ← happrovals, ← haudit, ← hemail]
  have hslash : "/jobs".toList = '/' :: "jobs".toList ∧
      "/approvals".toList = '/' :: "approvals".toList ∧
      "/audit".toList = '/' :: "audit".toList ∧
      "/email".toList = '/' :: "email".toList := by
    decide
  rw [hslash.1, hslash.2.1, hslash.2.2.1, hslash.2.2.2]

/-- The mount of each operator-facing route is the name of its router. -/
theorem mount_of_operatorFacing : ∀ route ∈ routes, route.router.operatorFacing →
    ∃ mount ∈ ["jobs", "approvals", "audit", "email", "evidence", "workflows",
      "policies", "incidents", "trust", "verification"],
    route.MountedAt mount ∧ '/' ∉ mount.toList ∧
    (mount ∈ ["jobs", "approvals", "audit", "email"] ↔
      route.router ∈ [Router.jobs, .approvals, .audit, .email]) := by
  decide

/-- Of the ten operator-facing routers the middleware protects four: a request to an operator
route is protected if and only if the route belongs to the jobs, approvals, audit or email
router, whatever its path parameters are. The path has no line break, and the middleware reads
it as it is routed. -/
theorem isProtected_iff_router {r : HttpRequest} {route : Route}
    {params : List String} (hsame : r.urlPath = r.path) (hline : '\n' ∉ r.path.toList)
    (h : route? r = some (route, params)) (hrouter : route.router.operatorFacing) :
    isProtected r.urlPath ↔
      route.router ∈ [Router.jobs, .approvals, .audit, .email] := by
  obtain ⟨mount, _, hmount, hslash, hiff⟩ :=
    mount_of_operatorFacing route (mem_routes h) hrouter
  have hmatches : route.matches r.path = some params := by
    obtain ⟨route', _, hmatch⟩ := List.exists_of_findSome?_eq_some h
    split at hmatch
    · obtain ⟨params', hparams, heq⟩ := Option.map_eq_some_iff.mp hmatch
      cases heq
      exact hparams
    · cases hmatch
  obtain ⟨rest, hpath, hrest⟩ := toList_of_matches hmount hline hmatches
  rw [hsame, isProtected_iff hslash hpath hrest, hiff]

section EvidenceRoute

local instance routeDeployment : Deployment := Deployment.sqlite

local instance trustingFramework : Framework where
  parseInt _ := none
  checkBody _ _ := .valid
  chatBody _ := ⟨"session", "hello", 8⟩
  unmatched _ := 404

/-- A listing of governed actions without any credential. -/
def evidenceRequest : HttpRequest := {
  method := "GET"
  path := "/evidence/actions"
  urlPath := "/evidence/actions"
  headers := [("host", "localhost")]
  query := []
  body := "" }

def epoch : Datetime := .naive (.utc ⟨1970, 0, by decide, by decide, microsPerDay_pos⟩)

theorem evidenceRequest_route : route? evidenceRequest = some (.get .listActions .evidence
    [.lit "evidence", .lit "actions"] (.permission "view_audit"), []) := by
  decide

theorem evidenceRequest_escapes :
    evidenceRequest.Escapes { operatorApiKey := some "operator" } := by
  have hunprotected : ¬ isProtected evidenceRequest.urlPath := by decide
  exact ⟨hunprotected, rfl, _, _, evidenceRequest_route, rfl, rfl, rfl, Bool.false_ne_true⟩

theorem evidence_unprotected : ¬ isProtected evidenceRequest.urlPath := by
  have hiff := isProtected_iff_router rfl (by decide) evidenceRequest_route rfl
  exact hiff.not.mpr (by decide)

/-- The operator key is configured and missing, and the handler still runs. -/
theorem evidence_route_bypasses :
    ¬ ∀ (settings : Settings) (ops : List Operation) (now : Datetime)
      (r : HttpRequest) (key : String), settings.operatorApiKey = some key →
      key ≠ "" → r.header operatorKeyHeader ≠ some key →
      Enforced settings (runOperations {} ops) now r := by
  intro henforced
  have h := henforced { operatorApiKey := some "operator" } [] epoch
    evidenceRequest "operator" rfl (by decide) (by decide)
  have hnever := (enforced_of_keysBound (keysBound_run [])
    (by decide) (by decide +kernel)).mp h
  exact hnever evidenceRequest_escapes

/-- A listing of jobs, which the middleware covers. -/
def jobsRequest : HttpRequest := { evidenceRequest with
  path := "/jobs"
  urlPath := "/jobs" }

theorem operator_key_enforced_on_jobs :
    Enforced { operatorApiKey := some "operator" } (runOperations {} []) epoch
      jobsRequest := by
  have hprotected : isProtected jobsRequest.urlPath := by decide
  apply (operator_key_enforced_iff [] rfl (by decide) (by decide)).mpr
  exact fun hescapes => hescapes.1 hprotected

end EvidenceRoute

end ControlPlane
