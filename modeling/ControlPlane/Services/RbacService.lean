import ControlPlane.App.Config
import ControlPlane.Services.TenantService

/-!
`services/rbac_service.py`: the permission catalogue, its seeding, provisioning,
and the principal a credential resolves to. An id that SQLAlchemy draws is an
argument here; the seed draws one for each row it adds.
-/

namespace ControlPlane

open Lib

namespace RbacService

/-- `db.governance_seed.PERMISSION_NAMES`. -/
def permissionNames : List String := [
  "create_governed_action",
  "approve_action",
  "reject_action",
  "execute_approved_action",
  "view_audit",
  "export_evidence",
  "manage_policies",
  "manage_controls",
  "manage_users",
  "override_high_risk_action"]

/-- `ROLE_PERMISSIONS`. The source has sets of permissions, whose order of
iteration is not fixed. -/
def rolePermissions : List (String × List String) := [
  ("Owner", permissionNames),
  ("Admin", permissionNames.filter fun name => name ≠ "manage_users"),
  ("Compliance Officer", ["approve_action", "reject_action", "view_audit",
    "export_evidence", "manage_controls", "manage_policies",
    "override_high_risk_action"]),
  ("Auditor", ["view_audit", "export_evidence"]),
  ("Operator", ["create_governed_action", "execute_approved_action", "view_audit"]),
  ("Reviewer", ["approve_action", "reject_action", "view_audit"]),
  ("Viewer", ["view_audit"])]

structure Principal where
  tenantId : Option String
  userId : Option String
  permissions : List String
  isOperator : Bool
  deriving DecidableEq, Repr

def Principal.has (p : Principal) (permission : String) : Bool :=
  p.isOperator || p.permissions.contains permission

/-- The session of a seed: the rows so far, and how many ids were drawn. -/
structure Seeding where
  rows : Identity
  drawn : Nat

section Seed

variable (newId : Nat → String)

/-- One round of the first loop. -/
def seedPermission (name : String) (s : Seeding) :
    Except StoreError (Permission × Seeding) :=
  match s.rows.permissions.findUnique? name with
  | some perm => .ok (perm, s)
  | none => do
      let perm : Permission := { id := newId s.drawn, name := name }
      let permissions ← flushed (s.rows.permissions.insert perm)
      return (perm, {
        rows := { s.rows with permissions := permissions }
        drawn := s.drawn + 1 })

/-- The first loop; its result is the dictionary `perms`. -/
def seedPermissions : List String → Seeding →
    Except StoreError (List (String × Permission) × Seeding)
  | [], s => .ok ([], s)
  | name :: names, s => do
      let (perm, s) ← seedPermission newId name s
      let (perms, s) ← seedPermissions names s
      return ((name, perm) :: perms, s)

def systemRoles (s : Identity) (name : String) : List Role :=
  s.roles.rows.filter fun role => role.tenantId = none ∧ role.name = name

def seedRole (name : String) (s : Seeding) :
    Except StoreError (Role × Seeding) := do
  match ← scalarOneOrNone (systemRoles s.rows name) with
  | some role => return (role, s)
  | none => do
      let role : Role := {
        id := newId s.drawn
        tenantId := none
        name := name
        isSystem := true }
      let roles ← flushed (s.rows.roles.insert role)
      return (role, {
        rows := { s.rows with roles := roles }
        drawn := s.drawn + 1 })

def seedLink (roleId permissionId : String) (s : Seeding) :
    Except StoreError Seeding :=
  match s.rows.rolePermissions.findUnique? (roleId, permissionId) with
  | some _ => .ok s
  | none => do
      let link : RolePermission := {
        id := newId s.drawn
        roleId := roleId
        permissionId := permissionId }
      let links ← flushed (s.rows.rolePermissions.insert link)
      return {
        rows := { s.rows with rolePermissions := links }
        drawn := s.drawn + 1 }

/-- The inner loop over the permissions of one role. -/
def seedLinks (perms : List (String × Permission)) (roleId : String) :
    List String → Seeding → Except StoreError Seeding
  | [], s => .ok s
  | name :: names, s =>
      match perms.lookup name with
      | none => .error .keyError
      | some perm => do
          let s ← seedLink newId roleId perm.id s
          seedLinks perms roleId names s

def seedRoles (perms : List (String × Permission)) :
    List (String × List String) → Seeding → Except StoreError Seeding
  | [], s => .ok s
  | (name, permNames) :: roles, s => do
      let (role, s) ← seedRole newId name s
      let s ← seedLinks newId perms role.id permNames s
      seedRoles perms roles s

/-- `seed_rbac`; its rows become visible with the commit at the end. -/
def seedRbac (s : Identity) : Except StoreError Identity := do
  let (perms, s) ← seedPermissions newId permissionNames ⟨s, 0⟩
  let s ← seedRoles newId perms rolePermissions s
  return s.rows

end Seed

def provisionUser (s : Identity) (newId tenantId email : String)
    (displayName : Option String) : Except StoreError (Identity × User) := do
  let user : User := {
    id := newId
    tenantId := some tenantId
    email := email
    displayName := displayName
    isActive := true }
  let users ← flushed (s.users.insert user)
  return ({ s with users := users }, user)

def assignRole (s : Identity) (newId userId roleName : String)
    (tenantId : Option String) : Except StoreError (Identity × UserRole) := do
  let role ← scalarOne (systemRoles s roleName)
  let link : UserRole := {
    id := newId
    tenantId := tenantId
    userId := userId
    roleId := role.id }
  let userRoles ← flushed (s.userRoles.insert link)
  return ({ s with userRoles := userRoles }, link)

/-- The permissions linked to a role. -/
def permissionsOfRole (s : Identity) (roleId : String) : List String :=
  (s.rolePermissions.rows.filter fun link => link.roleId = roleId).flatMap
    fun link => (s.permissions.rows.filter fun perm =>
      perm.id = link.permissionId).map Permission.name

def permissionsForUser (s : Identity) (userId : String) : List String :=
  (s.userRoles.rows.filter fun link => link.userId = userId).flatMap
    fun link => permissionsOfRole s link.roleId

variable [Deployment]

def resolvePrincipal (settings : Settings) (s : Identity)
    (apiKey : Option String) : Except StoreError Principal :=
  if falsy apiKey then
    .ok {
      tenantId := none
      userId := none
      permissions := []
      isOperator := settings.appEnv = .demo && !settings.requireRbacForOperator }
  else
    match TenantService.activeKey s (apiKey.getD "") with
    | none => .error .invalidApiKey
    | some row =>
        match row.userId with
        | none => .ok {
            tenantId := row.tenantId
            userId := none
            permissions := []
            isOperator := false }
        | some userId => .ok {
            tenantId := row.tenantId
            userId := some userId
            permissions := permissionsForUser s userId
            isOperator := false }

end RbacService

end ControlPlane
