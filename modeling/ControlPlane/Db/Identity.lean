import ControlPlane.Db.Models

/-!
The tables of `db/models.py` behind credentials: users, roles, permissions,
their assignments and API keys. Descriptions and creation times are left out;
no modelled function reads them.
-/

namespace ControlPlane

open Lib

structure User where
  id : String
  tenantId : Option String
  email : String
  displayName : Option String
  isActive : Bool
  deriving DecidableEq, Repr

structure Role where
  id : String
  tenantId : Option String
  name : String
  isSystem : Bool
  deriving DecidableEq, Repr

structure Permission where
  id : String
  name : String
  deriving DecidableEq, Repr

structure UserRole where
  id : String
  tenantId : Option String
  userId : String
  roleId : String
  deriving DecidableEq, Repr

structure RolePermission where
  id : String
  roleId : String
  permissionId : String
  deriving DecidableEq, Repr

structure ApiKey where
  id : String
  tenantId : Option String
  userId : Option String
  name : String
  keyHash : String
  isActive : Bool
  lastUsedAt : Option Datetime
  deriving DecidableEq, Repr

/-- The columns of `uq_user_tenant_email`. -/
def User.tenantEmail (row : User) : Option (String × String) :=
  row.tenantId.map fun t => (t, row.email)

/-- The columns of `uq_role_tenant_name`; no constraint holds between the system
roles, whose tenant is NULL. -/
def Role.tenantName (row : Role) : Option (String × String) :=
  row.tenantId.map fun t => (t, row.name)

abbrev UserTable := Table User String (String × String) User.id User.tenantEmail

abbrev RoleTable := Table Role String (String × String) Role.id Role.tenantName

abbrev PermissionTable :=
  Table Permission String String Permission.id fun row => some row.name

abbrev UserRoleTable := Table UserRole String (String × String) UserRole.id
  fun row => some (row.userId, row.roleId)

abbrev RolePermissionTable :=
  Table RolePermission String (String × String) RolePermission.id
    fun row => some (row.roleId, row.permissionId)

abbrev ApiKeyTable := Table ApiKey String String ApiKey.id
  fun row => some row.keyHash

structure Identity where
  users : UserTable := Table.empty
  roles : RoleTable := Table.empty
  permissions : PermissionTable := Table.empty
  userRoles : UserRoleTable := Table.empty
  rolePermissions : RolePermissionTable := Table.empty
  apiKeys : ApiKeyTable := Table.empty

/-- What the functions over these tables raise. -/
inductive StoreError where
  | integrityError
  | noResultFound
  | multipleResultsFound
  | invalidApiKey
  | keyError
  deriving DecidableEq, Repr

/-- `scalar_one_or_none()`. -/
def scalarOneOrNone {α : Type} : List α → Except StoreError (Option α)
  | [] => .ok none
  | [row] => .ok (some row)
  | _ => .error .multipleResultsFound

/-- `scalar_one()`. -/
def scalarOne {α : Type} : List α → Except StoreError α
  | [] => .error .noResultFound
  | [row] => .ok row
  | _ => .error .multipleResultsFound

/-- The flush of an INSERT. -/
def flushed {α : Type} : Option α → Except StoreError α
  | some a => .ok a
  | none => .error .integrityError

section Results

variable {α β : Type}

theorem flushed_eq_ok {x : Option α} {a : α} : flushed x = .ok a ↔ x = some a := by
  cases x <;> simp [flushed]

theorem scalarOne_eq_ok {rows : List α} {a : α} :
    scalarOne rows = .ok a ↔ rows = [a] := by
  unfold scalarOne
  split <;> simp_all

theorem scalarOneOrNone_eq_none {rows : List α} :
    scalarOneOrNone rows = .ok none ↔ rows = [] := by
  unfold scalarOneOrNone
  split <;> simp_all

theorem scalarOneOrNone_eq_some {rows : List α} {a : α} :
    scalarOneOrNone rows = .ok (some a) ↔ rows = [a] := by
  unfold scalarOneOrNone
  split <;> simp_all

theorem bind_eq_ok {x : Except StoreError α} {f : α → Except StoreError β}
    {b : β} : x >>= f = .ok b ↔ ∃ a, x = .ok a ∧ f a = .ok b := by
  cases x with
  | error e => simp [bind, Except.bind]
  | ok a => simp [bind, Except.bind]

theorem map_eq_ok {x : Except StoreError α} {f : α → β} {b : β} :
    x.map f = .ok b ↔ ∃ a, x = .ok a ∧ f a = b := by
  cases x <;> simp [Except.map]

end Results

end ControlPlane
