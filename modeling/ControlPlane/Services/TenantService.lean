import ControlPlane.Db.Identity

/-!
`services/tenant_service.py`: API keys and the tenant a key is bound to.
-/

namespace ControlPlane

open Lib

/-- `not value` for a string that may be missing. -/
def falsy (value : Option String) : Bool :=
  value.all fun text => text = ""

namespace TenantService

variable [Deployment]

def hashApiKey (rawKey : String) : String := Deployment.sha256 rawKey

def provisionApiKey (s : Identity) (newId tenantId name rawKey : String)
    (userId : Option String) : Except StoreError (Identity × ApiKey) := do
  let row : ApiKey := {
    id := newId
    tenantId := some tenantId
    userId := userId
    name := name
    keyHash := hashApiKey rawKey
    isActive := true
    lastUsedAt := none }
  let apiKeys ← flushed (s.apiKeys.insert row)
  return ({ s with apiKeys := apiKeys }, row)

/-- The active key with the given fingerprint. -/
def activeKey (s : Identity) (apiKey : String) : Option ApiKey :=
  (s.apiKeys.findUnique? (hashApiKey apiKey)).filter fun row => row.isActive

def resolveTenantId (s : Identity) (now : Datetime) (apiKey : Option String) :
    Except StoreError (Identity × Option String) :=
  match apiKey with
  | none => .ok (s, none)
  | some key =>
      if key = "" then
        .ok (s, none)
      else
        match activeKey s key with
        | none => .error .invalidApiKey
        | some row =>
            .ok ({ s with apiKeys := s.apiKeys.modify row.id fun r =>
              { r with lastUsedAt := some now } }, row.tenantId)

theorem activeKey_eq_some {s : Identity} {apiKey : String} {row : ApiKey} :
    activeKey s apiKey = some row ↔
      row ∈ s.apiKeys.rows ∧ row.keyHash = hashApiKey apiKey ∧ row.isActive := by
  unfold activeKey
  rw [Option.filter_eq_some_iff, Table.findUnique?_eq_some]
  simp [and_assoc]

end TenantService

end ControlPlane
