import ControlPlane.Db.StoreSession
import ControlPlane.Services.EvidenceGraph

/-!
`services/policy_version_service.py`: the registry of policy versions, from a
draft over its activation to the version that supersedes it, and the default
version that every start of the application makes sure of.
-/

namespace ControlPlane

open Lib EvidenceGraph

namespace PolicyVersionService

def defaultPolicyName : String := "ai_vendor_governance"

def getVersion (g : Governance) (versionId : String) (tenantId : Option String) :
    Option GovernancePolicy :=
  ifScoped GovernancePolicy.tenantId tenantId (g.policies.find? versionId)

def listVersions (g : Governance) (tenantId name : Option String) :
    List GovernancePolicy :=
  newestFirst GovernancePolicy.createdAt <| g.policies.rows.filter fun row =>
    inScope tenantId row.tenantId && (name = none || some row.name = name)

/-- Here no tenant means the rows without a tenant. -/
def activeVersions (g : Governance) (tenantId : Option String) (name : String) :
    List GovernancePolicy :=
  g.policies.rows.filter fun row =>
    row.name = name && row.status = "active" && row.tenantId = tenantId

/-- The tenant's active version, or else the system's. -/
def getActive (g : Governance) (tenantId : Option String) (name : String) :
    Option GovernancePolicy :=
  match activeVersions g tenantId name with
  | active :: _ => some active
  | [] => if tenantId.isSome then (activeVersions g none name).head? else none

section

variable [Deployment]

/-- The row a caller holds after a commit is read again. -/
def reloadPolicy (versionId : String) : StoreSession GovernancePolicy := do
  let row ← peek fun S => S.governance.policies.find? versionId
  foundAgain row

/-- A draft version, before it has an id. -/
def draft (tenantId : Option String) (name version : String) (rules : Option Dict)
    (createdBy changeReason : Option String) : GovernancePolicy where
  id := ""
  tenantId := tenantId
  name := name
  version := version
  rulesJson := rules.filter fun fields => !fields.isEmpty
  isActive := false
  status := "draft"
  effectiveFrom := none
  effectiveTo := none
  createdByUserId := createdBy
  approvedByUserId := none
  changeReason := changeReason
  createdAt := unset

def createVersion (tenantId : Option String) (name version : String)
    (rules : Option Dict) (createdBy changeReason : Option String) :
    StoreSession GovernancePolicy := do
  let r ← commitChange
    (.insertPolicy (draft tenantId name version rules createdBy changeReason))
  let row ← reloadPolicy r.newId
  let _ ← recordEvent {
    action := "policy.version.created"
    resourceType := "policy_version"
    resourceId := row.id
    tenantId := tenantId
    actor := createdBy
    metadata := some [("name", .str name), ("version", .str version)] }
  return row

/-- What an activation sets on the version it replaces. -/
def retired (other : GovernancePolicy) (now : Moment) : GovernancePolicy :=
  { other with
    status := "superseded"
    isActive := false
    effectiveTo := some (Deployment.stored (.utc now)) }

def activated (pol : GovernancePolicy) (now : Moment) (approvedBy : Option String) :
    GovernancePolicy :=
  { pol with
    status := "active"
    isActive := true
    effectiveFrom := some (Deployment.stored (.utc now))
    effectiveTo := none
    approvedByUserId :=
      if falsy approvedBy then pol.approvedByUserId else approvedBy }

/-- The rows that one activation updates, as loaded and as set. -/
def activation (pol : GovernancePolicy) (active : List GovernancePolicy)
    (now : Moment) (approvedBy : Option String) :
    List (GovernancePolicy × GovernancePolicy) :=
  ((active.filter fun other => other.id ≠ pol.id).map
    fun other => (other, retired other now)) ++
    [(pol, activated pol now approvedBy)]

/-- What `activate` does after its commit: it reads the row again and records. -/
def announceActivation (versionId : String) (approvedBy : Option String) :
    StoreSession GovernancePolicy := do
  let pol ← reloadPolicy versionId
  let _ ← recordEvent {
    action := "policy.version.activated"
    resourceType := "policy_version"
    resourceId := pol.id
    tenantId := pol.tenantId
    actor := approvedBy
    metadata := some [("name", .str pol.name), ("version", .str pol.version)] }
  return pol

def activate (versionId : String) (approvedBy tenantId : Option String) :
    StoreSession GovernancePolicy := do
  let found ← peek fun S => getVersion S.governance versionId tenantId
  match found with
  | none => throw (.valueError "policy_version_not_found")
  | some pol => do
      let now ← readClock
      let active ← peek fun S => activeVersions S.governance pol.tenantId pol.name
      let _ ← commitChange (.updatePolicies (activation pol active now approvedBy))
      announceActivation pol.id approvedBy

/-- A rollback is the activation of a previous version. -/
def rollbackTo (versionId : String) (approvedBy changeReason tenantId : Option String) :
    StoreSession GovernancePolicy := do
  let found ← peek fun S => getVersion S.governance versionId tenantId
  match found with
  | none => throw (.valueError "policy_version_not_found")
  | some _ => do
      let activated ← activate versionId approvedBy tenantId
      let _ ← recordEvent {
        action := "policy.version.rolled_back"
        resourceType := "policy_version"
        resourceId := activated.id
        tenantId := activated.tenantId
        actor := approvedBy
        metadata := some [("name", .str activated.name),
          ("version", .str activated.version),
          ("change_reason", .ofOption changeReason),
          ("mode", .str "activate_previous")] }
      return activated

def initialVersion : String := "v1"

/-- The rows that `seed_default_policy` selects. -/
def defaultRows (g : Governance) : List GovernancePolicy :=
  g.policies.rows.filter fun row =>
    row.tenantId = none && row.name = defaultPolicyName &&
      row.version = initialVersion

/-- `session.execute(…).scalar_one_or_none()`. -/
def scalarOneOrNone {α : Type} : List α → Except PyErr (Option α)
  | [] => .ok none
  | [row] => .ok (some row)
  | _ => .error (.other "MultipleResultsFound"
      "Multiple rows were found when one or none was required")

def defaultRow (now : Moment) : GovernancePolicy where
  id := ""
  tenantId := none
  name := defaultPolicyName
  version := initialVersion
  rulesJson := none
  isActive := true
  status := "active"
  effectiveFrom := some (Deployment.stored (.utc now))
  effectiveTo := none
  createdByUserId := none
  approvedByUserId := none
  changeReason := some "Initial system default policy version."
  createdAt := unset

/-- The effective start of a version that is made active again: the clock is
read only if it has none. -/
def effectiveStart (existing : GovernancePolicy) : StoreSession (Option Datetime) :=
  match existing.effectiveFrom with
  | some start => return some start
  | none => do
      let now ← readClock
      return some (Deployment.stored (.utc now))

/-- What a start of the application sets on a default version that is not
active. Other versions are left as they are. -/
def reactivated (existing : GovernancePolicy) (start : Option Datetime) :
    GovernancePolicy :=
  { existing with
    status := "active"
    isActive := true
    effectiveFrom := start }

def seedDefaultPolicy : StoreSession GovernancePolicy := do
  let rows ← peek fun S => defaultRows S.governance
  let found ← outcome (scalarOneOrNone rows)
  match found with
  | some existing =>
      if existing.status ≠ "active" then
        let start ← effectiveStart existing
        let _ ← commitChange (.updatePolicies [(existing, reactivated existing start)])
        return reactivated existing start
      else return existing
  | none => do
      let now ← readClock
      let r ← commitChange (.insertPolicy (defaultRow now))
      reloadPolicy r.newId

end

end PolicyVersionService

end ControlPlane
