import ControlPlane.Services.IncidentReplay

/-!
`services/override_service.py`: a recorded human authorization of a governed
action of medium or high risk.
-/

namespace ControlPlane

open Lib EvidenceGraph

namespace OverrideService

def overridableRisk : List String := ["medium", "high"]

/-- `_action_risk_level`: `(meta.get("risk") or {}).get("level")`. -/
def actionRiskLevel (action : GovernedAction) : Except PyErr Json :=
  match action.metadataJson with
  | none => return .null
  | some fields =>
      match fields.get? "risk" with
      | none => return .null
      | some risk =>
          if Json.truthy (some risk) then Json.getField risk "level" else return .null

/-- `(level or "") in OVERRIDABLE_RISK`. -/
def overridable (level : Json) : Bool :=
  overridableRisk.any fun name => level = .str name

/-- The arguments of `create_override` besides the tenant and the action. -/
structure Authorization where
  overriddenBy : Option String
  reason : String
  authorityBasis : String
  compensatingControl : String
  acceptedRisk : Option String
  expiration : Option Datetime

/-- `accepted_risk or _action_risk_level(action)`, for an overridable level. -/
def acceptedRisk (a : Authorization) (level : Json) : Option String :=
  if falsy a.acceptedRisk then
    match level with
    | .str name => some name
    | _ => none
  else a.acceptedRisk

def overrideRow (tenantId : Option String) (governedActionId : String)
    (a : Authorization) (level : Json) : ActionOverride where
  id := ""
  tenantId := tenantId
  governedActionId := governedActionId
  overriddenByUserId := a.overriddenBy
  reason := a.reason
  authorityBasis := a.authorityBasis
  acceptedRisk := acceptedRisk a level
  compensatingControl := a.compensatingControl
  expiration := a.expiration
  status := overrideRecorded

def createOverride [Deployment] (tenantId : Option String) (governedActionId : String)
    (a : Authorization) : StoreSession ActionOverride := do
  let found ← peek fun S => getGovernedAction S.governance governedActionId tenantId
  match found with
  | none => throw (.valueError "governed_action_not_found")
  | some action => do
      let level ← outcome (actionRiskLevel action)
      if !overridable level then throw (.valueError "override_not_applicable")
      else do
        let r ← commitChange
          (.insertOverride (overrideRow tenantId governedActionId a level))
        let found ← peek fun S => S.governance.overrides.find? r.newId
        let row ← foundAgain found
        let _ ← recordEvent {
          action := "governed_action.overridden"
          resourceType := "governed_action"
          resourceId := governedActionId
          tenantId := tenantId
          actor := a.overriddenBy
          metadata := some [
            ("override_id", .str row.id),
            ("accepted_risk", .ofOption (acceptedRisk a level)),
            ("authority_basis", .str a.authorityBasis),
            ("compensating_control", .str a.compensatingControl),
            ("expiration", .ofOption (a.expiration.map Datetime.isoformat)),
            ("note", .str "recorded authorization; does not execute the action")] }
        return row

end OverrideService

end ControlPlane
