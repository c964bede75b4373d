import ControlPlane.Db.Models

/-!
The settings of `app/config.py` that the modelled code reads.
-/

namespace ControlPlane

inductive AppEnv where
  | demo
  | staging
  | production
  deriving DecidableEq, Repr

structure Settings where
  operatorApiKey : Option String := none
  requireRbacForOperator : Bool := false
  appEnv : AppEnv := .demo
  evidencePacketTtlDays : Int := 365
  deriving DecidableEq, Repr

end ControlPlane
