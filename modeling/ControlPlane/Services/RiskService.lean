import ControlPlane.Services.PolicyService

/-!
`services/risk_service.py`: a risk level from the signals of an intake.
-/

namespace ControlPlane.RiskService

open PolicyService

def sensitivityScore : List (String × Int) :=
  [("none", 0), ("public", 0), ("internal", 1), ("confidential", 2), ("pii", 2),
    ("phi", 3), ("regulated", 3)]

def autonomyScore : List (String × Int) :=
  [("none", 0), ("assisted", 1), ("semi_autonomous", 2), ("autonomous", 3)]

def policyScore : PolicyCategory → Int
  | .readOnly => 0
  | .draftOnly => 0
  | .outboundSend => 1
  | .publish => 1
  | .destructive => 3

def highThreshold : Int := 6
def mediumThreshold : Int := 3

structure RiskResult where
  level : String
  score : Int
  reasons : List String
  deriving DecidableEq, Repr

/-- `value.strip().lower()`. -/
def normalized (value : String) : String :=
  String.ofList (Text.lower (Text.strip value))

/-- `(value or "none").strip().lower()`. -/
def norm (value : Option String) : String :=
  match value with
  | none | some "" => normalized "none"
  | some text => normalized text

def pointsOf (table : List (String × Int)) (key : String) : Int :=
  (table.lookup key).getD 1

def riskLevel (score : Int) : String :=
  if highThreshold ≤ score then "high"
  else if mediumThreshold ≤ score then "medium"
  else "low"

def classifyRisk (dataSensitivity : Option String) (externalExposure : Bool)
    (autonomyLevel : Option String) (policyCategory : Option PolicyCategory) :
    RiskResult :=
  let sensitivityKey := norm dataSensitivity
  let sensitivityPoints := pointsOf sensitivityScore sensitivityKey
  let autonomyKey := norm autonomyLevel
  let autonomyPoints := pointsOf autonomyScore autonomyKey
  let policyPoints := (policyCategory.map policyScore).getD 0
  let score := sensitivityPoints + (if externalExposure then 2 else 0) +
    autonomyPoints + policyPoints
  let reasons :=
    (if 2 ≤ sensitivityPoints then [s!"sensitive data ({sensitivityKey})"] else []) ++
    (if externalExposure then ["external exposure / outbound effect"] else []) ++
    (if 2 ≤ autonomyPoints then [s!"high autonomy ({autonomyKey})"] else []) ++
    match policyCategory with
    | some category =>
        if 1 ≤ policyScore category then [s!"policy category {category.value}"] else []
    | none => []
  { level := riskLevel score
    score := score
    reasons := if reasons.isEmpty then ["no elevated risk signals"] else reasons }

end ControlPlane.RiskService
