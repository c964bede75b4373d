import ControlPlane.Lib.Outline
import ControlPlane.Services.PacketExport

/-!
The two Markdown renderers line by line, with the text of the template kept apart from
the data. For `services/evidence_packet.py` the lines are those of `renderMarkdown`; the
renderer of `services/incident_replay.py` is defined by its lines.
-/

namespace ControlPlane

open Lib Text

namespace Reports

/-- `text.startswith("#")`. -/
def isHeading (text : Text) : Bool := [35].isPrefixOf text

/-- `text.startswith("- ")`. -/
def isBullet (text : Text) : Bool := [45, 32].isPrefixOf text

def markdown : Markup Nat where
  newline := 10
  heading := isHeading
  bullet := isBullet
  heading_first := by
    intro line rest
    cases line <;> rfl
  bullet_first := by
    intro line rest
    rcases line with _ | ⟨a, _ | ⟨b, tail⟩⟩
    · rfl
    · simp [isBullet, List.isPrefixOf]
    · rfl

abbrev Piece := Markup.Piece markdown

abbrev Line := List Piece

/-- Text of the template. -/
def lit (s : String) (h : 10 ∉ ofString s := by decide) : Piece := .lit (ofString s) h

/-- `"\n".join(lines)`. -/
def text (report : List Line) : Text :=
  EvidencePackets.lines (report.map Markup.lineText)

/-- `_md_list` of the lines it is given. -/
def bulletLines (rows : List Line) : List Line :=
  if rows.isEmpty then [[lit "- (none)"]] else rows.map fun row => lit "- " :: row

section

variable [Python]

/-- The items of a loop over `rows`, one bullet for each. -/
def rowLines (rows : PyValue) (row : PyValue → Except PyErr Line) :
    Except PyErr (List Line) := do
  let rows ← EvidencePackets.iterate rows
  return bulletLines (← rows.mapM row)

/-- `_md_list` of a value. -/
def listLines (v : PyValue) : Except PyErr (List Line) := do
  if Python.truthy v then
    let items ← EvidencePackets.iterate v
    return bulletLines (items.map fun item => [.data (Python.str item)])
  else return bulletLines []

/-- The field of a row as an f-string writes it. -/
def shown (v : PyValue) (key : String) : Except PyErr Piece :=
  (EvidencePackets.shown v key).map .data

end

end Reports

namespace EvidencePackets

open Reports (lit bulletLines rowLines listLines Line Piece)

variable [Python]

def governedActionPieces (a : PyValue) : Except PyErr Line := do
  return [← Reports.shown a "action_type", lit " — ", ← Reports.shown a "status", lit " (`",
    ← Reports.shown a "id", lit "`)"]

def approvalPieces (a : PyValue) : Except PyErr Line := do
  return [← Reports.shown a "status", lit " (`", ← Reports.shown a "id", lit "`)"]

def expiresPieces (o : PyValue) : Except PyErr Line := do
  let expiration ← item o "expiration"
  if Python.truthy expiration then
    match expiration with
    | .str s => return [lit "; expires ", .data s]
    | v => throw (.other "TypeError"
        s!"can only concatenate str (not \"{Python.typeName v}\") to str")
  else return []

def overridePieces (o : PyValue) : Except PyErr Line := do
  return [← Reports.shown o "accepted_risk", lit " risk accepted by ",
    ← Reports.shown o "overridden_by_user_id", lit " — authority: ",
    ← Reports.shown o "authority_basis", lit "; control: ",
    ← Reports.shown o "compensating_control"] ++ (← expiresPieces o) ++
    [lit " (`", ← Reports.shown o "id", lit "`)"]

def policyPieces (p : PyValue) : Except PyErr Line := do
  return [← Reports.shown p "decision", lit " (version ",
    ← Reports.shown p "policy_version", lit ")"]

def executionPieces (e : PyValue) : Except PyErr Line := do
  return [lit "action ", ← Reports.shown e "governed_action_id", lit ": source=",
    ← Reports.shown e "source_job", lit " execution=", ← Reports.shown e "execution_job"]

def auditPieces (e : PyValue) : Except PyErr Line := do
  return [lit "#", ← Reports.shown e "seq", lit " ", ← Reports.shown e "action", lit " → ",
    ← Reports.shown e "resource_type", lit ":", ← Reports.shown e "resource_id"]

def controlPieces (c : PyValue) : Except PyErr Line := do
  return [← Reports.shown c "framework", lit " ", ← Reports.shown c "code", lit " — ",
    ← Reports.shown c "title"]

def artifactPieces (a : PyValue) : Except PyErr Line := do
  return [← Reports.shown a "artifact_type", lit " — ", ← Reports.shown a "uri"]

def workflowPieces (packet : PyDict) : Except PyErr (List Line) := do
  match Value.lookup packet (ofString "workflow") with
  | none => return []
  | some workflow =>
      if Python.truthy workflow then
        return [[lit "**Workflow:** ", ← Reports.shown workflow "name", lit " (`",
          ← Reports.shown workflow "id", lit "`)"]]
      else return []

def reasonPieces (v : PyValue) : Except PyErr Line := do
  let reason ← item v "reason"
  if Python.truthy reason then return [lit "- reason: ", .data (Python.str reason)]
  else return [lit "- reason: none"]

/-- The lines of `render_markdown`. -/
def report (packet : PyDict) : Except PyErr (List Line) := do
  let p := Value.dict packet
  let v ← item p "audit_chain_verification"
  let packetType ← Reports.shown p "packet_type"
  let generatedAt ← Reports.shown p "generated_at"
  let summary ← item p "executive_summary"
  let tenantId ← Reports.shown p "tenant_id"
  let scopeId ← Reports.shown p "scope_id"
  let workflow ← workflowPieces packet
  let scope ← Reports.shown v "scope"
  let status ← Reports.shown v "status"
  let verified ← Reports.shown v "verified_count"
  let total ← Reports.shown v "total_count"
  let reason ← reasonPieces v
  let governedActions ← rowLines (← item p "governed_actions") governedActionPieces
  let approvals ← rowLines (← item p "approvals") approvalPieces
  let overrides ← rowLines
    ((Value.lookup packet (ofString "overrides")).getD (.list [])) overridePieces
  let policyDecisions ← rowLines (← item p "policy_decisions") policyPieces
  let executionHistory ← rowLines (← item p "execution_history") executionPieces
  let auditEvents ← rowLines (← item p "audit_events") auditPieces
  let mappedControls ← rowLines (← item p "mapped_controls") controlPieces
  let mappedRegulations ← listLines (← item p "mapped_regulations")
  let evidenceArtifacts ← rowLines (← item p "evidence_artifacts") artifactPieces
  let evidenceGaps ← listLines (← item p "evidence_gaps")
  let disclaimer ← Reports.shown p "disclaimer"
  let executiveSummary ← (joined 5 summary).map .data
  return [[lit "# Evidence Packet — ", packetType], [],
      [lit "_Generated: ", generatedAt, lit "_"], [],
      [lit "## Executive summary"], [executiveSummary], [],
      [lit "**Tenant:** ", tenantId], [lit "**Scope id:** ", scopeId]] ++
    workflow ++
    [[], [lit "## Audit chain verification"], [lit "- scope: ", scope],
      [lit "- status: **", status, lit "** (verified ", verified, lit "/", total, lit ")"],
      reason, [], [lit "## Governed actions"]] ++ governedActions ++
    [[], [lit "## Approvals"]] ++ approvals ++
    [[], [lit "## Human overrides"]] ++ overrides ++
    [[], [lit "## Policy decisions"]] ++ policyDecisions ++
    [[], [lit "## Execution history"]] ++ executionHistory ++
    [[], [lit "## Audit events"]] ++ auditEvents ++
    [[], [lit "## Mapped controls"]] ++ mappedControls ++
    [[], [lit "## Mapped regulations"]] ++ mappedRegulations ++
    [[], [lit "## Evidence artifacts"]] ++ evidenceArtifacts ++
    [[], [lit "## Evidence gaps"]] ++ evidenceGaps ++
    [[], [lit "---"], [lit "_", disclaimer, lit "_"]]

end EvidencePackets

namespace IncidentReplay

open EvidencePackets (item)
open Reports (lit bulletLines rowLines listLines shown Line Piece)

variable [Python]

/-- `v.get(key, default)`. -/
def getItem (v : PyValue) (key : String) (default : PyValue) : Except PyErr PyValue :=
  match v with
  | .dict fields => .ok ((Value.lookup fields (ofString key)).getD default)
  | v => .error (.other "AttributeError"
      s!"'{Python.typeName v}' object has no attribute 'get'")

def gotten (v : PyValue) (key : String) : Except PyErr Piece :=
  (getItem v key .null).map fun w => .data (Python.str w)

/-- `[f"{k}: {val}" for k, val in v.items()]`. -/
def itemPieces (v : PyValue) : Except PyErr (List Line) :=
  match v with
  | .dict fields => .ok (fields.map fun f => [.data f.1, lit ": ", .data (Python.str f.2)])
  | v => .error (.other "AttributeError"
      s!"'{Python.typeName v}' object has no attribute 'items'")

def approvalPieces (a : PyValue) : Except PyErr Line := do
  return [← shown a "status", lit " (`", ← shown a "id", lit "`)"]

def overridePieces (o : PyValue) : Except PyErr Line := do
  return [← shown o "accepted_risk", lit " risk accepted by ",
    ← shown o "overridden_by_user_id", lit " — authority: ", ← shown o "authority_basis",
    lit " (`", ← shown o "id", lit "`)"]

def artifactPieces (a : PyValue) : Except PyErr Line := do
  return [← shown a "artifact_type", lit " — ", ← shown a "uri"]

def timelinePieces (e : PyValue) : Except PyErr Line := do
  return [lit "#", ← shown e "seq", lit " ", ← shown e "action", lit " → ",
    ← shown e "resource_type", lit ":", ← shown e "resource_id", lit " @ ", ← shown e "at"]

/-- The lines of `render_markdown`. -/
def report (replay : PyDict) : Except PyErr (List Line) := do
  let r := Value.dict replay
  let inc ← item r "incident"
  let v ← item r "audit_chain_verification"
  let actionType ← shown inc "action_type"
  let generatedAt ← shown inc "generated_at"
  let governedActionId ← shown inc "governed_action_id"
  let status ← shown inc "status"
  let tenantId ← shown (← item r "tenant") "id"
  let actor ← shown r "actor"
  let originalRequest ← itemPieces (← item r "original_request")
  let vendorStatus ← shown (← item r "model_vendor_tool") "status"
  let vendorNote ← shown (← item r "model_vendor_tool") "note"
  let decision ← shown (← item r "policy") "decision"
  let category ← shown (← item r "policy") "category"
  let version ← shown (← item r "policy") "version"
  let versionId ← shown (← item r "policy") "policy_version_id"
  let level ← gotten (← item r "risk") "level"
  let score ← gotten (← item r "risk") "score"
  let reasons ← listLines (← getItem (← item r "risk") "reasons" (.list []))
  let approvals ← rowLines (← item r "approvals") approvalPieces
  let overrides ← rowLines (← item r "overrides") overridePieces
  let dataTouched ← itemPieces (← item r "data_touched")
  let artifacts ← rowLines (← item (← item r "outputs") "evidence_artifacts") artifactPieces
  let executionJob ← shown (← item r "outputs") "execution_job"
  let timeline ← rowLines (← item r "audit_timeline") timelinePieces
  let scope ← shown v "scope"
  let chainStatus ← shown v "status"
  let verified ← shown v "verified_count"
  let total ← shown v "total_count"
  let evidenceGaps ← listLines (← item r "evidence_gaps")
  let disclaimer ← shown r "disclaimer"
  return [[lit "# Incident Replay — ", actionType], [],
      [lit "_Generated: ", generatedAt, lit "_"], [],
      [lit "**Governed action:** `", governedActionId, lit "`  ·  **Status:** ", status],
      [lit "**Tenant:** ", tenantId, lit "  ·  **Actor:** ", actor], [],
      [lit "## Original request"]] ++ bulletLines originalRequest ++
    [[], [lit "## Model / vendor / tool"], [lit "- ", vendorStatus, lit " — ", vendorNote], [],
      [lit "## Policy"], [lit "- decision: ", decision, lit " · category: ", category],
      [lit "- version: ", version, lit " (`", versionId, lit "`)"], [],
      [lit "## Risk classification"],
      [lit "- level: ", level, lit " · score: ", score]] ++ reasons ++
    [[], [lit "## Approvals"]] ++ approvals ++
    [[], [lit "## Human overrides"]] ++ overrides ++
    [[], [lit "## Data touched"]] ++ bulletLines dataTouched ++
    [[], [lit "## Outputs"]] ++ artifacts ++
    [[lit "- execution job: ", executionJob], [], [lit "## Audit timeline"]] ++ timeline ++
    [[], [lit "## Audit chain verification"],
      [lit "- scope: ", scope, lit " · status: **", chainStatus, lit "** (verified ", verified,
        lit "/", total, lit ")"], [],
      [lit "## Evidence gaps"]] ++ evidenceGaps ++
    [[], [lit "---"], [lit "_", disclaimer, lit "_"]]

def renderMarkdown (replay : PyDict) : Except PyErr Text :=
  (report replay).map Reports.text

end IncidentReplay

end ControlPlane
