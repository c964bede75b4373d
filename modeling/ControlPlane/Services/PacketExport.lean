import ControlPlane.Db.Session
import ControlPlane.Lib.PyFormat

/-!
The export renderers of `services/evidence_packet.py`. They read a packet as a
decoded dictionary: `persist_packet` hands them one the builders made, and a
stored export decodes to one.
-/

namespace ControlPlane

open Lib

/-- A dictionary with string keys, as `json.loads` returns it. -/
abbrev PyDict [Python] := List (Text × PyValue)

namespace EvidencePackets

open Text (ofString)

variable [Python]

/-- `v[key]`. -/
def item (v : PyValue) (key : String) : Except PyErr PyValue :=
  match v with
  | .dict fields =>
      match Value.lookup fields (ofString key) with
      | some w => .ok w
      | none => .error (.other "KeyError" s!"'{key}'")
  | .list _ =>
      .error (.other "TypeError" "list indices must be integers or slices, not str")
  | .str _ => .error (.other "TypeError" "string indices must be integers, not 'str'")
  | v => .error (.other "TypeError"
      s!"'{Python.typeName v}' object is not subscriptable")

/-- `for x in v`. -/
def iterate : PyValue → Except PyErr (List PyValue)
  | .list items => .ok items
  | .dict fields => .ok (fields.map fun f => .str f.1)
  | .str s => .ok (s.map fun n => .str [n])
  | v => .error (.other "TypeError" s!"'{Python.typeName v}' object is not iterable")

def lines (texts : List Text) : Text := List.intercalate [10] texts

def bullets (texts : List Text) : Text :=
  if texts.isEmpty then ofString "- (none)"
  else lines (texts.map fun text => ofString "- " ++ text)

/-- `_md_list` of a value of the packet. -/
def mdList (v : PyValue) : Except PyErr Text := do
  if Python.truthy v then
    let items ← iterate v
    return bullets (items.map Python.str)
  else return bullets []

/-- `_md_list` of one formatted line for each row of `packet[key]`. -/
def mdRows (rows : PyValue) (row : PyValue → Except PyErr Text) : Except PyErr Text := do
  let rows ← iterate rows
  return bullets (← rows.mapM row)

/-- The field of a row as an f-string writes it. -/
def shown (v : PyValue) (key : String) : Except PyErr Text :=
  (item v key).map Python.str

def governedActionLine (a : PyValue) : Except PyErr Text := do
  return (← shown a "action_type") ++ ofString " — " ++ (← shown a "status") ++
    ofString " (`" ++ (← shown a "id") ++ ofString "`)"

def approvalLine (a : PyValue) : Except PyErr Text := do
  return (← shown a "status") ++ ofString " (`" ++ (← shown a "id") ++ ofString "`)"

/-- `('; expires ' + o['expiration']) if o['expiration'] else ''`. -/
def expiresText (o : PyValue) : Except PyErr Text := do
  let expiration ← item o "expiration"
  if Python.truthy expiration then
    match expiration with
    | .str s => return ofString "; expires " ++ s
    | v => throw (.other "TypeError"
        s!"can only concatenate str (not \"{Python.typeName v}\") to str")
  else return []

def overrideLine (o : PyValue) : Except PyErr Text := do
  return (← shown o "accepted_risk") ++ ofString " risk accepted by " ++
    (← shown o "overridden_by_user_id") ++ ofString " — authority: " ++
    (← shown o "authority_basis") ++ ofString "; control: " ++
    (← shown o "compensating_control") ++ (← expiresText o) ++ ofString " (`" ++
    (← shown o "id") ++ ofString "`)"

def policyLine (p : PyValue) : Except PyErr Text := do
  return (← shown p "decision") ++ ofString " (version " ++
    (← shown p "policy_version") ++ ofString ")"

def executionLine (e : PyValue) : Except PyErr Text := do
  return ofString "action " ++ (← shown e "governed_action_id") ++
    ofString ": source=" ++ (← shown e "source_job") ++ ofString " execution=" ++
    (← shown e "execution_job")

def auditLine (e : PyValue) : Except PyErr Text := do
  return ofString "#" ++ (← shown e "seq") ++ ofString " " ++ (← shown e "action") ++
    ofString " → " ++ (← shown e "resource_type") ++ ofString ":" ++
    (← shown e "resource_id")

def controlLine (c : PyValue) : Except PyErr Text := do
  return (← shown c "framework") ++ ofString " " ++ (← shown c "code") ++
    ofString " — " ++ (← shown c "title")

def artifactLine (a : PyValue) : Except PyErr Text := do
  return (← shown a "artifact_type") ++ ofString " — " ++ (← shown a "uri")

/-- The line for the workflow, if the packet names one. -/
def workflowLines (packet : PyDict) : Except PyErr (List Text) := do
  match Value.lookup packet (ofString "workflow") with
  | none => return []
  | some workflow =>
      if Python.truthy workflow then
        return [ofString "**Workflow:** " ++ (← shown workflow "name") ++
          ofString " (`" ++ (← shown workflow "id") ++ ofString "`)"]
      else return []

def reasonLine (v : PyValue) : Except PyErr Text := do
  let reason ← item v "reason"
  if Python.truthy reason then return ofString "- reason: " ++ Python.str reason
  else return ofString "- reason: none"

/-- A line that `"\n".join` takes as it is; `index` is its place in the list. -/
def joined (index : Nat) : PyValue → Except PyErr Text
  | .str s => .ok s
  | v => .error (.other "TypeError"
      s!"sequence item {index}: expected str instance, {Python.typeName v} found")

def renderMarkdown (packet : PyDict) : Except PyErr Text := do
  let p := Value.dict packet
  let v ← item p "audit_chain_verification"
  let packetType ← shown p "packet_type"
  let generatedAt ← shown p "generated_at"
  let summary ← item p "executive_summary"
  let tenantId ← shown p "tenant_id"
  let scopeId ← shown p "scope_id"
  let workflow ← workflowLines packet
  let scope ← shown v "scope"
  let status ← shown v "status"
  let verified ← shown v "verified_count"
  let total ← shown v "total_count"
  let reason ← reasonLine v
  let governedActions ← mdRows (← item p "governed_actions") governedActionLine
  let approvals ← mdRows (← item p "approvals") approvalLine
  let overrides ← mdRows
    ((Value.lookup packet (ofString "overrides")).getD (.list [])) overrideLine
  let policyDecisions ← mdRows (← item p "policy_decisions") policyLine
  let executionHistory ← mdRows (← item p "execution_history") executionLine
  let auditEvents ← mdRows (← item p "audit_events") auditLine
  let mappedControls ← mdRows (← item p "mapped_controls") controlLine
  let mappedRegulations ← mdList (← item p "mapped_regulations")
  let evidenceArtifacts ← mdRows (← item p "evidence_artifacts") artifactLine
  let evidenceGaps ← mdList (← item p "evidence_gaps")
  let disclaimer ← shown p "disclaimer"
  -- the summary is the only line that is not formatted, and the join comes last
  let executiveSummary ← joined 5 summary
  return lines (
    [ofString "# Evidence Packet — " ++ packetType, [],
      ofString "_Generated: " ++ generatedAt ++ ofString "_", [],
      ofString "## Executive summary", executiveSummary, [],
      ofString "**Tenant:** " ++ tenantId, ofString "**Scope id:** " ++ scopeId] ++
    workflow ++
    [[], ofString "## Audit chain verification", ofString "- scope: " ++ scope,
      ofString "- status: **" ++ status ++ ofString "** (verified " ++ verified ++
        ofString "/" ++ total ++ ofString ")",
      reason, [],
      ofString "## Governed actions", governedActions, [],
      ofString "## Approvals", approvals, [],
      ofString "## Human overrides", overrides, [],
      ofString "## Policy decisions", policyDecisions, [],
      ofString "## Execution history", executionHistory, [],
      ofString "## Audit events", auditEvents, [],
      ofString "## Mapped controls", mappedControls, [],
      ofString "## Mapped regulations", mappedRegulations, [],
      ofString "## Evidence artifacts", evidenceArtifacts, [],
      ofString "## Evidence gaps", evidenceGaps, [],
      ofString "---", ofString "_" ++ disclaimer ++ ofString "_"])

/-- The encoder's error for an integer beyond the limit of digits. -/
def tooManyDigits : PyErr :=
  .valueError "Exceeds the limit (4300 digits) for integer string conversion"

/-- `json.dumps(packet, indent=2, ensure_ascii=False)`. -/
def renderJson (packet : Dict) : Except PyErr String :=
  if Value.printableFields packet then
    .ok (String.ofList (Value.write .indented 0 (.dict (Value.ofFields packet) : PyValue)))
  else .error tooManyDigits

end EvidencePackets

end ControlPlane
