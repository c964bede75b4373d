import ControlPlane.Services.JobService

/-!
`services/email_persistence.py`: the rows of mail threads and outbound
deliveries.
-/

namespace ControlPlane

open Lib

namespace EmailPersistence

open JobService

/-- The rows of `(tenant_id, external_thread_id)`. -/
def threadRows (tenantId : Option String) (externalThreadId : String)
    (s : Database) : List EmailThreadRecord :=
  s.emailThreads.rows.filter fun row =>
    row.externalThreadId = externalThreadId && row.tenantId = tenantId

/-- What `scalar_one_or_none()` raises. -/
def multipleRows : PyErr := .other "MultipleResultsFound"
  "Multiple rows were found when one or none was required"

variable [Deployment]

/-- `session.execute(stmt).scalar_one_or_none()`. -/
def selectThread (tenantId : Option String) (externalThreadId : String) :
    Session (Option EmailThreadRecord) := do
  let rows ← select (.thread tenantId externalThreadId)
    fun _ s => threadRows tenantId externalThreadId s
  match rows with
  | [] => return none
  | [row] => return some row
  | _ => throw multipleRows

def upsertThreadRecord (tenantId : Option String) (externalThreadId : String)
    (sourceJobId snippet intent : Option String) (extra : Option Dict) : Session Unit := do
  let row ← selectThread tenantId externalThreadId
  let extraJson := extra.filter fun e => !e.isEmpty
  match row with
  | none => do
      let _ ← commit (.insertThread {
        id := ""
        tenantId := tenantId
        externalThreadId := externalThreadId
        lastSnippet := snippet
        lastIntent := intent
        sourceJobId := sourceJobId
        extraJson := extraJson })
  | some row => do
      let _ ← commit (.updateThread row { row with
        lastSnippet := snippet <|> row.lastSnippet
        lastIntent := intent <|> row.lastIntent
        sourceJobId := sourceJobId <|> row.sourceJobId
        extraJson := extraJson <|> row.extraJson })

def upsertOutboundDelivery (tenantId : Option String)
    (threadExternalId gmailDraftId approvalId sourceJobId : String)
    (status : DeliveryStatus) : Session Unit := do
  let row ← getDelivery (.str approvalId)
  match row with
  | none => do
      let _ ← commit (.insertDelivery {
        id := ""
        tenantId := tenantId
        threadExternalId := threadExternalId
        gmailDraftId := some gmailDraftId
        gmailMessageId := none
        approvalId := some approvalId
        sourceJobId := some sourceJobId
        executionJobId := none
        status := status
        lastError := none })
  | some row => do
      let _ ← commit (.updateDelivery row { row with
        threadExternalId := threadExternalId
        gmailDraftId := some gmailDraftId
        sourceJobId := some sourceJobId
        status := status
        lastError := none })

def markDeliverySent (approvalId : Json) (executionJobId gmailMessageId : String) :
    Session Unit := do
  let row ← getDelivery approvalId
  match row with
  | none => return ()
  | some row => do
      let _ ← commit (.updateDelivery row { row with
        gmailMessageId := some gmailMessageId
        executionJobId := some executionJobId
        status := .sent
        lastError := none })

def markDeliveryFailed (approvalId : Json) (executionJobId error : String) :
    Session Unit := do
  let row ← getDelivery approvalId
  match row with
  | none => return ()
  | some row => do
      let _ ← commit (.updateDelivery row { row with
        executionJobId := some executionJobId
        status := .failed
        lastError := some error })

end EmailPersistence

end ControlPlane
