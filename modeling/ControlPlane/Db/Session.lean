import ControlPlane.Db.Models
import ControlPlane.Lib.Program

/-!
Database sessions as programs. A session executes a SELECT or commits one
transaction at a time, and the worker also calls the mail connector. A commit
is atomic: it changes the store as its statements say, or raises and changes
nothing. Between two actions other sessions may commit.

Rows loaded by a session keep the values they were loaded with until they
expire, so a program passes loaded rows on explicitly and reads again where
the ORM does. An UPDATE sets the columns the transaction changed and no others.
-/

namespace ControlPlane

open Lib

/-- `session.get(ApprovalRequest, …)` with an id out of a payload. The services write string ids
only; of any other JSON value it is assumed that the lookup finds no row, as SQLite's comparison
with a text column does for numbers. A driver that refuses to bind the value is not modelled. -/
def Database.approval? (s : Database) : Json → Option ApprovalRequest
  | .str id => s.approvals.find? id
  | _ => none

/-- `session.get(Job, …)`, under the same assumption. -/
def Database.job? (s : Database) : Json → Option Job
  | .str id => s.jobs.find? id
  | _ => none

/-- The delivery of an approval, under the same assumption. -/
def Database.delivery? (s : Database) : Json → Option EmailDeliveryRecord
  | .str approvalId => s.emailDeliveries.findUnique? approvalId
  | _ => none

@[simp] theorem Database.approval?_str (s : Database) (id : String) :
    s.approval? (.str id) = s.approvals.find? id := rfl

@[simp] theorem Database.job?_str (s : Database) (id : String) :
    s.job? (.str id) = s.jobs.find? id := rfl

@[simp] theorem Database.delivery?_str (s : Database) (approvalId : String) :
    s.delivery? (.str approvalId) = s.emailDeliveries.findUnique? approvalId :=
  rfl

inductive ConnectorErrorClass where
  | connectorError
  | authError
  | rateLimitError
  | temporaryProviderError
  | permanentProviderError
  deriving DecidableEq, Repr

def ConnectorErrorClass.name : ConnectorErrorClass → String
  | .connectorError => "ConnectorError"
  | .authError => "AuthError"
  | .rateLimitError => "RateLimitError"
  | .temporaryProviderError => "TemporaryProviderError"
  | .permanentProviderError => "PermanentProviderError"

inductive DbError where
  | integrity
  | operational
  | other
  deriving DecidableEq, Repr

/-- Exceptions by the classes the code tells apart. `other` is any class that
is none of these, for instance an HTTP error of a provider's library. -/
inductive PyErr where
  | valueError (message : String)
  | connector (cls : ConnectorErrorClass) (message : String)
  | runtimeError (message : String)
  | db (kind : DbError) (message : String)
  | pendingRollback
  | http (status : Nat) (detail : String)
  | other (cls message : String)
  deriving DecidableEq, Repr

/-- `str(exc)`. -/
def PyErr.str : PyErr → String
  | .valueError message => message
  | .connector _ message => message
  | .runtimeError message => message
  | .db _ message => message
  | .pendingRollback => "This Session's transaction has been rolled back"
  | .http status detail => s!"{status}: {detail}"
  | .other _ message => message

section

variable {α : Type} [DecidableEq α]

/-- A column after an UPDATE: it is set only if the session changed the value
it had loaded. -/
def changed (loaded new current : α) : α :=
  if new = loaded then current else new

@[simp] theorem changed_current (loaded new : α) :
    changed loaded new loaded = new := by
  unfold changed
  split
  · next h => exact h.symm
  · rfl

@[simp] theorem changed_same (loaded current : α) :
    changed loaded loaded current = current := by
  simp [changed]

theorem changed_of_ne {loaded new : α} (h : new ≠ loaded) (current : α) :
    changed loaded new current = new := by
  simp [changed, h]

end

/-- `current` after the changes of a session that loaded `loaded`. -/
def Job.updated (loaded new current : Job) : Job :=
  { current with
    status := changed loaded.status new.status current.status
    payloadJson :=
      changed loaded.payloadJson new.payloadJson current.payloadJson
    attempts := changed loaded.attempts new.attempts current.attempts
    lastError := changed loaded.lastError new.lastError current.lastError }

def ApprovalRequest.updated (loaded new current : ApprovalRequest) :
    ApprovalRequest :=
  { current with
    status := changed loaded.status new.status current.status
    payloadJson :=
      changed loaded.payloadJson new.payloadJson current.payloadJson
    decidedAt := changed loaded.decidedAt new.decidedAt current.decidedAt }

def EmailThreadRecord.updated (loaded new current : EmailThreadRecord) :
    EmailThreadRecord :=
  { current with
    lastSnippet :=
      changed loaded.lastSnippet new.lastSnippet current.lastSnippet
    lastIntent := changed loaded.lastIntent new.lastIntent current.lastIntent
    sourceJobId :=
      changed loaded.sourceJobId new.sourceJobId current.sourceJobId
    extraJson := changed loaded.extraJson new.extraJson current.extraJson }

def EmailDeliveryRecord.updated (loaded new current : EmailDeliveryRecord) :
    EmailDeliveryRecord :=
  { current with
    threadExternalId := changed loaded.threadExternalId new.threadExternalId
      current.threadExternalId
    gmailDraftId :=
      changed loaded.gmailDraftId new.gmailDraftId current.gmailDraftId
    gmailMessageId :=
      changed loaded.gmailMessageId new.gmailMessageId current.gmailMessageId
    sourceJobId :=
      changed loaded.sourceJobId new.sourceJobId current.sourceJobId
    executionJobId :=
      changed loaded.executionJobId new.executionJobId current.executionJobId
    status := changed loaded.status new.status current.status
    lastError := changed loaded.lastError new.lastError current.lastError }

/-- What one commit writes: a new row, which gets its id from the answer, or
the changes made to a loaded row. -/
inductive Transaction where
  | insertAudit (row : AuditEvent)
  | insertJob (row : Job)
  | updateJob (loaded new : Job)
  | insertApproval (row : ApprovalRequest)
  | updateApproval (loaded new : ApprovalRequest)
  | insertDelivery (row : EmailDeliveryRecord)
  | updateDelivery (loaded new : EmailDeliveryRecord)
  | insertThread (row : EmailThreadRecord)
  | updateThread (loaded new : EmailThreadRecord)

inductive Query where
  | chainHead
  | nextPendingJob
  | job (id : Json)
  | jobByIdempotencyKey (key : String)
  | approval (id : Json)
  | delivery (approvalId : Json)
  | thread (tenantId : Option String) (externalThreadId : String)
  deriving DecidableEq, Repr

/-- The answer to a SELECT, besides the rows: the clock reading next to it, and
the choice among rows that an `ORDER BY … LIMIT 1` leaves tied. -/
structure Reading where
  now : Moment
  choice : Nat

/-- The answer to a commit: the id and the clock reading for a new row, and the
database error if it fails. `message` is the text of that error or of a
violated constraint. -/
structure DbReply where
  newId : String
  now : Moment
  failure : Option DbError
  message : String

/-- What the connector returns for a thread. -/
structure ThreadEnvelope where
  threadId : Option String
  snippet : Option String
  messageCount : Int

/-- `sendApprovedDraft` also names the approval it is executed for; the
provider is not told. -/
inductive Call where
  | select (query : Query)
  | commit (tx : Transaction)
  | createDraft (threadId subject body : String)
  | readThread (threadId : String)
  | sendApprovedDraft (approvalId : String) (draftId : Json)

@[reducible] def Reply : Call → Type
  | .select _ => Reading
  | .commit _ => DbReply
  | .createDraft _ _ _ => Except PyErr String
  | .readThread _ => Except PyErr ThreadEnvelope
  | .sendApprovedDraft _ _ => Except PyErr String

abbrev Session := Prog Database Call Reply PyErr

section

variable [Deployment]

/-- The stored row of a new audit event. -/
def AuditEvent.inserted (row : AuditEvent) (r : DbReply) : AuditEvent :=
  { row with id := r.newId, createdAt := Deployment.stored row.createdAt }

/-- The stored row of a new job; `created_at` is the server's default. -/
def Job.inserted (row : Job) (r : DbReply) : Job :=
  { row with
    id := r.newId
    createdAt := Deployment.stored (Datetime.utc r.now) }

def ApprovalRequest.inserted (row : ApprovalRequest) (r : DbReply) :
    ApprovalRequest :=
  { row with
    id := r.newId
    createdAt := Deployment.stored (Datetime.utc r.now) }

/-- The store after the statements of a transaction; `none` when a primary key
or UNIQUE constraint is violated. -/
def Transaction.apply (tx : Transaction) (r : DbReply) (s : Database) :
    Option Database :=
  match tx with
  | .insertAudit row =>
      (s.auditEvents.insert (row.inserted r)).map
        fun t => { s with auditEvents := t }
  | .insertJob row =>
      (s.jobs.insert (row.inserted r)).map fun t => { s with jobs := t }
  | .updateJob loaded new => some { s with
      jobs := s.jobs.modify loaded.id (loaded.updated new) }
  | .insertApproval row =>
      (s.approvals.insert (row.inserted r)).map
        fun t => { s with approvals := t }
  | .updateApproval loaded new => some { s with
      approvals := s.approvals.modify loaded.id (loaded.updated new) }
  | .insertDelivery row =>
      (s.emailDeliveries.insert { row with id := r.newId }).map
        fun t => { s with emailDeliveries := t }
  | .updateDelivery loaded new => some { s with
      emailDeliveries :=
        s.emailDeliveries.modify loaded.id (loaded.updated new) }
  | .insertThread row =>
      (s.emailThreads.insert { row with id := r.newId }).map
        fun t => { s with emailThreads := t }
  | .updateThread loaded new => some { s with
      emailThreads := s.emailThreads.modify loaded.id (loaded.updated new) }

def Transaction.run (tx : Transaction) (r : DbReply) (s : Database) :
    Except PyErr Database :=
  match r.failure with
  | some kind => .error (.db kind r.message)
  | none =>
      match tx.apply r s with
      | some s' => .ok s'
      | none => .error (.db .integrity r.message)

/-- The store after a commit, whether it went through or not. -/
def Transaction.write (tx : Transaction) (r : DbReply) (s : Database) :
    Database :=
  match tx.run r s with
  | .ok s' => s'
  | .error _ => s

theorem Transaction.run_eq_ok {tx : Transaction} {r : DbReply}
    {s s' : Database} : tx.run r s = .ok s' ↔
      r.failure = none ∧ tx.apply r s = some s' := by
  unfold Transaction.run
  cases r.failure with
  | some kind => simp
  | none =>
      cases tx.apply r s with
      | none => simp
      | some s'' => simp

@[simp] theorem Transaction.write_of_ok {tx : Transaction} {r : DbReply}
    {s s' : Database} (h : tx.run r s = .ok s') : tx.write r s = s' := by
  simp [Transaction.write, h]

@[simp] theorem Transaction.write_of_error {tx : Transaction} {r : DbReply}
    {s : Database} {e : PyErr} (h : tx.run r s = .error e) : tx.write r s = s := by
  simp [Transaction.write, h]

/-- What a call does to the store: only a commit changes it. -/
def Call.write : (call : Call) → Reply call → Database → Database
  | .commit tx => tx.write
  | .select _ => fun _ s => s
  | .createDraft _ _ _ => fun _ s => s
  | .readThread _ => fun _ s => s
  | .sendApprovedDraft _ _ => fun _ s => s

/-- `session.execute(…)`, `session.get` or `session.refresh`. -/
def select {α : Type} (query : Query) (read : Reading → Database → α) :
    Session α :=
  .act (.select query) (fun _ s => s) fun r s => .pure (read r s)

/-- What a session does after a commit: it goes on, or the error is raised. -/
def settled (r : DbReply) : Except PyErr Database → Session DbReply
  | .ok _ => .pure r
  | .error e => .raise e

/-- `session.commit()`. -/
def commit (tx : Transaction) : Session DbReply :=
  .act (.commit tx) tx.write fun r s => settled r (tx.run r s)

end

/-- An outcome that is known: it is returned or raised. -/
def answered {α : Type} : Except PyErr α → Session α
  | .ok value => .pure value
  | .error error => .raise error

@[simp] theorem answered_ok {α : Type} (value : α) :
    answered (.ok value) = .pure value := rfl

@[simp] theorem answered_error {α : Type} (error : PyErr) :
    (answered (.error error) : Session α) = .raise error := rfl

/-- A call of the mail connector, which returns or raises. -/
def createDraft (threadId subject body : String) : Session String :=
  .act (.createDraft threadId subject body) (fun _ s => s)
    fun (r : Except PyErr String) _ => answered r

def readThread (threadId : String) : Session ThreadEnvelope :=
  .act (.readThread threadId) (fun _ s => s)
    fun (r : Except PyErr ThreadEnvelope) _ => answered r

def sendApprovedDraft (approvalId : String) (draftId : Json) : Session String :=
  .act (.sendApprovedDraft approvalId draftId) (fun _ s => s)
    fun (r : Except PyErr String) _ => answered r

end ControlPlane
