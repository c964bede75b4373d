import ControlPlane.Audit.Chain
import ControlPlane.Db.StoreSession
import ControlPlane.Services.ApprovalService

/-!
The exceptions of the steps that the services share: a commit raises a database error, a
row that is read again may be gone, and `record` gives up. None of them is the
`ValueError` of a service that refuses.
-/

namespace ControlPlane

open Lib JobService AuditService

/-- The exceptions of a check: those of a service, and those of a route. -/
def PyErr.refuses : PyErr → Bool
  | .valueError _ => true
  | .http _ _ => true
  | _ => false

/-- Not raised by a check. -/
def NotRefusal (e : PyErr) : Prop := e.refuses = false

/-- The errors after which a session can only be rolled back. -/
def PyErr.poisons : PyErr → Bool
  | .db _ _ => true
  | .pendingRollback => true
  | _ => false

variable {α : Type}

theorem raises_select {query : Query} {read : Reading → Database → α} :
    Prog.Raises NotRefusal (select query read) :=
  fun _ _ => trivial

theorem raises_found {row : Option α} : Prog.Raises NotRefusal (found row) := by
  cases row with
  | none => exact rfl
  | some row => trivial

theorem raises_peek {read : Store → α} : Prog.Raises NotRefusal (peek read) :=
  fun _ _ => trivial

theorem raises_foundAgain {row : Option α} : Prog.Raises NotRefusal (foundAgain row) := by
  cases row with
  | none => exact rfl
  | some row => trivial

theorem raises_inPipeline {φ : PyErr → Prop} {p : Session α} (hp : p.Raises φ) :
    (inPipeline p).Raises φ := by
  induction p with
  | pure value => trivial
  | raise error => exact hp
  | act call write next ih => exact fun answer S => ih answer S.db (hp answer S.db)

section

variable [Deployment]

theorem error_of_run {tx : Transaction} {r : DbReply} {s : Database} {e : PyErr}
    (h : tx.run r s = .error e) : ∃ kind message, e = .db kind message := by
  unfold Transaction.run at h
  split at h
  · exact ⟨_, _, (Except.error.inj h).symm⟩
  · split at h
    · cases h
    · exact ⟨_, _, (Except.error.inj h).symm⟩

theorem raises_commit {tx : Transaction} : Prog.Raises NotRefusal (commit tx) := by
  intro r s
  dsimp only
  cases hrun : tx.run r s with
  | ok s' => trivial
  | error e =>
      obtain ⟨kind, message, rfl⟩ := error_of_run hrun
      exact rfl

theorem raises_commitChange {change : GovernanceChange} :
    Prog.Raises NotRefusal (commitChange change) := by
  intro r S
  dsimp only
  unfold GovernanceChange.run
  cases r.failure with
  | some kind => exact rfl
  | none =>
      cases change.apply r S.governance with
      | some g => trivial
      | none => exact rfl

theorem raises_append {row : AuditEvent} {retry : Session AuditEvent}
    (hretry : retry.Raises NotRefusal) : (append row retry).Raises NotRefusal := by
  intro r s
  unfold afterCommit
  cases hrun : (Transaction.insertAudit row).run r s with
  | ok s' => trivial
  | error e =>
      obtain ⟨kind, message, rfl⟩ := error_of_run hrun
      cases kind with
      | integrity => exact hretry
      | operational => exact hretry
      | other => exact rfl

omit [Deployment] in
theorem raises_read {φ : PyErr → Prop} {query : Query}
    {next : Reading → Database → Session α} (h : ∀ r s, (next r s).Raises φ) :
    Prog.Raises φ (.act (.select query) (fun _ s => s) next : Session α) :=
  h

theorem raises_linked {link : Except PyErr AuditEvent} {retry : Session AuditEvent}
    (hlink : ∃ row, link = .ok row) (hretry : retry.Raises NotRefusal) :
    ((answered link).bind fun row => append row retry).Raises NotRefusal := by
  obtain ⟨row, rfl⟩ := hlink
  exact raises_append hretry

theorem raises_recordFrom {e : NewEvent} {attempts : Nat} :
    (recordFrom e attempts).Raises NotRefusal := by
  induction attempts with
  | zero => exact rfl
  | succ attempts ih =>
      rw [recordFrom_succ]
      apply raises_read
      intro r s
      obtain ⟨hash, hlink⟩ := link_ok e (chainHead s.auditEvents.rows) r.now
      exact raises_linked ⟨_, hlink⟩ ih

theorem raises_record {e : NewEvent} : (record e).Raises NotRefusal := raises_recordFrom

theorem raises_recordEvent {e : NewEvent} : (recordEvent e).Raises NotRefusal :=
  raises_inPipeline raises_record

end

end ControlPlane
