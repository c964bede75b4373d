import ControlPlane.Db.Frames
import ControlPlane.Services.Failures
import ControlPlane.Services.Footprints

/-!
The actions of the pipeline and the steps its services share, run alone: what a run that
starts with one of them has done, whatever it is answered.
-/

namespace ControlPlane

open Lib JobService AuditService ApprovalService

section

variable {α β : Type} {adm : (q : Call) → Reply q → Database → Prop} {s s' : Database}
  {trace : List (Event Call Reply)}

theorem runs_select_bind {query : Query} {read : Reading → Database → α}
    {k : α → Session β} {result : Except PyErr β}
    (h : Prog.Runs adm ((select query read).bind k) s trace result s') :
    ∃ (r : Reading) (rest : List (Event Call Reply)), trace = ⟨.select query, r⟩ :: rest ∧
      Prog.Runs adm (k (read r s)) s rest result s' := by
  cases h with
  | act answer _ hrest => exact ⟨answer, _, rfl, hrest⟩

theorem runs_answered_bind {value : Except PyErr α} {k : α → Session β}
    {result : Except PyErr β}
    (h : Prog.Runs adm ((answered value).bind k) s trace result s') :
    (∃ v, value = .ok v ∧ Prog.Runs adm (k v) s trace result s') ∨
      ∃ e, value = .error e ∧ trace = [] ∧ result = .error e ∧ s' = s := by
  cases value with
  | ok v => exact Or.inl ⟨v, rfl, h⟩
  | error e =>
      obtain ⟨rfl, rfl, rfl⟩ := Prog.runs_raise h
      exact Or.inr ⟨e, rfl, rfl, rfl, rfl⟩

theorem runs_createDraft_bind {threadId subject body : String} {k : String → Session β}
    {result : Except PyErr β}
    (h : Prog.Runs adm ((createDraft threadId subject body).bind k) s trace result s') :
    ∃ (r : Except PyErr String) (rest : List (Event Call Reply)),
      trace = ⟨.createDraft threadId subject body, r⟩ :: rest ∧
        adm (.createDraft threadId subject body) r s ∧
        Prog.Runs adm ((answered r).bind k) s rest result s' := by
  cases h with
  | act answer hadm hrest => exact ⟨answer, _, rfl, hadm, hrest⟩

theorem runs_readThread_bind {threadId : String} {k : ThreadEnvelope → Session β}
    {result : Except PyErr β}
    (h : Prog.Runs adm ((readThread threadId).bind k) s trace result s') :
    ∃ (r : Except PyErr ThreadEnvelope) (rest : List (Event Call Reply)),
      trace = ⟨.readThread threadId, r⟩ :: rest ∧ adm (.readThread threadId) r s ∧
        Prog.Runs adm ((answered r).bind k) s rest result s' := by
  cases h with
  | act answer hadm hrest => exact ⟨answer, _, rfl, hadm, hrest⟩

theorem runs_sendApprovedDraft_bind {approvalId : String} {draftId : Json}
    {k : String → Session β} {result : Except PyErr β}
    (h : Prog.Runs adm ((sendApprovedDraft approvalId draftId).bind k) s trace result s') :
    ∃ (r : Except PyErr String) (rest : List (Event Call Reply)),
      trace = ⟨.sendApprovedDraft approvalId draftId, r⟩ :: rest ∧
        adm (.sendApprovedDraft approvalId draftId) r s ∧
        Prog.Runs adm ((answered r).bind k) s rest result s' := by
  cases h with
  | act answer hadm hrest => exact ⟨answer, _, rfl, hadm, hrest⟩

/-- A program that only answers the reads of `C` leaves the store alone. -/
theorem Calls.run_keeps [Deployment] {C : Call → Prop} {p : Session α} {γ : Type}
    {view : Database → γ} (hp : Calls C p)
    (hC : ∀ q, C q → ∀ (r : Reply q) s, view (q.write r s) = view s)
    {result : Except PyErr α} (h : Prog.Runs adm p s trace result s') :
    view s' = view s := by
  refine Prog.Keeps.run (Prog.Uses.mono hp ?_) h
  rintro q w ⟨rfl, hq⟩ r s
  exact hC q hq r s

/-- An unscoped lookup of a job. -/
theorem runs_getJobById_bind {id : Json} {k : Option Job → Session β}
    {result : Except PyErr β}
    (h : Prog.Runs adm ((getJobById id none).bind k) s trace result s') :
    ∃ (r : Reading) (rest : List (Event Call Reply)), trace = ⟨.select (.job id), r⟩ :: rest ∧
      Prog.Runs adm (k (s.job? id)) s rest result s' := by
  obtain ⟨r, rest, rfl, hrest⟩ := runs_select_bind h
  refine ⟨r, rest, rfl, ?_⟩
  have hall : (s.job? id).filter (fun job => decide ((none : Option String) = none ∨
      job.tenantId = none)) = s.job? id := by
    cases s.job? id <;> simp
  rwa [hall] at hrest

/-- An unscoped lookup of an approval. -/
theorem runs_getRequest_bind {id : Json} {k : Option ApprovalRequest → Session β}
    {result : Except PyErr β}
    (h : Prog.Runs adm ((getRequest id none).bind k) s trace result s') :
    ∃ (r : Reading) (rest : List (Event Call Reply)),
      trace = ⟨.select (.approval id), r⟩ :: rest ∧
        Prog.Runs adm (k (s.approval? id)) s rest result s' := by
  unfold getRequest getRequestAt at h
  rw [Prog.bind_eq, Prog.bind_assoc] at h
  obtain ⟨r, rest, rfl, hrest⟩ := runs_select_bind h
  refine ⟨r, rest, rfl, ?_⟩
  have hall : (s.approval? id).filter (fun row => decide ((none : Option String) = none ∨
      row.tenantId = none)) = s.approval? id := by
    cases s.approval? id <;> simp
  rwa [hall] at hrest

/-- A row that is there is read again. -/
theorem runs_reload_bind {id : String} {row : ApprovalRequest} {k : ApprovalRequest → Session β}
    {result : Except PyErr β} (hrow : s.approvals.find? id = some row)
    (h : Prog.Runs adm ((reload id).bind k) s trace result s') :
    ∃ (r : Reading) (rest : List (Event Call Reply)),
      trace = ⟨.select (.approval (.str id)), r⟩ :: rest ∧
        Prog.Runs adm (k row) s rest result s' := by
  unfold reload at h
  rw [Prog.bind_eq, Prog.bind_assoc] at h
  obtain ⟨r, rest, rfl, hrest⟩ := runs_getRequest_bind h
  rw [Database.approval?_str, hrow] at hrest
  exact ⟨r, rest, rfl, hrest⟩

theorem runs_refreshJob_bind {id : String} {job : Job} {k : Job → Session β}
    {result : Except PyErr β} (hjob : s.jobs.find? id = some job)
    (h : Prog.Runs adm ((refreshJob id).bind k) s trace result s') :
    ∃ (r : Reading) (rest : List (Event Call Reply)),
      trace = ⟨.select (.job (.str id)), r⟩ :: rest ∧
        Prog.Runs adm (k job) s rest result s' := by
  unfold refreshJob at h
  rw [Prog.bind_eq, Prog.bind_assoc] at h
  obtain ⟨r, rest, rfl, hrest⟩ := runs_getJobById_bind h
  rw [Database.job?_str, hjob] at hrest
  exact ⟨r, rest, rfl, hrest⟩

variable [Deployment]

theorem runs_commit_bind {tx : Transaction} {k : DbReply → Session β}
    {result : Except PyErr β}
    (h : Prog.Runs adm ((commit tx).bind k) s trace result s') :
    ∃ (r : DbReply) (rest : List (Event Call Reply)), trace = ⟨.commit tx, r⟩ :: rest ∧
      adm (.commit tx) r s ∧
      ((∃ s₁, tx.run r s = .ok s₁ ∧ Prog.Runs adm (k r) s₁ rest result s') ∨
        ∃ e, tx.run r s = .error e ∧ rest = [] ∧ result = .error e ∧ s' = s) := by
  cases h with
  | @act _ _ _ _ rest _ _ answer hadm hrest =>
      refine ⟨answer, rest, rfl, hadm, ?_⟩
      dsimp only at hrest
      cases hrun : tx.run answer s with
      | ok s₁ =>
          rw [hrun, Transaction.write_of_ok hrun] at hrest
          exact Or.inl ⟨s₁, rfl, hrest⟩
      | error e =>
          rw [hrun, Transaction.write_of_error hrun] at hrest
          obtain ⟨rfl, rfl, rfl⟩ := Prog.runs_raise hrest
          exact Or.inr ⟨e, rfl, rfl, rfl, rfl⟩

/-- The store without its audit events. -/
def Database.unaudited (s : Database) : Database := { s with auditEvents := Table.empty }

/-- `record` writes audit events only. -/
theorem runs_record {e : NewEvent} {result : Except PyErr AuditEvent}
    (h : Prog.Runs adm (record e) s trace result s') :
    ∃ table, s' = { s with auditEvents := table } := by
  have hsame : s'.unaudited = s.unaudited := by
    refine Calls.run_keeps (record_calls e) ?_ h
    rintro q (_ | ⟨_⟩) r s
    · rfl
    · change (Transaction.write _ r s).unaudited = s.unaudited
      cases hrun : (Transaction.insertAudit _).run r s with
      | error e => rw [Transaction.write_of_error hrun]
      | ok s₁ =>
          rw [Transaction.write_of_ok hrun]
          obtain ⟨table, _, rfl⟩ :=
            Option.map_eq_some_iff.mp (Transaction.run_eq_ok.mp hrun).2
          rfl
  refine ⟨s'.auditEvents, ?_⟩
  cases s
  cases s'
  cases hsame
  rfl

theorem runs_record_bind {e : NewEvent} {k : AuditEvent → Session β}
    {result : Except PyErr β} (h : Prog.Runs adm ((record e).bind k) s trace result s') :
    ∃ table, (∃ event first rest, trace = first ++ rest ∧
        Prog.Runs adm (record e) s first (.ok event) { s with auditEvents := table } ∧
        Prog.Runs adm (k event) { s with auditEvents := table } rest result s') ∨
      s' = { s with auditEvents := table } ∧ ∃ error, result = .error error := by
  rcases Prog.runs_bind h with ⟨event, s₁, first, rest, hrecord, hrest, rfl⟩ |
      ⟨e, hrecord, rfl⟩
  · obtain ⟨table, rfl⟩ := runs_record hrecord
    exact ⟨table, Or.inl ⟨event, first, rest, rfl, hrecord, hrest⟩⟩
  · obtain ⟨table, rfl⟩ := runs_record hrecord
    exact ⟨table, Or.inr ⟨rfl, e, rfl⟩⟩

end

end ControlPlane
