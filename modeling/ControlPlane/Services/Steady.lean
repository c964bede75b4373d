import ControlPlane.Services.Sequential

/-!
The services in surroundings in which nothing fails but the connector: every commit is
stored, with a new id for a new row. A step of a service then has one outcome, which is
stated as the store it leaves.
-/

namespace ControlPlane

open Lib JobService AuditService ApprovalService

/-- The calls that leave the installation. -/
def Call.outward : Call → Bool
  | .createDraft _ _ _ => true
  | .readThread _ => true
  | .sendApprovedDraft _ _ => true
  | _ => false

/-- The calls of the connector in a trace. -/
def outward (trace : List (Event Call Reply)) : List (Event Call Reply) :=
  trace.filter fun e => e.call.outward

/-- A `ConnectorError` or one of its subclasses. -/
def PyErr.isConnector : PyErr → Bool
  | .connector _ _ => true
  | _ => false

/-- What the connector raised. -/
def failure : Event Call Reply → Option PyErr
  | ⟨.createDraft _ _ _, .error e⟩ => some e
  | ⟨.readThread _, .error e⟩ => some e
  | ⟨.sendApprovedDraft _ _, .error e⟩ => some e
  | _ => none

section

variable [Deployment]

variable {heard : (q : Call) → Reply q → Prop}

/-- Commits are stored, and the connector answers as `heard` says. -/
def steady (heard : (q : Call) → Reply q → Prop) : (q : Call) → Reply q → Database → Prop
  | .select _, _, _ => True
  | .commit tx, (r : DbReply), s => r.failure = none ∧ (tx.apply r s).isSome ∧ r.newId ≠ ""
  | .createDraft threadId subject body, r, _ => heard (.createDraft threadId subject body) r
  | .readThread threadId, r, _ => heard (.readThread threadId) r
  | .sendApprovedDraft approvalId draftId, r, _ =>
      heard (.sendApprovedDraft approvalId draftId) r

instance [∀ q r, Decidable (heard q r)] :
    ∀ (q : Call) (r : Reply q) (s : Database), Decidable (steady heard q r s)
  | .select _, _, _ => inferInstanceAs (Decidable True)
  | .commit tx, (r : DbReply), s =>
      inferInstanceAs (Decidable (r.failure = none ∧ (tx.apply r s).isSome ∧ r.newId ≠ ""))
  | .createDraft threadId subject body, r, _ =>
      inferInstanceAs (Decidable (heard (.createDraft threadId subject body) r))
  | .readThread threadId, r, _ => inferInstanceAs (Decidable (heard (.readThread threadId) r))
  | .sendApprovedDraft approvalId draftId, r, _ =>
      inferInstanceAs (Decidable (heard (.sendApprovedDraft approvalId draftId) r))

/-- The events with one more for `e`. -/
def Appended (e : NewEvent) (before after : AuditTable) : Prop :=
  ∃ (now : Moment) (hash : String) (r : DbReply), before.insert
    ({ e.row (chainHead before.rows) now with eventHash := some hash }.inserted r) = some after

variable {α β : Type} {s s' : Database} {trace : List (Event Call Reply)}

theorem steady_heard {p : Session α} {result : Except PyErr α}
    (h : Prog.Runs (steady heard) p s trace result s') :
    ∀ e ∈ outward trace, heard e.call e.answer := by
  intro e he
  obtain ⟨hmem, houtward⟩ := List.mem_filter.mp he
  obtain ⟨s₁, hadm⟩ := h.admitted e hmem
  obtain ⟨call, answer⟩ := e
  cases call with
  | select query => cases houtward
  | commit tx => cases houtward
  | createDraft threadId subject body => exact hadm
  | readThread threadId => exact hadm
  | sendApprovedDraft approvalId draftId => exact hadm

/-- A program that makes no call outside leaves no trace of one. -/
theorem Calls.quiet {adm : (q : Call) → Reply q → Database → Prop} {p : Session α}
    {result : Except PyErr α} (hp : Calls (fun q => q.outward = false) p)
    (h : Prog.Runs adm p s trace result s') : outward trace = [] := by
  induction h with
  | pure value s => rfl
  | raise error s => rfl
  | @act call _ _ s _ _ _ answer _ _ ih =>
      obtain ⟨⟨_, hcall⟩, hrest⟩ := hp
      have hskip : ∀ rest, outward (⟨call, answer⟩ :: rest) = outward rest := by
        intro rest
        exact List.filter_cons_of_neg (by simp [hcall])
      rw [hskip]
      exact ih (hrest answer s)

theorem steady_commit_bind {tx : Transaction} {k : DbReply → Session β}
    {result : Except PyErr β}
    (h : Prog.Runs (steady heard) ((commit tx).bind k) s trace result s') :
    ∃ (r : DbReply) (s₁ : Database) (rest : List (Event Call Reply)),
      outward trace = outward rest ∧ tx.apply r s = some s₁ ∧ r.newId ≠ "" ∧
        Prog.Runs (steady heard) (k r) s₁ rest result s' := by
  obtain ⟨r, rest, rfl, ⟨hfail, happly, hid⟩, ⟨s₁, hrun, hrest⟩ | ⟨e, herror, _⟩⟩ :=
    runs_commit_bind h
  · exact ⟨r, s₁, rest, rfl, (Transaction.run_eq_ok.mp hrun).2, hid, hrest⟩
  · obtain ⟨s₁, hs₁⟩ := Option.isSome_iff_exists.mp happly
    rw [Transaction.run_eq_ok.mpr ⟨hfail, hs₁⟩] at herror
    cases herror

theorem steady_select_bind {query : Query} {read : Reading → Database → α}
    {k : α → Session β} {result : Except PyErr β}
    (h : Prog.Runs (steady heard) ((select query read).bind k) s trace result s') :
    ∃ (r : Reading) (rest : List (Event Call Reply)), outward trace = outward rest ∧
      Prog.Runs (steady heard) (k (read r s)) s rest result s' := by
  obtain ⟨r, rest, rfl, hrest⟩ := runs_select_bind h
  exact ⟨r, rest, rfl, hrest⟩

/-- An audit event that is committed is stored. -/
def StoresEvents (adm : (q : Call) → Reply q → Database → Prop) : Prop :=
  ∀ (row : AuditEvent) (r : DbReply) (s : Database), adm (.commit (.insertAudit row)) r s →
    r.failure = none ∧ ((Transaction.insertAudit row).apply r s).isSome

theorem steady_storesEvents : StoresEvents (steady heard) :=
  fun _ _ _ h => ⟨h.1, h.2.1⟩

section

variable {adm : (q : Call) → Reply q → Database → Prop} (hadm : StoresEvents adm)

include hadm

theorem stored_append_bind {row : AuditEvent} {retry : Session AuditEvent}
    {k : AuditEvent → Session β} {result : Except PyErr β}
    (h : Prog.Runs adm ((append row retry).bind k) s trace result s') :
    ∃ (r : DbReply) (table : AuditTable) (rest : List (Event Call Reply)),
      outward trace = outward rest ∧ s.auditEvents.insert (row.inserted r) = some table ∧
        Prog.Runs adm (k (row.inserted r)) { s with auditEvents := table } rest result s' := by
  unfold append at h
  rw [Prog.act_bind] at h
  cases h with
  | @act _ _ _ _ rest _ _ answer hanswer hrest =>
      obtain ⟨hfail, happly⟩ := hadm row answer s hanswer
      obtain ⟨s₁, hs₁⟩ := Option.isSome_iff_exists.mp happly
      have hrun : (Transaction.insertAudit row).run answer s = .ok s₁ :=
        Transaction.run_eq_ok.mpr ⟨hfail, hs₁⟩
      obtain ⟨table, hinsert, rfl⟩ := Option.map_eq_some_iff.mp hs₁
      unfold afterCommit at hrest
      dsimp only at hrest
      rw [hrun, Transaction.write_of_ok hrun, Prog.pure_bind] at hrest
      exact ⟨answer, table, rest, rfl, hinsert, hrest⟩

theorem stored_linked_bind {e : NewEvent} {now : Moment} {retry : Session AuditEvent}
    {k : AuditEvent → Session β} {result : Except PyErr β}
    (h : Prog.Runs adm (((answered (e.link (chainHead s.auditEvents.rows) now)).bind
      fun row => append row retry).bind k) s trace result s') :
    ∃ (event : AuditEvent) (table : AuditTable) (rest : List (Event Call Reply)),
      outward trace = outward rest ∧ Appended e s.auditEvents table ∧
        Prog.Runs adm (k event) { s with auditEvents := table } rest result s' := by
  obtain ⟨hash, hlink⟩ := link_ok e (chainHead s.auditEvents.rows) now
  rw [hlink, answered_ok, Prog.pure_bind] at h
  obtain ⟨r, table, rest, hout, hinsert, hrest⟩ := stored_append_bind hadm h
  exact ⟨_, table, rest, hout, ⟨now, hash, r, hinsert⟩, hrest⟩

theorem stored_recordFrom_bind {e : NewEvent} {attempts : Nat} {k : AuditEvent → Session β}
    {result : Except PyErr β}
    (h : Prog.Runs adm ((recordFrom e (attempts + 1)).bind k) s trace result s') :
    ∃ (event : AuditEvent) (table : AuditTable) (rest : List (Event Call Reply)),
      outward trace = outward rest ∧ Appended e s.auditEvents table ∧
        Prog.Runs adm (k event) { s with auditEvents := table } rest result s' := by
  rw [recordFrom_succ, Prog.act_bind] at h
  cases h with
  | act answer _ hrest =>
      obtain ⟨event, table, rest, hout, hdone⟩ := stored_linked_bind hadm hrest
      exact ⟨event, table, rest, hout, hdone⟩

/-- The first pass of `record` goes through. -/
theorem stored_record_bind {e : NewEvent} {k : AuditEvent → Session β}
    {result : Except PyErr β} (h : Prog.Runs adm ((record e).bind k) s trace result s') :
    ∃ (event : AuditEvent) (table : AuditTable) (rest : List (Event Call Reply)),
      outward trace = outward rest ∧ Appended e s.auditEvents table ∧
        Prog.Runs adm (k event) { s with auditEvents := table } rest result s' := by
  have hrecord : record e = recordFrom e (49 + 1) := rfl
  rw [hrecord] at h
  exact stored_recordFrom_bind hadm h

end

theorem steady_record_bind {e : NewEvent} {k : AuditEvent → Session β}
    {result : Except PyErr β}
    (h : Prog.Runs (steady heard) ((record e).bind k) s trace result s') :
    ∃ (event : AuditEvent) (table : AuditTable) (rest : List (Event Call Reply)),
      outward trace = outward rest ∧ Appended e s.auditEvents table ∧
        Prog.Runs (steady heard) (k event) { s with auditEvents := table } rest result s' :=
  stored_record_bind steady_storesEvents h

theorem steady_updateJob_bind {job new : Job} {k : DbReply → Session β}
    {result : Except PyErr β} (hjob : s.jobs.find? job.id = some job)
    (hnew : job.updated new job = new)
    (h : Prog.Runs (steady heard) ((commit (.updateJob job new)).bind k) s trace result s') :
    ∃ (r : DbReply) (jobs : JobTable) (rest : List (Event Call Reply)),
      outward trace = outward rest ∧ s.jobs.Puts jobs new ∧
        Prog.Runs (steady heard) (k r) { s with jobs := jobs } rest result s' := by
  obtain ⟨r, s₁, rest, hout, happly, _, hrest⟩ := steady_commit_bind h
  cases happly
  exact ⟨r, _, rest, hout, Table.puts_modify hjob hnew, hrest⟩

theorem steady_insertJob_bind {row : Job} {k : DbReply → Session β} {result : Except PyErr β}
    (h : Prog.Runs (steady heard) ((commit (.insertJob row)).bind k) s trace result s') :
    ∃ (r : DbReply) (jobs : JobTable) (rest : List (Event Call Reply)),
      outward trace = outward rest ∧ r.newId ≠ "" ∧ s.jobs.find? r.newId = none ∧
        s.jobs.Puts jobs (row.inserted r) ∧
        Prog.Runs (steady heard) (k r) { s with jobs := jobs } rest result s' := by
  obtain ⟨r, s₁, rest, hout, happly, hid, hrest⟩ := steady_commit_bind h
  obtain ⟨jobs, hinsert, rfl⟩ := Option.map_eq_some_iff.mp happly
  exact ⟨r, jobs, rest, hout, hid, Table.key_fresh_of_insert hinsert,
    Table.puts_insert hinsert, hrest⟩

theorem steady_updateApproval_bind {row new : ApprovalRequest} {k : DbReply → Session β}
    {result : Except PyErr β} (hrow : s.approvals.find? row.id = some row)
    (hnew : row.updated new row = new)
    (h : Prog.Runs (steady heard) ((commit (.updateApproval row new)).bind k) s trace result s') :
    ∃ (r : DbReply) (approvals : ApprovalTable) (rest : List (Event Call Reply)),
      outward trace = outward rest ∧ s.approvals.Puts approvals new ∧
        Prog.Runs (steady heard) (k r) { s with approvals := approvals } rest result s' := by
  obtain ⟨r, s₁, rest, hout, happly, _, hrest⟩ := steady_commit_bind h
  cases happly
  exact ⟨r, _, rest, hout, Table.puts_modify hrow hnew, hrest⟩

theorem steady_insertApproval_bind {row : ApprovalRequest} {k : DbReply → Session β}
    {result : Except PyErr β}
    (h : Prog.Runs (steady heard) ((commit (.insertApproval row)).bind k) s trace result s') :
    ∃ (r : DbReply) (approvals : ApprovalTable) (rest : List (Event Call Reply)),
      outward trace = outward rest ∧ r.newId ≠ "" ∧ s.approvals.find? r.newId = none ∧
        s.approvals.Puts approvals (row.inserted r) ∧
        Prog.Runs (steady heard) (k r) { s with approvals := approvals } rest result s' := by
  obtain ⟨r, s₁, rest, hout, happly, hid, hrest⟩ := steady_commit_bind h
  obtain ⟨approvals, hinsert, rfl⟩ := Option.map_eq_some_iff.mp happly
  exact ⟨r, approvals, rest, hout, hid, Table.key_fresh_of_insert hinsert,
    Table.puts_insert hinsert, hrest⟩

theorem steady_updateDelivery_bind {row new : EmailDeliveryRecord} {k : DbReply → Session β}
    {result : Except PyErr β} (hrow : s.emailDeliveries.find? row.id = some row)
    (hnew : row.updated new row = new)
    (h : Prog.Runs (steady heard) ((commit (.updateDelivery row new)).bind k) s trace result s') :
    ∃ (r : DbReply) (deliveries : DeliveryTable) (rest : List (Event Call Reply)),
      outward trace = outward rest ∧ s.emailDeliveries.Puts deliveries new ∧
        Prog.Runs (steady heard) (k r) { s with emailDeliveries := deliveries } rest result s' := by
  obtain ⟨r, s₁, rest, hout, happly, _, hrest⟩ := steady_commit_bind h
  cases happly
  exact ⟨r, _, rest, hout, Table.puts_modify hrow hnew, hrest⟩

theorem steady_insertDelivery_bind {row : EmailDeliveryRecord} {k : DbReply → Session β}
    {result : Except PyErr β}
    (h : Prog.Runs (steady heard) ((commit (.insertDelivery row)).bind k) s trace result s') :
    ∃ (r : DbReply) (deliveries : DeliveryTable) (rest : List (Event Call Reply)),
      outward trace = outward rest ∧ s.emailDeliveries.Puts deliveries { row with id := r.newId } ∧
        Prog.Runs (steady heard) (k r) { s with emailDeliveries := deliveries } rest result s' := by
  obtain ⟨r, s₁, rest, hout, happly, hid, hrest⟩ := steady_commit_bind h
  obtain ⟨deliveries, hinsert, rfl⟩ := Option.map_eq_some_iff.mp happly
  exact ⟨r, deliveries, rest, hout, Table.puts_insert hinsert, hrest⟩

/-- A commit on the mail threads. -/
theorem steady_thread_bind {tx : Transaction} {k : DbReply → Session β}
    {result : Except PyErr β} (htarget : tx.target = .emailThreads)
    (h : Prog.Runs (steady heard) ((commit tx).bind k) s trace result s') :
    ∃ (r : DbReply) (threads : ThreadTable) (rest : List (Event Call Reply)),
      outward trace = outward rest ∧
        Prog.Runs (steady heard) (k r) { s with emailThreads := threads } rest result s' := by
  obtain ⟨r, s₁, rest, hout, happly, _, hrest⟩ := steady_commit_bind h
  cases tx with
  | insertThread row =>
      obtain ⟨threads, _, rfl⟩ := Option.map_eq_some_iff.mp happly
      exact ⟨r, threads, rest, hout, hrest⟩
  | updateThread loaded new =>
      cases happly
      exact ⟨r, _, rest, hout, hrest⟩
  | _ => cases htarget

end

end ControlPlane
