import ControlPlane.Services.Sequential
import ControlPlane.System.Processes

/-!
What becomes of a claimed job. A commit that fails leaves the session unusable, so the
worker that meets one cannot close its job any more; every other outcome of a handler is
written to the job.
-/

namespace ControlPlane

open Lib JobService AuditService ApprovalService EmailPersistence EmailService
  ChatOrchestrate Tasks Runner

/-- The result is an error of the session. -/
def Poisoned {α : Type} : Except PyErr α → Prop
  | .ok _ => False
  | .error e => e.poisons = true

section

variable [Deployment]

/-- A commit that is not refused goes through, and the errors of the connector are its own. -/
def honest : (q : Call) → Reply q → Database → Prop
  | .select _, _, _ => True
  | .commit tx, (r : DbReply), s => r.failure = none → (tx.apply r s).isSome
  | .createDraft _ _ _, (r : Except PyErr String), _ => ¬Poisoned r
  | .readThread _, (r : Except PyErr ThreadEnvelope), _ => ¬Poisoned r
  | .sendApprovedDraft _ _, (r : Except PyErr String), _ => ¬Poisoned r

end

/-- The status a job is in when a worker is done with it. -/
def JobStatus.done : JobStatus → Bool
  | .succeeded => true
  | .failed => true
  | _ => false

/-- The stored job is done or eligible for a retry. -/
def Closed (id : String) (s : Database) : Prop :=
  ∃ job, s.jobs.find? id = some job ∧ job.status.done = true

def Running (id : String) (s : Database) : Prop :=
  ∃ job, s.jobs.find? id = some job ∧ job.status = .running

/-- A stored change of the status of the job. -/
def closes (id : String) : Event Call Reply → Bool
  | ⟨.commit (.updateJob loaded new), (r : DbReply)⟩ =>
      loaded.id = id && new.status ≠ loaded.status && r.failure.isNone
  | _ => false

/-- A commit that is refused. A lost race or a locked database is answered by `record`
with a rollback and one more attempt. -/
def poisons : Event Call Reply → Bool
  | ⟨.commit (.insertAudit _), (r : DbReply)⟩ => r.failure = some .other
  | ⟨.commit _, (r : DbReply)⟩ => r.failure.isSome
  | _ => false

/-- The transaction writes neither jobs nor audit events. -/
def Transaction.aside : Transaction → Bool
  | .insertAudit _ => false
  | .insertJob _ => false
  | .updateJob _ _ => false
  | _ => true

inductive Verdict where
  | working
  | closed
  | stuck
  deriving DecidableEq, Repr

/-- Whether the status was stored or a commit was refused first. -/
def scan (id : String) : List (Event Call Reply) → Verdict
  | [] => .working
  | e :: rest =>
      if closes id e then .closed else if poisons e then .stuck else scan id rest

theorem scan_append (id : String) (first second : List (Event Call Reply)) :
    scan id (first ++ second) = match scan id first with
      | .working => scan id second
      | verdict => verdict := by
  induction first with
  | nil => rfl
  | cons e rest ih =>
      rw [List.cons_append, scan, scan]
      split
      · rfl
      · split
        · rfl
        · exact ih

theorem closes_of_working {id : String} {trace : List (Event Call Reply)}
    (h : scan id trace = .working) : ∀ e ∈ trace, closes id e = false := by
  induction trace with
  | nil => simp
  | cons e rest ih =>
      rw [scan] at h
      split at h
      · cases h
      · next hcloses =>
          split at h
          · cases h
          · rintro e' (_ | ⟨_, hmem⟩)
            · exact Bool.not_eq_true _ ▸ hcloses
            · exact ih h e' hmem

theorem exists_closes_of_closed {id : String} {trace : List (Event Call Reply)}
    (h : scan id trace = .closed) : ∃ e ∈ trace, closes id e = true := by
  induction trace with
  | nil => cases h
  | cons e rest ih =>
      rw [scan] at h
      split at h
      · next hcloses => exact ⟨e, List.mem_cons_self, hcloses⟩
      · split at h
        · cases h
        · obtain ⟨e', hmem, hcloses⟩ := ih h
          exact ⟨e', List.mem_cons_of_mem _ hmem, hcloses⟩

section

variable [Deployment] {α β : Type} {id : String} {post : Except PyErr α → Prop}
  {post' : Except PyErr β → Prop}

/-- As long as the job is not closed it is running, and an error of the session is the
result exactly when a commit was refused. -/
def Report (id : String) (post : Except PyErr α → Prop) (trace : List (Event Call Reply))
    (result : Except PyErr α) (s' : Database) : Prop :=
  match scan id trace with
  | .working => Running id s' ∧ post result
  | .closed => True
  | .stuck => Poisoned result ∧ ∀ e ∈ trace, closes id e = false

/-- A run on a running job closes it, gets stuck, or ends in `post`. -/
def Ends (id : String) (post : Except PyErr α → Prop) (p : Session α) : Prop :=
  ∀ (s s' : Database) (trace : List (Event Call Reply)) (result : Except PyErr α),
    Running id s → Prog.Runs honest p s trace result s' → Report id post trace result s'

/-- No error of the session without a refused commit. -/
abbrev Reports (id : String) (p : Session α) : Prop := Ends id (fun r => ¬Poisoned r) p

theorem reports_pure (value : α) : Reports id (.pure value : Session α) := by
  intro s s' trace result hrunning h
  obtain ⟨rfl, rfl, rfl⟩ := Prog.runs_pure h
  exact ⟨hrunning, not_false⟩

theorem reports_raise {e : PyErr} (he : e.poisons = false) :
    Reports id (.raise e : Session α) := by
  intro s s' trace result hrunning h
  obtain ⟨rfl, rfl, rfl⟩ := Prog.runs_raise h
  exact ⟨hrunning, by simp [Poisoned, he]⟩

omit [Deployment] in
/-- The end of a run after a first part that has not closed the job. -/
theorem Report.append {first second : List (Event Call Reply)} {result : Except PyErr α}
    {s' : Database} (h : Report id post second result s') (hscan : scan id first = .working) :
    Report id post (first ++ second) result s' := by
  unfold Report at h ⊢
  rw [scan_append, hscan]
  dsimp only
  cases hscan₂ : scan id second with
  | closed => trivial
  | working =>
      rw [hscan₂] at h
      exact h
  | stuck =>
      rw [hscan₂] at h
      refine ⟨h.1, fun e hmem => ?_⟩
      rcases List.mem_append.mp hmem with hmem | hmem
      · exact closes_of_working hscan e hmem
      · exact h.2 e hmem

omit [Deployment] in
theorem Report.cons {e : Event Call Reply} {rest : List (Event Call Reply)}
    {result : Except PyErr α} {s' : Database} (h : Report id post rest result s')
    (hcloses : closes id e = false) (hpoisons : poisons e = false) :
    Report id post (e :: rest) result s' := by
  have hscan : scan id [e] = .working := by
    simp [scan, hcloses, hpoisons]
  exact h.append hscan

omit [Deployment] in
/-- The session is of no use after a refused commit. -/
theorem report_refused {e : Event Call Reply} {result : Except PyErr α} {s' : Database}
    (hcloses : closes id e = false) (hpoisons : poisons e = true)
    (hresult : Poisoned result) : Report id post [e] result s' := by
  unfold Report
  rw [scan, if_neg (by simp [hcloses]), if_pos hpoisons]
  refine ⟨hresult, ?_⟩
  rintro e (_ | ⟨_, hmem⟩)
  · exact hcloses
  · cases hmem

omit [Deployment] in
theorem report_closed {first second : List (Event Call Reply)} {result : Except PyErr α}
    {s' : Database} (hscan : scan id first = .closed) :
    Report id post (first ++ second) result s' := by
  unfold Report
  rw [scan_append, hscan]
  trivial

theorem Ends.bind {p : Session α} {k : α → Session β} (hp : Ends id post p)
    (hk : ∀ value, post (.ok value) → Ends id post' (k value))
    (he : ∀ e, post (.error e) → post' (.error e)) : Ends id post' (p.bind k) := by
  intro s s' trace result hrunning h
  rcases Prog.runs_bind h with ⟨value, s₁, first, second, hfirst, hsecond, rfl⟩ |
      ⟨e, hfirst, rfl⟩
  · have hreport := hp _ _ _ _ hrunning hfirst
    unfold Report at hreport
    cases hscan : scan id first with
    | closed => exact report_closed hscan
    | stuck =>
        rw [hscan] at hreport
        exact absurd hreport.1 not_false
    | working =>
        rw [hscan] at hreport
        exact (hk value hreport.2 _ _ _ _ hreport.1 hsecond).append hscan
  · have hreport := hp _ _ _ _ hrunning hfirst
    unfold Report at hreport ⊢
    cases hscan : scan id trace with
    | closed => trivial
    | stuck =>
        rw [hscan] at hreport
        exact hreport
    | working =>
        rw [hscan] at hreport
        exact ⟨hreport.1, he e hreport.2⟩

theorem Reports.bind {p : Session α} {k : α → Session β} (hp : Reports id p)
    (hk : ∀ value, Reports id (k value)) : Reports id (p.bind k) :=
  Ends.bind hp (fun value _ => hk value) fun _ h => h

theorem reports_read {query : Query} {next : Reading → Database → Session α}
    (h : ∀ r s, Reports id (next r s)) :
    Reports id (.act (.select query) (fun _ s => s) next : Session α) := by
  intro s s' trace result hrunning hrun
  cases hrun with
  | act answer _ hrest => exact (h answer s _ _ _ _ hrunning hrest).cons rfl rfl

theorem reports_select {query : Query} {read : Reading → Database → α} :
    Reports id (select query read) :=
  reports_read fun _ _ => reports_pure _

theorem reports_answered {result : Except PyErr α} (h : ¬Poisoned result) :
    Reports id (answered result) := by
  cases result with
  | ok value => exact reports_pure value
  | error e => exact reports_raise (by simpa [Poisoned] using h)

theorem reports_createDraft {threadId subject body : String} :
    Reports id (createDraft threadId subject body) := by
  intro s s' trace result hrunning hrun
  cases hrun with
  | act answer hadm hrest => exact (reports_answered hadm _ _ _ _ hrunning hrest).cons rfl rfl

theorem reports_readThread {threadId : String} : Reports id (readThread threadId) := by
  intro s s' trace result hrunning hrun
  cases hrun with
  | act answer hadm hrest => exact (reports_answered hadm _ _ _ _ hrunning hrest).cons rfl rfl

theorem reports_sendApprovedDraft {approvalId : String} {draftId : Json} :
    Reports id (sendApprovedDraft approvalId draftId) := by
  intro s s' trace result hrunning hrun
  cases hrun with
  | act answer hadm hrest => exact (reports_answered hadm _ _ _ _ hrunning hrest).cons rfl rfl

/-- A commit that is not refused has run. -/
theorem run_of_honest {tx : Transaction} {r : DbReply} {s : Database}
    (hadm : honest (.commit tx) r s) (hfail : r.failure = none) :
    ∃ s', tx.run r s = .ok s' := by
  obtain ⟨s', happly⟩ := Option.isSome_iff_exists.mp (hadm hfail)
  exact ⟨s', Transaction.run_eq_ok.mpr ⟨hfail, happly⟩⟩

theorem run_of_refused (tx : Transaction) {r : DbReply} (s : Database) {kind : DbError}
    (hfail : r.failure = some kind) : tx.run r s = .error (.db kind r.message) := by
  rw [Transaction.run, hfail]

omit [Deployment] in
theorem target_of_aside {tx : Transaction} (haside : tx.aside = true) :
    tx.target ≠ .jobs := by
  cases tx with
  | insertAudit row => cases haside
  | insertJob row => cases haside
  | updateJob loaded new => cases haside
  | _ => simp [Transaction.target]

omit [Deployment] in
theorem event_of_aside {tx : Transaction} (haside : tx.aside = true) (r : DbReply) :
    closes id ⟨.commit tx, r⟩ = false ∧ poisons ⟨.commit tx, r⟩ = r.failure.isSome := by
  cases tx with
  | insertAudit row => cases haside
  | insertJob row => cases haside
  | updateJob loaded new => cases haside
  | _ => exact ⟨rfl, rfl⟩

theorem reports_commit {tx : Transaction} (haside : tx.aside = true) :
    Reports id (commit tx) := by
  intro s s' trace result hrunning hrun
  rw [← Prog.bind_pure (commit tx)] at hrun
  obtain ⟨r, rest, rfl, hadm, hdone⟩ := runs_commit_bind hrun
  rcases hdone with ⟨s₁, happlied, hrest⟩ | ⟨e, herror, rfl, rfl, rfl⟩
  · obtain ⟨hfail, happly⟩ := Transaction.run_eq_ok.mp happlied
    obtain ⟨rfl, rfl, rfl⟩ := Prog.runs_pure hrest
    have hrunning' : Running id s' := by
      unfold Running
      rw [Transaction.jobs_of_apply happly (target_of_aside haside)]
      exact hrunning
    have hreport : Report id (fun r => ¬Poisoned r) [] (.ok r) s' := ⟨hrunning', not_false⟩
    obtain ⟨hcloses, hpoisons⟩ := event_of_aside haside r
    exact hreport.cons hcloses (by rw [hpoisons, hfail]; rfl)
  · cases hfail : r.failure with
    | none =>
        obtain ⟨s₁, happlied⟩ := run_of_honest hadm hfail
        rw [happlied] at herror
        cases herror
    | some kind =>
        rw [run_of_refused _ _ hfail] at herror
        cases herror
        obtain ⟨hcloses, hpoisons⟩ := event_of_aside haside r
        exact report_refused hcloses (by rw [hpoisons, hfail]; rfl) rfl

theorem reports_append {row : AuditEvent} {retry : Session AuditEvent}
    (hretry : Reports id retry) : Reports id (append row retry) := by
  intro s s' trace result hrunning hrun
  cases hrun with
  | @act _ _ _ _ rest _ _ answer hadm hrest =>
      unfold afterCommit at hrest
      cases hfail : DbReply.failure answer with
      | none =>
          obtain ⟨s₁, happlied⟩ := run_of_honest hadm hfail
          have happly := (Transaction.run_eq_ok.mp happlied).2
          rw [Transaction.write_of_ok happlied, happlied] at hrest
          obtain ⟨rfl, rfl, rfl⟩ := Prog.runs_pure hrest
          have hrunning' : Running id s' := by
            unfold Running
            rw [Transaction.jobs_of_apply happly (by simp [Transaction.target])]
            exact hrunning
          have hreport : Report id (fun r => ¬Poisoned r) [] (.ok (row.inserted answer)) s' :=
            ⟨hrunning', not_false⟩
          exact hreport.cons rfl (by simp [poisons, hfail])
      | some kind =>
          have hrefused := run_of_refused (.insertAudit row) s hfail
          rw [Transaction.write_of_error hrefused, hrefused] at hrest
          cases kind with
          | integrity => exact (hretry _ _ _ _ hrunning hrest).cons rfl (by simp [poisons, hfail])
          | operational => exact (hretry _ _ _ _ hrunning hrest).cons rfl (by simp [poisons, hfail])
          | other =>
              obtain ⟨rfl, rfl, rfl⟩ := Prog.runs_raise hrest
              exact report_refused rfl (by simp [poisons, hfail]) rfl

theorem reports_linked {link : Except PyErr AuditEvent} {retry : Session AuditEvent}
    (hlink : ∃ row, link = .ok row) (hretry : Reports id retry) :
    Reports id ((answered link).bind fun row => append row retry) := by
  obtain ⟨row, rfl⟩ := hlink
  exact reports_append hretry

theorem reports_recordFrom {e : NewEvent} {attempts : Nat} :
    Reports id (recordFrom e attempts) := by
  induction attempts with
  | zero => exact reports_raise rfl
  | succ attempts ih =>
      rw [recordFrom_succ]
      apply reports_read
      intro r s
      obtain ⟨hash, hlink⟩ := link_ok e (chainHead s.auditEvents.rows) r.now
      exact reports_linked ⟨_, hlink⟩ ih

theorem reports_record {e : NewEvent} : Reports id (record e) := reports_recordFrom

theorem reports_found {row : Option α} : Reports id (found row) := by
  cases row with
  | none => exact reports_raise rfl
  | some row => exact reports_pure row

theorem reports_getRequest {approvalId : Json} {tenantId : Option String} :
    Reports id (getRequest approvalId tenantId) :=
  reports_select.bind fun _ => reports_pure _

theorem reports_createRequest {kind : String} {tenantId : Option String} {jobId : String}
    {payload : Dict} : Reports id (createRequest kind tenantId jobId payload) :=
  (reports_commit rfl).bind fun _ =>
    reports_record.bind fun _ => reports_getRequest.bind fun _ => reports_found

theorem reports_validateOutboundSendGate {approval : ApprovalRequest} :
    Reports id (validateOutboundSendGate approval) := by
  unfold validateOutboundSendGate
  split
  · exact reports_raise rfl
  · dsimp only
    split
    · exact reports_pure ()
    · split
      · exact reports_raise rfl
      · split
        · exact reports_raise rfl
        · refine reports_select.bind fun job => ?_
          cases job with
          | none => exact reports_raise rfl
          | some job => exact reports_pure ()

theorem reports_validateSendExecutionInvariants {job : Job} {approval : ApprovalRequest} :
    Reports id (validateSendExecutionInvariants job approval) := by
  unfold validateSendExecutionInvariants
  split
  · exact reports_raise rfl
  · split
    · exact reports_raise rfl
    · split
      · exact reports_raise rfl
      · unfold validateSendEnqueueEligibility
        split
        · exact reports_raise rfl
        · refine reports_validateOutboundSendGate.bind fun _ => ?_
          split
          · exact reports_raise rfl
          · exact reports_pure ()

theorem reports_mergeExecutionContext {row : ApprovalRequest} {fields : Dict} :
    Reports id (mergeExecutionContext row fields) :=
  (reports_commit rfl).bind fun _ =>
    reports_pure ()

theorem reports_selectThread {tenantId : Option String} {externalThreadId : String} :
    Reports id (selectThread tenantId externalThreadId) := by
  refine reports_select.bind fun rows => ?_
  rcases rows with _ | ⟨row, _ | ⟨_, _⟩⟩
  · exact reports_pure none
  · exact reports_pure (some row)
  · exact reports_raise rfl

theorem reports_upsertThreadRecord {tenantId : Option String} {externalThreadId : String}
    {sourceJobId snippet intent : Option String} {extra : Option Dict} :
    Reports id (upsertThreadRecord tenantId externalThreadId sourceJobId snippet intent
      extra) := by
  refine reports_selectThread.bind fun row => ?_
  cases row <;>
    exact (reports_commit rfl).bind fun _ => reports_pure ()

theorem reports_upsertOutboundDelivery {tenantId : Option String}
    {threadExternalId gmailDraftId approvalId sourceJobId : String}
    {status : DeliveryStatus} : Reports id (upsertOutboundDelivery tenantId threadExternalId
      gmailDraftId approvalId sourceJobId status) := by
  refine reports_select.bind fun row => ?_
  cases row <;>
    exact (reports_commit rfl).bind fun _ => reports_pure ()

theorem reports_markDeliverySent {approvalId : Json} {executionJobId messageId : String} :
    Reports id (markDeliverySent approvalId executionJobId messageId) := by
  refine reports_select.bind fun row => ?_
  cases row with
  | none => exact reports_pure ()
  | some row =>
      exact (reports_commit rfl).bind fun _ => reports_pure ()

theorem reports_enrichOrchestrateResult {job : Job} {payload : ChatPayload}
    {result : ChatOrchestrateResult} {approval : Option ApprovalRequest} :
    Reports id (enrichOrchestrateResult job payload result approval) := by
  unfold enrichOrchestrateResult
  dsimp only
  split
  · exact reports_pure _
  · split
    · exact reports_pure _
    · split
      · refine reports_createDraft.bind fun draftId => Reports.bind ?_ fun _ => reports_pure _
        cases approval with
        | none => exact reports_pure ()
        | some approval =>
            exact reports_mergeExecutionContext.bind fun _ => reports_upsertOutboundDelivery
      · exact reports_pure _
    · cases classifyEmailIntent payload.message with
      | inboxRead =>
          exact Reports.bind (reports_readThread.bind fun _ =>
            reports_upsertThreadRecord.bind fun _ => reports_pure _) fun _ => reports_pure _
      | draftReply =>
          exact reports_upsertThreadRecord.bind fun _ =>
            reports_createDraft.bind fun _ => reports_pure _
      | outboundSend => exact reports_pure _

omit [Deployment] in
theorem validatePayload_not_poisoned (raw : Dict) : ¬Poisoned (validatePayload raw) := by
  unfold validatePayload
  dsimp only
  repeat' split
  all_goals simp [Poisoned, PyErr.poisons]

theorem reports_executeChatOrchestrate {job : Job} :
    Reports id (executeChatOrchestrate job) := by
  refine (reports_answered (validatePayload_not_poisoned _)).bind fun payload => ?_
  unfold orchestrate
  dsimp only
  split
  · exact reports_enrichOrchestrateResult
  · split
    · exact reports_createRequest.bind fun _ => reports_enrichOrchestrateResult
    · exact reports_enrichOrchestrateResult

theorem reports_executeSend {job : Job} {approvalId : Json} {approval : ApprovalRequest} :
    Reports id (executeSend job approvalId approval) := by
  unfold executeSend
  dsimp only
  split
  · exact reports_raise rfl
  · split
    · exact reports_markDeliverySent.bind fun _ => reports_pure _
    · refine Reports.bind ?_ fun _ => reports_pure _
      exact reports_sendApprovedDraft.bind fun _ => reports_mergeExecutionContext.bind fun _ =>
        reports_markDeliverySent.bind fun _ => reports_record.bind fun _ => reports_pure _

theorem reports_runSendApprovedJob {job : Job} : Reports id (runSendApprovedJob job) := by
  unfold runSendApprovedJob
  dsimp only
  split
  · exact reports_raise rfl
  · refine reports_getRequest.bind fun approval => ?_
    cases approval with
    | none => exact reports_raise rfl
    | some approval =>
        exact reports_validateSendExecutionInvariants.bind fun _ => reports_executeSend

/-- A running job is closed, or the commit is refused. -/
theorem ends_closing (post : Except PyErr DbReply → Prop) {loaded new : Job}
    (hid : loaded.id = id) (hstatus : new.status ≠ loaded.status) :
    Ends id post (commit (.updateJob loaded new)) := by
  intro s s' trace result hrunning hrun
  rw [← Prog.bind_pure (commit _)] at hrun
  obtain ⟨r, rest, rfl, hadm, hdone⟩ := runs_commit_bind hrun
  cases hfail : r.failure with
  | none =>
      have hcloses : scan id [(⟨.commit (.updateJob loaded new), r⟩ : Event Call Reply)] =
          .closed := by
        simp [scan, closes, hid, hstatus, hfail]
      exact report_closed hcloses
  | some kind =>
      have hrefused := run_of_refused (.updateJob loaded new) s hfail
      rcases hdone with ⟨s₁, happlied, _⟩ | ⟨e, herror, rfl, rfl, rfl⟩
      · rw [hrefused] at happlied
        cases happlied
      · rw [hrefused] at herror
        cases herror
        exact report_refused (by simp [closes, hfail]) (by simp [poisons, hfail]) rfl

theorem ends_markJobFailed (post : Except PyErr Unit → Prop) {job : Job} {message : String}
    (hid : job.id = id) (hrunning : job.status = .running) :
    Ends id post (markJobFailed job message) :=
  (ends_closing (fun _ => False) hid (by simp [hrunning])).bind
    (fun _ h => h.elim) fun _ h => h.elim

/-- The row that is read again is the stored one. -/
theorem Ends.refresh {k : Job → Session α}
    (hk : ∀ job : Job, job.id = id → job.status = .running → Ends id post (k job)) :
    Ends id post ((refreshJob id).bind k) := by
  intro s s' trace result hrunning hrun
  obtain ⟨job, hjob, hstatus⟩ := hrunning
  obtain ⟨r, rest, rfl, hrest⟩ := runs_refreshJob_bind hjob hrun
  exact (hk job (Table.key_of_find? hjob) hstatus _ _ _ _ ⟨job, hjob, hstatus⟩ hrest).cons
    rfl rfl

theorem ends_markJobSucceeded {job : Job} {result : Dict} {post : Except PyErr Unit → Prop}
    (hid : job.id = id) : Ends id post (markJobSucceeded job result) := by
  unfold markJobSucceeded
  rw [hid]
  refine Ends.refresh fun job hid hrunning => ?_
  exact (ends_closing (fun _ => False) hid (by simp [hrunning])).bind
    (fun _ h => h.elim) fun _ h => h.elim

theorem reports_attempt {job : Job} : Reports id (commit
    (.updateJob job { job with attempts := job.attempts + 1 })) := by
  intro s s' trace result hrunning hrun
  have hcloses : ∀ r : DbReply, closes id
      ⟨.commit (.updateJob job { job with attempts := job.attempts + 1 }), r⟩ = false := by
    intro r
    simp [closes]
  rw [← Prog.bind_pure (commit _)] at hrun
  obtain ⟨r, rest, rfl, hadm, hdone⟩ := runs_commit_bind hrun
  rcases hdone with ⟨s₁, happlied, hrest⟩ | ⟨e, herror, rfl, rfl, rfl⟩
  · obtain ⟨hfail, happly⟩ := Transaction.run_eq_ok.mp happlied
    obtain ⟨rfl, rfl, rfl⟩ := Prog.runs_pure hrest
    have hrunning' : Running id s' := by
      obtain ⟨row, hrow, hstatus⟩ := hrunning
      refine ⟨_, by rw [Transaction.find_updateJob happly, hrow, Option.map_some], ?_⟩
      split
      · simp [Job.updated, hstatus]
      · exact hstatus
    have hreport : Report id (fun r => ¬Poisoned r) [] (.ok r) s' := ⟨hrunning', not_false⟩
    exact hreport.cons (hcloses r) (by simp [poisons, hfail])
  · cases hfail : r.failure with
    | none =>
        obtain ⟨s₁, happlied⟩ := run_of_honest hadm hfail
        rw [happlied] at herror
        cases herror
    | some kind =>
        rw [run_of_refused _ _ hfail] at herror
        cases herror
        exact report_refused (hcloses r) (by simp [poisons, hfail]) rfl

theorem Ends.counted {job : Job} {k : Job → Session α} (hid : job.id = id)
    (hk : ∀ job : Job, job.id = id → job.status = .running → Ends id post (k job))
    (hpost : ∀ e : PyErr, e.poisons = false → post (.error e)) :
    Ends id post ((countAttempt job).bind k) := by
  unfold countAttempt
  rw [Prog.bind_eq, Prog.bind_assoc]
  refine Ends.bind reports_attempt (fun _ _ => ?_) fun e he => hpost e (by
    simpa [Poisoned] using he)
  rw [hid]
  exact Ends.refresh hk

omit [Deployment] in
theorem caughtMessage_of_poisons {e : PyErr} (h : e.poisons = true) :
    caughtMessage e = none := by
  cases e with
  | db kind message => rfl
  | pendingRollback => rfl
  | _ => cases h

/-- What a handler does around its service: the errors it catches become messages, and the
others, among them those of the session, leave it. -/
theorem reports_caught {p : Session α} (hp : Reports id p) :
    Reports id (tryCatch (do
        let result ← p
        return Except.ok result)
      fun e => match caughtMessage e with
        | some message => return Except.error message
        | none => throw e) := by
  have hreturn : Reports id (p.bind fun result => (.pure (Except.ok (ε := String) result))) :=
    hp.bind fun _ => reports_pure _
  intro s s' trace result hrunning hrun
  rcases Prog.runs_handle hrun with ⟨value, hfirst, rfl⟩ |
      ⟨e, s₁, first, second, hfirst, hsecond, rfl⟩
  · exact hreturn _ _ _ _ hrunning hfirst
  · have hreport := hreturn _ _ _ _ hrunning hfirst
    cases hmessage : caughtMessage e with
    | none =>
        rw [hmessage] at hsecond
        obtain ⟨rfl, rfl, rfl⟩ := Prog.runs_raise hsecond
        rw [List.append_nil]
        exact hreport
    | some message =>
        rw [hmessage] at hsecond
        obtain ⟨rfl, rfl, rfl⟩ := Prog.runs_pure hsecond
        rw [List.append_nil]
        unfold Report at hreport ⊢
        cases hscan : scan id first with
        | closed => trivial
        | working =>
            rw [hscan] at hreport
            exact ⟨hreport.1, not_false⟩
        | stuck =>
            rw [hscan] at hreport
            rw [caughtMessage_of_poisons hreport.1] at hmessage
            cases hmessage

/-- What leaves a handler that has not closed its job. -/
def Raised (result : Except PyErr α) : Prop := ∃ e, result = .error e ∧ e.poisons = false

omit [Deployment] in
theorem raised_of_not_poisoned {e : PyErr} (h : ¬Poisoned (.error e : Except PyErr α)) :
    Raised (.error e : Except PyErr β) :=
  ⟨e, rfl, by simpa [Poisoned] using h⟩

theorem ends_handleChatOrchestrate {job : Job} (hid : job.id = id) :
    Ends id Raised (handleChatOrchestrate job) := by
  refine Ends.counted hid (fun job hid hrunning => ?_) fun e he => ⟨e, rfl, he⟩
  refine Ends.bind (reports_caught reports_executeChatOrchestrate) (fun outcome _ => ?_)
    fun e he => raised_of_not_poisoned he
  cases outcome with
  | error message => exact ends_markJobFailed _ hid hrunning
  | ok result => exact ends_markJobSucceeded hid

theorem ends_handleEmailSendApproved {job : Job} (hid : job.id = id) :
    Ends id Raised (handleEmailSendApproved job) := by
  refine Ends.counted hid (fun job hid hrunning => ?_) fun e he => ⟨e, rfl, he⟩
  refine Ends.bind (reports_caught reports_runSendApprovedJob) (fun outcome _ => ?_)
    fun e he => raised_of_not_poisoned he
  cases outcome with
  | error message =>
      exact Ends.bind (ends_markJobFailed (fun _ => False) hid hrunning)
        (fun _ h => h.elim) fun _ h => h.elim
  | ok result => exact ends_markJobSucceeded hid

/-- A task that returns nothing has closed its job. -/
def Unfinished : Except PyErr (Option String) → Prop
  | .ok error => error.isSome
  | .error e => e.poisons = false

theorem ends_runTask {job : Job} (hid : job.id = id) : Ends id Unfinished (runTask job) := by
  have hraised : ∀ e : PyErr, Raised (.error e : Except PyErr Unit) →
      Unfinished (.error e) := by
    rintro _ ⟨e, ⟨⟩, he⟩
    exact he
  unfold runTask
  split
  · refine Ends.bind (ends_handleChatOrchestrate hid) ?_ hraised
    rintro _ ⟨e, ⟨⟩, _⟩
  · split
    · refine Ends.bind (ends_handleEmailSendApproved hid) ?_ hraised
      rintro _ ⟨e, ⟨⟩, _⟩
    · intro s s' trace result hrunning hrun
      obtain ⟨rfl, rfl, rfl⟩ := Prog.runs_pure hrun
      exact ⟨hrunning, rfl⟩

/-- The message is written to the job. -/
theorem ends_refreshed {job : Job} {message : String} {post : Except PyErr Unit → Prop}
    (hid : job.id = id) : Ends id post ((refreshJob job.id).bind fun job =>
      markJobFailed job message) := by
  rw [hid]
  exact Ends.refresh fun job hid hrunning => ends_markJobFailed _ hid hrunning

theorem ends_recordException {job : Job} {e : PyErr} {post : Except PyErr Unit → Prop}
    (hid : job.id = id) (he : e.poisons = false) : Ends id post (recordException job e) := by
  cases e with
  | db kind message => cases he
  | pendingRollback => cases he
  | _ => exact ends_refreshed hid

theorem ends_processJob (post : Except PyErr Unit → Prop) {job : Job} (hid : job.id = id) :
    Ends id post (processJob job) := by
  intro s s' trace result hrunning hrun
  unfold processJob at hrun
  rw [Prog.bind_eq] at hrun
  rcases Prog.runs_bind hrun with ⟨outcome, s₁, first, second, hfirst, hsecond, rfl⟩ |
      ⟨e, hfirst, rfl⟩
  · rcases Prog.runs_handle hfirst with ⟨value, hreturned, hvalue⟩ |
        ⟨e, s₂, raised, rest, hraised, hlast, rfl⟩
    · obtain ⟨error, _, t₁, t₂, htask, hpure, rfl⟩ := Prog.runs_bind_ok hreturned
      obtain ⟨rfl, hok, rfl⟩ := Prog.runs_pure hpure
      cases hok
      cases hvalue
      rw [List.append_nil]
      have hreport := ends_runTask hid _ _ _ _ hrunning htask
      unfold Report at hreport
      cases hscan : scan id t₁ with
      | closed => exact report_closed hscan
      | stuck =>
          rw [hscan] at hreport
          exact absurd hreport.1 not_false
      | working =>
          rw [hscan] at hreport
          obtain ⟨message, rfl⟩ := Option.isSome_iff_exists.mp hreport.2
          exact (ends_refreshed hid _ _ _ _ hreport.1 hsecond).append hscan
    · obtain ⟨rfl, hok, rfl⟩ := Prog.runs_pure hlast
      cases hok
      rw [List.append_nil]
      have htask : Prog.Runs honest (runTask job) s raised (.error e) s₁ := by
        rcases Prog.runs_bind hraised with ⟨error, _, t₁, t₂, _, hpure, _⟩ | ⟨e', htask, he⟩
        · obtain ⟨_, hresult, _⟩ := Prog.runs_pure hpure
          cases hresult
        · cases he
          exact htask
      have hreport := ends_runTask hid _ _ _ _ hrunning htask
      unfold Report at hreport
      cases hscan : scan id raised with
      | closed => exact report_closed hscan
      | working =>
          rw [hscan] at hreport
          exact (ends_recordException hid hreport.2 _ _ _ _ hreport.1 hsecond).append hscan
      | stuck =>
          rw [hscan] at hreport
          have hrollback : recordException job e = .raise .pendingRollback := by
            have hpoisons : e.poisons = true := hreport.1
            cases e with
            | db kind message => rfl
            | pendingRollback => rfl
            | _ => cases hpoisons
          dsimp only at hsecond
          rw [hrollback] at hsecond
          obtain ⟨rfl, rfl, rfl⟩ := Prog.runs_raise hsecond
          rw [List.append_nil]
          unfold Report
          rw [hscan]
          exact ⟨rfl, hreport.2⟩
  · rcases Prog.runs_handle hfirst with ⟨value, _, hvalue⟩ | ⟨e', _, _, _, _, hlast, _⟩
    · cases hvalue
    · obtain ⟨_, hresult, _⟩ := Prog.runs_pure hlast
      cases hresult

/-- What a worker does to the status of a stored job. -/
structure StatusStep (id : String) (job : Job) (e : Event Call Reply) (s' : Database) :
    Prop where
  kept : closes id e = false → ∃ job', s'.jobs.find? id = some job' ∧
    job'.status = job.status
  closed : closes id e = true → Closed id s'

omit [Deployment] in
theorem step_of_jobs {q : Call} {r : Reply q} {s s' : Database} {job : Job}
    (hjob : s.jobs.find? id = some job) (hjobs : s'.jobs = s.jobs)
    (hcloses : closes id ⟨q, r⟩ = false) : StatusStep id job ⟨q, r⟩ s' where
  kept _ := ⟨job, by rw [hjobs, hjob], rfl⟩
  closed h := by
    rw [hcloses] at h
    cases h

omit [Deployment] in
theorem jobChange_done {loaded new : Job} (h : JobChange loaded new) :
    new.status = loaded.status ∨ new.status.done = true := by
  cases h with
  | attempt attempts => exact Or.inl rfl
  | fail message => exact Or.inr rfl
  | succeed payload => exact Or.inr rfl

theorem step_updateJob {loaded new : Job} {r : DbReply} {s : Database} {job : Job}
    (hchange : JobChange loaded new) (hadm : honest (.commit (.updateJob loaded new)) r s)
    (hjob : s.jobs.find? id = some job) : StatusStep id job ⟨.commit (.updateJob loaded new), r⟩
      ((Transaction.updateJob loaded new).write r s) := by
  have hrow := Table.key_of_find? hjob
  cases hfail : r.failure with
  | some kind =>
      rw [Transaction.write_of_error (run_of_refused _ _ hfail)]
      exact step_of_jobs hjob rfl (by simp [closes, hfail])
  | none =>
      obtain ⟨s', happlied⟩ := run_of_honest hadm hfail
      have hfound := Transaction.find_updateJob (Transaction.run_eq_ok.mp happlied).2 id
      rw [hjob, Option.map_some, hrow] at hfound
      rw [Transaction.write_of_ok happlied]
      constructor
      · intro hcloses
        refine ⟨_, hfound, ?_⟩
        split
        · next hid =>
            have hsame : new.status = loaded.status := by
              simpa [closes, hid, hfail] using hcloses
            simp [Job.updated, hsame]
        · rfl
      · intro hcloses
        obtain ⟨hid, hstatus⟩ : loaded.id = id ∧ new.status ≠ loaded.status := by
          simpa [closes, hfail] using hcloses
        refine ⟨_, hfound, ?_⟩
        rw [if_pos hid.symm]
        have hdone := (jobChange_done hchange).resolve_left hstatus
        simpa [Job.updated, changed_of_ne hstatus] using hdone

theorem step_worker {q : Call} (hq : WorkerCall q) (r : Reply q) {s : Database} {job : Job}
    (hadm : honest q r s) (hjob : s.jobs.find? id = some job) :
    StatusStep id job ⟨q, r⟩ (q.write r s) := by
  have haside : ∀ {tx : Transaction} {r : DbReply}, tx.target ≠ .jobs →
      ((tx.write r s).jobs = s.jobs) := by
    intro tx r htarget
    cases hrun : tx.run r s with
    | error e => rw [Transaction.write_of_error hrun]
    | ok s' =>
        rw [Transaction.write_of_ok hrun]
        exact Transaction.jobs_of_apply (Transaction.run_eq_ok.mp hrun).2 htarget
  cases hq with
  | elsewhere hq =>
      cases q with
      | commit tx =>
          have hjobs := hq.target_ne.2
          refine step_of_jobs hjob (haside hjobs) ?_
          cases tx <;> first | rfl | exact absurd rfl hjobs
      | _ => exact step_of_jobs hjob rfl rfl
  | send _ _ => exact step_of_jobs hjob rfl rfl
  | updateJob hchange => exact step_updateJob hchange hadm hjob
  | insertApproval _ => exact step_of_jobs hjob (haside (by simp [Transaction.target])) rfl
  | merge _ _ => exact step_of_jobs hjob (haside (by simp [Transaction.target])) rfl

/-- A job is closed at the end of a run if it was before, or if the run has closed it. -/
theorem runs_worker {p : Session α} (hp : Calls WorkerCall p) {s s' : Database} {job : Job}
    {trace : List (Event Call Reply)} {result : Except PyErr α}
    (hjob : s.jobs.find? id = some job) (hrun : Prog.Runs honest p s trace result s') :
    ∃ job', s'.jobs.find? id = some job' ∧
      (job'.status.done = true ↔ job.status.done = true ∨ ∃ e ∈ trace, closes id e = true) := by
  induction hrun generalizing job with
  | pure value s => exact ⟨job, hjob, by simp⟩
  | raise error s => exact ⟨job, hjob, by simp⟩
  | @act q write next s trace result s' answer hadm hrest ih =>
      obtain ⟨⟨rfl, hq⟩, hnext⟩ := hp
      have hstep := step_worker hq answer hadm hjob
      cases hcloses : closes id ⟨q, answer⟩ with
      | true =>
          obtain ⟨job₁, hjob₁, hdone⟩ := hstep.closed hcloses
          obtain ⟨job', hjob', hiff⟩ := ih (hnext answer s) hjob₁
          exact ⟨job', hjob', iff_of_true (hiff.mpr (Or.inl hdone))
            (Or.inr ⟨_, List.mem_cons_self, hcloses⟩)⟩
      | false =>
          obtain ⟨job₁, hjob₁, hsame⟩ := hstep.kept hcloses
          obtain ⟨job', hjob', hiff⟩ := ih (hnext answer s) hjob₁
          refine ⟨job', hjob', ?_⟩
          rw [hiff, hsame]
          simp [hcloses]

/-- The job that a claim returns is stored as it is returned. -/
theorem runs_claimNextPending {adm : (q : Call) → Reply q → Database → Prop}
    {s s' : Database} {trace : List (Event Call Reply)} {job : Job}
    (h : Prog.Runs adm claimNextPending s trace (.ok (some job)) s') :
    s'.jobs.find? job.id = some job ∧ job.status = .running := by
  unfold claimNextPending at h
  rw [Prog.bind_eq] at h
  obtain ⟨r, rest, rfl, hclaim⟩ := runs_select_bind h
  cases hnext : nextPending r s with
  | none =>
      rw [hnext] at hclaim
      obtain ⟨_, hresult, _⟩ := Prog.runs_pure hclaim
      cases hresult
  | some found =>
      rw [hnext] at hclaim
      obtain ⟨r', rest', rfl, _, hdone⟩ := runs_commit_bind hclaim
      rcases hdone with ⟨s₁, happlied, hread⟩ | ⟨e, _, _, hresult, _⟩
      · have hmem := (nextPending_pending hnext).1
        have hfound : s₁.jobs.find? found.id =
            some (found.updated { found with status := .running } found) := by
          rw [Transaction.find_updateJob (Transaction.run_eq_ok.mp happlied).2,
            s.jobs.find?_key hmem, Option.map_some, if_pos rfl]
        obtain ⟨r'', rest'', rfl, hlast⟩ := runs_refreshJob_bind hfound hread
        obtain ⟨_, hresult, rfl⟩ := Prog.runs_pure hlast
        cases hresult
        exact ⟨hfound, by simp [Job.updated]⟩
      · cases hresult

/-- A claimed job is closed when its worker has returned, unless a commit was refused before
its status was stored. The answers are those of a database and a connector that may raise at
every call, and the job is any that the worker has claimed. -/
theorem claimed_job_closed_iff {job : Job} {s s₁ s' : Database}
    {claim trace : List (Event Call Reply)} {result : Except PyErr Unit}
    (hclaim : Prog.Runs honest claimNextPending s claim (.ok (some job)) s₁)
    (hrun : Prog.Runs honest (processJob job) s₁ trace result s') :
    Closed job.id s' ↔ scan job.id trace ≠ .stuck := by
  obtain ⟨hjob, hstatus⟩ := runs_claimNextPending hclaim
  obtain ⟨job', hjob', hdone⟩ := runs_worker (processJob_calls job) hjob hrun
  have hreport := ends_processJob (fun _ => False) rfl _ _ _ _ ⟨job, hjob, hstatus⟩ hrun
  unfold Report at hreport
  have hclosed : Closed job.id s' ↔ ∃ e ∈ trace, closes job.id e = true := by
    have hrunning : ¬job.status.done = true := by
      rw [hstatus]
      decide
    rw [or_iff_right hrunning] at hdone
    rw [← hdone]
    constructor
    · rintro ⟨row, hrow, hfinal⟩
      obtain rfl : job' = row := Option.some.inj (hjob'.symm.trans hrow)
      exact hfinal
    · exact fun hfinal => ⟨job', hjob', hfinal⟩
  rw [hclosed]
  cases hscan : scan job.id trace with
  | working =>
      rw [hscan] at hreport
      exact hreport.2.elim
  | closed => exact iff_of_true (exists_closes_of_closed hscan) (by simp)
  | stuck =>
      rw [hscan] at hreport
      refine iff_of_false ?_ (by simp)
      rintro ⟨e, hmem, hcloses⟩
      rw [hreport.2 e hmem] at hcloses
      cases hcloses

end

section Sample

local instance instClosingDeployment : Deployment := .sqlite

local instance instHonest (q : Call) (r : Reply q) (s : Database) :
    Decidable (honest q r s) :=
  match q, r with
  | .select _, _ => inferInstanceAs (Decidable True)
  | .commit tx, (r : DbReply) => inferInstanceAs
      (Decidable (r.failure = none → (tx.apply r s).isSome))
  | .createDraft _ _ _, .ok _ => .isTrue not_false
  | .createDraft _ _ _, .error e => inferInstanceAs (Decidable (¬e.poisons = true))
  | .readThread _, .ok _ => .isTrue not_false
  | .readThread _, .error e => inferInstanceAs (Decidable (¬e.poisons = true))
  | .sendApprovedDraft _ _, .ok _ => .isTrue not_false
  | .sendApprovedDraft _ _, .error e => inferInstanceAs (Decidable (¬e.poisons = true))

/-- A queued message that has to be approved. -/
def queuedJob : Job where
  id := "j1"
  tenantId := some "t1"
  type := chatOrchestrateType
  status := .pending
  idempotencyKey := none
  payloadJson := some [("session_id", .str "s1"), ("message", .str "publish it"),
    ("max_steps", .num 8)]
  attempts := 0
  lastError := none
  runAfter := none
  createdAt := unset

def queued : Database := { jobs := .single queuedJob }

/-- Nothing fails but the commits of approvals, with `failure`. -/
def lockedAnswers (failure : Option DbError) (n : Nat) : (q : Call) → Reply q
  | .commit (.insertApproval _) =>
      ⟨s!"row{n}", AuditService.sampleCreated.createdAt.moment, failure, "database is locked"⟩
  | q => quiet AuditService.sampleCreated.createdAt.moment s!"row{n}" q

def queuedClaim : List (Event Call Reply) × Except PyErr (Option Job) × Database :=
  claimNextPending.exec (lockedAnswers none) 0 queued

def claimedJob : Job := { queuedJob with status := .running }

def sampleRun (failure : Option DbError) :
    List (Event Call Reply) × Except PyErr Unit × Database :=
  (processJob claimedJob).exec (lockedAnswers failure) 10 queuedClaim.2.2

theorem queuedClaim_runs : Prog.Runs honest claimNextPending queued queuedClaim.1
    (.ok (some claimedJob)) queuedClaim.2.2 := by
  have hrun : Prog.Runs honest claimNextPending queued queuedClaim.1 queuedClaim.2.1
      queuedClaim.2.2 :=
    Prog.runs_of_admits rfl
  have hresult : queuedClaim.2.1 = .ok (some claimedJob) := by
    rfl
  rw [hresult] at hrun
  exact hrun

/-- Without a failure the report of the run is stored; with one the job is left running. -/
theorem sampleRuns_reported :
    (∀ failure ∈ [none, some .operational],
      (processJob claimedJob).admits honest (lockedAnswers failure) 10 queuedClaim.2.2 =
        true) ∧
    scan "j1" (sampleRun none).1 ≠ .stuck ∧
    ((sampleRun (some .operational)).2.2.jobs.find? "j1").map Job.status = some .running := by
  decide +kernel

theorem sampleRun_runs (failure : Option DbError) (h : failure ∈ [none, some .operational]) :
    Prog.Runs honest (processJob claimedJob) queuedClaim.2.2 (sampleRun failure).1
      (sampleRun failure).2.1 (sampleRun failure).2.2 :=
  Prog.runs_of_admits (sampleRuns_reported.1 failure h)

theorem gated_job_closed : Closed "j1" (sampleRun none).2.2 :=
  (claimed_job_closed_iff queuedClaim_runs (sampleRun_runs none (by simp))).mpr
    sampleRuns_reported.2.1

/-- The commit of the approval meets a locked database, and the job stays running. -/
theorem locked_job_stuck : ¬∀ (job : Job) (s s₁ s' : Database)
    (claim trace : List (Event Call Reply)) (result : Except PyErr Unit),
    Prog.Runs honest claimNextPending s claim (.ok (some job)) s₁ →
      Prog.Runs honest (processJob job) s₁ trace result s' → Closed job.id s' := by
  intro hclaim
  have hrun := sampleRun_runs (some .operational) (by simp)
  obtain ⟨_, _, hrunning⟩ := sampleRuns_reported
  obtain ⟨job, hjob, hdone⟩ := hclaim _ _ _ _ _ _ _ queuedClaim_runs hrun
  rw [show claimedJob.id = "j1" from rfl] at hjob
  rw [hjob, Option.map_some, Option.some.injEq] at hrunning
  rw [hrunning] at hdone
  cases hdone

end Sample

end ControlPlane
