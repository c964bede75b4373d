import ControlPlane.App.SteadyRequests
import ControlPlane.Approvals.FinalDecision

/-!
What a request that runs alone does to the approvals and the jobs, whatever it is answered: any
commit in it may fail, and the recording of an event may give up.
-/

namespace ControlPlane

open Lib JobService AuditService ApprovalService Api

section

variable [Deployment] {adm : (q : Call) → Reply q → Database → Prop} {s s' : Database}
  {trace : List (Event Call Reply)}

/-- The approvals and the jobs after a request. A decision is made on a pending row, and a send
is enqueued only with the approval of a row that has its draft. -/
inductive Served (req : Request) (s s' : Database) : Prop where
  | unchanged (happrovals : s'.approvals = s.approvals) (hjobs : s'.jobs = s.jobs)
  | asked {job : Job} (hfresh : s.jobs.find? job.id = none)
      (htype : job.type = chatOrchestrateType) (hkey : job.idempotencyKey = none)
      (happrovals : s'.approvals = s.approvals) (hputs : s.jobs.Puts s'.jobs job)
  | decided {row : ApprovalRequest} {status : ApprovalStatus} {decision : Dict} {now : Moment}
      (hfind : s.approvals.find? row.id = some row) (hpending : row.status = .pending)
      (hasks : decisionOn row.id req = some status)
      (hputs : s.approvals.Puts s'.approvals (decided row status decision now))
      (hjobs : s'.jobs = s.jobs)
  | enqueued {row : ApprovalRequest} {decision : Dict} {now : Moment} {job : Job}
      (hfind : s.approvals.find? row.id = some row) (hpending : row.status = .pending)
      (hasks : decisionOn row.id req = some .approved) (hdraft : HasDraft row)
      (hputs : s.approvals.Puts s'.approvals (decided row .approved decision now))
      (hjob : SendQueued (decided row .approved decision now) s.jobs job)
      (hqueued : s.jobs.Puts s'.jobs job)
  | retried {job : Job} (hfind : s.jobs.find? job.id = some job)
      (hfailed : job.status = .failed) (happrovals : s'.approvals = s.approvals)
      (hputs : s.jobs.Puts s'.jobs { job with status := .pending, lastError := none })

/-- A request leaves the key, the type and the payload of a job, and its status unless it has
failed. -/
theorem Served.job_kept {req : Request} (h : Served req s s') {id : String} {job : Job}
    (hfind : s.jobs.find? id = some job) :
    ∃ job', s'.jobs.find? id = some job' ∧ job'.idempotencyKey = job.idempotencyKey ∧
      job'.type = job.type ∧ job'.payloadJson = job.payloadJson ∧
        (job.status ≠ .failed → job'.status = job.status) := by
  have hsame : s'.jobs.find? id = some job → ∃ job', s'.jobs.find? id = some job' ∧
      job'.idempotencyKey = job.idempotencyKey ∧ job'.type = job.type ∧
        job'.payloadJson = job.payloadJson ∧ (job.status ≠ .failed → job'.status = job.status) :=
    fun hsame => ⟨job, hsame, rfl, rfl, rfl, fun _ => rfl⟩
  have hother : ∀ {new : Job}, s.jobs.find? new.id = none → s.jobs.Puts s'.jobs new →
      s'.jobs.find? id = some job := by
    intro new hfresh hputs
    rw [hputs.other id, hfind]
    rintro rfl
    rw [hfresh] at hfind
    cases hfind
  cases h with
  | unchanged _ hjobs => exact hsame (hjobs ▸ hfind)
  | asked hfresh _ _ _ hputs => exact hsame (hother hfresh hputs)
  | decided _ _ _ _ hjobs => exact hsame (hjobs ▸ hfind)
  | enqueued _ _ _ _ _ hjob hqueued => exact hsame (hother hjob.fresh hqueued)
  | @retried retried hold hfailed _ hputs =>
      by_cases hid : id = retried.id
      · rw [hid, hold] at hfind
        cases hfind
        rw [hid]
        exact ⟨_, hputs.self, rfl, rfl, rfl, fun hne => absurd hfailed hne⟩
      · exact hsame ((hputs.other id hid).trans hfind)

/-- A request leaves a decided row alone, and the payload of a pending one but for the
decision. -/
theorem Served.approval_kept {req : Request} (h : Served req s s') {id : String}
    {row : ApprovalRequest} (hfind : s.approvals.find? id = some row) :
    ∃ row', s'.approvals.find? id = some row' ∧ (row.status ≠ .pending → row' = row) ∧
      ∀ k, k ≠ "decision" →
        (loads row'.payloadJson).get? k = (loads row.payloadJson).get? k := by
  have hsame : s'.approvals = s.approvals → ∃ row', s'.approvals.find? id = some row' ∧
      (row.status ≠ .pending → row' = row) ∧ ∀ k, k ≠ "decision" →
        (loads row'.payloadJson).get? k = (loads row.payloadJson).get? k :=
    fun hsame => ⟨row, hsame ▸ hfind, fun _ => rfl, fun _ _ => rfl⟩
  have hdecided : ∀ {old : ApprovalRequest} {status decision now},
      s.approvals.find? old.id = some old → old.status = .pending →
        s.approvals.Puts s'.approvals (ApprovalService.decided old status decision now) →
      ∃ row', s'.approvals.find? id = some row' ∧ (row.status ≠ .pending → row' = row) ∧
        ∀ k, k ≠ "decision" →
          (loads row'.payloadJson).get? k = (loads row.payloadJson).get? k := by
    intro old status decision now hold hpending hputs
    by_cases hid : id = old.id
    · rw [hid, hold] at hfind
      cases hfind
      rw [hid]
      exact ⟨_, hputs.self, fun hne => absurd hpending hne, fun _ hk => decided_get hk⟩
    · exact ⟨row, (hputs.other id hid).trans hfind, fun _ => rfl, fun _ _ => rfl⟩
  cases h with
  | unchanged happrovals _ => exact hsame happrovals
  | asked _ _ _ happrovals _ => exact hsame happrovals
  | decided hold hpending _ hputs _ => exact hdecided hold hpending hputs
  | enqueued hold hpending _ _ hputs _ _ => exact hdecided hold hpending hputs
  | retried _ _ happrovals _ => exact hsame happrovals

/-- The decision is stored or it is not; what the caller gets is the stored row. -/
theorem runs_recordDecision {row new : ApprovalRequest} {e : NewEvent}
    {result : Except PyErr ApprovalRequest} (hfind : s.approvals.find? row.id = some row)
    (hid : new.id = row.id) (hnew : row.updated new row = new)
    (h : Prog.Runs adm (recordDecision row new e) s trace result s') :
    s'.jobs = s.jobs ∧
      (s'.approvals = s.approvals ∧ (∃ error, result = .error error) ∨
        s.approvals.Puts s'.approvals new ∧ ∀ row', result = .ok row' → row' = new) := by
  obtain ⟨r, rest, rfl, _, ⟨s₁, hrun, hrest⟩ | ⟨error, _, _, rfl, rfl⟩⟩ := runs_commit_bind h
  · have happly := (Transaction.run_eq_ok.mp hrun).2
    have hjobs : s₁.jobs = s.jobs :=
      Transaction.jobs_of_apply happly (by simp [Transaction.target])
    have hputs : s.approvals.Puts s₁.approvals new := by
      have hupdated := Transaction.puts_updateApproval hfind happly
      rwa [hnew] at hupdated
    obtain ⟨table, ⟨event, _, _, rfl, _, hreload⟩ | ⟨rfl, error, rfl⟩⟩ := runs_record_bind hrest
    · rw [← Prog.bind_pure (reload row.id)] at hreload
      have hread : ({ s₁ with auditEvents := table } : Database).approvals.find? row.id =
          some new :=
        hid ▸ hputs.self
      obtain ⟨r', _, rfl, hlast⟩ := runs_reload_bind hread hreload
      obtain ⟨rfl, rfl, rfl⟩ := Prog.runs_pure hlast
      exact ⟨hjobs, Or.inr ⟨hputs, by rintro _ ⟨⟩; rfl⟩⟩
    · exact ⟨hjobs, Or.inr ⟨hputs, by rintro _ ⟨⟩⟩⟩
  · exact ⟨rfl, Or.inl ⟨rfl, error, rfl⟩⟩

theorem hasDraft_decided {row : ApprovalRequest} {status : ApprovalStatus} {decision : Dict}
    {now : Moment} : HasDraft (decided row status decision now) ↔ HasDraft row := by
  unfold HasDraft
  rw [decided_get (by decide)]

/-- What an attempt to decide has done: nothing, or the decision of a pending row. -/
def Decided (id : String) (status : ApprovalStatus) (s s' : Database)
    (result : Except PyErr ApprovalRequest) : Prop :=
  s'.jobs = s.jobs ∧
    (s'.approvals = s.approvals ∧ (∃ error, result = .error error) ∨
      ∃ row decision now, row.id = id ∧ s.approvals.find? row.id = some row ∧
        row.status = .pending ∧
        s.approvals.Puts s'.approvals (decided row status decision now) ∧
        ∀ row', result = .ok row' → row' = decided row status decision now)

theorem decided_of_runs {id : String} {row : ApprovalRequest} {status : ApprovalStatus}
    {decision : Dict} {now : Moment} {e : NewEvent} {result : Except PyErr ApprovalRequest}
    (hfind : s.approvals.find? id = some row) (hpending : row.status = .pending)
    (h : Prog.Runs adm (recordDecision row (decided row status decision now) e) s trace
      result s') : Decided id status s s' result := by
  have hid : row.id = id := Table.key_of_find? hfind
  have hstored : s.approvals.find? row.id = some row := hid ▸ hfind
  have hsame : (decided row status decision now).id = row.id := rfl
  obtain ⟨hjobs, ⟨hkept, herror⟩ | ⟨hputs, hreturns⟩⟩ :=
    runs_recordDecision hstored hsame (updated_decided row status decision now) h
  · exact ⟨hjobs, Or.inl ⟨hkept, herror⟩⟩
  · exact ⟨hjobs, Or.inr ⟨row, decision, now, hid, hstored, hpending, hputs, hreturns⟩⟩

theorem decided_of_approve {id actor : String} {note tenantId : Option String}
    {result : Except PyErr ApprovalRequest}
    (h : Prog.Runs adm (approve id actor note tenantId) s trace result s') :
    Decided id .approved s s' result := by
  rcases runs_approve_checked h with ⟨row, now, rest, hfind, hpending, _, hdecide⟩ |
      ⟨rfl, message, rfl⟩
  · exact decided_of_runs hfind hpending hdecide
  · exact ⟨rfl, Or.inl ⟨rfl, _, rfl⟩⟩

theorem decided_of_reject {id actor reason : String} {tenantId : Option String}
    {result : Except PyErr ApprovalRequest}
    (h : Prog.Runs adm (reject id actor reason tenantId) s trace result s') :
    Decided id .rejected s s' result := by
  rcases runs_reject_checked h with ⟨row, now, rest, hfind, hpending, hdecide⟩ |
      ⟨rfl, message, rfl⟩
  · exact decided_of_runs hfind hpending hdecide
  · exact ⟨rfl, Or.inl ⟨rfl, _, rfl⟩⟩

/-- The enqueue inserts one job at most. -/
theorem runs_enqueueEmailSendJob {approval : ApprovalRequest} {result : Except PyErr Job}
    (h : Prog.Runs adm (enqueueEmailSendJob approval) s trace result s') :
    s'.approvals = s.approvals ∧ (s'.jobs = s.jobs ∨
      ∃ job, SendQueued approval s.jobs job ∧ s.jobs.Puts s'.jobs job) := by
  have hreads : Calls SelectCall (validateSendEnqueueEligibility approval) :=
    validateSendEnqueueEligibility_reads (fun _ => .select _) approval
  unfold enqueueEmailSendJob at h
  rw [Prog.bind_eq] at h
  rcases Prog.runs_bind h with ⟨_, s₁, _, _, hcheck, hrest, _⟩ | ⟨e, hcheck, _⟩
  · obtain rfl := hreads.unchanged hcheck
    rw [Prog.bind_eq] at hrest
    obtain ⟨r, rest, _, hfound⟩ := runs_select_bind hrest
    cases hexisting : s₁.jobs.findUnique? (sendKey approval.id) with
    | some existing =>
        rw [hexisting] at hfound
        obtain ⟨table, ⟨_, _, _, _, _, hend⟩ | ⟨rfl, _⟩⟩ := runs_record_bind hfound
        · obtain ⟨_, _, rfl⟩ := Prog.runs_pure hend
          exact ⟨rfl, Or.inl rfl⟩
        · exact ⟨rfl, Or.inl rfl⟩
    | none =>
        rw [hexisting] at hfound
        simp only [createJob, Prog.bind_eq, Prog.bind_assoc, Prog.pure_eq,
          Prog.pure_bind] at hfound
        obtain ⟨r', rest', _, _, ⟨s₂, hrun, hrecord⟩ | ⟨_, _, _, _, rfl⟩⟩ :=
          runs_commit_bind hfound
        · have happly := (Transaction.run_eq_ok.mp hrun).2
          have happrovals : s₂.approvals = s₁.approvals :=
            Transaction.approvals_of_apply happly (by simp [Transaction.target])
          have hputs := Transaction.puts_insertJob happly
          have hfresh := (Transaction.find_insertJob happly).1
          obtain ⟨table, ⟨_, _, _, _, _, hend⟩ | ⟨rfl, _⟩⟩ := runs_record_bind hrecord
          · obtain ⟨_, _, rfl⟩ := Prog.runs_pure hend
            exact ⟨happrovals, Or.inr ⟨_, ⟨hfresh, rfl, rfl, rfl, rfl, rfl, rfl⟩, hputs⟩⟩
          · exact ⟨happrovals, Or.inr ⟨_, ⟨hfresh, rfl, rfl, rfl, rfl, rfl, rfl⟩, hputs⟩⟩
        · exact ⟨rfl, Or.inl rfl⟩
  · obtain rfl := hreads.unchanged hcheck
    exact ⟨rfl, Or.inl rfl⟩

theorem runs_enqueueAfter {row : ApprovalRequest} {result : Except PyErr (Option String)}
    (h : Prog.Runs adm (enqueueAfterApproval row) s trace result s') :
    s'.approvals = s.approvals ∧ (s'.jobs = s.jobs ∨
      HasDraft row ∧ ∃ job, SendQueued row s.jobs job ∧ s.jobs.Puts s'.jobs job) := by
  unfold enqueueAfterApproval at h
  split at h
  · next hshould =>
      have hdraft : HasDraft row := by
        simp only [shouldEnqueueEmailSendAfterApproval, Bool.and_eq_true] at hshould
        exact hshould.1.2
      have hqueued : ∀ {first result s₁}, Prog.Runs adm (tryCatch (enqueueEmailSendJob row)
          fun e => throw (httpError none e)) s first result s₁ →
          s₁.approvals = s.approvals ∧ (s₁.jobs = s.jobs ∨
            HasDraft row ∧ ∃ job, SendQueued row s.jobs job ∧ s.jobs.Puts s₁.jobs job) := by
        intro first result s₁ hrun
        have henqueue : ∃ result', Prog.Runs adm (enqueueEmailSendJob row) s first result' s₁ := by
          rcases runs_translated hrun with ⟨_, hreturned, _⟩ | ⟨_, hraised, _⟩
          · exact ⟨_, hreturned⟩
          · exact ⟨_, hraised⟩
        obtain ⟨result', henqueue⟩ := henqueue
        obtain ⟨happrovals, hjobs⟩ := runs_enqueueEmailSendJob henqueue
        exact ⟨happrovals, hjobs.imp_right fun hjob => ⟨hdraft, hjob⟩⟩
      rcases Prog.runs_bind h with ⟨job, s₁, _, _, henqueue, hlast, _⟩ | ⟨e, henqueue, _⟩
      · obtain ⟨_, _, rfl⟩ := Prog.runs_pure hlast
        exact hqueued henqueue
      · exact hqueued henqueue
  · obtain ⟨_, _, rfl⟩ := Prog.runs_pure h
    exact ⟨rfl, Or.inl rfl⟩

omit [Deployment] in
/-- What a route with a translated exception has done is what its service has done. -/
theorem runs_of_translated {α : Type} {p : Session α} {f : PyErr → PyErr}
    {result : Except PyErr α}
    (h : Prog.Runs adm (tryCatch p fun e => throw (f e)) s trace result s') :
    ∃ result', Prog.Runs adm p s trace result' s' ∧
      ∀ value, result = .ok value → result' = .ok value := by
  rcases runs_translated h with ⟨value, hreturned, rfl⟩ | ⟨e, hraised, rfl⟩
  · exact ⟨_, hreturned, fun _ h => h⟩
  · exact ⟨_, hraised, by rintro _ ⟨⟩⟩

theorem served_approve {id actor : String} {note tenantId : Option String}
    {result : Except PyErr ApprovalDecision}
    (h : Prog.Runs adm (approveRequest id actor note tenantId) s trace result s') :
    Served (.approve id actor note tenantId) s s' := by
  have hdecided : ∀ {first result s₁}, Prog.Runs adm (tryCatch
      (approve id actor note tenantId) fun e => throw (httpError (some "approval_not_found") e))
      s first result s₁ → Decided id .approved s s₁ result := by
    intro first result s₁ hrun
    obtain ⟨result', hreturned, hsame⟩ := runs_of_translated hrun
    obtain ⟨hjobs, ⟨happrovals, e, rfl⟩ | ⟨row, decision, now, hid, hfind, hpending, hputs,
      hreturns⟩⟩ := decided_of_approve hreturned
    · refine ⟨hjobs, Or.inl ⟨happrovals, ?_⟩⟩
      cases result with
      | ok value => cases hsame value rfl
      | error e => exact ⟨e, rfl⟩
    · exact ⟨hjobs, Or.inr ⟨row, decision, now, hid, hfind, hpending, hputs,
        fun row' hrow' => hreturns row' (hsame row' hrow')⟩⟩
  unfold approveRequest at h
  rw [Prog.bind_eq] at h
  rcases Prog.runs_bind h with ⟨new, s₁, _, _, happrove, hrest, _⟩ | ⟨e, happrove, _⟩
  · obtain ⟨hjobs, ⟨_, e, herror⟩ | ⟨row, decision, now, rfl, hfind, hpending, hputs,
      hreturns⟩⟩ := hdecided happrove
    · cases herror
    · obtain rfl := hreturns new rfl
      have hasks : decisionOn row.id (.approve row.id actor note tenantId) =
          some .approved := if_pos rfl
      have hafter : ∀ {s₂}, s₂.approvals = s₁.approvals → (s₂.jobs = s₁.jobs ∨
          HasDraft (decided row .approved decision now) ∧ ∃ job,
            SendQueued (decided row .approved decision now) s₁.jobs job ∧
              s₁.jobs.Puts s₂.jobs job) →
          Served (.approve row.id actor note tenantId) s s₂ := by
        rintro s₂ happrovals (hsame | ⟨hdraft, job, hjob, hqueued⟩)
        · exact .decided hfind hpending hasks (happrovals ▸ hputs) (hsame.trans hjobs)
        · rw [hjobs] at hjob hqueued
          exact .enqueued hfind hpending hasks (hasDraft_decided.mp hdraft)
            (happrovals ▸ hputs) hjob hqueued
      rcases Prog.runs_bind hrest with ⟨_, s₂, _, _, henqueue, hdetail, _⟩ | ⟨e, henqueue, _⟩
      · obtain ⟨_, hread, _⟩ := Prog.runs_bind_pure hdetail
        obtain rfl := (enrichApprovalDetail_reads _).unchanged hread
        obtain ⟨happrovals, hqueued⟩ := runs_enqueueAfter henqueue
        exact hafter happrovals hqueued
      · obtain ⟨happrovals, hqueued⟩ := runs_enqueueAfter henqueue
        exact hafter happrovals hqueued
  · obtain ⟨hjobs, ⟨happrovals, _⟩ | ⟨row, decision, now, rfl, hfind, hpending, hputs, _⟩⟩ :=
      hdecided happrove
    · exact .unchanged happrovals hjobs
    · exact .decided hfind hpending (if_pos rfl) hputs hjobs

/-- A rejection that is answered has been stored. -/
theorem served_reject {id actor reason : String} {tenantId : Option String}
    {result : Except PyErr ApprovalDetail}
    (h : Prog.Runs adm (rejectRequest id actor reason tenantId) s trace result s') :
    Served (.reject id actor reason tenantId) s s' ∧ ((∃ detail, result = .ok detail) →
      ∃ row, s'.approvals.find? id = some row ∧ row.status = .rejected) := by
  have hdecided : ∀ {first result s₁}, Prog.Runs adm (tryCatch
      (reject id actor reason tenantId) fun e => throw (httpError (some "approval_not_found") e))
      s first result s₁ → Served (.reject id actor reason tenantId) s s₁ ∧
        ((∃ new, result = .ok new) →
          ∃ row, s₁.approvals.find? id = some row ∧ row.status = .rejected) := by
    intro first result s₁ hrun
    obtain ⟨result', hreturned, hsame⟩ := runs_of_translated hrun
    obtain ⟨hjobs, ⟨happrovals, e, rfl⟩ | ⟨row, decision, now, rfl, hfind, hpending, hputs, _⟩⟩ :=
      decided_of_reject hreturned
    · refine ⟨.unchanged happrovals hjobs, ?_⟩
      rintro ⟨new, rfl⟩
      cases hsame new rfl
    · exact ⟨.decided hfind hpending (if_pos rfl) hputs hjobs, fun _ => ⟨_, hputs.self, rfl⟩⟩
  unfold rejectRequest at h
  rw [Prog.bind_eq] at h
  rcases Prog.runs_bind h with ⟨new, s₁, _, _, hreject, hdetail, _⟩ | ⟨e, hreject, rfl⟩
  · obtain rfl := (enrichApprovalDetail_reads _).unchanged hdetail
    exact ⟨(hdecided hreject).1, fun _ => (hdecided hreject).2 ⟨new, rfl⟩⟩
  · exact ⟨(hdecided hreject).1, by rintro ⟨_, ⟨⟩⟩⟩

theorem served_retry {id : String} {tenantId : Option String} {result : Except PyErr Job}
    (h : Prog.Runs adm (retryFailedJob id tenantId) s trace result s') :
    Served (.retry id tenantId) s s' := by
  unfold retryFailedJob at h
  rw [Prog.bind_eq] at h
  obtain ⟨r, rest, _, hloaded⟩ := runs_select_bind h
  cases hjob : (s.job? (.str id)).filter fun job =>
      tenantId = none ∨ job.tenantId = tenantId with
  | none =>
      rw [hjob] at hloaded
      obtain ⟨_, _, rfl⟩ := Prog.runs_raise hloaded
      exact .unchanged rfl rfl
  | some job =>
      rw [hjob] at hloaded
      dsimp only at hloaded
      have hfind : s.jobs.find? id = some job := (Option.filter_eq_some_iff.mp hjob).1
      obtain rfl : job.id = id := Table.key_of_find? hfind
      split at hloaded
      · obtain ⟨_, _, rfl⟩ := Prog.runs_raise hloaded
        exact .unchanged rfl rfl
      · split at hloaded
        · obtain ⟨_, _, rfl⟩ := Prog.runs_raise hloaded
          exact .unchanged rfl rfl
        · next hfailed =>
            rcases Prog.runs_bind hloaded with ⟨_, s₁, _, _, hcheck, hrest, _⟩ | ⟨e, hcheck, _⟩
            · obtain ⟨rfl, _⟩ := runs_assertEmailSendRetryAllowed hcheck
              obtain ⟨r', rest', _, _, ⟨s₂, hrun, hrefresh⟩ | ⟨_, _, _, _, rfl⟩⟩ :=
                runs_commit_bind hrest
              · have happly := (Transaction.run_eq_ok.mp hrun).2
                have hreads : Calls SelectCall (refreshJob job.id) :=
                  refreshJob_calls (.select _)
                obtain rfl := hreads.unchanged hrefresh
                have hputs := Transaction.puts_updateJob hfind happly
                refine .retried hfind (not_not.mp hfailed)
                  (Transaction.approvals_of_apply happly (by simp [Transaction.target])) ?_
                simpa [Job.updated] using hputs
              · exact .unchanged rfl rfl
            · obtain ⟨rfl, _⟩ := runs_assertEmailSendRetryAllowed hcheck
              exact .unchanged rfl rfl

theorem served_chat {body : ChatRequest} {tenantId : Option String}
    {result : Except PyErr ChatResponse}
    (h : Prog.Runs adm (Api.chat body tenantId) s trace result s') :
    Served (.chat body tenantId) s s' := by
  unfold Api.chat createJob at h
  simp only [Prog.bind_eq, Prog.bind_assoc, Prog.pure_eq, Prog.pure_bind] at h
  obtain ⟨r, rest, _, _, ⟨s₁, hrun, hend⟩ | ⟨_, _, _, _, rfl⟩⟩ := runs_commit_bind h
  · obtain ⟨_, _, rfl⟩ := Prog.runs_pure hend
    have happly := (Transaction.run_eq_ok.mp hrun).2
    exact .asked (Transaction.find_insertJob happly).1 rfl rfl
      (Transaction.approvals_of_apply happly (by simp [Transaction.target]))
      (Transaction.puts_insertJob happly)
  · exact .unchanged rfl rfl

/-- Every request is served so, and a rejection that is answered has been stored. -/
theorem served_request {req : Request} {result : Except PyErr Outcome}
    (h : Prog.Runs adm (handleRequest req) s trace result s') :
    Served req s s' ∧ ∀ id actor reason tenantId, req = .reject id actor reason tenantId →
      (∃ outcome, result = .ok outcome) →
      ∃ row, s'.approvals.find? id = some row ∧ row.status = .rejected := by
  unfold handleRequest at h
  rw [Prog.bind_eq] at h
  obtain ⟨response, hserve, hok⟩ : ∃ response, Prog.Runs adm (serve req) s trace response s' ∧
      ((∃ outcome, result = .ok outcome) → ∃ value, response = .ok value) := by
    rcases Prog.runs_bind h with ⟨value, s₁, _, _, hserve, hend, rfl⟩ | ⟨e, hserve, rfl⟩
    · obtain ⟨rfl, _, rfl⟩ := Prog.runs_pure hend
      rw [List.append_nil]
      exact ⟨_, hserve, fun _ => ⟨value, rfl⟩⟩
    · exact ⟨_, hserve, by rintro ⟨_, ⟨⟩⟩⟩
  cases req with
  | chat body tenantId =>
      obtain ⟨_, hchat, _⟩ := Prog.runs_bind_pure hserve
      exact ⟨served_chat hchat, by rintro _ _ _ _ ⟨⟩⟩
  | approve id actor note tenantId =>
      obtain ⟨_, happrove, _⟩ := Prog.runs_bind_pure hserve
      exact ⟨served_approve happrove, by rintro _ _ _ _ ⟨⟩⟩
  | reject id actor reason tenantId =>
      obtain ⟨detail, hreject, hmap⟩ := Prog.runs_bind_pure hserve
      obtain ⟨hserved, hstored⟩ := served_reject hreject
      refine ⟨hserved, ?_⟩
      rintro _ _ _ _ ⟨⟩ houtcome
      obtain ⟨value, rfl⟩ := hok houtcome
      apply hstored
      cases detail with
      | ok detail => exact ⟨detail, rfl⟩
      | error e => cases hmap
  | retry id tenantId =>
      obtain ⟨_, hretry, _⟩ := Prog.runs_bind_pure hserve
      refine ⟨?_, by rintro _ _ _ _ ⟨⟩⟩
      unfold retryJob at hretry
      rw [Prog.bind_eq] at hretry
      rcases Prog.runs_bind hretry with ⟨_, s₁, _, _, hfirst, hrest, _⟩ | ⟨e, hfirst, _⟩
      · obtain ⟨r, rest, _, hfound⟩ := runs_select_bind hrest
        have hsame : s' = s₁ := by
          split at hfound
          · exact (Prog.runs_raise hfound).2.2
          · exact (Prog.runs_pure hfound).2.2
        rw [hsame]
        obtain ⟨_, hretried, _⟩ := runs_of_translated hfirst
        exact served_retry hretried
      · obtain ⟨_, hretried, _⟩ := runs_of_translated hfirst
        exact served_retry hretried

end

end ControlPlane
