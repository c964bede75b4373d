import ControlPlane.Approvals.SendGate
import ControlPlane.Services.SteadySteps
import ControlPlane.System.Processes

/-!
What the requests leave in steady surroundings. A request calls nobody outside, and one that
is refused has stored nothing.
-/

namespace ControlPlane

open Lib JobService AuditService ApprovalService Api

section

variable [Deployment] {id actor : String} {tenantId : Option String}
  {adm : (q : Call) → Reply q → Database → Prop} {s s' : Database}
  {trace : List (Event Call Reply)}

theorem RequestCall.inward {q : Call} (h : RequestCall q) : q.outward = false := by
  rcases h with (_ | _ | _) | (_ | _) | (_ | _ | _) <;> rfl

theorem handleRequest_quiet {req : Request} {result : Except PyErr Outcome}
    (h : Prog.Runs adm (handleRequest req) s trace result s') : outward trace = [] :=
  Calls.quiet ((handleRequest_calls req).mono fun _ => RequestCall.inward) h

/-- The row that a rejection leaves. -/
def rejectedRow (row : ApprovalRequest) (actor reason : String) (now : Moment) :
    ApprovalRequest :=
  decided row .rejected [("status", .str "rejected"), ("actor", .str actor),
    ("reason", .str reason)] now

def rejectedEvent (row : ApprovalRequest) (actor reason : String) : NewEvent where
  action := AuditAction.approvalRejected
  resourceType := "approval"
  resourceId := row.id
  tenantId := row.tenantId
  actor := some actor
  metadata := some [("reason", .str reason)]

/-- What is refused is refused before the decision. -/
theorem runs_reject_checked {reason : String} {result : Except PyErr ApprovalRequest}
    (h : Prog.Runs adm (reject id actor reason tenantId) s trace result s') :
    (∃ row now rest, s.approvals.find? id = some row ∧ row.status = .pending ∧
      Prog.Runs adm (recordDecision row (rejectedRow row actor reason now)
        (rejectedEvent row actor reason)) s rest result s') ∨
    s' = s ∧ ∃ message, result = .error (.valueError message) := by
  unfold reject getRequestAt at h
  rw [Prog.bind_eq] at h
  obtain ⟨r, rest, rfl, hloaded⟩ := runs_select_bind h
  dsimp only at hloaded
  cases hrow : (s.approval? (.str id)).filter fun row =>
      tenantId = none ∨ row.tenantId = tenantId with
  | none =>
      rw [hrow] at hloaded
      obtain ⟨_, rfl, rfl⟩ := Prog.runs_raise hloaded
      exact Or.inr ⟨rfl, _, rfl⟩
  | some row =>
      rw [hrow] at hloaded
      dsimp only at hloaded
      have hfind : s.approvals.find? id = some row := (Option.filter_eq_some_iff.mp hrow).1
      split at hloaded
      · obtain ⟨_, rfl, rfl⟩ := Prog.runs_raise hloaded
        exact Or.inr ⟨rfl, _, rfl⟩
      · next hpending =>
          exact Or.inl ⟨row, r.now, rest, hfind, not_not.mp hpending, hloaded⟩

variable {heard : (q : Call) → Reply q → Prop}

/-- A decision on a row is stored and recorded. -/
def DecidedAs (new : ApprovalRequest) (e : NewEvent) (s s' : Database) : Prop :=
  ∃ (approvals : ApprovalTable) (events : AuditTable),
    s.approvals.Puts approvals new ∧ Appended e s.auditEvents events ∧
      s' = { s with approvals := approvals, auditEvents := events }

theorem steady_recordDecision {row new : ApprovalRequest} {e : NewEvent}
    {result : Except PyErr ApprovalRequest} (hrow : s.approvals.find? row.id = some row)
    (h : Prog.Runs (steady heard) (recordDecision row new e) s trace result s')
    (hid : new.id = row.id) (hnew : row.updated new row = new) :
    result = .ok new ∧ DecidedAs new e s s' := by
  obtain ⟨r, approvals, rest₁, _, hputs, hrecord⟩ := steady_updateApproval_bind hrow hnew h
  obtain ⟨_, events, rest₂, _, hevents, hreload⟩ := steady_record_bind hrecord
  rw [← Prog.bind_pure (reload row.id)] at hreload
  obtain ⟨r', rest₃, rfl, hlast⟩ := runs_reload_bind (hid ▸ hputs.self) hreload
  obtain ⟨rfl, rfl, rfl⟩ := Prog.runs_pure hlast
  exact ⟨rfl, approvals, events, hputs, hevents, rfl⟩

theorem steady_approve {note : Option String} {result : Except PyErr ApprovalRequest}
    (h : Prog.Runs (steady heard) (approve id actor note tenantId) s trace result s') :
    (∃ row now, s.approvals.find? id = some row ∧ row.status = .pending ∧
      (HasDraft row → gateError s row = none) ∧
      result = .ok (approvedRow row actor note now) ∧
      DecidedAs (approvedRow row actor note now) (approvedEvent row actor note) s s') ∨
    s' = s ∧ ∃ message, result = .error (.valueError message) := by
  rcases runs_approve_checked h with ⟨row, now, rest, hfind, hstatus, hgate, hdecide⟩ | hrefused
  · have hstored : s.approvals.find? row.id = some row := by
      rw [Table.key_of_find? hfind]
      exact hfind
    obtain ⟨hresult, hdone⟩ :=
      steady_recordDecision hstored hdecide rfl (updated_decided _ _ _ _)
    exact Or.inl ⟨row, now, hfind, hstatus, hgate, hresult, hdone⟩
  · exact Or.inr hrefused

theorem steady_reject {reason : String} {result : Except PyErr ApprovalRequest}
    (h : Prog.Runs (steady heard) (reject id actor reason tenantId) s trace result s') :
    (∃ row now, s.approvals.find? id = some row ∧ row.status = .pending ∧
      result = .ok (rejectedRow row actor reason now) ∧
      DecidedAs (rejectedRow row actor reason now) (rejectedEvent row actor reason) s s') ∨
    s' = s ∧ ∃ message, result = .error (.valueError message) := by
  rcases runs_reject_checked h with ⟨row, now, rest, hfind, hstatus, hdecide⟩ | hrefused
  · have hstored : s.approvals.find? row.id = some row := by
      rw [Table.key_of_find? hfind]
      exact hfind
    obtain ⟨hresult, hdone⟩ :=
      steady_recordDecision hstored hdecide rfl (updated_decided _ _ _ _)
    exact Or.inl ⟨row, now, hfind, hstatus, hresult, hdone⟩
  · exact Or.inr hrefused

def enqueuedEvent (approval : ApprovalRequest) (jobId : String) : NewEvent where
  action := AuditAction.sendJobEnqueued
  resourceType := "approval"
  resourceId := approval.id
  tenantId := approval.tenantId
  metadata := some [("job_id", .str jobId)]

/-- A new job for the send of an approved request. -/
structure SendQueued (approval : ApprovalRequest) (jobs : JobTable) (job : Job) : Prop where
  fresh : jobs.find? job.id = none
  type_eq : job.type = emailSendApprovedType
  status_eq : job.status = .pending
  key_eq : job.idempotencyKey = some (sendKey approval.id)
  payload_eq : job.payloadJson = some [("approval_id", .str approval.id)]
  tenant_eq : job.tenantId = approval.tenantId
  attempts_eq : job.attempts = 0

theorem steady_enqueue {approval : ApprovalRequest} {result : Except PyErr Job}
    (hstatus : approval.status = .approved) (hdraft : HasDraft approval)
    (hgate : gateError s approval = none)
    (hnone : s.jobs.findUnique? (sendKey approval.id) = none)
    (h : Prog.Runs (steady heard) (enqueueEmailSendJob approval) s trace result s') :
    ∃ (job : Job) (jobs : JobTable) (events : AuditTable), result = .ok job ∧
      SendQueued approval s.jobs job ∧ s.jobs.Puts jobs job ∧
      Appended (enqueuedEvent approval job.id) s.auditEvents events ∧
      s' = { s with jobs := jobs, auditEvents := events } := by
  unfold enqueueEmailSendJob validateSendEnqueueEligibility at h
  rw [if_neg (not_not.mpr hstatus), Prog.bind_eq, Prog.bind_eq, Prog.bind_assoc] at h
  rcases Prog.runs_bind h with ⟨_, s₁, _, _, hcheck, hrest, rfl⟩ | ⟨e, hcheck, _⟩
  · obtain ⟨rfl, _⟩ := runs_validateOutboundSendGate hcheck
    rw [hdraft] at hrest
    simp only [Bool.not_true, Bool.false_eq_true, if_false, Prog.pure_eq, Prog.pure_bind,
      Prog.bind_eq] at hrest
    obtain ⟨r, rest₁, _, hfound⟩ := steady_select_bind hrest
    rw [hnone] at hfound
    simp only [createJob, Prog.bind_eq, Prog.bind_assoc, Prog.pure_eq, Prog.pure_bind] at hfound
    obtain ⟨r', jobs, rest₂, _, _, hfresh, hputs, hrecord⟩ := steady_insertJob_bind hfound
    obtain ⟨_, events, rest₃, _, hevents, hend⟩ := steady_record_bind hrecord
    obtain ⟨rfl, rfl, rfl⟩ := Prog.runs_pure hend
    exact ⟨_, jobs, events, rfl, ⟨hfresh, rfl, rfl, rfl, rfl, rfl, rfl⟩, hputs, hevents, rfl⟩
  · obtain ⟨_, hresult⟩ := runs_validateOutboundSendGate hcheck
    rw [hgate] at hresult
    cases hresult

/-- A program that only reads. -/
inductive SelectCall : Call → Prop where
  | select (query : Query) : SelectCall (.select query)

theorem Calls.unchanged {α : Type} {p : Session α} {result : Except PyErr α}
    (hp : Calls SelectCall p) (h : Prog.Runs adm p s trace result s') : s' = s := by
  have hkeeps : id s' = id s := by
    refine Calls.run_keeps hp ?_ h
    rintro q ⟨query⟩ r s
    rfl
  exact hkeeps

theorem enrichApprovalDetail_reads (id : String) :
    Calls SelectCall (enrichApprovalDetail id) :=
  (reload_calls (.select _)).bind fun _ =>
    (calls_select (.select _)).bind fun _ => calls_pure _

/-- What an approve request leaves. -/
inductive Approved (id actor : String) (note : Option String) (s : Database) :
    Database → Prop where
  | refused : Approved id actor note s s
  | kept {row : ApprovalRequest} {now : Moment} {s' : Database}
      (hfind : s.approvals.find? id = some row) (hstatus : row.status = .pending)
      (hdraft : ¬HasDraft row)
      (hdone : DecidedAs (approvedRow row actor note now) (approvedEvent row actor note) s s') :
      Approved id actor note s s'
  | queued {row : ApprovalRequest} {now : Moment} {s₁ : Database} {job : Job}
      {jobs : JobTable} {events : AuditTable} (hfind : s.approvals.find? id = some row)
      (hstatus : row.status = .pending) (hdraft : HasDraft row)
      (hdone : DecidedAs (approvedRow row actor note now) (approvedEvent row actor note) s s₁)
      (hjob : SendQueued (approvedRow row actor note now) s₁.jobs job)
      (hputs : s₁.jobs.Puts jobs job)
      (hevents : Appended (enqueuedEvent (approvedRow row actor note now) job.id)
        s₁.auditEvents events) :
      Approved id actor note s { s₁ with jobs := jobs, auditEvents := events }

inductive Rejected (id actor reason : String) (s : Database) : Database → Prop where
  | refused : Rejected id actor reason s s
  | done {row : ApprovalRequest} {now : Moment} {s' : Database}
      (hfind : s.approvals.find? id = some row) (hstatus : row.status = .pending)
      (hdone : DecidedAs (rejectedRow row actor reason now) (rejectedEvent row actor reason)
        s s') : Rejected id actor reason s s'

/-- The request of a pending row finds no job for it. -/
theorem steady_approveRequest {note : Option String} {result : Except PyErr ApprovalDecision}
    (hnone : ∀ row, s.approvals.find? id = some row → row.status = .pending →
      s.jobs.findUnique? (sendKey row.id) = none)
    (h : Prog.Runs (steady heard) (approveRequest id actor note tenantId) s trace result s') :
    Approved id actor note s s' := by
  unfold approveRequest at h
  rw [Prog.bind_eq] at h
  rcases Prog.runs_bind h with ⟨new, s₁, _, rest, happrove, hrest, rfl⟩ | ⟨e, happrove, rfl⟩
  · rcases runs_translated happrove with ⟨_, hreturned, hok⟩ | ⟨e, _, herror⟩
    · cases hok
      rcases steady_approve hreturned with ⟨row, now, hfind, hstatus, hgate, hnew, hdone⟩ |
        ⟨_, message, herror⟩
      · cases hnew
        have hjobs : s₁.jobs = s.jobs := by
          obtain ⟨approvals, events, _, _, rfl⟩ := hdone
          rfl
        obtain ⟨hdraft, hsame⟩ := approvedRow_gate row actor note now hjobs
        have hgate' : HasDraft (approvedRow row actor note now) →
            gateError s₁ (approvedRow row actor note now) = none :=
          fun h => hsame.trans (hgate (hdraft.mp h))
        have hdetail : ∀ {jobId : Option String} {s₂ : Database}
            {last : List (Event Call Reply)},
            Prog.Runs (steady heard) ((enrichApprovalDetail (approvedRow row actor note now).id)
              >>= fun detail => pure (⟨detail, jobId⟩ : ApprovalDecision)) s₂ last result s' →
            s' = s₂ :=
          Calls.unchanged ((enrichApprovalDetail_reads _).bind fun _ => calls_pure _)
        unfold enqueueAfterApproval at hrest
        by_cases hshould : shouldEnqueueEmailSendAfterApproval
            (approvedRow row actor note now) = true
        · have hdraft' := (shouldEnqueue_iff hgate').mp hshould
          have hfree : s₁.jobs.findUnique? (sendKey row.id) = none := by
            rw [hjobs]
            exact hnone row hfind hstatus
          rw [if_pos hshould] at hrest
          simp only [Prog.bind_eq, Prog.bind_assoc] at hrest
          rcases Prog.runs_bind hrest with ⟨job, s₂, _, _, henqueue, hlast, rfl⟩ |
              ⟨e, henqueue, rfl⟩
          · rcases runs_translated henqueue with ⟨_, hqueued, hok⟩ | ⟨_, _, herror⟩
            · cases hok
              obtain ⟨_, jobs, events, hjob, hqueuedAs, hputs, hevents, rfl⟩ :=
                steady_enqueue rfl hdraft' (hgate' hdraft') hfree hqueued
              cases hjob
              rw [hdetail hlast]
              exact .queued hfind hstatus (hdraft.mp hdraft') hdone hqueuedAs hputs hevents
            · cases herror
          · rcases runs_translated henqueue with ⟨_, _, hok⟩ | ⟨_, hraised, _⟩
            · cases hok
            · obtain ⟨_, _, _, hjob, _⟩ :=
                steady_enqueue rfl hdraft' (hgate' hdraft') hfree hraised
              cases hjob
        · rw [if_neg hshould] at hrest
          rw [hdetail hrest]
          exact .kept hfind hstatus
            (fun h => hshould ((shouldEnqueue_iff hgate').mpr (hdraft.mpr h))) hdone
      · cases herror
    · cases herror
  · rcases runs_translated happrove with ⟨_, _, hok⟩ | ⟨e', hraised, _⟩
    · cases hok
    · rcases steady_approve hraised with ⟨row, now, _, _, _, hresult, _⟩ | ⟨rfl, _⟩
      · cases hresult
      · exact .refused

theorem steady_rejectRequest {reason : String} {result : Except PyErr ApprovalDetail}
    (h : Prog.Runs (steady heard) (rejectRequest id actor reason tenantId) s trace result s') :
    Rejected id actor reason s s' := by
  unfold rejectRequest at h
  rw [Prog.bind_eq] at h
  rcases Prog.runs_bind h with ⟨new, s₁, _, rest, hreject, hrest, rfl⟩ | ⟨e, hreject, rfl⟩
  · obtain rfl := (enrichApprovalDetail_reads new.id).unchanged hrest
    rcases runs_translated hreject with ⟨_, hreturned, _⟩ | ⟨e, _, herror⟩
    · rcases steady_reject hreturned with ⟨row, now, hfind, hstatus, _, hdone⟩ | ⟨rfl, _⟩
      · exact .done hfind hstatus hdone
      · exact .refused
    · cases herror
  · rcases runs_translated hreject with ⟨_, _, hok⟩ | ⟨e', hraised, _⟩
    · cases hok
    · rcases steady_reject hraised with ⟨row, now, hfind, hstatus, _, hdone⟩ | ⟨rfl, _⟩
      · exact .done hfind hstatus hdone
      · exact .refused

/-- What stands against the retry of a send. -/
def retryError (s : Database) (job : Job) : Option String :=
  let aid := (loads job.payloadJson).get? "approval_id"
  if Json.truthy aid then
    ((s.approval? (aid.getD .null)).bind retryBlockedByApproval).orElse fun _ =>
      (s.delivery? (aid.getD .null)).bind retryBlockedByDelivery
  else none

omit [Deployment] in
theorem runs_assertEmailSendRetryAllowed {job : Job} {result : Except PyErr Unit}
    (h : Prog.Runs adm (assertEmailSendRetryAllowed job) s trace result s') :
    s' = s ∧ result = checked (retryError s job) := by
  unfold assertEmailSendRetryAllowed at h
  unfold retryError
  dsimp only at h ⊢
  split at h
  · next haid =>
      rw [if_pos haid]
      simp only [Prog.bind_eq] at h
      obtain ⟨_, _, rfl, happroval⟩ := runs_select_bind h
      cases hblocked : (s.approval? (((loads job.payloadJson).get? "approval_id").getD
          .null)).bind retryBlockedByApproval with
      | some message =>
          rw [hblocked] at happroval
          obtain ⟨_, rfl, rfl⟩ := Prog.runs_raise happroval
          exact ⟨rfl, rfl⟩
      | none =>
          rw [hblocked] at happroval
          obtain ⟨_, _, rfl, hdelivery⟩ := runs_select_bind happroval
          cases hsent : (s.delivery? (((loads job.payloadJson).get? "approval_id").getD
              .null)).bind retryBlockedByDelivery with
          | some message =>
              rw [hsent] at hdelivery
              obtain ⟨_, rfl, rfl⟩ := Prog.runs_raise hdelivery
              exact ⟨rfl, rfl⟩
          | none =>
              rw [hsent] at hdelivery
              obtain ⟨_, rfl, rfl⟩ := Prog.runs_pure hdelivery
              exact ⟨rfl, rfl⟩
  · next haid =>
      rw [if_neg haid]
      obtain ⟨_, rfl, rfl⟩ := Prog.runs_pure h
      exact ⟨rfl, rfl⟩

/-- A retry puts a failed send back, or raises and changes nothing. -/
theorem steady_retryFailedJob {result : Except PyErr Job}
    (h : Prog.Runs (steady heard) (retryFailedJob id tenantId) s trace result s') :
    (∃ job jobs, s.jobs.find? id = some job ∧ (tenantId = none ∨ job.tenantId = tenantId) ∧
      job.type = emailSendApprovedType ∧ job.status = .failed ∧ retryError s job = none ∧
      result = .ok { job with status := .pending, lastError := none } ∧
      s.jobs.Puts jobs { job with status := .pending, lastError := none } ∧
      s' = { s with jobs := jobs }) ∨
    s' = s ∧ (∃ message, result = .error (.valueError message)) ∧
      ∀ job, s.jobs.find? id = some job → (tenantId = none ∨ job.tenantId = tenantId) →
        job.type = emailSendApprovedType → job.status = .failed → retryError s job ≠ none := by
  unfold retryFailedJob getJobById at h
  rw [Prog.bind_eq] at h
  obtain ⟨r, rest, rfl, hloaded⟩ := runs_select_bind h
  cases hjob : (s.job? (.str id)).filter fun job =>
      tenantId = none ∨ job.tenantId = tenantId with
  | none =>
      rw [hjob] at hloaded
      obtain ⟨_, rfl, rfl⟩ := Prog.runs_raise hloaded
      refine Or.inr ⟨rfl, ⟨_, rfl⟩, ?_⟩
      intro job hfind hscope
      rw [Database.job?_str, hfind, Option.filter_eq_none_iff] at hjob
      exact absurd (decide_eq_true hscope) (hjob job rfl)
  | some job =>
      rw [hjob] at hloaded
      dsimp only at hloaded
      obtain ⟨hfind, hscope⟩ := Option.filter_eq_some_iff.mp hjob
      rw [Database.job?_str] at hfind
      have hsame : ∀ {job'}, s.jobs.find? id = some job' → job' = job := by
        intro job' hjob'
        rw [hfind] at hjob'
        exact (Option.some.inj hjob').symm
      split at hloaded
      · next htype =>
          obtain ⟨_, rfl, rfl⟩ := Prog.runs_raise hloaded
          refine Or.inr ⟨rfl, ⟨_, rfl⟩, ?_⟩
          intro job' hjob' _ htype'
          exact absurd (hsame hjob' ▸ htype') htype
      · next htype =>
          split at hloaded
          · next hstatus =>
              obtain ⟨_, rfl, rfl⟩ := Prog.runs_raise hloaded
              refine Or.inr ⟨rfl, ⟨_, rfl⟩, ?_⟩
              intro job' hjob' _ _ hstatus'
              exact absurd (hsame hjob' ▸ hstatus') hstatus
          · next hstatus =>
              rw [Prog.bind_eq] at hloaded
              rcases Prog.runs_bind hloaded with ⟨_, s₁, _, _, hallowed, hretry, rfl⟩ |
                  ⟨e, hallowed, rfl⟩
              · obtain ⟨rfl, hchecked⟩ := runs_assertEmailSendRetryAllowed hallowed
                have hnone : retryError s₁ job = none := by
                  cases herror : retryError s₁ job with
                  | none => rfl
                  | some message =>
                      rw [herror] at hchecked
                      cases hchecked
                have hid := Table.key_of_find? hfind
                have hstored : s₁.jobs.find? job.id = some job := by rw [hid]; exact hfind
                obtain ⟨_, jobs, _, _, hputs, hrefresh⟩ :=
                  steady_updateJob_bind hstored (by simp [Job.updated]) hretry
                rw [← Prog.bind_pure (refreshJob _)] at hrefresh
                obtain ⟨_, _, rfl, hend⟩ := runs_refreshJob_bind hputs.self hrefresh
                obtain ⟨_, rfl, rfl⟩ := Prog.runs_pure hend
                exact Or.inl ⟨job, jobs, hfind, of_decide_eq_true hscope, not_not.mp htype,
                  not_not.mp hstatus, hnone, rfl, hputs, rfl⟩
              · obtain ⟨rfl, hchecked⟩ := runs_assertEmailSendRetryAllowed hallowed
                cases herror : retryError s' job with
                | none =>
                    rw [herror] at hchecked
                    cases hchecked
                | some message =>
                    rw [herror] at hchecked
                    cases hchecked
                    refine Or.inr ⟨rfl, ⟨message, rfl⟩, ?_⟩
                    intro job' hjob' _ _ _
                    rw [hsame hjob', herror]
                    exact Option.some_ne_none message

/-- The read with which the handler ends changes nothing. -/
theorem reread_unchanged {s' : Database} {last : List (Event Call Reply)}
    {result : Except PyErr Job}
    (h : Prog.Runs (steady heard) (do
      let job ← getJobById (.str id) tenantId
      match job with
      | none => throw (.http 404 "job_not_found")
      | some job => return job) s last result s') : s' = s := by
  refine Calls.unchanged ((calls_select (.select _)).bind fun job => ?_) h
  cases job with
  | none => exact calls_throw _
  | some job => exact calls_pure job

theorem steady_retryJob {result : Except PyErr Job}
    (h : Prog.Runs (steady heard) (retryJob id tenantId) s trace result s') :
    s' = s ∨ ∃ job jobs, s.jobs.find? id = some job ∧ job.type = emailSendApprovedType ∧
      job.status = .failed ∧
      s.jobs.Puts jobs { job with status := .pending, lastError := none } ∧
      s' = { s with jobs := jobs } := by
  unfold retryJob at h
  rw [Prog.bind_eq] at h
  have hretried : ∀ {s₁ : Database} {first : List (Event Call Reply)}
      {outcome : Except PyErr Job},
      Prog.Runs (steady heard) (retryFailedJob id tenantId) s first outcome s₁ →
      s₁ = s ∨ ∃ job jobs, s.jobs.find? id = some job ∧ job.type = emailSendApprovedType ∧
        job.status = .failed ∧
        s.jobs.Puts jobs { job with status := .pending, lastError := none } ∧
        s₁ = { s with jobs := jobs } := by
    intro s₁ first outcome hrun
    rcases steady_retryFailedJob hrun with ⟨job, jobs, hfind, _, htype, hstatus, _, _, hputs,
      hs₁⟩ | ⟨hs₁, _⟩
    · exact Or.inr ⟨job, jobs, hfind, htype, hstatus, hputs, hs₁⟩
    · exact Or.inl hs₁
  rcases Prog.runs_bind h with ⟨_, s₁, _, rest, hretry, hrest, rfl⟩ | ⟨e, hretry, rfl⟩
  · rw [reread_unchanged hrest]
    rcases runs_translated hretry with ⟨_, hreturned, _⟩ | ⟨_, hraised, _⟩
    · exact hretried hreturned
    · exact hretried hraised
  · rcases runs_translated hretry with ⟨_, hreturned, _⟩ | ⟨_, hraised, _⟩
    · exact hretried hreturned
    · exact hretried hraised

/-- A new job for a message. -/
structure ChatQueued (jobs : JobTable) (job : Job) : Prop where
  id_ne : job.id ≠ ""
  fresh : jobs.find? job.id = none
  type_eq : job.type = chatOrchestrateType
  status_eq : job.status = .pending
  key_eq : job.idempotencyKey = none

theorem steady_chat {body : ChatRequest} {result : Except PyErr ChatResponse}
    (h : Prog.Runs (steady heard) (Api.chat body tenantId) s trace result s') :
    ∃ job jobs, ChatQueued s.jobs job ∧ s.jobs.Puts jobs job ∧
      s' = { s with jobs := jobs } := by
  unfold Api.chat createJob at h
  simp only [Prog.bind_eq, Prog.bind_assoc, Prog.pure_eq, Prog.pure_bind] at h
  obtain ⟨r, jobs, rest, _, hid, hfresh, hputs, hend⟩ := steady_insertJob_bind h
  obtain ⟨rfl, rfl, rfl⟩ := Prog.runs_pure hend
  exact ⟨_, jobs, ⟨hid, hfresh, rfl, rfl, rfl⟩, hputs, rfl⟩

end

end ControlPlane
