import ControlPlane.Jobs.SendRecords

/-!
What a failed send leaves behind. The handler marks the delivery and logs the failure for the
exceptions that it catches; what escapes it is caught by the worker, which marks the job alone.
-/

namespace ControlPlane

open Lib JobService AuditService ApprovalService EmailPersistence EmailService Tasks Runner

/-- The delivery of the request and the audit trail tell that the job has failed. -/
structure FailureRecorded (s : Database) (id : String) (job : Job) : Prop where
  delivery : ∃ delivery, s.emailDeliveries.findUnique? id = some delivery ∧
    delivery.status = .failed ∧ delivery.lastError.isSome = true ∧
    delivery.executionJobId = some job.id
  audited : ∃ e ∈ s.auditEvents.rows, e.action = AuditAction.sendJobFailed ∧
    e.resourceType = "job" ∧ e.resourceId = job.id

/-- If the job has failed, its failure is recorded. -/
def FailureComplete (s : Database) (id : String) (job : Job) : Prop :=
  ∀ row, s.jobs.find? job.id = some row → row.status = .failed → FailureRecorded s id job

/-- The send has raised what the handler does not catch, and no error of the session. -/
def SendEscaped (id : String) (trace : List (Event Call Reply)) : Prop :=
  ∃ (draft : Json) (e : PyErr),
    ⟨.sendApprovedDraft id draft, (Except.error e : Except PyErr String)⟩ ∈ trace ∧
      caughtMessage e = none ∧ e.poisons = false

/-- How the service of a send ends: it returns what no call has refused, a check fails, or the
provider refuses. -/
inductive SendEnded (id : String) (s : Database) :
    List (Event Call Reply) → Except PyErr Dict → Database → Prop where
  | returned {calls : List (Event Call Reply)} {value : Dict} {s' : Database}
      (hcalls : ∀ e ∈ calls, failure e = none) (hjobs : s'.jobs = s.jobs) :
      SendEnded id s calls (.ok value) s'
  | unchecked (message : String) : SendEnded id s [] (.error (.valueError message)) s
  | refused (draft : Json) (e : PyErr) : SendEnded id s
      [⟨.sendApprovedDraft id draft, (Except.error e : Except PyErr String)⟩] (.error e) s

/-- How the processing of a send ends. -/
inductive SendClosed (job : Job) (id : String) (s : Database) :
    List (Event Call Reply) → Database → Prop where
  | unfailed {calls : List (Event Call Reply)} {s' : Database} {row : Job}
      (hrow : s'.jobs.find? job.id = some row) (hstatus : row.status ≠ .failed)
      (hcaught : ¬SendEscaped id calls) : SendClosed job id s calls s'
  | recorded {calls : List (Event Call Reply)} {s' : Database}
      (hrecorded : FailureRecorded s' id job) (hcaught : ¬SendEscaped id calls) :
      SendClosed job id s calls s'
  | escaped {calls : List (Event Call Reply)} {jobs : JobTable} {message : String}
      (hescaped : SendEscaped id calls) (hjobs : s.jobs.Puts jobs (failedJob job message)) :
      SendClosed job id s calls { s with jobs := jobs }

section

variable {id : String} {job : Job} {s s' : Database} {trace : List (Event Call Reply)}

theorem sendEscaped_outward : SendEscaped id (outward trace) ↔ SendEscaped id trace := by
  unfold SendEscaped outward
  simp [List.mem_filter, Call.outward]

theorem sendEscaped_refused {draft : Json} {e : PyErr} : SendEscaped id
    [⟨.sendApprovedDraft id draft, (Except.error e : Except PyErr String)⟩] ↔
      caughtMessage e = none ∧ e.poisons = false := by
  constructor
  · rintro ⟨_, _, hmem, hescapes⟩
    cases List.mem_singleton.mp hmem
    exact hescapes
  · exact fun hescapes => ⟨draft, e, List.mem_singleton.mpr rfl, hescapes⟩

theorem not_sendEscaped_of_returned (h : ∀ e ∈ trace, failure e = none) :
    ¬SendEscaped id trace := by
  rintro ⟨draft, e, hmem, _⟩
  cases h _ hmem

theorem SendEnded.of_ok {calls : List (Event Call Reply)} {value : Dict}
    (h : SendEnded id s calls (.ok value) s') :
    ¬SendEscaped id calls ∧ s'.jobs = s.jobs := by
  cases h with
  | returned hcalls hjobs => exact ⟨not_sendEscaped_of_returned hcalls, hjobs⟩

theorem SendEnded.same_of_error {calls : List (Event Call Reply)} {e : PyErr}
    (h : SendEnded id s calls (.error e) s') : s' = s := by
  cases h <;> rfl

/-- An error of the session is not raised by the checks. -/
theorem not_sendEscaped_of_caught {calls : List (Event Call Reply)} {e : PyErr}
    (h : SendEnded id s calls (.error e) s')
    (hcaught : caughtMessage e ≠ none ∨ e.poisons = true) : ¬SendEscaped id calls := by
  cases h with
  | unchecked message => exact not_sendEscaped_of_returned (by simp)
  | refused draft e =>
      rw [sendEscaped_refused]
      rintro ⟨hnone, hpoisons⟩
      rcases hcaught with hcaught | hpoisoned
      · exact hcaught hnone
      · rw [hpoisons] at hpoisoned
        cases hpoisoned

theorem sendEscaped_of_uncaught {calls : List (Event Call Reply)} {e : PyErr}
    (h : SendEnded id s calls (.error e) s') (hcaught : caughtMessage e = none)
    (hpoisons : e.poisons = false) : SendEscaped id calls := by
  cases h with
  | unchecked message => cases hcaught
  | refused draft e => exact sendEscaped_refused.mpr ⟨hcaught, hpoisons⟩

/-- Marking jobs does not touch the record of a failure. -/
theorem failureRecorded_jobs {jobs : JobTable} :
    FailureRecorded { s with jobs := jobs } id job ↔ FailureRecorded s id job :=
  ⟨fun h => ⟨h.delivery, h.audited⟩, fun h => ⟨h.delivery, h.audited⟩⟩

theorem SendClosed.complete_iff {calls : List (Event Call Reply)}
    (h : SendClosed job id s calls s') :
    FailureComplete s' id job ↔ (SendEscaped id calls → FailureRecorded s id job) := by
  cases h with
  | unfailed hrow hstatus hcaught =>
      refine iff_of_true ?_ fun hescaped => absurd hescaped hcaught
      intro row' hrow' hfailed
      rw [hrow] at hrow'
      cases hrow'
      exact absurd hfailed hstatus
  | recorded hrecorded hcaught =>
      exact iff_of_true (fun _ _ _ => hrecorded) fun hescaped => absurd hescaped hcaught
  | escaped hescaped hjobs =>
      constructor
      · intro hcomplete _
        exact failureRecorded_jobs.mp (hcomplete _ hjobs.self rfl)
      · intro hrecorded _ _ _
        exact failureRecorded_jobs.mpr (hrecorded hescaped)

end

section

variable [Deployment] {heard : (q : Call) → Reply q → Prop} {s s' : Database}
  {trace : List (Event Call Reply)} {job : Job} {row : ApprovalRequest} {id : String}

/-- The checks of an execution only read, and what they raise is a ValueError. -/
theorem runs_executionChecks {adm : (q : Call) → Reply q → Database → Prop}
    {result : Except PyErr Unit}
    (h : Prog.Runs adm (validateSendExecutionInvariants job row) s trace result s') :
    outward trace = [] ∧ s' = s ∧
      (result = .ok () ∨ ∃ message, result = .error (.valueError message)) := by
  refine ⟨(validateSend_quiet job row).quiet h, ?_⟩
  unfold validateSendExecutionInvariants validateSendEnqueueEligibility at h
  split at h
  · obtain ⟨_, rfl, rfl⟩ := Prog.runs_raise h
    exact ⟨rfl, Or.inr ⟨_, rfl⟩⟩
  · split at h
    · obtain ⟨_, rfl, rfl⟩ := Prog.runs_raise h
      exact ⟨rfl, Or.inr ⟨_, rfl⟩⟩
    · split at h
      · obtain ⟨_, rfl, rfl⟩ := Prog.runs_raise h
        exact ⟨rfl, Or.inr ⟨_, rfl⟩⟩
      · split at h
        · obtain ⟨_, rfl, rfl⟩ := Prog.runs_raise h
          exact ⟨rfl, Or.inr ⟨_, rfl⟩⟩
        · rw [Prog.bind_eq] at h
          rcases Prog.runs_bind h with ⟨_, s₁, _, _, hgate, hrest, _⟩ | ⟨e, hgate, rfl⟩
          · obtain ⟨rfl, _⟩ := runs_validateOutboundSendGate hgate
            split at hrest
            · obtain ⟨_, rfl, rfl⟩ := Prog.runs_raise hrest
              exact ⟨rfl, Or.inr ⟨_, rfl⟩⟩
            · obtain ⟨_, rfl, rfl⟩ := Prog.runs_pure hrest
              exact ⟨rfl, Or.inl rfl⟩
          · obtain ⟨rfl, hresult⟩ := runs_validateOutboundSendGate hgate
            cases herror : gateError s' row with
            | none =>
                rw [herror] at hresult
                cases hresult
            | some message =>
                rw [herror] at hresult
                cases hresult
                exact ⟨rfl, Or.inr ⟨message, rfl⟩⟩

theorem Delivered.jobs_eq {messageId : String} (h : Delivered job row messageId s s') :
    s'.jobs = s.jobs := by
  cases h
  rfl

theorem steady_executeSend {result : Except PyErr Dict}
    (hrow : s.approvals.find? row.id = some row)
    (h : Prog.Runs (steady heard) (executeSend job (.str row.id) row) s trace result s') :
    SendEnded row.id s (outward trace) result s' := by
  unfold executeSend at h
  dsimp only at h
  split at h
  · obtain ⟨rfl, rfl, rfl⟩ := Prog.runs_raise h
    exact .unchecked _
  · split at h
    · rw [Prog.bind_eq] at h
      obtain ⟨deliveries, rest, hout, _, hend⟩ := steady_markDeliverySent_bind h
      obtain ⟨rfl, rfl, rfl⟩ := Prog.runs_pure hend
      rw [hout]
      exact .returned (by simp [outward]) rfl
    · rw [Prog.bind_eq] at h
      obtain ⟨reply, rest, hout, ⟨messageId, s₁, rfl, hdelivered, hend⟩ |
        ⟨e, rfl, rfl, rfl, rfl⟩⟩ := steady_sendAndRecord_bind hrow h
      · obtain ⟨rfl, rfl, rfl⟩ := Prog.runs_pure hend
        rw [hout]
        refine .returned ?_ hdelivered.jobs_eq
        simp [outward, failure]
      · rw [hout]
        exact .refused _ e

/-- The service of any job that names the request. -/
theorem steady_sendEnded {result : Except PyErr Dict} (hid : id ≠ "")
    (happroval : (loads job.payloadJson).get? "approval_id" = some (.str id))
    (h : Prog.Runs (steady heard) (runSendApprovedJob job) s trace result s') :
    SendEnded id s (outward trace) result s' := by
  unfold runSendApprovedJob at h
  rw [happroval] at h
  dsimp only [Option.getD_some] at h
  rw [truthy_str hid] at h
  simp only [Bool.not_true, Bool.false_eq_true, if_false, Prog.bind_eq] at h
  obtain ⟨r, rest, rfl, hloaded⟩ := runs_getRequest_bind h
  have hskip : outward (⟨.select (.approval (.str id)), r⟩ :: rest) = outward rest := rfl
  rw [hskip]
  rw [Database.approval?_str] at hloaded
  cases hrow : s.approvals.find? id with
  | none =>
      rw [hrow] at hloaded
      obtain ⟨rfl, rfl, rfl⟩ := Prog.runs_raise hloaded
      exact .unchecked _
  | some row =>
      rw [hrow] at hloaded
      obtain rfl : row.id = id := Table.key_of_find? hrow
      rcases Prog.runs_bind hloaded with ⟨_, s₁, first, second, hchecks, hsend, rfl⟩ |
        ⟨e, hchecks, rfl⟩
      · obtain ⟨hquiet, rfl, _⟩ := runs_executionChecks hchecks
        rw [outward_append, hquiet, List.nil_append]
        exact steady_executeSend hrow hsend
      · obtain ⟨hquiet, rfl, hresult⟩ := runs_executionChecks hchecks
        rcases hresult with hok | ⟨message, hraised⟩
        · cases hok
        · cases hraised
          rw [hquiet]
          exact .unchecked message

theorem recorded_of_marked {delivery : EmailDeliveryRecord}
    {deliveries : DeliveryTable} {events : AuditTable} {jobs : JobTable} {message : String}
    (hdelivery : s.emailDeliveries.findUnique? id = some delivery)
    (hmarked : Marked s.emailDeliveries deliveries id (failedDelivery job.id message))
    (hevents : Appended (failedEvent job id message) s.auditEvents events) :
    FailureRecorded { s with jobs := jobs, emailDeliveries := deliveries, auditEvents := events }
      id job where
  delivery := by
    have hputs := puts_of_marked hmarked hdelivery
    have hof : delivery.approvalId = some id :=
      (s.emailDeliveries.findUnique?_eq_some.mp hdelivery).2
    exact ⟨_, hputs.findUnique?_self hof, rfl, rfl, rfl⟩
  audited := by
    obtain ⟨now, hash, r, hinsert⟩ := hevents
    exact ⟨_, (Table.mem_insert hinsert).mpr (Or.inr rfl), rfl, rfl, rfl⟩

/-- However the service of a send ends, the handler or the worker closes the job. -/
theorem steady_sendClosed {delivery : EmailDeliveryRecord} {result : Except PyErr Unit}
    (htype : job.type = emailSendApprovedType) (hjob : s.jobs.find? job.id = some job)
    (hrunning : job.status = .running) (hid : id ≠ "")
    (happroval : (loads job.payloadJson).get? "approval_id" = some (.str id))
    (hdelivery : s.emailDeliveries.findUnique? id = some delivery)
    (h : Prog.Runs (steady heard) (processJob job) s trace result s') :
    SendClosed job id s (outward trace) s' := by
  obtain ⟨r, s₂, first, rest, htask, hafter, rfl⟩ := runs_processJob h
  have hother : job.type ≠ chatOrchestrateType := by
    rw [htype]
    decide
  unfold runTask handleEmailSendApproved at htask
  rw [if_neg hother, if_pos htype] at htask
  simp only [Prog.bind_eq, Prog.bind_assoc] at htask
  obtain ⟨jobs₁, outcome, s₃, service, close, hputs, hrun, hout, hclose⟩ :=
    steady_attempt_bind hjob htask
  have hnamed : (loads (counted job).payloadJson).get? "approval_id" = some (.str id) := happroval
  have hended := steady_sendEnded hid hnamed hrun
  rw [outward_append, hout, List.append_assoc]
  cases outcome with
  | ok value =>
      rcases hclose with ⟨o, ho, hwrite⟩ | ⟨e, he, _⟩
      · cases ho
        obtain ⟨hcaught, hjobs⟩ := hended.of_ok
        obtain ⟨jobs, rest', hout', hput, hend⟩ :=
          steady_markJobSucceeded_bind (hjobs ▸ hputs.self) hwrite
        obtain ⟨rfl, rfl, rfl⟩ := Prog.runs_pure hend
        obtain ⟨rfl, rfl, rfl⟩ := Prog.runs_pure hafter
        rw [hout']
        refine .unfailed hput.self (by simp) ?_
        simpa [outward] using hcaught
      · cases he
  | error e =>
      obtain rfl : s₃ = { s with jobs := jobs₁ } := hended.same_of_error
      cases hmessage : caughtMessage e with
      | some message =>
          rw [caught, hmessage] at hclose
          rcases hclose with ⟨o, ho, hwrite⟩ | ⟨e', he, _⟩
          · cases ho
            simp only [Prog.bind_assoc] at hwrite
            obtain ⟨jobs, rest₁, hout₁, hput, haudit⟩ :=
              steady_markJobFailed_bind hputs.self hwrite
            obtain ⟨deliveries, events, rest₂, hout₂, hmarked, hevents, hend⟩ :=
              steady_auditSendJobFailed_bind htype hid happroval haudit
            obtain ⟨rfl, rfl, rfl⟩ := Prog.runs_pure hend
            obtain ⟨rfl, rfl, rfl⟩ := Prog.runs_pure hafter
            rw [hout₁, hout₂]
            refine .recorded (recorded_of_marked hdelivery hmarked hevents) ?_
            simpa [outward] using
              not_sendEscaped_of_caught hended (Or.inl (by simp [hmessage]))
          · cases he
      | none =>
          rw [caught, hmessage] at hclose
          rcases hclose with ⟨o, ho, _⟩ | ⟨e', he, rfl, rfl, rfl⟩
          · cases ho
          · cases he
            cases hpoisons : e.poisons with
            | false =>
                obtain ⟨jobs, hquiet, rfl, hput, rfl⟩ :=
                  steady_recordException hputs.self hpoisons hafter
                rw [hquiet]
                refine .escaped ?_ (hputs.overwrite hput rfl)
                simpa [outward] using sendEscaped_of_uncaught hended hmessage hpoisons
            | true =>
                obtain ⟨rfl, rfl⟩ := runs_recordException_poisoned hpoisons hafter
                refine .unfailed hputs.self (by simp [counted, hrunning]) ?_
                simpa [outward] using not_sendEscaped_of_caught hended (Or.inr hpoisons)

/-- A claimed send job whose request has a delivery is processed, and the provider raises what it
likes: if the job fails, the delivery and the trail say so, exactly if no exception of the send
has escaped the handler or an earlier failure of the job is on record. Commits are stored. -/
theorem failed_send_recorded_iff {delivery : EmailDeliveryRecord} {result : Except PyErr Unit}
    (htype : job.type = emailSendApprovedType) (hjob : s.jobs.find? job.id = some job)
    (hrunning : job.status = .running) (hid : id ≠ "")
    (happroval : (loads job.payloadJson).get? "approval_id" = some (.str id))
    (hdelivery : s.emailDeliveries.findUnique? id = some delivery)
    (h : Prog.Runs (steady heard) (processJob job) s trace result s') :
    FailureComplete s' id job ↔ (SendEscaped id trace → FailureRecorded s id job) := by
  have hclosed := steady_sendClosed htype hjob hrunning hid happroval hdelivery h
  exact hclosed.complete_iff.trans (imp_congr_left sendEscaped_outward)

end

section Sample

local instance instFailureDeployment : Deployment := instSendDeployment

/-- The library of the provider raises an error of its own. -/
def brokenAnswers (n : Nat) : (q : Call) → Reply q
  | .sendApprovedDraft _ _ =>
      (Except.error (.other "HttpError" "403 Forbidden") : Except PyErr String)
  | q => stubAnswers n q

def claimedMail : Database := (claimNextPending.exec stubAnswers 400 approvedMail).2.2

def processedMail (answers : Nat → (q : Call) → Reply q) (job : Job) :
    List (Event Call Reply) × Except PyErr Unit × Database :=
  (processJob job).exec answers 500 claimedMail

/-- The claimed send is processed twice from the same store: the provider refuses, and the
provider breaks. -/
theorem processed_sample : ∃ job ∈ claimedMail.jobs.rows, job.type = emailSendApprovedType ∧
    job.status = .running ∧
    (loads job.payloadJson).get? "approval_id" = some (.str "row205") ∧
    (claimedMail.emailDeliveries.findUnique? "row205").isSome = true ∧
    ((processJob job).admits (steady usual) refusedAnswers 500 claimedMail = true ∧
      (∀ e ∈ (processedMail refusedAnswers job).1, ∀ error ∈ failure e,
        caughtMessage error ≠ none) ∧
      ((processedMail refusedAnswers job).2.2.jobs.find? job.id).any (·.status = .failed) =
        true) ∧
    (processJob job).admits (steady usual) brokenAnswers 500 claimedMail = true ∧
      ((processedMail brokenAnswers job).2.2.jobs.find? job.id).any (·.status = .failed) =
        true ∧
      ∀ e ∈ (processedMail brokenAnswers job).2.2.auditEvents.rows,
        e.action ≠ AuditAction.sendJobFailed := by
  decide +kernel

theorem refused_send_recorded : ∃ job ∈ claimedMail.jobs.rows,
    FailureRecorded (processedMail refusedAnswers job).2.2 "row205" job := by
  obtain ⟨job, hjob, htype, hrunning, happroval, hdelivery, ⟨hadmits, hcaught, hfailed⟩, _⟩ :=
    processed_sample
  obtain ⟨delivery, hdelivery⟩ := Option.isSome_iff_exists.mp hdelivery
  have hcomplete := (failed_send_recorded_iff htype (claimedMail.jobs.find?_key hjob) hrunning
    (by decide) happroval hdelivery (Prog.runs_of_admits hadmits)).mpr ?_
  · obtain ⟨row, hrow, hstatus⟩ := (Option.any_eq_true _ _).mp hfailed
    exact ⟨job, hjob, hcomplete row hrow (of_decide_eq_true hstatus)⟩
  · rintro ⟨draft, e, hmem, hnone, _⟩
    exact absurd hnone (hcaught _ hmem e rfl)

/-- An error of the library of the provider fails the job, and nothing else tells of it. -/
theorem broken_send_unrecorded : ¬∀ (heard : (q : Call) → Reply q → Prop) (id : String)
    (job : Job) (delivery : EmailDeliveryRecord) (s s' : Database)
    (trace : List (Event Call Reply)) (result : Except PyErr Unit),
    job.type = emailSendApprovedType → s.jobs.find? job.id = some job →
    job.status = .running → id ≠ "" →
    (loads job.payloadJson).get? "approval_id" = some (.str id) →
    s.emailDeliveries.findUnique? id = some delivery →
    Prog.Runs (steady heard) (processJob job) s trace result s' → FailureComplete s' id job := by
  intro hclaim
  obtain ⟨job, hjob, htype, hrunning, happroval, hdelivery, _, hadmits, hfailed, hsilent⟩ :=
    processed_sample
  obtain ⟨delivery, hdelivery⟩ := Option.isSome_iff_exists.mp hdelivery
  have hcomplete := hclaim usual "row205" job delivery claimedMail _ _ _ htype
    (claimedMail.jobs.find?_key hjob) hrunning (by decide) happroval hdelivery
    (Prog.runs_of_admits hadmits)
  obtain ⟨row, hrow, hstatus⟩ := (Option.any_eq_true _ _).mp hfailed
  obtain ⟨e, he, haction, _⟩ := (hcomplete row hrow (of_decide_eq_true hstatus)).audited
  exact hsilent e he haction

end Sample

end ControlPlane
