import ControlPlane.Jobs.SendLifecycle

/-!
The records of a send: the job, the request, the delivery and the audit trail tell the same
story, and it is the one the provider can tell.
-/

namespace ControlPlane

open Lib JobService AuditService ApprovalService EmailService Tasks Runner

/-- The job is there to send the request. -/
structure SendsRequest (job : Job) (row : ApprovalRequest) : Prop where
  type_eq : job.type = emailSendApprovedType
  approval_eq : (loads job.payloadJson).get? "approval_id" = some (.str row.id)

instance (job : Job) (row : ApprovalRequest) : Decidable (SendsRequest job row) :=
  decidable_of_iff (job.type = emailSendApprovedType ∧
    (loads job.payloadJson).get? "approval_id" = some (.str row.id))
    ⟨fun ⟨htype, happroval⟩ => ⟨htype, happroval⟩, fun h => ⟨h.type_eq, h.approval_eq⟩⟩

def HasMessage (row : ApprovalRequest) : Prop :=
  ((loads row.payloadJson).get? "gmail_message_id").isSome = true

def DeliverySent (s : Database) (row : ApprovalRequest) : Prop :=
  ∃ delivery ∈ s.emailDeliveries.rows, delivery.approvalId = some row.id ∧
    delivery.status = .sent

/-- The events that report the send of a job. -/
def successes (s : Database) (job : Job) : List AuditEvent :=
  s.auditEvents.rows.filter fun e =>
    e.action = AuditAction.sendJobSucceeded && (e.resourceType = "job" && e.resourceId = job.id)

def artifactRef (kind : String) : Json → Option Json
  | .obj fields =>
      match Dict.get? fields "kind" with
      | some (.str k) => if k = kind then Dict.get? fields "ref_id" else none
      | _ => none
  | _ => none

/-- The references of the artifacts of a kind in a result. -/
def artifactRefs (kind : String) (result : Dict) : List Json :=
  match result.get? "artifacts" with
  | some (.arr items) => items.filterMap (artifactRef kind)
  | _ => []

/-- What the records of a sent message say of it. -/
structure MessageRecords (messageId : String) (s : Database) (row : ApprovalRequest)
    (job : Job) : Prop where
  message_ne : messageId ≠ ""
  approval : (loads row.payloadJson).get? "gmail_message_id" = some (.str messageId)
  delivery : ∃ delivery, s.emailDeliveries.findUnique? row.id = some delivery ∧
    delivery.gmailMessageId = some messageId ∧ delivery.executionJobId = some job.id
  result : ∃ result, (loads job.payloadJson).get? "result" = some (.obj result) ∧
    artifactRefs "gmail.message" result = [.str messageId]
  audit : ∃ e, successes s job = [e] ∧ e.metadataJson = some ((Json.obj
    [("approval_id", .str row.id), ("gmail_message_id", .str messageId)]).dumps true .standard)

theorem successes_trail (s : Database) (job : Job) :
    (successes s job).map (fun e => (e.action, e.metadataJson)) =
      (trail "job" job.id s.auditEvents).filter
        fun line => line.1 = AuditAction.sendJobSucceeded := by
  unfold successes trail
  rw [List.filter_map, List.filter_filter]
  rfl

theorem artifactRefs_sendResult (approvalId : Json) (body : Dict) (messageId : String)
    (deduped : Bool) : artifactRefs "gmail.message"
      (sendResult approvalId body messageId deduped) = [.str messageId] := by
  rfl

section

variable {id : String} {d : Dossier} {row : ApprovalRequest} {job : Job}

/-- The parts of a file with a job. -/
theorem Filed.request (h : Filed id d) (hjob : d.job = some job) :
    ∃ row draftId, d.approval = some row ∧ Listed id row ∧ Drafted row draftId ∧
      row.status = .approved ∧ SendJob row job := by
  cases h with
  | absent => cases hjob
  | undrafted => cases hjob
  | drafted => cases hjob
  | queued hfiling hdraft hstatus hsend =>
      cases hjob
      exact ⟨_, _, rfl, hfiling.toListed, hdraft, hstatus, hsend⟩
  | sent hlisted hdraft hstatus hsend =>
      cases hjob
      exact ⟨_, _, rfl, hlisted, hdraft, hstatus, hsend⟩

/-- Nothing was sent, or everything is recorded. -/
theorem Filed.sent_or (h : Filed id d) (hrow : d.approval = some row)
    (hjob : d.job = some job) :
    ∃ delivery, d.delivery = some delivery ∧
      (Unsent row ∧ Retryable job d.sends ∧ Undelivered delivery d.sends ∧ Failures d.sends ∧
        job.attempts = d.sends.length ∧ d.jobTrail.map Prod.fst = failureTrail d.sends ∨
      ∃ messageId lines failures, SentAs messageId row job delivery ∧ Failures failures ∧
        job.attempts = failures.length + 1 ∧ lines.map Prod.fst = failureTrail failures ∧
        d.jobTrail = lines ++ [(sentEvent job row.id messageId).line] ∧
        d.sends = failures ++ [.ok messageId]) := by
  cases h with
  | absent => cases hjob
  | undrafted => cases hjob
  | drafted => cases hjob
  | queued hfiling hdraft hstatus hsend hretry hdelivery htrail hfailures hattempts hlines =>
      cases hjob
      cases hrow
      exact ⟨_, rfl, Or.inl ⟨hfiling.unsent, hretry, hdelivery, hfailures, hattempts, hlines⟩⟩
  | sent hlisted hdraft hstatus hsend hsent htrail hfailures hattempts hlines =>
      cases hjob
      cases hrow
      exact ⟨_, rfl, Or.inr ⟨_, _, _, hsent, hfailures, hattempts, hlines, rfl, rfl⟩⟩

end

section

variable {log : List (Event Call Reply)} {s : Database} {row : ApprovalRequest} {job : Job}

theorem trail_of_job (hjob : s.jobs.findUnique? (sendKey row.id) = some job) :
    (dossier log s row.id).jobTrail = trail "job" job.id s.auditEvents := by
  unfold dossier
  dsimp only
  rw [hjob]
  rfl

theorem deliverySent_iff {delivery : EmailDeliveryRecord}
    (h : s.emailDeliveries.findUnique? row.id = some delivery) :
    DeliverySent s row ↔ delivery.status = .sent := by
  constructor
  · rintro ⟨other, hmem, hid, hsent⟩
    have hother := s.emailDeliveries.findUnique?_eq_some.mpr ⟨hmem, hid⟩
    rw [h] at hother
    cases hother
    exact hsent
  · intro hsent
    obtain ⟨hmem, hid⟩ := s.emailDeliveries.findUnique?_eq_some.mp h
    exact ⟨delivery, hmem, hid, hsent⟩

/-- Failures are not reported as successes. -/
theorem filter_failures {lines : List TrailLine} {replies : List (Except PyErr String)}
    (h : lines.map Prod.fst = failureTrail replies) :
    lines.filter (fun line => line.1 = AuditAction.sendJobSucceeded) = [] := by
  apply List.filter_eq_nil_iff.mpr
  intro line hline
  have hmem : line.1 ∈ failureTrail replies := h ▸ List.mem_map_of_mem hline
  rw [List.eq_of_mem_replicate hmem]
  decide

theorem Retryable.not_succeeded {replies : List (Except PyErr String)}
    (h : Retryable job replies) : job.status ≠ .succeeded := by
  rcases h with hpending | ⟨hfailed, _⟩
  · simp [hpending]
  · simp [hfailed]

end

section

variable [Deployment] {heard : (q : Call) → Reply q → Prop} {log : List (Event Call Reply)}
  {s s' : Database} {row : ApprovalRequest} {job : Job}

/-- A job that sends a request is in its file. -/
theorem Wired.sending (h : Wired log s) (hrow : row ∈ s.approvals.rows)
    (hjob : job ∈ s.jobs.rows) (hof : SendsRequest job row) :
    s.approvals.find? row.id = some row ∧ s.jobs.findUnique? (sendKey row.id) = some job := by
  obtain ⟨id, hunique⟩ := h.exists_file hjob hof.type_eq
  obtain ⟨row', _, _, hlisted, _, _, hsend⟩ := (h.files id).request hunique
  have hsame : row'.id = row.id := by
    have heq := hsend.approval_eq.symm.trans hof.approval_eq
    simpa using heq
  rw [← hsame, hlisted.id_eq]
  refine ⟨?_, hunique⟩
  rw [← hlisted.id_eq, hsame]
  exact s.approvals.find?_key hrow

/-- No other job sends the request. -/
theorem Wired.only_job (h : Wired log s) (hfind : s.approvals.find? row.id = some row)
    (hunique : s.jobs.findUnique? (sendKey row.id) = some job) :
    ∀ other ∈ s.jobs.rows, SendsRequest other row → other = job := by
  intro other hother hof
  have hsame := (h.sending (Table.mem_of_find? hfind) hother hof).2
  rw [hunique] at hsame
  exact (Option.some.inj hsame).symm

/-- After any complete operations on an empty database the four records of a send agree: the job
has succeeded, the approval holds a message id, the delivery is sent and there is one audit event
of success, each exactly if the others do, and then all carry the same message id. Commits are
stored; the connector names what it returns, and raises anything but an error of the session. -/
theorem send_records_agree (husual : Usual heard) (h : SendHistory heard log s)
    (hrow : row ∈ s.approvals.rows) (hjob : job ∈ s.jobs.rows) (hof : SendsRequest job row) :
    (job.status = .succeeded ↔ HasMessage row) ∧ (HasMessage row ↔ DeliverySent s row) ∧
      (DeliverySent s row ↔ (successes s job).length = 1) ∧
      (job.status = .succeeded → ∃ messageId, MessageRecords messageId s row job) := by
  have hwired := h.wired husual
  obtain ⟨hfind, hunique⟩ := hwired.sending hrow hjob hof
  obtain ⟨delivery, hdelivery, ⟨hunsent, hretry, hundelivered, _, _, hlines⟩ |
    ⟨messageId, lines, failures, hsent, _, _, hlines, htrail, _⟩⟩ :=
      (hwired.files row.id).sent_or hfind hunique
  · have hnone : successes s job = [] := by
      have hmap := successes_trail s job
      rw [← trail_of_job hunique, filter_failures hlines] at hmap
      exact List.map_eq_nil_iff.mp hmap
    have hmessage : ¬HasMessage row := by
      rw [HasMessage, hunsent]
      simp
    have hopen : ¬DeliverySent s row := fun h =>
      hundelivered.status_ne ((deliverySent_iff hdelivery).mp h)
    refine ⟨iff_of_false hretry.not_succeeded hmessage, iff_of_false hmessage hopen,
      iff_of_false hopen (by simp [hnone]), fun hdone => absurd hdone hretry.not_succeeded⟩
  · have hmap : (successes s job).map (fun e => (e.action, e.metadataJson)) =
        [(sentEvent job row.id messageId).line] := by
      rw [successes_trail, ← trail_of_job hunique, htrail, List.filter_append,
        filter_failures hlines]
      rfl
    obtain ⟨e, hsuccesses, hline⟩ := List.map_eq_singleton_iff.mp hmap
    have hmessage : HasMessage row := by
      rw [HasMessage, hsent.approval]
      rfl
    have hdelivered : DeliverySent s row := (deliverySent_iff hdelivery).mpr hsent.delivery_eq
    have hone : (successes s job).length = 1 := by rw [hsuccesses]; rfl
    obtain ⟨body, hresult⟩ := hsent.result
    refine ⟨iff_of_true hsent.status_eq hmessage, iff_of_true hmessage hdelivered,
      iff_of_true hdelivered hone, fun _ => ⟨messageId, hsent.message_ne, hsent.approval,
        ⟨delivery, hdelivery, hsent.message_eq, hsent.execution_eq⟩, ⟨_, hresult,
          artifactRefs_sendResult _ _ _ _⟩, e, hsuccesses, congrArg Prod.snd hline⟩⟩

/-- The request that a job sends. -/
theorem Wired.request (h : Wired log s) (hjob : job ∈ s.jobs.rows)
    (htype : job.type = emailSendApprovedType) :
    ∃ row draftId, SendJob row job ∧ s.approvals.find? row.id = some row ∧
      s.jobs.findUnique? (sendKey row.id) = some job ∧ Listed row.id row ∧
      Drafted row draftId ∧ row.status = .approved := by
  obtain ⟨id, hunique⟩ := h.exists_file hjob htype
  obtain ⟨row, draftId, hrow, hlisted, hdraft, hstatus, hsend⟩ := (h.files id).request hunique
  obtain rfl := hlisted.id_eq
  exact ⟨row, draftId, hsend, hrow, hunique, hlisted, hdraft, hstatus⟩

omit [Deployment] in
/-- Nothing stands against the retry of a message that was not sent. -/
theorem retryError_unsent {delivery : EmailDeliveryRecord}
    (hfind : s.approvals.find? row.id = some row)
    (hdelivery : s.emailDeliveries.findUnique? row.id = some delivery)
    (hsend : SendJob row job) (hstatus : row.status = .approved) (hunsent : Unsent row)
    (hopen : delivery.status ≠ .sent) : retryError s job = none := by
  have hrow : retryBlockedByApproval row = none := by
    unfold retryBlockedByApproval
    rw [if_neg (by simp [hstatus]), hunsent]
    rfl
  have hblocked : retryBlockedByDelivery delivery = none := by
    unfold retryBlockedByDelivery
    rw [if_neg fun h => hopen h.1]
  unfold retryError
  rw [hsend.approval_eq]
  dsimp only [Option.getD_some]
  rw [Database.approval?_str, hfind, Database.delivery?_str, hdelivery, Option.bind_some, hrow,
    Option.bind_some, hblocked]
  split <;> rfl

/-- A send job that has failed can be retried by its tenant exactly if the provider has answered
none of its sends with a message. Once it has, a retry raises for every caller, and whatever
raises leaves the store as it was. -/
theorem retry_iff_unsent (husual : Usual heard) (h : SendHistory heard log s)
    (hjob : job ∈ s.jobs.rows) (htype : job.type = emailSendApprovedType) :
    ∃ id, (loads job.payloadJson).get? "approval_id" = some (.str id) ∧
      (∀ trace result s', job.status = .failed →
        Prog.Runs (steady heard) (retryFailedJob job.id job.tenantId) s trace result s' →
          ((∃ job', result = .ok job') ↔ ¬∃ messageId, .ok messageId ∈ sends log id)) ∧
      (∀ tenantId trace result s', (∃ messageId, .ok messageId ∈ sends log id) →
        Prog.Runs (steady heard) (retryFailedJob job.id tenantId) s trace result s' →
          ∃ e, result = .error e) ∧
      ∀ jobId tenantId trace e s',
        Prog.Runs (steady heard) (retryFailedJob jobId tenantId) s trace (.error e) s' →
          s' = s := by
  have hwired := h.wired husual
  obtain ⟨row, draftId, hsend, hfind, hunique, _, _, hstatus⟩ := hwired.request hjob htype
  have hstored := s.jobs.find?_key hjob
  obtain ⟨delivery, hdelivery, hphase⟩ := (hwired.files row.id).sent_or hfind hunique
  refine ⟨row.id, hsend.approval_eq, ?_, ?_, ?_⟩
  · intro trace result s' hfailed hrun
    rcases hphase with ⟨hunsent, _, hundelivered, hfailures, _⟩ |
      ⟨_, _, _, hsent, _⟩
    · have hnone : ¬∃ messageId, .ok messageId ∈ sends log row.id := by
        rintro ⟨messageId, hmem⟩
        obtain ⟨e, he⟩ := hfailures _ hmem
        cases he
      refine (iff_true_right hnone).mpr ?_
      rcases steady_retryFailedJob hrun with ⟨_, _, _, _, _, _, _, hok, _⟩ | ⟨_, _, hblocked⟩
      · exact ⟨_, hok⟩
      · exact absurd
          (retryError_unsent hfind hdelivery hsend hstatus hunsent hundelivered.status_ne)
          (hblocked job hstored (Or.inr rfl) htype hfailed)
    · rw [hsent.status_eq] at hfailed
      cases hfailed
  · rintro tenantId trace result s' ⟨messageId, hmem⟩ hrun
    rcases steady_retryFailedJob hrun with ⟨job', _, hfind', _, _, hfailed, _⟩ |
      ⟨_, ⟨message, herror⟩, _⟩
    · rw [hstored] at hfind'
      cases hfind'
      rcases hphase with ⟨_, _, _, hfailures, _⟩ | ⟨_, _, _, hsent, _⟩
      · obtain ⟨e, he⟩ := hfailures _ hmem
        cases he
      · rw [hsent.status_eq] at hfailed
        cases hfailed
    · exact ⟨_, herror⟩
  · intro jobId tenantId trace e s' hrun
    rcases steady_retryFailedJob hrun with ⟨_, _, _, _, _, _, _, herror, _⟩ | ⟨hsame, _⟩
    · cases herror
    · exact hsame

/-- The worker asks the provider, and raises nothing of its own. -/
structure OnlyConnectorFails (heard : (q : Call) → Reply q → Prop) (s : Database) (job : Job)
    (row : ApprovalRequest) (draftId : String) : Prop where
  checks : ∀ {adm : (q : Call) → Reply q → Database → Prop} {trace result s'},
    Prog.Runs adm (validateSendExecutionInvariants job row) s trace result s' → result = .ok ()
  service : ∀ {trace result s'},
    Prog.Runs (steady heard) (runSendApprovedJob job) s trace result s' →
      ∃ reply, outward trace = [sendEvent row.id draftId reply] ∧
        ∀ e, result = .error e → reply = .error e

theorem onlyConnectorFails {draftId : String} (hexec : Executable s job row draftId)
    (hunsent : Unsent row) : OnlyConnectorFails heard s job row draftId where
  checks hrun := (runs_validateSendExecutionInvariants hexec hrun).2.2
  service hrun := by
    obtain ⟨reply, hout, hended⟩ := steady_runSendApprovedJob hexec hunsent hrun
    refine ⟨reply, hout, fun e he => ?_⟩
    rcases hended with ⟨_, _, _, hok⟩ | ⟨e', hreply, herror, _⟩
    · rw [he] at hok
      cases hok
    · rw [he] at herror
      cases herror
      exact hreply

/-- A send job that the operations have enqueued is the only one of its request, and it passes all
checks of the worker: if it is claimed in the store it is in, its run asks the provider, and what
it raises is what the connector raised. The commits are stored, as they are for the records. -/
theorem send_checks_pass (husual : Usual heard) (h : SendHistory heard log s)
    (hjob : job ∈ s.jobs.rows) (htype : job.type = emailSendApprovedType) :
    ∃ row draftId, Executable s job row draftId ∧
      job.idempotencyKey = some ("email.send:" ++ row.id) ∧
      (∀ other ∈ s.jobs.rows, SendsRequest other row → other = job) ∧
      (∀ jobs : JobTable, job.status = .pending → s.jobs.Puts jobs (counted (claimed job)) →
        OnlyConnectorFails heard { s with jobs := jobs } (counted (claimed job)) row draftId) ∧
      (job.status = .failed → ∃ e, (sends log row.id).getLast? = some (.error e) ∧
        job.lastError = some (failureText e)) := by
  have hwired := h.wired husual
  obtain ⟨row, draftId, hsend, hfind, hunique, hlisted, hdraft, hstatus⟩ :=
    hwired.request hjob htype
  obtain ⟨delivery, _, hphase⟩ := (hwired.files row.id).sent_or hfind hunique
  have hsendable : Sendable s row draftId := hwired.sendable hfind hlisted hdraft
  have hexec : Executable s job row draftId :=
    ⟨hsendable, hfind, hstatus, htype, hsend.approval_eq, hsend.tenant_eq⟩
  refine ⟨row, draftId, hexec, hsend.key_eq, hwired.only_job hfind hunique, ?_, ?_⟩
  · intro jobs hpending hputs
    rcases hphase with ⟨hunsent, _⟩ | ⟨_, _, _, hsent, _⟩
    · have hgrown : Sendable { s with jobs := jobs } row draftId :=
        hsendable.grown fun _ => hputs.find?_isSome
      exact onlyConnectorFails ⟨hgrown, hfind, hstatus, htype, hsend.approval_eq,
        hsend.tenant_eq⟩ hunsent
    · rw [hsent.status_eq] at hpending
      cases hpending
  · intro hfailed
    rcases hphase with ⟨_, hretry, _⟩ | ⟨_, _, _, hsent, _⟩
    · rcases hretry with hpending | ⟨_, hlast⟩
      · rw [hpending] at hfailed
        cases hfailed
      · exact hlast
    · rw [hsent.status_eq] at hfailed
      cases hfailed

end

section Sample

local instance instSendDeployment : Deployment := .sqlite

def stubAnswers (n : Nat) : (q : Call) → Reply q :=
  quiet AuditService.sampleCreated.createdAt.moment s!"row{n}"

/-- The provider sends nothing. -/
def refusedAnswers (n : Nat) : (q : Call) → Reply q
  | .sendApprovedDraft _ _ =>
      (Except.error (.connector .temporaryProviderError "busy") : Except PyErr String)
  | q => stubAnswers n q

def operated (answers : Nat → (q : Call) → Reply q) (request : Option Request) (n : Nat)
    (s : Database) : List (Event Call Reply) × Except PyErr Outcome × Database :=
  (program request).exec answers n s

def mailRequest : Request := .chat ⟨"s1", "Send email to bob", 8⟩ (some "t1")

def askedMail : Database := (operated stubAnswers (some mailRequest) 100 {}).2.2

def draftedMail : Database := (operated stubAnswers none 200 askedMail).2.2

def approvedMail : Database :=
  (operated stubAnswers (some (.approve "row205" "ops" none (some "t1"))) 300 draftedMail).2.2

def sentMail : Database := (operated stubAnswers none 400 approvedMail).2.2

def refusedMail : Database := (operated refusedAnswers none 400 approvedMail).2.2

theorem usual_self : Usual usual := fun _ _ h => h

theorem operated_history {heard : (q : Call) → Reply q → Prop} [∀ q r, Decidable (heard q r)]
    {answers : Nat → (q : Call) → Reply q} {log : List (Event Call Reply)} {s : Database}
    {request : Option Request} {n : Nat} (h : SendHistory heard log s)
    (hadmits : (program request).admits (steady heard) answers n s = true) :
    SendHistory heard (log ++ outward (operated answers request n s).1)
      (operated answers request n s).2.2 :=
  .step h trivial (Prog.runs_of_admits hadmits)

/-- The surroundings admit every call of the sample operations; they leave a queued send, one
that succeeded, and one that failed and is retried. -/
theorem operations_admitted :
    (program (some mailRequest)).admits (steady usual) stubAnswers 100 {} = true ∧
    (program none).admits (steady usual) stubAnswers 200 askedMail = true ∧
    (program (some (.approve "row205" "ops" none (some "t1")))).admits (steady usual)
      stubAnswers 300 draftedMail = true ∧
    (program none).admits (steady usual) stubAnswers 400 approvedMail = true ∧
    (program none).admits (steady usual) refusedAnswers 400 approvedMail = true ∧
    (∃ job ∈ approvedMail.jobs.rows, job.type = emailSendApprovedType) ∧
    (∃ row ∈ sentMail.approvals.rows, ∃ job ∈ sentMail.jobs.rows,
      SendsRequest job row ∧ job.status = .succeeded) ∧
    ∃ job ∈ refusedMail.jobs.rows, job.type = emailSendApprovedType ∧
      job.status = .failed ∧
      (retryFailedJob job.id job.tenantId).admits (steady usual) stubAnswers 500 refusedMail =
        true ∧
      ((retryFailedJob job.id job.tenantId).exec stubAnswers 500 refusedMail).2.1.isOk =
        true := by
  decide +kernel

theorem drafted_history : ∃ log, SendHistory usual log draftedMail := by
  obtain ⟨hasked, hdrafted, _⟩ := operations_admitted
  exact ⟨_, operated_history (operated_history .start hasked) hdrafted⟩

theorem approved_history : ∃ log, SendHistory usual log approvedMail := by
  obtain ⟨log, h⟩ := drafted_history
  exact ⟨_, operated_history h operations_admitted.2.2.1⟩

theorem sent_history : ∃ log, SendHistory usual log sentMail := by
  obtain ⟨log, h⟩ := approved_history
  exact ⟨_, operated_history h operations_admitted.2.2.2.1⟩

theorem refused_history : ∃ log, SendHistory usual log refusedMail := by
  obtain ⟨log, h⟩ := approved_history
  exact ⟨_, operated_history h operations_admitted.2.2.2.2.1⟩

theorem sent_message_recorded : ∃ row ∈ sentMail.approvals.rows, ∃ job ∈ sentMail.jobs.rows,
    ∃ messageId, MessageRecords messageId sentMail row job := by
  obtain ⟨log, h⟩ := sent_history
  obtain ⟨_, _, _, _, _, _, ⟨row, hrow, job, hjob, hof, hdone⟩, _⟩ := operations_admitted
  exact ⟨row, hrow, job, hjob, (send_records_agree usual_self h hrow hjob hof).2.2.2 hdone⟩

/-- The retry of a refused send goes through, and so nothing was sent. -/
theorem refused_send_retried : ∃ log id, SendHistory usual log refusedMail ∧
    ¬∃ messageId, .ok messageId ∈ sends log id := by
  obtain ⟨log, h⟩ := refused_history
  obtain ⟨_, _, _, _, _, _, _, job, hjob, htype, hstatus, hadmits, hok⟩ := operations_admitted
  obtain ⟨id, _, hiff, _⟩ := retry_iff_unsent usual_self h hjob htype
  refine ⟨log, id, h, (hiff _ _ _ hstatus (Prog.runs_of_admits hadmits)).mp ?_⟩
  cases hresult : ((retryFailedJob job.id job.tenantId).exec stubAnswers 500 refusedMail).2.1 with
  | ok job' => exact ⟨job', rfl⟩
  | error e =>
      rw [hresult] at hok
      cases hok

theorem approved_send_executable : ∃ job ∈ approvedMail.jobs.rows, ∃ row draftId,
    Executable approvedMail job row draftId := by
  obtain ⟨log, h⟩ := approved_history
  obtain ⟨_, _, _, _, _, ⟨job, hjob, htype⟩, _⟩ := operations_admitted
  obtain ⟨row, draftId, hexec, _⟩ := send_checks_pass usual_self h hjob htype
  exact ⟨job, hjob, row, draftId, hexec⟩

end Sample

end ControlPlane
