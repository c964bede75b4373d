import ControlPlane.App.SteadyRequests
import ControlPlane.Workers.Sending

/-!
The file of one outbound request: its row, the job that sends it, its delivery, the audit
events of the row and of the job, and what the provider answered. The operations of the
system move one file at a time, from phase to phase.
-/

namespace ControlPlane

open Lib JobService AuditService ApprovalService EmailService Tasks

/-- What an audit event says of its resource: the action and the metadata. -/
abbrev TrailLine := String × Option String

def AuditService.NewEvent.line (e : NewEvent) : TrailLine := (e.action, e.metadataJson)

/-- The events of a resource, in the order of the table. -/
def trail (kind id : String) (events : AuditTable) : List TrailLine :=
  (events.rows.filter fun e => e.resourceType = kind && e.resourceId = id).map
    fun e => (e.action, e.metadataJson)

/-- The answer to a send for the approval. -/
def sendReply (id : String) : Event Call Reply → Option (Except PyErr String)
  | ⟨.sendApprovedDraft approvalId _, r⟩ => if approvalId = id then some r else none
  | _ => none

def sends (log : List (Event Call Reply)) (id : String) : List (Except PyErr String) :=
  log.filterMap (sendReply id)

structure Dossier where
  approval : Option ApprovalRequest
  job : Option Job
  delivery : Option EmailDeliveryRecord
  trail : List TrailLine
  jobTrail : List TrailLine
  sends : List (Except PyErr String)

/-- The file of an approval in a store, after the calls of the connector in the log. -/
def dossier (log : List (Event Call Reply)) (s : Database) (id : String) : Dossier where
  approval := s.approvals.find? id
  job := s.jobs.findUnique? (sendKey id)
  delivery := s.emailDeliveries.findUnique? id
  trail := trail "approval" id s.auditEvents
  jobTrail := (s.jobs.findUnique? (sendKey id)).elim []
    fun job => trail "job" job.id s.auditEvents
  sends := sends log id

theorem trail_appended [Deployment] {e : NewEvent} {before after : AuditTable}
    (h : Appended e before after) (kind id : String) :
    trail kind id after = trail kind id before ++
      if e.resourceType = kind ∧ e.resourceId = id then [e.line] else [] := by
  obtain ⟨now, hash, r, hinsert⟩ := h
  unfold trail
  rw [Table.rows_insert hinsert, List.filter_append, List.map_append]
  congr 1
  by_cases hmatch : e.resourceType = kind ∧ e.resourceId = id
  · rw [if_pos hmatch, List.filter_cons_of_pos]
    · rfl
    · exact Bool.and_eq_true_iff.mpr ⟨decide_eq_true hmatch.1, decide_eq_true hmatch.2⟩
  · rw [if_neg hmatch, List.filter_cons_of_neg]
    · rfl
    · intro h
      obtain ⟨hkind, hid⟩ := Bool.and_eq_true_iff.mp h
      exact hmatch ⟨of_decide_eq_true hkind, of_decide_eq_true hid⟩

theorem sends_append (log more : List (Event Call Reply)) (id : String) :
    sends (log ++ more) id = sends log id ++ sends more id :=
  List.filterMap_append

/-- Calls that read or draft are no sends. -/
theorem sends_prepares {calls : List (Event Call Reply)} (id : String)
    (h : ∀ e ∈ calls, e.call.prepares = true) : sends calls id = [] := by
  apply List.filterMap_eq_nil_iff.mpr
  rintro ⟨call, r⟩ he
  have hcall := h _ he
  cases call with
  | sendApprovedDraft approvalId draftId => cases hcall
  | _ => rfl

theorem sends_sendEvent (approvalId draftId id : String) (reply : Except PyErr String) :
    sends [sendEvent approvalId draftId reply] id =
      if approvalId = id then [reply] else [] := by
  unfold sends sendEvent sendCall
  by_cases h : approvalId = id
  · simp [sendReply, h]
  · simp [sendReply, h]

theorem sendKey_injective {id id' : String} (h : sendKey id = sendKey id') : id = id' := by
  have hlist := congrArg String.toList h
  unfold sendKey at hlist
  rw [String.toList_append, String.toList_append] at hlist
  exact String.ext (List.append_cancel_left hlist)

/-- A request of a message. -/
structure Listed (id : String) (row : ApprovalRequest) : Prop where
  id_eq : row.id = id
  id_ne : id ≠ ""
  kind_eq : row.kind = jobGate

/-- Nothing was sent for it. -/
structure Filing (id : String) (row : ApprovalRequest) : Prop extends Listed id row where
  unsent : Unsent row

/-- The request has a draft, which was made for a job. -/
structure Drafted (row : ApprovalRequest) (draftId : String) : Prop where
  draft_eq : (loads row.payloadJson).get? "gmail_draft_id" = some (.str draftId)
  draft_ne : draftId ≠ ""
  workflow_eq : (loads row.payloadJson).get? "workflow" = some (.str outboundWorkflow)
  source : ∃ id, id ≠ "" ∧ (loads row.payloadJson).get? "job_id" = some (.str id)

/-- The job sends this request. -/
structure SendJob (row : ApprovalRequest) (job : Job) : Prop where
  type_eq : job.type = emailSendApprovedType
  key_eq : job.idempotencyKey = some (sendKey row.id)
  approval_eq : (loads job.payloadJson).get? "approval_id" = some (.str row.id)
  tenant_eq : job.tenantId = row.tenantId

/-- The actions of a request's events, once it has this status. -/
def decisionTrail : ApprovalStatus → List String
  | .pending => [AuditAction.approvalCreated]
  | .approved => [AuditAction.approvalCreated, AuditAction.approvalApproved]
  | .rejected => [AuditAction.approvalCreated, AuditAction.approvalRejected]

def sendTrail : List String := decisionTrail .approved ++ [AuditAction.sendJobEnqueued]

/-- Nothing was sent. -/
def Failures (replies : List (Except PyErr String)) : Prop :=
  ∀ reply ∈ replies, ∃ e, reply = .error e

/-- The handler catches what the provider raised, and records it. -/
def Reported : Except PyErr String → Bool
  | .error e => (caughtMessage e).isSome
  | .ok _ => false

def failureTrail (replies : List (Except PyErr String)) : List String :=
  List.replicate (replies.countP Reported) AuditAction.sendJobFailed

/-- The job waits for a worker, or has failed with the last answer of the provider. -/
def Retryable (job : Job) (replies : List (Except PyErr String)) : Prop :=
  job.status = .pending ∨ job.status = .failed ∧
    ∃ e, replies.getLast? = some (.error e) ∧ job.lastError = some (failureText e)

/-- The delivery of a message that was not sent. -/
structure Undelivered (row : EmailDeliveryRecord) (replies : List (Except PyErr String)) :
    Prop where
  status_eq : row.status = if replies.any Reported then .failed else .awaitingApproval
  message_eq : row.gmailMessageId = none

/-- The records of a sent message. -/
structure SentAs (messageId : String) (row : ApprovalRequest) (job : Job)
    (delivery : EmailDeliveryRecord) : Prop where
  message_ne : messageId ≠ ""
  approval : (loads row.payloadJson).get? "gmail_message_id" = some (.str messageId)
  status_eq : job.status = .succeeded
  result : ∃ body, (loads job.payloadJson).get? "result" =
    some (.obj (sendResult (.str row.id) body messageId false))
  delivery_eq : delivery.status = .sent
  message_eq : delivery.gmailMessageId = some messageId
  execution_eq : delivery.executionJobId = some job.id

/-- The phases of a file. -/
inductive Filed (id : String) : Dossier → Prop where
  | absent : Filed id ⟨none, none, none, [], [], []⟩
  | undrafted {row : ApprovalRequest} {trail : List TrailLine} (hrow : Filing id row)
      (hdraft : ¬HasDraft row) (htrail : trail.map Prod.fst = decisionTrail row.status) :
      Filed id ⟨some row, none, none, trail, [], []⟩
  /-- A draft that waits for a decision, or was rejected. -/
  | drafted {row : ApprovalRequest} {draftId : String} {delivery : EmailDeliveryRecord}
      {trail : List TrailLine} (hrow : Filing id row) (hdraft : Drafted row draftId)
      (hstatus : row.status ≠ .approved)
      (htrail : trail.map Prod.fst = decisionTrail row.status)
      (hdelivery : Undelivered delivery []) :
      Filed id ⟨some row, none, some delivery, trail, [], []⟩
  | queued {row : ApprovalRequest} {draftId : String} {job : Job}
      {delivery : EmailDeliveryRecord} {trail jobTrail : List TrailLine}
      {replies : List (Except PyErr String)} (hrow : Filing id row)
      (hdraft : Drafted row draftId) (hstatus : row.status = .approved)
      (hjob : SendJob row job) (hretry : Retryable job replies)
      (hdelivery : Undelivered delivery replies) (htrail : trail.map Prod.fst = sendTrail)
      (hfailures : Failures replies) (hattempts : job.attempts = replies.length)
      (hlines : jobTrail.map Prod.fst = failureTrail replies) :
      Filed id ⟨some row, some job, some delivery, trail, jobTrail, replies⟩
  | sent {row : ApprovalRequest} {draftId messageId : String} {job : Job}
      {delivery : EmailDeliveryRecord} {trail lines : List TrailLine}
      {failures : List (Except PyErr String)} (hrow : Listed id row)
      (hdraft : Drafted row draftId) (hstatus : row.status = .approved)
      (hjob : SendJob row job) (hsent : SentAs messageId row job delivery)
      (htrail : trail.map Prod.fst = sendTrail) (hfailures : Failures failures)
      (hattempts : job.attempts = failures.length + 1)
      (hlines : lines.map Prod.fst = failureTrail failures) :
      Filed id ⟨some row, some job, some delivery, trail,
        lines ++ [(sentEvent job row.id messageId).line], failures ++ [.ok messageId]⟩

theorem Undelivered.status_ne {row : EmailDeliveryRecord}
    {replies : List (Except PyErr String)} (h : Undelivered row replies) :
    row.status ≠ .sent := by
  rw [h.status_eq]
  split <;> simp

theorem Drafted.hasDraft {row : ApprovalRequest} {draftId : String}
    (h : Drafted row draftId) : HasDraft row := by
  rw [HasDraft, h.draft_eq]
  exact truthy_str h.draft_ne

/-- The fields of a request that a later write leaves as they are. -/
structure SameRequest (row row' : ApprovalRequest) : Prop where
  id_eq : row'.id = row.id
  kind_eq : row'.kind = row.kind
  tenant_eq : row'.tenantId = row.tenantId
  data : ∀ k ∈ ["gmail_draft_id", "workflow", "job_id"],
    (loads row'.payloadJson).get? k = (loads row.payloadJson).get? k

section

variable {row row' : ApprovalRequest} {job job' : Job} {draftId : String}

theorem SameRequest.drafted (h : SameRequest row row') (hdraft : Drafted row draftId) :
    Drafted row' draftId where
  draft_eq := (h.data _ (by simp)).trans hdraft.draft_eq
  draft_ne := hdraft.draft_ne
  workflow_eq := (h.data _ (by simp)).trans hdraft.workflow_eq
  source := by
    obtain ⟨id, hid, hsource⟩ := hdraft.source
    exact ⟨id, hid, (h.data _ (by simp)).trans hsource⟩

theorem SameRequest.hasDraft_iff (h : SameRequest row row') : HasDraft row' ↔ HasDraft row := by
  rw [HasDraft, HasDraft, h.data _ (by simp)]

theorem SameRequest.sendJob (h : SameRequest row row') (hjob : SendJob row job) :
    SendJob row' job where
  type_eq := hjob.type_eq
  key_eq := by rw [h.id_eq, hjob.key_eq]
  approval_eq := by rw [h.id_eq, hjob.approval_eq]
  tenant_eq := by rw [h.tenant_eq, hjob.tenant_eq]

theorem sameRequest_merged (row : ApprovalRequest) (messageId : String) :
    SameRequest row (merged row (sentFields messageId)) where
  id_eq := rfl
  kind_eq := rfl
  tenant_eq := rfl
  data k hk := by
    apply Dict.get?_update_of_not_mem
    simp only [List.mem_cons, List.not_mem_nil, or_false] at hk
    rcases hk with rfl | rfl | rfl <;> simp [sentFields]

section

variable [Deployment] {status : ApprovalStatus} {decision : Dict} {now : Moment}

theorem sameRequest_decided : SameRequest row (decided row status decision now) where
  id_eq := rfl
  kind_eq := rfl
  tenant_eq := rfl
  data k hk := by
    apply decided_get
    rintro rfl
    simp at hk

theorem Filing.decided {id : String} (h : Filing id row) :
    Filing id (decided row status decision now) where
  id_eq := h.id_eq
  id_ne := h.id_ne
  kind_eq := h.kind_eq
  unsent := (decided_get (by simp)).trans h.unsent

end

/-- A write of the worker keeps what makes the job one of the request. -/
theorem SendJob.written (h : SendJob row job) (htype : job'.type = job.type)
    (hkey : job'.idempotencyKey = job.idempotencyKey) (htenant : job'.tenantId = job.tenantId)
    (happroval : (loads job'.payloadJson).get? "approval_id" =
      (loads job.payloadJson).get? "approval_id") : SendJob row job' where
  type_eq := htype.trans h.type_eq
  key_eq := hkey.trans h.key_eq
  approval_eq := happroval.trans h.approval_eq
  tenant_eq := htenant.trans h.tenant_eq

end

/-- What one operation does to one file. -/
inductive Move [Deployment] (id : String) : Dossier → Dossier → Prop where
  | keep (d : Dossier) : Move id d d
  | opened {row : ApprovalRequest} {line : TrailLine} (hrow : Filing id row)
      (hstatus : row.status = .pending) (hdraft : ¬HasDraft row)
      (hline : line.1 = AuditAction.approvalCreated) :
      Move id ⟨none, none, none, [], [], []⟩ ⟨some row, none, none, [line], [], []⟩
  | drafted {row : ApprovalRequest} {draftId : String} {delivery : EmailDeliveryRecord}
      {line : TrailLine} (hrow : Filing id row) (hstatus : row.status = .pending)
      (hdraft : Drafted row draftId) (hawaits : delivery.status = .awaitingApproval)
      (hmessage : delivery.gmailMessageId = none)
      (hline : line.1 = AuditAction.approvalCreated) :
      Move id ⟨none, none, none, [], [], []⟩ ⟨some row, none, some delivery, [line], [], []⟩
  | rejected {d : Dossier} {row : ApprovalRequest} {decision : Dict} {now : Moment}
      {line : TrailLine} (hrow : d.approval = some row) (hstatus : row.status = .pending)
      (hline : line.1 = AuditAction.approvalRejected) :
      Move id d { d with
        approval := some (decided row .rejected decision now)
        trail := d.trail ++ [line] }
  | approved {d : Dossier} {row : ApprovalRequest} {decision : Dict} {now : Moment}
      {line : TrailLine} (hrow : d.approval = some row) (hstatus : row.status = .pending)
      (hdraft : ¬HasDraft row) (hline : line.1 = AuditAction.approvalApproved) :
      Move id d { d with
        approval := some (decided row .approved decision now)
        trail := d.trail ++ [line] }
  | enqueued {d : Dossier} {row : ApprovalRequest} {decision : Dict} {now : Moment} {job : Job}
      {line line' : TrailLine} (hrow : d.approval = some row) (hstatus : row.status = .pending)
      (hdraft : HasDraft row) (hjob : SendJob row job) (hpending : job.status = .pending)
      (hattempts : job.attempts = 0) (hline : line.1 = AuditAction.approvalApproved)
      (hline' : line'.1 = AuditAction.sendJobEnqueued) :
      Move id d { d with
        approval := some (decided row .approved decision now)
        job := some job
        trail := d.trail ++ [line, line']
        jobTrail := [] }
  | retried {d : Dossier} {job : Job} (hjob : d.job = some job) (hstatus : job.status = .failed) :
      Move id d { d with job := some { job with status := .pending, lastError := none } }
  | sent {d : Dossier} {row : ApprovalRequest} {job : Job} {messageId : String}
      (hrow : d.approval = some row) (hjob : d.job = some job) (hstatus : job.status = .pending)
      (hmessage : messageId ≠ "") :
      Move id d {
        approval := some (merged row (sentFields messageId))
        job := some (succeededJob (claimed job)
          (sendResult (.str row.id) (loads row.payloadJson) messageId false))
        delivery := d.delivery.map (sentDelivery job.id messageId)
        trail := d.trail
        jobTrail := d.jobTrail ++ [(sentEvent job row.id messageId).line]
        sends := d.sends ++ [.ok messageId] }
  | refused {d : Dossier} {row : ApprovalRequest} {job : Job} {e : PyErr} {message : String}
      (hrow : d.approval = some row) (hjob : d.job = some job) (hstatus : job.status = .pending)
      (hmessage : caughtMessage e = some message) :
      Move id d { d with
        job := some (failedJob (claimed job) message)
        delivery := d.delivery.map (failedDelivery job.id message)
        jobTrail := d.jobTrail ++ [(failedEvent job row.id message).line]
        sends := d.sends ++ [.error e] }
  | escaped {d : Dossier} {job : Job} {e : PyErr} (hjob : d.job = some job)
      (hstatus : job.status = .pending) (hmessage : caughtMessage e = none) :
      Move id d { d with
        job := some (failedJob (claimed job) e.str)
        sends := d.sends ++ [.error e] }

/-- The answer of a failed attempt joins the failures before it. -/
theorem Failures.snoc {replies : List (Except PyErr String)} (h : Failures replies)
    (e : PyErr) : Failures (replies ++ [.error e]) := by
  intro reply hreply
  rcases List.mem_append.mp hreply with hold | hnew
  · exact h reply hold
  · exact ⟨e, List.mem_singleton.mp hnew⟩

theorem failureTrail_snoc (replies : List (Except PyErr String)) (e : PyErr) :
    failureTrail (replies ++ [.error e]) = failureTrail replies ++
      if (caughtMessage e).isSome then [AuditAction.sendJobFailed] else [] := by
  unfold failureTrail
  rw [List.countP_append, List.countP_singleton, List.replicate_add]
  cases h : (caughtMessage e).isSome <;> simp [Reported, h]

theorem any_reported_snoc (replies : List (Except PyErr String)) (e : PyErr) :
    List.any (replies ++ [.error e]) Reported =
      (replies.any Reported || (caughtMessage e).isSome) := by
  rw [List.any_append, List.any_cons, List.any_nil, Bool.or_false]
  rfl

theorem Undelivered.refused {row : EmailDeliveryRecord} {replies : List (Except PyErr String)}
    {e : PyErr} {message : String} (h : Undelivered row replies)
    (hmessage : caughtMessage e = some message) (jobId : String) :
    Undelivered (failedDelivery jobId message row) (replies ++ [.error e]) where
  status_eq := by
    rw [any_reported_snoc, hmessage, Option.isSome_some, Bool.or_true, if_pos rfl]
    rfl
  message_eq := h.message_eq

theorem Undelivered.escaped {row : EmailDeliveryRecord} {replies : List (Except PyErr String)}
    {e : PyErr} (h : Undelivered row replies) (hmessage : caughtMessage e = none) :
    Undelivered row (replies ++ [.error e]) where
  status_eq := by
    rw [any_reported_snoc, hmessage, Option.isSome_none, Bool.or_false]
    exact h.status_eq
  message_eq := h.message_eq

/-- A failed job has failed with the answer it got last. -/
theorem retryable_failed {job : Job} (replies : List (Except PyErr String)) (e : PyErr) :
    Retryable (failedJob (claimed job) (failureText e)) (replies ++ [.error e]) :=
  Or.inr ⟨rfl, e, List.getLast?_concat, rfl⟩

section

variable [Deployment] {id : String} {d d' : Dossier}

theorem Filed.move (h : Filed id d) (hmove : Move id d d') : Filed id d' := by
  cases hmove with
  | keep => exact h
  | opened hrow hstatus hdraft hline =>
      apply Filed.undrafted hrow hdraft
      simp [hstatus, hline, decisionTrail]
  | drafted hrow hstatus hdraft hawaits hmessage hline =>
      apply Filed.drafted hrow hdraft (by simp [hstatus]) _ ⟨hawaits, hmessage⟩
      simp [hstatus, hline, decisionTrail]
  | rejected hrow hstatus hline =>
      cases h with
      | absent => cases hrow
      | undrafted hfiling hdraft htrail =>
          cases hrow
          apply Filed.undrafted hfiling.decided
            (fun h => hdraft (sameRequest_decided.hasDraft_iff.mp h))
          simp [htrail, hstatus, hline, decisionTrail, decided]
      | drafted hfiling hdraft hopen htrail hdelivery =>
          cases hrow
          apply Filed.drafted hfiling.decided (sameRequest_decided.drafted hdraft)
            (by simp [decided]) _ hdelivery
          simp [htrail, hstatus, hline, decisionTrail, decided]
      | queued _ _ happroved =>
          cases hrow
          simp [happroved] at hstatus
      | sent _ _ happroved =>
          cases hrow
          simp [happroved] at hstatus
  | approved hrow hstatus hdraft hline =>
      cases h with
      | absent => cases hrow
      | undrafted hfiling hnone htrail =>
          cases hrow
          apply Filed.undrafted hfiling.decided
            (fun h => hdraft (sameRequest_decided.hasDraft_iff.mp h))
          simp [htrail, hstatus, hline, decisionTrail, decided]
      | drafted _ hdrafted =>
          cases hrow
          exact absurd hdrafted.hasDraft hdraft
      | queued _ hdrafted =>
          cases hrow
          exact absurd hdrafted.hasDraft hdraft
      | sent _ hdrafted =>
          cases hrow
          exact absurd hdrafted.hasDraft hdraft
  | enqueued hrow hstatus hdraft hjob hpending hattempts hline hline' =>
      cases h with
      | absent => cases hrow
      | undrafted _ hnone =>
          cases hrow
          exact absurd hdraft hnone
      | drafted hfiling hdrafted hopen htrail hdelivery =>
          cases hrow
          apply Filed.queued hfiling.decided (sameRequest_decided.drafted hdrafted) rfl
            (sameRequest_decided.sendJob hjob) (Or.inl hpending) hdelivery
          · simp [htrail, hstatus, hline, hline', sendTrail, decisionTrail]
          · rintro reply ⟨⟩
          · exact hattempts
          · rfl
      | queued _ _ happroved =>
          cases hrow
          simp [happroved] at hstatus
      | sent _ _ happroved =>
          cases hrow
          simp [happroved] at hstatus
  | retried hjob hstatus =>
      cases h with
      | absent => cases hjob
      | undrafted => cases hjob
      | drafted => cases hjob
      | queued hfiling hdraft happroved hsend hretry hdelivery htrail hfailures hattempts hlines =>
          cases hjob
          exact .queued hfiling hdraft happroved (hsend.written rfl rfl rfl rfl) (Or.inl rfl)
            hdelivery htrail hfailures hattempts hlines
      | sent _ _ _ _ hsent =>
          cases hjob
          simp [hsent.status_eq] at hstatus
  | @sent _ row job messageId hrow hjob hstatus hmessage =>
      cases h with
      | absent => cases hjob
      | undrafted => cases hjob
      | drafted => cases hjob
      | queued hfiling hdraft happroved hsend hretry hdelivery htrail hfailures hattempts hlines =>
          cases hjob
          cases hrow
          have hsame := sameRequest_merged row messageId
          have hresult : (loads (succeededJob (claimed job) (sendResult (.str row.id)
              (loads row.payloadJson) messageId false)).payloadJson).get? "approval_id" =
                (loads job.payloadJson).get? "approval_id" :=
            Dict.get?_set_of_ne _ _ (by simp)
          have hlisted : Listed id (merged row (sentFields messageId)) :=
            ⟨hfiling.id_eq, hfiling.id_ne, hfiling.kind_eq⟩
          refine Filed.sent hlisted (hsame.drafted hdraft) happroved
            ((hsame.sendJob hsend).written rfl rfl rfl hresult) ?_ htrail hfailures ?_ hlines
          · refine ⟨hmessage, ?_, rfl, ⟨loads row.payloadJson, ?_⟩, rfl, rfl, rfl⟩
            · exact (Dict.get?_set_of_ne _ _ (by simp)).trans (Dict.get?_set_self _ _ _)
            · exact Dict.get?_set_self _ _ _
          · simp [succeededJob, counted, claimed, hattempts]
      | sent _ _ _ _ hsent =>
          cases hjob
          simp [hsent.status_eq] at hstatus
  | @refused _ row job e message hrow hjob hstatus hmessage =>
      cases h with
      | absent => cases hjob
      | undrafted => cases hjob
      | drafted => cases hjob
      | @queued row draftId job delivery trail jobTrail replies hfiling hdraft happroved hsend
          hretry hdelivery htrail hfailures hattempts hlines =>
          cases hjob
          cases hrow
          obtain rfl : failureText e = message := by rw [failureText, hmessage]; rfl
          refine .queued hfiling hdraft happroved (hsend.written rfl rfl rfl rfl)
            (retryable_failed replies e) (hdelivery.refused hmessage job.id) htrail
            (hfailures.snoc e) ?_ ?_
          · simp [failedJob, counted, claimed, hattempts]
          · rw [List.map_append, hlines, failureTrail_snoc, hmessage]
            rfl
      | sent _ _ _ _ hsent =>
          cases hjob
          simp [hsent.status_eq] at hstatus
  | @escaped _ job e hjob hstatus hmessage =>
      cases h with
      | absent => cases hjob
      | undrafted => cases hjob
      | drafted => cases hjob
      | @queued row draftId job delivery trail jobTrail replies hfiling hdraft happroved hsend
          hretry hdelivery htrail hfailures hattempts hlines =>
          cases hjob
          have htext : failureText e = e.str := by rw [failureText, hmessage]; rfl
          rw [← htext]
          refine .queued hfiling hdraft happroved (hsend.written rfl rfl rfl rfl)
            (retryable_failed replies e) (hdelivery.escaped hmessage) htrail
            (hfailures.snoc e) ?_ ?_
          · simp [failedJob, counted, claimed, hattempts]
          · rw [hlines, failureTrail_snoc, hmessage]
            exact (List.append_nil _).symm
      | sent _ _ _ _ hsent =>
          cases hjob
          simp [hsent.status_eq] at hstatus

end

end ControlPlane
