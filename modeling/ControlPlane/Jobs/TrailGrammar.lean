import ControlPlane.Audit.FirstBreak
import ControlPlane.Jobs.FailedOrchestration
import ControlPlane.Jobs.SendRecords

/-!
The words of the audit trail. The events of one resource, in the order of their numbers,
spell the life of a request and of the job that sends it.
-/

namespace ControlPlane

open Lib JobService AuditService ApprovalService EmailService Tasks

/-- The actions on a resource, in the order of the chain. -/
def actions [Deployment] (kind id : String) (events : AuditTable) : List String :=
  ((orderedChain events.rows).filter fun e =>
    e.resourceType = kind && e.resourceId = id).map AuditEvent.action

/-- What the trail of a request says. -/
inductive RequestWord (row : ApprovalRequest) : List String → Prop where
  | created (hstatus : row.status = .pending) : RequestWord row [AuditAction.approvalCreated]
  | rejected (hstatus : row.status = .rejected) :
      RequestWord row [AuditAction.approvalCreated, AuditAction.approvalRejected]
  | approved (hstatus : row.status = .approved) (hdraft : ¬HasDraft row) :
      RequestWord row [AuditAction.approvalCreated, AuditAction.approvalApproved]
  | queued (hstatus : row.status = .approved) (hdraft : HasDraft row) :
      RequestWord row [AuditAction.approvalCreated, AuditAction.approvalApproved,
        AuditAction.sendJobEnqueued]

/-- The failed attempts to send a request. -/
def failedAttempts (log : List (Event Call Reply)) (id : String) : Nat :=
  (sends log id).countP fun reply => !reply.isOk

/-- What the trail of a job that sends says. -/
structure SendWord (log : List (Event Call Reply)) (id : String) (job : Job)
    (word : List String) : Prop where
  word_eq : word = List.replicate (failedAttempts log id) AuditAction.sendJobFailed ++
    if job.status = .succeeded then [AuditAction.sendJobSucceeded] else []
  attempts_eq : job.attempts =
    failedAttempts log id + if job.status = .succeeded then 1 else 0

theorem Filed.word {id : String} {d : Dossier} {row : ApprovalRequest} (h : Filed id d)
    (hrow : d.approval = some row) : RequestWord row (d.trail.map Prod.fst) := by
  cases h with
  | absent => cases hrow
  | undrafted _ hdraft htrail =>
      cases hrow
      rw [htrail]
      cases hstatus : row.status with
      | pending => exact .created hstatus
      | approved => exact .approved hstatus hdraft
      | rejected => exact .rejected hstatus
  | drafted _ _ hopen htrail =>
      cases hrow
      rw [htrail]
      cases hstatus : row.status with
      | pending => exact .created hstatus
      | approved => exact absurd hstatus hopen
      | rejected => exact .rejected hstatus
  | queued _ hdraft hstatus _ _ _ htrail =>
      cases hrow
      rw [htrail]
      exact .queued hstatus hdraft.hasDraft
  | sent _ hdraft hstatus _ _ htrail =>
      cases hrow
      rw [htrail]
      exact .queued hstatus hdraft.hasDraft

section

variable [Deployment] {events : AuditTable}

/-- Every row is numbered, above the rows before it. -/
structure Numbered (rows : List AuditEvent) : Prop where
  hashed : ∀ row ∈ rows, row.eventHash.isSome = true
  numbered : ∀ row ∈ rows, ∃ n, row.seq = some n
  rising : Rising rows

omit [Deployment] in
theorem Numbered.chained_eq {rows : List AuditEvent} (h : Numbered rows) :
    chained rows = rows :=
  List.filter_eq_self.mpr h.hashed

theorem Numbered.below {rows : List AuditEvent} (h : Numbered rows) :
    ∀ row ∈ rows, ∃ m, row.seq = some m ∧ m < nextSeq (chainHead rows) := by
  intro row hrow
  have hrising : Rising (chained rows) := by
    rw [h.chained_eq]
    exact h.rising
  rcases List.eq_nil_or_concat rows with rfl | ⟨init, last, hlast⟩
  · cases hrow
  · obtain ⟨N, hN⟩ := h.numbered last (by simp [hlast])
    have hends : EndsAt rows N :=
      endsAt_of_rising hrising (by rw [h.chained_eq, hlast, List.concat_eq_append]) hN
    obtain ⟨m, hm, hle⟩ := hends.le row (by rwa [h.chained_eq])
    have hlt : N < nextSeq (chainHead (rows ++ [])) := lt_nextSeq hends (by simp)
    rw [List.append_nil] at hlt
    exact ⟨m, hm, by omega⟩

theorem Recorded.numbered (h : Recorded events) : Numbered events.rows := by
  induction h with
  | start => exact ⟨by rintro row ⟨⟩, by rintro row ⟨⟩, List.Pairwise.nil⟩
  | @appended e before after _ hevent ih =>
      obtain ⟨now, hash, r, hinsert⟩ := hevent
      rw [Table.rows_insert hinsert]
      refine ⟨?_, ?_, ?_⟩
      · intro row hrow
        rcases List.mem_append.mp hrow with hold | hnew
        · exact ih.hashed row hold
        · rw [List.mem_singleton.mp hnew]
          rfl
      · intro row hrow
        rcases List.mem_append.mp hrow with hold | hnew
        · exact ih.numbered row hold
        · rw [List.mem_singleton.mp hnew]
          exact ⟨_, rfl⟩
      · apply List.pairwise_append.mpr
        refine ⟨ih.rising, List.pairwise_singleton _ _, ?_⟩
        intro row hrow new hnew
        obtain ⟨m, hm, hlt⟩ := ih.below row hrow
        rw [List.mem_singleton.mp hnew]
        exact ⟨m, _, hm, rfl, hlt⟩

/-- The order of the chain is the order of the table. -/
theorem Recorded.actions_eq (h : Recorded events) (kind id : String) :
    actions kind id events = (trail kind id events).map Prod.fst := by
  have hordered : orderedChain events.rows = events.rows := by
    rw [orderedChain_of_rising (by rw [h.numbered.chained_eq]; exact h.numbered.rising),
      h.numbered.chained_eq]
  unfold actions trail
  rw [hordered, List.map_map]
  rfl

variable {heard : (q : Call) → Reply q → Prop} {log : List (Event Call Reply)} {s : Database}

theorem Steps.heard_all {meets : Option Request → Database → Prop}
    (h : Steps heard meets log s) : ∀ e ∈ log, heard e.call e.answer := by
  induction h with
  | start => rintro e ⟨⟩
  | step _ _ hrun ih =>
      intro e he
      rcases List.mem_append.mp he with hold | hnew
      · exact ih e hold
      · exact steady_heard hrun e hnew

omit [Deployment] in
/-- The handler catches every `ConnectorError`. -/
theorem reported_connector {e : PyErr} (h : e.isConnector = true) :
    Reported (.error e) = true := by
  cases e with
  | connector cls message => rfl
  | _ => cases h

omit [Deployment] in
theorem reported_sends (hraises : ∀ q r, heard q r → connectorErrors q r)
    (hlog : ∀ e ∈ log, heard e.call e.answer) (id : String) {e : PyErr}
    (he : .error e ∈ sends log id) : Reported (.error e) = true := by
  obtain ⟨⟨call, answer⟩, hmem, hanswer⟩ := List.mem_filterMap.mp he
  cases call with
  | sendApprovedDraft approvalId draftId =>
      simp only [sendReply] at hanswer
      split at hanswer
      · cases hanswer
        exact reported_connector (hraises _ _ (hlog _ hmem))
      · cases hanswer
  | _ => cases hanswer

omit [Deployment] in
theorem Failures.failureTrail_eq {replies : List (Except PyErr String)} (h : Failures replies)
    (hreported : ∀ e, .error e ∈ replies → Reported (.error e) = true) :
    failureTrail replies = List.replicate replies.length AuditAction.sendJobFailed := by
  have hall : ∀ reply ∈ replies, Reported reply = true := by
    intro reply hreply
    obtain ⟨e, rfl⟩ := h reply hreply
    exact hreported e hreply
  rw [failureTrail, List.countP_eq_length.mpr hall]

omit [Deployment] in
theorem Failures.countP_eq {replies : List (Except PyErr String)} (h : Failures replies) :
    replies.countP (fun reply => !reply.isOk) = replies.length := by
  apply List.countP_eq_length.mpr
  intro reply hreply
  obtain ⟨e, rfl⟩ := h reply hreply
  rfl

/-- The audit trail of a request is a word of its life cycle, and the trail of a send job says as
many failures as the provider has refused sends, and a success in the end if there was one. The
operations are complete, their commits are stored, and the connector raises its own errors. -/
theorem trail_grammar (husual : Usual heard) (hraises : ∀ q r, heard q r → connectorErrors q r)
    (h : SendHistory heard log s) :
    (∀ row ∈ s.approvals.rows, row.kind = jobGate →
      RequestWord row (actions "approval" row.id s.auditEvents)) ∧
    ∀ job ∈ s.jobs.rows, job.type = emailSendApprovedType →
      ∃ id, (loads job.payloadJson).get? "approval_id" = some (.str id) ∧
        SendWord log id job (actions "job" job.id s.auditEvents) := by
  have hwired := h.wired husual
  constructor
  · intro row hrow _
    rw [hwired.recorded.actions_eq]
    exact (hwired.files row.id).word (s.approvals.find?_key hrow)
  · intro job hjob htype
    obtain ⟨row, draftId, hsend, hfind, hunique, _⟩ := hwired.request hjob htype
    refine ⟨row.id, hsend.approval_eq, ?_⟩
    rw [hwired.recorded.actions_eq, ← trail_of_job hunique]
    have hreported : ∀ e, .error e ∈ sends log row.id → Reported (.error e) = true := fun e =>
      reported_sends hraises h.heard_all row.id
    obtain ⟨_, _, ⟨_, hretry, _, hfailures, hattempts, hlines⟩ |
      ⟨messageId, lines, failures, hsent, hfailures, hattempts, hlines, htrail, hsends⟩⟩ :=
        (hwired.files row.id).sent_or hfind hunique
    · have hsame : (dossier log s row.id).sends = sends log row.id := rfl
      rw [hsame] at hfailures hattempts hlines
      have hcount : failedAttempts log row.id = (sends log row.id).length :=
        hfailures.countP_eq
      constructor
      · rw [hlines, hfailures.failureTrail_eq hreported, hcount, if_neg hretry.not_succeeded,
          List.append_nil]
      · rw [hattempts, hcount, if_neg hretry.not_succeeded]
        rfl
    · have hsame : sends log row.id = failures ++ [.ok messageId] := hsends
      have hcount : failedAttempts log row.id = failures.length := by
        unfold failedAttempts
        rw [hsame, List.countP_append, hfailures.countP_eq]
        rfl
      have hknown : ∀ e, .error e ∈ failures → Reported (.error e) = true := by
        intro e he
        apply hreported e
        rw [hsame]
        exact List.mem_append_left _ he
      constructor
      · rw [htrail, List.map_append, hlines, hfailures.failureTrail_eq hknown, hcount,
          if_pos hsent.status_eq]
        rfl
      · rw [hattempts, hcount, if_pos hsent.status_eq]

end

section Sample

local instance instGrammarDeployment : Deployment := instSendDeployment

/-- Ids that are not empty, or connector errors. -/
def connectorAnswers (q : Call) (r : Reply q) : Prop := usual q r ∧ connectorErrors q r

instance (q : Call) (r : Reply q) : Decidable (connectorAnswers q r) :=
  inferInstanceAs (Decidable (_ ∧ _))

theorem refused_mail_words : ∃ log, ∃ job ∈ refusedMail.jobs.rows, ∃ id,
    SendWord log id job (actions "job" job.id refusedMail.auditEvents) := by
  have h : SendHistory connectorAnswers _ refusedMail :=
    operated_history (operated_history (operated_history (operated_history .start
      (by decide +kernel)) (by decide +kernel)) (by decide +kernel)) (by decide +kernel)
  have hqueued : ∃ job ∈ refusedMail.jobs.rows, job.type = emailSendApprovedType := by
    decide +kernel
  obtain ⟨job, hjob, htype⟩ := hqueued
  obtain ⟨id, _, hword⟩ := (trail_grammar (fun _ _ hheard => hheard.1)
    (fun _ _ hheard => hheard.2) h).2 job hjob htype
  exact ⟨_, job, hjob, id, hword⟩

end Sample

end ControlPlane
