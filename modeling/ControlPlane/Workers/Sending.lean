import ControlPlane.Approvals.SendGate
import ControlPlane.Workers.Processing

/-!
One send processed in steady surroundings, when its approval passes the checks: the
provider is asked once, and the answer decides what is written.
-/

namespace ControlPlane

open Lib JobService AuditService ApprovalService EmailPersistence EmailService Tasks Runner

/-- The call of a send. -/
def sendCall (approvalId draftId : String) : Call :=
  .sendApprovedDraft approvalId (.str draftId)

/-- What the provider answered to a call. -/
def sendEvent (approvalId draftId : String) (reply : Except PyErr String) :
    Event Call Reply :=
  ⟨sendCall approvalId draftId, reply⟩

/-- The fields that a completed send adds to its approval. -/
def sentFields (messageId : String) : Dict :=
  [("gmail_message_id", .str messageId), ("send_status", .str "sent")]

def sentEvent (job : Job) (approvalId messageId : String) : NewEvent where
  action := AuditAction.sendJobSucceeded
  resourceType := "job"
  resourceId := job.id
  tenantId := job.tenantId
  metadata := some [("approval_id", .str approvalId), ("gmail_message_id", .str messageId)]

def failedEvent (job : Job) (approvalId error : String) : NewEvent where
  action := AuditAction.sendJobFailed
  resourceType := "job"
  resourceId := job.id
  tenantId := job.tenantId
  metadata := some [("error", .str error), ("approval_id", .str approvalId)]

/-- A request with a draft, as the orchestration leaves it: it passes every check of the
gate. -/
structure Sendable (s : Database) (row : ApprovalRequest) (draftId : String) : Prop where
  id_ne : row.id ≠ ""
  kind_eq : row.kind = jobGate
  draft_eq : (loads row.payloadJson).get? "gmail_draft_id" = some (.str draftId)
  draft_ne : draftId ≠ ""
  workflow_eq : (loads row.payloadJson).get? "workflow" = some (.str outboundWorkflow)
  source : ∃ id, id ≠ "" ∧ (loads row.payloadJson).get? "job_id" = some (.str id) ∧
    (s.jobs.find? id).isSome

/-- An approved request that can be sent, and the job for it. -/
structure Executable (s : Database) (job : Job) (row : ApprovalRequest) (draftId : String) :
    Prop where
  sendable : Sendable s row draftId
  stored : s.approvals.find? row.id = some row
  status_eq : row.status = .approved
  type_eq : job.type = emailSendApprovedType
  approval_eq : (loads job.payloadJson).get? "approval_id" = some (.str row.id)
  tenant_eq : job.tenantId = row.tenantId

/-- Nothing was sent for the request. -/
def Unsent (row : ApprovalRequest) : Prop :=
  (loads row.payloadJson).get? "gmail_message_id" = none

theorem truthy_str {text : String} (h : text ≠ "") :
    Json.truthy (some (.str text)) = true := by
  simp [Json.truthy, h]

/-- Only whether the source job exists depends on the store. -/
theorem Sendable.grown {s s' : Database} {row : ApprovalRequest} {draftId : String}
    (h : Sendable s row draftId)
    (hjobs : ∀ id, (s.jobs.find? id).isSome → (s'.jobs.find? id).isSome) :
    Sendable s' row draftId := by
  obtain ⟨id, hid, hsource, hstored⟩ := h.source
  exact { h with source := ⟨id, hid, hsource, hjobs id hstored⟩ }

theorem Sendable.gateError {s : Database} {row : ApprovalRequest} {draftId : String}
    (h : Sendable s row draftId) : gateError s row = none := by
  obtain ⟨id, hid, hsource, hstored⟩ := h.source
  have hworkflow : wrongWorkflow (loads row.payloadJson) = false := by
    simp [wrongWorkflow, h.workflow_eq]
  have hjob : (s.job? (.str id)).isNone = false := by
    rw [Database.job?_str, Option.isNone_eq_false_iff]
    exact hstored
  unfold ApprovalService.gateError
  rw [if_neg (not_not.mpr h.kind_eq)]
  dsimp only
  rw [h.draft_eq, truthy_str h.draft_ne, hworkflow, hsource, truthy_str hid,
    Option.getD_some, hjob]
  rfl

section

variable [Deployment] {heard : (q : Call) → Reply q → Prop} {β : Type}
  {s s' : Database} {trace : List (Event Call Reply)}

/-- The store after the provider has taken the message. -/
inductive Delivered (job : Job) (row : ApprovalRequest) (messageId : String) (s : Database) :
    Database → Prop where
  | done {approvals : ApprovalTable} {deliveries : DeliveryTable} {events : AuditTable}
      (happrovals : s.approvals.Puts approvals (merged row (sentFields messageId)))
      (hdeliveries : Marked s.emailDeliveries deliveries row.id
        (sentDelivery job.id messageId))
      (hevents : Appended (sentEvent job row.id messageId) s.auditEvents events) :
      Delivered job row messageId s { s with
        approvals := approvals
        emailDeliveries := deliveries
        auditEvents := events }

theorem steady_sendAndRecord_bind {job : Job} {row : ApprovalRequest} {draft : Json}
    {k : String → Session β} {result : Except PyErr β}
    (hrow : s.approvals.find? row.id = some row)
    (h : Prog.Runs (steady heard) ((sendAndRecord job row draft).bind k) s trace
      result s') :
    ∃ (reply : Except PyErr String) (rest : List (Event Call Reply)),
      outward trace = ⟨.sendApprovedDraft row.id draft, reply⟩ :: outward rest ∧
      ((∃ messageId s₁, reply = .ok messageId ∧ Delivered job row messageId s s₁ ∧
        Prog.Runs (steady heard) (k messageId) s₁ rest result s') ∨
        ∃ e, reply = .error e ∧ rest = [] ∧ result = .error e ∧ s' = s) := by
  unfold sendAndRecord recordSendCompleted at h
  simp only [Prog.bind_eq, Prog.bind_assoc] at h
  obtain ⟨reply, rest, rfl, _, hreply⟩ := runs_sendApprovedDraft_bind h
  rcases runs_answered_bind hreply with ⟨messageId, rfl, hsent⟩ | ⟨e, rfl, rfl, rfl, rfl⟩
  · obtain ⟨approvals, rest₁, hout₁, happrovals, hmark⟩ :=
      steady_mergeExecutionContext_bind hrow hsent
    obtain ⟨deliveries, rest₂, hout₂, hdeliveries, hrecord⟩ :=
      steady_markDeliverySent_bind hmark
    obtain ⟨_, events, rest₃, hout₃, hevents, hrest⟩ := steady_record_bind hrecord
    exact ⟨.ok messageId, rest₃,
      congrArg (List.cons _) (hout₁.trans (hout₂.trans hout₃)),
      Or.inl ⟨messageId, _, rfl, .done happrovals hdeliveries hevents, hrest⟩⟩
  · exact ⟨.error e, [], rfl, Or.inr ⟨e, rfl, rfl, rfl, rfl⟩⟩

/-- The checks of an execution call nothing outside. -/
theorem validateSend_quiet (job : Job) (row : ApprovalRequest) :
    Calls (fun q => q.outward = false) (validateSendExecutionInvariants job row) := by
  unfold validateSendExecutionInvariants
  split
  · exact calls_throw _
  · split
    · exact calls_throw _
    · split
      · exact calls_throw _
      · exact validateSendEnqueueEligibility_reads (fun _ => rfl) row

/-- The checks of the execution pass, whatever surrounds them. -/
theorem runs_validateSendExecutionInvariants {adm : (q : Call) → Reply q → Database → Prop}
    {job : Job} {row : ApprovalRequest} {draftId : String} {result : Except PyErr Unit}
    (hexec : Executable s job row draftId)
    (h : Prog.Runs adm (validateSendExecutionInvariants job row) s trace result s') :
    outward trace = [] ∧ s' = s ∧ result = .ok () := by
  refine ⟨(validateSend_quiet job row).quiet h, ?_⟩
  unfold validateSendExecutionInvariants validateSendEnqueueEligibility at h
  rw [if_neg (not_not.mpr hexec.type_eq), if_neg (not_not.mpr hexec.approval_eq),
    if_neg (not_not.mpr hexec.tenant_eq), if_neg (not_not.mpr hexec.status_eq),
    Prog.bind_eq] at h
  rcases Prog.runs_bind h with ⟨_, s₁, _, _, hgate, hrest, _⟩ | ⟨e, hgate, rfl⟩
  · obtain ⟨rfl, _⟩ := runs_validateOutboundSendGate hgate
    rw [hexec.sendable.draft_eq, truthy_str hexec.sendable.draft_ne] at hrest
    obtain ⟨_, rfl, rfl⟩ := Prog.runs_pure hrest
    exact ⟨rfl, rfl⟩
  · obtain ⟨_, hresult⟩ := runs_validateOutboundSendGate hgate
    rw [hexec.sendable.gateError] at hresult
    cases hresult

/-- The service of a send that was not done before. -/
theorem steady_runSendApprovedJob {job : Job} {row : ApprovalRequest} {draftId : String}
    {result : Except PyErr Dict} (hexec : Executable s job row draftId) (hunsent : Unsent row)
    (h : Prog.Runs (steady heard) (runSendApprovedJob job) s trace result s') :
    ∃ reply, outward trace = [sendEvent row.id draftId reply] ∧
      ((∃ messageId, reply = .ok messageId ∧ Delivered job row messageId s s' ∧
        result = .ok (sendResult (.str row.id) (loads row.payloadJson) messageId false)) ∨
        ∃ e, reply = .error e ∧ result = .error e ∧ s' = s) := by
  unfold runSendApprovedJob at h
  rw [hexec.approval_eq] at h
  dsimp only [Option.getD_some] at h
  rw [truthy_str hexec.sendable.id_ne] at h
  simp only [Bool.not_true, Bool.false_eq_true, if_false, Prog.bind_eq] at h
  obtain ⟨r, rest, rfl, hloaded⟩ := runs_getRequest_bind h
  rw [Database.approval?_str, hexec.stored] at hloaded
  have hskip : ∀ rest : List (Event Call Reply),
      outward (⟨.select (.approval (.str row.id)), r⟩ :: rest) = outward rest :=
    fun rest => rfl
  rw [hskip]
  rcases Prog.runs_bind hloaded with ⟨_, s₁, first, second, hchecks, hsend, rfl⟩ |
      ⟨e, hchecks, rfl⟩
  · obtain ⟨hquiet, rfl, _⟩ := runs_validateSendExecutionInvariants hexec hchecks
    rw [outward_append, hquiet, List.nil_append]
    unfold executeSend at hsend
    dsimp only at hsend
    rw [hexec.sendable.draft_eq, truthy_str hexec.sendable.draft_ne, hunsent] at hsend
    simp only [Bool.not_true, Bool.false_eq_true, if_false, Json.truthy, Option.getD_some,
      Prog.bind_eq] at hsend
    obtain ⟨reply, rest', hout, ⟨messageId, s₁, rfl, hdelivered, hend⟩ |
      ⟨e, rfl, rfl, rfl, rfl⟩⟩ := steady_sendAndRecord_bind hexec.stored hsend
    · obtain ⟨rfl, rfl, rfl⟩ := Prog.runs_pure hend
      exact ⟨.ok messageId, hout, Or.inl ⟨messageId, rfl, hdelivered, rfl⟩⟩
    · exact ⟨.error e, hout, Or.inr ⟨e, rfl, rfl, rfl⟩⟩
  · obtain ⟨_, _, hresult⟩ := runs_validateSendExecutionInvariants hexec hchecks
    cases hresult

/-- How a processed send ends, for each answer of the provider. -/
inductive SendRun (job : Job) (row : ApprovalRequest) (s : Database) :
    Except PyErr String → Database → Prop where
  | sent {messageId : String} {s₁ : Database} {jobs : JobTable}
      (hdelivered : Delivered job row messageId s s₁) (hsame : s₁.jobs = s.jobs)
      (hjobs : s.jobs.Puts jobs (succeededJob job
        (sendResult (.str row.id) (loads row.payloadJson) messageId false))) :
      SendRun job row s (.ok messageId) { s₁ with jobs := jobs }
  /-- The handler catches the exception and records the failure. -/
  | refused {e : PyErr} {message : String} {jobs : JobTable} {deliveries : DeliveryTable}
      {events : AuditTable} (hmessage : caughtMessage e = some message)
      (hjobs : s.jobs.Puts jobs (failedJob job message))
      (hdeliveries : Marked s.emailDeliveries deliveries row.id (failedDelivery job.id message))
      (hevents : Appended (failedEvent job row.id message) s.auditEvents events) :
      SendRun job row s (.error e) { s with
        jobs := jobs
        emailDeliveries := deliveries
        auditEvents := events }
  /-- The exception leaves the handler, and only the job is marked. -/
  | escaped {e : PyErr} {jobs : JobTable} (hmessage : caughtMessage e = none)
      (hjobs : s.jobs.Puts jobs (failedJob job e.str)) :
      SendRun job row s (.error e) { s with jobs := jobs }

/-- A send neither reads nor writes jobs. -/
theorem Delivered.rebase {job : Job} {row : ApprovalRequest} {messageId : String}
    {jobs : JobTable} {s₁ : Database}
    (h : Delivered (counted job) row messageId { s with jobs := jobs } s₁) :
    ∃ s₂, Delivered job row messageId s s₂ ∧ s₂.jobs = s.jobs ∧
      s₁ = { s₂ with jobs := jobs } := by
  cases h with
  | done happrovals hdeliveries hevents =>
      exact ⟨_, .done happrovals hdeliveries hevents, rfl, rfl⟩

omit [Deployment] in
theorem Executable.attempt {job : Job} {row : ApprovalRequest} {draftId : String}
    {jobs : JobTable} (h : Executable s job row draftId)
    (hjobs : s.jobs.Puts jobs (counted job)) :
    Executable { s with jobs := jobs } (counted job) row draftId where
  sendable := h.sendable.grown fun _ => hjobs.find?_isSome
  stored := h.stored
  status_eq := h.status_eq
  type_eq := h.type_eq
  approval_eq := h.approval_eq
  tenant_eq := h.tenant_eq

theorem steady_auditSendJobFailed_bind {job : Job} {id error : String}
    {k : Unit → Session β} {result : Except PyErr β}
    (htype : job.type = emailSendApprovedType) (hid : id ≠ "")
    (happroval : (loads job.payloadJson).get? "approval_id" = some (.str id))
    (h : Prog.Runs (steady heard) ((auditSendJobFailed job error).bind k) s trace result s') :
    ∃ (deliveries : DeliveryTable) (events : AuditTable) (rest : List (Event Call Reply)),
      outward trace = outward rest ∧
      Marked s.emailDeliveries deliveries id (failedDelivery job.id error) ∧
      Appended (failedEvent job id error) s.auditEvents events ∧
      Prog.Runs (steady heard) (k ())
        { s with emailDeliveries := deliveries, auditEvents := events } rest result s' := by
  unfold auditSendJobFailed at h
  rw [if_neg (not_not.mpr htype)] at h
  dsimp only at h
  rw [happroval, truthy_str hid] at h
  simp only [if_true, Prog.bind_eq, Prog.bind_assoc, Option.getD_some] at h
  obtain ⟨deliveries, rest₁, hout₁, hdeliveries, hrecord⟩ := steady_markDeliveryFailed_bind h
  obtain ⟨_, events, rest₂, hout₂, hevents, hrest⟩ := steady_record_bind hrecord
  exact ⟨deliveries, events, rest₂, hout₁.trans hout₂, hdeliveries, hevents, hrest⟩

/-- A processed send is closed as the provider answered. -/
theorem steady_processJob_send {job : Job} {row : ApprovalRequest} {draftId : String}
    {result : Except PyErr Unit} (hjob : s.jobs.find? job.id = some job)
    (hexec : Executable s job row draftId) (hunsent : Unsent row) (hsane : Sane heard)
    (h : Prog.Runs (steady heard) (processJob job) s trace result s') :
    result = .ok () ∧ ∃ reply, outward trace = [sendEvent row.id draftId reply] ∧
      SendRun job row s reply s' := by
  obtain ⟨r, s₂, first, rest, htask, hafter, rfl⟩ := runs_processJob h
  have hother : job.type ≠ chatOrchestrateType := by
    rw [hexec.type_eq]
    decide
  unfold runTask handleEmailSendApproved at htask
  rw [if_neg hother, if_pos hexec.type_eq] at htask
  simp only [Prog.bind_eq, Prog.bind_assoc] at htask
  obtain ⟨jobs₁, outcome, s₃, service, close, hputs, hrun, hout, hclose⟩ :=
    steady_attempt_bind hjob htask
  obtain ⟨reply, hservice, hended⟩ :=
    steady_runSendApprovedJob (hexec.attempt hputs) hunsent hrun
  rw [outward_append, hout, hservice, List.append_assoc, List.singleton_append]
  rcases hended with ⟨messageId, rfl, hdelivered, rfl⟩ | ⟨e, rfl, rfl, rfl⟩
  · obtain ⟨s₁, hfiled, hsame, rfl⟩ := hdelivered.rebase
    rcases hclose with ⟨o, ho, hwrite⟩ | ⟨e, he, _⟩
    · cases ho
      obtain ⟨jobs, rest', hout', hput, hend⟩ :=
        steady_markJobSucceeded_bind hputs.self hwrite
      obtain ⟨rfl, rfl, rfl⟩ := Prog.runs_pure hend
      obtain ⟨rfl, rfl, rfl⟩ := Prog.runs_pure hafter
      have hdone : SendRun job row s (.ok messageId) { s₁ with jobs := jobs } :=
        .sent hfiled hsame (hputs.overwrite hput rfl)
      exact ⟨rfl, .ok messageId, by rw [hout']; rfl, hdone⟩
    · cases he
  · have hheard : heard (sendCall row.id draftId) (Except.error e : Except PyErr String) :=
      steady_heard hrun (sendEvent row.id draftId (.error e)) (by rw [hservice]; simp)
    have hpoisons : e.poisons = false := hsane _ _ hheard e rfl
    cases hmessage : caughtMessage e with
    | some message =>
        rw [caught, hmessage] at hclose
        rcases hclose with ⟨o, ho, hwrite⟩ | ⟨e, he, _⟩
        · cases ho
          simp only [Prog.bind_assoc] at hwrite
          obtain ⟨jobs, rest₁, hout₁, hput, haudit⟩ :=
            steady_markJobFailed_bind hputs.self hwrite
          obtain ⟨deliveries, events, rest₂, hout₂, hdeliveries, hevents, hend⟩ :=
            steady_auditSendJobFailed_bind hexec.type_eq
              hexec.sendable.id_ne hexec.approval_eq haudit
          obtain ⟨rfl, rfl, rfl⟩ := Prog.runs_pure hend
          obtain ⟨rfl, rfl, rfl⟩ := Prog.runs_pure hafter
          refine ⟨rfl, .error e, by rw [hout₁, hout₂]; rfl, ?_⟩
          exact .refused hmessage (hputs.overwrite hput rfl) hdeliveries hevents
        · cases he
    | none =>
        rw [caught, hmessage] at hclose
        rcases hclose with ⟨o, ho, _⟩ | ⟨e', he, rfl, rfl, rfl⟩
        · cases ho
        · cases he
          obtain ⟨jobs, hquiet, rfl, hput, rfl⟩ :=
            steady_recordException hputs.self hpoisons hafter
          refine ⟨rfl, .error e, by rw [hquiet]; rfl, ?_⟩
          exact .escaped hmessage (hputs.overwrite hput rfl)

end

end ControlPlane
