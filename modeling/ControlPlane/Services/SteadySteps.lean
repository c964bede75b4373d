import ControlPlane.Services.EmailService
import ControlPlane.Services.Steady

/-!
What the services of the pipeline leave in steady surroundings, one statement for each.
-/

namespace ControlPlane

open Lib JobService AuditService ApprovalService EmailPersistence EmailService

section

variable [Deployment] {heard : (q : Call) → Reply q → Prop} {β : Type} {s s' : Database}
  {trace : List (Event Call Reply)} {result : Except PyErr β}

/-- The event of a new request. -/
def createdEvent (kind : String) (tenantId : Option String) (jobId : String) (id : String) :
    NewEvent where
  action := AuditAction.approvalCreated
  resourceType := "approval"
  resourceId := id
  tenantId := tenantId
  metadata := some [("kind", .str kind), ("source_job_id", .str jobId)]

/-- A pending row for a job, with a new id. -/
structure Requested (kind : String) (tenantId : Option String) (jobId : String)
    (payload : Dict) (approvals : ApprovalTable) (row : ApprovalRequest) : Prop where
  id_ne : row.id ≠ ""
  fresh : approvals.find? row.id = none
  kind_eq : row.kind = kind
  tenant_eq : row.tenantId = tenantId
  status_eq : row.status = .pending
  payload_eq : row.payloadJson = some (Dict.update [("job_id", .str jobId)] payload)

theorem steady_createRequest_bind {kind : String} {tenantId : Option String} {jobId : String}
    {payload : Dict} {k : ApprovalRequest → Session β}
    (h : Prog.Runs (steady heard) ((createRequest kind tenantId jobId payload).bind k) s trace
      result s') :
    ∃ (row : ApprovalRequest) (approvals : ApprovalTable) (events : AuditTable)
      (rest : List (Event Call Reply)), outward trace = outward rest ∧
        Requested kind tenantId jobId payload s.approvals row ∧
        s.approvals.Puts approvals row ∧
        Appended (createdEvent kind tenantId jobId row.id) s.auditEvents events ∧
        Prog.Runs (steady heard) (k row)
          { s with approvals := approvals, auditEvents := events } rest
          result s' := by
  unfold createRequest at h
  simp only [Prog.bind_eq, Prog.bind_assoc] at h
  obtain ⟨r, approvals, rest₁, hout₁, hid, hfresh, hputs, hrecord⟩ :=
    steady_insertApproval_bind h
  obtain ⟨event, events, rest₂, hout₂, hevents, hreload⟩ := steady_record_bind hrecord
  obtain ⟨r', rest₃, rfl, hrest⟩ := runs_reload_bind hputs.self hreload
  exact ⟨_, approvals, events, rest₃, hout₁.trans hout₂, ⟨hid, hfresh, rfl, rfl, rfl, rfl⟩,
    hputs, hevents, hrest⟩

/-- A row after `merge_execution_context`. -/
def merged (row : ApprovalRequest) (fields : Dict) : ApprovalRequest :=
  { row with payloadJson := some ((loads row.payloadJson).update fields) }

theorem steady_mergeExecutionContext_bind {row : ApprovalRequest} {fields : Dict}
    {k : Unit → Session β} (hrow : s.approvals.find? row.id = some row)
    (h : Prog.Runs (steady heard) ((mergeExecutionContext row fields).bind k) s trace result s') :
    ∃ (approvals : ApprovalTable) (rest : List (Event Call Reply)),
      outward trace = outward rest ∧ s.approvals.Puts approvals (merged row fields) ∧
        Prog.Runs (steady heard) (k ()) { s with approvals := approvals } rest result s' := by
  unfold mergeExecutionContext at h
  rw [Prog.bind_eq, Prog.bind_assoc] at h
  obtain ⟨r, approvals, rest, hout, hputs, hrest⟩ :=
    steady_updateApproval_bind hrow (by simp [ApprovalRequest.updated]) h
  exact ⟨approvals, rest, hout, hputs, hrest⟩

theorem steady_selectThread_bind {tenantId : Option String} {externalThreadId : String}
    {k : Option EmailThreadRecord → Session β}
    (h : Prog.Runs (steady heard) ((selectThread tenantId externalThreadId).bind k) s trace
      result s') :
    (∃ (row : Option EmailThreadRecord) (rest : List (Event Call Reply)),
      outward trace = outward rest ∧ Prog.Runs (steady heard) (k row) s rest result s') ∨
    outward trace = [] ∧ result = .error multipleRows ∧ s' = s := by
  unfold selectThread at h
  simp only [Prog.bind_eq, Prog.bind_assoc] at h
  obtain ⟨r, rest, hout, hrest⟩ := steady_select_bind h
  rcases hrows : threadRows tenantId externalThreadId s with _ | ⟨row, _ | ⟨_, _⟩⟩
  · rw [hrows] at hrest
    exact Or.inl ⟨none, rest, hout, hrest⟩
  · rw [hrows] at hrest
    exact Or.inl ⟨some row, rest, hout, hrest⟩
  · rw [hrows] at hrest
    obtain ⟨rfl, rfl, rfl⟩ := Prog.runs_raise hrest
    exact Or.inr ⟨hout, rfl, rfl⟩

/-- Only mail threads are written, unless several rows are found. -/
theorem steady_upsertThreadRecord_bind {tenantId : Option String} {externalThreadId : String}
    {sourceJobId snippet intent : Option String} {extra : Option Dict} {k : Unit → Session β}
    (h : Prog.Runs (steady heard) ((upsertThreadRecord tenantId externalThreadId sourceJobId
      snippet intent extra).bind k) s trace result s') :
    (∃ (threads : ThreadTable) (rest : List (Event Call Reply)),
      outward trace = outward rest ∧
      Prog.Runs (steady heard) (k ()) { s with emailThreads := threads } rest result s') ∨
    outward trace = [] ∧ result = .error multipleRows ∧ s' = s := by
  unfold upsertThreadRecord at h
  simp only [Prog.bind_eq, Prog.bind_assoc] at h
  refine (steady_selectThread_bind h).imp ?_ id
  rintro ⟨row, rest, hout, hfound⟩
  cases row with
  | none =>
      simp only [Prog.bind_assoc] at hfound
      obtain ⟨_, threads, rest', hout', hrest⟩ := steady_thread_bind rfl hfound
      exact ⟨threads, rest', hout.trans hout', hrest⟩
  | some row =>
      simp only [Prog.bind_assoc] at hfound
      obtain ⟨_, threads, rest', hout', hrest⟩ := steady_thread_bind rfl hfound
      exact ⟨threads, rest', hout.trans hout', hrest⟩

/-- The delivery row of an approval with a draft. -/
structure Upserted (tenantId : Option String) (draftId approvalId sourceJobId : String)
    (status : DeliveryStatus) (deliveries : DeliveryTable) (row : EmailDeliveryRecord) :
    Prop where
  approval_eq : row.approvalId = some approvalId
  draft_eq : row.gmailDraftId = some draftId
  source_eq : row.sourceJobId = some sourceJobId
  status_eq : row.status = status
  new : deliveries.findUnique? approvalId = none →
    row.gmailMessageId = none ∧ row.executionJobId = none

theorem steady_upsertOutboundDelivery_bind {tenantId : Option String}
    {threadExternalId draftId approvalId sourceJobId : String} {status : DeliveryStatus}
    {k : Unit → Session β}
    (h : Prog.Runs (steady heard) ((upsertOutboundDelivery tenantId threadExternalId draftId
      approvalId
      sourceJobId status).bind k) s trace result s') :
    ∃ (row : EmailDeliveryRecord) (deliveries : DeliveryTable) (rest : List (Event Call Reply)),
      outward trace = outward rest ∧
        Upserted tenantId draftId approvalId sourceJobId status s.emailDeliveries row ∧
        s.emailDeliveries.Puts deliveries row ∧
        Prog.Runs (steady heard) (k ()) { s with emailDeliveries := deliveries } rest result
          s' := by
  unfold upsertOutboundDelivery getDelivery at h
  simp only [Prog.bind_eq, Prog.bind_assoc] at h
  obtain ⟨r, rest₁, hout₁, hfound⟩ := steady_select_bind h
  rw [Database.delivery?_str] at hfound
  cases hrow : s.emailDeliveries.findUnique? approvalId with
  | none =>
      simp only [hrow, Prog.bind_assoc] at hfound
      obtain ⟨r', deliveries, rest₂, hout₂, hputs, hrest⟩ := steady_insertDelivery_bind hfound
      exact ⟨_, deliveries, rest₂, hout₁.trans hout₂,
        ⟨rfl, rfl, rfl, rfl, fun _ => ⟨rfl, rfl⟩⟩, hputs, hrest⟩
  | some row =>
      simp only [hrow, Prog.bind_assoc] at hfound
      obtain ⟨hmem, happroval⟩ := s.emailDeliveries.findUnique?_eq_some.mp hrow
      obtain ⟨r', deliveries, rest₂, hout₂, hputs, hrest⟩ := steady_updateDelivery_bind
        (s.emailDeliveries.find?_key hmem) (by simp [EmailDeliveryRecord.updated]) hfound
      have hupserted : Upserted tenantId draftId approvalId sourceJobId status
          s.emailDeliveries { row with
            threadExternalId := threadExternalId
            gmailDraftId := some draftId
            sourceJobId := some sourceJobId
            status := status
            lastError := none } := by
        refine ⟨happroval, rfl, rfl, rfl, ?_⟩
        intro hnone
        rw [hrow] at hnone
        cases hnone
      exact ⟨_, deliveries, rest₂, hout₁.trans hout₂, hupserted, hputs, hrest⟩

/-- What `mark_delivery_sent` and `mark_delivery_failed` do to a row, if there is one. -/
def Marked (deliveries deliveries' : DeliveryTable) (approvalId : String)
    (f : EmailDeliveryRecord → EmailDeliveryRecord) : Prop :=
  match deliveries.findUnique? approvalId with
  | none => deliveries' = deliveries
  | some row => deliveries.Puts deliveries' (f row)

def sentDelivery (executionJobId messageId : String) (row : EmailDeliveryRecord) :
    EmailDeliveryRecord :=
  { row with
    gmailMessageId := some messageId
    executionJobId := some executionJobId
    status := .sent
    lastError := none }

def failedDelivery (executionJobId error : String) (row : EmailDeliveryRecord) :
    EmailDeliveryRecord :=
  { row with
    executionJobId := some executionJobId
    status := .failed
    lastError := some error }

theorem steady_markDeliverySent_bind {approvalId executionJobId messageId : String}
    {k : Unit → Session β}
    (h : Prog.Runs (steady heard)
      ((markDeliverySent (.str approvalId) executionJobId messageId).bind k)
      s trace result s') :
    ∃ (deliveries : DeliveryTable) (rest : List (Event Call Reply)),
      outward trace = outward rest ∧ Marked s.emailDeliveries deliveries approvalId
        (sentDelivery executionJobId messageId) ∧
        Prog.Runs (steady heard) (k ()) { s with emailDeliveries := deliveries } rest result
          s' := by
  unfold markDeliverySent getDelivery at h
  simp only [Prog.bind_eq, Prog.bind_assoc] at h
  obtain ⟨r, rest₁, hout₁, hfound⟩ := steady_select_bind h
  rw [Database.delivery?_str] at hfound
  unfold Marked
  cases hrow : s.emailDeliveries.findUnique? approvalId with
  | none =>
      rw [hrow] at hfound
      exact ⟨_, rest₁, hout₁, rfl, hfound⟩
  | some row =>
      simp only [hrow, Prog.bind_assoc] at hfound
      obtain ⟨hmem, happroval⟩ := s.emailDeliveries.findUnique?_eq_some.mp hrow
      obtain ⟨r', deliveries, rest₂, hout₂, hputs, hrest⟩ := steady_updateDelivery_bind
        (s.emailDeliveries.find?_key hmem) (by simp [EmailDeliveryRecord.updated]) hfound
      exact ⟨deliveries, rest₂, hout₁.trans hout₂, hputs, hrest⟩

theorem steady_markDeliveryFailed_bind {approvalId executionJobId error : String}
    {k : Unit → Session β}
    (h : Prog.Runs (steady heard)
      ((markDeliveryFailed (.str approvalId) executionJobId error).bind k)
      s trace result s') :
    ∃ (deliveries : DeliveryTable) (rest : List (Event Call Reply)),
      outward trace = outward rest ∧ Marked s.emailDeliveries deliveries approvalId
        (failedDelivery executionJobId error) ∧
        Prog.Runs (steady heard) (k ()) { s with emailDeliveries := deliveries } rest result
          s' := by
  unfold markDeliveryFailed getDelivery at h
  simp only [Prog.bind_eq, Prog.bind_assoc] at h
  obtain ⟨r, rest₁, hout₁, hfound⟩ := steady_select_bind h
  rw [Database.delivery?_str] at hfound
  unfold Marked
  cases hrow : s.emailDeliveries.findUnique? approvalId with
  | none =>
      rw [hrow] at hfound
      exact ⟨_, rest₁, hout₁, rfl, hfound⟩
  | some row =>
      simp only [hrow, Prog.bind_assoc] at hfound
      obtain ⟨hmem, happroval⟩ := s.emailDeliveries.findUnique?_eq_some.mp hrow
      obtain ⟨r', deliveries, rest₂, hout₂, hputs, hrest⟩ := steady_updateDelivery_bind
        (s.emailDeliveries.find?_key hmem) (by simp [EmailDeliveryRecord.updated]) hfound
      exact ⟨deliveries, rest₂, hout₁.trans hout₂, hputs, hrest⟩

theorem steady_markJobFailed_bind {job : Job} {message : String} {k : Unit → Session β}
    (hjob : s.jobs.find? job.id = some job)
    (h : Prog.Runs (steady heard) ((markJobFailed job message).bind k) s trace result s') :
    ∃ (jobs : JobTable) (rest : List (Event Call Reply)), outward trace = outward rest ∧
      s.jobs.Puts jobs { job with status := .failed, lastError := some message } ∧
      Prog.Runs (steady heard) (k ()) { s with jobs := jobs } rest result s' := by
  unfold markJobFailed at h
  rw [Prog.bind_eq, Prog.bind_assoc] at h
  obtain ⟨r, jobs, rest, hout, hputs, hrest⟩ :=
    steady_updateJob_bind hjob (by simp [Job.updated]) h
  exact ⟨jobs, rest, hout, hputs, hrest⟩

theorem steady_refreshJob_bind {job : Job} {k : Job → Session β}
    (hjob : s.jobs.find? job.id = some job)
    (h : Prog.Runs (steady heard) ((refreshJob job.id).bind k) s trace result s') :
    ∃ rest : List (Event Call Reply), outward trace = outward rest ∧
      Prog.Runs (steady heard) (k job) s rest result s' := by
  obtain ⟨r, rest, rfl, hrest⟩ := runs_refreshJob_bind hjob h
  exact ⟨rest, rfl, hrest⟩

theorem steady_markJobSucceeded_bind {job : Job} {value : Dict} {k : Unit → Session β}
    (hjob : s.jobs.find? job.id = some job)
    (h : Prog.Runs (steady heard) ((markJobSucceeded job value).bind k) s trace result s') :
    ∃ (jobs : JobTable) (rest : List (Event Call Reply)), outward trace = outward rest ∧
      s.jobs.Puts jobs { job with
        status := .succeeded
        payloadJson := some ((loads job.payloadJson).set "result" (.obj value)) } ∧
      Prog.Runs (steady heard) (k ()) { s with jobs := jobs } rest result s' := by
  unfold markJobSucceeded at h
  simp only [Prog.bind_eq, Prog.bind_assoc] at h
  obtain ⟨rest₁, hout₁, hcommit⟩ := steady_refreshJob_bind hjob h
  obtain ⟨r, jobs, rest₂, hout₂, hputs, hrest⟩ :=
    steady_updateJob_bind hjob (by simp [Job.updated]) hcommit
  exact ⟨jobs, rest₂, hout₁.trans hout₂, hputs, hrest⟩

end

end ControlPlane
