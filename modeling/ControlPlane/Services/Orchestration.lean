import ControlPlane.Services.ChatOrchestrate
import ControlPlane.Services.SteadySteps

/-!
What the orchestration of a message does in steady surroundings: the calls of the connector
it makes, how it ends, and the store it leaves.
-/

namespace ControlPlane

open Lib JobService ApprovalService EmailPersistence EmailService PolicyService ChatOrchestrate

/-- The calls by which the orchestration reads mail or prepares it. -/
def Call.prepares : Call → Bool
  | .createDraft _ _ _ => true
  | .readThread _ => true
  | _ => false

namespace EmailService.ChatPayload

def category (payload : ChatPayload) : PolicyCategory :=
  classifyMessagePolicyCategory payload.message

/-- The policy lets the message through once somebody has approved it. -/
def Gated (payload : ChatPayload) : Prop :=
  (evaluateAction payload.category).requiresApproval = true

instance (payload : ChatPayload) : Decidable payload.Gated :=
  inferInstanceAs (Decidable (_ = true))

def hint (payload : ChatPayload) : String :=
  parseThreadHint payload.message payload.sessionId

/-- The draft behind an approval. -/
def draftCall (payload : ChatPayload) : Call :=
  .createDraft payload.hint "Outbound (pending approval)" (clip 2000 payload.message)

end EmailService.ChatPayload

section

variable [Deployment]

/-- The fields of a request besides its job. -/
def gateFields (payload : ChatPayload) : Dict :=
  [("policy_category", .str payload.category.value),
    ("task_type", .str (taskTypeLabel payload.category payload.message))]

/-- The fields that a draft adds to a request. -/
def draftFields (payload : ChatPayload) (draftId : String) : Dict :=
  [("gmail_draft_id", .str draftId), ("thread_hint", .str payload.hint),
    ("workflow", .str outboundWorkflow)]

/-- A new request for the job, with the audit event of its creation. -/
structure Opened (job : Job) (payload : ChatPayload) (s : Database) (row : ApprovalRequest)
    (events : AuditTable) : Prop where
  gated : payload.Gated
  requested : Requested jobGate job.tenantId job.id (gateFields payload) s.approvals row
  recorded : Appended (createdEvent jobGate job.tenantId job.id row.id) s.auditEvents events

/-- The result names the request. -/
def Awaits (result : ChatOrchestrateResult) (row : ApprovalRequest) : Prop :=
  result.status = .needsApproval ∧ result.approvalId = some row.id

/-- What a service does with the connector: it reads or drafts, and raises what that raised.
It also raises if it finds several rows of a mail thread. -/
structure Asked (status : ResultStatus) (calls : List (Event Call Reply))
    (result : Except PyErr ChatOrchestrateResult) : Prop where
  prepares : ∀ e ∈ calls, e.call.prepares = true
  status_eq : ∀ r, result = .ok r → r.status = status
  raised : ∀ e, result = .error e →
    (∃ call ∈ calls, failure call = some e) ∨ e = multipleRows

/-- How the orchestration of a message ends, after which calls of the connector. -/
inductive Orchestrated (job : Job) (payload : ChatPayload) (s : Database) :
    List (Event Call Reply) → Except PyErr ChatOrchestrateResult → Database → Prop where
  | blocked {result : ChatOrchestrateResult}
      (hcategory : (evaluateAction payload.category).blocked = true)
      (hstatus : result.status = .blocked) :
      Orchestrated job payload s [] (.ok result) s
  /-- Neither blocked nor gated: only mail threads are written. -/
  | cleared {calls : List (Event Call Reply)} {result : Except PyErr ChatOrchestrateResult}
      {threads : ThreadTable} (hcategory : (evaluateAction payload.category).blocked = false)
      (hgated : ¬payload.Gated) (hasked : Asked .completed calls result) :
      Orchestrated job payload s calls result { s with emailThreads := threads }
  | gated {result : ChatOrchestrateResult} {row : ApprovalRequest} {approvals : ApprovalTable}
      {events : AuditTable} (hintent : classifyEmailIntent payload.message ≠ .outboundSend)
      (hopened : Opened job payload s row events) (hputs : s.approvals.Puts approvals row)
      (hawaits : Awaits result row) :
      Orchestrated job payload s [] (.ok result)
        { s with approvals := approvals, auditEvents := events }
  /-- The connector raises when it is asked for the draft. -/
  | undrafted {error : PyErr} {row : ApprovalRequest} {approvals : ApprovalTable}
      {events : AuditTable} (hintent : classifyEmailIntent payload.message = .outboundSend)
      (hopened : Opened job payload s row events) (hputs : s.approvals.Puts approvals row) :
      Orchestrated job payload s [⟨payload.draftCall, (Except.error error : Except PyErr String)⟩]
        (.error error) { s with approvals := approvals, auditEvents := events }
  | drafted {result : ChatOrchestrateResult} {row : ApprovalRequest} {draftId : String}
      {delivery : EmailDeliveryRecord} {approvals : ApprovalTable} {events : AuditTable}
      {deliveries : DeliveryTable}
      (hintent : classifyEmailIntent payload.message = .outboundSend)
      (hopened : Opened job payload s row events)
      (hputs : s.approvals.Puts approvals (merged row (draftFields payload draftId)))
      (hdelivery : Upserted job.tenantId draftId row.id job.id .awaitingApproval
        s.emailDeliveries delivery)
      (hupsert : s.emailDeliveries.Puts deliveries delivery) (hawaits : Awaits result row) :
      Orchestrated job payload s [⟨payload.draftCall, (Except.ok draftId : Except PyErr String)⟩]
        (.ok result) { s with
          approvals := approvals
          auditEvents := events
          emailDeliveries := deliveries }

variable {heard : (q : Call) → Reply q → Prop} {s s' : Database}
  {trace : List (Event Call Reply)}

theorem steady_draftForApproval {job : Job} {message hint : String}
    {artifacts : List ArtifactRef} {pending : ChatOrchestrateResult} {row : ApprovalRequest}
    {result : Except PyErr ChatOrchestrateResult} (hrow : s.approvals.find? row.id = some row)
    (h : Prog.Runs (steady heard) (draftForApproval job message hint artifacts pending
      (some row)) s trace result s') :
    let call : Call := .createDraft hint "Outbound (pending approval)" (clip 2000 message)
    (∃ error, outward trace = [⟨call, (Except.error error : Except PyErr String)⟩] ∧
      result = .error error ∧ s' = s) ∨
    ∃ (draftId : String) (approvals : ApprovalTable) (delivery : EmailDeliveryRecord)
      (deliveries : DeliveryTable) (done : ChatOrchestrateResult),
      outward trace = [⟨call, (Except.ok draftId : Except PyErr String)⟩] ∧
      result = .ok done ∧ done.status = pending.status ∧ done.approvalId = pending.approvalId ∧
      s.approvals.Puts approvals (merged row [("gmail_draft_id", .str draftId),
        ("thread_hint", .str hint), ("workflow", .str outboundWorkflow)]) ∧
      Upserted job.tenantId draftId row.id job.id .awaitingApproval s.emailDeliveries delivery ∧
      s.emailDeliveries.Puts deliveries delivery ∧
      s' = { s with approvals := approvals, emailDeliveries := deliveries } := by
  unfold draftForApproval attachDraft at h
  simp only [Prog.bind_eq, Prog.bind_assoc] at h
  obtain ⟨reply, rest, rfl, _, hreply⟩ := runs_createDraft_bind h
  rcases runs_answered_bind hreply with ⟨draftId, rfl, hdraft⟩ | ⟨error, rfl, rfl, rfl, rfl⟩
  · right
    obtain ⟨approvals, rest₁, hout₁, hputs, hdelivery⟩ :=
      steady_mergeExecutionContext_bind hrow hdraft
    obtain ⟨delivery, deliveries, rest₂, hout₂, hupserted, hupsert, hend⟩ :=
      steady_upsertOutboundDelivery_bind hdelivery
    obtain ⟨rfl, rfl, rfl⟩ := Prog.runs_pure hend
    have hout : outward rest = [] := hout₁.trans hout₂
    exact ⟨draftId, approvals, delivery, deliveries, _, congrArg (List.cons _) hout, rfl, rfl,
      rfl, hputs, hupserted, hupsert, rfl⟩
  · exact Or.inl ⟨error, rfl, rfl, rfl⟩

omit [Deployment] in
theorem asked_returned {calls : List (Event Call Reply)} {done : ChatOrchestrateResult}
    {status : ResultStatus} (hstatus : done.status = status)
    (hcalls : ∀ e ∈ calls, e.call.prepares = true) : Asked status calls (.ok done) := by
  refine ⟨hcalls, ?_, ?_⟩
  · rintro r ⟨⟩
    exact hstatus
  · rintro e ⟨⟩

omit [Deployment] in
theorem asked_raised {call : Event Call Reply} {status : ResultStatus} {e : PyErr}
    (hcall : call.call.prepares = true) (hraised : failure call = some e) :
    Asked status [call] (.error e) := by
  refine ⟨by simpa using hcall, ?_, ?_⟩
  · rintro r ⟨⟩
  · rintro e' ⟨⟩
    exact Or.inl ⟨call, List.mem_singleton_self call, hraised⟩

omit [Deployment] in
theorem asked_multipleRows {calls : List (Event Call Reply)} {status : ResultStatus}
    (hcalls : ∀ e ∈ calls, e.call.prepares = true) :
    Asked status calls (.error multipleRows) := by
  refine ⟨hcalls, ?_, ?_⟩
  · rintro r ⟨⟩
  · rintro e ⟨⟩
    exact Or.inr rfl

/-- The branches of a cleared message write mail threads, and read or draft at most once. -/
theorem steady_enrichCompleted {job : Job} {intent : EmailIntent} {message hint : String}
    {artifacts : List ArtifactRef} {cleared : ChatOrchestrateResult}
    {result : Except PyErr ChatOrchestrateResult}
    (h : Prog.Runs (steady heard) (enrichCompleted job intent message hint artifacts cleared) s
      trace result s') :
    ∃ threads : ThreadTable, s' = { s with emailThreads := threads } ∧
      Asked cleared.status (outward trace) result := by
  cases intent with
  | inboxRead =>
      simp only [enrichCompleted, workflowReadThread, Prog.bind_eq, Prog.bind_assoc] at h
      obtain ⟨reply, rest, rfl, _, hreply⟩ := runs_readThread_bind h
      rcases runs_answered_bind hreply with ⟨data, rfl, hdata⟩ | ⟨error, rfl, rfl, rfl, rfl⟩
      · have hprepares : outward rest = [] → ∀ e ∈ outward (⟨.readThread hint,
            (Except.ok data : Except PyErr ThreadEnvelope)⟩ :: rest), e.call.prepares = true := by
          intro hout e he
          obtain rfl | he := List.mem_cons.mp he
          · rfl
          · have hnone : e ∈ [] := hout ▸ he
            cases hnone
        rcases steady_upsertThreadRecord_bind hdata with
          ⟨threads, rest₁, hout, hend⟩ | ⟨hout, rfl, rfl⟩
        · obtain ⟨rfl, rfl, rfl⟩ := Prog.runs_pure hend
          exact ⟨threads, rfl, asked_returned rfl (hprepares hout)⟩
        · exact ⟨_, rfl, asked_multipleRows (hprepares hout)⟩
      · exact ⟨_, rfl, asked_raised rfl rfl⟩
  | draftReply =>
      simp only [enrichCompleted, Prog.bind_eq] at h
      rcases steady_upsertThreadRecord_bind h with
        ⟨threads, rest, hout, hdraft⟩ | ⟨hout, rfl, rfl⟩
      · obtain ⟨reply, rest₁, rfl, _, hreply⟩ := runs_createDraft_bind hdraft
        rw [hout]
        rcases runs_answered_bind hreply with ⟨draftId, rfl, hend⟩ | ⟨error, rfl, rfl, rfl, rfl⟩
        · obtain ⟨rfl, rfl, rfl⟩ := Prog.runs_pure hend
          exact ⟨threads, rfl, asked_returned rfl (by simp [outward, Call.outward, Call.prepares])⟩
        · exact ⟨threads, rfl, asked_raised rfl rfl⟩
      · rw [hout]
        exact ⟨_, rfl, asked_multipleRows (by simp)⟩
  | outboundSend =>
      obtain ⟨rfl, rfl, rfl⟩ := Prog.runs_pure h
      exact ⟨_, rfl, asked_returned rfl (by simp [outward])⟩

omit [Deployment] in
theorem related_of_outbound {message : String}
    (h : classifyEmailIntent message = .outboundSend) : isEmailRelated message = true := by
  unfold classifyEmailIntent at h
  by_cases hmarker : Text.anyOccurs outboundPhraseMarkers (Text.lower message) = true
  · simp only [isEmailRelated, Text.anyOccurs, List.any_append, Bool.or_eq_true]
    exact Or.inl (Or.inl hmarker)
  · dsimp only at h
    rw [if_neg hmarker] at h
    split at h <;> cases h

/-- A message that the policy blocks is at most classified. -/
theorem steady_enrich_blocked {job : Job} {payload : ChatPayload}
    {pending : ChatOrchestrateResult} {result : Except PyErr ChatOrchestrateResult}
    (hstatus : pending.status = .blocked)
    (h : Prog.Runs (steady heard) (enrichOrchestrateResult job payload pending none) s trace
      result s') :
    trace = [] ∧ s' = s ∧ ∃ done, result = .ok done ∧ done.status = .blocked := by
  unfold enrichOrchestrateResult at h
  dsimp only at h
  split at h
  · obtain ⟨rfl, rfl, rfl⟩ := Prog.runs_pure h
    exact ⟨rfl, rfl, pending, rfl, hstatus⟩
  · rw [hstatus] at h
    obtain ⟨rfl, rfl, rfl⟩ := Prog.runs_pure h
    exact ⟨rfl, rfl, _, rfl, rfl⟩

theorem steady_enrich_cleared {job : Job} {payload : ChatPayload}
    {cleared : ChatOrchestrateResult} {result : Except PyErr ChatOrchestrateResult}
    (hstatus : cleared.status = .completed)
    (h : Prog.Runs (steady heard) (enrichOrchestrateResult job payload cleared none) s trace
      result s') :
    ∃ threads : ThreadTable, s' = { s with emailThreads := threads } ∧
      Asked .completed (outward trace) result := by
  unfold enrichOrchestrateResult at h
  dsimp only at h
  split at h
  · obtain ⟨rfl, rfl, rfl⟩ := Prog.runs_pure h
    exact ⟨_, rfl, asked_returned hstatus (by simp [outward])⟩
  · rw [hstatus] at h
    exact hstatus ▸ steady_enrichCompleted h

theorem steady_enrich_gated {job : Job} {payload : ChatPayload}
    {pending : ChatOrchestrateResult} {row : ApprovalRequest}
    {result : Except PyErr ChatOrchestrateResult} (hpending : Awaits pending row)
    (hintent : classifyEmailIntent payload.message ≠ .outboundSend)
    (h : Prog.Runs (steady heard) (enrichOrchestrateResult job payload pending (some row)) s
      trace result s') :
    trace = [] ∧ s' = s ∧ ∃ done, result = .ok done ∧ Awaits done row := by
  unfold enrichOrchestrateResult at h
  dsimp only at h
  split at h
  · obtain ⟨rfl, rfl, rfl⟩ := Prog.runs_pure h
    exact ⟨rfl, rfl, pending, rfl, hpending⟩
  · rw [hpending.1] at h
    obtain ⟨rfl, rfl, rfl⟩ := Prog.runs_pure h
    exact ⟨rfl, rfl, _, rfl, rfl, hpending.2⟩

theorem enrich_outbound {job : Job} {payload : ChatPayload} {pending : ChatOrchestrateResult}
    {row : ApprovalRequest} (hpending : Awaits pending row)
    (hintent : classifyEmailIntent payload.message = .outboundSend) :
    enrichOrchestrateResult job payload pending (some row) =
      draftForApproval job payload.message payload.hint
        (classificationArtifact .outboundSend payload.hint pending :: pending.artifacts)
        pending (some row) := by
  unfold enrichOrchestrateResult
  dsimp only
  rw [related_of_outbound hintent, hpending.1, hintent]
  rfl

omit [Deployment] in
theorem merged_get (payload : ChatPayload) (row : ApprovalRequest) (draftId : String) :
    (loads (merged row (draftFields payload draftId)).payloadJson).get? "gmail_draft_id" =
        some (.str draftId) ∧
      (loads (merged row (draftFields payload draftId)).payloadJson).get? "workflow" =
        some (.str outboundWorkflow) := by
  constructor <;> simp [merged, draftFields, loads, Dict.get?_set_of_ne]

/-- An orchestration raises what the connector raised, or finds several rows of a thread. -/
theorem Orchestrated.raised {job : Job} {payload : ChatPayload}
    {calls : List (Event Call Reply)} {e : PyErr}
    (h : Orchestrated job payload s calls (.error e) s') :
    (∃ call ∈ calls, failure call = some e) ∨ e = multipleRows := by
  cases h with
  | cleared _ _ hasked => exact hasked.raised e rfl
  | undrafted _ _ _ => exact Or.inl ⟨_, List.mem_singleton_self _, rfl⟩

theorem steady_orchestrate {job : Job} {payload : ChatPayload}
    {result : Except PyErr ChatOrchestrateResult}
    (h : Prog.Runs (steady heard) (orchestrate job payload payload.category) s trace result s') :
    Orchestrated job payload s (outward trace) result s' := by
  unfold orchestrate at h
  dsimp only at h
  have hallowed : (!(evaluateAction payload.category).allowed) =
      (evaluateAction payload.category).blocked := by
    cases payload.category <;> rfl
  rw [hallowed, Bool.or_self] at h
  by_cases hblocked : (evaluateAction payload.category).blocked = true
  · rw [if_pos hblocked] at h
    obtain ⟨rfl, rfl, done, rfl, hstatus⟩ := steady_enrich_blocked rfl h
    exact .blocked hblocked hstatus
  · rw [if_neg hblocked] at h
    by_cases hgated : (evaluateAction payload.category).requiresApproval = true
    · rw [if_pos hgated, Prog.bind_eq] at h
      obtain ⟨row, approvals, events, rest, hout, hrow, hputs, hevents, hrest⟩ :=
        steady_createRequest_bind h
      have hopened : Opened job payload s row events := ⟨hgated, hrow, hevents⟩
      rw [hout]
      by_cases hintent : classifyEmailIntent payload.message = .outboundSend
      · rw [enrich_outbound ⟨rfl, rfl⟩ hintent] at hrest
        rcases steady_draftForApproval hputs.self hrest with ⟨error, hcalls, rfl, rfl⟩ |
          ⟨draftId, approvals', delivery, deliveries, done, hcalls, rfl, hstatus, hid, hmerged,
            hdelivery, hupsert, rfl⟩
        · rw [hcalls]
          exact .undrafted hintent hopened hputs
        · rw [hcalls]
          exact .drafted hintent hopened (hputs.overwrite hmerged rfl) hdelivery hupsert
            ⟨hstatus, hid⟩
      · obtain ⟨rfl, rfl, done, rfl, hawaits⟩ := steady_enrich_gated ⟨rfl, rfl⟩ hintent hrest
        exact .gated hintent hopened hputs hawaits
    · rw [if_neg hgated] at h
      obtain ⟨threads, rfl, hasked⟩ := steady_enrich_cleared rfl h
      exact .cleared (Bool.eq_false_iff.mpr hblocked) hgated hasked

/-- A payload that does not validate ends the orchestration at once. -/
theorem steady_executeChatOrchestrate {job : Job}
    {result : Except PyErr ChatOrchestrateResult}
    (h : Prog.Runs (steady heard) (executeChatOrchestrate job) s trace result s') :
    (∃ payload, validatePayload (loads job.payloadJson) = .ok payload ∧
      Orchestrated job payload s (outward trace) result s') ∨
    ∃ e, validatePayload (loads job.payloadJson) = .error e ∧ outward trace = [] ∧
      result = .error e ∧ s' = s := by
  unfold executeChatOrchestrate at h
  rcases runs_answered_bind h with ⟨payload, hpayload, horchestrate⟩ | ⟨e, herror, rfl, rfl, rfl⟩
  · exact Or.inl ⟨payload, hpayload, steady_orchestrate horchestrate⟩
  · exact Or.inr ⟨e, herror, rfl, rfl, rfl⟩

end

end ControlPlane
