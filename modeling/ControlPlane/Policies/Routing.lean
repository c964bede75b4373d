import ControlPlane.Services.Orchestration
import ControlPlane.System.Processes

/-!
Two classifiers read the same message: the policy tries its markers in the order
destructive, publish, outbound, read, and the mail side in the order outbound, read. What
the one decides never contradicts what the other does.
-/

namespace ControlPlane

open Lib JobService ApprovalService EmailService PolicyService ChatOrchestrate

/-- The message has an outbound marker, in any case. -/
def HasOutboundMarker (message : String) : Prop :=
  Text.anyOccurs outboundPhraseMarkers (Text.lower message) = true

instance (message : String) : Decidable (HasOutboundMarker message) :=
  inferInstanceAs (Decidable (_ = true))

theorem intent_of_marker {message : String} (h : HasOutboundMarker message) :
    classifyEmailIntent message = .outboundSend :=
  if_pos h

/-- An outbound marker leaves three categories, and none of them clears the message. -/
theorem not_cleared_of_marker {message : String} (h : HasOutboundMarker message) :
    (evaluateAction (classifyMessagePolicyCategory message)).blocked = true ∨
      (evaluateAction (classifyMessagePolicyCategory message)).requiresApproval = true := by
  unfold classifyMessagePolicyCategory
  dsimp only
  split
  · exact Or.inl rfl
  · split
    · exact Or.inr rfl
    · have hmarker : Text.anyOccurs outboundPhraseMarkers (Text.lower message) = true := h
      rw [if_pos hmarker]
      exact Or.inr rfl

/-- What is blocked cannot be approved. -/
theorem not_gated_of_blocked {payload : ChatPayload}
    (h : (evaluateAction payload.category).blocked = true) : ¬payload.Gated := by
  unfold ChatPayload.Gated
  cases hcategory : payload.category <;> rw [hcategory] at h <;> revert h <;> decide

theorem marker_of_outbound {message : String}
    (h : classifyMessagePolicyCategory message = .outboundSend) : HasOutboundMarker message := by
  unfold classifyMessagePolicyCategory at h
  dsimp only at h
  split at h
  · cases h
  · split at h
    · cases h
    · split at h
      · next hmarker => exact hmarker
      · split at h <;> cases h

theorem intent_of_readOnly {message : String}
    (h : classifyMessagePolicyCategory message = .readOnly) :
    classifyEmailIntent message = .inboxRead := by
  unfold classifyMessagePolicyCategory at h
  unfold classifyEmailIntent
  dsimp only at h ⊢
  split at h
  · cases h
  · split at h
    · cases h
    · split at h
      · cases h
      · next hmarker =>
          rw [if_neg hmarker]
          split at h
          · next hread => rw [if_pos hread]
          · cases h

/-- The connector does not fail. -/
def unfailing (q : Call) (r : Reply q) : Prop := failure ⟨q, r⟩ = none

instance (q : Call) (r : Reply q) : Decidable (unfailing q r) :=
  inferInstanceAs (Decidable (_ = _))

/-- A request that the run created, with the draft it is for and its delivery row. -/
def Prepared (s s' : Database) (result : ChatOrchestrateResult) (draftId : String) : Prop :=
  ∃ row, result.approvalId = some row.id ∧ s.approvals.find? row.id = none ∧
    s'.approvals.find? row.id = some row ∧ row.kind = jobGate ∧ row.status = .pending ∧
    (loads row.payloadJson).get? "gmail_draft_id" = some (.str draftId) ∧
    (loads row.payloadJson).get? "workflow" = some (.str outboundWorkflow) ∧
    ∃ delivery, s'.emailDeliveries.findUnique? row.id = some delivery ∧
      delivery.gmailDraftId = some draftId ∧ delivery.status = .awaitingApproval

section

variable [Deployment] {job : Job} {payload : ChatPayload} {s s' : Database}
  {trace : List (Event Call Reply)} {result : ChatOrchestrateResult}

omit [Deployment] in
theorem mem_outward {e : Event Call Reply} (he : e ∈ trace) (hcall : e.call.outward = true) :
    e ∈ outward trace :=
  List.mem_filter.mpr ⟨he, hcall⟩

/-- A run that leaves a draft leaves the request it is for. -/
theorem Orchestrated.prepared {calls : List (Event Call Reply)}
    (h : Orchestrated job payload s calls (.ok result) s') (hgated : payload.Gated)
    (hintent : classifyEmailIntent payload.message = .outboundSend) :
    result.status = .needsApproval ∧ ∃ draftId,
      calls = [⟨payload.draftCall, (Except.ok draftId : Except PyErr String)⟩] ∧
        Prepared s s' result draftId := by
  cases h with
  | blocked hblocked => exact absurd hgated (not_gated_of_blocked hblocked)
  | cleared _ hnot => exact absurd hgated hnot
  | gated hnot => exact absurd hintent hnot
  | @drafted _ row draftId delivery _ _ _ _ hopened hputs hdelivery hupsert hawaits =>
      obtain ⟨hdraft, hworkflow⟩ := merged_get payload row draftId
      exact ⟨hawaits.1, draftId, rfl, merged row (draftFields payload draftId), hawaits.2,
        hopened.requested.fresh, hputs.self, hopened.requested.kind_eq,
        hopened.requested.status_eq, hdraft, hworkflow, delivery,
        hupsert.findUnique?_self hdelivery.approval_eq, hdelivery.draft_eq,
        hdelivery.status_eq⟩

/-- A run that is not gated is blocked without a call, or completes. -/
theorem Orchestrated.ungated {calls : List (Event Call Reply)}
    (h : Orchestrated job payload s calls (.ok result) s') (hgated : ¬payload.Gated) :
    result.status = .blocked ∧ calls = [] ∨
      result.status = .completed ∧ (evaluateAction payload.category).blocked = false := by
  cases h with
  | blocked _ hstatus => exact Or.inl ⟨hstatus, rfl⟩
  | cleared hblocked _ hasked => exact Or.inr ⟨hasked.status_eq result rfl, hblocked⟩
  | gated _ hopened => exact absurd hopened.gated hgated
  | drafted _ hopened => exact absurd hopened.gated hgated

theorem Orchestrated.gated_status {calls : List (Event Call Reply)}
    (h : Orchestrated job payload s calls (.ok result) s') (hgated : payload.Gated) :
    result.status = .needsApproval := by
  cases h with
  | blocked hblocked => exact absurd hgated (not_gated_of_blocked hblocked)
  | cleared _ hnot => exact absurd hgated hnot
  | gated _ _ _ hawaits => exact hawaits.1
  | drafted _ _ _ _ _ hawaits => exact hawaits.1

/-- What the message is cleared for and what is done with it agree, for every message and
every way the policy can take it: a marker of outbound mail is never just answered, an outbound
send prepares one draft, a read-only message is one to read, and a blocked one calls nothing. -/
theorem policy_and_mail_routing_agree
    (hpayload : validatePayload (loads job.payloadJson) = .ok payload)
    (h : Prog.Runs (steady unfailing) (executeChatOrchestrate job) s trace (.ok result) s') :
    (HasOutboundMarker payload.message → result.status ≠ .completed ∧
      (∀ e ∈ trace, ∀ threadId, e.call ≠ .readThread threadId) ∧
      ∀ e ∈ trace, ∀ threadId subject body, e.call = .createDraft threadId subject body →
        ∃ draftId, e = ⟨payload.draftCall, (Except.ok draftId : Except PyErr String)⟩ ∧
          Prepared s s' result draftId) ∧
    (payload.category = .outboundSend → isEmailRelated payload.message = true ∧
      classifyEmailIntent payload.message = .outboundSend ∧
      ∃ draftId, Prepared s s' result draftId) ∧
    (payload.category = .readOnly → classifyEmailIntent payload.message = .inboxRead) ∧
    (result.status = .blocked → outward trace = []) := by
  have hrun : Orchestrated job payload s (outward trace) (.ok result) s' := by
    rcases steady_executeChatOrchestrate h with ⟨payload', hpayload', hrun⟩ |
      ⟨e, herror, _⟩
    · rw [hpayload] at hpayload'
      cases hpayload'
      exact hrun
    · rw [hpayload] at herror
      cases herror
  refine ⟨fun hmarker => ?_, fun hcategory => ?_, intent_of_readOnly, fun hblocked => ?_⟩
  · by_cases hgated : payload.Gated
    · obtain ⟨hstatus, draftId, hcalls, hprepared⟩ :=
        hrun.prepared hgated (intent_of_marker hmarker)
      refine ⟨by simp [hstatus], ?_, ?_⟩
      · intro e he threadId hcall
        have hmem := mem_outward he (by rw [hcall]; rfl)
        rw [hcalls, List.mem_singleton] at hmem
        rw [hmem] at hcall
        cases hcall
      · intro e he threadId subject body hcall
        have hmem := mem_outward he (by rw [hcall]; rfl)
        rw [hcalls, List.mem_singleton] at hmem
        exact ⟨draftId, hmem, hprepared⟩
    · have hblocked := (not_cleared_of_marker hmarker).resolve_right hgated
      obtain ⟨hstatus, hcalls⟩ | ⟨_, hcleared⟩ := hrun.ungated hgated
      · have hquiet : ∀ e ∈ trace, e.call.outward = false := by
          simpa [outward] using hcalls
        refine ⟨by simp [hstatus], ?_, ?_⟩
        · intro e he threadId hcall
          have houtward := hquiet e he
          rw [hcall] at houtward
          cases houtward
        · intro e he threadId subject body hcall
          have houtward := hquiet e he
          rw [hcall] at houtward
          cases houtward
      · have hclash : (evaluateAction payload.category).blocked = true := hblocked
        rw [hcleared] at hclash
        cases hclash
  · have hintent := intent_of_marker (marker_of_outbound hcategory)
    have hgated : payload.Gated := by
      unfold ChatPayload.Gated
      rw [hcategory]
      rfl
    obtain ⟨_, draftId, _, hprepared⟩ := hrun.prepared hgated hintent
    exact ⟨related_of_outbound hintent, hintent, draftId, hprepared⟩
  · by_cases hgated : payload.Gated
    · rw [hrun.gated_status hgated] at hblocked
      cases hblocked
    · obtain ⟨_, hcalls⟩ | ⟨hstatus, _⟩ := hrun.ungated hgated
      · exact hcalls
      · rw [hstatus] at hblocked
        cases hblocked

end

section Sample

local instance instRoutingDeployment : Deployment := .sqlite

def mixedPayload : ChatPayload where
  sessionId := "s1"
  message := "List my emails, then SEND AN EMAIL to bob"
  maxSteps := 8

def mixedJob : Job where
  id := "j1"
  tenantId := some "t1"
  type := chatOrchestrateType
  status := .running
  idempotencyKey := none
  payloadJson := some [("session_id", .str mixedPayload.sessionId),
    ("message", .str mixedPayload.message), ("max_steps", .num mixedPayload.maxSteps)]
  attempts := 0
  lastError := none
  runAfter := none
  createdAt := unset

def mixedAnswers (n : Nat) : (q : Call) → Reply q :=
  quiet AuditService.sampleCreated.createdAt.moment s!"row{n}"

def mixedRun : List (Event Call Reply) × Except PyErr ChatOrchestrateResult × Database :=
  (executeChatOrchestrate mixedJob).exec mixedAnswers 0 {}

theorem validated_mixed : validatePayload (loads mixedJob.payloadJson) = .ok mixedPayload :=
  rfl

theorem mixed_message_is_gated : ∃ result, mixedRun.2.1 = .ok result ∧
    result.status ≠ .completed ∧ ∃ draftId, Prepared {} mixedRun.2.2 result draftId := by
  have hrun : Prog.Runs (steady unfailing) (executeChatOrchestrate mixedJob) {} mixedRun.1
      mixedRun.2.1 mixedRun.2.2 := Prog.runs_of_admits (by decide +kernel)
  have hok : mixedRun.2.1.toOption.isSome := by
    decide +kernel
  cases hresult : mixedRun.2.1 with
  | error e =>
      rw [hresult] at hok
      cases hok
  | ok result =>
      rw [hresult] at hrun
      obtain ⟨hmarker, hcategory, _⟩ :=
        policy_and_mail_routing_agree validated_mixed hrun
      exact ⟨result, rfl, (hmarker (by decide +kernel)).1,
        (hcategory (by decide +kernel)).2.2⟩

end Sample

end ControlPlane
