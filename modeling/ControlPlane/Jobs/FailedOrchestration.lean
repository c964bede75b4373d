import ControlPlane.System.Processes
import ControlPlane.Workers.Processing

/-!
A failed orchestration and what it leaves behind. The request is committed before the
connector is asked for the draft, so a connector that raises there fails the job and leaves
the request pending. It is the only way.
-/

namespace ControlPlane

open Lib JobService ApprovalService EmailService PolicyService ChatOrchestrate Runner

/-- A request that can still be decided, for what the job was asked to do. -/
def AwaitsDecision (id : String) (row : ApprovalRequest) : Prop :=
  row.status = .pending ∧ (loads row.payloadJson).get? "job_id" = some (.str id)

instance (id : String) (row : ApprovalRequest) : Decidable (AwaitsDecision id row) :=
  inferInstanceAs (Decidable (_ ∧ _))

def AwaitsSend (id : String) (row : EmailDeliveryRecord) : Prop :=
  row.sourceJobId = some id ∧ row.status = .awaitingApproval

instance (id : String) (row : EmailDeliveryRecord) : Decidable (AwaitsSend id row) :=
  inferInstanceAs (Decidable (_ ∧ _))

/-- Nothing of the job waits for a decision. -/
structure Clear (id : String) (s : Database) : Prop where
  approvals : ∀ row ∈ s.approvals.rows, ¬AwaitsDecision id row
  deliveries : ∀ row ∈ s.emailDeliveries.rows, ¬AwaitsSend id row

def LeavesNothing (id : String) (s : Database) : Prop :=
  ∀ job, s.jobs.find? id = some job → job.status = .failed → Clear id s

/-- The connector returns or raises errors of its own. -/
def connectorErrors (q : Call) (r : Reply q) : Prop :=
  (failure ⟨q, r⟩).all PyErr.isConnector = true

instance (q : Call) (r : Reply q) : Decidable (connectorErrors q r) :=
  inferInstanceAs (Decidable (_ = true))

/-- The message is gated as an outbound one, and its draft is refused. -/
def DraftRefused (job : Job) (trace : List (Event Call Reply)) : Prop :=
  ∃ payload, validatePayload (loads job.payloadJson) = .ok payload ∧ payload.Gated ∧
    classifyEmailIntent payload.message = .outboundSend ∧
    ∃ error : PyErr, ⟨payload.draftCall, (Except.error error : Except PyErr String)⟩ ∈ trace

section

variable [Deployment] {job : Job} {payload : ChatPayload} {s s' : Database}
  {trace : List (Event Call Reply)} {result : Except PyErr Unit}

omit [Deployment] in
theorem sane_connectorErrors : Sane connectorErrors := by
  intro q r h e hraised
  unfold connectorErrors at h
  rw [hraised] at h
  cases e with
  | connector cls message => rfl
  | _ => cases h

theorem Opened.awaitsDecision {row : ApprovalRequest} {events : AuditTable}
    (h : Opened job payload s row events) : AwaitsDecision job.id row := by
  refine ⟨h.requested.status_eq, ?_⟩
  rw [h.requested.payload_eq]
  simp [loads, gateFields, Dict.get?_set_of_ne]
  rfl

omit [Deployment] in
theorem draftRefused_outward : DraftRefused job (outward trace) ↔ DraftRefused job trace := by
  have hmem : ∀ (payload : ChatPayload) (error : PyErr),
      (⟨payload.draftCall, (Except.error error : Except PyErr String)⟩ : Event Call Reply) ∈
        outward trace ↔ (⟨payload.draftCall, (Except.error error : Except PyErr String)⟩ :
          Event Call Reply) ∈ trace :=
    fun payload error => List.mem_filter.trans (and_iff_left rfl)
  simp only [DraftRefused, hmem]

/-- Of the ways in which the service can end, one fails with something left. -/
theorem Executed.leaves_iff {calls : List (Event Call Reply)}
    {outcome : Except PyErr ChatOrchestrateResult} {s₁ : Database} (hclear : Clear job.id s)
    (h : Executed (counted job) s calls outcome s₁) :
    (∀ e, outcome = .error e → Clear job.id s₁) ↔ ¬DraftRefused job calls := by
  cases h with
  | invalid hpayload =>
      refine iff_of_true (fun _ _ => hclear) ?_
      rintro ⟨payload, hvalid, _⟩
      have hclash := hvalid.symm.trans hpayload
      cases hclash
  | @orchestrated payload _ _ _ hpayload hrun =>
      have hsame : ∀ {payload' : ChatPayload},
          validatePayload (loads job.payloadJson) = .ok payload' → payload' = payload :=
        fun hvalid => Except.ok.inj (hvalid.symm.trans hpayload)
      cases hrun with
      | blocked =>
          refine iff_of_true (fun e he => by cases he) ?_
          rintro ⟨_, _, _, _, error, hcall⟩
          cases hcall
      | cleared _ hgated =>
          refine iff_of_true (fun _ _ => ⟨hclear.approvals, hclear.deliveries⟩) ?_
          rintro ⟨payload', hvalid, hgated', _⟩
          exact hgated (hsame hvalid ▸ hgated')
      | gated =>
          refine iff_of_true (fun e he => by cases he) ?_
          rintro ⟨_, _, _, _, error, hcall⟩
          cases hcall
      | @undrafted error row _ _ hintent hopened hputs =>
          refine iff_of_false (fun hleft => ?_) (not_not.mpr ?_)
          · exact (hleft error rfl).approvals row (hputs.mem.mpr (Or.inl rfl))
              hopened.awaitsDecision
          · exact ⟨payload, hpayload, hopened.gated, hintent, error,
              List.mem_singleton_self _⟩
      | drafted =>
          refine iff_of_true (fun e he => by cases he) ?_
          rintro ⟨payload', hvalid, _, _, error, hcall⟩
          obtain rfl := hsame hvalid
          cases List.mem_singleton.mp hcall

/-- A job that nothing waits for was orchestrated: it has failed and left something exactly if
the draft of a gated outbound message was refused. The store is any; its commits are stored, and
the connector raises errors of its own only. -/
theorem failed_orchestration_leaves_nothing_iff (htype : job.type = chatOrchestrateType)
    (hjob : s.jobs.find? job.id = some job) (hclear : Clear job.id s)
    (h : Prog.Runs (steady connectorErrors) (processJob job) s trace result s') :
    LeavesNothing job.id s' ↔ ¬DraftRefused job trace := by
  obtain ⟨_, outcome, s₁, jobs, hexecuted, _, hputs, rfl⟩ :=
    steady_processJob_chat htype hjob sane_connectorErrors h
  rw [← draftRefused_outward, ← hexecuted.leaves_iff hclear]
  have hclosed : jobs.find? job.id =
      some (closedJob job ChatOrchestrateResult.dump outcome) := by
    have hid : (closedJob job ChatOrchestrateResult.dump outcome).id = job.id := by
      cases outcome <;> rfl
    exact hid ▸ hputs.self
  constructor
  · rintro hleft e rfl
    obtain ⟨happrovals, hdeliveries⟩ := hleft _ hclosed rfl
    exact ⟨happrovals, hdeliveries⟩
  · intro hleft row hrow hfailed
    rw [hclosed] at hrow
    cases hrow
    cases outcome with
    | ok done => cases hfailed
    | error e =>
        obtain ⟨happrovals, hdeliveries⟩ := hleft e rfl
        exact ⟨happrovals, hdeliveries⟩

end

section Sample

local instance instResidueDeployment : Deployment := .sqlite

def claimedMessage (message : String) : Job where
  id := "j1"
  tenantId := some "t1"
  type := chatOrchestrateType
  status := .running
  idempotencyKey := none
  payloadJson :=
    some [("session_id", .str "s1"), ("message", .str message), ("max_steps", .num 8)]
  attempts := 0
  lastError := none
  runAfter := none
  createdAt := unset

def claimedStore (message : String) : Database := { jobs := .single (claimedMessage message) }

/-- The provider takes no drafts. -/
def refusingAnswers (n : Nat) : (q : Call) → Reply q
  | .createDraft _ _ _ =>
      (Except.error (.connector .temporaryProviderError "busy") : Except PyErr String)
  | q => quiet AuditService.sampleCreated.createdAt.moment s!"row{n}" q

def refusedRun (message : String) : List (Event Call Reply) × Except PyErr Unit × Database :=
  (processJob (claimedMessage message)).exec refusingAnswers 0 (claimedStore message)

theorem clear_claimedStore (message : String) : Clear "j1" (claimedStore message) where
  approvals row hrow := by cases hrow
  deliveries row hrow := by cases hrow

/-- Both runs fail at the draft; the reply needs no approval, and the approval of the send
waits. -/
theorem refused_runs_admitted :
    (∀ message ∈ ["Draft a reply to this email", "Send email to bob"],
      (processJob (claimedMessage message)).admits (steady connectorErrors) refusingAnswers 0
        (claimedStore message) = true) ∧
    ¬(ChatPayload.mk "s1" "Draft a reply to this email" 8).Gated ∧
    ((refusedRun "Send email to bob").2.2.jobs.find? "j1").any
      (fun job => job.status = .failed) = true ∧
    ∃ row ∈ (refusedRun "Send email to bob").2.2.approvals.rows, AwaitsDecision "j1" row := by
  decide +kernel

theorem refusedRun_runs (message : String)
    (h : message ∈ ["Draft a reply to this email", "Send email to bob"]) :
    Prog.Runs (steady connectorErrors) (processJob (claimedMessage message))
      (claimedStore message) (refusedRun message).1 (refusedRun message).2.1
      (refusedRun message).2.2 :=
  Prog.runs_of_admits (refused_runs_admitted.1 message h)

/-- A draft that needs no approval. -/
theorem failed_reply_leaves_nothing :
    LeavesNothing "j1" (refusedRun "Draft a reply to this email").2.2 := by
  have hrun := refusedRun_runs "Draft a reply to this email" (by simp)
  refine (failed_orchestration_leaves_nothing_iff rfl (Table.find?_single _)
    (clear_claimedStore _) hrun).mpr ?_
  rintro ⟨payload, hvalid, hgated, _⟩
  have hpayload : payload = ⟨"s1", "Draft a reply to this email", 8⟩ :=
    (Except.ok.inj hvalid).symm
  rw [hpayload] at hgated
  exact refused_runs_admitted.2.1 hgated

theorem failed_send_request_stays : ¬∀ (job : Job) (s s' : Database)
    (trace : List (Event Call Reply)) (result : Except PyErr Unit),
    job.type = chatOrchestrateType → s.jobs.find? job.id = some job → Clear job.id s →
    Prog.Runs (steady connectorErrors) (processJob job) s trace result s' →
    LeavesNothing job.id s' := by
  intro h
  have hrun := refusedRun_runs "Send email to bob" (by simp)
  have hleft := h _ _ _ _ _ rfl (Table.find?_single _) (clear_claimedStore _) hrun
  obtain ⟨_, _, hfailed, row, hrow, hawaits⟩ := refused_runs_admitted
  obtain ⟨job, hjob, hstatus⟩ := (Option.any_eq_true _ _).mp hfailed
  exact (hleft job hjob (of_decide_eq_true hstatus)).approvals row hrow hawaits

end Sample

end ControlPlane
