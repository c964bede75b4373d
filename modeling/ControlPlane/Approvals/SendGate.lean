import ControlPlane.App.Api
import ControlPlane.Services.Sequential
import ControlPlane.System.Processes

/-!
The gate of an outbound send, which is checked when an approval is decided, when the
enqueue is considered, and once more by the enqueue. A request that runs alone passes the
later checks if it passed the first.
-/

namespace ControlPlane

open Lib JobService AuditService

namespace ApprovalService

variable {adm : (q : Call) → Reply q → Database → Prop} {s s' : Database}
  {trace : List (Event Call Reply)}

/-- The payload names a draft. -/
def HasDraft (approval : ApprovalRequest) : Prop :=
  Json.truthy ((loads approval.payloadJson).get? "gmail_draft_id") = true

/-- What the gate finds wrong. -/
def gateError (s : Database) (approval : ApprovalRequest) : Option String :=
  if approval.kind ≠ jobGate then some "approval_invalid_kind"
  else
    let data := loads approval.payloadJson
    if !Json.truthy (data.get? "gmail_draft_id") then none
    else if wrongWorkflow data then some "approval_wrong_workflow"
    else if !Json.truthy (data.get? "job_id") then some "approval_missing_source_job"
    else if (s.job? ((data.get? "job_id").getD .null)).isNone then
      some "source_job_not_found"
    else none

/-- A check that found something raises it. -/
def checked : Option String → Except PyErr Unit
  | some message => .error (.valueError message)
  | none => .ok ()

theorem runs_validateOutboundSendGate {approval : ApprovalRequest}
    {result : Except PyErr Unit}
    (h : Prog.Runs adm (validateOutboundSendGate approval) s trace result s') :
    s' = s ∧ result = checked (gateError s approval) := by
  unfold validateOutboundSendGate at h
  unfold gateError
  split at h
  · next hkind =>
      obtain ⟨_, rfl, rfl⟩ := Prog.runs_raise h
      simp [hkind, checked]
  · next hkind =>
      rw [if_neg hkind]
      dsimp only at h ⊢
      split at h
      · next hdraft =>
          obtain ⟨_, rfl, rfl⟩ := Prog.runs_pure h
          simp [hdraft, checked]
      · next hdraft =>
          rw [if_neg hdraft]
          split at h
          · next hworkflow =>
              obtain ⟨_, rfl, rfl⟩ := Prog.runs_raise h
              simp [hworkflow, checked]
          · next hworkflow =>
              rw [if_neg hworkflow]
              split at h
              · next hjob =>
                  obtain ⟨_, rfl, rfl⟩ := Prog.runs_raise h
                  simp [hjob, checked]
              · next hjob =>
                  rw [if_neg hjob]
                  obtain ⟨r, rest, rfl, hfound⟩ := runs_getJobById_bind h
                  cases hsource : s.job? (((loads approval.payloadJson).get?
                      "job_id").getD .null) with
                  | none =>
                      rw [hsource] at hfound
                      obtain ⟨_, rfl, rfl⟩ := Prog.runs_raise hfound
                      simp [checked]
                  | some job =>
                      rw [hsource] at hfound
                      obtain ⟨_, rfl, rfl⟩ := Prog.runs_pure hfound
                      simp [checked]

/-- The gate looks at the kind, at three fields of the payload and at the jobs. -/
theorem gateError_congr {approval approval' : ApprovalRequest}
    (hkind : approval'.kind = approval.kind)
    (hdata : ∀ k ∈ ["gmail_draft_id", "workflow", "job_id"],
      (loads approval'.payloadJson).get? k = (loads approval.payloadJson).get? k)
    (hjobs : s'.jobs = s.jobs) : gateError s' approval' = gateError s approval := by
  have hworkflow : wrongWorkflow (loads approval'.payloadJson) =
      wrongWorkflow (loads approval.payloadJson) := by
    unfold wrongWorkflow
    rw [hdata "workflow" (by simp)]
  have hjob : ∀ id, s'.job? id = s.job? id := by
    intro id
    cases id <;> simp [Database.job?, hjobs]
  unfold gateError
  simp only [hkind, hworkflow, hdata "gmail_draft_id" (by simp), hdata "job_id" (by simp), hjob]

/-- What passes the gate with a draft is enqueued, and nothing without a draft is. -/
theorem shouldEnqueue_iff {approval : ApprovalRequest}
    (hgate : HasDraft approval → gateError s approval = none) :
    shouldEnqueueEmailSendAfterApproval approval = true ↔ HasDraft approval := by
  unfold shouldEnqueueEmailSendAfterApproval
  dsimp only
  constructor
  · intro h
    simp only [Bool.and_eq_true] at h
    exact h.1.2
  · intro hdraft
    have hpassed := hgate hdraft
    unfold gateError at hpassed
    unfold HasDraft at hdraft
    split at hpassed
    · cases hpassed
    · next hkind =>
        dsimp only at hpassed
        rw [hdraft] at hpassed
        simp only [Bool.not_true, Bool.false_eq_true, if_false] at hpassed
        split at hpassed
        · cases hpassed
        · next hworkflow => simp [not_not.mp hkind, hdraft, hworkflow]

section

variable [Deployment] {id actor : String} {note tenantId : Option String}

/-- The row that an approval leaves. -/
def approvedRow (row : ApprovalRequest) (actor : String) (note : Option String)
    (now : Moment) : ApprovalRequest :=
  decided row .approved [("status", .str "approved"), ("actor", .str actor),
    ("note", .ofOption note)] now

def approvedEvent (row : ApprovalRequest) (actor : String) (note : Option String) :
    NewEvent where
  action := AuditAction.approvalApproved
  resourceType := "approval"
  resourceId := row.id
  tenantId := row.tenantId
  actor := some actor
  metadata := some [("note", .ofOption note)]

/-- What follows the checks of a decision. -/
def recordDecision (row new : ApprovalRequest) (e : NewEvent) : Session ApprovalRequest :=
  (commit (.updateApproval row new)).bind fun _ => (record e).bind fun _ => reload row.id

theorem updated_decided (row : ApprovalRequest) (status : ApprovalStatus) (decision : Dict)
    (now : Moment) : row.updated (decided row status decision now) row =
      decided row status decision now := by
  simp [ApprovalRequest.updated, decided]

/-- A decision leaves the rest of the payload alone. -/
theorem decided_get {row : ApprovalRequest} {status : ApprovalStatus} {decision : Dict}
    {now : Moment} {k : String} (hk : k ≠ "decision") :
    (loads (decided row status decision now).payloadJson).get? k =
      (loads row.payloadJson).get? k :=
  Dict.get?_set_of_ne _ _ hk

theorem approvedRow_get {row : ApprovalRequest} {now : Moment} {k : String}
    (hk : k ≠ "decision") :
    (loads (approvedRow row actor note now).payloadJson).get? k =
      (loads row.payloadJson).get? k :=
  decided_get hk

/-- What the decision on a row has done, when its checks have passed. -/
structure Decides (s : Database) (new : ApprovalRequest) (result : Except PyErr ApprovalRequest)
    (s' : Database) : Prop where
  jobs : s'.jobs = s.jobs
  returns : ∀ row, result = .ok row → row = new ∧ s'.approvals.find? new.id = some new
  raises : ∀ e, result = .error e → NotRefusal e

omit [Deployment] in
theorem raises_reload {id : String} : Prog.Raises NotRefusal (reload id) :=
  Prog.Raises.bind (Prog.Raises.bind raises_select fun _ => trivial) fun _ => raises_found

theorem runs_decision {row new : ApprovalRequest} {e : NewEvent}
    {result : Except PyErr ApprovalRequest}
    (hfind : s.approvals.find? row.id = some row) (hid : new.id = row.id)
    (hnew : row.updated new row = new)
    (h : Prog.Runs adm (recordDecision row new e) s trace result s') :
    Decides s new result s' := by
  have hraises : Prog.Raises NotRefusal (recordDecision row new e) :=
    raises_commit.bind fun _ => raises_record.bind fun _ => raises_reload
  have herror : ∀ e, result = .error e → NotRefusal e := by
    rintro e rfl
    exact hraises.of_runs h
  obtain ⟨r, rest, rfl, _, ⟨s₁, hrun, hrest⟩ | ⟨e, _, _, rfl, rfl⟩⟩ := runs_commit_bind h
  · have happly := (Transaction.run_eq_ok.mp hrun).2
    have hjobs : s₁.jobs = s.jobs := Transaction.jobs_of_apply happly (by simp [Transaction.target])
    have hstored : s₁.approvals.find? row.id = some new := by
      rw [Transaction.find_updateApproval happly, hfind, Option.map_some, if_pos rfl, hnew]
    obtain ⟨table, ⟨event, _, _, rfl, _, hreload⟩ | ⟨rfl, e, rfl⟩⟩ := runs_record_bind hrest
    · rw [← Prog.bind_pure (reload row.id)] at hreload
      have hread : ({ s₁ with auditEvents := table } : Database).approvals.find? row.id =
          some new :=
        hstored
      obtain ⟨r', _, rfl, hlast⟩ := runs_reload_bind hread hreload
      obtain ⟨rfl, rfl, rfl⟩ := Prog.runs_pure hlast
      refine ⟨hjobs, ?_, herror⟩
      rintro _ ⟨⟩
      exact ⟨rfl, hid ▸ hstored⟩
    · exact ⟨hjobs, by rintro _ ⟨⟩, herror⟩
  · exact ⟨rfl, by rintro _ ⟨⟩, herror⟩

/-- An approval that is refused has done nothing; otherwise it has passed the gate, and the
decision on the row follows. -/
theorem runs_approve_checked {result : Except PyErr ApprovalRequest}
    (h : Prog.Runs adm (approve id actor note tenantId) s trace result s') :
    (∃ row now rest, s.approvals.find? id = some row ∧ row.status = .pending ∧
      (HasDraft row → gateError s row = none) ∧
      Prog.Runs adm (recordDecision row (approvedRow row actor note now)
        (approvedEvent row actor note)) s rest result s') ∨
    s' = s ∧ ∃ message, result = .error (.valueError message) := by
  unfold approve getRequestAt at h
  rw [Prog.bind_eq] at h
  obtain ⟨r, rest, rfl, hloaded⟩ := runs_select_bind h
  dsimp only at hloaded
  cases hrow : (s.approval? (.str id)).filter fun row =>
      tenantId = none ∨ row.tenantId = tenantId with
  | none =>
      rw [hrow] at hloaded
      obtain ⟨_, rfl, rfl⟩ := Prog.runs_raise hloaded
      exact Or.inr ⟨rfl, _, rfl⟩
  | some row =>
      rw [hrow] at hloaded
      dsimp only at hloaded
      have hfind : s.approvals.find? id = some row := (Option.filter_eq_some_iff.mp hrow).1
      split at hloaded
      · obtain ⟨_, rfl, rfl⟩ := Prog.runs_raise hloaded
        exact Or.inr ⟨rfl, _, rfl⟩
      · next hpending =>
          have hstatus : row.status = .pending := not_not.mp hpending
          split at hloaded
          · next hdraft =>
              rw [Prog.bind_eq] at hloaded
              rcases Prog.runs_bind hloaded with ⟨_, s₁, _, last, hgate, hdecide, rfl⟩ |
                  ⟨e, hgate, rfl⟩
              · obtain ⟨rfl, hpassed⟩ := runs_validateOutboundSendGate hgate
                refine Or.inl ⟨row, r.now, last, hfind, hstatus, fun _ => ?_, hdecide⟩
                cases herror : gateError s₁ row with
                | none => rfl
                | some message =>
                    rw [herror] at hpassed
                    cases hpassed
              · obtain ⟨rfl, herror⟩ := runs_validateOutboundSendGate hgate
                cases hfound : gateError s' row with
                | none =>
                    rw [hfound] at herror
                    cases herror
                | some message =>
                    rw [hfound] at herror
                    cases herror
                    exact Or.inr ⟨rfl, message, rfl⟩
          · next hdraft =>
              exact Or.inl ⟨row, r.now, rest, hfind, hstatus, fun h => absurd h hdraft,
                hloaded⟩

theorem runs_approve {result : Except PyErr ApprovalRequest}
    (h : Prog.Runs adm (approve id actor note tenantId) s trace result s') :
    (∃ row now, s.approvals.find? id = some row ∧ row.status = .pending ∧
      (HasDraft row → gateError s row = none) ∧
      Decides s (approvedRow row actor note now) result s') ∨
    s' = s ∧ ∃ message, result = .error (.valueError message) := by
  rcases runs_approve_checked h with ⟨row, now, rest, hfind, hstatus, hgate, hdecide⟩ | hrefused
  · have hstored : s.approvals.find? row.id = some row := by
      rw [Table.key_of_find? hfind]
      exact hfind
    exact Or.inl ⟨row, now, hfind, hstatus, hgate,
      runs_decision hstored rfl (updated_decided _ _ _ _) hdecide⟩
  · exact Or.inr hrefused

theorem raises_enqueued {approval : ApprovalRequest} :
    Prog.Raises NotRefusal ((getJobByIdempotencyKey (sendKey approval.id)).bind fun
      | some existing => (record {
          action := AuditAction.sendJobEnqueued
          resourceType := "approval"
          resourceId := approval.id
          tenantId := approval.tenantId
          metadata := some [("job_id", .str existing.id), ("idempotent", .bool true)]
          }).bind fun _ => .pure existing
      | none => (createJob emailSendApprovedType
          (some [("approval_id", .str approval.id)]) approval.tenantId
          (some (sendKey approval.id))).bind fun sendJob => (record {
            action := AuditAction.sendJobEnqueued
            resourceType := "approval"
            resourceId := approval.id
            tenantId := approval.tenantId
            metadata := some [("job_id", .str sendJob.id)] }).bind fun _ => .pure sendJob) := by
  refine raises_select.bind fun existing => ?_
  cases existing with
  | some existing => exact raises_record.bind fun _ => trivial
  | none =>
      exact Prog.Raises.bind (raises_commit.bind fun _ => trivial) fun _ =>
        raises_record.bind fun _ => trivial

/-- What is approved, has a draft and passes the gate is not refused by the enqueue. -/
theorem runs_enqueue_eligible {approval : ApprovalRequest} {e : PyErr}
    (hstatus : approval.status = .approved) (hdraft : HasDraft approval)
    (hgate : gateError s approval = none)
    (h : Prog.Runs adm (enqueueEmailSendJob approval) s trace (.error e) s') :
    NotRefusal e := by
  unfold enqueueEmailSendJob validateSendEnqueueEligibility at h
  rw [if_neg (not_not.mpr hstatus), Prog.bind_eq, Prog.bind_eq, Prog.bind_assoc] at h
  rcases Prog.runs_bind h with ⟨_, s₁, _, _, hcheck, hrest, rfl⟩ | ⟨e', hcheck, herror⟩
  · obtain ⟨rfl, _⟩ := runs_validateOutboundSendGate hcheck
    rw [hdraft] at hrest
    exact raises_enqueued.of_runs hrest
  · obtain ⟨_, hresult⟩ := runs_validateOutboundSendGate hcheck
    rw [hgate] at hresult
    cases hresult

open Api

omit [Deployment] in
theorem httpError_of_not_refusal {missing : Option String} {e : PyErr} (h : NotRefusal e) :
    NotRefusal (httpError missing e) := by
  cases e with
  | valueError message => cases h
  | _ => exact h

omit [Deployment] in
/-- A handler that translates the exception. -/
theorem runs_translated {α : Type} {p : Session α} {f : PyErr → PyErr} {result : Except PyErr α}
    (h : Prog.Runs adm (tryCatch p fun e => throw (f e)) s trace result s') :
    (∃ value, Prog.Runs adm p s trace (.ok value) s' ∧ result = .ok value) ∨
      ∃ e, Prog.Runs adm p s trace (.error e) s' ∧ result = .error (f e) := by
  rcases Prog.runs_handle h with hreturned | ⟨e, s₁, _, _, hraised, hlast, rfl⟩
  · exact Or.inl hreturned
  · obtain ⟨rfl, rfl, rfl⟩ := Prog.runs_raise hlast
    rw [List.append_nil]
    exact Or.inr ⟨e, hraised, rfl⟩

omit [Deployment] in
theorem raises_detail {id : String} {answer : ApprovalDetail → ApprovalDecision} :
    Prog.Raises NotRefusal ((enrichApprovalDetail id).bind fun detail =>
      .pure (answer detail)) :=
  Prog.Raises.bind (raises_reload.bind fun _ => raises_select.bind fun _ => trivial)
    fun _ => trivial

theorem runs_enqueueAfterApproval {row : ApprovalRequest} {e : PyErr}
    (hstatus : row.status = .approved) (hgate : HasDraft row → gateError s row = none)
    (h : Prog.Runs adm (enqueueAfterApproval row) s trace (.error e) s') : NotRefusal e := by
  unfold enqueueAfterApproval at h
  split at h
  · next hshould =>
      have hdraft := (shouldEnqueue_iff hgate).mp hshould
      rcases Prog.runs_bind h with ⟨job, s₁, _, _, _, hlast, rfl⟩ | ⟨e', henqueue, herror⟩
      · obtain ⟨_, hresult, _⟩ := Prog.runs_pure hlast
        cases hresult
      · rcases runs_translated henqueue with ⟨job, _, hresult⟩ | ⟨e₀, hrefused, hresult⟩
        · cases hresult
        · cases hresult
          cases herror
          exact httpError_of_not_refusal
            (runs_enqueue_eligible hstatus hdraft (hgate hdraft) hrefused)
  · obtain ⟨_, hresult, _⟩ := Prog.runs_pure h
    cases hresult

/-- The approved row and the row it was, for the gate. -/
theorem approvedRow_gate (row : ApprovalRequest) (actor : String) (note : Option String)
    (now : Moment) (hjobs : s'.jobs = s.jobs) :
    (HasDraft (approvedRow row actor note now) ↔ HasDraft row) ∧
      gateError s' (approvedRow row actor note now) = gateError s row := by
  have hget : ∀ k ∈ ["gmail_draft_id", "workflow", "job_id"],
      (loads (approvedRow row actor note now).payloadJson).get? k =
        (loads row.payloadJson).get? k := by
    intro k hk
    refine approvedRow_get ?_
    rintro rfl
    revert hk
    decide
  refine ⟨?_, gateError_congr rfl hget hjobs⟩
  unfold HasDraft
  rw [hget "gmail_draft_id" (by simp)]

end

section Sample

local instance instGateDeployment : Deployment := .sqlite

/-- A pending approval whose draft is a number, and its source job. -/
def draftedRow : ApprovalRequest where
  id := "a1"
  tenantId := some "t1"
  kind := jobGate
  status := .pending
  payloadJson := some [("job_id", .str "j1"), ("gmail_draft_id", .num 7), ("workflow", .null)]
  decidedAt := none
  createdAt := unset

def draftedJob : Job where
  id := "j1"
  tenantId := some "t1"
  type := chatOrchestrateType
  status := .succeeded
  idempotencyKey := none
  payloadJson := none
  attempts := 1
  lastError := none
  runAfter := none
  createdAt := unset

def drafted : Database := { jobs := .single draftedJob, approvals := .single draftedRow }

/-- Nothing fails, and every answer names a new row. -/
def draftAnswers (n : Nat) : (q : Call) → Reply q :=
  quiet AuditService.sampleCreated.createdAt.moment s!"row{n}"

def draftApproval : List (Event Call Reply) × Except PyErr ApprovalRequest × Database :=
  (approve "a1" "alice" none (some "t1")).exec draftAnswers 0 drafted

end Sample

end ApprovalService

end ControlPlane
