import ControlPlane.App.SteadyRequests
import ControlPlane.Audit.ScopedVerification
import ControlPlane.Reviews.ScoreBounds
import ControlPlane.Reviews.StatusViews

/-!
The audit trail of a governance review and what its score makes of it. The scorer takes
every event with "approv" in its name for a decision, and the request for an approval has
it there too.
-/

namespace ControlPlane

open Lib EvidenceGraph

/-- What the surroundings answer to the pipeline while the rest of the store stays. -/
def inside (adm : (q : StoreCall) → StoreReply q → Store → Prop) (S : Store) :
    (q : Call) → Reply q → Database → Prop :=
  fun q r db => adm (.pipeline q) r { S with db := db }

theorem runs_inside {α : Type} {adm : (q : StoreCall) → StoreReply q → Store → Prop}
    {p : Session α} {S S' : Store} {trace : List StoreEvent} {result : Except PyErr α}
    (h : Prog.Runs adm (inPipeline p) S trace result S') :
    ∃ calls db, Prog.Runs (inside adm S) p S.db calls result db ∧ S' = { S with db := db } := by
  induction p generalizing S trace with
  | pure value =>
      obtain ⟨_, hresult, hstore⟩ := Prog.runs_pure h
      rw [hresult, hstore]
      exact ⟨[], S.db, .pure value S.db, rfl⟩
  | raise error =>
      obtain ⟨_, hresult, hstore⟩ := Prog.runs_raise h
      rw [hresult, hstore]
      exact ⟨[], S.db, .raise error S.db, rfl⟩
  | act call write next ih =>
      cases h with
      | act answer hadm hrest =>
          obtain ⟨calls, db, hruns, rfl⟩ := ih answer S.db hrest
          refine ⟨⟨call, answer⟩ :: calls, db, ?_, rfl⟩
          constructor
          · exact hadm
          · exact hruns

/-- What a commit of the governance tables was answered, and the store it left. -/
theorem runs_changed_bind [Deployment] {α : Type}
    {adm : (q : StoreCall) → StoreReply q → Store → Prop} {change : GovernanceChange}
    {k : DbReply → StoreSession α} {S S' : Store} {trace : List StoreEvent}
    {result : Except PyErr α}
    (h : Prog.Runs adm ((commitChange change).bind k) S trace result S') :
    ∃ r : DbReply, adm (.commit change) r S ∧
      ((∃ (g : Governance) (rest : List StoreEvent), change.apply r S.governance = some g ∧
        Prog.Runs adm (k r) { S with governance := g } rest result S') ∨ S' = S) := by
  have hcommit := runs_commitChange_bind h
  cases h with
  | act answer hadm _ =>
      refine ⟨answer, hadm, ?_⟩
      obtain ⟨r, rest, htrace, ⟨_, g, happly, hrest⟩ | ⟨_, _, _, hsame⟩⟩ := hcommit
      · cases htrace
        exact Or.inl ⟨g, _, happly, hrest⟩
      · exact Or.inr hsame

namespace GovernanceWorkflow

open TrustScoreService ApprovalService AuditService

/-- The score claims that the action can be traced through its decision. -/
def ClaimsDecision (result : Result) : Prop :=
  ∃ d, result.dimension? "execution_traceability" = some d ∧ d.earned = d.maxPoints

def approvalDecisions : List String :=
  [AuditAction.approvalApproved, AuditAction.approvalRejected]

def actionDecisions : List String :=
  ["governed_action.overridden", "governance_review.auto_cleared"]

/-- A decision on the action or on its approval is in the audit trail. -/
def DecisionRecorded (S : Store) (action : GovernedAction) : Prop :=
  ∃ e ∈ S.db.auditEvents.rows,
    (some e.resourceId = action.approvalId ∧ e.action ∈ approvalDecisions) ∨
      (e.resourceId = action.id ∧ e.action ∈ actionDecisions)

/-- No caller gets a score that claims a decision before there is one. -/
def ClaimsOnlyDecided [Deployment] (S : Store) (action : GovernedAction) : Prop :=
  ∀ settings tenantId persisting trace scored S',
    Prog.Runs anyAnswer (scoreAction settings action.id tenantId persisting) S trace
      (.ok (some scored)) S' → ClaimsDecision scored.result → DecisionRecorded S action

/-- The action has no approval to wait for, or was decided or overridden. -/
def Settled (S : Store) (action : GovernedAction) : Prop :=
  action.approvalId = none ∨
    (∃ row, approvalOf S.db action = some row ∧ row.status ≠ .pending) ∨
    ∃ row ∈ S.governance.overrides.rows, row.governedActionId = action.id

theorem dimension?_traceability (packet : EvidencePackets.Packet) (appEnv : AppEnv) :
    (scorePacket packet appEnv).dimension? "execution_traceability" =
      some (scoreExecutionTraceability
        ⟨"execution_traceability", "Execution Traceability", 7, 0, []⟩ packet appEnv) := by
  rw [dimension?_scorePacket]
  rfl

/-- Full points stand for a decision among the events of the packet. -/
theorem decides_of_claims {packet : EvidencePackets.Packet} {appEnv : AppEnv}
    (h : ClaimsDecision (scorePacket packet appEnv)) :
    ∃ e ∈ packet.auditEvents, decides e.action = true := by
  obtain ⟨d, hd, hfull⟩ := h
  rw [dimension?_traceability] at hd
  cases hd
  rw [← List.any_eq_true]
  by_contra hnone
  rw [Bool.not_eq_true] at hnone
  unfold scoreExecutionTraceability at hfull
  simp only [hnone, Dimension.earn] at hfull
  split at hfull <;> simp at hfull

/-- Ids are new over all tables, and an audit event that is committed is stored. Other
commits may fail. -/
def logged [Deployment] : (q : StoreCall) → StoreReply q → Store → Prop
  | .commit _, (r : DbReply), S => S.db.approvals.find? r.newId = none ∧
      ∀ e ∈ S.db.auditEvents.rows, e.resourceId ≠ r.newId
  | .pipeline (.commit (.insertAudit row)), (r : DbReply), S =>
      r.failure = none ∧ ((Transaction.insertAudit row).apply r S.db).isSome
  | .pipeline (.commit _), (r : DbReply), S => S.governance.actions.find? r.newId = none
  | _, _, _ => True

/-- What the events say of the actions, the approvals and the overrides. -/
structure Trailed (S : Store) : Prop where
  /-- An action has no approval's id and no job. -/
  apart : ∀ a ∈ S.governance.actions.rows, S.db.approvals.find? a.id = none ∧
    a.sourceJobId = none ∧ a.executionJobId = none
  ungated : ∀ a ∈ S.governance.actions.rows, a.approvalId = none →
    ∀ e ∈ S.db.auditEvents.rows, e.resourceId = a.id → decides e.action = false
  decided : ∀ a ∈ S.governance.actions.rows, ∀ row, approvalOf S.db a = some row →
    row.status ≠ .pending → ∃ e ∈ S.db.auditEvents.rows,
      some e.resourceId = a.approvalId ∧ e.action ∈ approvalDecisions
  overridden : ∀ row ∈ S.governance.overrides.rows, ∃ e ∈ S.db.auditEvents.rows,
    e.resourceId = row.governedActionId ∧ e.action ∈ actionDecisions

section

variable [Deployment] {S S' : Store} {trace : List StoreEvent} {α β : Type}

theorem logged_storesEvents (S : Store) : StoresEvents (inside logged S) :=
  fun _ _ _ h => h

omit [Deployment] in
theorem Trailed.of_nothing (hactions : S.governance.actions.rows = [])
    (hoverrides : S.governance.overrides.rows = []) : Trailed S := by
  constructor
  · rw [hactions]
    simp
  · rw [hactions]
    simp
  · rw [hactions]
    simp
  · rw [hoverrides]
    simp

/-- Nothing of the trail changes but for new events, none of which decides anything of an
action without an approval. -/
structure Extends (S S' : Store) : Prop where
  actions : S'.governance.actions = S.governance.actions
  overrides : S'.governance.overrides = S.governance.overrides
  approvals : S'.db.approvals = S.db.approvals
  kept : ∀ e ∈ S.db.auditEvents.rows, e ∈ S'.db.auditEvents.rows
  fresh : ∀ e ∈ S'.db.auditEvents.rows, e ∈ S.db.auditEvents.rows ∨
    (decides e.action = true →
      ∀ a ∈ S.governance.actions.rows, a.id = e.resourceId → a.approvalId ≠ none)

omit [Deployment] in
theorem Trailed.extend (h : Trailed S) (hext : Extends S S') : Trailed S' := by
  have hof : ∀ a, approvalOf S'.db a = approvalOf S.db a := by
    intro a
    rw [approvalOf, approvalOf, hext.approvals]
  constructor
  · rw [hext.actions, hext.approvals]
    exact h.apart
  · intro a ha hnone e he hid
    rw [hext.actions] at ha
    rcases hext.fresh e he with hold | hnew
    · exact h.ungated a ha hnone e hold hid
    · rw [← Bool.not_eq_true]
      intro hdecides
      exact hnew hdecides a ha hid.symm hnone
  · intro a ha row hrow hstatus
    rw [hext.actions] at ha
    rw [hof] at hrow
    obtain ⟨e, he, hevent⟩ := h.decided a ha row hrow hstatus
    exact ⟨e, hext.kept e he, hevent⟩
  · intro row hrow
    rw [hext.overrides] at hrow
    obtain ⟨e, he, hevent⟩ := h.overridden row hrow
    exact ⟨e, hext.kept e he, hevent⟩

/-- The program leaves a trail, whether it returns or raises. -/
def KeepsTrail (p : StoreSession α) : Prop :=
  ∀ S S' trace result, Trailed S → Prog.Runs logged p S trace result S' → Trailed S'

theorem KeepsTrail.bind {p : StoreSession α} {k : α → StoreSession β} (hp : KeepsTrail p)
    (hk : ∀ value, KeepsTrail (k value)) : KeepsTrail (p.bind k) := by
  intro S S' trace result h hrun
  rcases Prog.runs_bind hrun with ⟨value, S₁, _, _, hfirst, hrest, _⟩ | ⟨_, hfirst, _⟩
  · exact hk value _ _ _ _ (hp _ _ _ _ h hfirst) hrest
  · exact hp _ _ _ _ h hfirst

theorem keepsTrail_pure (value : α) : KeepsTrail (.pure value) := by
  intro S S' trace result h hrun
  obtain ⟨_, _, rfl⟩ := Prog.runs_pure hrun
  exact h

theorem keepsTrail_raise (error : PyErr) : KeepsTrail (.raise error : StoreSession α) := by
  intro S S' trace result h hrun
  obtain ⟨_, _, rfl⟩ := Prog.runs_raise hrun
  exact h

theorem keepsTrail_peek (read : Store → α) : KeepsTrail (peek read) := by
  intro S S' trace result h hrun
  obtain ⟨_, _, rfl⟩ := runs_peek hrun
  exact h

theorem keepsTrail_outcome (known : Except PyErr α) : KeepsTrail (outcome known) := by
  cases known with
  | ok value => exact keepsTrail_pure value
  | error error => exact keepsTrail_raise error

theorem keepsTrail_foundAgain (row : Option α) : KeepsTrail (foundAgain row) := by
  cases row with
  | none => exact keepsTrail_raise _
  | some value => exact keepsTrail_pure value

/-- A commit that touches neither the actions nor the overrides. -/
theorem keepsTrail_commitChange {change : GovernanceChange}
    (hchange : ∀ r g g', change.apply r g = some g' →
      g'.actions = g.actions ∧ g'.overrides = g.overrides) :
    KeepsTrail (commitChange change) := by
  intro S S' trace result h hrun
  obtain ⟨r, _, ⟨_, _, g, happly, rfl⟩ | ⟨_, _, rfl⟩⟩ := runs_commitChange hrun
  · obtain ⟨hactions, hoverrides⟩ := hchange r _ g happly
    exact h.extend ⟨hactions, hoverrides, rfl, fun _ he => he, fun _ he => Or.inl he⟩
  · exact h

theorem appended_row {e : NewEvent} {before after : AuditTable}
    (h : Appended e before after) : ∃ row, after.rows = before.rows ++ [row] ∧
      row.action = e.action ∧ row.resourceId = e.resourceId := by
  obtain ⟨now, hash, r, hinsert⟩ := h
  exact ⟨_, Table.rows_insert hinsert, rfl, rfl⟩

/-- An event is stored, and nothing else happens. -/
theorem runs_recordEvent {e : NewEvent} {result : Except PyErr AuditEvent}
    (h : Prog.Runs logged (recordEvent e) S trace result S') :
    ∃ table, Appended e S.db.auditEvents table ∧
      S' = { S with db := { S.db with auditEvents := table } } := by
  obtain ⟨calls, db, hrun, rfl⟩ := runs_inside h
  rw [← Prog.bind_pure (record e)] at hrun
  obtain ⟨event, table, rest, _, happended, hlast⟩ :=
    stored_record_bind (logged_storesEvents S) hrun
  obtain ⟨_, _, rfl⟩ := Prog.runs_pure hlast
  exact ⟨table, happended, rfl⟩

omit [Deployment] in
theorem extends_events {table : AuditTable} {row : AuditEvent}
    (hrows : table.rows = S.db.auditEvents.rows ++ [row])
    (hfresh : decides row.action = true →
      ∀ a ∈ S.governance.actions.rows, a.id = row.resourceId → a.approvalId ≠ none) :
    Extends S { S with db := { S.db with auditEvents := table } } := by
  refine ⟨rfl, rfl, rfl, ?_, ?_⟩
  · intro e he
    rw [hrows]
    exact List.mem_append_left _ he
  · intro e he
    rw [hrows, List.mem_append, List.mem_singleton] at he
    rcases he with hold | rfl
    · exact Or.inl hold
    · exact Or.inr hfresh

theorem keepsTrail_audit {action gaId : String} {tenantId actor : Option String}
    {metadata : Dict} (haction : decides action = false) :
    KeepsTrail (audit action gaId tenantId actor metadata) := by
  intro S S' trace result h hrun
  obtain ⟨table, happended, rfl⟩ := runs_recordEvent hrun
  obtain ⟨row, hrows, hrow, _⟩ := appended_row happended
  apply h.extend (extends_events hrows _)
  intro hdecides
  rw [hrow, haction] at hdecides
  cases hdecides

theorem keepsTrail_createGovernedAction (intake : Intake) (tenantId : Option String)
    (active : Option GovernancePolicy) :
    KeepsTrail (createGovernedAction (intake.action tenantId active)) := by
  intro S S' trace result h hrun
  unfold createGovernedAction at hrun
  obtain ⟨r, ⟨happroval, hevents⟩, ⟨g, rest, happly, hrest⟩ | rfl⟩ := runs_changed_bind hrun
  · apply ((keepsTrail_peek _).bind keepsTrail_foundAgain) _ _ _ _ _ hrest
    obtain ⟨table, hinsert, rfl⟩ := Option.map_eq_some_iff.mp happly
    constructor
    · intro a ha
      rcases (Table.mem_insert hinsert).mp ha with hold | rfl
      · exact h.apart a hold
      · exact ⟨happroval, rfl, rfl⟩
    · intro a ha hnone e he hid
      rcases (Table.mem_insert hinsert).mp ha with hold | rfl
      · exact h.ungated a hold hnone e he hid
      · exact absurd hid (hevents e he)
    · intro a ha row hrow hstatus
      rcases (Table.mem_insert hinsert).mp ha with hold | rfl
      · exact h.decided a hold row hrow hstatus
      · cases hrow
    · exact h.overridden
  · exact h

theorem keepsTrail_createRiskAssessment (tenantId : Option String) (level : String)
    (summary : Option String) (metadata : Dict) :
    KeepsTrail (createRiskAssessment tenantId level summary metadata) := by
  refine (keepsTrail_commitChange ?_).bind fun r =>
    (keepsTrail_peek _).bind keepsTrail_foundAgain
  intro r g g' happly
  obtain ⟨_, _, rfl⟩ := Option.map_eq_some_iff.mp happly
  exact ⟨rfl, rfl⟩

theorem keepsTrail_recordEvidenceArtifact (tenantId : Option String) (artifactType : String)
    (actionId uri : Option String) (metadata : Dict) :
    KeepsTrail (recordEvidenceArtifact tenantId artifactType actionId uri metadata) := by
  refine (keepsTrail_commitChange ?_).bind fun r =>
    (keepsTrail_peek _).bind keepsTrail_foundAgain
  intro r g g' happly
  obtain ⟨_, _, rfl⟩ := Option.map_eq_some_iff.mp happly
  exact ⟨rfl, rfl⟩

omit [Deployment] in
/-- A new approval is pending, so nothing was decided of it. -/
theorem Trailed.insertApproval {row : ApprovalRequest} {approvals : ApprovalTable}
    (h : Trailed S) (hputs : S.db.approvals.Puts approvals row) (hpending : row.status = .pending)
    (hnew : S.governance.actions.find? row.id = none) :
    Trailed { S with db := { S.db with approvals := approvals } } := by
  constructor
  · intro a ha
    obtain ⟨hnone, hjobs⟩ := h.apart a ha
    have hne : a.id ≠ row.id := by
      intro heq
      have hfind := S.governance.actions.find?_key ha
      rw [heq, hnew] at hfind
      cases hfind
    exact ⟨(hputs.other _ hne).trans hnone, hjobs⟩
  · exact h.ungated
  · intro a ha found hfound hstatus
    obtain ⟨id, hid, hfind⟩ := Option.bind_eq_some_iff.mp hfound
    by_cases heq : id = row.id
    · have hself : some row = some found := by
        rw [← hputs.self, ← heq]
        exact hfind
      cases hself
      exact absurd hpending hstatus
    · apply h.decided a ha found _ hstatus
      rw [approvalOf, hid]
      exact (hputs.other _ heq).symm.trans hfind
  · exact h.overridden

/-- The approval of a gate is stored before the action has it. -/
theorem createRequest_trailed {kind jobId : String} {tenantId : Option String}
    {payload : Dict} {result : Except PyErr ApprovalRequest} (h : Trailed S)
    (hrun : Prog.Runs logged (inPipeline (createRequest kind tenantId jobId payload)) S trace
      result S') :
    Trailed S' ∧ ∀ approval, result = .ok approval →
      ∃ row, S'.db.approvals.find? approval.id = some row ∧ row.status = .pending := by
  obtain ⟨calls, db, hrequest, rfl⟩ := runs_inside hrun
  unfold createRequest at hrequest
  obtain ⟨r, rest, rfl, hnew, ⟨s₁, htx, hrest⟩ | ⟨_, _, _, rfl, rfl⟩⟩ :=
    runs_commit_bind hrequest
  · obtain ⟨approvals, hinsert, rfl⟩ :=
      Option.map_eq_some_iff.mp (Transaction.run_eq_ok.mp htx).2
    have hputs := Table.puts_insert hinsert
    obtain ⟨event, table, rest', _, happended, hlast⟩ :=
      stored_record_bind (logged_storesEvents S) hrest
    obtain ⟨e, hrows, haction, hresource⟩ := appended_row happended
    rw [← Prog.bind_pure (reload r.newId)] at hlast
    obtain ⟨_, _, _, hdone⟩ := runs_reload_bind hputs.self hlast
    obtain ⟨_, rfl, rfl⟩ := Prog.runs_pure hdone
    constructor
    · apply (h.insertApproval hputs rfl hnew).extend (extends_events hrows _)
      intro _ a ha hid
      have hfind := S.governance.actions.find?_key ha
      rw [hid, hresource] at hfind
      exact absurd (hfind.symm.trans hnew) (by simp)
    · rintro approval ⟨⟩
      exact ⟨_, hputs.self, rfl⟩
  · exact ⟨h, by rintro _ ⟨⟩⟩

/-- A gate is linked to a pending approval. -/
theorem Trailed.linkApproval {actionId approvalId : String} {r : DbReply} {g : Governance}
    {row : ApprovalRequest} (h : Trailed S) (hfind : S.db.approvals.find? approvalId = some row)
    (hpending : row.status = .pending)
    (happly : (GovernanceChange.linkApproval actionId approvalId).apply r S.governance = some g) :
    Trailed { S with governance := g } := by
  constructor
  · intro a ha
    rcases mem_actions_linkApproval happly ha with hold | ⟨old, hold, _, rfl⟩
    · exact h.apart a hold
    · exact h.apart old hold
  · intro a ha hnone
    rcases mem_actions_linkApproval happly ha with hold | ⟨old, hold, _, rfl⟩
    · exact h.ungated a hold hnone
    · cases hnone
  · intro a ha found hfound hstatus
    rcases mem_actions_linkApproval happly ha with hold | ⟨old, hold, _, rfl⟩
    · exact h.decided a hold found hfound hstatus
    · have hsame : some row = some found := hfind.symm.trans hfound
      cases hsame
      exact absurd hpending hstatus
  · cases happly
    exact h.overridden

theorem linked_of_apply {actionId approvalId : String} {r : DbReply} {g g' : Governance}
    (happly : (GovernanceChange.linkApproval actionId approvalId).apply r g = some g') :
    ∀ a ∈ g'.actions.rows, a.id = actionId → a.approvalId ≠ none := by
  cases happly
  intro a ha hid
  obtain ⟨old, _, rfl⟩ := List.mem_map.mp ha
  by_cases hkey : old.id = actionId
  · rw [if_pos hkey]
    simp
  · rw [if_neg hkey] at hid
    exact absurd hid hkey

theorem keepsTrail_openGate (intake : Intake) (tenantId actor : Option String)
    (actionId : String) : KeepsTrail (openGate intake tenantId actor actionId) := by
  intro S S' trace result h hrun
  unfold openGate at hrun
  rcases Prog.runs_bind hrun with ⟨approval, S₁, _, _, hrequest, hrest, _⟩ | ⟨_, hrequest, _⟩
  · obtain ⟨h₁, hstored⟩ := createRequest_trailed h hrequest
    obtain ⟨row, hfind, hpending⟩ := hstored approval rfl
    obtain ⟨r, _, ⟨g, rest, happly, hlast⟩ | rfl⟩ := runs_changed_bind hrest
    · have h₂ := h₁.linkApproval hfind hpending happly
      rcases Prog.runs_bind hlast with ⟨_, S₃, _, _, haudit, hdone, _⟩ | ⟨_, haudit, _⟩
      all_goals
        obtain ⟨table, happended, rfl⟩ := runs_recordEvent haudit
        obtain ⟨e, hrows, _, hresource⟩ := appended_row happended
        have h₃ := h₂.extend (extends_events hrows fun _ a ha hid =>
          linked_of_apply happly a ha (hid.trans hresource))
      · obtain ⟨_, _, rfl⟩ := Prog.runs_pure hdone
        exact h₃
      · exact h₃
    · exact h₁
  · exact (createRequest_trailed h hrequest).1

theorem keepsTrail_settle (intake : Intake) (tenantId actor : Option String)
    (actionId : String) : KeepsTrail (settle intake tenantId actor actionId) := by
  unfold settle
  rw [intake.not_blocked, if_neg Bool.false_ne_true]
  split
  · exact (keepsTrail_openGate _ _ _ _).bind fun _ => keepsTrail_pure _
  · exact (keepsTrail_audit (by decide)).bind fun _ => keepsTrail_pure _

theorem keepsTrail_submit (tenantId actor : Option String) (intake : Intake) :
    KeepsTrail (submitVendorGovernanceReview tenantId actor intake) := by
  refine (keepsTrail_peek _).bind fun active => ?_
  refine (keepsTrail_createGovernedAction intake tenantId active).bind fun action => ?_
  refine (keepsTrail_createRiskAssessment _ _ _ _).bind fun _ => ?_
  refine (keepsTrail_audit (by decide)).bind fun _ => ?_
  refine (keepsTrail_audit (by decide)).bind fun _ => ?_
  refine (keepsTrail_audit (by decide)).bind fun _ => ?_
  refine (keepsTrail_settle intake tenantId actor action.id).bind fun _ => ?_
  exact (keepsTrail_recordEvidenceArtifact _ _ _ _ _).bind fun _ => keepsTrail_pure _

/-- A decision and its event together keep the trail. -/
theorem Trailed.decide {row : ApprovalRequest} {approvals : ApprovalTable} {e : NewEvent}
    {table : AuditTable} (h : Trailed S) (hputs : S.db.approvals.Puts approvals row)
    (hstored : (S.db.approvals.find? row.id).isSome)
    (happended : Appended e S.db.auditEvents table) (hid : e.resourceId = row.id)
    (haction : e.action ∈ approvalDecisions) :
    Trailed { S with db := { S.db with approvals := approvals, auditEvents := table } } := by
  obtain ⟨event, hrows, heaction, hresource⟩ := appended_row happended
  have hmem : ∀ x, x ∈ table.rows ↔ x ∈ S.db.auditEvents.rows ∨ x = event := by
    intro x
    rw [hrows, List.mem_append, List.mem_singleton]
  have hactions : ∀ a ∈ S.governance.actions.rows, a.id ≠ row.id := by
    intro a ha heq
    have hnone := (h.apart a ha).1
    rw [heq] at hnone
    rw [hnone] at hstored
    cases hstored
  constructor
  · intro a ha
    obtain ⟨hnone, hjobs⟩ := h.apart a ha
    exact ⟨(hputs.other _ (hactions a ha)).trans hnone, hjobs⟩
  · intro a ha hnone x hx hxid
    rcases (hmem x).mp hx with hold | rfl
    · exact h.ungated a ha hnone x hold hxid
    · exact absurd (hxid.symm.trans (hresource.trans hid)) (hactions a ha)
  · intro a ha found hfound hstatus
    obtain ⟨id, hlink, hfind⟩ := Option.bind_eq_some_iff.mp hfound
    by_cases heq : id = row.id
    · refine ⟨event, (hmem event).mpr (Or.inr rfl), ?_, ?_⟩
      · rw [hresource, hid, ← heq, hlink]
      · rw [heaction]
        exact haction
    · have hbefore : approvalOf S.db a = some found := by
        rw [approvalOf, hlink]
        exact (hputs.other _ heq).symm.trans hfind
      obtain ⟨x, hx, hevent⟩ := h.decided a ha found hbefore hstatus
      exact ⟨x, (hmem x).mpr (Or.inl hx), hevent⟩
  · intro override hoverride
    obtain ⟨x, hx, hevent⟩ := h.overridden override hoverride
    exact ⟨x, (hmem x).mpr (Or.inl hx), hevent⟩

theorem recordDecision_trailed {row new : ApprovalRequest} {e : NewEvent}
    {calls : List (Event Call Reply)} {result : Except PyErr ApprovalRequest} {db : Database}
    (h : Trailed S) (hrow : S.db.approvals.find? row.id = some row)
    (hrun : Prog.Runs (inside logged S) (recordDecision row new e) S.db calls result db)
    (hid : new.id = row.id) (hnew : row.updated new row = new) (he : e.resourceId = row.id)
    (haction : e.action ∈ approvalDecisions) : Trailed { S with db := db } := by
  unfold recordDecision at hrun
  obtain ⟨r, rest, _, _, ⟨s₁, htx, hrest⟩ | ⟨_, _, _, _, rfl⟩⟩ := runs_commit_bind hrun
  · have happly := (Transaction.run_eq_ok.mp htx).2
    obtain ⟨approvals, hputs, rfl⟩ : ∃ approvals, S.db.approvals.Puts approvals new ∧
        s₁ = { S.db with approvals := approvals } := by
      cases happly
      exact ⟨_, Table.puts_modify hrow hnew, rfl⟩
    obtain ⟨event, table, rest', _, happended, hlast⟩ :=
      stored_record_bind (logged_storesEvents S) hrest
    rw [← hid] at hlast
    rw [← Prog.bind_pure (reload new.id)] at hlast
    obtain ⟨_, _, _, hdone⟩ := runs_reload_bind hputs.self hlast
    obtain ⟨_, _, rfl⟩ := Prog.runs_pure hdone
    apply h.decide hputs _ happended (he.trans hid.symm) haction
    rw [hid, hrow]
    rfl
  · exact h

theorem keepsTrail_approve (id actor : String) (note tenantId : Option String) :
    KeepsTrail (inPipeline (approve id actor note tenantId)) := by
  intro S S' trace result h hrun
  obtain ⟨calls, db, happrove, rfl⟩ := runs_inside hrun
  rcases runs_approve_checked happrove with ⟨row, now, rest, hfind, _, _, hdecide⟩ | ⟨rfl, _⟩
  · have hrow : S.db.approvals.find? row.id = some row := by
      rw [Table.key_of_find? hfind]
      exact hfind
    exact recordDecision_trailed h hrow hdecide rfl (updated_decided _ _ _ _) rfl
      (by simp [approvedEvent, approvalDecisions])
  · exact h

theorem keepsTrail_reject (id actor reason : String) (tenantId : Option String) :
    KeepsTrail (inPipeline (reject id actor reason tenantId)) := by
  intro S S' trace result h hrun
  obtain ⟨calls, db, hreject, rfl⟩ := runs_inside hrun
  rcases runs_reject_checked hreject with ⟨row, now, rest, hfind, _, hdecide⟩ | ⟨rfl, _⟩
  · have hrow : S.db.approvals.find? row.id = some row := by
      rw [Table.key_of_find? hfind]
      exact hfind
    exact recordDecision_trailed h hrow hdecide rfl (updated_decided _ _ _ _) rfl
      (by simp [rejectedEvent, approvalDecisions])
  · exact h

/-- An override and its event together keep the trail. -/
theorem Trailed.override {row : ActionOverride} {r : DbReply} {g : Governance} {e : NewEvent}
    {table : AuditTable} (h : Trailed S)
    (happly : (GovernanceChange.insertOverride row).apply r S.governance = some g)
    (happended : Appended e S.db.auditEvents table)
    (hid : e.resourceId = row.governedActionId) (haction : e.action ∈ actionDecisions) :
    Trailed { S with
      governance := g
      db := { S.db with auditEvents := table } } := by
  obtain ⟨event, hrows, heaction, hresource⟩ := appended_row happended
  have hmem : ∀ x, x ∈ table.rows ↔ x ∈ S.db.auditEvents.rows ∨ x = event := by
    intro x
    rw [hrows, List.mem_append, List.mem_singleton]
  have hquiet : decides event.action = false := by
    rw [heaction]
    revert haction
    generalize e.action = action
    simp only [actionDecisions, List.mem_cons, List.not_mem_nil, or_false]
    rintro (rfl | rfl) <;> decide
  constructor
  · intro a ha
    rcases mem_actions_insertOverride happly ha with hold | ⟨old, hold, _, rfl⟩
    · exact h.apart a hold
    · exact h.apart old hold
  · intro a ha hnone x hx hxid
    rcases (hmem x).mp hx with hxold | rfl
    · rcases mem_actions_insertOverride happly ha with hold | ⟨old, hold, _, rfl⟩
      · exact h.ungated a hold hnone x hxold hxid
      · exact h.ungated old hold hnone x hxold hxid
    · exact hquiet
  · intro a ha found hfound hstatus
    have hbefore : ∃ x ∈ S.db.auditEvents.rows,
        some x.resourceId = a.approvalId ∧ x.action ∈ approvalDecisions := by
      rcases mem_actions_insertOverride happly ha with hold | ⟨old, hold, _, rfl⟩
      · exact h.decided a hold found hfound hstatus
      · exact h.decided old hold found hfound hstatus
    obtain ⟨x, hx, hevent⟩ := hbefore
    exact ⟨x, (hmem x).mpr (Or.inl hx), hevent⟩
  · intro override hoverride
    obtain ⟨overrides, hinsert, rfl⟩ := Option.map_eq_some_iff.mp happly
    rcases (Table.mem_insert hinsert).mp hoverride with hold | rfl
    · obtain ⟨x, hx, hevent⟩ := h.overridden override hold
      exact ⟨x, (hmem x).mpr (Or.inl hx), hevent⟩
    · refine ⟨event, (hmem event).mpr (Or.inr rfl), hresource.trans hid, ?_⟩
      rw [heaction]
      exact haction

theorem exists_override {row : ActionOverride} {r : DbReply} {g g' : Governance}
    (happly : (GovernanceChange.insertOverride row).apply r g = some g') :
    ∃ new, g'.overrides.find? r.newId = some new := by
  obtain ⟨overrides, hinsert, rfl⟩ := Option.map_eq_some_iff.mp happly
  exact ⟨_, Table.find?_insert_self hinsert⟩

theorem keepsTrail_createOverride (tenantId : Option String) (actionId : String)
    (a : OverrideService.Authorization) :
    KeepsTrail (OverrideService.createOverride tenantId actionId a) := by
  refine (keepsTrail_peek _).bind fun found => ?_
  split
  · exact keepsTrail_raise _
  · refine (keepsTrail_outcome _).bind fun level => ?_
    split
    · exact keepsTrail_raise _
    · intro S S' trace result h hrun
      obtain ⟨r, _, ⟨g, rest, happly, hstored⟩ | rfl⟩ := runs_changed_bind hrun
      · obtain ⟨rest', _, hfound⟩ := runs_peek_bind hstored
        obtain ⟨new, hnew⟩ := exists_override happly
        dsimp only at hfound
        rw [hnew] at hfound
        -- the row is found again, so its event is recorded
        rcases Prog.runs_bind hfound with ⟨row, S₁, _, _, hrow, hevent, _⟩ | ⟨_, hrow, _⟩
        · obtain ⟨_, hvalue, rfl⟩ := Prog.runs_pure hrow
          rcases Prog.runs_bind hevent with ⟨_, S₂, _, _, hrecord, hdone, _⟩ | ⟨_, hrecord, _⟩
          all_goals
            obtain ⟨table, happended, rfl⟩ := runs_recordEvent hrecord
            have h₂ := h.override happly happended rfl (by simp [actionDecisions])
          · obtain ⟨_, _, rfl⟩ := Prog.runs_pure hdone
            exact h₂
          · exact h₂
        · cases (Prog.runs_pure hrow).2.1
      · exact h

/-- The store after any calls in any order, in surroundings in which no audit event is
refused. -/
inductive LoggedRun (start : Store) : Store → Prop where
  | nil : LoggedRun start start
  | call {S S' : Store} (h : LoggedRun start S) (call : ReviewCall)
      {trace : List StoreEvent} {result : Except PyErr Unit}
      (hrun : Prog.Runs logged call.run S trace result S') : LoggedRun start S'

theorem keepsTrail_call (call : ReviewCall) : KeepsTrail call.run := by
  cases call with
  | submit tenantId actor intake =>
      exact (keepsTrail_submit tenantId actor intake).bind fun _ => keepsTrail_pure ()
  | approve id actor note tenantId =>
      exact (keepsTrail_approve id actor note tenantId).bind fun _ => keepsTrail_pure ()
  | reject id actor reason tenantId =>
      exact (keepsTrail_reject id actor reason tenantId).bind fun _ => keepsTrail_pure ()
  | override tenantId actionId a =>
      exact (keepsTrail_createOverride tenantId actionId a).bind fun _ => keepsTrail_pure ()

theorem LoggedRun.trailed {start : Store} (h : LoggedRun start S) (hstart : Trailed start) :
    Trailed S := by
  induction h with
  | nil => exact hstart
  | call _ call hrun ih => exact keepsTrail_call call _ _ _ _ ih hrun

/-- The packet of a score was built from the store. -/
theorem packet_of_scoreAction {settings : Settings} {id : String} {tenantId : Option String}
    {persisting : Bool} {scored : Scored}
    (h : Prog.Runs anyAnswer (scoreAction settings id tenantId persisting) S trace
      (.ok (some scored)) S') :
    ∃ generatedAt packet,
      EvidencePackets.buildActionPacket S generatedAt id tenantId = .ok (some packet) ∧
        scored.result = scorePacket packet settings.appEnv := by
  unfold scoreAction at h
  obtain ⟨now, rest, _, hbuild⟩ := runs_readClock_bind h
  obtain ⟨rest', _, hbuilt⟩ := runs_peek_bind hbuild
  obtain ⟨packet?, S₁, _, _, houtcome, hscore, _⟩ := Prog.runs_bind_ok hbuilt
  obtain ⟨_, hpacket, rfl⟩ := runs_outcome houtcome
  cases packet? with
  | none => cases (Prog.runs_pure hscore).2.1
  | some packet =>
      obtain ⟨value, S₂, _, _, hscored, hdone, _⟩ := Prog.runs_bind_ok hscore
      obtain ⟨_, hvalue, _⟩ := Prog.runs_pure hdone
      cases hvalue
      refine ⟨_, packet, hpacket.symm, ?_⟩
      unfold scoreScope at hscored
      cases persisting with
      | true =>
          obtain ⟨row, _, _, _, _, hlast, _⟩ := Prog.runs_bind_ok hscored
          cases (Prog.runs_pure hlast).2.1
          rfl
      | false =>
          cases (Prog.runs_pure hscored).2.1
          rfl

theorem events_of_graph {tenantId : Option String} {action : GovernedAction}
    {graph : ActionGraph} (hmem : action ∈ S.governance.actions.rows)
    (h : getEvidenceGraph S action.id tenantId = some graph) :
    graph.auditEvents = actionEvents S.db action tenantId := by
  unfold getEvidenceGraph at h
  obtain ⟨found, hfound, hgraph⟩ := Option.bind_eq_some_iff.mp h
  have hstored : S.governance.actions.find? action.id = some found :=
    (Option.filter_eq_some_iff.mp hfound).1
  have hsame := (S.governance.actions.find?_key hmem).symm.trans hstored
  cases hsame
  cases hgraph
  rfl

/-- The events of a packet are of the action or of what is linked to it. -/
theorem event_of_packet {generatedAt : String} {tenantId : Option String}
    {packet : EvidencePackets.Packet} {action : GovernedAction}
    (hmem : action ∈ S.governance.actions.rows)
    (h : EvidencePackets.buildActionPacket S generatedAt action.id tenantId =
      .ok (some packet)) {entry : EvidencePackets.AuditEntry}
    (hentry : entry ∈ packet.auditEvents) :
    ∃ e ∈ S.db.auditEvents.rows, e.action = entry.action ∧
      e.resourceId ∈ resourceIds action := by
  unfold EvidencePackets.buildActionPacket at h
  split at h
  · cases h
  · next graph hgraph =>
      obtain ⟨verification, _, hpacket⟩ := except_bind h
      cases hpacket
      obtain ⟨shown, hshown, hsame⟩ := List.mem_flatMap.mp hentry
      rw [List.mem_singleton.mp hshown, events_of_graph hmem hgraph] at hsame
      obtain ⟨e, he, rfl⟩ := List.mem_map.mp hsame
      rw [actionEvents, List.mem_insertionSort, List.mem_filter, Bool.and_eq_true] at he
      exact ⟨e, he.1, rfl, List.contains_iff_mem.mp he.2.1⟩

theorem Trailed.claimsOnlyDecided {action : GovernedAction} (h : Trailed S)
    (hmem : action ∈ S.governance.actions.rows) (hsettled : Settled S action) :
    ClaimsOnlyDecided S action := by
  intro settings tenantId persisting trace scored S' hrun hclaims
  obtain ⟨generatedAt, packet, hpacket, hresult⟩ := packet_of_scoreAction hrun
  rcases hsettled with hnone | ⟨row, hrow, hstatus⟩ | ⟨row, hrow, hid⟩
  · -- no event of an action without an approval passes for a decision
    rw [hresult] at hclaims
    obtain ⟨entry, hentry, hdecides⟩ := decides_of_claims hclaims
    obtain ⟨e, he, haction, hresource⟩ := event_of_packet hmem hpacket hentry
    obtain ⟨_, hsource, hexecution⟩ := h.apart action hmem
    have hid : e.resourceId = action.id := by
      rw [resourceIds, hnone, hsource, hexecution] at hresource
      exact List.mem_singleton.mp (List.mem_filter.mp hresource).1
    have hquiet := h.ungated action hmem hnone e he hid
    rw [haction, hdecides] at hquiet
    cases hquiet
  · obtain ⟨e, he, hevent⟩ := h.decided action hmem row hrow hstatus
    exact ⟨e, he, Or.inl hevent⟩
  · obtain ⟨e, he, hresource, haction⟩ := h.overridden row hrow
    exact ⟨e, he, Or.inr ⟨hresource.trans hid, haction⟩⟩

/-- In every store that the calls reach from one without actions and overrides, the score of an
action that does not wait for its approval claims a decision only if there is one in the audit
trail. -/
theorem settled_claims_only_decided {start : Store}
    (hactions : start.governance.actions.rows = [])
    (hoverrides : start.governance.overrides.rows = []) (h : LoggedRun start S)
    {action : GovernedAction} (hmem : action ∈ S.governance.actions.rows)
    (hsettled : Settled S action) : ClaimsOnlyDecided S action :=
  (h.trailed (.of_nothing hactions hoverrides)).claimsOnlyDecided hmem hsettled

/-- A packet that can be built is scored. -/
theorem runs_scoreAction {settings : Settings} {id : String} {tenantId : Option String}
    {packet : EvidencePackets.Packet} (m : Moment)
    (h : EvidencePackets.buildActionPacket S (Datetime.utc m).isoformat id tenantId =
      .ok (some packet)) :
    Prog.Runs anyAnswer (scoreAction settings id tenantId false) S
      [⟨.clock, m⟩, ⟨.select, ()⟩] (.ok (some (unstored (scorePacket packet settings.appEnv)
        "governed_action" id))) S := by
  constructor
  · trivial
  · constructor
    · trivial
    · dsimp only
      rw [h]
      exact .pure _ _

omit [Deployment] in
theorem claims_of_events {packet : EvidencePackets.Packet} {appEnv : AppEnv}
    (hsubmits : packet.auditEvents.any (fun e => submits e.action) = true)
    (hdecides : packet.auditEvents.any (fun e => decides e.action) = true) :
    ClaimsDecision (scorePacket packet appEnv) := by
  refine ⟨_, dimension?_traceability packet appEnv, ?_⟩
  unfold scoreExecutionTraceability
  rw [hsubmits, hdecides]
  rfl

/-- A caller of its tenant is told that the action was decided if its events have a
submission and anything that passes for a decision. -/
theorem exists_claim {action : GovernedAction} {t : String} (settings : Settings)
    (m : Moment) (hmem : action ∈ S.governance.actions.rows) (htenant : action.tenantId = some t)
    (hdated : ∀ e ∈ S.db.auditEvents.rows, e.createdAt.utcText.isSome)
    (hsubmits : (actionEvents S.db action (some t)).any (fun e => submits e.action) = true)
    (hdecides : (actionEvents S.db action (some t)).any (fun e => decides e.action) = true) :
    ∃ trace scored, Prog.Runs anyAnswer (scoreAction settings action.id (some t) false) S trace
      (.ok (some scored)) S ∧ ClaimsDecision scored.result := by
  have hfound : getGovernedAction S.governance action.id (some t) = some action := by
    rw [getGovernedAction, S.governance.actions.find?_key hmem, ifScoped, Option.filter_some,
      htenant, inScope_self, if_pos rfl]
  obtain ⟨graph, hgraph⟩ : ∃ graph, getEvidenceGraph S action.id (some t) = some graph := by
    unfold getEvidenceGraph
    dsimp only
    rw [hfound]
    exact ⟨_, rfl⟩
  obtain ⟨verification, hverify⟩ := verifyTenantEvents_isOk t hdated
  obtain ⟨packet, hpacket, hentries⟩ : ∃ packet,
      EvidencePackets.buildActionPacket S (Datetime.utc m).isoformat action.id (some t) =
        .ok (some packet) ∧
      packet.auditEvents = graph.auditEvents.map EvidencePackets.auditEntry := by
    unfold EvidencePackets.buildActionPacket EvidencePackets.verify
    rw [hgraph]
    dsimp only
    rw [hverify]
    exact ⟨_, rfl, List.append_nil _⟩
  refine ⟨_, _, runs_scoreAction m hpacket, ?_⟩
  rw [events_of_graph hmem hgraph] at hentries
  apply claims_of_events
  · rw [hentries, List.any_map]
    exact hsubmits
  · rw [hentries, List.any_map]
    exact hdecides

end

section Sample

open PolicyVersionService

local instance instTrailDeployment : Deployment := instViewsDeployment

local instance instLogged (q : StoreCall) (r : StoreReply q) (S : Store) :
    Decidable (logged q r S) :=
  match q, r with
  | .clock, _ => inferInstanceAs (Decidable True)
  | .select, _ => inferInstanceAs (Decidable True)
  | .commit _, (r : DbReply) => inferInstanceAs
      (Decidable (S.db.approvals.find? r.newId = none ∧
        ∀ e ∈ S.db.auditEvents.rows, e.resourceId ≠ r.newId))
  | .pipeline (.commit tx), (r : DbReply) =>
      match tx with
      | .insertAudit row => inferInstanceAs
          (Decidable (r.failure = none ∧ ((Transaction.insertAudit row).apply r S.db).isSome))
      | .insertApproval _ | .updateApproval _ _ | .insertJob _ | .updateJob _ _
        | .insertDelivery _ | .updateDelivery _ _ | .insertThread _ | .updateThread _ _ =>
          inferInstanceAs (Decidable (S.governance.actions.find? r.newId = none))
  | .pipeline (.select _), _ => inferInstanceAs (Decidable True)
  | .pipeline (.createDraft _ _ _), _ => inferInstanceAs (Decidable True)
  | .pipeline (.readThread _), _ => inferInstanceAs (Decidable True)
  | .pipeline (.sendApprovedDraft _ _), _ => inferInstanceAs (Decidable True)

/-- Each audit event of the two calls is stored. -/
theorem calls_logged :
    (ReviewCall.submit (some "t1") none exposedIntake).run.admits logged steadyAnswers 0 {} =
      true ∧
    approveCall.run.admits logged steadyAnswers 100 awaiting = true := by
  decide +kernel

theorem awaiting_logged : LoggedRun {} awaiting :=
  .call .nil (.submit (some "t1") none exposedIntake) (Prog.runs_of_admits calls_logged.1)

theorem approved_logged : LoggedRun {} approved :=
  .call awaiting_logged approveCall (Prog.runs_of_admits calls_logged.2)

/-- After its approval the review is settled. -/
theorem approved_claims_decided : approved.governance.actions.rows ≠ [] ∧
    ∀ action ∈ approved.governance.actions.rows, ClaimsOnlyDecided approved action := by
  obtain ⟨_, _, hfiled, hdecided⟩ := reviews_stored
  refine ⟨hfiled, ?_⟩
  intro action haction
  apply settled_claims_only_decided rfl rfl approved_logged haction
  have hpassed := of_decide_eq_true (List.all_eq_true.mp hdecided action haction)
  obtain ⟨row, hrow, hstatus⟩ := (Option.any_eq_true _ _).mp hpassed.2
  exact Or.inr (Or.inl ⟨row, hrow, of_decide_eq_true hstatus⟩)

/-- The trail of the awaiting run: no decision, every event dated, and an action whose events
are read as a submission and as a decision. -/
theorem awaiting_trail :
    (awaiting.db.auditEvents.rows.all fun e =>
      !(approvalDecisions ++ actionDecisions).contains e.action) ∧
    (awaiting.db.auditEvents.rows.all fun e => e.createdAt.utcText.isSome) ∧
    awaiting.governance.actions.rows.any fun action =>
      action.tenantId = some "t1" &&
        (actionEvents awaiting.db action (some "t1")).any (fun e => submits e.action) &&
        (actionEvents awaiting.db action (some "t1")).any fun e => decides e.action := by
  decide +kernel

theorem awaiting_undecided : awaiting.db.auditEvents.rows.all fun e =>
    !(approvalDecisions ++ actionDecisions).contains e.action :=
  awaiting_trail.1

theorem awaiting_dated : awaiting.db.auditEvents.rows.all fun e =>
    e.createdAt.utcText.isSome :=
  awaiting_trail.2.1

theorem awaiting_events : awaiting.governance.actions.rows.any fun action =>
    action.tenantId = some "t1" &&
      (actionEvents awaiting.db action (some "t1")).any (fun e => submits e.action) &&
      (actionEvents awaiting.db action (some "t1")).any fun e => decides e.action :=
  awaiting_trail.2.2

/-- Before any decision the score claims one. -/
theorem pending_claims_decision : ¬∀ (S : Store) (action : GovernedAction), LoggedRun {} S →
    action ∈ S.governance.actions.rows → ClaimsOnlyDecided S action := by
  intro hclaim
  obtain ⟨action, haction, hevents⟩ := List.any_eq_true.mp awaiting_events
  rw [Bool.and_eq_true, Bool.and_eq_true, decide_eq_true_eq] at hevents
  obtain ⟨⟨htenant, hsubmits⟩, hdecides⟩ := hevents
  obtain ⟨trace, scored, hrun, hclaims⟩ := exists_claim {} (steadyClock 0) haction htenant
    (List.all_eq_true.mp awaiting_dated) hsubmits hdecides
  obtain ⟨e, he, hdecision⟩ :=
    hclaim awaiting action awaiting_logged haction _ _ _ _ _ _ hrun hclaims
  have hnone := List.all_eq_true.mp awaiting_undecided e he
  rw [Bool.not_eq_true', ← Bool.not_eq_true, List.contains_iff_mem, List.mem_append] at hnone
  rcases hdecision with ⟨_, haction⟩ | ⟨_, haction⟩
  · exact hnone (Or.inl haction)
  · exact hnone (Or.inr haction)

end Sample

end GovernanceWorkflow

end ControlPlane
