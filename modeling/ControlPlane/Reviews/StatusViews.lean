import ControlPlane.App.Requests
import ControlPlane.Db.Frames
import ControlPlane.Policies.Registry
import ControlPlane.Services.GovernanceWorkflow
import ControlPlane.Services.OverrideService

/-!
The status of a governance review, as four reads report it. `get_run` derives it
from the approval and does not know overrides, `list_runs` reports the column of
the action, which no decision updates, and the packet and the replay put an
override first and the approval second.
-/

namespace ControlPlane

open Lib EvidenceGraph

namespace GovernanceWorkflow

/-- One of the reads reports the status for the action, to its own tenant. -/
inductive Reports [Deployment] (S : Store) (action : GovernedAction) : String → Prop where
  | run {view : RunView} (h : getRun S action.id action.tenantId = .ok (some view)) :
      Reports S action view.status
  | list {entry : RunEntry} (h : entry ∈ listRuns S.governance action.tenantId)
      (hid : entry.governedActionId = action.id) : Reports S action entry.status
  | packet {generatedAt : String} {packet : EvidencePackets.Packet}
      {entry : EvidencePackets.ActionEntry}
      (h : EvidencePackets.buildActionPacket S generatedAt action.id action.tenantId =
        .ok (some packet)) (hentry : packet.governedActions.head? = some entry) :
      Reports S action entry.status
  | replay {generatedAt : String} {replay : IncidentReplay.Replay}
      (h : IncidentReplay.buildIncidentReplay S generatedAt action.id action.tenantId =
        .ok (some replay)) : Reports S action replay.status

/-- All reads report the same. -/
def Agree [Deployment] (S : Store) (action : GovernedAction) : Prop :=
  ∀ status status', Reports S action status → Reports S action status' → status = status'

/-- The action is not overridden, and its approval, if it needs one, is linked and
not decided. -/
def Undecided (S : Store) (action : GovernedAction) : Prop :=
  action.status ≠ overrideRecorded ∧ (action.status = "pending_approval" →
    ∃ id row, action.approvalId = some id ∧ S.db.approvals.find? id = some row ∧
      row.status = .pending)

/-- What later calls keep of the row of a submitted action. -/
structure SubmittedAs (intake : Intake) (action : GovernedAction) : Prop where
  kind : action.actionType = actionType
  policy : ∃ fields, metaField action "policy" = .obj fields ∧
    Dict.get? fields "blocked" = some (.bool intake.policy.blocked)
  status : action.status = intake.status ∨ action.status = overrideRecorded
  gate : action.approvalId ≠ none → intake.requiresApproval = true

/-- An action was submitted, and its linked approval belongs to its tenant. -/
structure Reviewed (db : Database) (action : GovernedAction) : Prop where
  submitted : ∃ intake, SubmittedAs intake action
  linked : ∀ id, action.approvalId = some id → id ≠ "" ∧
    ∃ row, db.approvals.find? id = some row ∧ row.tenantId = action.tenantId

def AllReviewed (S : Store) : Prop :=
  ∀ action ∈ S.governance.actions.rows, Reviewed S.db action

/-- Approvals stay, with their tenants. -/
def ApprovalsKept (db db' : Database) : Prop :=
  ∀ id row, db.approvals.find? id = some row →
    ∃ row', db'.approvals.find? id = some row' ∧ row'.tenantId = row.tenantId

theorem ApprovalsKept.refl (db : Database) : ApprovalsKept db db :=
  fun _ row h => ⟨row, h, rfl⟩

theorem ApprovalsKept.trans {db db' db'' : Database} (h : ApprovalsKept db db')
    (h' : ApprovalsKept db' db'') : ApprovalsKept db db'' := by
  intro id row hrow
  obtain ⟨row', hrow', htenant⟩ := h id row hrow
  obtain ⟨row'', hrow'', htenant'⟩ := h' id row' hrow'
  exact ⟨row'', hrow'', htenant'.trans htenant⟩

theorem approvalsKept_apply [Deployment] {tx : Transaction} {r : DbReply} {db db' : Database}
    (h : tx.apply r db = some db') : ApprovalsKept db db' := by
  by_cases htarget : tx.target = .approvals
  · intro id row hrow
    cases tx with
    | insertApproval new =>
        obtain ⟨hfresh, _, hother⟩ := Transaction.find_insertApproval h
        have hne : id ≠ r.newId := by
          rintro rfl
          rw [hfresh] at hrow
          cases hrow
        exact ⟨row, (hother id hne).trans hrow, rfl⟩
    | updateApproval loaded new =>
        have hfind := Transaction.find_updateApproval h id
        rw [hrow, Option.map_some] at hfind
        refine ⟨_, hfind, ?_⟩
        split <;> rfl
    | insertAudit | insertJob | updateJob | insertDelivery | updateDelivery
      | insertThread | updateThread => cases htarget
  · have hsame := Transaction.approvals_of_apply h htarget
    intro id row hrow
    rw [hsame]
    exact ⟨row, hrow, rfl⟩

theorem approvalsKept_write [Deployment] (call : Call) (r : Reply call) (db : Database) :
    ApprovalsKept db (call.write r db) := by
  cases call with
  | select query => exact .refl db
  | createDraft threadId subject body => exact .refl db
  | readThread threadId => exact .refl db
  | sendApprovedDraft approvalId draftId => exact .refl db
  | commit tx =>
      change ApprovalsKept db (tx.write r db)
      cases hrun : tx.run r db with
      | error e =>
          rw [Transaction.write_of_error hrun]
          exact .refl db
      | ok db' =>
          rw [Transaction.write_of_ok hrun]
          exact approvalsKept_apply (Transaction.run_eq_ok.mp hrun).2

/-- The actions are as before, and approvals stay. -/
def Frame (S S' : Store) : Prop :=
  S'.governance.actions = S.governance.actions ∧ ApprovalsKept S.db S'.db

theorem Frame.refl (S : Store) : Frame S S := ⟨rfl, .refl _⟩

theorem Frame.trans {S S' S'' : Store} (h : Frame S S') (h' : Frame S' S'') :
    Frame S S'' :=
  ⟨h'.1.trans h.1, h.2.trans h'.2⟩

def Framed {α : Type} (p : StoreSession α) : Prop :=
  p.Uses fun _ w => ∀ r S, Frame S (w r S)

section

variable {α β : Type} {adm : (q : StoreCall) → StoreReply q → Store → Prop} {S S' : Store}
  {trace : List StoreEvent}

theorem Framed.bind {p : StoreSession α} {k : α → StoreSession β} (hp : Framed p)
    (hk : ∀ value, Framed (k value)) : Framed (p.bind k) :=
  Prog.Uses.bind hp hk

theorem framed_pure (value : α) : Framed (.pure value) := trivial

theorem framed_peek (read : Store → α) : Framed (peek read) :=
  ⟨fun _ S => .refl S, fun _ _ => trivial⟩

theorem framed_foundAgain (row : Option α) : Framed (foundAgain row) := by
  cases row <;> trivial

theorem framed_inPipeline [Deployment] {C : Call → Prop} {p : Session α} (hp : Calls C p) :
    Framed (inPipeline p) := by
  induction p with
  | pure value => trivial
  | raise error => trivial
  | act call write next ih =>
      obtain ⟨⟨hwrite, _⟩, hnext⟩ := hp
      refine ⟨fun r S => ⟨rfl, ?_⟩, fun r S => ih r S.db (hnext r S.db)⟩
      rw [hwrite]
      exact approvalsKept_write call r S.db

theorem framed_recordEvent [Deployment] (e : AuditService.NewEvent) : Framed (recordEvent e) :=
  framed_inPipeline (record_calls e)

theorem framed_commitChange [Deployment] {change : GovernanceChange}
    (h : ∀ r g g', change.apply r g = some g' → g'.actions = g.actions) :
    Framed (commitChange change) := by
  refine ⟨?_, ?_⟩
  · intro r S
    unfold GovernanceChange.write
    cases hrun : change.run r S with
    | error e => exact .refl S
    | ok S' =>
        obtain ⟨_, g, happly, rfl⟩ := GovernanceChange.run_eq_ok hrun
        exact ⟨h r _ g happly, .refl _⟩
  · intro r S
    dsimp only
    cases change.run r S <;> trivial

theorem Framed.run {p : StoreSession α} (hp : Framed p) {result : Except PyErr α}
    (h : Prog.Runs adm p S trace result S') : Frame S S' :=
  Prog.Uses.run .refl (fun _ _ _ => .trans) (fun _ _ hw r S => hw r S) hp h

/-- A framed first part: the rest runs in a store that it left alone. -/
theorem Framed.run_bind {p : StoreSession α} {k : α → StoreSession β} (hp : Framed p)
    {result : Except PyErr β} (h : Prog.Runs adm (p.bind k) S trace result S') :
    Frame S S' ∨ ∃ value S₁ trace₁ trace₂, Frame S S₁ ∧
      Prog.Runs adm p S trace₁ (.ok value) S₁ ∧
      Prog.Runs adm (k value) S₁ trace₂ result S' := by
  rcases Prog.runs_bind h with ⟨value, S₁, trace₁, trace₂, hfirst, hrest, _⟩ |
      ⟨e, hfirst, _⟩
  · exact Or.inr ⟨value, S₁, trace₁, trace₂, hp.run hfirst, hfirst, hrest⟩
  · exact Or.inl (hp.run hfirst)

end

theorem Reviewed.frame {db db' : Database} {action : GovernedAction}
    (h : Reviewed db action) (hkept : ApprovalsKept db db') : Reviewed db' action := by
  refine ⟨h.submitted, fun id hid => ?_⟩
  obtain ⟨hne, row, hrow, htenant⟩ := h.linked id hid
  obtain ⟨row', hrow', htenant'⟩ := hkept id row hrow
  exact ⟨hne, row', hrow', htenant'.trans htenant⟩

theorem AllReviewed.frame {S S' : Store} (h : AllReviewed S) (hframe : Frame S S') :
    AllReviewed S' := by
  intro action haction
  rw [hframe.1] at haction
  exact (h action haction).frame hframe.2

theorem Intake.not_blocked (intake : Intake) : intake.policy.blocked = false := by
  unfold Intake.policy Intake.category policyCategoryFor
  dsimp only
  split <;> rfl

/-- A submission stores one of two statuses. -/
theorem Intake.status_eq (intake : Intake) : intake.status =
    if intake.requiresApproval then "pending_approval" else "cleared" := by
  rw [Intake.status, intake.not_blocked, if_neg Bool.false_ne_true]

/-- The approval that the graph shows for an action. -/
def approvalOf (db : Database) (action : GovernedAction) : Option ApprovalRequest :=
  action.approvalId.bind fun id => db.approvals.find? id

def approvalText : ApprovalStatus → String
  | .pending => "pending_approval"
  | .approved => "approved"
  | .rejected => "rejected"

/-- What `get_run` reports for an action that was not blocked. -/
def runText (db : Database) (action : GovernedAction) : String :=
  ((approvalOf db action).map fun row => approvalText row.status).getD "cleared"

section

variable [Deployment] {S : Store} {action : GovernedAction}

omit [Deployment] in
theorem inScope_self (tenantId : Option String) : inScope tenantId tenantId = true := by
  cases tenantId <;> simp [inScope]

theorem graph_of_reviewed (hmem : action ∈ S.governance.actions.rows)
    (h : Reviewed S.db action) :
    ∃ graph, getEvidenceGraph S action.id action.tenantId = some graph ∧
      graph.governedAction = action ∧ graph.approval = approvalOf S.db action := by
  have hfind : getGovernedAction S.governance action.id action.tenantId = some action := by
    rw [getGovernedAction, S.governance.actions.find?_key hmem, ifScoped,
      Option.filter_some, inScope_self, if_pos rfl]
  have happroval : linked action.approvalId (fun id =>
      ifScoped ApprovalRequest.tenantId action.tenantId (S.db.approvals.find? id)) =
        approvalOf S.db action := by
    unfold linked approvalOf
    cases hid : action.approvalId with
    | none => rfl
    | some id =>
        obtain ⟨hne, row, hrow, htenant⟩ := h.linked id hid
        have hnot : falsy (some id) = false := by simp [falsy, hne]
        rw [hnot, if_neg Bool.false_ne_true, Option.bind_some, Option.bind_some, hrow,
          ifScoped, Option.filter_some, htenant, inScope_self, if_pos rfl]
  unfold getEvidenceGraph
  dsimp only
  rw [hfind]
  exact ⟨_, rfl, rfl, happroval⟩

omit [Deployment] in
theorem runStatus_reviewed (h : Reviewed S.db action) :
    runStatus action (approvalOf S.db action) = .ok (runText S.db action) := by
  obtain ⟨intake, hsubmitted⟩ := h.submitted
  obtain ⟨fields, hpolicy, hblocked⟩ := hsubmitted.policy
  unfold runStatus runText approvalOf
  rw [hpolicy, Json.getField, hblocked, intake.not_blocked]
  cases hid : action.approvalId with
  | none => rfl
  | some id =>
      obtain ⟨_, row, hrow, _⟩ := h.linked id hid
      simp only [Option.bind_some, hrow, Option.map_some, Option.getD_some]
      cases row.status <;> rfl

/-- A packet has one entry, for the action of the graph. -/
theorem packet_actions {generatedAt id : String} {tenantId : Option String}
    {graph : ActionGraph} {packet : EvidencePackets.Packet}
    (hgraph : getEvidenceGraph S id tenantId = some graph)
    (h : EvidencePackets.buildActionPacket S generatedAt id tenantId = .ok (some packet)) :
    packet.governedActions = [EvidencePackets.actionEntry graph] := by
  unfold EvidencePackets.buildActionPacket at h
  rw [hgraph] at h
  dsimp only at h
  cases hverify : EvidencePackets.verify S tenantId with
  | error e =>
      rw [hverify] at h
      cases h
  | ok verification =>
      rw [hverify] at h
      cases h
      rfl

omit [Deployment] in
theorem except_bind {α β : Type} {x : Except PyErr α} {f : α → Except PyErr β} {b : β}
    (h : x >>= f = .ok b) : ∃ a, x = .ok a ∧ f a = .ok b := by
  cases x with
  | error e => cases h
  | ok a => exact ⟨a, rfl, h⟩

/-- A replay shows the status of the packet. -/
theorem replay_status {generatedAt id : String} {tenantId : Option String}
    {graph : ActionGraph} {replay : IncidentReplay.Replay}
    (hgraph : getEvidenceGraph S id tenantId = some graph)
    (h : IncidentReplay.buildIncidentReplay S generatedAt id tenantId =
      .ok (some replay)) :
    replay.status = (EvidencePackets.actionEntry graph).status := by
  unfold IncidentReplay.buildIncidentReplay at h
  rw [hgraph] at h
  dsimp only at h
  obtain ⟨built, hpacket, h₁⟩ := except_bind h
  cases built with
  | none => cases h₁
  | some packet =>
      have hactions := packet_actions hgraph hpacket
      obtain ⟨_, _, h₂⟩ := except_bind h₁
      obtain ⟨_, _, h₃⟩ := except_bind h₂
      obtain ⟨_, _, h₄⟩ := except_bind h₃
      obtain ⟨_, _, h₅⟩ := except_bind h₄
      cases h₅
      rw [hactions]
      rfl

theorem reports_run (hmem : action ∈ S.governance.actions.rows)
    (h : Reviewed S.db action) : Reports S action (runText S.db action) := by
  obtain ⟨graph, hgraph, haction, happroval⟩ := graph_of_reviewed hmem h
  have hstatus := runStatus_reviewed h
  have hrun : ∃ view, getRun S action.id action.tenantId = .ok (some view) ∧
      view.status = runText S.db action := by
    unfold getRun
    rw [hgraph]
    dsimp only
    rw [haction, happroval, hstatus]
    exact ⟨_, rfl, rfl⟩
  obtain ⟨view, hview, heq⟩ := hrun
  rw [← heq]
  exact .run hview

theorem reports_list (hmem : action ∈ S.governance.actions.rows)
    (h : Reviewed S.db action) : Reports S action action.status := by
  obtain ⟨intake, hsubmitted⟩ := h.submitted
  have hentry : runEntry action ∈ listRuns S.governance action.tenantId := by
    apply List.mem_map_of_mem
    rw [List.mem_filter, listGovernedActions, mem_newestFirst, List.mem_filter]
    simp [hmem, inScope_self, hsubmitted.kind]
  exact .list hentry rfl

/-- Nothing else is reported. -/
theorem reports_cases (hmem : action ∈ S.governance.actions.rows)
    (h : Reviewed S.db action) {status : String} (hreports : Reports S action status) :
    status = runText S.db action ∨ status = action.status ∨
      status = EvidencePackets.effectiveActionStatus action (approvalOf S.db action) := by
  obtain ⟨graph, hgraph, haction, happroval⟩ := graph_of_reviewed hmem h
  cases hreports with
  | @run view hview =>
      left
      unfold getRun at hview
      rw [hgraph] at hview
      dsimp only at hview
      rw [haction, happroval, runStatus_reviewed h] at hview
      cases hview
      rfl
  | @list entry hentry hid =>
      right
      left
      obtain ⟨other, hother, rfl⟩ := List.mem_map.mp hentry
      rw [List.mem_filter, listGovernedActions, mem_newestFirst, List.mem_filter] at hother
      have hsame := List.inj_on_of_nodup_map S.governance.actions.key_nodup hother.1.1 hmem
        hid
      rw [← hsame]
      rfl
  | @packet generatedAt packet entry hpacket hentry =>
      rw [packet_actions hgraph hpacket] at hentry
      cases hentry
      rw [EvidencePackets.actionEntry, haction, happroval]
      exact Or.inr (Or.inr rfl)
  | @replay generatedAt replay hreplay =>
      have hstatus := replay_status hgraph hreplay
      rw [hstatus, EvidencePackets.actionEntry, haction, happroval]
      exact Or.inr (Or.inr rfl)

omit [Deployment] in
theorem runText_ne_override (db : Database) (action : GovernedAction) :
    runText db action ≠ overrideRecorded := by
  unfold runText
  cases approvalOf db action with
  | none => simp [overrideRecorded]
  | some row =>
      rw [Option.map_some, Option.getD_some]
      cases row.status <;> simp [approvalText, overrideRecorded]

omit [Deployment] in
/-- `get_run` reports a pending approval only where there is one. -/
theorem pending_of_runText {db : Database}
    (h : runText db action = "pending_approval") : ∃ id row,
      action.approvalId = some id ∧ db.approvals.find? id = some row ∧
        row.status = .pending := by
  unfold runText at h
  cases happroval : approvalOf db action with
  | none =>
      rw [happroval] at h
      simp at h
  | some row =>
      rw [happroval, Option.map_some, Option.getD_some] at h
      obtain ⟨id, hid, hrow⟩ := Option.bind_eq_some_iff.mp happroval
      refine ⟨id, row, hid, hrow, ?_⟩
      cases hstatus : row.status with
      | pending => rfl
      | approved =>
          rw [hstatus] at h
          simp [approvalText] at h
      | rejected =>
          rw [hstatus] at h
          simp [approvalText] at h

omit [Deployment] in
/-- Before a decision every read reports the stored status. -/
theorem texts_of_undecided (h : Reviewed S.db action) (hundecided : Undecided S action) :
    runText S.db action = action.status ∧
      EvidencePackets.effectiveActionStatus action (approvalOf S.db action) =
        action.status := by
  obtain ⟨hoverride, hpending⟩ := hundecided
  obtain ⟨intake, hsubmitted⟩ := h.submitted
  have hstatus := hsubmitted.status.resolve_right hoverride
  rw [intake.status_eq] at hstatus
  unfold EvidencePackets.effectiveActionStatus
  rw [if_neg hoverride]
  cases hrequires : intake.requiresApproval with
  | true =>
      rw [hrequires, if_pos rfl] at hstatus
      obtain ⟨id, row, hid, hrow, hrowstatus⟩ := hpending hstatus
      have happroval : approvalOf S.db action = some row := by
        rw [approvalOf, hid]
        exact hrow
      rw [runText, happroval, hstatus]
      simp [hrowstatus, approvalText]
  | false =>
      rw [hrequires, if_neg Bool.false_ne_true] at hstatus
      have hnone : action.approvalId = none := by
        by_contra hsome
        have := hsubmitted.gate hsome
        rw [hrequires] at this
        cases this
      have happroval : approvalOf S.db action = none := by
        rw [approvalOf, hnone]
        rfl
      rw [runText, happroval, hstatus]
      exact ⟨rfl, rfl⟩

theorem agree_iff_undecided (hmem : action ∈ S.governance.actions.rows)
    (h : Reviewed S.db action) : Agree S action ↔ Undecided S action := by
  constructor
  · intro hagree
    have heq := hagree _ _ (reports_run hmem h) (reports_list hmem h)
    constructor
    · intro hoverride
      exact runText_ne_override S.db action (heq.trans hoverride)
    · intro hpending
      exact pending_of_runText (heq.trans hpending)
  · intro hundecided status status' hstatus hstatus'
    obtain ⟨hrun, hpacket⟩ := texts_of_undecided h hundecided
    have hsame : ∀ s, Reports S action s → s = action.status := by
      intro s hs
      rcases reports_cases hmem h hs with rfl | rfl | rfl
      · exact hrun
      · rfl
      · exact hpacket
    exact (hsame status hstatus).trans (hsame status' hstatus').symm

end

section

variable [Deployment] {S S' : Store} {trace : List StoreEvent}

/-- New rows get the ids of `uuid4`, which are not empty. -/
def newIds : (q : StoreCall) → StoreReply q → Store → Prop
  | .commit _, (r : DbReply), _ => r.newId ≠ ""
  | .pipeline (.commit _), (r : DbReply), _ => r.newId ≠ ""
  | _, _, _ => True

theorem runs_pipelineCommit {tx : Transaction} {result : Except PyErr DbReply}
    (h : Prog.Runs newIds (inPipeline (commit tx)) S trace result S') :
    ∃ r : DbReply, r.newId ≠ "" ∧ ∀ value, result = .ok value → value = r ∧
      ∃ db, tx.run r S.db = .ok db ∧ S' = { S with db := db } := by
  cases h with
  | act r hadm hrest =>
      refine ⟨r, hadm, ?_⟩
      cases hrun : tx.run r S.db with
      | ok db =>
          simp only [hrun] at hrest
          obtain ⟨_, rfl, rfl⟩ := Prog.runs_pure hrest
          rintro value ⟨⟩
          exact ⟨rfl, db, rfl, by rw [Transaction.write_of_ok hrun]⟩
      | error e =>
          simp only [hrun] at hrest
          obtain ⟨_, rfl, _⟩ := Prog.runs_raise hrest
          rintro value ⟨⟩

omit [Deployment] in
theorem runs_reload {adm : (q : StoreCall) → StoreReply q → Store → Prop} {id : String}
    {row : ApprovalRequest}
    (h : Prog.Runs adm (inPipeline (ApprovalService.reload id)) S trace (.ok row) S') :
    S' = S ∧ S.db.approvals.find? id = some row := by
  cases h with
  | act r _ hrest =>
      have hread : Prog.Runs adm (inPipeline (JobService.found
          ((S.db.approval? (.str id)).filter fun found =>
            (none : Option String) = none ∨ found.tenantId = none))) S _ (.ok row) S' :=
        hrest
      cases hfind : S.db.approvals.find? id with
      | none =>
          rw [Database.approval?_str, hfind] at hread
          obtain ⟨_, hresult, _⟩ := Prog.runs_raise hread
          cases hresult
      | some found =>
          rw [Database.approval?_str, hfind] at hread
          obtain ⟨_, hresult, rfl⟩ := Prog.runs_pure hread
          cases hresult
          exact ⟨rfl, rfl⟩

/-- A requested approval is stored for the tenant it was requested for. -/
theorem createRequest_stored {kind jobId : String} {tenantId : Option String}
    {payload : Dict} {approval : ApprovalRequest}
    (h : Prog.Runs newIds (inPipeline (ApprovalService.createRequest kind tenantId jobId
      payload)) S trace (.ok approval) S') :
    approval.id ≠ "" ∧ ∃ row, S'.db.approvals.find? approval.id = some row ∧
      row.tenantId = tenantId := by
  unfold ApprovalService.createRequest at h
  rw [Prog.bind_eq, inPipeline_bind] at h
  obtain ⟨r, S₁, trace₁, trace₂, hcommit, hrest, _⟩ := Prog.runs_bind_ok h
  obtain ⟨r', hid, hok⟩ := runs_pipelineCommit hcommit
  obtain ⟨rfl, db, hrun, rfl⟩ := hok r rfl
  obtain ⟨_, hstored, _⟩ := Transaction.find_insertApproval (Transaction.run_eq_ok.mp hrun).2
  rw [Prog.bind_eq, inPipeline_bind] at hrest
  obtain ⟨event, S₂, trace₃, trace₄, hrecord, hreload, _⟩ := Prog.runs_bind_ok hrest
  have hframe := (framed_inPipeline (record_calls _)).run hrecord
  obtain ⟨rfl, hfind⟩ := runs_reload hreload
  obtain ⟨row, hrow, htenant⟩ := hframe.2 _ _ hstored
  have hsame : approval.id = r.newId := Table.key_of_find? hfind
  rw [hsame]
  exact ⟨hid, row, hrow, htenant⟩

/-- The action of a submission, whose gate may still be opened. -/
def Submitted (intake : Intake) (tenantId : Option String) (actionId : String)
    (S : Store) : Prop :=
  ∃ action ∈ S.governance.actions.rows, action.id = actionId ∧
    action.tenantId = tenantId ∧ SubmittedAs intake action

omit [Deployment] in
theorem Submitted.frame {intake : Intake} {tenantId : Option String} {actionId : String}
    (h : Submitted intake tenantId actionId S) (hframe : Frame S S') :
    Submitted intake tenantId actionId S' := by
  unfold Submitted
  rw [hframe.1]
  exact h

/-- The row that a submission stores. -/
theorem submittedAs_row (intake : Intake) (tenantId : Option String)
    (active : Option GovernancePolicy) (r : DbReply) :
    SubmittedAs intake { (intake.action tenantId active).row with
      id := r.newId, createdAt := r.createdAt } where
  kind := rfl
  policy := ⟨_, rfl, rfl⟩
  status := Or.inl rfl
  gate h := absurd rfl h

/-- A submission stores its action without an approval. -/
theorem createGovernedAction_reviewed {intake : Intake} {tenantId : Option String}
    {active : Option GovernancePolicy} {result : Except PyErr GovernedAction}
    (h : Prog.Runs newIds (createGovernedAction (intake.action tenantId active)) S trace
      result S') (hall : AllReviewed S) :
    AllReviewed S' ∧ ∀ action, result = .ok action →
      Submitted intake tenantId action.id S' := by
  unfold createGovernedAction at h
  obtain ⟨r, rest, _, hcommit⟩ := runs_commitChange_bind h
  rcases hcommit with ⟨_, g, happly, hrest⟩ | ⟨_, _, ⟨e, rfl⟩, rfl⟩
  · obtain ⟨rest', _, hfound⟩ := runs_peek_bind hrest
    obtain ⟨_, rfl, hvalue⟩ := runs_foundAgain hfound
    obtain ⟨table, hinsert, rfl⟩ := Option.map_eq_some_iff.mp happly
    have hsubmitted := submittedAs_row intake tenantId active r
    constructor
    · intro action haction
      rcases (Table.mem_insert hinsert).mp haction with hold | rfl
      · exact hall action hold
      · exact ⟨⟨intake, hsubmitted⟩, by rintro _ ⟨⟩⟩
    · intro action hresult
      have hfind := hvalue action hresult
      have hsame : some _ = some action := (Table.find?_insert_self hinsert).symm.trans hfind
      cases hsame
      exact ⟨_, Table.mem_of_find? hfind, rfl, rfl, hsubmitted⟩
  · exact ⟨hall, by rintro _ ⟨⟩⟩

theorem framed_createRiskAssessment (tenantId : Option String) (level : String)
    (summary : Option String) (metadata : Dict) :
    Framed (createRiskAssessment tenantId level summary metadata) := by
  refine (framed_commitChange ?_).bind fun r => (framed_peek _).bind framed_foundAgain
  intro r g g' happly
  obtain ⟨_, _, rfl⟩ := Option.map_eq_some_iff.mp happly
  rfl

theorem framed_recordEvidenceArtifact (tenantId : Option String) (artifactType : String)
    (actionId uri : Option String) (metadata : Dict) :
    Framed (recordEvidenceArtifact tenantId artifactType actionId uri metadata) := by
  refine (framed_commitChange ?_).bind fun r => (framed_peek _).bind framed_foundAgain
  intro r g g' happly
  obtain ⟨_, _, rfl⟩ := Option.map_eq_some_iff.mp happly
  rfl

theorem framed_audit (action gaId : String) (tenantId actor : Option String)
    (metadata : Dict) : Framed (audit action gaId tenantId actor metadata) :=
  framed_recordEvent _

/-- The rows after a change of one action. -/
theorem mem_actions_linkApproval {actionId approvalId : String} {r : DbReply}
    {g g' : Governance}
    (h : (GovernanceChange.linkApproval actionId approvalId).apply r g = some g')
    {action : GovernedAction} (haction : action ∈ g'.actions.rows) :
    action ∈ g.actions.rows ∨ ∃ old ∈ g.actions.rows, old.id = actionId ∧
      action = { old with approvalId := some approvalId } := by
  cases h
  obtain ⟨old, hold, rfl⟩ := List.mem_map.mp haction
  by_cases hkey : old.id = actionId
  · exact Or.inr ⟨old, hold, hkey, if_pos hkey⟩
  · left
    rw [if_neg hkey]
    exact hold

/-- The approval that a gate links is of the tenant of the action. -/
theorem openGate_reviewed {intake : Intake} {tenantId actor : Option String}
    {actionId : String} {result : Except PyErr String}
    (h : Prog.Runs newIds (openGate intake tenantId actor actionId) S trace result S')
    (hall : AllReviewed S) (hsubmitted : Submitted intake tenantId actionId S)
    (hgate : intake.requiresApproval = true) : AllReviewed S' := by
  unfold openGate at h
  have hcreate : Framed (inPipeline (ApprovalService.createRequest "governance.review"
      tenantId actionId [("workflow", .str actionType),
        ("governed_action_id", .str actionId), ("risk_level", .str intake.risk.level),
        ("policy_category", .str intake.category.value)])) :=
    framed_inPipeline (createRequest_calls _ _ _ _)
  rcases hcreate.run_bind h with hframe |
      ⟨approval, S₁, trace₁, rest, hframe, hrequest, hrest⟩
  · exact hall.frame hframe
  · obtain ⟨hid, row, hrow, htenant⟩ := createRequest_stored hrequest
    have hall₁ := hall.frame hframe
    obtain ⟨action, haction, hactionId, hactionTenant, hsub⟩ := hsubmitted.frame hframe
    obtain ⟨r, rest', _, hcommit⟩ := runs_commitChange_bind hrest
    rcases hcommit with ⟨_, g, happly, hlast⟩ | ⟨_, _, _, rfl⟩
    · have hframe' := ((framed_audit _ _ _ _ _).bind fun _ => framed_pure _).run hlast
      apply AllReviewed.frame _ hframe'
      intro other hother
      rcases mem_actions_linkApproval happly hother with hold | ⟨old, hold, hkey, rfl⟩
      · exact hall₁ other hold
      · have hsame : old = action :=
          List.inj_on_of_nodup_map S₁.governance.actions.key_nodup hold haction
            (hkey.trans hactionId.symm)
        rw [hsame]
        constructor
        · exact ⟨intake, hsub.kind, hsub.policy, hsub.status, fun _ => hgate⟩
        · rintro id ⟨⟩
          exact ⟨hid, row, hrow, htenant.trans hactionTenant.symm⟩
    · exact hall₁

theorem settle_reviewed {intake : Intake} {tenantId actor : Option String}
    {actionId : String} {result : Except PyErr (Option String)}
    (h : Prog.Runs newIds (settle intake tenantId actor actionId) S trace result S')
    (hall : AllReviewed S) (hsubmitted : Submitted intake tenantId actionId S) :
    AllReviewed S' := by
  unfold settle at h
  rw [intake.not_blocked, if_neg Bool.false_ne_true] at h
  by_cases hgate : intake.requiresApproval = true
  · rw [if_pos hgate] at h
    rcases Prog.runs_bind h with ⟨_, S₁, _, _, hopen, hrest, _⟩ | ⟨_, hopen, _⟩
    · obtain ⟨_, _, rfl⟩ := Prog.runs_pure hrest
      exact openGate_reviewed hopen hall hsubmitted hgate
    · exact openGate_reviewed hopen hall hsubmitted hgate
  · rw [if_neg hgate] at h
    have hframed : Framed (audit "governance_review.auto_cleared" actionId tenantId actor
        [("risk_level", .str intake.risk.level)]) := framed_audit _ _ _ _ _
    exact hall.frame ((hframed.bind fun _ => framed_pure _).run h)

theorem submit_reviewed {tenantId actor : Option String} {intake : Intake}
    {result : Except PyErr ReviewSummary}
    (h : Prog.Runs newIds (submitVendorGovernanceReview tenantId actor intake) S trace
      result S') (hall : AllReviewed S) : AllReviewed S' := by
  unfold submitVendorGovernanceReview at h
  obtain ⟨rest, _, hsubmit⟩ := runs_peek_bind h
  rcases Prog.runs_bind hsubmit with ⟨action, S₁, _, _, hcreate, hrest, _⟩ |
      ⟨_, hcreate, _⟩
  · obtain ⟨hall₁, hsubmitted⟩ := createGovernedAction_reviewed hcreate hall
    have hsubmitted₁ := hsubmitted action rfl
    -- the risk row and three audit events leave the action alone
    rcases (framed_createRiskAssessment _ _ _ _).run_bind hrest with
      hframe | ⟨_, S₂, _, _, hframe₂, _, hrest₂⟩
    · exact hall₁.frame hframe
    rcases (framed_audit _ _ _ _ _).run_bind hrest₂ with
      hframe | ⟨_, S₃, _, _, hframe₃, _, hrest₃⟩
    · exact hall₁.frame (hframe₂.trans hframe)
    rcases (framed_audit _ _ _ _ _).run_bind hrest₃ with
      hframe | ⟨_, S₄, _, _, hframe₄, _, hrest₄⟩
    · exact hall₁.frame ((hframe₂.trans hframe₃).trans hframe)
    rcases (framed_audit _ _ _ _ _).run_bind hrest₄ with
      hframe | ⟨_, S₅, _, _, hframe₅, _, hrest₅⟩
    · exact hall₁.frame (((hframe₂.trans hframe₃).trans hframe₄).trans hframe)
    have hframe := ((hframe₂.trans hframe₃).trans hframe₄).trans hframe₅
    have hall₅ := hall₁.frame hframe
    have hsubmitted₅ := hsubmitted₁.frame hframe
    rcases Prog.runs_bind hrest₅ with ⟨_, S₆, _, _, hsettled, hlast, _⟩ |
        ⟨_, hsettled, _⟩
    · have hall₆ := settle_reviewed hsettled hall₅ hsubmitted₅
      exact hall₆.frame
        (((framed_recordEvidenceArtifact _ _ _ _ _).bind fun _ => framed_pure _).run hlast)
    · exact settle_reviewed hsettled hall₅ hsubmitted₅
  · exact (createGovernedAction_reviewed hcreate hall).1

theorem mem_actions_insertOverride {row : ActionOverride} {r : DbReply} {g g' : Governance}
    (h : (GovernanceChange.insertOverride row).apply r g = some g')
    {action : GovernedAction} (haction : action ∈ g'.actions.rows) :
    action ∈ g.actions.rows ∨ ∃ old ∈ g.actions.rows, old.id = row.governedActionId ∧
      action = { old with status := overrideRecorded } := by
  obtain ⟨table, _, rfl⟩ := Option.map_eq_some_iff.mp h
  obtain ⟨old, hold, rfl⟩ := List.mem_map.mp haction
  by_cases hkey : old.id = row.governedActionId
  · exact Or.inr ⟨old, hold, hkey, if_pos hkey⟩
  · left
    rw [if_neg hkey]
    exact hold

/-- An override writes the status of its action and nothing else of it. -/
theorem createOverride_reviewed {tenantId : Option String} {actionId : String}
    {a : OverrideService.Authorization} {result : Except PyErr ActionOverride}
    (h : Prog.Runs newIds (OverrideService.createOverride tenantId actionId a) S trace
      result S') (hall : AllReviewed S) : AllReviewed S' := by
  unfold OverrideService.createOverride at h
  obtain ⟨rest, _, hcheck⟩ := runs_peek_bind h
  split at hcheck
  · obtain ⟨_, _, rfl⟩ := Prog.runs_raise hcheck
    exact hall
  · rcases Prog.runs_bind hcheck with ⟨level, S₁, _, _, houtcome, hstore, _⟩ |
        ⟨_, houtcome, _⟩
    · obtain ⟨_, _, rfl⟩ := runs_outcome houtcome
      split at hstore
      · obtain ⟨_, _, rfl⟩ := Prog.runs_raise hstore
        exact hall
      · obtain ⟨r, rest', _, hcommit⟩ := runs_commitChange_bind hstore
        rcases hcommit with ⟨_, g, happly, hlast⟩ | ⟨_, _, _, rfl⟩
        · have hframe := ((framed_peek _).bind fun found => (framed_foundAgain found).bind
            fun row => (framed_recordEvent _).bind fun _ => framed_pure row).run hlast
          apply AllReviewed.frame _ hframe
          intro action haction
          rcases mem_actions_insertOverride happly haction with hold | ⟨old, hold, _, rfl⟩
          · exact hall action hold
          · obtain ⟨⟨intake, hsub⟩, hlinked⟩ := hall old hold
            exact ⟨⟨intake, hsub.kind, hsub.policy, Or.inr rfl, hsub.gate⟩, hlinked⟩
        · exact hall
    · obtain ⟨_, _, rfl⟩ := runs_outcome houtcome
      exact hall

/-- The calls that make and decide reviews. -/
inductive ReviewCall where
  | submit (tenantId actor : Option String) (intake : Intake)
  | approve (approvalId actor : String) (note tenantId : Option String)
  | reject (approvalId actor reason : String) (tenantId : Option String)
  | override (tenantId : Option String) (governedActionId : String)
      (a : OverrideService.Authorization)

def ReviewCall.run : ReviewCall → StoreSession Unit
  | .submit tenantId actor intake => do
      let _ ← submitVendorGovernanceReview tenantId actor intake
      return ()
  | .approve approvalId actor note tenantId => do
      let _ ← inPipeline (ApprovalService.approve approvalId actor note tenantId)
      return ()
  | .reject approvalId actor reason tenantId => do
      let _ ← inPipeline (ApprovalService.reject approvalId actor reason tenantId)
      return ()
  | .override tenantId governedActionId a => do
      let _ ← OverrideService.createOverride tenantId governedActionId a
      return ()

/-- The store after any calls in any order. -/
inductive ReviewRun (start : Store) : Store → Prop where
  | nil : ReviewRun start start
  | call {S S' : Store} (h : ReviewRun start S) (call : ReviewCall)
      {trace : List StoreEvent} {result : Except PyErr Unit}
      (hrun : Prog.Runs newIds call.run S trace result S') : ReviewRun start S'

theorem reviewed_call {call : ReviewCall} {result : Except PyErr Unit}
    (h : Prog.Runs newIds call.run S trace result S') (hall : AllReviewed S) :
    AllReviewed S' := by
  cases call with
  | submit tenantId actor intake =>
      rcases Prog.runs_bind h with ⟨_, S₁, _, _, hsubmit, hrest, _⟩ | ⟨_, hsubmit, _⟩
      · obtain ⟨_, _, rfl⟩ := Prog.runs_pure hrest
        exact submit_reviewed hsubmit hall
      · exact submit_reviewed hsubmit hall
  | approve approvalId actor note tenantId =>
      have hframed := framed_inPipeline (approve_calls approvalId actor note tenantId)
      exact hall.frame ((hframed.bind fun _ => framed_pure ()).run h)
  | reject approvalId actor reason tenantId =>
      have hframed := framed_inPipeline (reject_calls approvalId actor reason tenantId)
      exact hall.frame ((hframed.bind fun _ => framed_pure ()).run h)
  | override tenantId governedActionId a =>
      rcases Prog.runs_bind h with ⟨_, S₁, _, _, hoverride, hrest, _⟩ | ⟨_, hoverride, _⟩
      · obtain ⟨_, _, rfl⟩ := Prog.runs_pure hrest
        exact createOverride_reviewed hoverride hall
      · exact createOverride_reviewed hoverride hall

theorem reviewed_run {start : Store} (hstart : start.governance.actions.rows = [])
    (h : ReviewRun start S) : AllReviewed S := by
  induction h with
  | nil =>
      intro action haction
      rw [hstart] at haction
      cases haction
  | call _ call hrun ih => exact reviewed_call hrun ih

/-- In every state that the calls reach from a store without actions, the four reads agree on
the status of an action if and only if nothing was decided about it. -/
theorem statuses_agree_iff {start : Store} (hstart : start.governance.actions.rows = [])
    (h : ReviewRun start S) {action : GovernedAction}
    (haction : action ∈ S.governance.actions.rows) :
    Agree S action ↔ Undecided S action :=
  agree_iff_undecided haction (reviewed_run hstart h action haction)

end

section Sample

open PolicyVersionService

local instance instViewsDeployment : Deployment := .sqlite

def exposedIntake : Intake where
  vendorName := "vendor"
  systemType := "assistant"
  intendedUse := "support"
  dataSensitivity := none
  externalExposure := true
  autonomyLevel := none

/-- The answers of the surroundings, with new ids. -/
theorem newIds_steady (n : Nat) (q : StoreCall) (S : Store) :
    newIds q (steadyAnswers n q) S := by
  have hid : (s!"id-{n}" : String) ≠ "" := by
    intro h
    have hlength := congrArg String.length h
    simp at hlength
  cases q with
  | clock => trivial
  | select => trivial
  | commit change => exact hid
  | pipeline call =>
      cases call with
      | commit tx => exact hid
      | select query => trivial
      | createDraft _ _ _ => trivial
      | readThread _ => trivial
      | sendApprovedDraft _ _ => trivial

def awaiting : Store :=
  ((ReviewCall.submit (some "t1") none exposedIntake).run.exec steadyAnswers 0 {}).2.2

theorem awaiting_reached : ReviewRun {} awaiting :=
  .call .nil (.submit (some "t1") none exposedIntake) (Prog.runs_exec newIds_steady _ 0 {})

def approveCall : ReviewCall := .approve "id-11" "operator" none (some "t1")

def approved : Store := (approveCall.run.exec steadyAnswers 100 awaiting).2.2

theorem approved_reached : ReviewRun {} approved :=
  .call awaiting_reached approveCall (Prog.runs_exec newIds_steady _ 100 awaiting)

/-- The review waits in the first store; in the second its approval is decided, and its own
status still says that it is pending. -/
theorem reviews_stored :
    awaiting.governance.actions.rows ≠ [] ∧
    (awaiting.governance.actions.rows.all fun row =>
      row.status ≠ overrideRecorded ∧
        (approvalOf awaiting.db row).any fun approval => approval.status = .pending) ∧
    approved.governance.actions.rows ≠ [] ∧
    approved.governance.actions.rows.all fun row =>
      row.status = "pending_approval" ∧
        (approvalOf approved.db row).any fun approval => approval.status ≠ .pending := by
  decide +kernel

/-- No decision, no override: the reads agree. -/
theorem awaiting_agree : awaiting.governance.actions.rows ≠ [] ∧
    ∀ action ∈ awaiting.governance.actions.rows, Agree awaiting action := by
  obtain ⟨hfiled, hopen, _⟩ := reviews_stored
  refine ⟨hfiled, ?_⟩
  intro action haction
  apply (statuses_agree_iff rfl awaiting_reached haction).mpr
  have hrow := List.all_eq_true.mp hopen action haction
  simp only [decide_eq_true_eq] at hrow
  refine ⟨hrow.1, fun _ => ?_⟩
  obtain ⟨approval, happroval, hpending⟩ := (Option.any_eq_true _ _).mp hrow.2
  obtain ⟨id, hid, hfind⟩ := Option.bind_eq_some_iff.mp happroval
  exact ⟨id, approval, hid, hfind, of_decide_eq_true hpending⟩

/-- After the approval `list_runs` still reports that it is pending. -/
theorem list_behind_approval : ¬∀ (S : Store) (action : GovernedAction), ReviewRun {} S →
    action ∈ S.governance.actions.rows → Agree S action := by
  intro hclaim
  obtain ⟨_, _, hfiled, hdecided⟩ := reviews_stored
  obtain ⟨action, haction⟩ := List.exists_mem_of_ne_nil _ hfiled
  have hrow := List.all_eq_true.mp hdecided action haction
  simp only [decide_eq_true_eq] at hrow
  have hreviewed := reviewed_run rfl approved_reached action haction
  have hundecided := (agree_iff_undecided haction hreviewed).mp
    (hclaim approved action approved_reached haction)
  obtain ⟨id, row, hid, hfind, hpending⟩ := hundecided.2 hrow.1
  have happroval : approvalOf approved.db action = some row := by
    rw [approvalOf, hid]
    exact hfind
  rw [happroval] at hrow
  simp [hpending] at hrow

end Sample

end GovernanceWorkflow

end ControlPlane
