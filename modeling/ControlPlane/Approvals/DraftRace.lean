import ControlPlane.Approvals.FinalDecision
import ControlPlane.Services.Orchestration

/-!
An outbound message and its approval at once. A `chat.orchestrate` job commits the pending
approval before it has the draft, so an operator can approve it while the job asks the
connector; both sides rewrite the whole payload as they have loaded it. A finished run keeps
the decision, the draft and the send exactly when each of these commits finds the row as its
session has loaded it and the operator's session reads the draft after the decision.
-/

namespace ControlPlane

open Lib

/-- `data.get("gmail_draft_id")` of the payload. -/
def ApprovalRequest.draft? (row : ApprovalRequest) : Option Json :=
  (loads row.payloadJson).get? "gmail_draft_id"

/-- `data.get("decision")` of the payload. -/
def ApprovalRequest.decision? (row : ApprovalRequest) : Option Json :=
  (loads row.payloadJson).get? "decision"

namespace ApprovalService

open JobService AuditService PolicyService EmailService EmailPersistence ChatOrchestrate Api

inductive Side where
  | job
  | operator
  deriving DecidableEq, Repr

/-- What a side returns. -/
inductive Ended where
  | orchestrated (result : ChatOrchestrateResult)
  | approved (decision : ApprovalDecision)

abbrev RaceEntry := Entry Side Database Call Reply PyErr Empty Empty

abbrev RacePool := Pool Side Database Call Reply PyErr Ended Empty Empty

/-- The id that `create_request` draws is `a`. -/
def draws (a : String) : (q : Call) → Reply q → Database → Prop
  | .commit (.insertApproval _) => fun (r : DbReply) _ => r.newId = a
  | _ => fun _ _ => True

/-- A send of the approval is queued. -/
def Queued (a : String) (s : Database) : Prop :=
  ∃ job ∈ s.jobs.rows,
    job.type = emailSendApprovedType ∧ job.idempotencyKey = some (sendKey a)

/-- No job has the key of the send. -/
def Unqueued (a : String) (s : Database) : Prop :=
  ∀ job ∈ s.jobs.rows, job.idempotencyKey ≠ some (sendKey a)

theorem Unqueued.not_queued {a : String} {s : Database} (h : Unqueued a s) : ¬Queued a s := by
  rintro ⟨job, hmem, _, hkey⟩
  exact h job hmem hkey

/-- The decision and the draft are in the payload, and the send is queued. -/
structure NothingLost (a : String) (s : Database) : Prop where
  payload : ∃ row, s.approvals.find? a = some row ∧ row.decision?.isSome ∧ row.draft?.isSome
  queued : Queued a s

/-- When the operator's session reads the approval and it is approved, the draft is there. -/
def ReadsDraft (a : String) : RaceEntry → Prop
  | .act t s event => t = .operator → event.call = .select (.approval (.str a)) →
      ∀ row, s.approvals.find? a = some row → row.status = .approved →
        Json.truthy row.draft? = true
  | .request _ _ _ => True

/-- So far the operator's session has always read the draft. -/
def DraftRead (a : String) (h : List RaceEntry) : Prop := ∀ entry ∈ h, ReadsDraft a entry

theorem draftRead_append {a : String} {h : List RaceEntry} {entry : RaceEntry} :
    DraftRead a (h ++ [entry]) ↔ DraftRead a h ∧ ReadsDraft a entry := by
  simp [DraftRead, or_imp, forall_and]

/-- The payload of the approval names its workflow as soon as it has a draft. -/
def Formed (row : ApprovalRequest) : Prop :=
  row.kind = jobGate ∧ (row.draft?.isSome →
    (loads row.payloadJson).get? "workflow" = some (.str outboundWorkflow))

section

variable [Deployment]

/-- A commit to an approval finds the row as its session has loaded it. -/
def FindsLoaded : RaceEntry → Prop
  | .act _ s event => upToDate event.call event.answer s
  | .request _ _ _ => True

/-- So far every commit to an approval has found its row as it was loaded. -/
def Current (h : List RaceEntry) : Prop := ∀ entry ∈ h, FindsLoaded entry

theorem current_append {h : List RaceEntry} {entry : RaceEntry} :
    Current (h ++ [entry]) ↔ Current h ∧ FindsLoaded entry := by
  simp [Current, or_imp, forall_and]

theorem findsLoaded_of_none {t : Side} {s : Database} {q : Call} {answer : Reply q}
    (h : q.committed answer s = none) : FindsLoaded (.act t s ⟨q, answer⟩) := by
  intro tx htx
  rw [h] at htx
  cases htx

theorem findsLoaded_of_target {t : Side} {s : Database} {q : Call} {answer : Reply q}
    (h : ∀ tx, q = .commit tx → tx.target ≠ .approvals) :
    FindsLoaded (.act t s ⟨q, answer⟩) := by
  intro tx htx
  have htarget := h tx (Call.apply_of_committed htx).1
  cases tx with
  | updateApproval loaded new => exact absurd rfl htarget
  | _ => trivial

/-- A commit of a loaded row finds it as it was loaded, or it does not. -/
theorem findsLoaded_update {a : String} {t : Side} {s s' : Database}
    {old new row : ApprovalRequest} {r : DbReply} (hid : old.id = a)
    (hfind : s.approvals.find? a = some row)
    (hrun : (Transaction.updateApproval old new).run r s = .ok s') :
    FindsLoaded (.act t s ⟨.commit (.updateApproval old new), r⟩) ↔ row = old := by
  have hcommitted := Call.committed_of_run hrun
  constructor
  · intro h
    exact Option.some.inj (hfind.symm.trans (hid ▸ h _ hcommitted))
  · rintro rfl tx htx
    rw [hcommitted] at htx
    cases htx
    change s.approvals.find? row.id = some row
    rw [hid, hfind]

/-- Both sides run once. -/
def race (a : String) : System Side Database Call Reply PyErr Ended Empty Empty where
  adm := draws a
  spawn _ _ := False
  body req := req.elim

def sides (job : Job) (a actor : String) (note tenantId : Option String) :
    Side → Session Ended
  | .job => do
      let result ← executeChatOrchestrate job
      return .orchestrated result
  | .operator => do
      let decision ← approveRequest a actor note tenantId
      return .approved decision

def opening (job : Job) (a actor : String) (note tenantId : Option String) (s : Database) :
    RacePool where
  store := s
  thread := sides job a actor note tenantId
  history := []

/-- How far the job is with the approval. -/
inductive JobStage where
  | starting
  | requested
  | reread (old : ApprovalRequest)
  | merged

/-- How far the operator's session is with it. -/
inductive OperatorStage where
  | starting
  | loaded (old : ApprovalRequest)
  | decided
  | read
  | queued
  | skipped

/-- A row that the job has not merged its draft into, whose decision nobody has overwritten. -/
def Undrafted (row : ApprovalRequest) : Prop :=
  row.draft? = none ∧ (row.status = .approved → row.decision?.isSome)

def Undecided (row : ApprovalRequest) : Prop :=
  row.status = .pending ∧ row.decision? = none

def JobStage.Holds (a : String) (h : List RaceEntry) (s : Database) : JobStage → Prop
  | .starting => Current h ∧ s.approvals.find? a = none
  | .requested => Current h ∧ ∃ row, s.approvals.find? a = some row ∧ Undrafted row
  | .reread old => Current h ∧ old.id = a ∧ old.draft? = none ∧
      ∃ row, s.approvals.find? a = some row ∧ Undrafted row ∧
        (row = old ∨ row.status = .approved ∧ old.decision? = none)
  | .merged => ∃ row, s.approvals.find? a = some row ∧
      (row.status = .pending → row.draft?.isSome) ∧
      (Current h ↔ row.draft?.isSome ∧ (row.status = .approved → row.decision?.isSome))

def OperatorStage.Holds (a : String) (h : List RaceEntry) (s : Database) :
    OperatorStage → Prop
  | .starting => DraftRead a h ∧ Unqueued a s ∧
      ∀ row, s.approvals.find? a = some row → Undecided row
  | .loaded old => DraftRead a h ∧ Unqueued a s ∧ old.id = a ∧ Undecided old ∧
      ∃ row, s.approvals.find? a = some row ∧ Undecided row ∧
        (row = old ∨ old.draft? = none ∧ row.draft?.isSome)
  | .decided => DraftRead a h ∧ Unqueued a s ∧
      ∃ row, s.approvals.find? a = some row ∧ row.status = .approved
  | .read => DraftRead a h ∧ Unqueued a s ∧
      ∃ row, s.approvals.find? a = some row ∧ row.status = .approved ∧
        Json.truthy row.draft? = true
  | .queued => DraftRead a h ∧ Queued a s ∧
      ∃ row, s.approvals.find? a = some row ∧ row.status = .approved ∧
        Json.truthy row.draft? = true
  | .skipped => ¬DraftRead a h ∧ Unqueued a s ∧
      ∃ row, s.approvals.find? a = some row ∧ row.status = .approved

/-- The claim of a side; one that has ended without a result claims nothing. -/
inductive Stage where
  | ended
  | job (stage : JobStage)
  | operator (stage : OperatorStage)

def Stage.Holds (a : String) (h : List RaceEntry) (s : Database) : Side → Stage → Prop
  | _, .ended => True
  | .job, .job stage => stage.Holds a h s
  | .operator, .operator stage => stage.Holds a h s
  | .job, .operator _ => False
  | .operator, .job _ => False

def raceLogic (a : String) :
    Logic Side Database Call Reply PyErr Ended Empty Empty Stage where
  inv _ s := ∀ row, s.approvals.find? a = some row → Formed row
  holds t c h s := c.Holds a h s t
  compat _ _ := True
  idle := .ended
  post
    | .job, result, c => ∀ value, result = .ok value → c = .job .merged
    | .operator, result, c => ∀ value, result = .ok value →
        c = .operator .queued ∨ c = .operator .skipped

/-- What the claims are about is as before. -/
structure Same (a : String) (h : List RaceEntry) (s : Database) (h' : List RaceEntry)
    (s' : Database) : Prop where
  current : Current h' ↔ Current h
  draftRead : DraftRead a h' ↔ DraftRead a h
  row : s'.approvals.find? a = s.approvals.find? a
  jobs : s'.jobs.rows = s.jobs.rows

theorem JobStage.Holds.same {a : String} {h h' : List RaceEntry} {s s' : Database}
    {stage : JobStage} (hcurrent : Current h' ↔ Current h)
    (hrow : s'.approvals.find? a = s.approvals.find? a) (hstage : stage.Holds a h s) :
    stage.Holds a h' s' := by
  cases stage <;> simpa only [JobStage.Holds, hcurrent, hrow] using hstage

theorem OperatorStage.Holds.same {a : String} {h h' : List RaceEntry} {s s' : Database}
    {stage : OperatorStage} (hsame : Same a h s h' s') (hstage : stage.Holds a h s) :
    stage.Holds a h' s' := by
  cases stage <;> simpa only [OperatorStage.Holds, Unqueued, Queued, hsame.draftRead,
    hsame.row, hsame.jobs] using hstage

theorem Stage.Holds.same {a : String} {h h' : List RaceEntry} {s s' : Database} {t : Side}
    {c : Stage} (hsame : Same a h s h' s') (hc : c.Holds a h s t) : c.Holds a h' s' t := by
  cases c with
  | ended => cases t <;> trivial
  | job stage =>
      cases t with
      | job => exact JobStage.Holds.same hsame.current hsame.row hc
      | operator => exact hc
  | operator stage =>
      cases t with
      | job => exact hc
      | operator => exact OperatorStage.Holds.same hsame hc

/-- A call that writes neither approvals nor jobs, and by which the operator's session does not
read the approval. -/
structure Aside (a : String) (t : Side) (q : Call) : Prop where
  target : ∀ tx, q = .commit tx → tx.target ≠ .approvals ∧ tx.target ≠ .jobs
  read : t = .operator → q ≠ .select (.approval (.str a))

theorem same_of_aside {a : String} {t : Side} {q : Call} (hq : Aside a t q)
    (h : List RaceEntry) (s : Database) (answer : Reply q) :
    Same a h s (h ++ [.act t s ⟨q, answer⟩]) (q.write answer s) := by
  have hcurrent : FindsLoaded (.act t s ⟨q, answer⟩) :=
    findsLoaded_of_target fun tx htx => (hq.target tx htx).1
  have hread : ReadsDraft a (.act t s ⟨q, answer⟩) :=
    fun ht hcall => absurd hcall (hq.read ht)
  have hwrite : (q.write answer s).approvals = s.approvals ∧
      (q.write answer s).jobs = s.jobs := by
    cases hcommitted : q.committed answer s with
    | none =>
        rw [Call.write_of_committed_none hcommitted]
        exact ⟨rfl, rfl⟩
    | some tx =>
        obtain ⟨rfl, r, happly⟩ := Call.apply_of_committed hcommitted
        obtain ⟨happrovals, hjobs⟩ := hq.target tx rfl
        exact ⟨Transaction.approvals_of_apply happly happrovals,
          Transaction.jobs_of_apply happly hjobs⟩
  exact {
    current := by simp [current_append, hcurrent]
    draftRead := by simp [draftRead_append, hread]
    row := by rw [hwrite.1]
    jobs := by rw [hwrite.2] }

theorem silent_of_aside {a : String} {t : Side} {q : Call} (hq : Aside a t q) :
    (raceLogic a).Silent (race a) t q q.write := by
  intro h s answer _ hinv
  have hsame := same_of_aside hq h s answer
  exact ⟨fun row hrow => hinv row (hsame.row ▸ hrow), fun u c hc => Stage.Holds.same hsame hc⟩

/-- A program of such calls keeps its claim. -/
theorem aside_safe {a : String} {t : Side} {δ : Type} {p : Session δ} {c : Stage}
    {post : Except PyErr δ → Stage → Prop} (hp : Calls (Aside a t) p)
    (hpost : ∀ result, post result c) : (raceLogic a).Safe (race a) t p post c :=
  safe_of_calls hp (fun _ hq => (silent_of_aside hq).steady c) hpost

omit [Deployment] in
theorem aside_of_elsewhere {a : String} {q : Call} (hq : ElsewhereCall q) :
    Aside a .job q where
  target tx htx := by
    subst htx
    exact hq.target_ne
  read ht := by cases ht

theorem aside_of_record {a : String} {t : Side} {e : NewEvent} {q : Call}
    (hq : RecordCall e q) : Aside a t q where
  target tx htx := by
    cases hq with
    | head => cases htx
    | append hrow =>
        cases htx
        simp [Transaction.target]
  read _ hcall := by
    cases hq with
    | head => cases hcall
    | append hrow => cases hcall

omit [Deployment] in
theorem aside_of_select {a : String} {t : Side} {query : Query}
    (h : t = .operator → query ≠ .approval (.str a)) : Aside a t (.select query) where
  target tx htx := by cases htx
  read ht hcall := by
    cases hcall
    exact h ht rfl

theorem moves_job {a : String} {h : List RaceEntry} {s s' : Database} {entry : RaceEntry}
    {stage stage' : JobStage} (hformed : ∀ row, s'.approvals.find? a = some row → Formed row)
    (hstage : stage'.Holds a (h ++ [entry]) s')
    (hother : ∀ other : OperatorStage, other.Holds a h s →
      other.Holds a (h ++ [entry]) s') :
    (raceLogic a).Moves .job (.job stage) h s entry s' (.job stage') where
  inv := hformed
  holds := hstage
  others u hu d _ hd := by
    refine ⟨trivial, ?_⟩
    cases u with
    | job => exact absurd rfl hu
    | operator =>
        cases d with
        | ended => trivial
        | job stage => exact hd
        | operator other => exact hother other hd

theorem moves_operator {a : String} {h : List RaceEntry} {s s' : Database} {entry : RaceEntry}
    {stage stage' : OperatorStage}
    (hformed : ∀ row, s'.approvals.find? a = some row → Formed row)
    (hstage : stage'.Holds a (h ++ [entry]) s')
    (hother : ∀ other : JobStage, other.Holds a h s → other.Holds a (h ++ [entry]) s') :
    (raceLogic a).Moves .operator (.operator stage) h s entry s' (.operator stage') where
  inv := hformed
  holds := hstage
  others u hu d _ hd := by
    refine ⟨trivial, ?_⟩
    cases u with
    | operator => exact absurd rfl hu
    | job =>
        cases d with
        | ended => trivial
        | operator stage => exact hd
        | job other => exact hother other hd

omit [Deployment] in
theorem draftRead_job {a : String} {h : List RaceEntry} {s : Database}
    {event : Event Call Reply} : DraftRead a (h ++ [.act .job s event]) ↔ DraftRead a h := by
  have hread : ReadsDraft a (.act .job s event) := fun ht => by cases ht
  simp [draftRead_append, hread]

/-- What a session does that commits nothing and reads nothing that counts. -/
theorem moves_failed {a : String} {t : Side} {h : List RaceEntry} {s : Database} {tx : Transaction}
    {r : DbReply} {c : Stage} {e : PyErr} (hinv : (raceLogic a).inv h s)
    (hc : c.Holds a h s t) (hrun : tx.run r s = .error e) :
    (raceLogic a).Moves t c h s (.act t s ⟨.commit tx, r⟩) s c := by
  have hcurrent : FindsLoaded (.act t s ⟨.commit tx, r⟩) :=
    findsLoaded_of_none (by simp [Call.committed, hrun])
  have hread : ReadsDraft a (.act t s ⟨.commit tx, r⟩) := fun _ hcall => by cases hcall
  have hsame : Same a h s (h ++ [.act t s ⟨.commit tx, r⟩]) s := {
    current := by simp [current_append, hcurrent]
    draftRead := by simp [draftRead_append, hread]
    row := rfl
    jobs := rfl }
  exact ⟨hinv, hc.same hsame, fun u _ d _ hd => ⟨trivial, Stage.Holds.same hsame hd⟩⟩

/-- The commit of `create_request`: before it the operator's session finds no approval. -/
theorem insert_request_safe {a : String} {row : ApprovalRequest} (hkind : row.kind = jobGate)
    (hundecided : Undecided row) (hdraft : row.draft? = none) :
    (raceLogic a).Safe (race a) .job (commit (.insertApproval row))
      (fun result c => ∀ r, result = .ok r → r.newId = a ∧ c = .job .requested)
      (.job .starting) := by
  refine safe_commit ?_ ?_
  · intro h s s' r hadm _ hc hrun
    obtain rfl : r.newId = a := hadm
    obtain ⟨hcurrent, hnone⟩ := hc
    have happly := (Transaction.run_eq_ok.mp hrun).2
    obtain ⟨_, hfind, _⟩ := Transaction.find_insertApproval happly
    have hjobs := Transaction.jobs_of_apply happly (by simp [Transaction.target])
    have hloaded : FindsLoaded (.act .job s ⟨.commit (.insertApproval row), r⟩) := by
      intro tx htx
      obtain ⟨htx, _⟩ := Call.apply_of_committed htx
      cases htx
      trivial
    refine ⟨.job .requested, moves_job ?_ ?_ ?_, fun v hv => by cases hv; exact ⟨rfl, rfl⟩⟩
    · intro found hfound
      obtain rfl := Option.some.inj (hfind.symm.trans hfound)
      refine ⟨hkind, fun hsome => ?_⟩
      rw [show (row.inserted r).draft? = none from hdraft] at hsome
      cases hsome
    · refine ⟨current_append.mpr ⟨hcurrent, hloaded⟩, row.inserted r, hfind, hdraft, ?_⟩
      intro happroved
      rw [show (row.inserted r).status = .pending from hundecided.1] at happroved
      cases happroved
    · intro other hother
      cases other with
      | starting =>
          obtain ⟨hread, hunqueued, _⟩ := hother
          refine ⟨draftRead_job.mpr hread, fun job hjob => hunqueued job (hjobs ▸ hjob), ?_⟩
          intro found hfound
          obtain rfl := Option.some.inj (hfind.symm.trans hfound)
          exact hundecided
      | loaded old =>
          obtain ⟨_, _, _, _, found, hfound, _⟩ := hother
          rw [hnone] at hfound
          cases hfound
      | decided | read | queued | skipped =>
          obtain ⟨_, _, found, hfound, _⟩ := hother
          rw [hnone] at hfound
          cases hfound
  · intro h s e r _ hinv hc hrun
    exact ⟨.job .starting, moves_failed hinv hc hrun, fun v hv => by cases hv⟩

omit [Deployment] in
theorem reload_eq (id : String) :
    reload id = (select (.approval (.str id)) fun _ s => s.approvals.find? id).bind found := by
  have hall (row : Option ApprovalRequest) : row.filter (fun _ => true) = row := by
    cases row <;> rfl
  simp [reload, getRequest, getRequestAt, select, hall]

/-- The job reads its request again, decided or not. -/
theorem reread_safe {a : String} : (raceLogic a).Safe (race a) .job (reload a)
    (fun result c => ∀ row, result = .ok row → row.id = a ∧ c = .job (.reread row))
    (.job .requested) := by
  rw [reload_eq]
  refine Logic.Safe.bind (safe_select ?_)
  intro h s r _ hinv hc
  have haside : Aside a .job (.select (.approval (.str a))) :=
    aside_of_select fun ht => by cases ht
  have hsame := same_of_aside haside h s r
  obtain ⟨hcurrent, row, hfind, hundrafted⟩ := hc
  have hid : row.id = a := Table.key_of_find? hfind
  refine ⟨.job (.reread row), moves_job hinv ?_ fun _ => OperatorStage.Holds.same hsame, ?_⟩
  · exact ⟨hsame.current.mpr hcurrent, hid, hundrafted.1, row, hfind, hundrafted, Or.inl rfl⟩
  · rw [Logic.then_ok, hfind]
    intro found hfound
    cases hfound
    exact ⟨hid, rfl⟩

omit [Deployment] in
@[simp] theorem draft?_merged (payload : ChatPayload) (old : ApprovalRequest)
    (draftId : String) :
    (merged old (draftFields payload draftId)).draft? = some (.str draftId) :=
  (merged_get payload old draftId).1

omit [Deployment] in
@[simp] theorem decision?_merged (payload : ChatPayload) (old : ApprovalRequest)
    (draftId : String) :
    (merged old (draftFields payload draftId)).decision? = old.decision? :=
  Dict.get?_update_of_not_mem _ _ (by simp [draftFields])

omit [Deployment] in
/-- A row after a commit that changes the payload its session has loaded. -/
theorem updated_payload {old new row : ApprovalRequest}
    (h : new.payloadJson ≠ old.payloadJson) :
    (old.updated new row).payloadJson = new.payloadJson :=
  changed_of_ne h _

/-- The merge of the draft: it finds the row as the job has read it, or overwrites a decision
made since. -/
theorem merge_safe {a : String} {old : ApprovalRequest} (payload : ChatPayload)
    (draftId : String) : (raceLogic a).Safe (race a) .job
      (commit (.updateApproval old (merged old (draftFields payload draftId))))
      (fun result c => ∀ r, result = .ok r → c = .job .merged) (.job (.reread old)) := by
  refine safe_commit ?_ ?_
  · intro h s s' r _ hinv hc hrun
    obtain ⟨hcurrent, hid, hdraft, row, hfind, hundrafted, hrow⟩ := hc
    have happly := (Transaction.run_eq_ok.mp hrun).2
    have hjobs := Transaction.jobs_of_apply happly (by simp [Transaction.target])
    let row' := old.updated (merged old (draftFields payload draftId)) row
    have hfind' : s'.approvals.find? a = some row' := by
      rw [Transaction.find_updateApproval happly, hfind, Option.map_some,
        if_pos ((Table.key_of_find? hfind).trans hid.symm)]
    have hchanged : (merged old (draftFields payload draftId)).payloadJson ≠
        old.payloadJson := by
      intro heq
      have hget := draft?_merged payload old draftId
      rw [ApprovalRequest.draft?, heq] at hget
      rw [ApprovalRequest.draft?, hget] at hdraft
      cases hdraft
    have hpayload : row'.payloadJson =
        (merged old (draftFields payload draftId)).payloadJson := updated_payload hchanged
    have hdraft' : row'.draft? = some (.str draftId) := by
      rw [ApprovalRequest.draft?, hpayload]
      exact draft?_merged payload old draftId
    have hdecision' : row'.decision? = old.decision? := by
      rw [ApprovalRequest.decision?, hpayload]
      exact decision?_merged payload old draftId
    have hstatus' : row'.status = row.status := changed_same _ _
    have hloaded : FindsLoaded (.act .job s ⟨.commit (.updateApproval old
        (merged old (draftFields payload draftId))), r⟩) ↔ row = old :=
      findsLoaded_update hid hfind hrun
    have hrow' : Undecided row → Undecided row' := by
      rintro ⟨hpending, hnone⟩
      refine ⟨hstatus'.trans hpending, hdecision'.trans ?_⟩
      rcases hrow with rfl | ⟨_, hold⟩
      · exact hnone
      · exact hold
    refine ⟨.job .merged, moves_job ?_ ?_ ?_, fun _ _ => rfl⟩
    · intro found hfound
      obtain rfl := Option.some.inj (hfind'.symm.trans hfound)
      refine ⟨(hinv row hfind).1, fun _ => ?_⟩
      rw [hpayload]
      exact (merged_get payload old draftId).2
    · refine ⟨row', hfind', fun _ => by rw [hdraft']; rfl, ?_⟩
      rw [current_append, hloaded, hdraft', hdecision', hstatus']
      constructor
      · rintro ⟨_, rfl⟩
        exact ⟨rfl, hundrafted.2⟩
      · rintro ⟨_, hdecided⟩
        refine ⟨hcurrent, hrow.resolve_right ?_⟩
        rintro ⟨happroved, hnone⟩
        have hsome := hdecided happroved
        rw [hnone] at hsome
        cases hsome
    · intro other hother
      cases other with
      | starting =>
          obtain ⟨hread, hunqueued, hundecided⟩ := hother
          refine ⟨draftRead_job.mpr hread, fun job hjob => hunqueued job (hjobs ▸ hjob), ?_⟩
          intro found hfound
          obtain rfl := Option.some.inj (hfind'.symm.trans hfound)
          exact hrow' (hundecided row hfind)
      | loaded loaded =>
          obtain ⟨hread, hunqueued, hloadedId, hpending, found, hfound, hundecided, hwhich⟩ :=
            hother
          obtain rfl := Option.some.inj (hfind.symm.trans hfound)
          refine ⟨draftRead_job.mpr hread, fun job hjob => hunqueued job (hjobs ▸ hjob),
            hloadedId, hpending, row', hfind', hrow' hundecided, Or.inr ⟨?_, ?_⟩⟩
          · rcases hwhich with rfl | ⟨hnone, _⟩
            · exact hundrafted.1
            · exact hnone
          · rw [hdraft']
            rfl
      | decided =>
          obtain ⟨hread, hunqueued, found, hfound, happroved⟩ := hother
          obtain rfl := Option.some.inj (hfind.symm.trans hfound)
          exact ⟨draftRead_job.mpr hread, fun job hjob => hunqueued job (hjobs ▸ hjob), row',
            hfind', hstatus'.trans happroved⟩
      | skipped =>
          obtain ⟨hread, hunqueued, found, hfound, happroved⟩ := hother
          obtain rfl := Option.some.inj (hfind.symm.trans hfound)
          exact ⟨mt draftRead_job.mp hread, fun job hjob => hunqueued job (hjobs ▸ hjob), row',
            hfind', hstatus'.trans happroved⟩
      | read | queued =>
          obtain ⟨_, _, found, hfound, _, hdraft⟩ := hother
          obtain rfl := Option.some.inj (hfind.symm.trans hfound)
          rw [hundrafted.1] at hdraft
          cases hdraft
  · intro h s e r _ hinv hc hrun
    exact ⟨.job (.reread old), moves_failed hinv hc hrun, fun v hv => by cases hv⟩

/-- The result of a gated message, before its draft. -/
def awaiting (payload : ChatPayload) (row : ApprovalRequest) : ChatOrchestrateResult :=
  needsApprovalResult payload.category (taskTypeLabel payload.category payload.message) row

/-- What the job does with a gated outbound message. -/
theorem execute_outbound {job : Job} {payload : ChatPayload}
    (hpayload : validatePayload (loads job.payloadJson) = .ok payload) (hgated : payload.Gated)
    (hintent : classifyEmailIntent payload.message = .outboundSend) :
    executeChatOrchestrate job =
      (createRequest jobGate job.tenantId job.id (gateFields payload)).bind fun row =>
        draftForApproval job payload.message payload.hint
          (classificationArtifact .outboundSend payload.hint (awaiting payload row) ::
            (awaiting payload row).artifacts)
          (awaiting payload row) (some row) := by
  have hallowed : ((evaluateAction payload.category).blocked ||
      !(evaluateAction payload.category).allowed) = false := by
    revert hgated
    unfold ChatPayload.Gated
    cases payload.category <;> decide
  have hgate : (evaluateAction payload.category).requiresApproval = true := hgated
  unfold executeChatOrchestrate
  rw [hpayload, answered_ok, Prog.bind_eq, Prog.pure_bind]
  change orchestrate job payload payload.category = _
  unfold orchestrate
  dsimp only
  rw [hallowed, if_neg Bool.false_ne_true, if_pos hgate, Prog.bind_eq]
  congr 1
  funext row
  have hpending : Awaits (awaiting payload row) row := ⟨rfl, rfl⟩
  exact enrich_outbound hpending hintent

/-- The job from its draft on. -/
theorem draft_safe {a : String} {job : Job} {payload : ChatPayload} {message : String}
    {artifacts : List ArtifactRef} {pending : ChatOrchestrateResult} {row : ApprovalRequest} :
    (raceLogic a).Safe (race a) .job
      (draftForApproval job message payload.hint artifacts pending (some row))
      (fun result c => ∀ value, result = .ok value → c = .job .merged)
      (.job (.reread row)) := by
  refine Logic.Safe.bind (aside_safe
    (calls_createDraft (aside_of_elsewhere (.createDraft _ _ _))) ?_)
  rintro (error | draftId)
  · exact fun value hvalue => by cases hvalue
  refine Logic.Safe.bind (Logic.Safe.bind (Logic.Safe.bind
    ((merge_safe payload draftId).mono ?_)))
  rintro (error | r) c hc
  · exact fun value hvalue => by cases hvalue
  obtain rfl := hc r rfl
  refine aside_safe (p := upsertOutboundDelivery _ _ _ _ _ _)
    ((upsertOutboundDelivery_elsewhere _ _ _ _ _ _).mono fun _ => aside_of_elsewhere) ?_
  rintro (error | value)
  · exact fun value hvalue => by cases hvalue
  · exact fun _ _ => rfl

theorem job_safe {a : String} {job : Job} {payload : ChatPayload}
    (hpayload : validatePayload (loads job.payloadJson) = .ok payload) (hgated : payload.Gated)
    (hintent : classifyEmailIntent payload.message = .outboundSend) :
    (raceLogic a).Safe (race a) .job
      ((executeChatOrchestrate job).bind fun result => .pure (Ended.orchestrated result))
      ((raceLogic a).post .job) (.job .starting) := by
  rw [execute_outbound hpayload hgated hintent]
  refine Logic.Safe.bind (Logic.Safe.bind (Logic.Safe.bind
    ((insert_request_safe rfl ⟨rfl, ?_⟩ ?_).mono ?_)))
  · rfl
  · rfl
  rintro (error | r) c hc
  · exact fun value hvalue => by cases hvalue
  obtain ⟨rfl, rfl⟩ := hc r rfl
  refine Logic.Safe.bind (aside_safe ((record_calls _).mono fun _ => aside_of_record) ?_)
  rintro (error | event)
  · exact fun value hvalue => by cases hvalue
  refine reread_safe.mono ?_
  rintro (error | row) c hc
  · exact fun value hvalue => by cases hvalue
  obtain ⟨_, rfl⟩ := hc row rfl
  refine draft_safe.mono ?_
  rintro (error | value) c hc
  · exact fun value hvalue => by cases hvalue
  · exact fun _ _ => hc value rfl

theorem current_select {t : Side} {h : List RaceEntry} {s : Database} {query : Query}
    {r : Reading} : Current (h ++ [.act t s ⟨.select query, r⟩]) ↔ Current h := by
  have hloaded : FindsLoaded (.act t s ⟨.select query, r⟩) := findsLoaded_of_none rfl
  simp [current_append, hloaded]

/-- The operator's session reads the approval: only what it has read can change. -/
theorem moves_read {a : String} {h : List RaceEntry} {s : Database} {r : Reading}
    {stage stage' : OperatorStage} (hinv : (raceLogic a).inv h s)
    (hstage : stage'.Holds a (h ++ [.act .operator s ⟨.select (.approval (.str a)), r⟩]) s) :
    (raceLogic a).Moves .operator (.operator stage) h s
      (.act .operator s ⟨.select (.approval (.str a)), r⟩) s (.operator stage') :=
  moves_operator hinv hstage fun _ => JobStage.Holds.same current_select rfl

omit [Deployment] in
/-- A reading of the approval counts when it is approved. -/
theorem draftRead_read {a : String} {h : List RaceEntry} {s : Database} {r : Reading}
    {row : ApprovalRequest} (hfind : s.approvals.find? a = some row) :
    DraftRead a (h ++ [.act .operator s ⟨.select (.approval (.str a)), r⟩]) ↔
      DraftRead a h ∧ (row.status = .approved → Json.truthy row.draft? = true) := by
  rw [draftRead_append]
  refine and_congr_right fun _ => ⟨fun hread => hread rfl rfl row hfind, ?_⟩
  rintro hdraft - - found hfound
  obtain rfl := Option.some.inj (hfind.symm.trans hfound)
  exact hdraft

/-- The read of `approve`: it finds the approval pending, or refuses. -/
theorem load_safe {a : String} {tenantId : Option String} :
    (raceLogic a).Safe (race a) .operator (getRequestAt (.str a) tenantId)
      (fun result c => ∀ row now, result = .ok (some row, now) → row.status = .pending →
        row.id = a ∧ c = .operator (.loaded row)) (.operator .starting) := by
  refine safe_select ?_
  intro h s r _ hinv hc
  obtain ⟨hread, hunqueued, hundecided⟩ := hc
  cases hfind : s.approvals.find? a with
  | none =>
      refine ⟨.operator .starting, moves_read hinv ⟨?_, hunqueued, hundecided⟩, ?_⟩
      · refine draftRead_append.mpr ⟨hread, fun _ _ row hrow => ?_⟩
        rw [hfind] at hrow
        cases hrow
      · intro row now hrow
        simp [hfind] at hrow
  | some row =>
      have hrow := hundecided row hfind
      have hread' : DraftRead a (h ++ [.act .operator s ⟨.select (.approval (.str a)), r⟩]) := by
        refine (draftRead_read hfind).mpr ⟨hread, fun happroved => ?_⟩
        rw [hrow.1] at happroved
        cases happroved
      have hid : row.id = a := Table.key_of_find? hfind
      refine ⟨.operator (.loaded row), moves_read hinv ⟨hread', hunqueued, hid, hrow, row, hfind,
        hrow, Or.inl rfl⟩, ?_⟩
      intro found now hfound _
      obtain ⟨hfilter, _⟩ := Prod.mk.inj (Except.ok.inj hfound)
      obtain ⟨hmem, _⟩ := Option.filter_eq_some_iff.mp hfilter
      obtain rfl := Option.some.inj (hfind.symm.trans hmem)
      exact ⟨hid, rfl⟩

theorem draft?_decided (old : ApprovalRequest) (status : ApprovalStatus) (decision : Dict)
    (now : Moment) : (decided old status decision now).draft? = old.draft? :=
  Dict.get?_set_of_ne _ _ (by decide)

theorem decision?_decided (old : ApprovalRequest) (status : ApprovalStatus) (decision : Dict)
    (now : Moment) : (decided old status decision now).decision? = some (.obj decision) :=
  Dict.get?_set_self ..

/-- The commit of the decision: it finds the row as it was read, or overwrites a draft attached
since. -/
theorem commit_approval_safe {a : String} {old : ApprovalRequest} {decision : Dict}
    {now : Moment} : (raceLogic a).Safe (race a) .operator
      (commit (.updateApproval old (decided old .approved decision now)))
      (fun result c => ∀ r, result = .ok r → c = .operator .decided)
      (.operator (.loaded old)) := by
  refine safe_commit ?_ ?_
  · intro h s s' r _ hinv hc hrun
    obtain ⟨hread, hunqueued, hid, hold, row, hfind, hrow, hwhich⟩ := hc
    have happly := (Transaction.run_eq_ok.mp hrun).2
    have hjobs := Transaction.jobs_of_apply happly (by simp [Transaction.target])
    let row' := old.updated (decided old .approved decision now) row
    have hfind' : s'.approvals.find? a = some row' := by
      rw [Transaction.find_updateApproval happly, hfind, Option.map_some,
        if_pos ((Table.key_of_find? hfind).trans hid.symm)]
    have hchanged : (decided old .approved decision now).payloadJson ≠ old.payloadJson := by
      intro heq
      have hget := decision?_decided old .approved decision now
      rw [ApprovalRequest.decision?, heq] at hget
      have hnone := hold.2
      rw [ApprovalRequest.decision?, hget] at hnone
      cases hnone
    have hpayload : row'.payloadJson = (decided old .approved decision now).payloadJson :=
      updated_payload hchanged
    have hdraft' : row'.draft? = old.draft? := by
      rw [ApprovalRequest.draft?, hpayload]
      exact draft?_decided old .approved decision now
    have hdecision' : row'.decision?.isSome := by
      have hget := decision?_decided old .approved decision now
      rw [ApprovalRequest.decision?, ← hpayload] at hget
      rw [ApprovalRequest.decision?, hget]
      rfl
    have hstatus' : row'.status = .approved :=
      changed_of_ne (by rw [hold.1]; simp [decided]) _
    have hloaded : FindsLoaded (.act .operator s ⟨.commit (.updateApproval old
        (decided old .approved decision now)), r⟩) ↔ row = old :=
      findsLoaded_update hid hfind hrun
    have hread' : DraftRead a (h ++ [.act .operator s ⟨.commit (.updateApproval old
        (decided old .approved decision now)), r⟩]) :=
      draftRead_append.mpr ⟨hread, fun _ hcall => by cases hcall⟩
    have hsame : row.draft? = none → row = old := by
      intro hnone
      refine hwhich.resolve_right ?_
      rintro ⟨_, hsome⟩
      rw [hnone] at hsome
      cases hsome
    refine ⟨.operator .decided, moves_operator ?_ ?_ ?_, fun _ _ => rfl⟩
    · intro found hfound
      obtain rfl := Option.some.inj (hfind'.symm.trans hfound)
      refine ⟨(hinv row hfind).1, fun hsome => ?_⟩
      rw [hdraft'] at hsome
      rcases hwhich with rfl | ⟨hnone, _⟩
      · rw [hpayload]
        exact (Dict.get?_set_of_ne _ _ (by decide)).trans ((hinv row hfind).2 hsome)
      · rw [hnone] at hsome
        cases hsome
    · exact ⟨hread', fun job hjob => hunqueued job (hjobs ▸ hjob), row', hfind', hstatus'⟩
    · intro other hother
      cases other with
      | starting =>
          obtain ⟨_, hnone⟩ := hother
          rw [hfind] at hnone
          cases hnone
      | requested =>
          obtain ⟨hcurrent, found, hfound, hundrafted⟩ := hother
          obtain rfl := Option.some.inj (hfind.symm.trans hfound)
          obtain rfl := hsame hundrafted.1
          exact ⟨current_append.mpr ⟨hcurrent, hloaded.mpr rfl⟩, row', hfind',
            hdraft'.trans hundrafted.1, fun _ => hdecision'⟩
      | reread was =>
          obtain ⟨hcurrent, hwasId, hwasDraft, found, hfound, hundrafted, hwas⟩ := hother
          obtain rfl := Option.some.inj (hfind.symm.trans hfound)
          obtain rfl := hsame hundrafted.1
          have hnone : was.decision? = none := by
            rcases hwas with rfl | ⟨_, hnone⟩
            · exact hrow.2
            · exact hnone
          exact ⟨current_append.mpr ⟨hcurrent, hloaded.mpr rfl⟩, hwasId, hwasDraft, row', hfind',
            ⟨hdraft'.trans hundrafted.1, fun _ => hdecision'⟩, Or.inr ⟨hstatus', hnone⟩⟩
      | merged =>
          obtain ⟨found, hfound, hpending, hkept⟩ := hother
          obtain rfl := Option.some.inj (hfind.symm.trans hfound)
          refine ⟨row', hfind', fun h => absurd (hstatus'.symm.trans h) (by decide), ?_⟩
          rw [current_append, hloaded, hdraft']
          constructor
          · rintro ⟨hcurrent, rfl⟩
            exact ⟨(hkept.mp hcurrent).1, fun _ => hdecision'⟩
          · rintro ⟨hsome, _⟩
            refine ⟨hkept.mpr ⟨hpending hrow.1, fun h => ?_⟩, hwhich.resolve_right ?_⟩
            · rw [hrow.1] at h
              cases h
            · rintro ⟨hnone, _⟩
              rw [hnone] at hsome
              cases hsome
  · intro h s e r _ hinv hc hrun
    exact ⟨.operator (.loaded old), moves_failed hinv hc hrun, fun v hv => by cases hv⟩

/-- The read behind the enqueue: the draft is there, or the send is skipped. -/
theorem settle_safe {a : String} : (raceLogic a).Safe (race a) .operator (reload a)
    (fun result c => ∀ row, result = .ok row → row.id = a ∧ Formed row ∧
      (Json.truthy row.draft? = true ∧ c = .operator .read ∨
        Json.truthy row.draft? = false ∧ c = .operator .skipped)) (.operator .decided) := by
  rw [reload_eq]
  refine Logic.Safe.bind (safe_select ?_)
  intro h s r _ hinv hc
  obtain ⟨hread, hunqueued, row, hfind, happroved⟩ := hc
  have hid : row.id = a := Table.key_of_find? hfind
  cases hdraft : Json.truthy row.draft? with
  | true =>
      refine ⟨.operator .read, moves_read hinv ⟨?_, hunqueued, row, hfind, happroved, hdraft⟩, ?_⟩
      · exact (draftRead_read hfind).mpr ⟨hread, fun _ => hdraft⟩
      · rw [Logic.then_ok, hfind]
        intro found hfound
        cases hfound
        exact ⟨hid, hinv row hfind, Or.inl ⟨hdraft, rfl⟩⟩
  | false =>
      refine ⟨.operator .skipped, moves_read hinv ⟨?_, hunqueued, row, hfind, happroved⟩, ?_⟩
      · intro hread'
        have hseen := ((draftRead_read hfind).mp hread').2 happroved
        rw [hdraft] at hseen
        cases hseen
      · rw [Logic.then_ok, hfind]
        intro found hfound
        cases hfound
        exact ⟨hid, hinv row hfind, Or.inr ⟨hdraft, rfl⟩⟩

/-- Later reads of the approval change nothing. -/
theorem again_safe {a : String} {stage : OperatorStage}
    (hstage : stage = .queued ∨ stage = .skipped) :
    (raceLogic a).Safe (race a) .operator (reload a) (fun _ c => c = .operator stage)
      (.operator stage) := by
  rw [reload_eq]
  refine Logic.Safe.bind (safe_select ?_)
  intro h s r _ hinv hc
  refine ⟨.operator stage, moves_read hinv ?_, ?_⟩
  · rcases hstage with rfl | rfl
    · obtain ⟨hread, hqueued, row, hfind, happroved, hdraft⟩ := hc
      exact ⟨(draftRead_read hfind).mpr ⟨hread, fun _ => hdraft⟩, hqueued, row, hfind,
        happroved, hdraft⟩
    · obtain ⟨hread, hunqueued, hrow⟩ := hc
      exact ⟨fun hread' => hread (draftRead_append.mp hread').1, hunqueued, hrow⟩
  · rw [Logic.then_ok]
    cases s.approvals.find? a <;> rfl

/-- The commit of the send job. -/
theorem insert_send_safe {a : String} {row : Job} (htype : row.type = emailSendApprovedType)
    (hkey : row.idempotencyKey = some (sendKey a)) :
    (raceLogic a).Safe (race a) .operator (commit (.insertJob row))
      (fun result c => ∀ r, result = .ok r → c = .operator .queued) (.operator .read) := by
  refine safe_commit ?_ ?_
  · intro h s s' r _ hinv hc hrun
    obtain ⟨hread, _, hrow⟩ := hc
    have happly := (Transaction.run_eq_ok.mp hrun).2
    have happrovals := Transaction.approvals_of_apply happly (by simp [Transaction.target])
    have hloaded : FindsLoaded (.act .operator s ⟨.commit (.insertJob row), r⟩) := by
      refine findsLoaded_of_target fun tx htx => ?_
      cases htx
      simp [Transaction.target]
    have hread' : DraftRead a (h ++ [.act .operator s ⟨.commit (.insertJob row), r⟩]) :=
      draftRead_append.mpr ⟨hread, fun _ hcall => by cases hcall⟩
    refine ⟨.operator .queued, moves_operator ?_ ⟨hread', ?_, ?_⟩ ?_, fun _ _ => rfl⟩
    · intro found hfound
      exact hinv found (happrovals ▸ hfound)
    · exact ⟨row.inserted r, (Transaction.puts_insertJob happly).mem.mpr (Or.inl rfl), htype,
        hkey⟩
    · rwa [happrovals]
    · intro other hother
      refine hother.same ?_ (by rw [happrovals])
      simp [current_append, hloaded]
  · intro h s e r _ hinv hc hrun
    exact ⟨.operator .read, moves_failed hinv hc hrun, fun v hv => by cases hv⟩

/-- The lookup of the send job finds none. -/
theorem lookup_safe {a : String} : (raceLogic a).Safe (race a) .operator
    (getJobByIdempotencyKey (sendKey a))
    (fun result c => result = .ok none ∧ c = .operator .read) (.operator .read) := by
  refine safe_select ?_
  intro h s r _ hinv hc
  have haside : Aside a .operator (.select (.jobByIdempotencyKey (sendKey a))) :=
    aside_of_select fun _ hquery => by cases hquery
  have hnone : s.jobs.findUnique? (sendKey a) = none := (Table.findUnique?_eq_none _).mpr hc.2.1
  refine ⟨.operator .read, ((silent_of_aside haside).moves trivial hinv hc), ?_, rfl⟩
  rw [hnone]

omit [Deployment] in
theorem enqueues_of_draft {row : ApprovalRequest} (hformed : Formed row)
    (hdraft : Json.truthy row.draft? = true) :
    shouldEnqueueEmailSendAfterApproval row = true := by
  obtain ⟨hkind, hworkflow⟩ := hformed
  have hsome : row.draft?.isSome := by
    cases hget : row.draft? with
    | none =>
        rw [hget] at hdraft
        cases hdraft
    | some draft => rfl
  have hright : wrongWorkflow (loads row.payloadJson) = false := by
    simp [wrongWorkflow, hworkflow hsome]
  have hdraft' : Json.truthy ((loads row.payloadJson).get? "gmail_draft_id") = true := hdraft
  simp [shouldEnqueueEmailSendAfterApproval, hkind, hright, hdraft']

omit [Deployment] in
theorem skips_without_draft {row : ApprovalRequest} (hdraft : Json.truthy row.draft? = false) :
    shouldEnqueueEmailSendAfterApproval row = false := by
  have hdraft' : Json.truthy ((loads row.payloadJson).get? "gmail_draft_id") = false := hdraft
  simp [shouldEnqueueEmailSendAfterApproval, hdraft']

theorem enqueue_safe {a : String} {row : ApprovalRequest} (hid : row.id = a) :
    (raceLogic a).Safe (race a) .operator (enqueueEmailSendJob row)
      (fun result c => ∀ job, result = .ok job → c = .operator .queued) (.operator .read) := by
  subst hid
  refine Logic.Safe.bind (aside_safe (validateSendEnqueueEligibility_reads (fun id =>
    aside_of_select fun _ hquery => by cases hquery) row) ?_)
  rintro (error | checked)
  · exact fun job hjob => by cases hjob
  refine Logic.Safe.bind (lookup_safe.mono ?_)
  rintro result c ⟨rfl, rfl⟩
  refine Logic.Safe.bind (Logic.Safe.bind ((insert_send_safe rfl rfl).mono ?_))
  rintro (error | r) c hc
  · exact fun job hjob => by cases hjob
  obtain rfl := hc r rfl
  refine Logic.Safe.bind (aside_safe ((record_calls _).mono fun _ => aside_of_record) ?_)
  rintro (error | event)
  · exact fun job hjob => by cases hjob
  · exact fun _ _ => rfl

/-- `approve` in the race. -/
theorem decide_in_race_safe {a actor : String} {note tenantId : Option String} :
    (raceLogic a).Safe (race a) .operator (approve a actor note tenantId)
      (fun result c => ∀ row, result = .ok row → row.id = a ∧ Formed row ∧
        (Json.truthy row.draft? = true ∧ c = .operator .read ∨
          Json.truthy row.draft? = false ∧ c = .operator .skipped))
      (.operator .starting) := by
  refine Logic.Safe.bind (load_safe.mono ?_)
  rintro (error | ⟨loaded, now⟩) c hc
  · exact fun row hrow => by cases hrow
  rw [Logic.then_ok]
  cases loaded with
  | none => exact fun row hrow => by cases hrow
  | some old =>
      dsimp only
      split
      · exact fun row hrow => by cases hrow
      · next hstatus =>
          obtain ⟨hid, rfl⟩ := hc old now rfl (not_not.mp hstatus)
          have hdecide : (raceLogic a).Safe (race a) .operator (do
              let _ ← commit (.updateApproval old (decided old .approved
                [("status", .str "approved"), ("actor", .str actor),
                  ("note", .ofOption note)] now))
              let _ ← record {
                action := AuditAction.approvalApproved
                resourceType := "approval"
                resourceId := old.id
                tenantId := old.tenantId
                actor := some actor
                metadata := some [("note", .ofOption note)] }
              reload old.id)
              (fun result c => ∀ row, result = .ok row → row.id = a ∧ Formed row ∧
                (Json.truthy row.draft? = true ∧ c = .operator .read ∨
                  Json.truthy row.draft? = false ∧ c = .operator .skipped))
              (.operator (.loaded old)) := by
            refine Logic.Safe.bind (commit_approval_safe.mono ?_)
            rintro (error | r) c hc
            · exact fun row hrow => by cases hrow
            obtain rfl := hc r rfl
            refine Logic.Safe.bind (aside_safe
              ((record_calls _).mono fun _ => aside_of_record) ?_)
            rintro (error | event)
            · exact fun row hrow => by cases hrow
            rw [Logic.then_ok, hid]
            exact settle_safe
          split
          · refine Logic.Safe.bind (aside_safe (validateOutboundSendGate_reads (fun id =>
              aside_of_select fun _ hquery => by cases hquery) old) ?_)
            rintro (error | checked)
            · exact fun row hrow => by cases hrow
            · exact hdecide
          · exact hdecide

/-- The detail that is returned at the end. -/
theorem detail_safe {a : String} {stage : OperatorStage}
    (hstage : stage = .queued ∨ stage = .skipped) :
    (raceLogic a).Safe (race a) .operator (enrichApprovalDetail a)
      (fun _ c => c = .operator stage) (.operator stage) := by
  refine Logic.Safe.bind ((again_safe hstage).mono ?_)
  rintro (error | row) c rfl
  · rfl
  refine Logic.Safe.bind (aside_safe (p := getJobByIdempotencyKey (sendKey a))
    (calls_select (aside_of_select fun _ hquery => by cases hquery)) ?_)
  rintro (error | job) <;> rfl

theorem operator_safe {a actor : String} {note tenantId : Option String} :
    (raceLogic a).Safe (race a) .operator ((approveRequest a actor note tenantId).bind
      fun decision => .pure (Ended.approved decision)) ((raceLogic a).post .operator)
      (.operator .starting) := by
  refine Logic.Safe.bind (Logic.Safe.bind (Logic.Safe.handle (decide_in_race_safe.mono ?_)))
  rintro (error | row) c hc
  · exact fun value hvalue => by cases hvalue
  obtain ⟨rfl, hformed, hstage⟩ := hc row rfl
  rcases hstage with ⟨hdraft, rfl⟩ | ⟨hdraft, rfl⟩
  · refine Logic.Safe.bind ?_
    unfold enqueueAfterApproval
    rw [if_pos (enqueues_of_draft hformed hdraft)]
    refine Logic.Safe.bind (Logic.Safe.handle ((enqueue_safe rfl).mono ?_))
    rintro (error | sent) c hc
    · exact fun value hvalue => by cases hvalue
    obtain rfl := hc sent rfl
    refine Logic.Safe.bind ((detail_safe (Or.inl rfl)).mono ?_)
    rintro (error | detail) c rfl
    · exact fun value hvalue => by cases hvalue
    · exact fun _ _ => Or.inl rfl
  · refine Logic.Safe.bind ?_
    unfold enqueueAfterApproval
    rw [if_neg (by simp [skips_without_draft hdraft])]
    refine Logic.Safe.bind ((detail_safe (Or.inr rfl)).mono ?_)
    rintro (error | detail) c rfl
    · exact fun value hvalue => by cases hvalue
    · exact fun _ _ => Or.inr rfl

theorem raceLogic_sound {a : String} : (raceLogic a).Sound (race a) where
  symm _ _ _ := trivial
  idle_compat _ := trivial
  idle_holds t _ _ _ := by cases t <;> trivial
  spawn _ _ h := h.elim
  request _ _ req := req.elim

end

section Runs

local instance instRace : Deployment := .sqlite

def outboundJob : Job where
  id := "j1"
  tenantId := none
  type := chatOrchestrateType
  status := .running
  idempotencyKey := none
  payloadJson := some [("session_id", .str "s1"), ("message", .str "Send email to bob"),
    ("max_steps", .num 8)]
  attempts := 1
  lastError := none
  runAfter := none
  createdAt := sampleCreated.createdAt

def outboundStore : Database := { jobs := .single outboundJob }

/-- The calls of a side from its `start`-th on, each with a fresh id. -/
def turns (t : Side) (start n : Nat) :
    List (System.Move Side Database Call Reply PyErr Ended Empty) :=
  (List.range n).map fun i => .act t (quiet sampleCreated.createdAt.moment
    (match t with
      | .job => "a1"
      | .operator => s!"o{start + i}"))

def raced (moves : List (System.Move Side Database Call Reply PyErr Ended Empty)) : RacePool :=
  (race "a1").play (opening outboundJob "a1" "ops" none none outboundStore) moves

def drawsTest : (q : Call) → Reply q → Database → Bool
  | .commit (.insertApproval _), r, _ => decide (r.newId = "a1")
  | _, _, _ => true

theorem draws_of_test {q : Call} {r : Reply q} {s : Database}
    (h : drawsTest q r s = true) : draws "a1" q r s := by
  cases q with
  | commit tx =>
      cases tx with
      | insertApproval row => exact of_decide_eq_true (p := DbReply.newId r = "a1") h
      | _ => trivial
  | _ => trivial

def isEnded : Session Ended → Bool
  | .pure _ => true
  | _ => false

theorem exists_of_isEnded {p : Session Ended} (h : isEnded p = true) :
    ∃ value, p = .pure value := by
  cases p with
  | pure value => exact ⟨value, rfl⟩
  | raise error => cases h
  | act call write next => cases h

def outboundMessage : ChatPayload := ⟨"s1", "Send email to bob", 8⟩

/-- The operator decides before the job has read its request again, and reads the draft after
the job has attached it. -/
def decidedEarly : List (System.Move Side Database Call Reply PyErr Ended Empty) :=
  turns .job 0 1 ++ turns .operator 0 2 ++ turns .job 1 7 ++ turns .operator 2 12

/-- The operator approves between the two reads of the job and its merge. -/
def decidedBetween : List (System.Move Side Database Call Reply PyErr Ended Empty) :=
  turns .job 0 4 ++ turns .operator 0 12 ++ turns .job 4 8

/-- The schedule is possible and both sides end. -/
def playsOut (moves : List (System.Move Side Database Call Reply PyErr Ended Empty)) : Bool :=
  (race "a1").passes drawsTest (opening outboundJob "a1" "ops" none none outboundStore) moves &&
    isEnded ((raced moves).thread .job) && isEnded ((raced moves).thread .operator)

theorem playsOut_spec {moves : List (System.Move Side Database Call Reply PyErr Ended Empty)}
    (h : playsOut moves = true) :
    (race "a1").Reach (opening outboundJob "a1" "ops" none none outboundStore) (raced moves) ∧
      (∃ value, (raced moves).thread .job = .pure value) ∧
      ∃ value, (raced moves).thread .operator = .pure value := by
  obtain ⟨hrest, hoperator⟩ := Bool.and_eq_true_iff.mp h
  obtain ⟨hpasses, hjob⟩ := Bool.and_eq_true_iff.mp hrest
  exact ⟨System.reach_passes (fun _ _ _ => draws_of_test) _ _ hpasses, exists_of_isEnded hjob,
    exists_of_isEnded hoperator⟩

theorem outbound_valid :
    validatePayload (loads outboundJob.payloadJson) = .ok outboundMessage :=
  rfl

/-- What the two schedules come to. -/
theorem raced_facts :
    (outboundMessage.Gated ∧ classifyEmailIntent outboundMessage.message = .outboundSend ∧
      ∀ job ∈ outboundStore.jobs.rows, job.idempotencyKey ≠ some (sendKey "a1")) ∧
    (playsOut decidedEarly = true ∧
      ((raced decidedEarly).store.approvals.find? "a1").any
        (fun row => row.decision?.isSome && row.draft?.isSome) = true ∧
      ∃ job ∈ (raced decidedEarly).store.jobs.rows,
        job.type = emailSendApprovedType ∧ job.idempotencyKey = some (sendKey "a1")) ∧
    playsOut decidedBetween = true ∧
      ((raced decidedBetween).store.approvals.find? "a1").any
        (fun row => row.status = .approved ∧ row.decision? = none) = true ∧
      ∀ job ∈ (raced decidedBetween).store.jobs.rows,
        job.idempotencyKey ≠ some (sendKey "a1") := by
  decide +kernel

end Runs

end ApprovalService

end ControlPlane
