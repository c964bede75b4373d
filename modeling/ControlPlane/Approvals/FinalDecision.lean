import ControlPlane.Audit.Chain
import ControlPlane.Db.Frames
import ControlPlane.System.Processes

/-!
Decisions of one approval. `approve` and `reject` check the status of a row they
have loaded and commit later, and `merge_execution_context` rewrites a payload
it has loaded; nothing is locked and no version is compared. In the runs in
which every such commit finds its row as it was loaded, a decision is made once
and stays; otherwise two requests can both succeed.
-/

namespace ControlPlane

open Lib

namespace ApprovalService

open JobService AuditService Api

def decisionAction : ApprovalStatus → String
  | .approved => AuditAction.approvalApproved
  | .rejected => AuditAction.approvalRejected
  | .pending => ""

/-- The event records a decision of approval `a`. -/
def IsDecision (a : String) (row : AuditEvent) : Prop :=
  row.resourceId = a ∧ (row.action = AuditAction.approvalApproved ∨
    row.action = AuditAction.approvalRejected)

instance (a : String) (row : AuditEvent) : Decidable (IsDecision a row) :=
  inferInstanceAs (Decidable (_ ∧ _))

def decisionEvents (a : String) (s : Database) : List AuditEvent :=
  s.auditEvents.rows.filter fun row => IsDecision a row

/-- The approval exists and has this status. -/
def HasStatus (a : String) (status : ApprovalStatus) (s : Database) : Prop :=
  ∃ row, s.approvals.find? a = some row ∧ row.status = status

/-- The only recorded decision of the approval is its status. -/
def Recorded (a : String) (status : ApprovalStatus) (s : Database) : Prop :=
  ∃ event, decisionEvents a s = [event] ∧ event.action = decisionAction status

/-- No decision is recorded, or just the one that the approval has. -/
def Consistent (a : String) (s : Database) : Prop :=
  decisionEvents a s = [] ∨
    ∃ status, status ≠ .pending ∧ HasStatus a status s ∧ Recorded a status s

theorem HasStatus.unique {a : String} {st st' : ApprovalStatus} {s : Database}
    (h : HasStatus a st s) (h' : HasStatus a st' s) : st = st' := by
  obtain ⟨row, hrow, rfl⟩ := h
  obtain ⟨row', hrow', rfl⟩ := h'
  rw [hrow] at hrow'
  cases hrow'
  rfl

/-- A pending approval has no recorded decision. -/
theorem Consistent.of_pending {a : String} {s : Database} (h : Consistent a s)
    (hpending : HasStatus a .pending s) : decisionEvents a s = [] := by
  rcases h with h | ⟨status, hne, hstatus, _⟩
  · exact h
  · exact absurd (hstatus.unique hpending) hne

theorem Consistent.length_le {a : String} {s : Database} (h : Consistent a s) :
    (decisionEvents a s).length ≤ 1 := by
  rcases h with h | ⟨_, _, _, event, h, _⟩
  · simp [h]
  · simp [h]

/-- What other calls do to the decision of `a`. -/
structure Neutral (a : String) (s s' : Database) : Prop where
  events : decisionEvents a s' = decisionEvents a s
  kept : ∀ status, HasStatus a status s → HasStatus a status s'

theorem Neutral.refl (a : String) (s : Database) : Neutral a s s where
  events := rfl
  kept _ h := h

theorem Neutral.consistent {a : String} {s s' : Database} (h : Neutral a s s')
    (hconsistent : Consistent a s) :
    Consistent a s' := by
  rcases hconsistent with hnone | ⟨status, hne, hstatus, event, hevents, haction⟩
  · exact Or.inl (h.events.trans hnone)
  · exact Or.inr ⟨status, hne, h.kept status hstatus, event,
      h.events.trans hevents, haction⟩

section Calls

variable [Deployment]

/-- The calls of all processes, except the decisions of `a`. -/
inductive NeutralCall (a : String) : Call → Prop where
  | claim {q : Call} (h : ClaimCall q) : NeutralCall a q
  | worker {q : Call} (h : WorkerCall q) : NeutralCall a q
  | enqueue {q : Call} (h : EnqueueCall q) : NeutralCall a q
  | retry {q : Call} (h : RetryCall q) : NeutralCall a q
  | audit {row : AuditEvent} (h : row.resourceId ≠ a) :
      NeutralCall a (.commit (.insertAudit row))
  | decide {loaded : ApprovalRequest} (h : loaded.id ≠ a) (status : ApprovalStatus)
      (decision : Dict) (now : Moment) : NeutralCall a
        (.commit (.updateApproval loaded (decided loaded status decision now)))

section

variable {a : String} {r : DbReply} {s s' : Database}

theorem neutral_other {tx : Transaction} (h : tx.apply r s = some s')
    (haudit : tx.target ≠ .auditEvents) (happroval : tx.target ≠ .approvals) :
    Neutral a s s' where
  events := by
    unfold decisionEvents
    rw [Transaction.auditEvents_of_apply h haudit]
  kept status hstatus := by
    unfold HasStatus
    rw [Transaction.approvals_of_apply h happroval]
    exact hstatus

theorem decisionEvents_insert {row : AuditEvent}
    (h : (Transaction.insertAudit row).apply r s = some s') :
    decisionEvents a s' = if IsDecision a row then
      decisionEvents a s ++ [row.inserted r] else decisionEvents a s := by
  obtain ⟨T, hinsert, rfl⟩ := Option.map_eq_some_iff.mp h
  have hsame : IsDecision a (row.inserted r) ↔ IsDecision a row := Iff.rfl
  unfold decisionEvents
  rw [Table.rows_insert hinsert, List.filter_append]
  split
  · next hrow => simp [hsame.mpr hrow]
  · next hrow => simp [mt hsame.mp hrow]

theorem hasStatus_insertAudit {row : AuditEvent} {status : ApprovalStatus}
    (h : (Transaction.insertAudit row).apply r s = some s')
    (hstatus : HasStatus a status s) : HasStatus a status s' := by
  unfold HasStatus
  rw [Transaction.approvals_of_apply h (by simp [Transaction.target])]
  exact hstatus

theorem neutral_insertAudit {row : AuditEvent}
    (h : (Transaction.insertAudit row).apply r s = some s')
    (hrow : ¬ IsDecision a row) : Neutral a s s' where
  events := by rw [decisionEvents_insert h, if_neg hrow]
  kept _ := hasStatus_insertAudit h

theorem neutral_insertApproval {row : ApprovalRequest}
    (h : (Transaction.insertApproval row).apply r s = some s') : Neutral a s s' where
  events := by
    unfold decisionEvents
    rw [Transaction.auditEvents_of_apply h (by simp [Transaction.target])]
  kept := by
    rintro status ⟨old, hold, hstatus⟩
    obtain ⟨hfresh, _, hother⟩ := Transaction.find_insertApproval h
    refine ⟨old, ?_, hstatus⟩
    rw [hother, hold]
    rintro rfl
    rw [hold] at hfresh
    cases hfresh

/-- An update of `a` that keeps the status, or any update of another approval. -/
theorem neutral_updateApproval {loaded new : ApprovalRequest}
    (h : (Transaction.updateApproval loaded new).apply r s = some s')
    (hother : loaded.id = a → new.status = loaded.status) : Neutral a s s' where
  events := by
    unfold decisionEvents
    rw [Transaction.auditEvents_of_apply h (by simp [Transaction.target])]
  kept := by
    rintro status ⟨row, hrow, rfl⟩
    refine ⟨_, by rw [Transaction.find_updateApproval h, hrow, Option.map_some], ?_⟩
    split
    · next hid =>
        have hstatus := hother (hid.symm.trans (Table.key_of_find? hrow))
        simp [ApprovalRequest.updated, hstatus]
    · rfl

theorem neutral_call {q : Call} (hq : NeutralCall a q) (answer : Reply q)
    (s : Database) : Neutral a s (q.write answer s) := by
  cases hcommitted : q.committed answer s with
  | none =>
      rw [Call.write_of_committed_none hcommitted]
      exact .refl a s
  | some tx =>
      obtain ⟨rfl, r, happly⟩ := Call.apply_of_committed hcommitted
      cases hq with
      | claim hq =>
          cases hq with
          | claim _ =>
              exact neutral_other happly (by simp [Transaction.target])
                (by simp [Transaction.target])
      | worker hq =>
          cases hq with
          | elsewhere hq =>
              cases hq with
              | audit happroved hrejected _ =>
                  exact neutral_insertAudit happly (by unfold IsDecision; tauto)
              | mail htarget =>
                  rcases htarget with htarget | htarget <;>
                    exact neutral_other happly (by simp [htarget]) (by simp [htarget])
          | updateJob _ =>
              exact neutral_other happly (by simp [Transaction.target])
                (by simp [Transaction.target])
          | insertApproval _ => exact neutral_insertApproval happly
          | merge loaded fields => exact neutral_updateApproval happly fun _ => rfl
      | enqueue hq =>
          cases hq with
          | audit happroved hrejected _ =>
              exact neutral_insertAudit happly (by unfold IsDecision; tauto)
          | insertJob _ =>
              exact neutral_other happly (by simp [Transaction.target])
                (by simp [Transaction.target])
      | retry hq =>
          cases hq with
          | retry _ =>
              exact neutral_other happly (by simp [Transaction.target])
                (by simp [Transaction.target])
      | audit hid => exact neutral_insertAudit happly (by unfold IsDecision; tauto)
      | decide hid status decision now =>
          exact neutral_updateApproval happly fun h => absurd h hid

end

/-- How far a request has come with the decision of the approval. Only one
process can be past `idle`. -/
inductive Progress where
  | idle
  | decided (status : ApprovalStatus)
  | recorded (status : ApprovalStatus)

def Progress.Holds (a : String) : Progress → Database → Prop
  | .idle, _ => True
  | .decided status, s =>
      status ≠ .pending ∧ HasStatus a status s ∧ decisionEvents a s = []
  | .recorded status, s =>
      status ≠ .pending ∧ HasStatus a status s ∧ Recorded a status s

omit [Deployment] in
theorem Progress.Holds.neutral {a : String} {s s' : Database} {c : Progress}
    (h : c.Holds a s) (hneutral : Neutral a s s') : c.Holds a s' := by
  cases c with
  | idle => trivial
  | decided status =>
      obtain ⟨hne, hstatus, hnone⟩ := h
      exact ⟨hne, hneutral.kept status hstatus, hneutral.events.trans hnone⟩
  | recorded status =>
      obtain ⟨hne, hstatus, event, hevents, haction⟩ := h
      exact ⟨hne, hneutral.kept status hstatus, event,
        hneutral.events.trans hevents, haction⟩

omit [Deployment] in
/-- While an approval is pending nobody has decided it. -/
theorem Progress.Holds.idle_of_pending {a : String} {s : Database} {c : Progress}
    (h : c.Holds a s) (hpending : HasStatus a .pending s) : c = .idle := by
  cases c with
  | idle => rfl
  | decided status => exact absurd (h.2.1.unique hpending) h.1
  | recorded status => exact absurd (h.2.1.unique hpending) h.1

/-- The decision a request asks for. -/
def decisionOn (a : String) : Request → Option ApprovalStatus
  | .approve approvalId _ _ _ => if approvalId = a then some .approved else none
  | .reject approvalId _ _ _ => if approvalId = a then some .rejected else none
  | .chat _ _ => none
  | .retry _ _ => none

/-- A commit that writes an approval finds it as its session has loaded it. -/
def UpToDate (s : Database) : Transaction → Prop
  | .updateApproval loaded _ => s.approvals.find? loaded.id = some loaded
  | _ => True

def upToDate (q : Call) (answer : Reply q) (s : Database) : Prop :=
  ∀ tx, q.committed answer s = some tx → UpToDate s tx

section

variable {τ : Type} (a : String) (request : τ → Option Request)

def decisionLogic :
    Logic τ Database Call Reply PyErr Outcome Empty Empty Progress where
  inv _ s := Consistent a s
  holds _ c _ s := c.Holds a s
  compat c d := c = .idle ∨ d = .idle
  idle := .idle
  post t result c := ∀ req status response, request t = some req →
    decisionOn a req = some status → result = .ok (.served response) →
    c = .recorded status

variable {a request} {t : τ}

theorem decisionLogic_silent {q : Call} (hq : NeutralCall a q) :
    (decisionLogic a request).Silent (processes request upToDate) t q q.write := by
  intro h s answer _ hinv
  have hneutral := neutral_call hq answer s
  exact ⟨hneutral.consistent hinv, fun u c hc => Progress.Holds.neutral hc hneutral⟩

theorem decisionLogic_steady {q : Call} (hq : NeutralCall a q) (c : Progress) :
    (decisionLogic a request).Steady (processes request upToDate) t c q q.write :=
  (decisionLogic_silent hq).steady c

/-- A program that does not decide `a` keeps whatever claim it has. -/
theorem neutral_safe {δ : Type} {p : Session δ} {c : Progress}
    {post : Except PyErr δ → Progress → Prop} (hp : Calls (NeutralCall a) p)
    (hpost : ∀ r, post r c) :
    (decisionLogic a request).Safe (processes request upToDate) t p post c :=
  safe_of_calls hp (fun _ hq => decisionLogic_steady hq c) hpost

/-- The commit of a decision: the row it finds is pending, so no other process
has decided. -/
theorem commit_decision_safe {row : ApprovalRequest} (hid : row.id = a)
    (hpending : row.status = .pending) {status : ApprovalStatus}
    (hstatus : status ≠ .pending) (decision : Dict) (now : Moment) :
    (decisionLogic a request).Safe (processes request upToDate) t
      (commit (.updateApproval row (decided row status decision now)))
      (fun r c => ∀ v, r = .ok v → c = .decided status) .idle := by
  refine safe_commit ?_ ?_
  · intro h s s' r hadm hinv _ hrun
    have hfound : s.approvals.find? row.id = some row :=
      hadm _ (Call.committed_of_run hrun)
    have happly := (Transaction.run_eq_ok.mp hrun).2
    have hbefore : HasStatus a .pending s := ⟨row, by rw [← hid, hfound], hpending⟩
    have hnone : decisionEvents a s = [] := Consistent.of_pending hinv hbefore
    have hevents : decisionEvents a s' = [] := by
      unfold decisionEvents at hnone ⊢
      rwa [Transaction.auditEvents_of_apply happly (by simp [Transaction.target])]
    refine ⟨.decided status, ⟨Or.inl hevents, ⟨hstatus, ?_, hevents⟩, ?_⟩,
      fun _ _ => rfl⟩
    · refine ⟨_, by
        rw [← hid, Transaction.find_updateApproval happly, hfound, Option.map_some], ?_⟩
      rw [if_pos rfl]
      simp [ApprovalRequest.updated, decided]
    · intro u _ d _ hd
      obtain rfl := Progress.Holds.idle_of_pending hd hbefore
      exact ⟨Or.inr rfl, trivial⟩
  · intro h s e r _ hinv _ _
    exact ⟨.idle, ⟨hinv, trivial, fun u _ d _ hd => ⟨Or.inl rfl, hd⟩⟩,
      fun _ h => by cases h⟩

/-- The event of a decision: the process that has decided is the only one that
may append it. -/
theorem append_decision_safe {row : AuditEvent} (hid : row.resourceId = a)
    {status : ApprovalStatus} (hrow : row.action = decisionAction status)
    {retry : Session AuditEvent}
    (hretry : (decisionLogic a request).Safe (processes request upToDate) t retry
      (fun r c => ∀ v, r = .ok v → c = .recorded status) (.decided status)) :
    (decisionLogic a request).Safe (processes request upToDate) t
      (append row retry) (fun r c => ∀ v, r = .ok v → c = .recorded status)
      (.decided status) := by
  refine Logic.Safe.act ?_
  intro h s r _ hinv hc
  unfold afterCommit
  cases hrun : (Transaction.insertAudit row).run r s with
  | ok s' =>
      obtain ⟨hne, hstatus, hnone⟩ := hc
      have happly := (Transaction.run_eq_ok.mp hrun).2
      have hdecision : IsDecision a row := by
        refine ⟨hid, ?_⟩
        rw [hrow]
        cases status with
        | pending => exact absurd rfl hne
        | approved => exact Or.inl rfl
        | rejected => exact Or.inr rfl
      have hevents : Recorded a status s' := by
        refine ⟨row.inserted r, ?_, hrow⟩
        rw [decisionEvents_insert happly, if_pos hdecision, hnone, List.nil_append]
      have hstatus' := hasStatus_insertAudit happly hstatus
      rw [Transaction.write_of_ok hrun]
      refine ⟨.recorded status, ⟨?_, ⟨hne, hstatus', hevents⟩, ?_⟩, fun _ _ => rfl⟩
      · exact Or.inr ⟨status, hne, hstatus', hevents⟩
      · rintro u _ d (hcompat | rfl) _
        · cases hcompat
        · exact ⟨Or.inr rfl, trivial⟩
  | error e =>
      rw [Transaction.write_of_error hrun]
      refine ⟨.decided status, ⟨hinv, hc, fun u _ d hcompat hd => ⟨hcompat, hd⟩⟩, ?_⟩
      split
      · next heq => cases heq
      · exact hretry
      · exact hretry
      · exact fun _ h => nomatch h

theorem record_decision_safe {e : NewEvent} (hid : e.resourceId = a)
    {status : ApprovalStatus} (haction : e.action = decisionAction status) :
    (decisionLogic a request).Safe (processes request upToDate) t (record e)
      (fun r c => ∀ v, r = .ok v → c = .recorded status) (.decided status) := by
  unfold record
  generalize maxRecordAttempts = attempts
  induction attempts with
  | zero => exact fun _ h => nomatch h
  | succ attempts ih =>
      rw [recordFrom_succ]
      refine Logic.Safe.silent (decisionLogic_silent (.enqueue (.select _))) ?_
      intro _ s r _ _ _
      cases hlink : e.link (chainHead s.auditEvents.rows) r.now with
      | error error => exact fun _ h => nomatch h
      | ok row =>
          have hrow : Describes e row := ⟨_, _, hlink⟩
          exact append_decision_safe (hrow.resourceId.trans hid)
            (hrow.action.trans haction) ih

theorem select_safe {δ : Type} {query : Query} {read : Reading → Database → δ}
    {post : Except PyErr δ → Progress → Prop} {c : Progress}
    (h : ∀ r s, post (.ok (read r s)) c) :
    (decisionLogic a request).Safe (processes request upToDate) t
      (select query read) post c :=
  Logic.Safe.silent (decisionLogic_silent (.enqueue (.select query)))
    fun _ s r _ _ _ => h r s

theorem record_neutral {e : NewEvent} (hid : e.resourceId ≠ a) :
    Calls (NeutralCall a) (record e) := by
  refine (record_calls e).mono ?_
  rintro q (_ | h)
  · exact .enqueue (.select _)
  · exact .audit (h.resourceId ▸ hid)

theorem reload_neutral (id : String) : Calls (NeutralCall a) (reload id) :=
  reload_calls (.enqueue (.select _))

/-- What `approve` and `reject` do with a pending row. -/
theorem decide_safe (row : ApprovalRequest) (hpending : row.status = .pending)
    (status : ApprovalStatus) (hstatus : status ≠ .pending) (decision : Dict)
    (now : Moment) (e : NewEvent) (hid : e.resourceId = row.id)
    (haction : e.action = decisionAction status) :
    (decisionLogic a request).Safe (processes request upToDate) t
      (do
        let _ ← commit (.updateApproval row (decided row status decision now))
        let _ ← record e
        reload row.id)
      (fun r c => row.id = a → ∀ v, r = .ok v → c = .recorded status) .idle := by
  by_cases hrow : row.id = a
  · refine Logic.Safe.bind ((commit_decision_safe hrow hpending hstatus decision
      now).mono ?_)
    rintro (error | r) c hc
    · exact fun _ _ h => nomatch h
    · obtain rfl := hc r rfl
      refine Logic.Safe.bind ((record_decision_safe (hid.trans hrow) haction).mono ?_)
      rintro (error | v) c hc
      · exact fun _ _ h => nomatch h
      · obtain rfl := hc v rfl
        exact neutral_safe (reload_neutral row.id) fun _ _ _ _ => rfl
  · refine neutral_safe ?_ fun _ h => absurd h hrow
    exact (calls_commit (.decide hrow status decision now)).bind fun _ =>
      (record_neutral (hid ▸ hrow)).bind fun _ => reload_neutral row.id

omit [Deployment] in
/-- The row a request finds has the id it asked for. -/
theorem key_of_filter {s : Database} {id : String} {p : ApprovalRequest → Bool}
    {row : ApprovalRequest} (h : (s.approval? (.str id)).filter p = some row) :
    row.id = id :=
  Table.key_of_find? (Option.filter_eq_some_iff.mp h).1

theorem approve_safe (approvalId actor : String) (note tenantId : Option String) :
    (decisionLogic a request).Safe (processes request upToDate) t
      (approve approvalId actor note tenantId)
      (fun r c => approvalId = a → ∀ v, r = .ok v → c = .recorded .approved)
      .idle := by
  refine Logic.Safe.bind (select_safe ?_)
  intro r s
  rw [Logic.then_ok]
  dsimp only
  cases hrow : (s.approval? (.str approvalId)).filter fun row =>
      tenantId = none ∨ row.tenantId = tenantId with
  | none => exact fun _ _ h => nomatch h
  | some row =>
      obtain rfl := key_of_filter hrow
      dsimp only
      split
      · exact fun _ _ h => nomatch h
      · next hstatus =>
          split
          · refine Logic.Safe.bind (neutral_safe (c := .idle)
              (validateOutboundSendGate_reads (fun _ => .enqueue (.select _)) row) ?_)
            rintro (error | v)
            · exact fun _ _ h => nomatch h
            · exact decide_safe row (not_not.mp hstatus) .approved (by simp) _
                r.now _ rfl rfl
          · exact decide_safe row (not_not.mp hstatus) .approved (by simp) _ r.now _
              rfl rfl

theorem reject_safe (approvalId actor reason : String) (tenantId : Option String) :
    (decisionLogic a request).Safe (processes request upToDate) t
      (reject approvalId actor reason tenantId)
      (fun r c => approvalId = a → ∀ v, r = .ok v → c = .recorded .rejected)
      .idle := by
  refine Logic.Safe.bind (select_safe ?_)
  intro r s
  rw [Logic.then_ok]
  dsimp only
  cases hrow : (s.approval? (.str approvalId)).filter fun row =>
      tenantId = none ∨ row.tenantId = tenantId with
  | none => exact fun _ _ h => nomatch h
  | some row =>
      obtain rfl := key_of_filter hrow
      dsimp only
      split
      · exact fun _ _ h => nomatch h
      · next hstatus =>
          exact decide_safe row (not_not.mp hstatus) .rejected (by simp) _ r.now _
            rfl rfl

/-- After the decision nothing else touches it, and a request that succeeds has
recorded it. -/
theorem after_decision_safe {req : Request} (ht : request t = some req)
    {approvalId : String} {status : ApprovalStatus}
    (hdecision : decisionOn a req = if approvalId = a then some status else none)
    {p : Session ApprovalRequest} {f : PyErr → PyErr}
    {k : ApprovalRequest → Session Outcome}
    (hp : (decisionLogic a request).Safe (processes request upToDate) t p
      (fun r c => approvalId = a → ∀ v, r = .ok v → c = .recorded status) .idle)
    (hk : ∀ row, Calls (NeutralCall a) (k row)) :
    (decisionLogic a request).Safe (processes request upToDate) t
      ((tryCatch p fun e => throw (f e)).bind k)
      ((decisionLogic a request).post t) .idle := by
  refine Logic.Safe.bind (Logic.Safe.handle (hp.mono ?_))
  rintro (error | row) c hc
  · exact fun _ _ _ _ _ h => nomatch h
  · refine neutral_safe (hk row) ?_
    intro r req' status' response ht' hdecision' _
    obtain rfl : req = req' := Option.some.inj (ht.symm.trans ht')
    rw [hdecision] at hdecision'
    split at hdecision'
    · next hid =>
        rw [← Option.some.inj hdecision']
        exact hc hid row rfl
    · cases hdecision'

theorem enqueue_neutral {δ : Type} {p : Session δ} (h : Calls EnqueueCall p) :
    Calls (NeutralCall a) p :=
  h.mono fun _ => .enqueue

theorem handleRequest_approve (approvalId actor : String)
    (note tenantId : Option String) :
    handleRequest (.approve approvalId actor note tenantId) =
      (tryCatch (approve approvalId actor note tenantId)
        fun e => throw (httpError (some "approval_not_found") e)).bind fun row =>
          (enqueueAfterApproval row).bind fun executionJobId =>
            (enrichApprovalDetail row.id).bind fun detail =>
              .pure (.served (.approved ⟨detail, executionJobId⟩)) := by
  simp only [handleRequest, serve, approveRequest, Prog.bind_eq, Prog.bind_assoc,
    Prog.pure_eq, Prog.pure_bind]

theorem handleRequest_reject (approvalId actor reason : String)
    (tenantId : Option String) :
    handleRequest (.reject approvalId actor reason tenantId) =
      (tryCatch (reject approvalId actor reason tenantId)
        fun e => throw (httpError (some "approval_not_found") e)).bind fun row =>
          (enrichApprovalDetail row.id).bind fun detail =>
            .pure (.served (.rejected detail)) := by
  simp only [handleRequest, serve, rejectRequest, Prog.bind_eq, Prog.bind_assoc,
    Prog.pure_eq, Prog.pure_bind]

theorem handleRequest_safe {req : Request} (ht : request t = some req) :
    (decisionLogic a request).Safe (processes request upToDate) t
      (handleRequest req) ((decisionLogic a request).post t) .idle := by
  have hother : decisionOn a req = none → ∀ (r : Except PyErr Outcome) c,
      (decisionLogic a request).post t r c := by
    intro hnone r c req' status' response ht' hdecision' _
    obtain rfl : req = req' := Option.some.inj (ht.symm.trans ht')
    rw [hnone] at hdecision'
    cases hdecision'
  cases req with
  | chat body tenantId =>
      refine neutral_safe ?_ fun r => hother rfl r _
      exact ((enqueue_neutral (chat_calls body tenantId)).bind
        fun _ => calls_pure _).bind fun _ => calls_pure _
  | approve approvalId actor note tenantId =>
      rw [handleRequest_approve]
      refine after_decision_safe ht rfl (approve_safe _ _ _ _) fun row => ?_
      exact (enqueue_neutral (enqueueAfterApproval_calls row)).bind fun _ =>
        (enqueue_neutral (enrichApprovalDetail_calls row.id)).bind
          fun _ => calls_pure _
  | reject approvalId actor reason tenantId =>
      rw [handleRequest_reject]
      refine after_decision_safe ht rfl (reject_safe _ _ _ _) fun row => ?_
      exact (enqueue_neutral (enrichApprovalDetail_calls row.id)).bind
        fun _ => calls_pure _
  | retry jobId tenantId =>
      refine neutral_safe ?_ fun r => hother rfl r _
      exact (((retryJob_calls jobId tenantId).mono fun _ => .retry).bind
        fun _ => calls_pure _).bind fun _ => calls_pure _

theorem poll_neutral : Calls (NeutralCall a) poll := by
  refine (pollOnce_calls.mono ?_).bind fun _ => calls_pure _
  rintro q (hq | hq)
  · exact .claim hq
  · exact .worker hq

theorem decisionLogic_sound :
    (decisionLogic a request).Sound (processes request upToDate) where
  symm _ _ := Or.symm
  idle_compat _ := Or.inl rfl
  idle_holds _ _ _ _ := trivial
  spawn t p h := by
    obtain ⟨ht, rfl⟩ := h
    refine neutral_safe poll_neutral ?_
    intro r req status response ht'
    rw [ht] at ht'
    cases ht'
  request _ _ req := req.elim

theorem program_safe (t : τ) :
    (decisionLogic a request).Safe (processes request upToDate) t
      (program (request t)) ((decisionLogic a request).post t) .idle := by
  cases ht : request t with
  | none => exact decisionLogic_sound.spawn t _ ⟨ht, rfl⟩
  | some req => exact handleRequest_safe ht

end

/-- What a commit may do to an approval: the payload loses no field, and the
status stays once it is decided. -/
structure Keeps (row row' : ApprovalRequest) : Prop where
  fields : ∀ key, ((loads row.payloadJson).get? key).isSome →
    ((loads row'.payloadJson).get? key).isSome
  status : row.status ≠ .pending → row'.status = row.status

omit [Deployment] in
theorem Keeps.refl (row : ApprovalRequest) : Keeps row row where
  fields _ h := h
  status _ := rfl

/-- A commit on `loaded` that finds the row as it was loaded. -/
theorem keeps_updateApproval {a : String} {r : DbReply} {s s' : Database}
    {loaded new row : ApprovalRequest}
    (happly : (Transaction.updateApproval loaded new).apply r s = some s')
    (hfound : s.approvals.find? loaded.id = some loaded)
    (hkeeps : Keeps loaded new) (hrow : s.approvals.find? a = some row) :
    ∃ row', s'.approvals.find? a = some row' ∧ Keeps row row' := by
  refine ⟨_, by rw [Transaction.find_updateApproval happly, hrow, Option.map_some], ?_⟩
  split
  · next hid =>
      obtain rfl : a = loaded.id := (Table.key_of_find? hrow).symm.trans hid
      obtain rfl : loaded = row := Option.some.inj (hfound.symm.trans hrow)
      exact ⟨fun key h => by simpa [ApprovalRequest.updated] using hkeeps.fields key h,
        fun h => by simpa [ApprovalRequest.updated] using hkeeps.status h⟩
  · exact .refl row

theorem keeps_call {a : String} {q : Call} (hq : ProcessCall q) {answer : Reply q}
    {s : Database} (hfound : upToDate q answer s) {row : ApprovalRequest}
    (hrow : s.approvals.find? a = some row) :
    ∃ row', (q.write answer s).approvals.find? a = some row' ∧ Keeps row row' := by
  cases hcommitted : q.committed answer s with
  | none =>
      rw [Call.write_of_committed_none hcommitted]
      exact ⟨row, hrow, .refl row⟩
  | some tx =>
      obtain ⟨rfl, r, happly⟩ := Call.apply_of_committed hcommitted
      have hframe : tx.target ≠ .approvals →
          ∃ row', ((Call.commit tx).write answer s).approvals.find? a = some row' ∧
            Keeps row row' := by
        intro htarget
        rw [Transaction.approvals_of_apply happly htarget]
        exact ⟨row, hrow, .refl row⟩
      cases tx with
      | updateApproval loaded new =>
          refine keeps_updateApproval happly (hfound _ hcommitted) ?_ hrow
          rcases hq with ⟨⟨⟩⟩ | ⟨⟨⟩⟩ | ⟨⟨⟨⟩⟩ | ⟨⟨⟩⟩ | ⟨⟨⟩⟩⟩
          · next helsewhere => exact absurd rfl helsewhere.target_ne.1
          · exact ⟨fun key h => Dict.isSome_get?_update _ _ h, fun _ => rfl⟩
          · next hpending =>
              exact ⟨fun key h => Dict.isSome_get?_set _ _ _ h,
                fun h => absurd hpending h⟩
      | insertApproval new =>
          obtain ⟨hfresh, _, hother⟩ := Transaction.find_insertApproval happly
          refine ⟨row, ?_, .refl row⟩
          rw [hother, hrow]
          rintro rfl
          rw [hrow] at hfresh
          cases hfresh
      | _ => exact hframe (by simp [Transaction.target])

section

variable {τ : Type} [DecidableEq τ]

/-- Process `t` has served a request that decides `a`, without an exception. -/
def Succeeds (a : String) (request : τ → Option Request)
    (P : Pool τ Database Call Reply PyErr Outcome Empty Empty) (t : τ)
    (status : ApprovalStatus) : Prop :=
  (∃ req, request t = some req ∧ decisionOn a req = some status) ∧
    ∃ response, P.thread t = .pure (.served response)

/-- The decision of `a` is made once and is final. -/
structure DecidedOnce (a : String) (request : τ → Option Request)
    (P : Pool τ Database Call Reply PyErr Outcome Empty Empty) : Prop where
  unique : ∀ t u status status', Succeeds a request P t status →
    Succeeds a request P u status' → t = u
  status : ∀ t status, Succeeds a request P t status → HasStatus a status P.store
  recorded : ∀ t status, Succeeds a request P t status → Recorded a status P.store
  atMostOne : (decisionEvents a P.store).length ≤ 1

/-- Any number of workers and of concurrent requests: when every commit that
writes an approval finds the row as its session has loaded it, at most one
decision succeeds, it is the final status and the only recorded decision, and
no commit drops a field of the payload. -/
theorem decided_once_of_upToDate {a : String} {request : τ → Option Request}
    {s : Database} (hstart : Consistent a s)
    {P : Pool τ Database Call Reply PyErr Outcome Empty Empty}
    (hreach : (processes request upToDate).Reach (boot request s) P) :
    DecidedOnce a request P ∧
      ∀ P', (processes request upToDate).Step P P' → ∀ row,
        P.store.approvals.find? a = some row →
        ∃ row', P'.store.approvals.find? a = some row' ∧ Keeps row row' := by
  have hgood : (decisionLogic a request).Good (processes request upToDate) P := by
    apply Logic.reach_good decisionLogic_sound _ program_safe hreach
    exact hstart
  obtain ⟨hinv, claim, hcompat, hclaim⟩ := hgood
  have hrecorded : ∀ t status, Succeeds a request P t status →
      claim t = .recorded status := by
    rintro t status ⟨⟨req, ht, hdecision⟩, response, hthread⟩
    have hsafe := (hclaim t).2
    rw [hthread] at hsafe
    exact hsafe req status response ht hdecision rfl
  have hholds : ∀ t status, Succeeds a request P t status →
      HasStatus a status P.store ∧ Recorded a status P.store := by
    intro t status h
    have hc := (hclaim t).1
    rw [hrecorded t status h] at hc
    exact hc.2
  constructor
  · constructor
    · intro t u status status' ht hu
      by_contra hne
      rcases hcompat t u hne with h | h
      · rw [hrecorded t status ht] at h
        cases h
      · rw [hrecorded u status' hu] at h
        cases h
    · exact fun t status h => (hholds t status h).1
    · exact fun t status h => (hholds t status h).2
    · exact Consistent.length_le hinv
  · intro P' hstep row hrow
    cases hstep with
    | @act t call write next answer hthread hadm =>
        have hcalls := processes_calls hreach t
        rw [hthread] at hcalls
        obtain ⟨⟨rfl, hq⟩, _⟩ := hcalls
        exact keeps_call hq hadm hrow
    | spawn _ => exact ⟨row, hrow, .refl row⟩
    | @request req _ _ _ _ => exact req.elim

end

end Calls

section Runs

local instance instDesk : Deployment := .sqlite

def deskApproval : ApprovalRequest where
  id := "a1"
  tenantId := none
  kind := jobGate
  status := .pending
  payloadJson := some [("job_id", .str "j1")]
  decidedAt := none
  createdAt := sampleCreated.createdAt

def desk : Database where
  approvals :=
    Table.empty.append deskApproval ⟨by simp [Table.empty], by simp [Table.empty]⟩

/-- Two operators decide the same approval. -/
def bothDecide : Bool → Option Request
  | true => some (.approve "a1" "ops" none none)
  | false => some (.reject "a1" "ops" "no" none)

/-- `n` steps of one of them. -/
def deskSteps (t : Bool) (n : Nat) :
    List (System.Move Bool Database Call Reply PyErr Outcome Empty) :=
  List.replicate n
    (.act t (quiet sampleCreated.createdAt.moment (if t then "e1" else "e2")))

def isServed : Session Outcome → Bool
  | .pure (.served _) => true
  | _ => false

theorem exists_of_isServed {p : Session Outcome} (h : isServed p = true) :
    ∃ response, p = .pure (.served response) := by
  unfold isServed at h
  split at h
  · exact ⟨_, rfl⟩
  · cases h

def upToDateTest : (q : Call) → Reply q → Database → Bool
  | .commit (.updateApproval loaded _), _, s =>
      s.approvals.find? loaded.id = some loaded
  | _, _, _ => true

theorem upToDate_of_test {q : Call} {r : Reply q} {s : Database}
    (h : upToDateTest q r s = true) : upToDate q r s := by
  intro tx hcommitted
  obtain ⟨rfl, _⟩ := Call.apply_of_committed hcommitted
  cases tx with
  | updateApproval loaded new =>
      exact of_decide_eq_true (p := s.approvals.find? loaded.id = some loaded) h
  | _ => trivial

/-- The rejection starts after the approval, and is refused. -/
def inTurn : Pool Bool Database Call Reply PyErr Outcome Empty Empty :=
  (processes bothDecide upToDate).play (boot bothDecide desk)
    (deskSteps true 7 ++ deskSteps false 1)

/-- Both requests load the pending row before either commits. -/
def atOnce : Pool Bool Database Call Reply PyErr Outcome Empty Empty :=
  (processes bothDecide fun _ _ _ => True).play (boot bothDecide desk)
    (deskSteps true 1 ++ deskSteps false 1 ++ deskSteps true 6 ++ deskSteps false 6)

/-- In turn the approval finds the row as it was loaded and is served; at once both are. -/
theorem decisions_played :
    isServed (inTurn.thread true) = true ∧
    (processes bothDecide upToDate).passes upToDateTest (boot bothDecide desk)
      (deskSteps true 7 ++ deskSteps false 1) = true ∧
    isServed (atOnce.thread true) = true ∧
    isServed (atOnce.thread false) = true ∧
    (decisionEvents "a1" atOnce.store).length = 2 := by
  decide +kernel

theorem decided_once_in_turn : Succeeds "a1" bothDecide inTurn true .approved ∧
    DecidedOnce "a1" bothDecide inTurn := by
  obtain ⟨hserved, hpasses, _⟩ := decisions_played
  constructor
  · exact ⟨⟨_, rfl, rfl⟩, exists_of_isServed hserved⟩
  · apply (decided_once_of_upToDate (s := desk) _ _).1
    · exact Or.inl rfl
    · exact System.reach_passes (fun _ _ _ => upToDate_of_test) _ _ hpasses

/-- Both decisions succeed and both are recorded. -/
theorem two_decisions_succeed : Consistent "a1" desk ∧
    ∃ P, (processes bothDecide fun _ _ _ => True).Reach (boot bothDecide desk) P ∧
      Succeeds "a1" bothDecide P true .approved ∧
      Succeeds "a1" bothDecide P false .rejected ∧
      (decisionEvents "a1" P.store).length = 2 := by
  obtain ⟨_, _, happroved, hrejected, hevents⟩ := decisions_played
  refine ⟨Or.inl rfl, atOnce, ?_, ?_, ?_, hevents⟩
  · apply System.reach_play
    intro P m hm
    have hact : ∃ t oracle, m = .act t oracle := by
      simp only [deskSteps, List.mem_append, List.mem_replicate] at hm
      grind
    obtain ⟨t, oracle, rfl⟩ := hact
    intro _ _ _ _
    trivial
  · exact ⟨⟨_, rfl, rfl⟩, exists_of_isServed happroved⟩
  · exact ⟨⟨_, rfl, rfl⟩, exists_of_isServed hrejected⟩

end Runs

end ApprovalService

end ControlPlane
