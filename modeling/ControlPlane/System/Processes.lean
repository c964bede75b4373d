import ControlPlane.App.Requests

/-!
The processes of the installation over one database, action by action: workers,
which poll for ever and may crash and be started again at any moment, and
requests, each served by a process of its own. Any number of either may be in
progress at the same time.
-/

namespace ControlPlane

open Lib

section Committed

variable [Deployment] {τ ε ρ β : Type}

/-- The transaction that a call has committed. -/
def Call.committed : (q : Call) → Reply q → Database → Option Transaction
  | .commit tx => fun r s =>
      match tx.run r s with
      | .ok _ => some tx
      | .error _ => none
  | .select _ => fun _ _ => none
  | .createDraft _ _ _ => fun _ _ => none
  | .readThread _ => fun _ _ => none
  | .sendApprovedDraft _ _ => fun _ _ => none

theorem Call.write_of_committed_none {q : Call} {r : Reply q} {s : Database}
    (h : q.committed r s = none) : q.write r s = s := by
  cases q with
  | commit tx =>
      change tx.write r s = s
      simp only [Call.committed] at h
      cases hrun : tx.run r s with
      | ok s' => simp [hrun] at h
      | error e => exact Transaction.write_of_error hrun
  | select query => rfl
  | createDraft threadId subject body => rfl
  | readThread threadId => rfl
  | sendApprovedDraft approvalId draftId => rfl

theorem Call.apply_of_committed {q : Call} {r : Reply q} {s : Database}
    {tx : Transaction} (h : q.committed r s = some tx) :
    q = .commit tx ∧ ∃ r' : DbReply, tx.apply r' s = some (q.write r s) := by
  cases q with
  | commit tx' =>
      change _ ∧ ∃ r' : DbReply, tx.apply r' s = some (tx'.write r s)
      simp only [Call.committed] at h
      cases hrun : tx'.run r s with
      | ok s' =>
          obtain rfl : tx' = tx := by simpa [hrun] using h
          refine ⟨rfl, r, ?_⟩
          rw [Transaction.write_of_ok hrun]
          exact (Transaction.run_eq_ok.mp hrun).2
      | error e => simp [hrun] at h
  | select query => cases h
  | createDraft threadId subject body => cases h
  | readThread threadId => cases h
  | sendApprovedDraft approvalId draftId => cases h

theorem Call.committed_of_run {tx : Transaction} {r : DbReply} {s s' : Database}
    (h : tx.run r s = .ok s') : (Call.commit tx).committed r s = some tx := by
  simp [Call.committed, h]

def committedBy : Entry τ Database Call Reply ε ρ β → Option Transaction
  | .act _ s event => event.call.committed event.answer s
  | .request _ _ _ => none

/-- The transactions of a history, in the order of their commits. -/
def committed (history : List (Entry τ Database Call Reply ε ρ β)) :
    List Transaction :=
  history.filterMap committedBy

theorem committed_act (history : List (Entry τ Database Call Reply ε ρ β))
    (t : τ) (s : Database) (q : Call) (r : Reply q) :
    committed (history ++ [.act t s ⟨q, r⟩]) =
      committed history ++ (q.committed r s).toList := by
  unfold committed
  rw [List.filterMap_append]
  cases h : q.committed r s with
  | none => simp [committedBy, h]
  | some tx => simp [committedBy, h]

theorem committed_of_none {history : List (Entry τ Database Call Reply ε ρ β)}
    {t : τ} {s : Database} {q : Call} {r : Reply q} (h : q.committed r s = none) :
    committed (history ++ [.act t s ⟨q, r⟩]) = committed history := by
  rw [committed_act, h, Option.toList_none, List.append_nil]

@[simp] theorem committed_select
    (history : List (Entry τ Database Call Reply ε ρ β)) (t : τ) (s : Database)
    (query : Query) (r : Reading) :
    committed (history ++ [.act t s ⟨.select query, r⟩]) = committed history :=
  committed_of_none rfl

theorem committed_commit {history : List (Entry τ Database Call Reply ε ρ β)}
    {t : τ} {s s' : Database} {tx : Transaction} {r : DbReply}
    (h : tx.run r s = .ok s') :
    committed (history ++ [.act t s ⟨.commit tx, r⟩]) = committed history ++ [tx] := by
  rw [committed_act, Call.committed_of_run h, Option.toList_some]

theorem committed_failed {history : List (Entry τ Database Call Reply ε ρ β)}
    {t : τ} {s : Database} {tx : Transaction} {r : DbReply} {e : PyErr}
    (h : tx.run r s = .error e) :
    committed (history ++ [.act t s ⟨.commit tx, r⟩]) = committed history :=
  committed_of_none (by simp [Call.committed, h])

end Committed

/-- What a process ends with. -/
inductive Outcome where
  | polled (found : Bool)
  | served (response : Response)

section

variable [Deployment] {τ : Type}

def poll : Session Outcome := do
  let found ← Runner.pollOnce
  return .polled found

/-- What a poll does with the job it has claimed. -/
def runClaimed (job : Job) : Session Outcome := do
  let job ← JobService.refreshJob job.id
  Runner.processJob job
  return .polled true

/-- The steps of a poll: the SELECT and the UPDATE of the claim, and the rest. -/
theorem poll_eq : poll =
    (select .nextPendingJob JobService.nextPending).bind fun
      | none => .pure (.polled false)
      | some job =>
          (commit (.updateJob job { job with status := .running })).bind
            fun _ => runClaimed job := by
  unfold poll Runner.pollOnce JobService.claimNextPending runClaimed
  simp only [Prog.bind_eq, Prog.bind_assoc]
  congr 1
  funext job
  cases job with
  | none => rfl
  | some job => simp only [Prog.bind_assoc, Prog.pure_eq, Prog.pure_bind]

theorem runClaimed_calls (job : Job) : Calls WorkerCall (runClaimed job) :=
  (refreshJob_calls (.select _)).bind fun job =>
    (processJob_calls job).bind fun _ => calls_pure _

def handleRequest (req : Request) : Session Outcome := do
  let response ← serve req
  return .served response

/-- A process without a request is a worker. -/
def program : Option Request → Session Outcome
  | none => poll
  | some req => handleRequest req

/-- Process `t` serves `request t`, once; a worker polls again, and starts
again after a crash. -/
def processes (request : τ → Option Request)
    (adm : (q : Call) → Reply q → Database → Prop) :
    System τ Database Call Reply PyErr Outcome Empty Empty where
  adm := adm
  spawn := fun t p => request t = none ∧ p = poll
  body := fun req => req.elim

/-- All processes are about to start. -/
def boot (request : τ → Option Request) (s : Database) :
    Pool τ Database Call Reply PyErr Outcome Empty Empty where
  store := s
  thread := fun t => program (request t)
  history := []

/-- Surroundings in which nothing fails, at one moment. -/
def quiet (now : Moment) (id : String) : (q : Call) → Reply q
  | .select _ => ⟨now, 0⟩
  | .commit _ => ⟨id, now, none, ""⟩
  | .createDraft _ _ _ => .ok "draft-1"
  | .readThread _ => .ok ⟨some "thread-1", none, 1⟩
  | .sendApprovedDraft _ _ => .ok "message-1"

theorem handleRequest_calls (req : Request) :
    Calls RequestCall (handleRequest req) :=
  (serve_calls req).bind fun _ => calls_pure _

theorem poll_calls : Calls (fun q => ClaimCall q ∨ WorkerCall q) poll :=
  pollOnce_calls.bind fun _ => calls_pure _

/-- The calls of all processes. -/
inductive ProcessCall : Call → Prop where
  | claim {q : Call} (h : ClaimCall q) : ProcessCall q
  | worker {q : Call} (h : WorkerCall q) : ProcessCall q
  | request {q : Call} (h : RequestCall q) : ProcessCall q

theorem poll_processCalls : Calls ProcessCall poll :=
  poll_calls.mono fun _ h => h.elim .claim .worker

theorem program_calls (request : Option Request) :
    Calls ProcessCall (program request) := by
  cases request with
  | none => exact poll_processCalls
  | some req => exact (handleRequest_calls req).mono fun _ => .request

/-- Whatever has happened, a process is in the middle of one of its programs. -/
theorem processes_calls [DecidableEq τ] {request : τ → Option Request}
    {adm : (q : Call) → Reply q → Database → Prop} {s : Database}
    {P : Pool τ Database Call Reply PyErr Outcome Empty Empty}
    (hreach : (processes request adm).Reach (boot request s) P) (t : τ) :
    Calls ProcessCall (P.thread t) := by
  refine calls_thread ?_ (fun t => program_calls (request t)) hreach t
  rintro t p ⟨_, rfl⟩
  exact poll_processCalls

end

end ControlPlane
