import ControlPlane.Services.Orchestration
import ControlPlane.System.Processes

/-!
One job processed in steady surroundings: what the worker writes around the service that it
runs, whether the handler catches an exception or the worker does.
-/

namespace ControlPlane

open Lib JobService EmailService ChatOrchestrate Tasks Runner

section

variable {α : Type}

/-- The job with one more attempt. -/
def counted (job : Job) : Job := { job with attempts := job.attempts + 1 }

/-- What the `try` of a handler makes of the outcome of its service. -/
def caught : Except PyErr α → Except PyErr (Except String α)
  | .ok value => .ok (.ok value)
  | .error e =>
      match caughtMessage e with
      | some message => .ok (.error message)
      | none => .error e

/-- What a job records for an exception: the message of the handler that caught it, and the
text of the exception otherwise. -/
def failureText (e : PyErr) : String := (caughtMessage e).getD e.str

def failedJob (job : Job) (message : String) : Job :=
  { counted job with status := .failed, lastError := some message }

def succeededJob (job : Job) (value : Dict) : Job :=
  { counted job with
    status := .succeeded
    payloadJson := some ((loads job.payloadJson).set "result" (.obj value)) }

/-- The job once its service has ended. -/
def closedJob (job : Job) (dump : α → Dict) : Except PyErr α → Job
  | .ok value => succeededJob job (dump value)
  | .error e => failedJob job (failureText e)

end

section

variable {α β : Type} {adm : (q : Call) → Reply q → Database → Prop} {s s' : Database}
  {trace : List (Event Call Reply)}

theorem runs_caught {p : Session α} {outcome : Except PyErr (Except String α)}
    (h : Prog.Runs adm (tryCatch (do
        let result ← p
        return Except.ok result)
      fun e => match caughtMessage e with
        | some message => return Except.error message
        | none => throw e) s trace outcome s') :
    ∃ r, Prog.Runs adm p s trace r s' ∧ outcome = caught r := by
  rcases Prog.runs_guarded h with ⟨value, hvalue, rfl⟩ |
      ⟨e, s₁, first, second, herror, hsecond, rfl⟩
  · exact ⟨.ok value, hvalue, rfl⟩
  · cases hmessage : caughtMessage e with
    | none =>
        rw [hmessage] at hsecond
        obtain ⟨rfl, rfl, rfl⟩ := Prog.runs_raise hsecond
        rw [List.append_nil]
        exact ⟨.error e, herror, by rw [caught, hmessage]⟩
    | some message =>
        rw [hmessage] at hsecond
        obtain ⟨rfl, rfl, rfl⟩ := Prog.runs_pure hsecond
        rw [List.append_nil]
        exact ⟨.error e, herror, by rw [caught, hmessage]⟩

variable [Deployment]

/-- After the task the worker closes the job itself, unless the handler has. -/
def afterTask (job : Job) : Except PyErr (Option String) → Session Unit
  | .error e => recordException job e
  | .ok (some error) => do
      let job ← refreshJob job.id
      markJobFailed job error
  | .ok none => return ()

theorem runs_processJob {job : Job} {result : Except PyErr Unit}
    (h : Prog.Runs adm (processJob job) s trace result s') :
    ∃ r s₁ first rest, Prog.Runs adm (runTask job) s first r s₁ ∧
      Prog.Runs adm (afterTask job r) s₁ rest result s' ∧ trace = first ++ rest := by
  unfold processJob at h
  rw [Prog.bind_eq] at h
  rcases Prog.runs_bind h with ⟨outcome, s₁, first, rest, htask, hafter, rfl⟩ |
      ⟨e, htask, rfl⟩
  · rcases Prog.runs_guarded htask with ⟨error, hreturned, hok⟩ |
        ⟨e, s₂, first, second, hraised, hlast, rfl⟩
    · cases hok
      exact ⟨.ok error, s₁, first, rest, hreturned, by cases error <;> exact hafter, rfl⟩
    · obtain ⟨rfl, hok, rfl⟩ := Prog.runs_pure hlast
      cases hok
      rw [List.append_nil]
      exact ⟨.error e, s₁, first, rest, hraised, hafter, rfl⟩
  · rcases Prog.runs_guarded htask with ⟨error, _, hresult⟩ | ⟨e', _, _, _, _, hlast, _⟩
    · cases hresult
    · obtain ⟨_, hresult, _⟩ := Prog.runs_pure hlast
      cases hresult

variable {heard : (q : Call) → Reply q → Prop}

omit [Deployment] in
@[simp] theorem outward_append (first rest : List (Event Call Reply)) :
    outward (first ++ rest) = outward first ++ outward rest :=
  List.filter_append ..

/-- The attempt is counted, and the outcome of the service caught. -/
theorem steady_attempt_bind {job : Job} {p : Job → Session α}
    {k : Job → Except String α → Session β} {result : Except PyErr β}
    (hjob : s.jobs.find? job.id = some job)
    (h : Prog.Runs (steady heard) ((countAttempt job).bind fun job => (tryCatch (do
        let result ← p job
        return Except.ok result)
      fun e => match caughtMessage e with
        | some message => return Except.error message
        | none => throw e).bind (k job)) s trace result s') :
    ∃ jobs outcome s₁ first rest, s.jobs.Puts jobs (counted job) ∧
      Prog.Runs (steady heard) (p (counted job)) { s with jobs := jobs } first outcome s₁ ∧
      outward trace = outward first ++ outward rest ∧
      ((∃ o, caught outcome = .ok o ∧
        Prog.Runs (steady heard) (k (counted job) o) s₁ rest result s') ∨
        ∃ e, caught outcome = .error e ∧ rest = [] ∧ result = .error e ∧ s' = s₁) := by
  unfold countAttempt at h
  simp only [Prog.bind_eq, Prog.bind_assoc] at h
  obtain ⟨r, jobs, rest₁, hout₁, hputs, hrefresh⟩ :=
    steady_updateJob_bind hjob (by simp [Job.updated]) h
  have hself : ({ s with jobs := jobs } : Database).jobs.find? (counted job).id =
      some (counted job) := hputs.self
  obtain ⟨rest₂, hout₂, hservice⟩ := steady_refreshJob_bind hself hrefresh
  rcases Prog.runs_bind hservice with ⟨o, s₁, first, rest, hcaught, hk, rfl⟩ |
      ⟨e, hcaught, rfl⟩
  · obtain ⟨outcome, hrun, houtcome⟩ := runs_caught hcaught
    exact ⟨jobs, outcome, s₁, first, rest, hputs, hrun,
      by rw [hout₁, hout₂, outward_append], Or.inl ⟨o, houtcome.symm, hk⟩⟩
  · obtain ⟨outcome, hrun, houtcome⟩ := runs_caught hcaught
    exact ⟨jobs, outcome, s', rest₂, [], hputs, hrun,
      by rw [hout₁, hout₂]; exact (List.append_nil _).symm,
      Or.inr ⟨e, houtcome.symm, rfl, rfl, rfl⟩⟩

theorem steady_recordException {job row : Job} {e : PyErr} {result : Except PyErr Unit}
    (hrow : s.jobs.find? job.id = some row) (he : e.poisons = false)
    (h : Prog.Runs (steady heard) (recordException job e) s trace result s') :
    ∃ jobs : JobTable, outward trace = [] ∧ result = .ok () ∧
      s.jobs.Puts jobs { row with status := .failed, lastError := some e.str } ∧
      s' = { s with jobs := jobs } := by
  have hrecord : recordException job e =
      (refreshJob job.id).bind fun job => markJobFailed job e.str := by
    cases e with
    | db kind message => cases he
    | pendingRollback => cases he
    | _ => rfl
  rw [hrecord, ← Table.key_of_find? hrow] at h
  have hself : s.jobs.find? row.id = some row := by rwa [Table.key_of_find? hrow]
  obtain ⟨rest, hout, hfailed⟩ := steady_refreshJob_bind hself h
  rw [← Prog.bind_pure (markJobFailed _ _)] at hfailed
  obtain ⟨jobs, rest', hout', hputs, hend⟩ := steady_markJobFailed_bind hself hfailed
  obtain ⟨rfl, rfl, rfl⟩ := Prog.runs_pure hend
  exact ⟨jobs, hout.trans hout', rfl, hputs, rfl⟩

/-- After an error of the session the worker writes nothing. -/
theorem runs_recordException_poisoned {job : Job} {e : PyErr} {result : Except PyErr Unit}
    (he : e.poisons = true) (h : Prog.Runs adm (recordException job e) s trace result s') :
    trace = [] ∧ s' = s := by
  have hraise : recordException job e = .raise .pendingRollback := by
    cases e with
    | db kind message => rfl
    | pendingRollback => rfl
    | _ => cases he
  rw [hraise] at h
  obtain ⟨hquiet, _, hsame⟩ := Prog.runs_raise h
  exact ⟨hquiet, hsame⟩

/-- The claim of a pending job. -/
def claimed (job : Job) : Job := { job with status := .running }

/-- A poll finds nothing, or claims a pending job and processes it. -/
theorem steady_poll {result : Except PyErr Outcome}
    (h : Prog.Runs (steady heard) poll s trace result s') :
    s' = s ∧ outward trace = [] ∨
    ∃ (job : Job) (jobs : JobTable) (rest : List (Event Call Reply)) (r : Except PyErr Unit),
      s.jobs.find? job.id = some job ∧ job.status = .pending ∧ s.jobs.Puts jobs (claimed job) ∧
      outward trace = outward rest ∧
      Prog.Runs (steady heard) (processJob (claimed job)) { s with jobs := jobs } rest r s' := by
  rw [poll_eq] at h
  obtain ⟨reading, rest, hout, hfound⟩ := steady_select_bind h
  cases hnext : nextPending reading s with
  | none =>
      rw [hnext] at hfound
      obtain ⟨rfl, _, rfl⟩ := Prog.runs_pure hfound
      exact Or.inl ⟨rfl, hout⟩
  | some job =>
      rw [hnext] at hfound
      obtain ⟨hmem, hpending⟩ := nextPending_pending hnext
      have hjob := s.jobs.find?_key hmem
      obtain ⟨_, jobs, rest₁, hout₁, hputs, hclaimed⟩ :=
        steady_updateJob_bind hjob (by simp [Job.updated]) hfound
      unfold runClaimed at hclaimed
      simp only [Prog.bind_eq] at hclaimed
      have hself : ({ s with jobs := jobs } : Database).jobs.find? (claimed job).id =
          some (claimed job) := hputs.self
      obtain ⟨rest₂, hout₂, hprocess⟩ := steady_refreshJob_bind hself hclaimed
      have hsame : outward trace = outward rest₂ := hout.trans (hout₁.trans hout₂)
      rcases Prog.runs_bind hprocess with ⟨_, s₁, first, last, hrun, hend, rfl⟩ |
          ⟨e, hrun, rfl⟩
      · obtain ⟨rfl, rfl, rfl⟩ := Prog.runs_pure hend
        rw [List.append_nil] at hsame
        exact Or.inr ⟨job, jobs, first, _, hjob, hpending, hputs, hsame, hrun⟩
      · exact Or.inr ⟨job, jobs, rest₂, _, hjob, hpending, hputs, hsame, hrun⟩

/-- How the service of a `chat.orchestrate` job ends. -/
inductive Executed (job : Job) (s : Database) :
    List (Event Call Reply) → Except PyErr ChatOrchestrateResult → Database → Prop where
  | invalid {e : PyErr} (hpayload : validatePayload (loads job.payloadJson) = .error e) :
      Executed job s [] (.error e) s
  | orchestrated {payload : ChatPayload} {calls : List (Event Call Reply)}
      {outcome : Except PyErr ChatOrchestrateResult} {s₁ : Database}
      (hpayload : validatePayload (loads job.payloadJson) = .ok payload)
      (h : Orchestrated job payload s calls outcome s₁) : Executed job s calls outcome s₁

/-- The orchestration neither reads nor writes jobs. -/
theorem Orchestrated.rebase {job : Job} {payload : ChatPayload} {jobs : JobTable}
    {calls : List (Event Call Reply)} {outcome : Except PyErr ChatOrchestrateResult}
    {s₁ : Database} (h : Orchestrated job payload { s with jobs := jobs } calls outcome s₁) :
    ∃ s₂, Orchestrated job payload s calls outcome s₂ ∧ s₂.jobs = s.jobs ∧
      s₁ = { s₂ with jobs := jobs } := by
  cases h with
  | blocked hcategory hstatus => exact ⟨s, .blocked hcategory hstatus, rfl, rfl⟩
  | @cleared _ _ threads hcategory hgated hasked =>
      exact ⟨{ s with emailThreads := threads }, .cleared hcategory hgated hasked, rfl, rfl⟩
  | gated hintent hopened hputs hawaits =>
      exact ⟨_, .gated hintent ⟨hopened.gated, hopened.requested, hopened.recorded⟩ hputs
        hawaits, rfl, rfl⟩
  | undrafted hintent hopened hputs =>
      exact ⟨_, .undrafted hintent ⟨hopened.gated, hopened.requested, hopened.recorded⟩ hputs,
        rfl, rfl⟩
  | drafted hintent hopened hputs hdelivery hupsert hawaits =>
      exact ⟨_, .drafted hintent ⟨hopened.gated, hopened.requested, hopened.recorded⟩ hputs
        hdelivery hupsert hawaits, rfl, rfl⟩

theorem steady_executed {job : Job} {jobs : JobTable}
    {outcome : Except PyErr ChatOrchestrateResult} {s₁ : Database}
    (h : Prog.Runs (steady heard) (executeChatOrchestrate job) { s with jobs := jobs } trace
      outcome s₁) :
    ∃ s₂, Executed job s (outward trace) outcome s₂ ∧ s₂.jobs = s.jobs ∧
      s₁ = { s₂ with jobs := jobs } := by
  rcases steady_executeChatOrchestrate h with ⟨payload, hpayload, hrun⟩ |
    ⟨e, hpayload, hcalls, rfl, rfl⟩
  · obtain ⟨s₂, hrun, hjobs, hs₁⟩ := hrun.rebase
    exact ⟨s₂, .orchestrated hpayload hrun, hjobs, hs₁⟩
  · rw [hcalls]
    exact ⟨s, .invalid hpayload, rfl, rfl⟩

/-- The connector raises no error of the session. -/
def Sane (heard : (q : Call) → Reply q → Prop) : Prop :=
  ∀ (q : Call) (r : Reply q), heard q r → ∀ e, failure ⟨q, r⟩ = some e → e.poisons = false

omit [Deployment] in
theorem validatePayload_error {raw : Dict} {e : PyErr} (h : validatePayload raw = .error e) :
    ∃ message, e = .valueError message := by
  unfold validatePayload at h
  dsimp only at h
  repeat' split at h
  all_goals first | exact ⟨_, (Except.error.inj h).symm⟩ | cases h

theorem Executed.not_poisons {job : Job} {calls : List (Event Call Reply)} {e : PyErr}
    (hsane : Sane heard) (hcalls : ∀ call ∈ calls, heard call.call call.answer)
    (h : Executed job s calls (.error e) s') : e.poisons = false := by
  cases h with
  | invalid hpayload =>
      obtain ⟨message, rfl⟩ := validatePayload_error hpayload
      rfl
  | orchestrated _ hrun =>
      obtain ⟨call, hmem, hraised⟩ | rfl := hrun.raised
      · exact hsane call.call call.answer (hcalls call hmem) e hraised
      · rfl

/-- A processed `chat.orchestrate` job is closed as its service ended, and nothing else is
written. -/
theorem steady_processJob_chat {job : Job} {result : Except PyErr Unit}
    (htype : job.type = chatOrchestrateType) (hjob : s.jobs.find? job.id = some job)
    (hsane : Sane heard) (h : Prog.Runs (steady heard) (processJob job) s trace result s') :
    result = .ok () ∧ ∃ outcome s₁ jobs, Executed (counted job) s (outward trace) outcome s₁ ∧
      s₁.jobs = s.jobs ∧
      s.jobs.Puts jobs (closedJob job ChatOrchestrateResult.dump outcome) ∧
      s' = { s₁ with jobs := jobs } := by
  obtain ⟨r, s₂, first, rest, htask, hafter, rfl⟩ := runs_processJob h
  unfold runTask handleChatOrchestrate at htask
  rw [if_pos htype] at htask
  simp only [Prog.bind_eq, Prog.bind_assoc] at htask
  obtain ⟨jobs₁, outcome, s₃, service, close, hputs, hrun, hout, hclose⟩ :=
    steady_attempt_bind hjob htask
  obtain ⟨s₁, hexecuted, hjobs, rfl⟩ := steady_executed hrun
  have hheard : ∀ call ∈ outward service, heard call.call call.answer := steady_heard hrun
  -- The closing writes the counted row once more, in the handler or after it.
  have hclosed : outward close ++ outward rest = [] ∧ result = .ok () ∧
      ∃ jobs, jobs₁.Puts jobs (closedJob job ChatOrchestrateResult.dump outcome) ∧
        s' = { s₁ with jobs := jobs } := by
    rcases hclose with ⟨o, ho, hwrite⟩ | ⟨e, he, rfl, rfl, rfl⟩
    · cases houtcome : outcome with
      | ok value =>
          rw [houtcome] at ho
          cases ho
          obtain ⟨jobs, rest', hout', hput, hend⟩ :=
            steady_markJobSucceeded_bind hputs.self hwrite
          obtain ⟨rfl, rfl, rfl⟩ := Prog.runs_pure hend
          obtain ⟨rfl, rfl, rfl⟩ := Prog.runs_pure hafter
          exact ⟨by rw [hout']; rfl, rfl, jobs, hput, rfl⟩
      | error e =>
          rw [houtcome, caught] at ho
          cases hmessage : caughtMessage e with
          | none =>
              rw [hmessage] at ho
              cases ho
          | some message =>
              rw [hmessage] at ho
              cases ho
              obtain ⟨jobs, rest', hout', hput, hend⟩ :=
                steady_markJobFailed_bind hputs.self hwrite
              obtain ⟨rfl, rfl, rfl⟩ := Prog.runs_pure hend
              obtain ⟨rfl, rfl, rfl⟩ := Prog.runs_pure hafter
              refine ⟨by rw [hout']; rfl, rfl, jobs, ?_, rfl⟩
              rw [closedJob, failureText, hmessage]
              exact hput
    · cases outcome with
      | ok value => cases he
      | error e' =>
          rw [caught] at he
          cases hmessage : caughtMessage e' with
          | some message =>
              rw [hmessage] at he
              cases he
          | none =>
              rw [hmessage] at he
              cases he
              obtain ⟨jobs, hout', rfl, hput, rfl⟩ := steady_recordException hputs.self
                (hexecuted.not_poisons hsane hheard) hafter
              refine ⟨hout', rfl, jobs, ?_, rfl⟩
              rw [closedJob, failureText, hmessage]
              exact hput
  obtain ⟨hquiet, hresult, jobs, hput, hs'⟩ := hclosed
  refine ⟨hresult, outcome, s₁, jobs, ?_, hjobs, hputs.overwrite hput ?_, hs'⟩
  · rw [outward_append, hout, List.append_assoc, hquiet, List.append_nil]
    exact hexecuted
  · cases outcome <;> rfl

end

end ControlPlane
