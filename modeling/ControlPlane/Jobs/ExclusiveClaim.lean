import ControlPlane.Audit.Chain
import ControlPlane.Db.Frames
import ControlPlane.Lib.Log
import ControlPlane.System.Processes

/-!
Claims of jobs. `claim_next_pending` selects a pending job and then updates it
by primary key, so two workers can select the same job before either commits.
With one worker process this cannot happen, whatever the requests do between
its two steps: a job that was claimed is not pending again until it is retried.
-/

namespace ControlPlane

open Lib

namespace JobService

/-- The commit of a claim: a pending job is marked as running. -/
def Claims (id : String) : Transaction → Prop
  | .updateJob loaded new =>
      loaded.id = id ∧ loaded.status = .pending ∧ new.status = .running
  | _ => False

/-- The commit of a retry: a failed job is marked as pending. -/
def Retries (id : String) : Transaction → Prop
  | .updateJob loaded new =>
      loaded.id = id ∧ loaded.status = .failed ∧ new.status = .pending
  | _ => False

/-- Between two claims of a job there is a retry of it. -/
abbrev ClaimedOnce (id : String) (log : List Transaction) : Prop :=
  Log.Separated (Claims id) (Retries id) log

/-- The job was claimed and has not been retried since. -/
abbrev Held (id : String) (log : List Transaction) : Prop :=
  Log.Open (Claims id) (Retries id) log

variable {s s' : Database} {log : List Transaction}

/-- The invariant of the claims: they are exclusive so far, and a held job is
not pending. -/
structure Exclusive (log : List Transaction) (s : Database) : Prop where
  once : ∀ id, ClaimedOnce id log
  held : ∀ id, Held id log →
    ∃ job, s.jobs.find? id = some job ∧ job.status ≠ .pending

theorem exclusive_nil (s : Database) : Exclusive [] s where
  once _ := Log.separated_nil
  held _ h := absurd h Log.not_open_nil

/-- A transaction that claims nothing and lets no held job become pending. -/
theorem Exclusive.step {tx : Transaction} (h : Exclusive log s)
    (hclaims : ∀ id, ¬ Claims id tx)
    (hkept : ∀ id job, s.jobs.find? id = some job → job.status ≠ .pending →
      ¬ Retries id tx → ∃ job', s'.jobs.find? id = some job' ∧
        job'.status ≠ .pending) : Exclusive (log ++ [tx]) s' where
  once id := Log.separated_concat (h.once id) fun hclaim =>
    absurd hclaim (hclaims id)
  held id hopen := by
    rcases Log.open_concat.mp hopen with hclaim | ⟨hheld, hretry⟩
    · exact absurd hclaim (hclaims id)
    · obtain ⟨job, hjob, hstatus⟩ := h.held id hheld
      exact hkept id job hjob hstatus hretry

section

variable [Deployment] {r : DbReply}

theorem Exclusive.other {tx : Transaction} (h : Exclusive log s)
    (happly : tx.apply r s = some s') (htarget : tx.target ≠ .jobs) :
    Exclusive (log ++ [tx]) s' := by
  apply h.step
  · intro id hclaim
    cases tx with
    | updateJob loaded new => exact htarget rfl
    | _ => exact hclaim
  · intro id job hjob hstatus _
    rw [Transaction.jobs_of_apply happly htarget]
    exact ⟨job, hjob, hstatus⟩

theorem Exclusive.insertJob {row : Job} (h : Exclusive log s)
    (happly : (Transaction.insertJob row).apply r s = some s') :
    Exclusive (log ++ [.insertJob row]) s' := by
  obtain ⟨hfresh, _, hother⟩ := Transaction.find_insertJob happly
  refine h.step (fun _ hclaim => hclaim) ?_
  intro id job hjob hstatus _
  refine ⟨job, ?_, hstatus⟩
  rw [hother id, hjob]
  rintro rfl
  rw [hfresh] at hjob
  cases hjob

/-- A worker closes its job, and a request puts a failed job back. -/
theorem Exclusive.updateJob {loaded new : Job} (h : Exclusive log s)
    (happly : (Transaction.updateJob loaded new).apply r s = some s')
    (hclaims : ¬ Claims loaded.id (.updateJob loaded new))
    (hstatus : new.status = .pending →
      loaded.status = .pending ∨ loaded.status = .failed) :
    Exclusive (log ++ [.updateJob loaded new]) s' := by
  apply h.step
  · rintro id ⟨rfl, hclaim⟩
    exact hclaims ⟨rfl, hclaim⟩
  · intro id job hjob hne hretry
    rw [Transaction.find_updateJob happly, hjob, Option.map_some]
    refine ⟨_, rfl, ?_⟩
    split
    · next hid =>
        change changed _ _ _ ≠ _
        unfold changed
        split
        · exact hne
        · next hchanged =>
            intro hpending
            rcases hstatus hpending with hloaded | hloaded
            · exact hchanged (hpending.trans hloaded.symm)
            · refine hretry ⟨?_, hloaded, hpending⟩
              rw [← hid, Table.key_of_find? hjob]
    · exact hne

/-- A claim that finds its job pending. -/
theorem Exclusive.claim {loaded : Job} (h : Exclusive log s)
    (hpending : ∃ job, s.jobs.find? loaded.id = some job ∧ job.status = .pending)
    (hloaded : loaded.status = .pending)
    (happly : (Transaction.updateJob loaded
      { loaded with status := .running }).apply r s = some s') :
    Exclusive (log ++ [.updateJob loaded { loaded with status := .running }])
      s' := by
  obtain ⟨job, hjob, hstatus⟩ := hpending
  have hfind := Transaction.find_updateJob happly
  constructor
  · intro id
    apply Log.separated_concat (h.once id)
    rintro ⟨rfl, _⟩ hheld
    obtain ⟨job', hjob', hne⟩ := h.held _ hheld
    rw [hjob] at hjob'
    cases hjob'
    exact hne hstatus
  · intro id hopen
    rcases Log.open_concat.mp hopen with ⟨rfl, _⟩ | ⟨hheld, _⟩
    · rw [hfind, hjob, Option.map_some, if_pos (Table.key_of_find? hjob)]
      refine ⟨_, rfl, ?_⟩
      simp [Job.updated, hloaded, changed]
    · obtain ⟨job', hjob', hne⟩ := h.held id hheld
      rw [hfind, hjob', Option.map_some]
      refine ⟨_, rfl, ?_⟩
      split
      · simp [Job.updated, hloaded, changed]
      · exact hne

/-- The job is pending in the store. -/
def Selected (job : Job) (s : Database) : Prop :=
  ∃ row, s.jobs.find? job.id = some row ∧ row.status = .pending

omit [Deployment] in
theorem selected_of_nextPending {reading : Reading} {job : Job}
    (h : nextPending reading s = some job) : Selected job s := by
  obtain ⟨hmem, hstatus⟩ := nextPending_pending h
  exact ⟨job, s.jobs.find?_key hmem, hstatus⟩

theorem Exclusive.worker {q : Call} (h : Exclusive log s) (hq : WorkerCall q)
    (answer : Reply q) :
    Exclusive (log ++ (q.committed answer s).toList) (q.write answer s) := by
  cases hcommitted : q.committed answer s with
  | none =>
      rw [Call.write_of_committed_none hcommitted]
      simpa using h
  | some tx =>
      obtain ⟨rfl, r, happly⟩ := Call.apply_of_committed hcommitted
      cases hq with
      | updateJob hchange =>
          apply h.updateJob happly
          · rintro ⟨_, hpending, hrunning⟩
            cases hchange with
            | attempt attempts =>
                rw [hpending] at hrunning
                cases hrunning
            | fail message => cases hrunning
            | succeed payload => cases hrunning
          · intro hpending
            cases hchange with
            | attempt attempts => exact Or.inl hpending
            | fail message => cases hpending
            | succeed payload => cases hpending
      | elsewhere hq => exact h.other happly hq.target_ne.2
      | _ => exact h.other happly (by simp [Transaction.target])

theorem Exclusive.request {q : Call} (h : Exclusive log s) (hq : RequestCall q)
    (answer : Reply q) :
    Exclusive (log ++ (q.committed answer s).toList) (q.write answer s) := by
  cases hcommitted : q.committed answer s with
  | none =>
      rw [Call.write_of_committed_none hcommitted]
      simpa using h
  | some tx =>
      obtain ⟨rfl, r, happly⟩ := Call.apply_of_committed hcommitted
      cases hq with
      | enqueue hq =>
          cases hq with
          | audit _ _ _ => exact h.other happly (by simp [Transaction.target])
          | insertJob _ => exact h.insertJob happly
      | retry hq =>
          cases hq with
          | retry hfailed =>
              apply h.updateJob happly
              · rintro ⟨_, hpending, _⟩
                rw [hfailed] at hpending
                cases hpending
              · intro _
                exact Or.inr hfailed
      | decision hq =>
          cases hq with
          | decide _ _ _ _ => exact h.other happly (by simp [Transaction.target])
          | audit _ => exact h.other happly (by simp [Transaction.target])

/-- No request takes a pending job away. -/
theorem Selected.request {job : Job} {q : Call} (h : Selected job s)
    (hq : RequestCall q) (answer : Reply q) : Selected job (q.write answer s) := by
  cases hcommitted : q.committed answer s with
  | none =>
      rw [Call.write_of_committed_none hcommitted]
      exact h
  | some tx =>
      obtain ⟨rfl, r, happly⟩ := Call.apply_of_committed hcommitted
      have hframe : tx.target ≠ .jobs → Selected job ((Call.commit tx).write answer s) := by
        intro htarget
        rw [Selected, Transaction.jobs_of_apply happly htarget]
        exact h
      obtain ⟨row, hrow, hstatus⟩ := h
      cases hq with
      | enqueue hq =>
          cases hq with
          | audit _ _ _ => exact hframe (by simp [Transaction.target])
          | insertJob _ =>
              obtain ⟨hfresh, _, hother⟩ := Transaction.find_insertJob happly
              refine ⟨row, ?_, hstatus⟩
              rw [hother, hrow]
              intro hid
              rw [← hid, hrow] at hfresh
              cases hfresh
      | retry hq =>
          cases hq with
          | @retry loaded hfailed =>
              rw [Selected, Transaction.find_updateJob happly, hrow, Option.map_some]
              refine ⟨_, rfl, ?_⟩
              split
              · simp [Job.updated, hfailed, changed]
              · exact hstatus
      | decision hq =>
          cases hq with
          | decide _ _ _ _ => exact hframe (by simp [Transaction.target])
          | audit _ => exact hframe (by simp [Transaction.target])

end

section

variable [Deployment] {τ : Type} (request : τ → Option Request)
  (adm : (q : Call) → Reply q → Database → Prop)

/-- Only the worker claims anything: the job it has selected stays pending
until it commits. -/
def claimLogic :
    Logic τ Database Call Reply PyErr Outcome Empty Empty (Option Job) where
  inv history s := Exclusive (committed history) s
  holds t c _ s := ∀ job, c = some job → request t = none ∧ Selected job s
  compat _ _ := True
  idle := none
  post _ _ _ := True

variable {request adm}

theorem claimLogic_request {q : Call} (hq : RequestCall q) (t : τ) :
    (claimLogic request).Silent (processes request adm) t q q.write := by
  intro h s answer _ hinv
  constructor
  · change Exclusive (committed _) _
    rw [committed_act]
    exact Exclusive.request hinv hq answer
  · intro u c hc job hjob
    obtain ⟨hu, hselected⟩ := hc job hjob
    exact ⟨hu, hselected.request hq answer⟩

/-- The only worker may make any move that keeps the invariant and its own
claim: no other thread holds one. -/
theorem claimLogic_moves
    (hworker : ∀ t u, request t = none → request u = none → t = u) {t : τ}
    (ht : request t = none) {c c' : Option Job}
    {h : List (Entry τ Database Call Reply PyErr Empty Empty)} {s s' : Database}
    {entry : Entry τ Database Call Reply PyErr Empty Empty}
    (hinv : Exclusive (committed (h ++ [entry])) s')
    (hholds : ∀ job, c' = some job → Selected job s') :
    (claimLogic request).Moves t c h s entry s' c' where
  inv := hinv
  holds job hjob := ⟨ht, hholds job hjob⟩
  others u hu d _ hd := by
    refine ⟨trivial, ?_⟩
    intro job hjob
    exact absurd (hworker u t (hd job hjob).1 ht) hu

theorem poll_safe
    (hworker : ∀ t u, request t = none → request u = none → t = u) {t : τ}
    (ht : request t = none) :
    (claimLogic request).Safe (processes request adm) t poll
      (fun _ _ => True) none := by
  have hquiet : ∀ q, WorkerCall q →
      (claimLogic request).Steady (processes request adm) t none q q.write := by
    intro q hq h s answer _ hinv _
    apply claimLogic_moves hworker ht
    · rw [committed_act]
      exact Exclusive.worker hinv hq answer
    · intro job hjob
      cases hjob
  rw [poll_eq]
  refine Logic.Safe.bind (safe_select ?_)
  intro h s r _ hinv _
  have hinv' : Exclusive (committed h) s := hinv
  rw [← committed_select h t s .nextPendingJob r] at hinv'
  cases hjob : nextPending r s with
  | none =>
      exact ⟨none, claimLogic_moves hworker ht hinv' (fun _ h => by cases h), trivial⟩
  | some job =>
      refine ⟨some job, claimLogic_moves hworker ht hinv' ?_, ?_⟩
      · rintro _ ⟨⟩
        exact selected_of_nextPending hjob
      · refine Logic.Safe.bind (safe_commit ?_ ?_)
        · intro h s s' r _ hinv hselected hrun
          refine ⟨none, claimLogic_moves hworker ht ?_ (fun _ h => by cases h), ?_⟩
          · rw [committed_commit hrun]
            exact Exclusive.claim hinv (hselected job rfl).2
              (nextPending_pending hjob).2 (Transaction.run_eq_ok.mp hrun).2
          · exact safe_of_calls (runClaimed_calls job) hquiet fun _ => trivial
        · intro h s e r _ hinv hselected hrun
          refine ⟨some job, claimLogic_moves hworker ht ?_ ?_, trivial⟩
          · rw [committed_failed hrun]
            exact hinv
          · rintro _ ⟨⟩
            exact (hselected job rfl).2

theorem claimLogic_sound
    (hworker : ∀ t u, request t = none → request u = none → t = u) :
    (claimLogic request).Sound (processes request adm) where
  symm _ _ _ := trivial
  idle_compat _ := trivial
  idle_holds _ _ _ _ job hjob := nomatch hjob
  spawn t p h := by
    obtain ⟨ht, rfl⟩ := h
    exact poll_safe hworker ht
  request _ _ req := req.elim

variable [DecidableEq τ]

/-- Exclusive claims: with one worker process, which may crash and start again
at any moment, and any number of requests in progress between its steps, two
claims of a job have a successful retry of that job between them. -/
theorem claims_separated
    (hworker : ∀ t u, request t = none → request u = none → t = u)
    {s : Database} {P : Pool τ Database Call Reply PyErr Outcome Empty Empty}
    (hreach : (processes request adm).Reach (boot request s) P) (id : String) :
    ClaimedOnce id (committed P.history) := by
  have hgood := Logic.reach_good (claimLogic_sound hworker) ?_ ?_ hreach
  · exact Exclusive.once hgood.1 id
  · exact exclusive_nil s
  · intro t
    change (claimLogic request).Safe _ t (program (request t)) _ none
    cases ht : request t with
    | none => exact poll_safe hworker ht
    | some req =>
        refine safe_of_calls (handleRequest_calls req) ?_ fun _ => trivial
        intro q hq
        exact (claimLogic_request hq t).steady none

end

section

variable [Deployment] {τ : Type} {request : τ → Option Request}
  {adm : (q : Call) → Reply q → Database → Prop}

/-- Nobody has to know anything when every claim finds its job pending. -/
def freshLogic : Logic τ Database Call Reply PyErr Outcome Empty Empty Unit where
  inv history s := Exclusive (committed history) s
  holds _ _ _ _ := True
  compat _ _ := True
  idle := ()
  post _ _ _ := True

theorem freshLogic_silent {q : Call} {t : τ}
    (hq : ∀ log s answer, adm q answer s → Exclusive log s →
      Exclusive (log ++ (q.committed answer s).toList) (q.write answer s)) :
    freshLogic.Silent (processes request adm) t q q.write := by
  intro h s answer hadm hinv
  refine ⟨?_, fun _ _ _ => trivial⟩
  change Exclusive (committed _) _
  rw [committed_act]
  exact hq _ s answer hadm hinv

theorem freshLogic_poll
    (hfresh : ∀ (loaded : Job) (r : DbReply) s, loaded.status = .pending →
      adm (.commit (.updateJob loaded { loaded with status := .running })) r s →
      Selected loaded s) (t : τ) :
    freshLogic.Safe (processes request adm) t poll (fun _ _ => True) () := by
  have hcalls : Calls (fun q => ClaimCall q ∨ WorkerCall q) poll :=
    pollOnce_calls.bind fun _ => calls_pure _
  refine safe_of_calls hcalls ?_ fun _ => trivial
  rintro q (hq | hq)
  · refine (freshLogic_silent ?_).steady ()
    intro log s answer hadm hinv
    cases hcommitted : q.committed answer s with
    | none =>
        rw [Call.write_of_committed_none hcommitted]
        simpa using hinv
    | some tx =>
        obtain ⟨rfl, r, happly⟩ := Call.apply_of_committed hcommitted
        cases hq with
        | claim hpending =>
            exact hinv.claim (hfresh _ answer s hpending hadm) hpending happly
  · exact (freshLogic_silent fun log s answer _ hinv =>
      hinv.worker hq answer).steady ()

variable [DecidableEq τ]

end

section Runs

local instance instClaims : Deployment := .sqlite

def noon : Moment := AuditService.sampleCreated.createdAt.moment

/-- A send whose payload has lost its approval. -/
def strayJob : Job where
  id := "j1"
  tenantId := none
  type := emailSendApprovedType
  status := .pending
  idempotencyKey := none
  payloadJson := none
  attempts := 0
  lastError := none
  runAfter := none
  createdAt := AuditService.sampleCreated.createdAt

def queue : Database where
  jobs := Table.empty.append strayJob ⟨by simp [Table.empty], by simp [Table.empty]⟩

abbrev Turn := System.Move Bool Database Call Reply PyErr Outcome Empty

def turn (t : Bool) : Turn := .act t (quiet noon "")

/-- One worker, and an operator who retries the job. -/
def retryOnce : Bool → Option Request
  | true => none
  | false => some (.retry "j1" none)

/-- The job fails and the worker crashes; after the retry it claims again. -/
def claimedAgain : List Turn :=
  List.replicate 7 (turn true) ++ .spawn true poll ::
    (List.replicate 3 (turn false) ++ List.replicate 2 (turn true))

theorem claimedAgain_allowed
    (P : Pool Bool Database Call Reply PyErr Outcome Empty Empty) :
    ∀ m ∈ claimedAgain, (processes retryOnce fun _ _ _ => True).Allows P m := by
  intro m hm
  have hcases : (∃ t, m = turn t) ∨ m = .spawn true poll := by
    simp only [claimedAgain, List.mem_append, List.mem_cons, List.mem_replicate] at hm
    grind
  rcases hcases with ⟨t, rfl⟩ | rfl
  · intro _ _ _ _
    trivial
  · exact ⟨rfl, rfl⟩

theorem claims_separated_retried :
    ∃ log : List Transaction, log.length = 5 ∧ ClaimedOnce "j1" log ∧
      log = committed ((processes retryOnce fun _ _ _ => True).play
        (boot retryOnce queue) claimedAgain).history := by
  refine ⟨_, ?_, claims_separated (s := queue) ?_
    (System.reach_play _ _ fun P => claimedAgain_allowed P) "j1", rfl⟩
  · rfl
  · intro t u ht hu
    cases t <;> cases u <;> simp_all [retryOnce]

/-- A job that was loaded as pending is written while it is pending. -/
def pendingOnly : (q : Call) → Reply q → Database → Bool
  | .commit (.updateJob loaded _), _, s =>
      loaded.status ≠ .pending || (s.jobs.find? loaded.id).any (·.status = .pending)
  | _, _, _ => true

theorem selected_of_pendingOnly (loaded : Job) (r : DbReply) (s : Database)
    (hloaded : loaded.status = .pending)
    (h : pendingOnly (.commit (.updateJob loaded { loaded with status := .running })) r s) :
    Selected loaded s := by
  obtain ⟨row, hfind, hpending⟩ : ∃ row, s.jobs.find? loaded.id = some row ∧
      row.status = .pending := by
    simpa [pendingOnly, hloaded, Option.any_eq_true] using h
  exact ⟨row, hfind, hpending⟩

/-- Two workers, and an operator who retries the job. -/
def twoAndOperator : Option Bool → Option Request
  | some _ => none
  | none => some (.retry "j1" none)

/-- The job fails at one worker, and the other claims it after the retry. -/
def relayed : List (System.Move (Option Bool) Database Call Reply PyErr Outcome Empty) :=
  List.replicate 7 (.act (some true) (quiet noon "")) ++
    (List.replicate 3 (.act none (quiet noon "")) ++
      List.replicate 2 (.act (some false) (quiet noon "")))

/-- Both workers select before either commits. -/
def selectedTwice : List Turn :=
  [turn true, turn false, turn true, turn false, turn true, turn false]

/-- With two workers, both may claim the job, and both are given it. -/
theorem two_workers_claim_one_job : ∃ P,
    (processes (fun _ : Bool => none) fun _ _ _ => True).Reach
        (boot (fun _ => none) queue) P ∧
      (∀ t, P.thread t =
        ((Runner.processJob { strayJob with status := .running }).bind
          fun _ => .pure true).bind fun found => .pure (.polled found)) ∧
      ¬ ClaimedOnce "j1" (committed P.history) := by
  refine ⟨(processes (fun _ => none) fun _ _ _ => True).play
    (boot (fun _ => none) queue) selectedTwice, System.reach_play _ _ ?_, ?_, ?_⟩
  · intro P m hm
    have hturn : ∃ t, m = turn t := by
      simp only [selectedTwice, List.mem_cons, List.not_mem_nil, or_false] at hm
      grind
    obtain ⟨t, rfl⟩ := hturn
    intro _ _ _ _
    trivial
  · intro t
    cases t <;> rfl
  · intro honce
    have hlog : committed ((processes (fun _ => none) fun _ _ _ => True).play
        (boot (fun _ => none) queue) selectedTwice).history =
          [] ++ Transaction.updateJob strayJob { strayJob with status := .running } ::
            ([] ++ .updateJob strayJob { strayJob with status := .running } :: []) :=
      rfl
    obtain ⟨r, hr, _⟩ := honce _ _ _ _ _ hlog ⟨rfl, rfl, rfl⟩ ⟨rfl, rfl, rfl⟩
    cases hr

end Runs

end JobService

end ControlPlane
