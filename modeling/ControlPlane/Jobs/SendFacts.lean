import ControlPlane.Jobs.SendGuard
import ControlPlane.System.Processes

/-!
What the worker knows between two of its actions while requests run: the job it has claimed is
still there, an approval it has read as approved is still as it was, and a request it has made
has no draft until the worker adds it. The rules say how its programs start and end with such
facts, and that all of their actions keep the guard.
-/

namespace ControlPlane

open Lib JobService AuditService ApprovalService EmailPersistence EmailService ChatOrchestrate
  Tasks Runner

/-- The provider names every message it sends. -/
def Delivers (adm : (q : Call) → Reply q → Database → Prop) : Prop :=
  ∀ approvalId draftId messageId s,
    adm (.sendApprovedDraft approvalId draftId) (.ok messageId) s → messageId ≠ ""

section

variable [Deployment]

/-- One worker, which may crash and start again at any moment, and requests, which run whole. -/
def installation (adm : (q : Call) → Reply q → Database → Prop) :
    System Unit Database Call Reply PyErr Outcome Request Outcome where
  adm := adm
  spawn _ p := p = poll
  body := handleRequest

/-- Something said of the messages sent, the approvals and the jobs. -/
structure RowFact (delivers : Prop) where
  holds : (String → Nat) → ApprovalTable → JobTable → Prop
  stable : ∀ {h s req s'}, SendsGuarded delivers h s → Served req s s' →
    holds (messagesSent h) s.approvals s.jobs → holds (messagesSent h) s'.approvals s'.jobs

namespace RowFact

variable {delivers P : Prop} {c d : RowFact delivers}

def Holds (c : RowFact delivers) (h : WorkLog) (s : Database) : Prop :=
  c.holds (messagesSent h) s.approvals s.jobs

def Implies (c d : RowFact delivers) : Prop :=
  ∀ h s, SendsGuarded delivers h s → c.Holds h s → d.Holds h s

def nothing : RowFact delivers where
  holds _ _ _ := True
  stable _ _ _ := trivial

def and (c d : RowFact delivers) : RowFact delivers where
  holds sent approvals jobs := c.holds sent approvals jobs ∧ d.holds sent approvals jobs
  stable hinv hserved h := ⟨c.stable hinv hserved h.1, d.stable hinv hserved h.2⟩

def when (P : Prop) (c : RowFact delivers) : RowFact delivers where
  holds sent approvals jobs := P → c.holds sent approvals jobs
  stable hinv hserved h hP := c.stable hinv hserved (h hP)

theorem Implies.refl (c : RowFact delivers) : c.Implies c := fun _ _ _ h => h

theorem Implies.trans {e : RowFact delivers} (h : c.Implies d) (h' : d.Implies e) :
    c.Implies e :=
  fun hist s hinv hc => h' hist s hinv (h hist s hinv hc)

theorem implies_nothing : c.Implies nothing := fun _ _ _ _ => trivial

theorem and_implies_left : (c.and d).Implies c := fun _ _ _ h => h.1

/-- The row of a loaded job, with what the worker reads of it as it was loaded. -/
structure Loaded (job : Job) (jobs : JobTable) (row : Job) : Prop where
  find : jobs.find? job.id = some row
  key_eq : row.idempotencyKey = job.idempotencyKey
  type_eq : row.type = job.type
  payload_eq : row.payloadJson = job.payloadJson

theorem Loaded.served {req : Request} {s s' : Database} {job row : Job}
    (h : Loaded job s.jobs row) (hserved : Served req s s') :
    ∃ row', Loaded job s'.jobs row' ∧ (row.status ≠ .failed → row'.status = row.status) := by
  obtain ⟨row', hfind, hkey, htype, hpayload, hstatus⟩ := hserved.job_kept h.find
  exact ⟨row', ⟨hfind, hkey.trans h.key_eq, htype.trans h.type_eq, hpayload.trans h.payload_eq⟩,
    hstatus⟩

omit [Deployment] in
theorem Loaded.refl {job : Job} {jobs : JobTable} (h : jobs.find? job.id = some job) :
    Loaded job jobs job :=
  ⟨h, rfl, rfl, rfl⟩

/-- The job waits for the worker. -/
def waiting (job : Job) : RowFact delivers where
  holds _ _ jobs := ∃ row, Loaded job jobs row ∧ row.status = .pending
  stable _ hserved := by
    rintro ⟨row, hrow, hpending⟩
    obtain ⟨row', hrow', hstatus⟩ := hrow.served hserved
    exact ⟨row', hrow', by rw [hstatus (by rw [hpending]; decide), hpending]⟩

/-- The job is in the table, and running if `busy`. -/
def present (busy : Prop) (job : Job) : RowFact delivers where
  holds _ _ jobs := ∃ row, Loaded job jobs row ∧ (busy → row.status = .running)
  stable _ hserved := by
    rintro ⟨row, hrow, hrunning⟩
    obtain ⟨row', hrow', hstatus⟩ := hrow.served hserved
    exact ⟨row', hrow', fun hbusy => by
      rw [hstatus (by rw [hrunning hbusy]; decide), hrunning hbusy]⟩

/-- Nothing has been sent for the job, or the row of the approval names the message. -/
def settledFor (job : Job) : RowFact delivers where
  holds sent approvals _ := ∀ id, job.idempotencyKey = some (sendKey id) → delivers →
    sent id = 0 ∨ MessageStored approvals id
  stable _ hserved h id hkey hdelivers := by
    refine (h id hkey hdelivers).imp_right ?_
    rintro ⟨row, hfind, hmessage⟩
    obtain ⟨row', hfind', _, hpayload⟩ := hserved.approval_kept hfind
    refine ⟨row', hfind', ?_⟩
    unfold NamesMessage
    rw [hpayload _ (by decide)]
    exact hmessage

/-- The worker may write the job. -/
def owned (busy : Prop) (job : Job) : RowFact delivers :=
  (present busy job).and (settledFor job)

/-- A row that was approved when it was loaded is as it was loaded. -/
def held (row : ApprovalRequest) : RowFact delivers where
  holds _ approvals _ := row.status = .approved → approvals.find? row.id = some row
  stable _ hserved h happroved := by
    obtain ⟨row', hfind, hsame, _⟩ := hserved.approval_kept (h happroved)
    rw [hfind, hsame (by rw [happroved]; decide)]

/-- The row is there, without a draft. -/
def undrafted (id : String) : RowFact delivers where
  holds _ approvals _ := ∃ row, approvals.find? id = some row ∧ ¬HasDraft row
  stable _ hserved := by
    rintro ⟨row, hfind, hdraft⟩
    obtain ⟨row', hfind', _, hpayload⟩ := hserved.approval_kept hfind
    refine ⟨row', hfind', ?_⟩
    unfold HasDraft at hdraft ⊢
    rwa [hpayload _ (by decide)]

theorem owned_mono {busy busy' : Prop} {job : Job} (h : busy' → busy) :
    (owned busy job : RowFact delivers).Implies (owned busy' job) := by
  rintro _ _ _ ⟨⟨row, hrow, hrunning⟩, hsettled⟩
  exact ⟨⟨row, hrow, fun hbusy => hrunning (h hbusy)⟩, hsettled⟩

/-- The job loaded again is the same to the worker. -/
theorem owned_of_loaded {busy : Prop} {job row : Job} {jobs : JobTable}
    (h : Loaded job jobs row) :
    (owned busy row : RowFact delivers).Implies (owned busy job) := by
  have hid : row.id = job.id := Table.key_of_find? h.find
  rintro _ _ _ ⟨⟨row', hrow', hrunning⟩, hsettled⟩
  refine ⟨⟨row', ⟨hid ▸ hrow'.find, hrow'.key_eq.trans h.key_eq,
    hrow'.type_eq.trans h.type_eq, hrow'.payload_eq.trans h.payload_eq⟩, hrunning⟩, ?_⟩
  intro id hkey
  exact hsettled id (h.key_eq.trans hkey)

end RowFact

theorem ElsewhereCall.keeps {q : Call} (h : ElsewhereCall q) (r : Reply q) (s : Database) :
    (q.write r s).approvals = s.approvals ∧ (q.write r s).jobs = s.jobs := by
  cases q with
  | select query => exact ⟨rfl, rfl⟩
  | createDraft threadId subject body => exact ⟨rfl, rfl⟩
  | readThread threadId => exact ⟨rfl, rfl⟩
  | sendApprovedDraft approvalId draftId => exact ⟨rfl, rfl⟩
  | commit tx =>
      obtain ⟨happrovals, hjobs⟩ := h.target_ne
      change (tx.write r s).approvals = s.approvals ∧ (tx.write r s).jobs = s.jobs
      cases hrun : tx.run r s with
      | ok s' =>
          rw [Transaction.write_of_ok hrun]
          have happly := (Transaction.run_eq_ok.mp hrun).2
          exact ⟨Transaction.approvals_of_apply happly happrovals,
            Transaction.jobs_of_apply happly hjobs⟩
      | error e =>
          rw [Transaction.write_of_error hrun]
          exact ⟨rfl, rfl⟩

omit [Deployment] in
theorem ElsewhereCall.notSend {q : Call} (h : ElsewhereCall q) (r : Reply q) (s : Database) :
    NotSend (.act () s ⟨q, r⟩) := by
  cases h <;> trivial

variable {adm : (q : Call) → Reply q → Database → Prop} {α β : Type}

abbrev Known (adm : (q : Call) → Reply q → Database → Prop) : Type :=
  StableFact (installation adm) (SendsGuarded (Delivers adm))

theorem RowFact.holds_concat {delivers : Prop} {c : RowFact delivers} {h : WorkLog}
    {s : Database} {entry : Entry Unit Database Call Reply PyErr Request Outcome}
    (hentry : NotSend entry) : c.Holds (h ++ [entry]) s ↔ c.Holds h s := by
  unfold RowFact.Holds
  rw [messagesSent_concat hentry]

def RowFact.known (c : RowFact (Delivers adm)) : Known adm where
  holds := c.Holds
  stable _ s req _ result _ hinv hc hrun :=
    (RowFact.holds_concat (show NotSend (.request s req result) from trivial)).mpr
      (c.stable hinv (served_request hrun).1 hc)

/-- What is known when a part of the worker ends. After an error of the session it is not
needed: nothing but a rollback can follow. -/
def ending (after : α → RowFact (Delivers adm)) (raised : RowFact (Delivers adm)) :
    Except PyErr α → Known adm
  | .ok value => (after value).known
  | .error e => (raised.when (e.poisons = false)).known

/-- Started with `before`, the part keeps the guard and ends with `after` or `raised`. -/
def Leads (before : RowFact (Delivers adm)) (p : Session α) (after : α → RowFact (Delivers adm))
    (raised : RowFact (Delivers adm)) : Prop :=
  Triple before.known p (ending after raised)

variable {c c' raised raised' : RowFact (Delivers adm)} {after after' : α → RowFact (Delivers adm)}

theorem leads_pure {value : α} (h : c.Implies (after value)) :
    Leads c (.pure value) after raised :=
  Triple.pure h

theorem leads_raise {e : PyErr} (h : e.poisons = false → c.Implies raised) :
    Leads c (.raise e : Session α) after raised :=
  Triple.raise fun hist s hinv hc he => h he hist s hinv hc

theorem Leads.weaken {p : Session α} (h : Leads c' p after raised) (hpre : c.Implies c') :
    Leads c p after raised :=
  Triple.weaken (show StableFact.Entails c.known c'.known from hpre) h

theorem Leads.mono {p : Session α} (h : Leads c p after raised)
    (hafter : ∀ value, (after value).Implies (after' value)) (hraised : raised.Implies raised') :
    Leads c p after' raised' := by
  refine Triple.mono h ?_
  rintro (e | value)
  · exact fun hist s hinv hc he => hraised hist s hinv (hc he)
  · exact hafter value

theorem Leads.bind {p : Session β} {d : β → RowFact (Delivers adm)} {k : β → Session α}
    (hp : Leads c p d raised) (hk : ∀ value, Leads (d value) (k value) after raised) :
    Leads c (p.bind k) after raised :=
  Triple.bind hp hk fun _ => StableFact.Entails.refl _

theorem leads_of_known {P : Prop} {p : Session α}
    (hP : ∀ h s, SendsGuarded (Delivers adm) h s → c.Holds h s → P)
    (h : P → Leads c p after raised) : Leads c p after raised :=
  Triple.of_known hP h

/-- What is known after a SELECT may depend on the rows it has found. -/
theorem leads_select_bind {query : Query} {read : Reading → Database → β} {k : β → Session α}
    (h : ∀ hist s r, SendsGuarded (Delivers adm) hist s → c.Holds hist s →
      ∃ c' : RowFact (Delivers adm), c'.Holds hist s ∧ Leads c' (k (read r s)) after raised) :
    Leads c ((select query read).bind k) after raised := by
  refine Triple.act ?_
  intro hist s answer _ hinv hc
  obtain ⟨c', hc', hnext⟩ := h hist s answer hinv hc
  have hentry : NotSend (.act () s ⟨.select query, answer⟩) := trivial
  exact ⟨hinv.acted hentry, c'.known, (RowFact.holds_concat hentry).mpr hc', hnext⟩

/-- A commit that fails raises an error of the session. -/
theorem leads_commit_bind {tx : Transaction} {k : DbReply → Session α}
    (h : ∀ hist s s' r, SendsGuarded (Delivers adm) hist s → c.Holds hist s →
      tx.apply r s = some s' → SendsGuarded (Delivers adm) hist s' ∧
        ∃ c' : RowFact (Delivers adm), c'.Holds hist s' ∧ Leads c' (k r) after raised) :
    Leads c ((commit tx).bind k) after raised := by
  refine Triple.act ?_
  intro hist s answer _ hinv hc
  have hentry : NotSend (.act () s ⟨.commit tx, answer⟩) := trivial
  dsimp only
  cases hrun : tx.run answer s with
  | ok s' =>
      obtain ⟨hinv', c', hc', hnext⟩ :=
        h hist s s' answer hinv hc (Transaction.run_eq_ok.mp hrun).2
      rw [Transaction.write_of_ok hrun]
      exact ⟨hinv'.acted hentry, c'.known, (RowFact.holds_concat hentry).mpr hc', hnext⟩
  | error e =>
      obtain ⟨kind, message, rfl⟩ := error_of_run hrun
      rw [Transaction.write_of_error hrun]
      refine ⟨hinv.acted hentry, RowFact.nothing.known, trivial, leads_raise ?_⟩
      rintro ⟨⟩

theorem leads_elsewhere {p : Session α} (hp : Calls ElsewhereCall p) :
    Leads c p (fun _ => c) c := by
  refine Triple.mono (Triple.of_uses (Prog.Uses.mono hp ?_)) ?_
  · rintro q w ⟨rfl, hq⟩ hist s answer _ hinv hc
    obtain ⟨happrovals, hjobs⟩ := hq.keeps answer s
    refine ⟨(hinv.of_tables happrovals hjobs).acted (hq.notSend answer s),
      (RowFact.holds_concat (hq.notSend answer s)).mpr ?_⟩
    unfold RowFact.Holds
    rw [happrovals, hjobs]
    exact hc
  · rintro (e | value)
    · exact fun hist s hinv hc he => hc
    · exact StableFact.Entails.refl _

theorem leads_elsewhere_bind {p : Session β} {k : β → Session α} (hp : Calls ElsewhereCall p)
    (hraised : c.Implies raised) (hk : ∀ value, Leads c (k value) after raised) :
    Leads c (p.bind k) after raised :=
  ((leads_elsewhere hp).mono (fun _ => RowFact.Implies.refl c) hraised).bind hk

end

end ControlPlane
