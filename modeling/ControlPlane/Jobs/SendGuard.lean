import ControlPlane.App.RequestSteps
import ControlPlane.Jobs.Dossier
import ControlPlane.Lib.Interference
import ControlPlane.Lib.Log

/-!
What keeps a send from happening without an approval, or twice. A send job belongs to an
approved row whose draft was there when an approve request met it; once a message has gone out,
the job is running or the row holds the id of the message. Requests that run whole between the
actions of the worker keep this.
-/

namespace ControlPlane

open Lib JobService AuditService ApprovalService EmailService

/-- The actions of the worker and the requests so far. -/
abbrev WorkLog := List (Entry Unit Database Call Reply PyErr Request Outcome)

/-- How many messages the provider has sent for the approval. -/
def messagesSent (h : WorkLog) (id : String) : Nat :=
  (sends (events h) id).countP Except.isOk

/-- Not a call of the provider to send. -/
def NotSend : Entry Unit Database Call Reply PyErr Request Outcome → Prop
  | .act _ _ ⟨.sendApprovedDraft _ _, _⟩ => False
  | _ => True

theorem messagesSent_concat {h : WorkLog}
    {entry : Entry Unit Database Call Reply PyErr Request Outcome} (hentry : NotSend entry) :
    messagesSent (h ++ [entry]) = messagesSent h := by
  funext id
  have hnone : sends (events [entry]) id = [] := by
    cases entry with
    | request before req result => rfl
    | act t before event =>
        obtain ⟨call, answer⟩ := event
        cases call with
        | sendApprovedDraft approvalId draftId => cases hentry
        | _ => rfl
  unfold messagesSent sends at *
  rw [events_append, List.filterMap_append, List.countP_append, hnone]
  rfl

theorem messagesSent_send {h : WorkLog} {s : Database} {approvalId : String} {draftId : Json}
    {r : Except PyErr String} (id : String) :
    messagesSent (h ++ [.act () s ⟨.sendApprovedDraft approvalId draftId, r⟩]) id =
      messagesSent h id + if approvalId = id ∧ r.isOk = true then 1 else 0 := by
  have hlast : sends (events ([.act () s ⟨.sendApprovedDraft approvalId draftId, r⟩] : WorkLog))
      id = if approvalId = id then [r] else [] := by
    change List.filterMap (sendReply id) [⟨.sendApprovedDraft approvalId draftId, r⟩] = _
    simp only [List.filterMap_cons, List.filterMap_nil, sendReply]
    split <;> simp_all
  unfold messagesSent sends at *
  rw [events_append, List.filterMap_append, List.countP_append, hlast]
  congr 1
  by_cases hid : approvalId = id <;> cases r <;> simp [hid, Except.isOk, Except.toBool]

/-- The payload holds the id of a message. -/
def NamesMessage (row : ApprovalRequest) : Prop :=
  Json.truthy ((loads row.payloadJson).get? "gmail_message_id") = true

def MessageStored (approvals : ApprovalTable) (id : String) : Prop :=
  ∃ row, approvals.find? id = some row ∧ NamesMessage row

/-- An approve request has met the pending row with this draft. -/
def Endorsed (h : WorkLog) (id : String) (draft : Json) : Prop :=
  ∃ before actor note tenantId result row,
    .request before (.approve id actor note tenantId) result ∈ h ∧
      before.approvals.find? id = some row ∧ row.status = .pending ∧
        (loads row.payloadJson).get? "gmail_draft_id" = some draft

/-- A reject request has succeeded. -/
def Rejection (h : WorkLog) (id : String) : Prop :=
  ∃ before actor reason tenantId outcome,
    .request before (.reject id actor reason tenantId) (.ok outcome) ∈ h

/-- The row is approved, with the draft it was approved with. -/
structure Cleared (h : WorkLog) (approvals : ApprovalTable) (id : String) (draft : Json) :
    Prop where
  row : ∃ row, approvals.find? id = some row ∧ row.kind = jobGate ∧ row.status = .approved ∧
    (loads row.payloadJson).get? "gmail_draft_id" = some draft
  truthy : Json.truthy (some draft) = true
  endorsed : Endorsed h id draft

theorem Cleared.mono {h h' : WorkLog} {approvals : ApprovalTable} {id : String} {draft : Json}
    (hcleared : Cleared h approvals id draft) (hsub : h ⊆ h') :
    Cleared h' approvals id draft where
  row := hcleared.row
  truthy := hcleared.truthy
  endorsed := by
    obtain ⟨before, actor, note, tenantId, result, row, hmem, hrest⟩ := hcleared.endorsed
    exact ⟨before, actor, note, tenantId, result, row, hsub hmem, hrest⟩

theorem Cleared.hasDraft {h : WorkLog} {approvals : ApprovalTable} {id : String} {draft : Json}
    (hcleared : Cleared h approvals id draft) {row : ApprovalRequest}
    (hfind : approvals.find? id = some row) : HasDraft row := by
  obtain ⟨row', hfind', _, _, hdraft⟩ := hcleared.row
  obtain rfl : row' = row := Option.some.inj (hfind'.symm.trans hfind)
  unfold HasDraft
  rw [hdraft]
  exact hcleared.truthy

/-- `delivers` says that the provider names every message it sends. -/
structure SendsGuarded (delivers : Prop) (h : WorkLog) (s : Database) : Prop where
  gated : ∀ row ∈ s.approvals.rows, row.kind = jobGate
  keyed : ∀ job ∈ s.jobs.rows, job.type = emailSendApprovedType →
    ∃ id, job.idempotencyKey = some (sendKey id)
  cleared : ∀ job ∈ s.jobs.rows, ∀ id, job.idempotencyKey = some (sendKey id) →
    (loads job.payloadJson).get? "approval_id" = some (.str id) ∧
      ∃ draft, Cleared h s.approvals id draft
  once : delivers → ∀ id, messagesSent h id ≠ 0 → messagesSent h id = 1 ∧
    ∃ job ∈ s.jobs.rows, job.idempotencyKey = some (sendKey id) ∧
      (job.status = .running ∨ MessageStored s.approvals id)
  rejected : ∀ id, Rejection h id →
    ∃ row, s.approvals.find? id = some row ∧ row.status = .rejected
  sent : ∀ before store id draft answer after,
    h = before ++ .act () store ⟨.sendApprovedDraft id draft, answer⟩ :: after →
      Cleared before store.approvals id draft ∧ (delivers → messagesSent before id = 0) ∧
        ∃ row, s.approvals.find? id = some row ∧ row.status = .approved

variable {delivers : Prop} {h : WorkLog} {s s' : Database}

theorem sendsGuarded_empty : SendsGuarded delivers [] {} where
  gated := by rintro _ ⟨⟩
  keyed := by rintro _ ⟨⟩
  cleared := by rintro _ ⟨⟩
  once _ _ hsent := absurd rfl hsent
  rejected := by rintro _ ⟨_, _, _, _, _, ⟨⟩⟩
  sent before store id draft answer after heq := by simp at heq

namespace SendsGuarded

/-- Only the approvals and the jobs matter. -/
theorem of_tables (hinv : SendsGuarded delivers h s) (happrovals : s'.approvals = s.approvals)
    (hjobs : s'.jobs = s.jobs) : SendsGuarded delivers h s' where
  gated := happrovals ▸ hinv.gated
  keyed := hjobs ▸ hinv.keyed
  cleared := by
    rw [hjobs, happrovals]
    exact hinv.cleared
  once := by
    rw [hjobs, happrovals]
    exact hinv.once
  rejected := happrovals ▸ hinv.rejected
  sent := happrovals ▸ hinv.sent

/-- The log grows by anything but a send. A rejection that is logged has to be in the store. -/
theorem logged (hinv : SendsGuarded delivers h s)
    {entry : Entry Unit Database Call Reply PyErr Request Outcome} (hentry : NotSend entry)
    (hrejected : ∀ id, Rejection [entry] id →
      ∃ row, s.approvals.find? id = some row ∧ row.status = .rejected) :
    SendsGuarded delivers (h ++ [entry]) s where
  gated := hinv.gated
  keyed := hinv.keyed
  cleared job hjob id hkey := by
    obtain ⟨hpayload, draft, hcleared⟩ := hinv.cleared job hjob id hkey
    exact ⟨hpayload, draft, hcleared.mono (List.subset_append_left _ _)⟩
  once := by
    rw [messagesSent_concat hentry]
    exact hinv.once
  rejected id := by
    rintro ⟨before, actor, reason, tenantId, outcome, hmem⟩
    rcases List.mem_append.mp hmem with hold | hnew
    · exact hinv.rejected id ⟨before, actor, reason, tenantId, outcome, hold⟩
    · exact hrejected id ⟨before, actor, reason, tenantId, outcome, hnew⟩
  sent before store id draft answer after heq := by
    rcases Log.concat_eq_append_cons heq with ⟨_, rfl, _⟩ | ⟨rest, _, hbefore⟩
    · cases hentry
    · exact hinv.sent before store id draft answer rest hbefore

/-- An action that is not a send. -/
theorem acted (hinv : SendsGuarded delivers h s') {q : Call} {r : Reply q}
    (hentry : NotSend (.act () s ⟨q, r⟩)) :
    SendsGuarded delivers (h ++ [.act () s ⟨q, r⟩]) s' := by
  refine hinv.logged hentry ?_
  rintro id ⟨before, actor, reason, tenantId, outcome, hmem⟩
  cases List.mem_singleton.mp hmem

/-- Decided rows keep their status, and rows with a draft keep it and their message. -/
structure Rewrites (old new : ApprovalTable) : Prop where
  kinds : ∀ row' ∈ new.rows, row'.kind = jobGate
  kept : ∀ id row, old.find? id = some row → ∃ row', new.find? id = some row' ∧
    (row.status ≠ .pending → row'.status = row.status) ∧
      (HasDraft row → (loads row'.payloadJson).get? "gmail_draft_id" =
        (loads row.payloadJson).get? "gmail_draft_id" ∧ (NamesMessage row → NamesMessage row'))

theorem rewritten (hinv : SendsGuarded delivers h s) (hjobs : s'.jobs = s.jobs)
    (hrows : Rewrites s.approvals s'.approvals) : SendsGuarded delivers h s' := by
  have hcleared : ∀ {id draft}, Cleared h s.approvals id draft →
      Cleared h s'.approvals id draft := by
    intro id draft hcleared
    obtain ⟨row, hfind, _, hstatus, hdraft⟩ := hcleared.row
    obtain ⟨row', hfind', hkept, hpayload⟩ := hrows.kept id row hfind
    refine ⟨⟨row', hfind', hrows.kinds row' (Table.mem_of_find? hfind'), ?_, ?_⟩,
      hcleared.truthy, hcleared.endorsed⟩
    · rw [hkept (by rw [hstatus]; decide), hstatus]
    · rw [(hpayload (hcleared.hasDraft hfind)).1, hdraft]
  have hstatus : ∀ {id} {status : ApprovalStatus}, status ≠ .pending →
      (∃ row, s.approvals.find? id = some row ∧ row.status = status) →
        ∃ row, s'.approvals.find? id = some row ∧ row.status = status := by
    rintro id status hne ⟨row, hfind, rfl⟩
    obtain ⟨row', hfind', hkept, _⟩ := hrows.kept id row hfind
    exact ⟨row', hfind', hkept hne⟩
  constructor
  · exact hrows.kinds
  · exact hjobs ▸ hinv.keyed
  · rw [hjobs]
    intro job hjob id hkey
    obtain ⟨hpayload, draft, hold⟩ := hinv.cleared job hjob id hkey
    exact ⟨hpayload, draft, hcleared hold⟩
  · rw [hjobs]
    intro hdelivers id hsent
    obtain ⟨hone, job, hjob, hkey, hrunning | ⟨row, hfind, hmessage⟩⟩ :=
      hinv.once hdelivers id hsent
    · exact ⟨hone, job, hjob, hkey, Or.inl hrunning⟩
    · obtain ⟨row', hfind', _, hpayload⟩ := hrows.kept id row hfind
      obtain ⟨_, draft, hold⟩ := hinv.cleared job hjob id hkey
      exact ⟨hone, job, hjob, hkey,
        Or.inr ⟨row', hfind', (hpayload (hold.hasDraft hfind)).2 hmessage⟩⟩
  · exact fun id hrejected => hstatus (by decide) (hinv.rejected id hrejected)
  · intro before store id draft answer after heq
    obtain ⟨hold, hfirst, happroved⟩ := hinv.sent before store id draft answer after heq
    exact ⟨hold, hfirst, hstatus (by decide) happroved⟩

/-- A row that was not there before. -/
theorem rewrites_insert (hinv : SendsGuarded delivers h s) {row : ApprovalRequest}
    {approvals : ApprovalTable} (hfresh : s.approvals.find? row.id = none)
    (hputs : s.approvals.Puts approvals row) (hkind : row.kind = jobGate) :
    Rewrites s.approvals approvals where
  kinds row' hrow' := by
    rcases hputs.mem.mp hrow' with rfl | ⟨hold, _⟩
    · exact hkind
    · exact hinv.gated row' hold
  kept id old hold := by
    have hid : id ≠ row.id := by
      rintro rfl
      rw [hfresh] at hold
      cases hold
    exact ⟨old, (hputs.other id hid).trans hold, fun _ => rfl,
      fun _ => ⟨rfl, fun hmessage => hmessage⟩⟩

/-- A row that is written again. -/
theorem rewrites_update (hinv : SendsGuarded delivers h s) {old row : ApprovalRequest}
    {approvals : ApprovalTable} (hputs : s.approvals.Puts approvals row)
    (hold : s.approvals.find? row.id = some old) (hkind : row.kind = old.kind)
    (hstatus : old.status ≠ .pending → row.status = old.status)
    (hdraft : HasDraft old → (loads row.payloadJson).get? "gmail_draft_id" =
      (loads old.payloadJson).get? "gmail_draft_id" ∧ (NamesMessage old → NamesMessage row)) :
    Rewrites s.approvals approvals where
  kinds row' hrow' := by
    rcases hputs.mem.mp hrow' with rfl | ⟨hmem, _⟩
    · exact hkind.trans (hinv.gated old (Table.mem_of_find? hold))
    · exact hinv.gated row' hmem
  kept id other hother := by
    by_cases hid : id = row.id
    · rw [hid, hold] at hother
      cases hother
      exact ⟨row, hid ▸ hputs.self, hstatus, hdraft⟩
    · exact ⟨other, (hputs.other id hid).trans hother, fun _ => rfl,
        fun _ => ⟨rfl, fun hmessage => hmessage⟩⟩

/-- Jobs keep their keys, a new send is one of a cleared approval, and a job that stops running
has sent nothing or left the id of the message. -/
structure Reschedules (delivers : Prop) (h : WorkLog) (s : Database) (jobs : JobTable) :
    Prop where
  origin : ∀ job' ∈ jobs.rows,
    (∃ job ∈ s.jobs.rows, job'.idempotencyKey = job.idempotencyKey ∧ job'.type = job.type ∧
      ∀ id, job.idempotencyKey = some (sendKey id) →
        (loads job'.payloadJson).get? "approval_id" =
          (loads job.payloadJson).get? "approval_id") ∨
    (job'.type ≠ emailSendApprovedType ∧ job'.idempotencyKey = none) ∨
    ∃ id draft, job'.idempotencyKey = some (sendKey id) ∧
      (loads job'.payloadJson).get? "approval_id" = some (.str id) ∧
        Cleared h s.approvals id draft
  kept : ∀ job ∈ s.jobs.rows, ∃ job' ∈ jobs.rows, job'.idempotencyKey = job.idempotencyKey ∧
    (job.status = .running → job'.status = .running ∨
      ∀ id, job.idempotencyKey = some (sendKey id) → delivers →
        messagesSent h id = 0 ∨ MessageStored s.approvals id)

theorem rescheduled (hinv : SendsGuarded delivers h s)
    (happrovals : s'.approvals = s.approvals) (hjobs : Reschedules delivers h s s'.jobs) :
    SendsGuarded delivers h s' where
  gated := happrovals ▸ hinv.gated
  keyed job' hjob' htype := by
    rcases hjobs.origin job' hjob' with ⟨job, hjob, hkey, hsame, _⟩ | ⟨hother, _⟩ |
        ⟨id, _, hkey, _⟩
    · rw [hkey]
      exact hinv.keyed job hjob (hsame ▸ htype)
    · exact absurd htype hother
    · exact ⟨id, hkey⟩
  cleared job' hjob' id hkey := by
    rw [happrovals]
    rcases hjobs.origin job' hjob' with ⟨job, hjob, hsame, _, hpayload⟩ | ⟨_, hnone⟩ |
        ⟨id', draft, hkey', hpayload, hcleared⟩
    · rw [hsame] at hkey
      rw [hpayload id hkey]
      exact hinv.cleared job hjob id hkey
    · rw [hnone] at hkey
      cases hkey
    · rw [hkey] at hkey'
      obtain rfl := sendKey_injective (Option.some.inj hkey')
      exact ⟨hpayload, draft, hcleared⟩
  once hdelivers id hsent := by
    rw [happrovals]
    obtain ⟨hone, job, hjob, hkey, hstate⟩ := hinv.once hdelivers id hsent
    obtain ⟨job', hjob', hsame, hrunning⟩ := hjobs.kept job hjob
    refine ⟨hone, job', hjob', hsame.trans hkey, ?_⟩
    rcases hstate with hstate | hstored
    · rcases hrunning hstate with hrunning | hclosed
      · exact Or.inl hrunning
      · exact (hclosed id hkey hdelivers).imp (absurd · hsent) fun h => h
    · exact Or.inr hstored
  rejected := happrovals ▸ hinv.rejected
  sent := happrovals ▸ hinv.sent

/-- A job that was not there before. -/
theorem reschedules_insert {job : Job} {jobs : JobTable} (hfresh : s.jobs.find? job.id = none)
    (hputs : s.jobs.Puts jobs job)
    (hnew : (job.type ≠ emailSendApprovedType ∧ job.idempotencyKey = none) ∨
      ∃ id draft, job.idempotencyKey = some (sendKey id) ∧
        (loads job.payloadJson).get? "approval_id" = some (.str id) ∧
          Cleared h s.approvals id draft) : Reschedules delivers h s jobs where
  origin job' hjob' := by
    rcases hputs.mem.mp hjob' with rfl | ⟨hold, _⟩
    · exact Or.inr hnew
    · exact Or.inl ⟨job', hold, rfl, rfl, fun _ _ => rfl⟩
  kept old hold := by
    have hne : old.id ≠ job.id := by
      intro heq
      have hfind := s.jobs.find?_key hold
      rw [heq, hfresh] at hfind
      cases hfind
    exact ⟨old, hputs.mem.mpr (Or.inr ⟨hold, hne⟩), rfl, Or.inl⟩

/-- A job that is written again. -/
theorem reschedules_update {old job : Job} {jobs : JobTable}
    (hputs : s.jobs.Puts jobs job) (hold : s.jobs.find? job.id = some old)
    (hkey : job.idempotencyKey = old.idempotencyKey) (htype : job.type = old.type)
    (happroval : (loads job.payloadJson).get? "approval_id" =
      (loads old.payloadJson).get? "approval_id")
    (hrunning : old.status = .running → job.status = .running ∨
      ∀ id, old.idempotencyKey = some (sendKey id) → delivers →
        messagesSent h id = 0 ∨ MessageStored s.approvals id) :
    Reschedules delivers h s jobs where
  origin job' hjob' := by
    rcases hputs.mem.mp hjob' with rfl | ⟨hmem, _⟩
    · exact Or.inl ⟨old, Table.mem_of_find? hold, hkey, htype, fun _ _ => happroval⟩
    · exact Or.inl ⟨job', hmem, rfl, rfl, fun _ _ => rfl⟩
  kept other hother := by
    by_cases hid : other.id = job.id
    · have hfind := s.jobs.find?_key hother
      rw [hid, hold] at hfind
      cases hfind
      exact ⟨job, Table.mem_of_find? hputs.self, hkey, hrunning⟩
    · exact ⟨other, hputs.mem.mpr (Or.inr ⟨hother, hid⟩), rfl, Or.inl⟩

/-- A job that does not run has sent nothing, or left the id of the message. -/
theorem settled (hinv : SendsGuarded delivers h s) {job : Job} {id : String}
    (hjob : job ∈ s.jobs.rows) (hkey : job.idempotencyKey = some (sendKey id))
    (hidle : job.status ≠ .running) (hdelivers : delivers) :
    messagesSent h id = 0 ∨ MessageStored s.approvals id := by
  by_cases hsent : messagesSent h id = 0
  · exact Or.inl hsent
  · obtain ⟨_, other, hother, hkey', hstate⟩ := hinv.once hdelivers id hsent
    obtain rfl : other = job := s.jobs.eq_of_uniq hother hjob hkey' hkey
    exact Or.inr (hstate.resolve_left hidle)

/-- A running job sends what it is there to send, unless it has done so before. -/
theorem send (hinv : SendsGuarded delivers h s) {job : Job} {id : String} {draft : Json}
    {answer : Except PyErr String} (hjob : job ∈ s.jobs.rows)
    (hkey : job.idempotencyKey = some (sendKey id)) (hrunning : job.status = .running)
    (hcleared : Cleared h s.approvals id draft)
    (hfirst : delivers → messagesSent h id = 0) :
    SendsGuarded delivers (h ++ [.act () s ⟨.sendApprovedDraft id draft, answer⟩]) s where
  gated := hinv.gated
  keyed := hinv.keyed
  cleared other hother k hkeyed := by
    obtain ⟨hpayload, draft', hold⟩ := hinv.cleared other hother k hkeyed
    exact ⟨hpayload, draft', hold.mono (List.subset_append_left _ _)⟩
  once hdelivers k hsent := by
    rw [messagesSent_send] at hsent ⊢
    by_cases hnew : id = k ∧ answer.isOk = true
    · rw [if_pos hnew, ← hnew.1, hfirst hdelivers]
      exact ⟨rfl, job, hjob, hkey, Or.inl hrunning⟩
    · rw [if_neg hnew, Nat.add_zero] at hsent ⊢
      exact hinv.once hdelivers k hsent
  rejected k := by
    rintro ⟨before, actor, reason, tenantId, outcome, hmem⟩
    rcases List.mem_append.mp hmem with hold | hnew
    · exact hinv.rejected k ⟨before, actor, reason, tenantId, outcome, hold⟩
    · cases List.mem_singleton.mp hnew
  sent before store k draft' answer' after heq := by
    rcases Log.concat_eq_append_cons heq with ⟨rfl, hentry, _⟩ | ⟨rest, _, hbefore⟩
    · cases hentry
      obtain ⟨row, hfind, _, hstatus, _⟩ := hcleared.row
      exact ⟨hcleared, hfirst, row, hfind, hstatus⟩
    · exact hinv.sent before store k draft' answer' rest hbefore

theorem rewrites_decided [Deployment] (hinv : SendsGuarded delivers h s) {row : ApprovalRequest}
    {status : ApprovalStatus} {decision : Dict} {now : Moment} {approvals : ApprovalTable}
    (hfind : s.approvals.find? row.id = some row) (hpending : row.status = .pending)
    (hputs : s.approvals.Puts approvals (decided row status decision now)) :
    Rewrites s.approvals approvals := by
  have hget : ∀ {k : String}, k ≠ "decision" →
      (loads (decided row status decision now).payloadJson).get? k =
        (loads row.payloadJson).get? k := decided_get
  refine hinv.rewrites_update hputs hfind rfl
    (fun hne => absurd hpending hne) fun _ => ⟨hget (by decide), fun hmessage => ?_⟩
  unfold NamesMessage
  rw [hget (by decide)]
  exact hmessage

theorem approve_of_decisionOn {id : String} {req : Request}
    (h : decisionOn id req = some .approved) :
    ∃ actor note tenantId, req = .approve id actor note tenantId := by
  cases req with
  | approve approvalId actor note tenantId =>
      simp only [decisionOn] at h
      split at h
      · next hid => exact ⟨actor, note, tenantId, hid ▸ rfl⟩
      · cases h
  | reject approvalId actor reason tenantId =>
      simp only [decisionOn] at h
      split at h <;> cases h
  | chat body tenantId => cases h
  | retry jobId tenantId => cases h

/-- A request keeps the guard, whatever it is answered. -/
theorem request [Deployment] {adm : (q : Call) → Reply q → Database → Prop} {req : Request}
    {trace : List (Event Call Reply)} {result : Except PyErr Outcome}
    (hinv : SendsGuarded delivers h s)
    (hrun : Prog.Runs adm (handleRequest req) s trace result s') :
    SendsGuarded delivers (h ++ [.request s req result]) s' := by
  obtain ⟨hserved, hstored⟩ := served_request hrun
  have hrejected : ∀ id, Rejection [.request s req result] id →
      ∃ row, s'.approvals.find? id = some row ∧ row.status = .rejected := by
    rintro id ⟨before, actor, reason, tenantId, outcome, hmem⟩
    cases List.mem_singleton.mp hmem
    exact hstored id actor reason tenantId rfl ⟨outcome, rfl⟩
  have hlogged : ∀ {s₁ : Database}, s₁.approvals = s'.approvals →
      SendsGuarded delivers h s₁ → SendsGuarded delivers (h ++ [.request s req result]) s₁ :=
    fun happrovals hinv => hinv.logged trivial (happrovals ▸ hrejected)
  cases hserved with
  | unchanged happrovals hjobs => exact hlogged rfl (hinv.of_tables happrovals hjobs)
  | asked hfresh htype hkey happrovals hputs =>
      refine hlogged rfl (hinv.rescheduled happrovals (reschedules_insert hfresh hputs ?_))
      exact Or.inl ⟨by rw [htype]; decide, hkey⟩
  | decided hfind hpending _ hputs hjobs =>
      exact hlogged rfl (hinv.rewritten hjobs (hinv.rewrites_decided hfind hpending hputs))
  | @enqueued row decision now job hfind hpending hasks hdraft hputs hjob hqueued =>
      have hrows := hinv.rewrites_decided hfind hpending hputs
      have hdecided : SendsGuarded delivers (h ++ [.request s req result])
          { s with approvals := s'.approvals } :=
        hlogged rfl (hinv.rewritten rfl hrows)
      obtain ⟨actor, note, tenantId, rfl⟩ := approve_of_decisionOn hasks
      obtain ⟨draft, hget⟩ : ∃ draft, (loads row.payloadJson).get? "gmail_draft_id" =
          some draft := by
        unfold HasDraft at hdraft
        cases hget : (loads row.payloadJson).get? "gmail_draft_id" with
        | none =>
            rw [hget] at hdraft
            cases hdraft
        | some draft => exact ⟨draft, rfl⟩
      refine hdecided.rescheduled rfl (reschedules_insert hjob.fresh hqueued
        (Or.inr ⟨row.id, draft, hjob.key_eq, ?_, ?_⟩))
      · rw [hjob.payload_eq]
        rfl
      · exact {
          row := ⟨_, hputs.self, hinv.gated row (Table.mem_of_find? hfind), rfl,
            (decided_get (by decide)).trans hget⟩
          truthy := hget ▸ hdraft
          endorsed := ⟨s, actor, note, tenantId, result, row, List.mem_append_right _
            (List.mem_singleton_self _), hfind, hpending, hget⟩ }
  | retried hfind hfailed happrovals hputs =>
      refine hlogged rfl (hinv.rescheduled happrovals
        (reschedules_update hputs hfind rfl rfl rfl ?_))
      rw [hfailed]
      rintro ⟨⟩

end SendsGuarded

end ControlPlane
