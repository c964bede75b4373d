import ControlPlane.Jobs.SendRecords

/-!
What the view of the deliveries shows. A delivery is written by the orchestration and by the
worker that sends it, and no decision touches it.
-/

namespace ControlPlane

open Lib JobService AuditService ApprovalService EmailService Tasks

/-- The worker has recorded how a send of the request ended. -/
def OutcomeRecorded (s : Database) (row : ApprovalRequest) : Prop :=
  ∃ job ∈ s.jobs.rows, SendsRequest job row ∧ ∃ e ∈ s.auditEvents.rows,
    e.resourceType = "job" ∧ e.resourceId = job.id ∧
      (e.action = AuditAction.sendJobSucceeded ∨ e.action = AuditAction.sendJobFailed)

section

variable {log : List (Event Call Reply)} {s : Database} {row : ApprovalRequest} {job : Job}
  {lines : List TrailLine} {replies : List (Except PyErr String)}

theorem mem_trail {kind id : String} {events : AuditTable} {line : TrailLine} :
    line ∈ trail kind id events ↔ ∃ e ∈ events.rows, e.resourceType = kind ∧
      e.resourceId = id ∧ (e.action, e.metadataJson) = line := by
  simp [trail, and_assoc]

/-- The outcomes of a request are in the trail of its job. -/
theorem outcomeRecorded_iff (hjob : job ∈ s.jobs.rows) (hof : SendsRequest job row)
    (honly : ∀ other ∈ s.jobs.rows, SendsRequest other row → other = job) :
    OutcomeRecorded s row ↔ ∃ line ∈ trail "job" job.id s.auditEvents,
      line.1 = AuditAction.sendJobSucceeded ∨ line.1 = AuditAction.sendJobFailed := by
  constructor
  · rintro ⟨other, hother, hsends, e, hmem, hkind, hid, haction⟩
    obtain rfl := honly other hother hsends
    exact ⟨_, mem_trail.mpr ⟨e, hmem, hkind, hid, rfl⟩, haction⟩
  · rintro ⟨line, hline, haction⟩
    obtain ⟨e, hmem, hkind, hid, rfl⟩ := mem_trail.mp hline
    exact ⟨job, hjob, hof, e, hmem, hkind, hid, haction⟩

/-- The trail of failures says whether one was recorded. -/
theorem recorded_failures (h : lines.map Prod.fst = failureTrail replies) :
    (∃ line ∈ lines, line.1 = AuditAction.sendJobSucceeded ∨
      line.1 = AuditAction.sendJobFailed) ↔ replies.any Reported = true := by
  rw [List.any_eq_true, ← List.countP_pos_iff]
  constructor
  · rintro ⟨line, hline, _⟩
    have hmem : line.1 ∈ failureTrail replies := h ▸ List.mem_map_of_mem hline
    exact Nat.pos_of_ne_zero (List.mem_replicate.mp hmem).1
  · intro hpos
    have hmem : AuditAction.sendJobFailed ∈ lines.map Prod.fst := by
      rw [h]
      exact List.mem_replicate.mpr ⟨hpos.ne', rfl⟩
    obtain ⟨line, hline, haction⟩ := List.mem_map.mp hmem
    exact ⟨line, hline, Or.inr haction⟩

theorem Undelivered.awaiting_iff {delivery : EmailDeliveryRecord}
    (h : Undelivered delivery replies) :
    delivery.status = .awaitingApproval ↔ ¬replies.any Reported = true := by
  rw [h.status_eq]
  split
  · next hreported => simp [hreported]
  · next hnone => exact iff_of_true rfl hnone

/-- A delivery without a job to send it. -/
theorem Filed.awaiting {id : String} {d : Dossier} {delivery : EmailDeliveryRecord}
    (h : Filed id d) (hjob : d.job = none) (hdelivery : d.delivery = some delivery) :
    delivery.status = .awaitingApproval := by
  cases h with
  | absent => cases hdelivery
  | undrafted => cases hdelivery
  | drafted _ _ _ _ hundelivered =>
      cases hdelivery
      exact hundelivered.status_eq
  | queued => cases hjob
  | sent => cases hjob

end

section

variable [Deployment] {heard : (q : Call) → Reply q → Prop} {log : List (Event Call Reply)}
  {s : Database} {row : ApprovalRequest} {delivery : EmailDeliveryRecord}

/-- After any complete operations on an empty database: the delivery of a request awaits
approval exactly until an outcome of its send is recorded, and none is recorded before the
request is approved. -/
theorem awaiting_until_recorded (husual : Usual heard) (h : SendHistory heard log s)
    (hrow : row ∈ s.approvals.rows) (hdelivery : delivery ∈ s.emailDeliveries.rows)
    (hof : delivery.approvalId = some row.id) :
    (delivery.status = .awaitingApproval ↔ ¬OutcomeRecorded s row) ∧
      (row.status ≠ .approved → ¬OutcomeRecorded s row) := by
  have hwired := h.wired husual
  have hfind := s.approvals.find?_key hrow
  have hunique := s.emailDeliveries.findUnique?_eq_some.mpr ⟨hdelivery, hof⟩
  cases hjob : s.jobs.findUnique? (sendKey row.id) with
  | none =>
      have hnone : ¬OutcomeRecorded s row := by
        rintro ⟨job, hmem, hsends, _⟩
        have hsome := (hwired.sending hrow hmem hsends).2
        rw [hjob] at hsome
        cases hsome
      refine ⟨iff_of_true ?_ hnone, fun _ => hnone⟩
      exact (hwired.files row.id).awaiting hjob hunique
  | some job =>
      obtain ⟨row', _, hrow', _, _, happroved, hsend⟩ := (hwired.files row.id).request hjob
      rw [show (dossier log s row.id).approval = some row from hfind] at hrow'
      cases hrow'
      have hmem := (s.jobs.findUnique?_eq_some.mp hjob).1
      have hsends : SendsRequest job row := ⟨hsend.type_eq, hsend.approval_eq⟩
      refine ⟨?_, fun hopen => absurd happroved hopen⟩
      rw [outcomeRecorded_iff hmem hsends (hwired.only_job hfind hjob), ← trail_of_job hjob]
      obtain ⟨delivery', hdelivery', ⟨_, _, hundelivered, _, _, hlines⟩ |
        ⟨messageId, _, _, hsent, _, _, _, htrail, _⟩⟩ :=
          (hwired.files row.id).sent_or hfind hjob
      · rw [show (dossier log s row.id).delivery = some delivery from hunique] at hdelivery'
        cases hdelivery'
        rw [hundelivered.awaiting_iff, recorded_failures hlines]
      · rw [show (dossier log s row.id).delivery = some delivery from hunique] at hdelivery'
        cases hdelivery'
        refine iff_of_false (by simp [hsent.delivery_eq]) (not_not.mpr ?_)
        rw [htrail]
        exact ⟨_, List.mem_append_right _ List.mem_cons_self, Or.inl rfl⟩

end

section Sample

local instance instViewDeployment : Deployment := instSendDeployment

def rejectedMail : Database :=
  (operated stubAnswers (some (.reject "row205" "ops" "no" (some "t1"))) 300 draftedMail).2.2

theorem rejected_sample :
    (program (some (.reject "row205" "ops" "no" (some "t1")))).admits (steady usual)
      stubAnswers 300 draftedMail = true ∧
    ∃ row ∈ rejectedMail.approvals.rows, ∃ delivery ∈ rejectedMail.emailDeliveries.rows,
      delivery.approvalId = some row.id ∧ row.status = .rejected ∧
        delivery.status = .awaitingApproval := by
  decide +kernel

theorem rejected_history : ∃ log, SendHistory usual log rejectedMail := by
  obtain ⟨log, h⟩ := drafted_history
  exact ⟨_, operated_history h rejected_sample.1⟩

theorem rejected_awaiting : ∃ row ∈ rejectedMail.approvals.rows,
    ∃ delivery ∈ rejectedMail.emailDeliveries.rows, delivery.approvalId = some row.id ∧
      row.status = .rejected ∧ delivery.status = .awaitingApproval :=
  rejected_sample.2

/-- The delivery of a rejected message awaits approval for ever. -/
theorem rejected_delivery_awaits : ¬∀ (log : List (Event Call Reply)) (s : Database),
    SendHistory usual log s → ∀ row ∈ s.approvals.rows, ∀ delivery ∈ s.emailDeliveries.rows,
      delivery.approvalId = some row.id → delivery.status = .awaitingApproval →
        row.status = .pending := by
  intro hclaim
  obtain ⟨log, h⟩ := rejected_history
  obtain ⟨row, hrow, delivery, hdelivery, hof, hrejected, hawaits⟩ := rejected_awaiting
  have hpending := hclaim log _ h row hrow delivery hdelivery hof hawaits
  rw [hrejected] at hpending
  cases hpending

theorem rejected_send_unrecorded : ∃ row ∈ rejectedMail.approvals.rows,
    ¬OutcomeRecorded rejectedMail row := by
  obtain ⟨log, h⟩ := rejected_history
  obtain ⟨row, hrow, delivery, hdelivery, hof, _, hawaits⟩ := rejected_awaiting
  exact ⟨row, hrow,
    (awaiting_until_recorded usual_self h hrow hdelivery hof).1.mp hawaits⟩

end Sample

end ControlPlane
