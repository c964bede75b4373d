import ControlPlane.Db.Session

/-!
What a transaction leaves alone: it writes one table, and in that table one row.
-/

namespace ControlPlane

open Lib

inductive Target where
  | auditEvents
  | jobs
  | approvals
  | emailDeliveries
  | emailThreads
  deriving DecidableEq, Repr

namespace Transaction

/-- The table a transaction writes. -/
def target : Transaction → Target
  | .insertAudit _ => .auditEvents
  | .insertJob _ => .jobs
  | .updateJob _ _ => .jobs
  | .insertApproval _ => .approvals
  | .updateApproval _ _ => .approvals
  | .insertDelivery _ => .emailDeliveries
  | .updateDelivery _ _ => .emailDeliveries
  | .insertThread _ => .emailThreads
  | .updateThread _ _ => .emailThreads

variable [Deployment] {tx : Transaction} {r : DbReply} {s s' : Database}

theorem auditEvents_of_apply (h : tx.apply r s = some s')
    (htarget : tx.target ≠ .auditEvents) : s'.auditEvents = s.auditEvents := by
  cases tx with
  | insertAudit row => exact absurd rfl htarget
  | insertJob row | insertApproval row | insertDelivery row | insertThread row =>
      obtain ⟨T, _, rfl⟩ := Option.map_eq_some_iff.mp h
      rfl
  | updateJob loaded new | updateApproval loaded new | updateDelivery loaded new
    | updateThread loaded new =>
      cases h
      rfl

theorem jobs_of_apply (h : tx.apply r s = some s') (htarget : tx.target ≠ .jobs) :
    s'.jobs = s.jobs := by
  cases tx with
  | insertJob row | updateJob loaded new => exact absurd rfl htarget
  | insertAudit row | insertApproval row | insertDelivery row | insertThread row =>
      obtain ⟨T, _, rfl⟩ := Option.map_eq_some_iff.mp h
      rfl
  | updateApproval loaded new | updateDelivery loaded new | updateThread loaded new =>
      cases h
      rfl

theorem approvals_of_apply (h : tx.apply r s = some s')
    (htarget : tx.target ≠ .approvals) : s'.approvals = s.approvals := by
  cases tx with
  | insertApproval row | updateApproval loaded new => exact absurd rfl htarget
  | insertAudit row | insertJob row | insertDelivery row | insertThread row =>
      obtain ⟨T, _, rfl⟩ := Option.map_eq_some_iff.mp h
      rfl
  | updateJob loaded new | updateDelivery loaded new | updateThread loaded new =>
      cases h
      rfl

/-- A new job has a new id, and every other lookup is as before. -/
theorem find_insertJob {row : Job} (h : (insertJob row).apply r s = some s') :
    s.jobs.find? r.newId = none ∧ s'.jobs.find? r.newId = some (row.inserted r) ∧
      ∀ id, id ≠ r.newId → s'.jobs.find? id = s.jobs.find? id := by
  obtain ⟨T, hinsert, rfl⟩ := Option.map_eq_some_iff.mp h
  refine ⟨Table.key_fresh_of_insert hinsert, Table.find?_insert_self hinsert, ?_⟩
  intro id hid
  exact Table.find?_insert_of_ne hinsert hid

theorem find_updateJob {loaded new : Job}
    (h : (updateJob loaded new).apply r s = some s') (id : String) :
    s'.jobs.find? id = (s.jobs.find? id).map fun job =>
      if job.id = loaded.id then loaded.updated new job else job := by
  cases h
  exact @Table.find?_modify _ _ _ _ _ _ _ loaded.id (loaded.updated new)
    (fun _ => rfl) (fun _ => rfl) id

theorem find_insertApproval {row : ApprovalRequest}
    (h : (insertApproval row).apply r s = some s') :
    s.approvals.find? r.newId = none ∧
      s'.approvals.find? r.newId = some (row.inserted r) ∧
      ∀ id, id ≠ r.newId → s'.approvals.find? id = s.approvals.find? id := by
  obtain ⟨T, hinsert, rfl⟩ := Option.map_eq_some_iff.mp h
  refine ⟨Table.key_fresh_of_insert hinsert, Table.find?_insert_self hinsert, ?_⟩
  intro id hid
  exact Table.find?_insert_of_ne hinsert hid

theorem find_updateApproval {loaded new : ApprovalRequest}
    (h : (updateApproval loaded new).apply r s = some s') (id : String) :
    s'.approvals.find? id = (s.approvals.find? id).map fun row =>
      if row.id = loaded.id then loaded.updated new row else row := by
  cases h
  exact @Table.find?_modify _ _ _ _ _ _ _ loaded.id (loaded.updated new)
    (fun _ => rfl) (fun _ => rfl) id

theorem puts_insertJob {row : Job} (h : (insertJob row).apply r s = some s') :
    s.jobs.Puts s'.jobs (row.inserted r) := by
  obtain ⟨T, hinsert, rfl⟩ := Option.map_eq_some_iff.mp h
  exact Table.puts_insert hinsert

theorem puts_updateJob {loaded new job : Job} (hfind : s.jobs.find? loaded.id = some job)
    (h : (updateJob loaded new).apply r s = some s') :
    s.jobs.Puts s'.jobs (loaded.updated new job) := by
  cases h
  exact @Table.puts_modify _ _ _ _ _ _ _ _ loaded.id (loaded.updated new)
    (fun _ => rfl) (fun _ => rfl) _ hfind rfl

theorem puts_insertApproval {row : ApprovalRequest}
    (h : (insertApproval row).apply r s = some s') :
    s.approvals.Puts s'.approvals (row.inserted r) := by
  obtain ⟨T, hinsert, rfl⟩ := Option.map_eq_some_iff.mp h
  exact Table.puts_insert hinsert

theorem puts_updateApproval {loaded new row : ApprovalRequest}
    (hfind : s.approvals.find? loaded.id = some row)
    (h : (updateApproval loaded new).apply r s = some s') :
    s.approvals.Puts s'.approvals (loaded.updated new row) := by
  cases h
  exact @Table.puts_modify _ _ _ _ _ _ _ _ loaded.id (loaded.updated new)
    (fun _ => rfl) (fun _ => rfl) _ hfind rfl

end Transaction

end ControlPlane
