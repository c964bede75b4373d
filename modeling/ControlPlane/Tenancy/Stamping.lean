import ControlPlane.Reviews.StatusViews
import ControlPlane.System.Operations

/-!
The tenant that the records about a governed action are stamped with. A writer stamps them with
the tenant of its caller and never looks at the tenant of the action; a caller with a tenant
finds its own actions only, so the two are the same, but the operator finds every action and
stamps nothing.
-/

namespace ControlPlane

open Lib EvidenceGraph EvidenceStore EvidenceSignature

/-- `Stamp S id t`: some record about the governed action `id` has tenant `t`. -/
inductive Stamp (S : Store) : String → Option String → Prop where
  | override {row : ActionOverride} (h : row ∈ S.governance.overrides.rows) :
      Stamp S row.governedActionId row.tenantId
  | packet {row : EvidencePacket} {id : String} (h : row ∈ S.governance.packets.rows)
      (htype : row.scopeType = "governed_action") (hid : row.scopeId = some id) :
      Stamp S id row.tenantId
  | score {row : TrustScore} (h : row ∈ S.governance.scores.rows)
      (htype : row.scopeType = "governed_action") : Stamp S row.scopeId row.tenantId
  | verification {row : TrustVerification} (h : row ∈ S.governance.verifications.rows) :
      Stamp S row.subjectId row.tenantId
  | artifact {row : EvidenceArtifact} {id : String} (h : row ∈ S.governance.artifacts.rows)
      (hid : row.governedActionId = some id) : Stamp S id row.tenantId
  | event {e : AuditEvent} (h : e ∈ S.db.auditEvents.rows)
      (htype : e.resourceType = "governed_action") : Stamp S e.resourceId e.tenantId

theorem stamp_iff {S : Store} {id : String} {tenantId : Option String} :
    Stamp S id tenantId ↔
      (∃ row ∈ S.governance.overrides.rows, row.governedActionId = id ∧ row.tenantId = tenantId) ∨
      (∃ row ∈ S.governance.packets.rows, row.scopeType = "governed_action" ∧
        row.scopeId = some id ∧ row.tenantId = tenantId) ∨
      (∃ row ∈ S.governance.scores.rows, row.scopeType = "governed_action" ∧
        row.scopeId = id ∧ row.tenantId = tenantId) ∨
      (∃ row ∈ S.governance.verifications.rows, row.subjectId = id ∧ row.tenantId = tenantId) ∨
      (∃ row ∈ S.governance.artifacts.rows, row.governedActionId = some id ∧
        row.tenantId = tenantId) ∨
      ∃ e ∈ S.db.auditEvents.rows, e.resourceType = "governed_action" ∧ e.resourceId = id ∧
        e.tenantId = tenantId := by
  constructor
  · rintro (h | ⟨h, htype, hid⟩ | ⟨h, htype⟩ | h | ⟨h, hid⟩ | ⟨h, htype⟩)
    · exact .inl ⟨_, h, rfl, rfl⟩
    · exact .inr (.inl ⟨_, h, htype, hid, rfl⟩)
    · exact .inr (.inr (.inl ⟨_, h, htype, rfl, rfl⟩))
    · exact .inr (.inr (.inr (.inl ⟨_, h, rfl, rfl⟩)))
    · exact .inr (.inr (.inr (.inr (.inl ⟨_, h, hid, rfl⟩))))
    · exact .inr (.inr (.inr (.inr (.inr ⟨_, h, htype, rfl, rfl⟩))))
  · rintro (⟨row, h, rfl, rfl⟩ | ⟨row, h, htype, hid, rfl⟩ | ⟨row, h, htype, rfl, rfl⟩ |
      ⟨row, h, rfl, rfl⟩ | ⟨row, h, hid, rfl⟩ | ⟨e, h, htype, rfl, rfl⟩)
    · exact .override h
    · exact .packet h htype hid
    · exact .score h htype
    · exact .verification h
    · exact .artifact h hid
    · exact .event h htype

/-- Every record about a governed action has the tenant of the action. -/
def Stamped (S : Store) : Prop :=
  ∀ id tenantId, Stamp S id tenantId → ∀ action ∈ S.governance.actions.rows, action.id = id →
    tenantId = action.tenantId

/-- The tenant of a governed action. -/
def ownerOf (S : Store) (id : String) : Option (Option String) :=
  (S.governance.actions.find? id).map GovernedAction.tenantId

/-- The records are about actions that are stored, and have their tenants. -/
def Attributed (S : Store) : Prop :=
  ∀ id tenantId, Stamp S id tenantId → ownerOf S id = some tenantId

theorem Attributed.stamped {S : Store} (h : Attributed S) : Stamped S := by
  intro id tenantId hstamp action haction hid
  have howner := h id tenantId hstamp
  rw [ownerOf, ← hid, S.governance.actions.find?_key haction] at howner
  exact (Option.some.inj howner).symm

/-- New records are stamped as allowed, and no action changes its tenant. -/
structure Stamping (allowed : String → Option String → Prop) (S S' : Store) : Prop where
  stamps : ∀ id tenantId, Stamp S' id tenantId → Stamp S id tenantId ∨ allowed id tenantId
  owners : ∀ id tenantId, ownerOf S id = some tenantId → ownerOf S' id = some tenantId

section

variable {allowed : String → Option String → Prop} {S S' S'' : Store}

theorem Stamping.refl (S : Store) : Stamping allowed S S :=
  ⟨fun _ _ => Or.inl, fun _ _ => id⟩

theorem Stamping.trans (h : Stamping allowed S S') (h' : Stamping allowed S' S'') :
    Stamping allowed S S'' where
  stamps id tenantId hstamp := (h'.stamps id tenantId hstamp).elim (h.stamps id tenantId) Or.inr
  owners id tenantId howner := h'.owners id tenantId (h.owners id tenantId howner)

/-- Records that are stamped with the tenant of a stored action keep the store attributed. -/
theorem Attributed.stamping (h : Attributed S) (hstep : Stamping allowed S S')
    (hallowed : ∀ id tenantId, allowed id tenantId → ownerOf S id = some tenantId) :
    Attributed S' := by
  intro id tenantId hstamp
  apply hstep.owners
  rcases hstep.stamps id tenantId hstamp with hold | hnew
  · exact h id tenantId hold
  · exact hallowed id tenantId hnew

/-- The records of one call about the action it names. -/
theorem Attributed.of_named {actionId : String} {tenantId : Option String} (hS : Attributed S)
    (howner : ownerOf S actionId = some tenantId)
    (h : Stamping (fun id t => id = actionId ∧ t = tenantId) S S') : Attributed S' := by
  apply hS.stamping h
  rintro id t ⟨rfl, rfl⟩
  exact howner

theorem Attributed.of_nothing (hS : Attributed S) (h : Stamping (fun _ _ => False) S S') :
    Attributed S' :=
  hS.stamping h fun _ _ hfalse => hfalse.elim

end

/-- The record that a change of the governance tables adds is about `id` and has tenant `t`. -/
def GovernanceChange.Stamps : GovernanceChange → String → Option String → Prop
  | .insertArtifact row, id, t => row.governedActionId = some id ∧ row.tenantId = t
  | .insertOverride row, id, t => row.governedActionId = id ∧ row.tenantId = t
  | .insertPacket row _, id, t =>
      row.scopeType = "governed_action" ∧ row.scopeId = some id ∧ row.tenantId = t
  | .insertScore row, id, t =>
      row.scopeType = "governed_action" ∧ row.scopeId = id ∧ row.tenantId = t
  | .insertVerification row, id, t => row.subjectId = id ∧ row.tenantId = t
  | _, _, _ => False

section

variable [Deployment] {change : GovernanceChange} {r : DbReply} {g g' : Governance}
  {S : Store}

omit [Deployment] in
/-- An action that is updated keeps its tenant. -/
theorem ownerOf_modify {f : GovernedAction → GovernedAction} {id key : String}
    {tenantId : Option String} (hkey : ∀ row, (f row).id = row.id)
    (huniq : ∀ row, (f row).tenantJob = row.tenantJob)
    (hf : ∀ row, (f row).tenantId = row.tenantId)
    (h : (S.governance.actions.find? id).map GovernedAction.tenantId = some tenantId) :
    ((S.governance.actions.modify key f hkey huniq).find? id).map GovernedAction.tenantId =
      some tenantId := by
  obtain ⟨row, hrow, htenant⟩ := Option.map_eq_some_iff.mp h
  rw [Table.find?_modify, hrow, Option.map_some, Option.map_some, ← htenant]
  split
  · rw [hf]
  · rfl

theorem ownerOf_apply (happly : change.apply r S.governance = some g) (id : String)
    (tenantId : Option String) (h : ownerOf S id = some tenantId) :
    ownerOf { S with governance := g } id = some tenantId := by
  unfold ownerOf at h ⊢
  cases change with
  | insertAction row =>
      obtain ⟨T, hinsert, rfl⟩ := Option.map_eq_some_iff.mp happly
      obtain ⟨action, haction, htenant⟩ := Option.map_eq_some_iff.mp h
      dsimp only
      rw [Table.find?_insert_of_some hinsert haction, Option.map_some, htenant]
  | linkApproval actionId approvalId =>
      cases happly
      exact ownerOf_modify (f := fun row => { row with approvalId := some approvalId })
        (fun _ => rfl) (fun _ => rfl) (fun _ => rfl) h
  | insertOverride row =>
      obtain ⟨T, _, rfl⟩ := Option.map_eq_some_iff.mp happly
      exact ownerOf_modify (f := fun action => { action with status := overrideRecorded })
        (fun _ => rfl) (fun _ => rfl) (fun _ => rfl) h
  | insertRisk row | insertArtifact row | insertPacket row superseded | insertScore row
    | insertVerification row | insertPolicy row =>
      obtain ⟨T, _, rfl⟩ := Option.map_eq_some_iff.mp happly
      exact h
  | signPacket packetId signature signedAt expiry | revokePacket packetId reason revokedAt
    | updateVerification loaded new | updatePolicies changes =>
      cases happly
      exact h

omit [Deployment] in
theorem mem_rows_modify {α υ : Type} {key : α → String} {uniq : α → Option υ}
    {T : Table α String υ key uniq} {k : String} {f : α → α} {row : α}
    (h : row ∈ T.rows.map fun r => if key r = k then f r else r) :
    row ∈ T.rows ∨ ∃ old ∈ T.rows, row = f old := by
  obtain ⟨old, hold, rfl⟩ := List.mem_map.mp h
  split
  · exact Or.inr ⟨old, hold, rfl⟩
  · exact Or.inl hold

omit [Deployment] in
theorem mem_supersede {packets : PacketTable} {ids : List String} {row : EvidencePacket}
    (h : row ∈ (supersede packets ids).rows) :
    ∃ old ∈ packets.rows, old.tenantId = row.tenantId ∧ old.scopeType = row.scopeType ∧
      old.scopeId = row.scopeId := by
  unfold supersede at h
  induction ids generalizing packets with
  | nil => exact ⟨row, h, rfl, rfl, rfl⟩
  | cons id rest ih =>
      obtain ⟨mid, hmid, htenant, htype, hid⟩ := ih h
      rcases mem_rows_modify hmid with hold | ⟨old, hold, rfl⟩
      · exact ⟨mid, hold, htenant, htype, hid⟩
      · exact ⟨old, hold, htenant, htype, hid⟩

theorem stamps_apply (happly : change.apply r S.governance = some g) (id : String)
    (tenantId : Option String) (h : Stamp { S with governance := g } id tenantId) :
    Stamp S id tenantId ∨ change.Stamps id tenantId := by
  rw [stamp_iff] at h ⊢
  cases change with
  | insertAction row | insertRisk row | insertPolicy row =>
      obtain ⟨T, _, rfl⟩ := Option.map_eq_some_iff.mp happly
      exact Or.inl h
  | linkApproval actionId approvalId | updatePolicies changes =>
      cases happly
      exact Or.inl h
  | insertOverride row =>
      obtain ⟨T, hinsert, rfl⟩ := Option.map_eq_some_iff.mp happly
      rcases h with ⟨row', hrow, hid, htenant⟩ | h
      · rcases (Table.mem_insert hinsert).mp hrow with hold | rfl
        · exact .inl (.inl ⟨row', hold, hid, htenant⟩)
        · exact .inr ⟨hid, htenant⟩
      · exact .inl (.inr h)
  | insertPacket row superseded =>
      obtain ⟨T, hinsert, rfl⟩ := Option.map_eq_some_iff.mp happly
      rcases h with h | ⟨row', hrow, htype, hid, htenant⟩ | h
      · exact .inl (.inl h)
      · rcases (Table.mem_insert hinsert).mp hrow with hold | rfl
        · obtain ⟨old, hmem, htenant', htype', hid'⟩ := mem_supersede hold
          exact .inl (.inr (.inl ⟨old, hmem, htype'.trans htype, hid'.trans hid,
            htenant'.trans htenant⟩))
        · exact .inr ⟨htype, hid, htenant⟩
      · exact .inl (.inr (.inr h))
  | signPacket packetId signature signedAt expiry | revokePacket packetId reason revokedAt =>
      cases happly
      rcases h with h | ⟨row', hrow, htype, hid, htenant⟩ | h
      · exact .inl (.inl h)
      · rcases mem_rows_modify hrow with hold | ⟨old, hold, rfl⟩
        · exact .inl (.inr (.inl ⟨row', hold, htype, hid, htenant⟩))
        · exact .inl (.inr (.inl ⟨old, hold, htype, hid, htenant⟩))
      · exact .inl (.inr (.inr h))
  | insertScore row =>
      obtain ⟨T, hinsert, rfl⟩ := Option.map_eq_some_iff.mp happly
      rcases h with h | h | ⟨row', hrow, htype, hid, htenant⟩ | h
      · exact .inl (.inl h)
      · exact .inl (.inr (.inl h))
      · rcases (Table.mem_insert hinsert).mp hrow with hold | rfl
        · exact .inl (.inr (.inr (.inl ⟨row', hold, htype, hid, htenant⟩)))
        · exact .inr ⟨htype, hid, htenant⟩
      · exact .inl (.inr (.inr (.inr h)))
  | insertVerification row =>
      obtain ⟨T, hinsert, rfl⟩ := Option.map_eq_some_iff.mp happly
      rcases h with h | h | h | ⟨row', hrow, hid, htenant⟩ | h
      · exact .inl (.inl h)
      · exact .inl (.inr (.inl h))
      · exact .inl (.inr (.inr (.inl h)))
      · rcases (Table.mem_insert hinsert).mp hrow with hold | rfl
        · exact .inl (.inr (.inr (.inr (.inl ⟨row', hold, hid, htenant⟩))))
        · exact .inr ⟨hid, htenant⟩
      · exact .inl (.inr (.inr (.inr (.inr h))))
  | updateVerification loaded new =>
      cases happly
      rcases h with h | h | h | ⟨row', hrow, hid, htenant⟩ | h
      · exact .inl (.inl h)
      · exact .inl (.inr (.inl h))
      · exact .inl (.inr (.inr (.inl h)))
      · rcases mem_rows_modify hrow with hold | ⟨old, hold, rfl⟩
        · exact .inl (.inr (.inr (.inr (.inl ⟨row', hold, hid, htenant⟩))))
        · exact .inl (.inr (.inr (.inr (.inl ⟨old, hold, hid, htenant⟩))))
      · exact .inl (.inr (.inr (.inr (.inr h))))
  | insertArtifact row =>
      obtain ⟨T, hinsert, rfl⟩ := Option.map_eq_some_iff.mp happly
      rcases h with h | h | h | h | ⟨row', hrow, hid, htenant⟩ | h
      · exact .inl (.inl h)
      · exact .inl (.inr (.inl h))
      · exact .inl (.inr (.inr (.inl h)))
      · exact .inl (.inr (.inr (.inr (.inl h))))
      · rcases (Table.mem_insert hinsert).mp hrow with hold | rfl
        · exact .inl (.inr (.inr (.inr (.inr (.inl ⟨row', hold, hid, htenant⟩)))))
        · exact .inr ⟨hid, htenant⟩
      · exact .inl (.inr (.inr (.inr (.inr (.inr h)))))

end

section

variable [Deployment] {α β : Type} {allowed : String → Option String → Prop} {S S' : Store}
  {trace : List StoreEvent}

/-- The program stamps its records as allowed, whatever it is answered. -/
def StampsOnly (allowed : String → Option String → Prop) (p : StoreSession α) : Prop :=
  p.Uses fun _ w => ∀ r S, Stamping allowed S (w r S)

omit [Deployment] in
theorem StampsOnly.run {adm : (q : StoreCall) → StoreReply q → Store → Prop}
    {p : StoreSession α} {result : Except PyErr α} (hp : StampsOnly allowed p)
    (h : Prog.Runs adm p S trace result S') : Stamping allowed S S' :=
  Prog.Uses.run Stamping.refl (fun _ _ _ => Stamping.trans) (fun _ _ hw r S => hw r S) hp h

omit [Deployment] in
theorem StampsOnly.bind {p : StoreSession α} {k : α → StoreSession β}
    (hp : StampsOnly allowed p) (hk : ∀ value, StampsOnly allowed (k value)) :
    StampsOnly allowed (p.bind k) :=
  Prog.Uses.bind hp hk

omit [Deployment] in
theorem stampsOnly_pure (value : α) : StampsOnly allowed (.pure value) := trivial

omit [Deployment] in
theorem stampsOnly_raise (error : PyErr) :
    StampsOnly allowed (.raise error : StoreSession α) := trivial

omit [Deployment] in
theorem stampsOnly_peek (read : Store → α) : StampsOnly allowed (peek read) :=
  ⟨fun _ S => Stamping.refl S, fun _ _ => trivial⟩

omit [Deployment] in
theorem stampsOnly_readClock : StampsOnly allowed readClock :=
  ⟨fun _ S => Stamping.refl S, fun _ _ => trivial⟩

omit [Deployment] in
theorem stampsOnly_outcome (known : Except PyErr α) : StampsOnly allowed (outcome known) := by
  cases known <;> trivial

omit [Deployment] in
theorem stampsOnly_foundAgain (row : Option α) : StampsOnly allowed (foundAgain row) := by
  cases row <;> trivial

theorem stampsOnly_commitChange {change : GovernanceChange}
    (h : ∀ id tenantId, change.Stamps id tenantId → allowed id tenantId) :
    StampsOnly allowed (commitChange change) := by
  refine ⟨?_, ?_⟩
  · intro r S
    unfold GovernanceChange.write
    cases hrun : change.run r S with
    | error e => exact Stamping.refl S
    | ok S' =>
        obtain ⟨_, g, happly, rfl⟩ := GovernanceChange.run_eq_ok hrun
        exact ⟨fun id tenantId hstamp => (stamps_apply happly id tenantId hstamp).imp_right
          (h id tenantId), ownerOf_apply happly⟩
  · intro r S
    dsimp only
    cases change.run r S <;> trivial

/-- A transaction of the pipeline stamps nothing but the audit event it may add. -/
theorem stamping_transaction {tx : Transaction} {r : DbReply}
    (h : ∀ row, tx = .insertAudit row → row.resourceType = "governed_action" →
      allowed row.resourceId row.tenantId) :
    Stamping allowed S { S with db := tx.write r S.db } := by
  refine ⟨?_, fun _ _ => id⟩
  intro id tenantId hstamp
  rw [stamp_iff] at hstamp ⊢
  rcases hstamp with hstamp | hstamp | hstamp | hstamp | hstamp | ⟨e, he, htype, hid, htenant⟩
  · exact .inl (.inl hstamp)
  · exact .inl (.inr (.inl hstamp))
  · exact .inl (.inr (.inr (.inl hstamp)))
  · exact .inl (.inr (.inr (.inr (.inl hstamp))))
  · exact .inl (.inr (.inr (.inr (.inr (.inl hstamp)))))
  · have hadded : e ∈ S.db.auditEvents.rows ∨
        ∃ row, tx = .insertAudit row ∧ e = row.inserted r := by
      cases hrun : tx.run r S.db with
      | error error =>
          rw [Transaction.write_of_error hrun] at he
          exact Or.inl he
      | ok s' =>
          rw [Transaction.write_of_ok hrun] at he
          have happly := (Transaction.run_eq_ok.mp hrun).2
          by_cases htarget : tx.target = .auditEvents
          · cases tx with
            | insertAudit row =>
                obtain ⟨T, hinsert, rfl⟩ := Option.map_eq_some_iff.mp happly
                rcases (Table.mem_insert hinsert).mp he with hold | rfl
                · exact Or.inl hold
                · exact Or.inr ⟨row, rfl, rfl⟩
            | _ => cases htarget
          · rw [Transaction.auditEvents_of_apply happly htarget] at he
            exact Or.inl he
    rcases hadded with hold | ⟨row, rfl, rfl⟩
    · exact .inl (.inr (.inr (.inr (.inr (.inr ⟨e, hold, htype, hid, htenant⟩)))))
    · exact .inr (hid ▸ htenant ▸ h row rfl htype)

theorem stampsOnly_inPipeline {C : Call → Prop} {p : Session α} (hp : Calls C p)
    (hC : ∀ row, C (.commit (.insertAudit row)) → row.resourceType = "governed_action" →
      allowed row.resourceId row.tenantId) : StampsOnly allowed (inPipeline p) := by
  induction p with
  | pure value => trivial
  | raise error => trivial
  | act call write next ih =>
      obtain ⟨⟨rfl, hcall⟩, hnext⟩ := hp
      refine ⟨?_, fun r S => ih r S.db (hnext r S.db)⟩
      intro r S
      cases call with
      | commit tx =>
          apply stamping_transaction
          rintro row rfl
          exact hC row hcall
      | select query => exact Stamping.refl S
      | createDraft threadId subject body => exact Stamping.refl S
      | readThread threadId => exact Stamping.refl S
      | sendApprovedDraft approvalId draftId => exact Stamping.refl S

theorem stampsOnly_recordEvent {e : AuditService.NewEvent}
    (h : e.resourceType = "governed_action" → allowed e.resourceId e.tenantId) :
    StampsOnly allowed (recordEvent e) := by
  apply stampsOnly_inPipeline (record_calls e)
  rintro row (_ | hrow) htype
  rw [hrow.resourceType] at htype
  rw [hrow.resourceId, hrow.tenantId]
  exact h htype

/-- What the pipeline logs is not about a governed action. -/
theorem process_unstamped {row : AuditEvent} (h : ProcessCall (.commit (.insertAudit row))) :
    row.resourceType ≠ "governed_action" := by
  rcases h with h | h | h
  · cases h
  · cases h with
    | elsewhere h =>
        cases h with
        | audit _ _ hresource => exact hresource
        | mail htarget => rcases htarget with htarget | htarget <;> cases htarget
  · rcases h with h | h | h
    · cases h with
      | audit _ _ hresource => exact hresource
    · cases h
    · cases h with
      | audit hresource => exact hresource

theorem stampsOnly_pipeline {p : Session α} (hp : Calls ProcessCall p) :
    StampsOnly allowed (inPipeline p) :=
  stampsOnly_inPipeline hp fun _ hcall htype => absurd htype (process_unstamped hcall)

/-- An event about something else than a governed action. -/
theorem stampsOnly_otherEvent {e : AuditService.NewEvent}
    (h : e.resourceType ≠ "governed_action") : StampsOnly allowed (recordEvent e) :=
  stampsOnly_recordEvent fun htype => absurd htype h

/-- A change that adds no record about a governed action. -/
theorem stampsOnly_otherChange {change : GovernanceChange}
    (h : ∀ id tenantId, ¬change.Stamps id tenantId) : StampsOnly allowed (commitChange change) :=
  stampsOnly_commitChange fun id tenantId hstamp => absurd hstamp (h id tenantId)

section

open PolicyVersionService

omit [Deployment] in
theorem stampsOnly_reloadPolicy (id : String) : StampsOnly allowed (reloadPolicy id) :=
  (stampsOnly_peek _).bind fun _ => stampsOnly_foundAgain _

theorem stampsOnly_createVersion (tenantId : Option String) (name version : String)
    (rules : Option Dict) (createdBy changeReason : Option String) :
    StampsOnly allowed (createVersion tenantId name version rules createdBy changeReason) :=
  (stampsOnly_otherChange (by simp [GovernanceChange.Stamps])).bind fun _ =>
    (stampsOnly_reloadPolicy _).bind fun _ =>
      (stampsOnly_otherEvent (by simp)).bind fun _ => stampsOnly_pure _

theorem stampsOnly_activate (versionId : String) (approvedBy tenantId : Option String) :
    StampsOnly allowed (activate versionId approvedBy tenantId) := by
  refine (stampsOnly_peek _).bind fun found => ?_
  cases found with
  | none => exact stampsOnly_raise _
  | some pol =>
      refine stampsOnly_readClock.bind fun now => (stampsOnly_peek _).bind fun active => ?_
      refine (stampsOnly_otherChange (by simp [GovernanceChange.Stamps])).bind fun _ => ?_
      exact (stampsOnly_reloadPolicy _).bind fun _ =>
        (stampsOnly_otherEvent (by simp)).bind fun _ => stampsOnly_pure _

theorem stampsOnly_rollbackTo (versionId : String)
    (approvedBy changeReason tenantId : Option String) :
    StampsOnly allowed (rollbackTo versionId approvedBy changeReason tenantId) := by
  refine (stampsOnly_peek _).bind fun found => ?_
  cases found with
  | none => exact stampsOnly_raise _
  | some pol =>
      exact (stampsOnly_activate _ _ _).bind fun _ =>
        (stampsOnly_otherEvent (by simp)).bind fun _ => stampsOnly_pure _

theorem stampsOnly_seedDefaultPolicy : StampsOnly allowed seedDefaultPolicy := by
  refine (stampsOnly_peek _).bind fun rows => (stampsOnly_outcome _).bind fun found => ?_
  cases found with
  | none =>
      exact stampsOnly_readClock.bind fun now =>
        (stampsOnly_otherChange (by simp [GovernanceChange.Stamps])).bind fun r =>
          stampsOnly_reloadPolicy _
  | some existing =>
      dsimp only
      split
      · refine StampsOnly.bind ?_ fun start =>
          (stampsOnly_otherChange (by simp [GovernanceChange.Stamps])).bind fun _ =>
            stampsOnly_pure _
        unfold effectiveStart
        split
        · exact stampsOnly_pure _
        · exact stampsOnly_readClock.bind fun _ => stampsOnly_pure _
      · exact stampsOnly_pure _

end

section

open GovernanceWorkflow

/-- The records of a submission, once its action is stored. -/
theorem stampsOnly_audit {action actionId : String} {tenantId actor : Option String}
    {metadata : Dict} (h : allowed actionId tenantId) :
    StampsOnly allowed (audit action actionId tenantId actor metadata) :=
  stampsOnly_recordEvent fun _ => h

theorem stampsOnly_settle {intake : Intake} {tenantId actor : Option String} {actionId : String}
    (h : allowed actionId tenantId) :
    StampsOnly allowed (settle intake tenantId actor actionId) := by
  unfold settle
  split
  · exact (stampsOnly_audit h).bind fun _ => stampsOnly_pure _
  · split
    · refine StampsOnly.bind ?_ fun _ => stampsOnly_pure _
      refine (stampsOnly_pipeline ((createRequest_calls _ _ _ _).mono fun _ => .worker)).bind
        fun approval => ?_
      exact (stampsOnly_otherChange (by simp [GovernanceChange.Stamps])).bind fun _ =>
        (stampsOnly_audit h).bind fun _ => stampsOnly_pure _
    · exact (stampsOnly_audit h).bind fun _ => stampsOnly_pure _

theorem stampsOnly_createRiskAssessment (tenantId : Option String) (riskLevel : String)
    (summary : Option String) (metadata : Dict) :
    StampsOnly allowed (createRiskAssessment tenantId riskLevel summary metadata) :=
  (stampsOnly_otherChange (by simp [GovernanceChange.Stamps])).bind fun _ =>
    (stampsOnly_peek _).bind fun _ => stampsOnly_foundAgain _

theorem stampsOnly_recordEvidenceArtifact {tenantId uri : Option String}
    {artifactType actionId : String} {metadata : Dict} (h : allowed actionId tenantId) :
    StampsOnly allowed
      (recordEvidenceArtifact tenantId artifactType (some actionId) uri metadata) := by
  refine (stampsOnly_commitChange ?_).bind fun _ =>
    (stampsOnly_peek _).bind fun _ => stampsOnly_foundAgain _
  rintro id t ⟨hid, rfl⟩
  exact Option.some.inj hid ▸ h

/-- The action of a submission has the tenant of the caller, and so have the records that
follow it. -/
theorem submit_attributed {tenantId actor : Option String} {intake : Intake}
    {adm : (q : StoreCall) → StoreReply q → Store → Prop} {result : Except PyErr ReviewSummary}
    (hS : Attributed S)
    (h : Prog.Runs adm (submitVendorGovernanceReview tenantId actor intake) S trace result S') :
    Attributed S' := by
  unfold submitVendorGovernanceReview createGovernedAction at h
  obtain ⟨rest, _, h⟩ := runs_peek_bind h
  rw [Prog.bind_eq, Prog.bind_eq, Prog.bind_assoc] at h
  obtain ⟨r, rest, _, ⟨_, g, happly, h⟩ | ⟨_, _, _, rfl⟩⟩ := runs_commitChange_bind h
  · obtain ⟨T, hinsert, rfl⟩ := Option.map_eq_some_iff.mp happly
    have hinserted : Stamping (fun _ _ => False) S
        { S with governance := { S.governance with actions := T } } :=
      ⟨fun id tenantId hstamp => (stamps_apply happly id tenantId hstamp).imp_right
        fun hnew => hnew, ownerOf_apply happly⟩
    have hfound := Table.find?_insert_self hinsert
    have howner : ownerOf { S with governance := { S.governance with actions := T } } r.newId =
        some tenantId := by
      rw [ownerOf, hfound]
      rfl
    rw [Prog.bind_eq, Prog.bind_assoc] at h
    obtain ⟨rest, _, h⟩ := runs_peek_bind h
    dsimp only at h
    rw [hfound] at h
    simp only [foundAgain, Prog.pure_bind] at h
    have hrest : Stamping (fun id t => id = r.newId ∧ t = tenantId) _ S' := StampsOnly.run (by
      refine (stampsOnly_createRiskAssessment _ _ _ _).bind fun _ => ?_
      refine (stampsOnly_audit ⟨rfl, rfl⟩).bind fun _ => ?_
      refine (stampsOnly_audit ⟨rfl, rfl⟩).bind fun _ => ?_
      refine (stampsOnly_audit ⟨rfl, rfl⟩).bind fun _ => ?_
      refine (stampsOnly_settle ⟨rfl, rfl⟩).bind fun _ => ?_
      exact (stampsOnly_recordEvidenceArtifact ⟨rfl, rfl⟩).bind fun _ => stampsOnly_pure _) h
    apply (hS.stamping hinserted (by rintro _ _ ⟨⟩)).stamping hrest
    rintro id tenantId ⟨rfl, rfl⟩
    exact howner
  · exact hS

end

/-- The caller has a tenant, or names no action of a tenant. -/
def NamesOwn (S : Store) (tenantId : Option String) (actionId : String) : Prop :=
  tenantId = none → ∀ action ∈ S.governance.actions.rows, action.id = actionId →
    action.tenantId = none

omit [Deployment] in
/-- What such a caller finds is its own. -/
theorem ownerOf_found {tenantId : Option String} {actionId : String} {action : GovernedAction}
    (hown : NamesOwn S tenantId actionId)
    (h : getGovernedAction S.governance actionId tenantId = some action) :
    ownerOf S actionId = some tenantId := by
  obtain ⟨hfind, hscope⟩ := Option.filter_eq_some_iff.mp h
  have htenant : action.tenantId = tenantId := by
    cases tenantId with
    | none => exact hown rfl action (Table.mem_of_find? hfind) (Table.key_of_find? hfind)
    | some t => simpa [inScope] using hscope
  rw [ownerOf, hfind, Option.map_some, htenant]

theorem ownerOf_graph {tenantId : Option String} {actionId : String} {graph : ActionGraph}
    (hown : NamesOwn S tenantId actionId)
    (h : getEvidenceGraph S actionId tenantId = some graph) :
    ownerOf S actionId = some tenantId := by
  obtain ⟨action, hfound, _⟩ := Option.bind_eq_some_iff.mp h
  exact ownerOf_found hown hfound

theorem override_attributed {tenantId : Option String} {actionId : String}
    {a : OverrideService.Authorization} {adm : (q : StoreCall) → StoreReply q → Store → Prop}
    {result : Except PyErr ActionOverride} (hS : Attributed S)
    (hown : NamesOwn S tenantId actionId)
    (h : Prog.Runs adm (OverrideService.createOverride tenantId actionId a) S trace result S') :
    Attributed S' := by
  unfold OverrideService.createOverride at h
  obtain ⟨rest, _, h⟩ := runs_peek_bind h
  cases hfound : getGovernedAction S.governance actionId tenantId with
  | none =>
      rw [hfound] at h
      obtain ⟨_, _, rfl⟩ := Prog.runs_raise h
      exact hS
  | some action =>
      rw [hfound] at h
      apply hS.of_named (ownerOf_found hown hfound)
      refine StampsOnly.run ?_ h
      refine (stampsOnly_outcome _).bind fun level => ?_
      split
      · exact stampsOnly_raise _
      · refine (stampsOnly_commitChange ?_).bind fun r => ?_
        · rintro id t ⟨hid, htenant⟩
          exact ⟨hid.symm, htenant.symm⟩
        · exact (stampsOnly_peek _).bind fun _ => (stampsOnly_foundAgain _).bind fun _ =>
            (stampsOnly_recordEvent fun _ => ⟨rfl, rfl⟩).bind fun _ => stampsOnly_pure _

/-- A packet of an action is built from the graph of it. -/
theorem ownerOf_packet {generatedAt actionId : String} {tenantId : Option String}
    {packet : EvidencePackets.Packet} (hown : NamesOwn S tenantId actionId)
    (h : EvidencePackets.buildActionPacket S generatedAt actionId tenantId = .ok (some packet)) :
    ownerOf S actionId = some tenantId ∧ packet.scopeId = some actionId := by
  unfold EvidencePackets.buildActionPacket at h
  cases hgraph : getEvidenceGraph S actionId tenantId with
  | none =>
      rw [hgraph] at h
      cases h
  | some graph =>
      rw [hgraph] at h
      dsimp only at h
      cases hverify : EvidencePackets.verify S tenantId with
      | error e =>
          rw [hverify] at h
          cases h
      | ok verification =>
          rw [hverify] at h
          cases h
          exact ⟨ownerOf_graph hown hgraph, rfl⟩

section

variable [Python] [Ed25519]

omit [Python] in
theorem stampsOnly_signPacket (settings : Settings) (packet : EvidencePacket)
    (signedBy : Option String) (ttlDays : Option Int) (recordAudit : Bool) :
    StampsOnly allowed (signPacket settings packet signedBy ttlDays recordAudit) := by
  refine stampsOnly_readClock.bind fun signedAt => stampsOnly_readClock.bind fun now => ?_
  split
  · exact stampsOnly_raise _
  · refine (stampsOnly_otherChange (by simp [GovernanceChange.Stamps])).bind fun _ => ?_
    refine ((stampsOnly_peek _).bind fun _ => stampsOnly_foundAgain _).bind fun packet => ?_
    split
    · exact (stampsOnly_otherEvent (by simp)).bind fun _ => stampsOnly_pure _
    · exact stampsOnly_pure _

theorem stampsOnly_persistPacket {settings : Settings} {tenantId generatedBy : Option String}
    {packet : EvidencePackets.Packet} {actionId : String}
    (hscope : packet.scopeId = some actionId) (h : allowed actionId tenantId) :
    StampsOnly allowed (persistPacket settings tenantId packet.document generatedBy) := by
  unfold persistPacket
  refine (stampsOnly_outcome _).bind fun scopeType => ?_
  have hid : outcome (columnText ((packet.document.fields.get? "scope_id").getD .null)) =
      (.pure (some actionId) : StoreSession (Option String)) := by
    have hcolumn : (packet.document.fields.get? "scope_id") = some (.ofOption packet.scopeId) :=
      rfl
    rw [hcolumn, hscope]
    rfl
  rw [hid]
  refine (stampsOnly_peek _).bind fun existing => ?_
  refine (stampsOnly_outcome _).bind fun jsonExport => ?_
  refine (stampsOnly_outcome _).bind fun markdown => ?_
  refine (stampsOnly_commitChange ?_).bind fun inserted => ?_
  · rintro id t ⟨_, hid, rfl⟩
    exact Option.some.inj hid ▸ h
  · refine ((stampsOnly_peek _).bind fun _ => stampsOnly_foundAgain _).bind fun row => ?_
    exact (stampsOnly_otherEvent (by simp)).bind fun _ => stampsOnly_signPacket _ _ _ _ _

end

theorem stampsOnly_persist {tenantId : Option String} {scopeType scopeId : String}
    {scored : TrustScoreService.Result}
    (h : scopeType = "governed_action" → allowed scopeId tenantId) :
    StampsOnly allowed (TrustScoreService.persist tenantId scopeType scopeId scored) := by
  refine (stampsOnly_peek _).bind fun prior => (stampsOnly_commitChange ?_).bind fun _ =>
    (stampsOnly_peek _).bind fun _ => stampsOnly_foundAgain _
  rintro id t ⟨htype, rfl, rfl⟩
  exact h htype

theorem stampsOnly_scoreScope {settings : Settings} {tenantId : Option String}
    {scopeType scopeId : String} {persisting : Bool} {packet : EvidencePackets.Packet}
    (h : scopeType = "governed_action" → allowed scopeId tenantId) :
    StampsOnly allowed (TrustScoreService.scoreScope settings tenantId scopeType scopeId
      persisting packet) := by
  unfold TrustScoreService.scoreScope
  split
  · exact (stampsOnly_persist h).bind fun _ => stampsOnly_pure _
  · exact stampsOnly_pure _

theorem scoreAction_attributed {settings : Settings} {actionId : String}
    {tenantId : Option String} {persisting : Bool}
    {adm : (q : StoreCall) → StoreReply q → Store → Prop}
    {result : Except PyErr (Option TrustScoreService.Scored)} (hS : Attributed S)
    (hown : NamesOwn S tenantId actionId)
    (h : Prog.Runs adm (TrustScoreService.scoreAction settings actionId tenantId persisting) S
      trace result S') : Attributed S' := by
  unfold TrustScoreService.scoreAction at h
  obtain ⟨now, rest, _, h⟩ := runs_readClock_bind h
  obtain ⟨rest, _, h⟩ := runs_peek_bind h
  cases hbuilt : EvidencePackets.buildActionPacket S (Datetime.utc now).isoformat actionId
      tenantId with
  | error e =>
      rw [hbuilt] at h
      obtain ⟨_, _, rfl⟩ := Prog.runs_raise h
      exact hS
  | ok built =>
      rw [hbuilt] at h
      cases built with
      | none =>
          obtain ⟨_, _, rfl⟩ := Prog.runs_pure h
          exact hS
      | some packet =>
          apply hS.of_named (ownerOf_packet hown hbuilt).1
          refine StampsOnly.run ?_ h
          exact (stampsOnly_scoreScope fun _ => ⟨rfl, rfl⟩).bind fun _ => stampsOnly_pure _

theorem persistActionPacket_attributed [Python] [Ed25519] {settings : Settings}
    {actionId : String} {tenantId userId : Option String}
    {adm : (q : StoreCall) → StoreReply q → Store → Prop} {result : Except PyErr EvidencePacket}
    (hS : Attributed S) (hown : NamesOwn S tenantId actionId)
    (h : Prog.Runs adm (persistActionPacket settings actionId tenantId userId) S trace result
      S') : Attributed S' := by
  unfold persistActionPacket at h
  obtain ⟨now, rest, _, h⟩ := runs_readClock_bind h
  obtain ⟨rest, _, h⟩ := runs_peek_bind h
  cases hbuilt : EvidencePackets.buildActionPacket S (Datetime.utc now).isoformat actionId
      tenantId with
  | error e =>
      rw [hbuilt] at h
      obtain ⟨_, _, rfl⟩ := Prog.runs_raise h
      exact hS
  | ok built =>
      rw [hbuilt] at h
      cases built with
      | none =>
          obtain ⟨_, _, rfl⟩ := Prog.runs_raise h
          exact hS
      | some packet =>
          obtain ⟨howner, hscope⟩ := ownerOf_packet hown hbuilt
          exact hS.of_named howner ((stampsOnly_persistPacket hscope ⟨rfl, rfl⟩).run h)

theorem stampsOnly_scoreWorkflow (settings : Settings) (workflowId : String)
    (tenantId : Option String) (persisting : Bool) : StampsOnly allowed
      (TrustScoreService.scoreWorkflow settings workflowId tenantId persisting) := by
  refine stampsOnly_readClock.bind fun now => (stampsOnly_peek _).bind fun built => ?_
  refine (stampsOnly_outcome _).bind fun built => ?_
  cases built with
  | none => exact stampsOnly_pure _
  | some packet => exact (stampsOnly_scoreScope (by simp)).bind fun _ => stampsOnly_pure _

theorem stampsOnly_scoreTenant (settings : Settings) (tenantId : String) (persisting : Bool) :
    StampsOnly allowed (TrustScoreService.scoreTenant settings tenantId persisting) := by
  refine stampsOnly_readClock.bind fun now => (stampsOnly_peek _).bind fun built => ?_
  exact (stampsOnly_outcome _).bind fun packet => stampsOnly_scoreScope (by simp)

section

open VerificationService

omit [Deployment] in
theorem stampsOnly_reloadVerification (id : String) :
    StampsOnly allowed (reloadVerification id) :=
  (stampsOnly_peek _).bind fun _ => stampsOnly_foundAgain _

theorem stampsOnly_transition (action : String) (row new : TrustVerification)
    (actor : Option String) (fields : TrustVerification → Dict) :
    StampsOnly allowed (transition action row new actor fields) :=
  (stampsOnly_otherChange (by simp [GovernanceChange.Stamps])).bind fun _ =>
    (stampsOnly_reloadVerification _).bind fun _ =>
      (stampsOnly_otherEvent (by simp)).bind fun _ => stampsOnly_pure _

omit [Deployment] in
theorem stampsOnly_inStatus (verificationId : String) (tenantId : Option String)
    (status : String) : StampsOnly allowed (inStatus verificationId tenantId status) := by
  refine (stampsOnly_peek _).bind fun found => ?_
  cases found with
  | none => exact stampsOnly_raise _
  | some row =>
      dsimp only
      split
      · exact stampsOnly_raise _
      · exact stampsOnly_pure _

theorem requestVerification_attributed {tenantId requestedBy : Option String}
    {subjectId subjectType : String} {minScoreRequired : Int}
    {adm : (q : StoreCall) → StoreReply q → Store → Prop}
    {result : Except PyErr TrustVerification} (hS : Attributed S)
    (hown : NamesOwn S tenantId subjectId)
    (h : Prog.Runs adm (requestVerification tenantId subjectId requestedBy subjectType
      minScoreRequired) S trace result S') : Attributed S' := by
  unfold requestVerification at h
  obtain ⟨rest, _, h⟩ := runs_peek_bind h
  cases hgraph : getEvidenceGraph S subjectId tenantId with
  | none =>
      rw [hgraph] at h
      obtain ⟨_, _, rfl⟩ := Prog.runs_raise h
      exact hS
  | some graph =>
      rw [hgraph] at h
      apply hS.of_named (ownerOf_graph hown hgraph)
      refine StampsOnly.run ?_ h
      refine (stampsOnly_peek _).bind fun packet => ?_
      cases packet with
      | none => exact stampsOnly_raise _
      | some packet =>
          refine (stampsOnly_commitChange ?_).bind fun inserted => ?_
          · rintro id t ⟨hid, htenant⟩
            exact ⟨hid.symm, htenant.symm⟩
          · exact (stampsOnly_reloadVerification _).bind fun _ =>
              (stampsOnly_otherEvent (by simp)).bind fun _ => stampsOnly_pure _

theorem stampsOnly_revokeVerification (verificationId : String)
    (tenantId revokedBy : Option String) (reason : String) :
    StampsOnly allowed (revokeVerification verificationId tenantId revokedBy reason) :=
  (stampsOnly_inStatus _ _ _).bind fun _ => stampsOnly_readClock.bind fun _ =>
    stampsOnly_transition _ _ _ _ _

theorem stampsOnly_decideApproval (verificationId : String) (score : TrustScoreService.Scored)
    (approvedBy : Option String) :
    StampsOnly allowed (decideApproval verificationId score approvedBy) := by
  refine (stampsOnly_reloadVerification _).bind fun row => ?_
  split
  · exact stampsOnly_raise _
  · exact stampsOnly_readClock.bind fun _ => (stampsOnly_transition _ _ _ _ _).bind fun _ =>
      stampsOnly_pure _

variable [Python] [Ed25519]

theorem stampsOnly_evidenceStatus (row : TrustVerification) :
    StampsOnly allowed (evidenceStatus row) := by
  unfold evidenceStatus
  split
  · exact stampsOnly_pure _
  · refine (stampsOnly_peek _).bind fun found => ?_
    cases found with
    | none => exact stampsOnly_pure _
    | some packet =>
        exact stampsOnly_readClock.bind fun _ => (stampsOnly_outcome _).bind fun _ =>
          stampsOnly_pure _

theorem stampsOnly_reviewVerification (verificationId : String)
    (tenantId reviewedBy notes : Option String) :
    StampsOnly allowed (reviewVerification verificationId tenantId reviewedBy notes) :=
  (stampsOnly_inStatus _ _ _).bind fun _ => (stampsOnly_evidenceStatus _).bind fun _ =>
    stampsOnly_readClock.bind fun _ => (stampsOnly_transition _ _ _ _ _).bind fun _ =>
      stampsOnly_pure _

theorem quiet_evidenceStatus (row : TrustVerification) : Quiet (evidenceStatus row) := by
  unfold evidenceStatus
  split
  · exact quiet_pure _
  · refine (quiet_peek _).bind fun found => ?_
    cases found with
    | none => exact quiet_pure _
    | some packet =>
        refine quiet_readClock.bind fun now => ?_
        cases verifyPacket packet now <;> trivial

/-- An approval scores the subject of its verification for the caller. -/
theorem approveVerification_attributed {settings : Settings} {verificationId : String}
    {tenantId approvedBy : Option String} {adm : (q : StoreCall) → StoreReply q → Store → Prop}
    {result : Except PyErr (TrustVerification × TrustScoreService.Scored)} (hS : Attributed S)
    (hown : ∀ row, S.governance.verifications.find? verificationId = some row →
      NamesOwn S tenantId row.subjectId)
    (h : Prog.Runs adm (approveVerification settings verificationId tenantId approvedBy) S trace
      result S') : Attributed S' := by
  unfold approveVerification inStatus at h
  rw [Prog.bind_eq, Prog.bind_eq, Prog.bind_assoc] at h
  obtain ⟨rest, _, h⟩ := runs_peek_bind h
  cases hfound : getVerification S.governance verificationId tenantId with
  | none =>
      rw [hfound] at h
      obtain ⟨_, _, rfl⟩ := Prog.runs_raise h
      exact hS
  | some row =>
      have hsubject := hown row (Option.filter_eq_some_iff.mp hfound).1
      rw [hfound] at h
      dsimp only at h
      split at h
      · obtain ⟨_, _, rfl⟩ := Prog.runs_raise h
        exact hS
      · rw [Prog.pure_eq, Prog.pure_bind] at h
        rcases Prog.runs_bind h with ⟨ev, S₁, _, _, hevidence, h, _⟩ | ⟨_, hevidence, _⟩
        · have hS₁ := hS.of_nothing ((stampsOnly_evidenceStatus row).run hevidence)
          have hsame := ((quiet_evidenceStatus row).run hevidence).1
          split at h
          · obtain ⟨_, _, rfl⟩ := Prog.runs_raise h
            exact hS₁
          · rcases Prog.runs_bind h with ⟨scored, S₂, _, _, hscore, h, _⟩ | ⟨_, hscore, _⟩
            all_goals
              have hsubject₁ : NamesOwn S₁ tenantId row.subjectId := by
                unfold NamesOwn
                rw [hsame]
                exact hsubject
              have hS₂ := scoreAction_attributed hS₁ hsubject₁ hscore
            · cases scored with
              | none =>
                  obtain ⟨_, _, rfl⟩ := Prog.runs_raise h
                  exact hS₂
              | some score =>
                  exact hS₂.of_nothing ((stampsOnly_decideApproval _ _ _).run h)
            · exact hS₂
        · exact hS.of_nothing ((stampsOnly_evidenceStatus row).run hevidence)

end

/-- The caller of an operation and the stored action it writes records about. -/
def Operation.named (S : Store) : Operation → Option (Option String × String)
  | .override tenantId actionId _ => some (tenantId, actionId)
  | .persistPacket actionId tenantId _ => some (tenantId, actionId)
  | .score (.action actionId tenantId) => some (tenantId, actionId)
  | .verification (.request tenantId subjectId _ _ _) => some (tenantId, subjectId)
  | .verification (.approve verificationId tenantId _) =>
      (S.governance.verifications.find? verificationId).map fun row => (tenantId, row.subjectId)
  | _ => none

/-- The operator, if it is the caller, names no action of a tenant. -/
def Operation.NamesOwn (S : Store) (op : Operation) : Prop :=
  ∀ named ∈ op.named S, ControlPlane.NamesOwn S named.1 named.2

instance (S : Store) (tenantId : Option String) (actionId : String) :
    Decidable (NamesOwn S tenantId actionId) :=
  inferInstanceAs (Decidable (_ → _))

instance (S : Store) (op : Operation) : Decidable (op.NamesOwn S) :=
  inferInstanceAs (Decidable (∀ _ ∈ _, _))

theorem registry_attributed {call : PolicyVersionService.RegistryCall}
    {adm : (q : StoreCall) → StoreReply q → Store → Prop} {result : Except PyErr Unit}
    (hS : Attributed S) (h : Prog.Runs adm call.run S trace result S') : Attributed S' := by
  cases call with
  | seed =>
      exact hS.of_nothing ((stampsOnly_seedDefaultPolicy.bind fun _ => stampsOnly_pure _).run h)
  | create tenantId name version rules createdBy changeReason =>
      exact hS.of_nothing
        (((stampsOnly_createVersion _ _ _ _ _ _).bind fun _ => stampsOnly_pure _).run h)
  | activate versionId approvedBy tenantId =>
      exact hS.of_nothing (((stampsOnly_activate _ _ _).bind fun _ => stampsOnly_pure _).run h)
  | rollback versionId approvedBy changeReason tenantId =>
      exact hS.of_nothing
        (((stampsOnly_rollbackTo _ _ _ _).bind fun _ => stampsOnly_pure _).run h)
  | submit tenantId actor intake =>
      obtain ⟨_, hrun⟩ := PolicyVersionService.runs_dropped h
      exact submit_attributed hS hrun

omit [Deployment] in
theorem stampsOnly_loadPacket (tenantId : Option String) (packetId : String) :
    StampsOnly allowed (loadPacket tenantId packetId) := by
  refine (stampsOnly_peek _).bind fun found => ?_
  cases found with
  | none => exact stampsOnly_raise _
  | some row => exact stampsOnly_pure _

variable [Python] [Ed25519]

theorem operation_attributed {settings : Settings} {op : Operation}
    {adm : (q : StoreCall) → StoreReply q → Store → Prop} {result : Except PyErr Unit}
    (hS : Attributed S) (hown : op.NamesOwn S)
    (h : Prog.Runs adm (op.run settings) S trace result S') : Attributed S' := by
  cases op with
  | pipeline request =>
      exact hS.of_nothing
        (((stampsOnly_pipeline (program_calls request)).bind fun _ => stampsOnly_pure _).run h)
  | registry call => exact registry_attributed hS h
  | override tenantId actionId a =>
      obtain ⟨_, hrun⟩ := PolicyVersionService.runs_dropped h
      exact override_attributed hS (hown _ rfl) hrun
  | persistPacket actionId tenantId userId =>
      obtain ⟨_, hrun⟩ := PolicyVersionService.runs_dropped h
      exact persistActionPacket_attributed hS (hown _ rfl) hrun
  | revokePacket packetId reason tenantId userId =>
      refine hS.of_nothing (StampsOnly.run ?_ h)
      refine (stampsOnly_loadPacket _ _).bind fun packet => StampsOnly.bind ?_ fun _ =>
        stampsOnly_pure _
      refine stampsOnly_readClock.bind fun _ =>
        (stampsOnly_otherChange (by simp [GovernanceChange.Stamps])).bind fun _ => ?_
      exact ((stampsOnly_peek _).bind fun _ => stampsOnly_foundAgain _).bind fun _ =>
        (stampsOnly_otherEvent (by simp)).bind fun _ => stampsOnly_pure _
  | downloadPacket packetId fmt tenantId userId =>
      refine hS.of_nothing (StampsOnly.run ?_ h)
      exact (stampsOnly_loadPacket _ _).bind fun packet =>
        (stampsOnly_otherEvent (by simp)).bind fun _ => stampsOnly_pure _
  | score call =>
      obtain ⟨_, hrun⟩ := PolicyVersionService.runs_dropped h
      cases call with
      | action actionId tenantId => exact scoreAction_attributed hS (hown _ rfl) hrun
      | workflow workflowId tenantId =>
          exact hS.of_nothing ((stampsOnly_scoreWorkflow _ _ _ _).run hrun)
      | tenant tenantId =>
          exact hS.of_nothing
            (((stampsOnly_scoreTenant _ _ _).bind fun _ => stampsOnly_pure _).run hrun)
  | verification call =>
      cases call with
      | request tenantId subjectId requestedBy subjectType minScoreRequired =>
          obtain ⟨_, hrun⟩ := PolicyVersionService.runs_dropped h
          exact requestVerification_attributed hS (hown _ rfl) hrun
      | review verificationId tenantId reviewedBy notes =>
          exact hS.of_nothing (((stampsOnly_reviewVerification _ _ _ _).bind
            fun _ => stampsOnly_pure _).run h)
      | approve verificationId tenantId approvedBy =>
          obtain ⟨_, hrun⟩ := PolicyVersionService.runs_dropped h
          refine approveVerification_attributed hS ?_ hrun
          intro row hrow
          apply hown (tenantId, row.subjectId)
          rw [Operation.named, hrow]
          rfl
      | revoke verificationId tenantId revokedBy reason =>
          exact hS.of_nothing (((stampsOnly_revokeVerification _ _ _ _).bind
            fun _ => stampsOnly_pure _).run h)

/-- In a run of operations in which the operator writes no records about an action of a tenant,
from a store whose records are stamped with the tenants of their actions, every record about an
action has the tenant of the action. Each operation may return or raise, and anything may be
answered to it. -/
theorem operations_stamp_owners {settings : Settings} {start : Store}
    {log : List (Store × Operation)} (hstart : Attributed start)
    (h : OperationRun settings start log S) (hown : ∀ step ∈ log, step.2.NamesOwn step.1) :
    Stamped S := by
  suffices hattributed : Attributed S from hattributed.stamped
  induction h with
  | nil => exact hstart
  | next h op hrun ih =>
      have hbefore := ih fun step hstep => hown step (List.mem_append_left _ hstep)
      exact operation_attributed hbefore
        (hown _ (List.mem_append_right _ (List.mem_singleton.mpr rfl))) hrun

end

section Sample

open PolicyVersionService

local instance instStampingDeployment : Deployment := .sqlite
local instance instStampingPython : Python := plainPython
local instance instStampingKey : Ed25519 := keyPair ""

def sampleAuthorization : OverrideService.Authorization where
  overriddenBy := none
  reason := "accepted"
  authorityBasis := "policy"
  compensatingControl := "review"
  acceptedRisk := none
  expiration := none

/-- Operations one after the other, the k-th with the answers from `100 * k` on. -/
def performed : Store → List Operation → Nat → List (Store × Operation) × Store
  | S, [], _ => ([], S)
  | S, op :: rest, k =>
      let done := performed ((op.run {}).exec steadyAnswers (100 * k) S).2.2 rest (k + 1)
      ((S, op) :: done.1, done.2)

theorem performed_run {start S : Store} {log : List (Store × Operation)} (ops : List Operation)
    (k : Nat) (h : OperationRun {} start log S) :
    OperationRun {} start (log ++ (performed S ops k).1) (performed S ops k).2 := by
  induction ops generalizing S log k with
  | nil =>
      rw [performed, List.append_nil]
      exact h
  | cons op rest ih =>
      have hrest := ih (k + 1) (h.exec op steadyAnswers (100 * k))
      rw [List.append_assoc] at hrest
      exact hrest

def submission (tenantId : Option String) : Operation :=
  .registry (.submit tenantId none GovernanceWorkflow.exposedIntake)

/-- A tenant and the operator each file a review and override it; another tenant tries to. -/
def ownOverrides : List Operation :=
  [submission (some "t1"), .override (some "t2") "id-1" sampleAuthorization,
    .override (some "t1") "id-1" sampleAuthorization, submission none,
    .override none "id-301" sampleAuthorization]

/-- The operator overrides the review of a tenant. -/
def foreignOverride : List Operation :=
  [submission (some "t1"), .override none "id-1" sampleAuthorization]

/-- The runs leave the overrides they should, the last one with no tenant. -/
theorem overrides_performed :
    (∀ step ∈ (performed {} ownOverrides 0).1, step.2.NamesOwn step.1) ∧
    ((performed {} ownOverrides 0).2.governance.overrides.rows.map fun row =>
      (row.governedActionId, row.tenantId)) = [("id-1", some "t1"), ("id-301", none)] ∧
    (∃ row ∈ (performed {} foreignOverride 0).2.governance.overrides.rows,
      ∃ action ∈ (performed {} foreignOverride 0).2.governance.actions.rows,
        action.id = row.governedActionId ∧ row.tenantId ≠ action.tenantId) := by
  decide +kernel

theorem attributed_empty : Attributed {} := by
  intro id tenantId hstamp
  rw [stamp_iff] at hstamp
  simp [Table.empty] at hstamp

/-- Each of the two overrides has the tenant of its action. -/
theorem own_overrides_stamped :
    ((performed {} ownOverrides 0).2.governance.overrides.rows.map fun row =>
      (row.governedActionId, row.tenantId)) = [("id-1", some "t1"), ("id-301", none)] ∧
    Stamped (performed {} ownOverrides 0).2 := by
  obtain ⟨hown, hrows, _⟩ := overrides_performed
  have hrun := performed_run ownOverrides 0 (@OperationRun.nil _ _ _ {} {})
  exact ⟨hrows, operations_stamp_owners attributed_empty hrun hown⟩

/-- The override that the operator records has no tenant, and its action has one. -/
theorem foreign_override_unstamped : ¬∀ (settings : Settings) (start S : Store)
    (log : List (Store × Operation)), Attributed start → OperationRun settings start log S →
      Stamped S := by
  intro hclaim
  obtain ⟨_, _, row, hrow, action, haction, hid, htenant⟩ := overrides_performed
  have hrun := performed_run foreignOverride 0 (@OperationRun.nil _ _ _ {} {})
  exact htenant (hclaim _ _ _ _ attributed_empty hrun _ _ (.override hrow) action haction hid)

end Sample

end ControlPlane
