import ControlPlane.Reviews.SubjectScore
import ControlPlane.Reviews.VerificationLifecycle

/-!
An approval by the tenant of a verification, and one by the operator in the same
state at the same moment. Both look at the evidence in the tenant of the row, but
each scores what it sees of the subject, and only the packet of a tenant earns the
points for tenant isolation.
-/

namespace ControlPlane

open Lib EvidenceGraph AuditService

namespace VerificationService

open EvidenceStore EvidenceSignature TrustScoreService EvidencePackets

section

variable [Deployment]

/-- All clock readings are of one moment, and no commit fails. -/
def healthy (now : Moment) : (q : StoreCall) → StoreReply q → Store → Prop
  | .clock, (m : Moment), _ => m = now
  | .commit change, (r : DbReply), S =>
      r.failure = none ∧ (change.apply r S.governance).isSome
  | .pipeline (.commit tx), (r : DbReply), S => r.failure = none ∧ (tx.apply r S.db).isSome
  | _, _, _ => True

variable {α : Type} {now : Moment} {S : Store}

theorem wp_peek {read : Store → α} {post : Except PyErr α → Store → Prop}
    (h : post (.ok (read S)) S) : (peek read).wp (healthy now) post S :=
  fun _ _ => h

theorem wp_readClock {post : Except PyErr Moment → Store → Prop} (h : post (.ok now) S) :
    readClock.wp (healthy now) post S := by
  rintro m rfl
  exact h

omit [Deployment] in
theorem wp_outcome {adm : (q : StoreCall) → StoreReply q → Store → Prop}
    {known : Except PyErr α} {post : Except PyErr α → Store → Prop} (h : post known S) :
    (outcome known).wp adm post S := by
  cases known <;> exact h

omit [Deployment] in
theorem wp_foundAgain {adm : (q : StoreCall) → StoreReply q → Store → Prop} {row : α}
    {found : Option α} {post : Except PyErr α → Store → Prop} (hfound : found = some row)
    (h : post (.ok row) S) : (foundAgain found).wp adm post S := by
  rw [hfound]
  exact h

theorem wp_commitChange {change : GovernanceChange} {post : Except PyErr DbReply → Store → Prop}
    (h : ∀ (r : DbReply) g, change.apply r S.governance = some g →
      post (.ok r) { S with governance := g }) :
    (commitChange change).wp (healthy now) post S := by
  rintro (r : DbReply) ⟨hfail, hsome⟩
  obtain ⟨g, happly⟩ := Option.isSome_iff_exists.mp hsome
  have hrun : change.run r S = .ok { S with governance := g } := by
    rw [GovernanceChange.run, hfail]
    dsimp only
    rw [happly]
  have hwrite : change.write r S = { S with governance := g } := by
    rw [GovernanceChange.write, hrun]
  rw [hwrite]
  dsimp only
  rw [hrun]
  exact h r g happly

theorem wp_append {row : AuditEvent} {retry : Session AuditEvent}
    {post : Except PyErr AuditEvent → Store → Prop}
    (h : ∀ event db, post (.ok event) { S with db := db }) :
    (inPipeline (append row retry)).wp (healthy now) post S := by
  rintro (r : DbReply) ⟨hfail, hsome⟩
  obtain ⟨db, happly⟩ := Option.isSome_iff_exists.mp hsome
  have hrun := Transaction.run_eq_ok.mpr ⟨hfail, happly⟩
  have hnext : Prog.wp (healthy now) (inPipeline (afterCommit row retry r S.db)) post
      { S with db := (Transaction.insertAudit row).write r S.db } := by
    rw [afterCommit, hrun]
    exact h _ _
  exact hnext

theorem wp_pipelineSelect {query : Query} {next : Reading → Database → Session α}
    {post : Except PyErr α → Store → Prop}
    (h : ∀ r : Reading, (inPipeline (next r S.db)).wp (healthy now) post S) :
    (inPipeline (.act (.select query) (fun _ s => s) next)).wp (healthy now) post S :=
  fun r _ => h r

/-- An audit event is recorded by the first attempt. -/
theorem wp_recordEvent {e : NewEvent} {post : Except PyErr AuditEvent → Store → Prop}
    (h : ∀ event db, post (.ok event) { S with db := db }) :
    (recordEvent e).wp (healthy now) post S := by
  have hrecord : record e = recordFrom e (49 + 1) := rfl
  rw [recordEvent, hrecord, recordFrom_succ]
  apply wp_pipelineSelect
  intro r
  obtain ⟨hash, hrow⟩ := link_ok e (chainHead S.db.auditEvents.rows) r.now
  rw [hrow]
  exact wp_append h

/-- A transition of a stored row goes through. -/
theorem wp_transition {action : String} {row new : TrustVerification}
    {actor : Option String} {fields : TrustVerification → Dict}
    {post : Except PyErr TrustVerification → Store → Prop}
    (hrow : S.governance.verifications.find? row.id = some row)
    (h : ∀ row' S', post (.ok row') S') :
    (transition action row new actor fields).wp (healthy now) post S := by
  unfold transition
  rw [Prog.bind_eq, Prog.wp_bind]
  apply wp_commitChange
  intro r g happly
  cases happly
  have hfound : (S.governance.verifications.modify row.id (row.updated new)).find? row.id =
      some (row.updated new row) :=
    Table.find?_modify_self hrow
  rw [Prog.andThen_ok, Prog.bind_eq, Prog.wp_bind, reloadVerification, Prog.bind_eq,
    Prog.wp_bind]
  apply wp_peek
  rw [Prog.andThen_ok]
  apply wp_foundAgain hfound
  rw [Prog.andThen_ok, Prog.bind_eq, Prog.wp_bind]
  apply wp_recordEvent
  intro event db
  exact h _ _

end

section

variable [Deployment] [Python] [Ed25519] {now : Moment} {S : Store}

/-- The verdict on the evidence of a row at a moment. -/
def evidenceAt (g : Governance) (row : TrustVerification) (now : Moment) :
    Except PyErr Evidence :=
  if falsy row.evidencePacketId then .ok .missing
  else match getPacket g (row.evidencePacketId.getD "") row.tenantId with
    | none => .ok .missing
    | some packet => (verifyPacket packet now).map .verified

def ValidAt (g : Governance) (row : TrustVerification) (now : Moment) : Prop :=
  ∃ ev, evidenceAt g row now = .ok ev ∧ ev.status = "valid"

theorem wp_evidenceStatus {row : TrustVerification}
    {post : Except PyErr Evidence → Store → Prop}
    (h : post (evidenceAt S.governance row now) S) :
    (evidenceStatus row).wp (healthy now) post S := by
  unfold evidenceAt at h
  unfold evidenceStatus
  split at h
  · next hfalsy =>
      rw [if_pos hfalsy]
      exact h
  · next hfalsy =>
      rw [if_neg hfalsy, Prog.bind_eq, Prog.wp_bind]
      apply wp_peek
      rw [Prog.andThen_ok]
      cases hpacket : getPacket S.governance (row.evidencePacketId.getD "") row.tenantId with
      | none =>
          rw [hpacket] at h
          exact h
      | some packet =>
          rw [hpacket] at h
          dsimp only at h ⊢
          rw [Prog.bind_eq, Prog.wp_bind]
          apply wp_readClock
          rw [Prog.andThen_ok, Prog.bind_eq, Prog.wp_bind]
          apply wp_outcome
          cases hverify : verifyPacket packet now with
          | error e =>
              rw [hverify] at h
              exact h
          | ok v =>
              rw [hverify] at h
              exact h

/-- The points of what a caller sees of the subject. -/
def subjectPoints (settings : Settings) (S : Store) (action : GovernedAction)
    (tenantId : Option String) : Int :=
  (seen S action tenantId).points settings.appEnv (!falsy action.policyVersionId)

omit [Python] [Ed25519] in
/-- The score is stored, and the verifications stay. -/
theorem wp_scoreAction {settings : Settings} {id : String} {tenantId : Option String}
    {action : GovernedAction} (hchain : Unbroken S.db.auditEvents.rows)
    (haction : getGovernedAction S.governance id tenantId = some action)
    {post : Except PyErr (Option Scored) → Store → Prop}
    (h : ∀ scored S', scored.result.score = subjectPoints settings S action tenantId →
      S'.governance.verifications = S.governance.verifications → post (.ok (some scored)) S') :
    (scoreAction settings id tenantId true).wp (healthy now) post S := by
  obtain ⟨packet, hbuilt, hscore⟩ := buildActionPacket_score hchain haction
    (Datetime.utc now).isoformat settings.appEnv
  unfold scoreAction
  rw [Prog.bind_eq, Prog.wp_bind]
  apply wp_readClock
  rw [Prog.andThen_ok, Prog.bind_eq, Prog.wp_bind]
  apply wp_peek
  rw [Prog.andThen_ok, hbuilt, Prog.bind_eq, Prog.wp_bind]
  apply wp_outcome
  rw [Prog.andThen_ok]
  change Prog.wp (healthy now) ((scoreScope settings tenantId "governed_action" id true
    packet).bind fun scored => .pure (some scored)) post S
  rw [Prog.wp_bind, scoreScope, if_pos rfl, Prog.bind_eq, Prog.wp_bind, persist, Prog.bind_eq,
    Prog.wp_bind]
  apply wp_peek
  rw [Prog.andThen_ok, Prog.bind_eq, Prog.wp_bind]
  apply wp_commitChange
  intro r g happly
  obtain ⟨table, hinsert, rfl⟩ := Option.map_eq_some_iff.mp happly
  rw [Prog.andThen_ok, Prog.bind_eq, Prog.wp_bind]
  apply wp_peek
  rw [Prog.andThen_ok]
  apply wp_foundAgain (Table.find?_insert_self hinsert)
  exact h _ _ hscore rfl

omit [Python] [Ed25519] in
theorem wp_scoreAction_none {settings : Settings} {id : String} {tenantId : Option String}
    (haction : getGovernedAction S.governance id tenantId = none)
    {post : Except PyErr (Option Scored) → Store → Prop} (h : post (.ok none) S) :
    (scoreAction settings id tenantId true).wp (healthy now) post S := by
  have hbuilt := buildActionPacket_none haction (Datetime.utc now).isoformat
  unfold scoreAction
  rw [Prog.bind_eq, Prog.wp_bind]
  apply wp_readClock
  rw [Prog.andThen_ok, Prog.bind_eq, Prog.wp_bind]
  apply wp_peek
  rw [Prog.andThen_ok, hbuilt, Prog.bind_eq, Prog.wp_bind]
  apply wp_outcome
  exact h

/-- The score, or the error. -/
def outcomeOf (result : Except PyErr (TrustVerification × Scored)) : Except PyErr Int :=
  result.map fun approval => approval.2.result.score

omit [Python] [Ed25519] in
theorem wp_decideApproval {row : TrustVerification} {score : Scored}
    {approvedBy : Option String}
    (hrow : S.governance.verifications.find? row.id = some row) :
    (decideApproval row.id score approvedBy).wp (healthy now) (fun result _ =>
      outcomeOf result = if score.result.score < row.minScoreRequired then
        .error (.valueError "insufficient_trust_score") else .ok score.result.score) S := by
  unfold decideApproval
  rw [Prog.bind_eq, Prog.wp_bind, reloadVerification, Prog.bind_eq, Prog.wp_bind]
  apply wp_peek
  rw [Prog.andThen_ok]
  apply wp_foundAgain hrow
  rw [Prog.andThen_ok]
  split
  · rfl
  · rw [Prog.bind_eq, Prog.wp_bind]
    apply wp_readClock
    rw [Prog.andThen_ok, Prog.bind_eq, Prog.wp_bind]
    apply wp_transition hrow
    intro row' S'
    rfl

/-- What an approval comes down to. -/
def decision (settings : Settings) (S : Store) (row : TrustVerification)
    (tenantId : Option String) (now : Moment) : Except PyErr Int :=
  match evidenceAt S.governance row now with
  | .error e => .error e
  | .ok ev =>
      if ev.status ≠ "valid" then .error (.valueError ("evidence_not_valid:" ++ ev.status))
      else match getGovernedAction S.governance row.subjectId tenantId with
        | none => .error (.valueError "subject_not_found")
        | some action =>
            if subjectPoints settings S action tenantId < row.minScoreRequired then
              .error (.valueError "insufficient_trust_score")
            else .ok (subjectPoints settings S action tenantId)

theorem wp_approveVerification {settings : Settings} {id : String}
    {tenantId approvedBy : Option String} {row : TrustVerification}
    (hchain : Unbroken S.db.auditEvents.rows)
    (hrow : getVerification S.governance id tenantId = some row)
    (hstatus : row.status = "under_review") :
    (approveVerification settings id tenantId approvedBy).wp (healthy now)
      (fun result _ => outcomeOf result = decision settings S row tenantId now) S := by
  have hfind := (Option.filter_eq_some_iff.mp hrow).1
  have hid := Table.key_of_find? hfind
  unfold approveVerification inStatus
  rw [Prog.bind_eq, Prog.wp_bind, Prog.bind_eq, Prog.wp_bind]
  apply wp_peek
  rw [Prog.andThen_ok, hrow]
  dsimp only
  rw [if_neg (not_not.mpr hstatus)]
  rw [Prog.pure_eq, Prog.wp_pure, Prog.andThen_ok, Prog.bind_eq, Prog.wp_bind]
  apply wp_evidenceStatus
  unfold decision
  cases evidenceAt S.governance row now with
  | error e => rfl
  | ok ev =>
      rw [Prog.andThen_ok]
      dsimp only
      split
      · rfl
      · rw [Prog.bind_eq, Prog.wp_bind]
        cases haction : getGovernedAction S.governance row.subjectId tenantId with
        | none =>
            apply wp_scoreAction_none haction
            rfl
        | some action =>
            apply wp_scoreAction hchain haction
            intro scored S' hscore hverifications
            rw [Prog.andThen_ok]
            have hrow' : S'.governance.verifications.find? row.id = some row := by
              rw [hverifications, hid]
              exact hfind
            apply Prog.wp_mono (wp_decideApproval hrow')
            intro result _ houtcome
            rw [houtcome, hscore]

/-- What both callers come to the same decision on: evidence that is not valid, no
subject, or a subject of the tenant whose points for the two callers are equal or both
too few. -/
def SameDecision (settings : Settings) (S : Store) (row : TrustVerification) (t : String)
    (now : Moment) : Prop :=
  ¬ValidAt S.governance row now ∨
    ∀ action, S.governance.actions.find? row.subjectId = some action →
      action.tenantId = some t ∧
        (subjectPoints settings S action (some t) = subjectPoints settings S action none ∨
          subjectPoints settings S action (some t) < row.minScoreRequired ∧
            subjectPoints settings S action none < row.minScoreRequired)

omit [Deployment] [Python] [Ed25519] in
theorem getGovernedAction_none (g : Governance) (id : String) :
    getGovernedAction g id none = g.actions.find? id := by
  unfold getGovernedAction ifScoped
  cases g.actions.find? id with
  | none => rfl
  | some action => simp [Option.filter_some, inScope]

omit [Deployment] [Python] [Ed25519] in
/-- Two scores against one threshold. -/
theorem thresholds_agree {e : PyErr} {p o m : Int} :
    ((if p < m then .error e else .ok p : Except PyErr Int) =
      if o < m then .error e else .ok o) ↔ p = o ∨ p < m ∧ o < m := by
  split
  · next hp =>
      split
      · next ho => exact iff_of_true rfl (Or.inr ⟨hp, ho⟩)
      · next ho =>
          refine iff_of_false (by simp) ?_
          rintro (rfl | ⟨_, ho'⟩)
          · exact ho hp
          · exact ho ho'
  · next hp =>
      split
      · next ho =>
          refine iff_of_false (by simp) ?_
          rintro (rfl | ⟨hp', _⟩)
          · exact hp ho
          · exact hp hp'
      · rw [Except.ok.injEq]
        constructor
        · exact Or.inl
        · rintro (h | ⟨hp', _⟩)
          · exact h
          · exact absurd hp' hp

theorem decision_eq_iff {settings : Settings} {row : TrustVerification} {t : String} :
    decision settings S row (some t) now = decision settings S row none now ↔
      SameDecision settings S row t now := by
  unfold decision SameDecision ValidAt
  rw [getGovernedAction_none]
  cases evidenceAt S.governance row now with
  | error e =>
      refine iff_of_true rfl (Or.inl ?_)
      rintro ⟨_, h, _⟩
      cases h
  | ok ev =>
      dsimp only
      by_cases hvalid : ev.status = "valid"
      · rw [if_neg (not_not.mpr hvalid), if_neg (not_not.mpr hvalid),
          or_iff_right (not_not.mpr ⟨ev, rfl, hvalid⟩), getGovernedAction]
        cases haction : S.governance.actions.find? row.subjectId with
        | none => simp [ifScoped]
        | some action =>
            by_cases hscope : action.tenantId = some t
            · have hown : ifScoped GovernedAction.tenantId (some t) (some action) =
                  some action := by
                simp [ifScoped, Option.filter_some, inScope, hscope]
              rw [hown]
              dsimp only
              rw [thresholds_agree]
              simp [hscope]
            · have hother : ifScoped GovernedAction.tenantId (some t) (some action) =
                  none := by
                simp [ifScoped, Option.filter_some, inScope, hscope]
              rw [hother]
              dsimp only
              refine iff_of_false ?_ fun h => hscope (h action rfl).1
              split <;> simp
      · rw [if_pos hvalid, if_pos hvalid]
        refine iff_of_true rfl (Or.inl ?_)
        rintro ⟨other, h, hother⟩
        cases h
        exact hvalid hother

/-- A verification of a tenant is under review, and the audit chain is unbroken. The tenant and
the operator, who approve it in the same state and at the same time, get the same outcome if and
only if the state is one of those on which they come to the same decision. -/
theorem approve_same_outcome_iff {settings : Settings} {id : String} {t : String}
    {row : TrustVerification} {tenantUser operator : Option String}
    {trace trace' : List StoreEvent} {result result' : Except PyErr (TrustVerification × Scored)}
    {S₁ S₂ : Store} (hchain : Unbroken S.db.auditEvents.rows)
    (hrow : S.governance.verifications.find? id = some row) (htenant : row.tenantId = some t)
    (hstatus : row.status = "under_review")
    (htenantRun : Prog.Runs (healthy now)
      (approveVerification settings id (some t) tenantUser) S trace result S₁)
    (hoperatorRun : Prog.Runs (healthy now)
      (approveVerification settings id none operator) S trace' result' S₂) :
    outcomeOf result = outcomeOf result' ↔ SameDecision settings S row t now := by
  have hown : getVerification S.governance id (some t) = some row := by
    rw [getVerification, hrow]
    simp [Option.filter_some, inScope, htenant]
  have hall : getVerification S.governance id none = some row := by
    rw [getVerification, hrow]
    simp [Option.filter_some, inScope]
  have htenantOutcome := Prog.wp_sound (wp_approveVerification hchain hown hstatus) htenantRun
  have hoperatorOutcome :=
    Prog.wp_sound (wp_approveVerification hchain hall hstatus) hoperatorRun
  rw [htenantOutcome, hoperatorOutcome]
  exact decision_eq_iff

end

section Sample

local instance instCallerDeployment : Deployment := .sqlite
local instance instCallerPython : Python := plainPython
local instance instCallerKey : Ed25519 := keyPair ""

local instance instHealthy (now : Moment) (q : StoreCall) (r : StoreReply q) (S : Store) :
    Decidable (healthy now q r S) :=
  match q, r with
  | .clock, (m : Moment) => inferInstanceAs (Decidable (m = now))
  | .select, _ => inferInstanceAs (Decidable True)
  | .commit change, (r : DbReply) => inferInstanceAs
      (Decidable (r.failure = none ∧ (change.apply r S.governance).isSome))
  | .pipeline (.select _), _ => inferInstanceAs (Decidable True)
  | .pipeline (.commit tx), (r : DbReply) => inferInstanceAs
      (Decidable (r.failure = none ∧ (tx.apply r S.db).isSome))
  | .pipeline (.createDraft _ _ _), _ => inferInstanceAs (Decidable True)
  | .pipeline (.readThread _), _ => inferInstanceAs (Decidable True)
  | .pipeline (.sendApprovedDraft _ _), _ => inferInstanceAs (Decidable True)

/-- A verification of the sample subject, under review. -/
def awaiting (packetId : Option String) : TrustVerification where
  id := "v1"
  tenantId := some "t1"
  subjectType := subjectGovernedAction
  subjectId := "g1"
  status := "under_review"
  evidencePacketId := packetId
  trustScoreId := none
  trustScore := none
  minScoreRequired := 20
  requestedByUserId := none
  reviewedByUserId := none
  decidedByUserId := none
  reviewNotes := none
  decisionReason := none
  reviewedAt := none
  decidedAt := none

def withAwaiting (packetId : Option String) : Store :=
  { withPacket with governance :=
    { withPacket.governance with verifications := .single (awaiting packetId) } }

def sampleMoment : Moment := AuditService.sampleCreated.createdAt.moment

/-- An approval of the sample, with each commit stored. -/
def approvedBy (tenantId packetId : Option String) :
    List StoreEvent × Except PyErr (TrustVerification × Scored) × Store :=
  (approveVerification {} "v1" tenantId none).exec packetAnswers 0 (withAwaiting packetId)

theorem awaiting_unbroken (packetId : Option String) :
    Unbroken (withAwaiting packetId).db.auditEvents.rows :=
  ⟨_, rfl, by decide⟩

/-- Each commit of the four sample approvals is stored; with the packet the tenant's score is
20, and the operator's call is refused. -/
theorem approvals_answered :
    (∀ tenantId ∈ [some "t1", none], ∀ packetId ∈ [none, some "p1"],
      (approveVerification {} "v1" tenantId none).admits (healthy sampleMoment)
        packetAnswers 0 (withAwaiting packetId) = true) ∧
    (outcomeOf (approvedBy (some "t1") (some "p1")).2.1).toOption = some 20 ∧
      (outcomeOf (approvedBy none (some "p1")).2.1).toOption = none := by
  decide +kernel

theorem approval_runs (tenantId packetId : Option String) (ht : tenantId ∈ [some "t1", none])
    (hp : packetId ∈ [none, some "p1"]) :
    Prog.Runs (healthy sampleMoment) (approveVerification {} "v1" tenantId none)
      (withAwaiting packetId) (approvedBy tenantId packetId).1
      (approvedBy tenantId packetId).2.1 (approvedBy tenantId packetId).2.2 :=
  Prog.runs_of_admits (approvals_answered.1 tenantId ht packetId hp)

/-- A row without a packet. -/
theorem approve_without_evidence :
    outcomeOf (approvedBy (some "t1") none).2.1 = outcomeOf (approvedBy none none).2.1 := by
  have htenantRun := approval_runs (some "t1") none (by simp) (by simp)
  have hoperatorRun := approval_runs none none (by simp) (by simp)
  apply (approve_same_outcome_iff (awaiting_unbroken none) rfl rfl rfl htenantRun
    hoperatorRun).mpr
  left
  rintro ⟨ev, hevidence, hvalid⟩
  cases hevidence
  revert hvalid
  decide

/-- The subject has the 20 points it needs for its tenant, and 12 for the operator. -/
theorem operator_refused : ¬∀ (now : Moment) (S S₁ S₂ : Store) (id t : String)
    (row : TrustVerification) (trace trace' : List StoreEvent)
    (result result' : Except PyErr (TrustVerification × Scored)),
    Unbroken S.db.auditEvents.rows → S.governance.verifications.find? id = some row →
      row.tenantId = some t → row.status = "under_review" →
      Prog.Runs (healthy now) (approveVerification {} id (some t) none) S trace result S₁ →
      Prog.Runs (healthy now) (approveVerification {} id none none) S trace' result' S₂ →
        outcomeOf result = outcomeOf result' := by
  intro hclaim
  obtain ⟨_, happroved, hrefused⟩ := approvals_answered
  have htenantRun := approval_runs (some "t1") (some "p1") (by simp) (by simp)
  have hoperatorRun := approval_runs none (some "p1") (by simp) (by simp)
  have hsame := hclaim sampleMoment _ _ _ "v1" "t1" (awaiting (some "p1")) _ _ _ _
    (awaiting_unbroken _) rfl rfl rfl htenantRun hoperatorRun
  rw [hsame, hrefused] at happroved
  cases happroved

end Sample

end VerificationService

end ControlPlane
