import ControlPlane.Db.Governance
import ControlPlane.Services.AuditService

/-!
Sessions over the whole database. A governance service reads the clock, runs a
SELECT, commits one change of the governance tables, or calls a service of the
execution pipeline, whose session it shares. Everything else is as in
`ControlPlane.Db.Session`: a commit is one atomic step, its answer names the new
row or the error, and anything may happen between two steps.
-/

namespace ControlPlane

open Lib

/-- What one commit writes to the governance tables: new rows, which get their
id from the answer, and the columns that are set on rows loaded before. -/
inductive GovernanceChange where
  | insertAction (row : GovernedAction)
  | linkApproval (actionId approvalId : String)
  | insertRisk (row : RiskAssessment)
  | insertArtifact (row : EvidenceArtifact)
  | insertOverride (row : ActionOverride)
  | insertPacket (row : EvidencePacket) (superseded : List String)
  | signPacket (packetId signature : String) (signedAt : Moment) (expiry : Expiry)
  | revokePacket (packetId reason : String) (revokedAt : Moment)
  | insertScore (row : TrustScore)
  | insertVerification (row : TrustVerification)
  | updateVerification (loaded new : TrustVerification)
  | insertPolicy (row : GovernancePolicy)
  | updatePolicies (changes : List (GovernancePolicy × GovernancePolicy))

inductive StoreCall where
  | clock
  | select
  | commit (change : GovernanceChange)
  | pipeline (call : Call)

@[reducible] def StoreReply : StoreCall → Type
  | .clock => Moment
  | .select => Unit
  | .commit _ => DbReply
  | .pipeline call => Reply call

abbrev StoreSession := Prog Store StoreCall StoreReply PyErr

abbrev StoreEvent := Event StoreCall StoreReply

/-- The columns of a verification that the lifecycle sets; an UPDATE writes only
those that changed. -/
def TrustVerification.updated (loaded new current : TrustVerification) :
    TrustVerification :=
  { current with
    status := changed loaded.status new.status current.status
    trustScoreId := changed loaded.trustScoreId new.trustScoreId current.trustScoreId
    trustScore := changed loaded.trustScore new.trustScore current.trustScore
    reviewedByUserId :=
      changed loaded.reviewedByUserId new.reviewedByUserId current.reviewedByUserId
    decidedByUserId :=
      changed loaded.decidedByUserId new.decidedByUserId current.decidedByUserId
    reviewNotes := changed loaded.reviewNotes new.reviewNotes current.reviewNotes
    decisionReason :=
      changed loaded.decisionReason new.decisionReason current.decisionReason
    reviewedAt := changed loaded.reviewedAt new.reviewedAt current.reviewedAt
    decidedAt := changed loaded.decidedAt new.decidedAt current.decidedAt }

/-- The columns that the lifecycle of a policy version sets. -/
def GovernancePolicy.updated (loaded new current : GovernancePolicy) :
    GovernancePolicy :=
  { current with
    isActive := changed loaded.isActive new.isActive current.isActive
    status := changed loaded.status new.status current.status
    effectiveFrom :=
      changed loaded.effectiveFrom new.effectiveFrom current.effectiveFrom
    effectiveTo := changed loaded.effectiveTo new.effectiveTo current.effectiveTo
    approvedByUserId := changed loaded.approvedByUserId new.approvedByUserId
      current.approvedByUserId }

/-- The policy table after the UPDATEs of one commit. -/
def PolicyTable.update (policies : PolicyTable)
    (changes : List (GovernancePolicy × GovernancePolicy)) : PolicyTable :=
  changes.foldl (fun T c => T.modify c.1.id (c.1.updated c.2)) policies

def overrideRecorded : String := "override_recorded"

def EvidencePacket.superseded (row : EvidencePacket) : EvidencePacket :=
  { row with retentionStatus := "superseded" }

section

variable [Deployment]

def EvidencePacket.signed (row : EvidencePacket) (signature : String)
    (signedAt : Moment) (expiry : Expiry) : EvidencePacket :=
  { row with
    packetSignature := some signature
    signatureAlgorithm := some "Ed25519"
    signedAt := some (Deployment.stored (.utc signedAt))
    expiresAt := some (Deployment.stored (.utc expiry.moment)) }

def EvidencePacket.revoked (row : EvidencePacket) (reason : String)
    (revokedAt : Moment) : EvidencePacket :=
  { row with
    revokedAt := some (Deployment.stored (.utc revokedAt))
    revocationReason := some reason }

/-- `created_at` is the server's default. -/
def DbReply.createdAt (r : DbReply) : Datetime := Deployment.stored (.utc r.now)

/-- The stored row of a new packet. -/
def EvidencePacket.inserted (row : EvidencePacket) (r : DbReply) : EvidencePacket :=
  { row with id := r.newId, createdAt := r.createdAt }

def GovernancePolicy.inserted (row : GovernancePolicy) (r : DbReply) :
    GovernancePolicy :=
  { row with id := r.newId, createdAt := r.createdAt }

/-- The packet table with the rows of the given ids superseded. -/
def supersede (packets : PacketTable) (ids : List String) : PacketTable :=
  ids.foldl (fun T id => T.modify id EvidencePacket.superseded) packets

/-- The governance tables after the statements of a change; `none` when a key or
UNIQUE constraint is violated. -/
def GovernanceChange.apply (change : GovernanceChange) (r : DbReply)
    (g : Governance) : Option Governance :=
  match change with
  | .insertAction row =>
      (g.actions.insert { row with id := r.newId, createdAt := r.createdAt }).map
        fun t => { g with actions := t }
  | .linkApproval actionId approvalId => some { g with
      actions := g.actions.modify actionId
        fun row => { row with approvalId := some approvalId } }
  | .insertRisk row =>
      (g.risks.insert { row with id := r.newId }).map fun t => { g with risks := t }
  | .insertArtifact row =>
      (g.artifacts.insert { row with id := r.newId, createdAt := r.createdAt }).map
        fun t => { g with artifacts := t }
  | .insertOverride row =>
      (g.overrides.insert { row with id := r.newId }).map fun t => { g with
        overrides := t
        actions := g.actions.modify row.governedActionId
          fun action => { action with status := overrideRecorded } }
  | .insertPacket row superseded =>
      ((supersede g.packets superseded).insert (row.inserted r)).map
        fun t => { g with packets := t }
  | .signPacket packetId signature signedAt expiry => some { g with
      packets := g.packets.modify packetId
        fun row => row.signed signature signedAt expiry }
  | .revokePacket packetId reason revokedAt => some { g with
      packets := g.packets.modify packetId fun row => row.revoked reason revokedAt }
  | .insertScore row =>
      (g.scores.insert { row with id := r.newId, createdAt := r.createdAt }).map
        fun t => { g with scores := t }
  | .insertVerification row =>
      (g.verifications.insert { row with id := r.newId }).map
        fun t => { g with verifications := t }
  | .updateVerification loaded new => some { g with
      verifications := g.verifications.modify loaded.id (loaded.updated new) }
  | .insertPolicy row =>
      (g.policies.insert (row.inserted r)).map fun t => { g with policies := t }
  | .updatePolicies changes =>
      some { g with policies := PolicyTable.update g.policies changes }

def GovernanceChange.run (change : GovernanceChange) (r : DbReply) (S : Store) :
    Except PyErr Store :=
  match r.failure with
  | some kind => .error (.db kind r.message)
  | none =>
      match change.apply r S.governance with
      | some g => .ok { S with governance := g }
      | none => .error (.db .integrity r.message)

/-- The store after a commit, whether it went through or not. -/
def GovernanceChange.write (change : GovernanceChange) (r : DbReply) (S : Store) :
    Store :=
  match change.run r S with
  | .ok S' => S'
  | .error _ => S

theorem GovernanceChange.run_eq_ok {change : GovernanceChange} {r : DbReply}
    {S S' : Store} (h : change.run r S = .ok S') :
    r.failure = none ∧ ∃ g, change.apply r S.governance = some g ∧
      S' = { S with governance := g } := by
  unfold GovernanceChange.run at h
  cases hfail : r.failure with
  | some kind =>
      rw [hfail] at h
      cases h
  | none =>
      rw [hfail] at h
      cases happly : change.apply r S.governance with
      | none =>
          rw [happly] at h
          cases h
      | some g =>
          rw [happly] at h
          cases h
          exact ⟨rfl, g, rfl, rfl⟩

/-- `session.commit()`. -/
def commitChange (change : GovernanceChange) : StoreSession DbReply :=
  .act (.commit change) change.write fun r S =>
    match change.run r S with
    | .ok _ => .pure r
    | .error e => .raise e

end

def readClock : StoreSession Moment :=
  .act .clock (fun _ S => S) fun (m : Moment) _ => .pure m

/-- `session.execute(select(…))` or `session.get`. -/
def peek {α : Type} (read : Store → α) : StoreSession α :=
  .act .select (fun _ S => S) fun _ S => .pure (read S)

/-- A known outcome is returned or raised. -/
def outcome {α : Type} : Except PyErr α → StoreSession α
  | .ok value => .pure value
  | .error error => .raise error

/-- A row that was committed is found again; rows are never deleted. -/
def foundAgain {α : Type} : Option α → StoreSession α
  | some row => .pure row
  | none => .raise (.other "InvalidRequestError" "Could not refresh instance")

/-- A service of the execution pipeline in the same session. -/
def inPipeline {α : Type} : Session α → StoreSession α
  | .pure value => .pure value
  | .raise error => .raise error
  | .act call write next =>
      .act (.pipeline call) (fun r S => { S with db := write r S.db })
        fun r S => inPipeline (next r S.db)

theorem inPipeline_bind {α β : Type} (p : Session α) (k : α → Session β) :
    inPipeline (p.bind k) = (inPipeline p).bind fun value => inPipeline (k value) := by
  induction p with
  | pure value => rfl
  | raise error => rfl
  | act call write next ih =>
      rw [Prog.act_bind, inPipeline, inPipeline, Prog.act_bind]
      congr 1
      funext r S
      exact ih r S.db

def recordEvent [Deployment] (e : AuditService.NewEvent) : StoreSession AuditEvent :=
  inPipeline (AuditService.record e)

/-- The surroundings may give any answer. -/
def anyAnswer : (call : StoreCall) → StoreReply call → Store → Prop :=
  fun _ _ _ => True

/-- A commit of the governance tables that did not go through. -/
def Refused [Deployment] (change : GovernanceChange) (r : DbReply) (S : Store) : Prop :=
  r.failure ≠ none ∨ change.apply r S.governance = none

section

variable {α β : Type} {adm : (q : StoreCall) → StoreReply q → Store → Prop}
  {post : List StoreEvent → Except PyErr α → Store → Prop}
  {before : List StoreEvent} {S : Store}

theorem traced_outcome {result : Except PyErr α} (h : post before result S) :
    (outcome result).traced adm post before S := by
  cases result <;> exact h

theorem traced_peek {read : Store → α}
    (h : post (before ++ [⟨.select, ()⟩]) (.ok (read S)) S) :
    (peek read).traced adm post before S :=
  fun _ _ => h

theorem traced_readClock {post : List StoreEvent → Except PyErr Moment → Store → Prop}
    (h : ∀ m : Moment, post (before ++ [⟨.clock, m⟩]) (.ok m) S) :
    readClock.traced adm post before S :=
  fun m _ => h m

theorem traced_foundAgain {row : Option α}
    (hsome : ∀ value, row = some value → post before (.ok value) S)
    (hnone : row = none → ∀ e, post before (.error e) S) :
    (foundAgain row).traced adm post before S := by
  cases row with
  | none => exact hnone rfl _
  | some value => exact hsome value rfl

theorem traced_commitChange [Deployment] {change : GovernanceChange}
    {post : List StoreEvent → Except PyErr DbReply → Store → Prop}
    (hok : ∀ (r : DbReply) g, r.failure = none →
      change.apply r S.governance = some g →
      post (before ++ [⟨.commit change, r⟩]) (.ok r) { S with governance := g })
    (hrefused : ∀ (r : DbReply) e, Refused change r S →
      post (before ++ [⟨.commit change, r⟩]) (.error e) S) :
    (commitChange change).traced adm post before S := by
  intro (r : DbReply) _
  change Prog.traced adm (match change.run r S with
    | .ok _ => .pure r
    | .error e => .raise e) post _ (change.write r S)
  unfold GovernanceChange.write
  cases hrun : change.run r S with
  | ok S' =>
      obtain ⟨hfail, g, happly, rfl⟩ := GovernanceChange.run_eq_ok hrun
      exact hok r g hfail happly
  | error e =>
      apply hrefused r e
      unfold GovernanceChange.run at hrun
      cases hfail : r.failure with
      | some kind => exact Or.inl (by simp [hfail])
      | none =>
          right
          rw [hfail] at hrun
          cases happly : change.apply r S.governance with
          | none => rfl
          | some g =>
              rw [happly] at hrun
              cases hrun

/-- A pipeline service does not touch the governance tables: what holds of every
store with the same ones holds after it. -/
theorem traced_inPipeline (p : Session α)
    (h : ∀ events result db, (∀ e ∈ events, ∃ call, e.call = StoreCall.pipeline call) →
      post (before ++ events) result { S with db := db }) :
    (inPipeline p).traced adm post before S := by
  induction p generalizing before S with
  | pure value =>
      have hdone := h [] (.ok value) S.db (by simp)
      rwa [List.append_nil] at hdone
  | raise error =>
      have hdone := h [] (.error error) S.db (by simp)
      rwa [List.append_nil] at hdone
  | act call write next ih =>
      intro answer _
      apply ih
      intro events result db hevents
      have hdone := h (⟨.pipeline call, answer⟩ :: events) result db (by
        intro e he
        rcases List.mem_cons.mp he with rfl | he
        · exact ⟨call, rfl⟩
        · exact hevents e he)
      rwa [List.append_assoc, List.singleton_append]

end

/-- A governance commit that went through. -/
def StoreEvent.commits : StoreEvent → Bool
  | ⟨.commit _, (r : DbReply)⟩ => r.failure.isNone
  | _ => false

/-- The clock readings of an event: of a reading itself, of a SELECT that reads
the clock next to it, and of the default of a new row. -/
def StoreEvent.reading : StoreEvent → Option Moment
  | ⟨.clock, m⟩ => some m
  | ⟨.commit _, (r : DbReply)⟩ => some r.now
  | ⟨.pipeline (.select _), (r : Reading)⟩ => some r.now
  | ⟨.pipeline (.commit _), (r : DbReply)⟩ => some r.now
  | _ => none

/-- Some governance commit of the trace went through. -/
def didCommit (trace : List StoreEvent) : Bool := trace.any StoreEvent.commits

def readings (trace : List StoreEvent) : List Moment :=
  trace.filterMap StoreEvent.reading

@[simp] theorem didCommit_append (trace trace' : List StoreEvent) :
    didCommit (trace ++ trace') = (didCommit trace || didCommit trace') :=
  List.any_append

@[simp] theorem readings_append (trace trace' : List StoreEvent) :
    readings (trace ++ trace') = readings trace ++ readings trace' :=
  List.filterMap_append

section

variable {α : Type} {adm : (q : StoreCall) → StoreReply q → Store → Prop}
  {S S' : Store} {trace : List StoreEvent}

theorem runs_peek {read : Store → α} {result : Except PyErr α}
    (h : Prog.Runs adm (peek read) S trace result S') :
    trace = [⟨.select, ()⟩] ∧ result = .ok (read S) ∧ S' = S := by
  cases h with
  | act answer _ hrest =>
      obtain ⟨rfl, rfl, rfl⟩ := Prog.runs_pure hrest
      exact ⟨rfl, rfl, rfl⟩

theorem runs_readClock {result : Except PyErr Moment}
    (h : Prog.Runs adm readClock S trace result S') :
    ∃ m : Moment, trace = [⟨.clock, m⟩] ∧ result = .ok m ∧ S' = S := by
  cases h with
  | act answer _ hrest =>
      obtain ⟨rfl, rfl, rfl⟩ := Prog.runs_pure hrest
      exact ⟨answer, rfl, rfl, rfl⟩

theorem runs_outcome {known result : Except PyErr α}
    (h : Prog.Runs adm (outcome known) S trace result S') :
    trace = [] ∧ result = known ∧ S' = S := by
  cases known with
  | ok value => exact Prog.runs_pure h
  | error error => exact Prog.runs_raise h

theorem runs_foundAgain {row : Option α} {result : Except PyErr α}
    (h : Prog.Runs adm (foundAgain row) S trace result S') :
    trace = [] ∧ S' = S ∧ ∀ value, result = .ok value → row = some value := by
  cases row with
  | none =>
      obtain ⟨rfl, rfl, rfl⟩ := Prog.runs_raise h
      exact ⟨rfl, rfl, by rintro _ ⟨⟩⟩
  | some value =>
      obtain ⟨rfl, rfl, rfl⟩ := Prog.runs_pure h
      exact ⟨rfl, rfl, by rintro _ ⟨⟩; rfl⟩

/-- A commit goes through and changes the governance tables, or raises and
changes nothing. -/
theorem runs_commitChange [Deployment] {change : GovernanceChange}
    {result : Except PyErr DbReply}
    (h : Prog.Runs adm (commitChange change) S trace result S') :
    ∃ r : DbReply, trace = [⟨.commit change, r⟩] ∧
      ((result = .ok r ∧ r.failure = none ∧
          ∃ g, change.apply r S.governance = some g ∧
            S' = { S with governance := g }) ∨
        (∃ e, result = .error e) ∧ Refused change r S ∧ S' = S) := by
  have hpost : (commitChange change).traced adm (fun trace result S' =>
      ∃ r : DbReply, trace = [⟨.commit change, r⟩] ∧
        ((result = .ok r ∧ r.failure = none ∧
            ∃ g, change.apply r S.governance = some g ∧
              S' = { S with governance := g }) ∨
          (∃ e, result = .error e) ∧ Refused change r S ∧ S' = S)) [] S := by
    apply traced_commitChange
    · intro r g hfail happly
      exact ⟨r, rfl, Or.inl ⟨rfl, hfail, g, happly, rfl⟩⟩
    · intro r e hrefused
      exact ⟨r, rfl, Or.inr ⟨⟨e, rfl⟩, hrefused, rfl⟩⟩
  exact Prog.traced_sound hpost h

variable {β : Type} {result : Except PyErr β}

/-- The first step of a longer program. -/
theorem runs_peek_bind {read : Store → α} {k : α → StoreSession β}
    (h : Prog.Runs adm ((peek read).bind k) S trace result S') :
    ∃ rest, trace = ⟨.select, ()⟩ :: rest ∧
      Prog.Runs adm (k (read S)) S rest result S' := by
  rcases Prog.runs_bind h with ⟨value, S₁, trace₁, trace₂, hpeek, hrest, rfl⟩ |
      ⟨e, hpeek, rfl⟩
  · obtain ⟨rfl, hvalue, rfl⟩ := runs_peek hpeek
    cases hvalue
    exact ⟨trace₂, rfl, hrest⟩
  · obtain ⟨_, hvalue, _⟩ := runs_peek hpeek
    cases hvalue

/-- A SELECT is answered whatever the surroundings are. -/
theorem runs_after_peek {read : Store → α} {k : α → StoreSession β}
    {rest : List StoreEvent} (h : Prog.Runs anyAnswer (k (read S)) S rest result S') :
    Prog.Runs anyAnswer ((peek read).bind k) S (⟨.select, ()⟩ :: rest) result S' := by
  constructor
  · trivial
  · exact h

theorem runs_readClock_bind {k : Moment → StoreSession β}
    (h : Prog.Runs adm (readClock.bind k) S trace result S') :
    ∃ (m : Moment) (rest : List StoreEvent), trace = ⟨.clock, m⟩ :: rest ∧
      Prog.Runs adm (k m) S rest result S' := by
  rcases Prog.runs_bind h with ⟨value, S₁, trace₁, trace₂, hclock, hrest, rfl⟩ |
      ⟨e, hclock, rfl⟩
  · obtain ⟨m, rfl, hvalue, rfl⟩ := runs_readClock hclock
    cases hvalue
    exact ⟨value, trace₂, rfl, hrest⟩
  · obtain ⟨_, _, hvalue, _⟩ := runs_readClock hclock
    cases hvalue

theorem runs_commitChange_bind [Deployment] {change : GovernanceChange}
    {k : DbReply → StoreSession β}
    (h : Prog.Runs adm ((commitChange change).bind k) S trace result S') :
    ∃ (r : DbReply) (rest : List StoreEvent), trace = ⟨.commit change, r⟩ :: rest ∧
      ((r.failure = none ∧ ∃ g, change.apply r S.governance = some g ∧
          Prog.Runs adm (k r) { S with governance := g } rest result S') ∨
        Refused change r S ∧ rest = [] ∧ (∃ e, result = .error e) ∧ S' = S) := by
  rcases Prog.runs_bind h with ⟨value, S₁, trace₁, trace₂, hcommit, hrest, rfl⟩ |
      ⟨e, hcommit, rfl⟩
  · obtain ⟨r, rfl, ⟨hvalue, hfail, g, happly, rfl⟩ | ⟨⟨e, hvalue⟩, _⟩⟩ :=
      runs_commitChange hcommit
    · cases hvalue
      exact ⟨value, trace₂, rfl, Or.inl ⟨hfail, g, happly, hrest⟩⟩
    · cases hvalue
  · obtain ⟨r, rfl, ⟨hvalue, _⟩ | ⟨⟨e', hvalue⟩, hrefused, rfl⟩⟩ :=
      runs_commitChange hcommit
    · cases hvalue
    · cases hvalue
      exact ⟨r, [], rfl, Or.inr ⟨hrefused, rfl, ⟨e, rfl⟩, rfl⟩⟩

end

/-- The program commits nothing to the governance tables. -/
def Quiet {α : Type} (p : StoreSession α) : Prop :=
  p.Uses fun q w => (∀ change, q ≠ .commit change) ∧
    ∀ r S, (w r S).governance = S.governance

section

variable {α β : Type}

theorem quiet_pure (value : α) : Quiet (.pure value) := trivial

theorem quiet_raise (error : PyErr) : Quiet (.raise error : StoreSession α) := trivial

theorem Quiet.bind {p : StoreSession α} {k : α → StoreSession β} (hp : Quiet p)
    (hk : ∀ value, Quiet (k value)) : Quiet (p.bind k) :=
  Prog.Uses.bind hp hk

theorem quiet_peek (read : Store → α) : Quiet (peek read) :=
  ⟨⟨by rintro _ ⟨⟩, fun _ _ => rfl⟩, fun _ _ => trivial⟩

theorem quiet_readClock : Quiet readClock :=
  ⟨⟨by rintro _ ⟨⟩, fun _ _ => rfl⟩, fun _ _ => trivial⟩

theorem quiet_foundAgain (row : Option α) : Quiet (foundAgain row) := by
  cases row <;> trivial

theorem quiet_inPipeline (p : Session α) : Quiet (inPipeline p) := by
  induction p with
  | pure value => trivial
  | raise error => trivial
  | act call write next ih =>
      exact ⟨⟨by rintro _ ⟨⟩, fun _ _ => rfl⟩, fun r S => ih r S.db⟩

theorem quiet_recordEvent [Deployment] (e : AuditService.NewEvent) :
    Quiet (recordEvent e) :=
  quiet_inPipeline _

/-- A quiet program keeps everything that is read off the governance tables. -/
theorem Quiet.keeps {p : StoreSession α} (h : Quiet p) (view : Governance → β) :
    p.Keeps fun S => view S.governance :=
  Prog.Uses.mono h fun _ _ hw r S => congrArg view (hw.2 r S)

theorem keeps_commitChange [Deployment] {change : GovernanceChange}
    {view : Governance → β}
    (h : ∀ r g g', change.apply r g = some g' → view g' = view g) :
    (commitChange change).Keeps fun S => view S.governance := by
  refine ⟨?_, ?_⟩
  · intro r S
    unfold GovernanceChange.write
    cases hrun : change.run r S with
    | error e => rfl
    | ok S' =>
        obtain ⟨_, g, happly, rfl⟩ := GovernanceChange.run_eq_ok hrun
        exact h r _ g happly
  · intro r S
    dsimp only
    cases change.run r S <;> trivial

/-- A quiet run leaves the governance tables as they are. -/
theorem Quiet.run {adm : (q : StoreCall) → StoreReply q → Store → Prop}
    {p : StoreSession α} (hp : Quiet p) {S S' : Store} {trace : List StoreEvent}
    {result : Except PyErr α} (h : Prog.Runs adm p S trace result S') :
    S'.governance = S.governance ∧ didCommit trace = false := by
  induction h with
  | pure value S => exact ⟨rfl, rfl⟩
  | raise error S => exact ⟨rfl, rfl⟩
  | @act call write next S trace result S' answer hadm hrest ih =>
      obtain ⟨hcall, hwrite⟩ := hp.1
      obtain ⟨hsame, hquiet⟩ := ih (hp.2 answer S)
      refine ⟨hsame.trans (hwrite answer S), ?_⟩
      have hevent : StoreEvent.commits ⟨call, answer⟩ = false := by
        cases call with
        | commit change => exact absurd rfl (hcall change)
        | clock => rfl
        | select => rfl
        | pipeline call => rfl
      rw [didCommit, List.any_cons, hevent, Bool.false_or]
      exact hquiet

end

end ControlPlane
