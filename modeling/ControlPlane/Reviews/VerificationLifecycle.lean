import ControlPlane.Evidence.PacketLifecycle
import ControlPlane.Services.VerificationService

/-!
The lifecycle of a procurement verification over every run of its four calls, with
anything else happening to the packets, the subject and the scores in between. The
row follows the transitions, it is approved only on valid evidence and a sufficient
fresh score, and its stored score is that of a row of its subject. A transition is
committed before it is audited, so a call whose audit event cannot be stored raises
after it has changed the row; this is the only way to raise and change it.
-/

namespace ControlPlane

open Lib EvidenceGraph

/-- The transitions of a verification. -/
inductive Advances : String → String → Prop where
  | review : Advances "requested" "under_review"
  | reject : Advances "requested" "rejected"
  | approve : Advances "under_review" "approved"
  | revoke : Advances "approved" "revoked"

theorem Advances.ne {status status' : String} (h : Advances status status') :
    status ≠ status' := by
  cases h <;> simp

/-- A reply reports no failure only where the constraints hold. -/
def truthful [Deployment] : (q : StoreCall) → StoreReply q → Store → Prop
  | .commit change, (r : DbReply), S =>
      r.failure = none → (change.apply r S.governance).isSome
  | .pipeline (.commit tx), (r : DbReply), S =>
      r.failure = none → (tx.apply r S.db).isSome
  | _, _, _ => True

def GovernanceChange.verifies : GovernanceChange → Bool
  | .insertVerification _ => true
  | .updateVerification _ _ => true
  | _ => false

/-- A change of a verification went through. -/
def StoreEvent.moves : StoreEvent → Bool
  | ⟨.commit change, (r : DbReply)⟩ => change.verifies && r.failure.isNone
  | _ => false

/-- An audit event was stored. -/
def StoreEvent.records : StoreEvent → Bool
  | ⟨.pipeline (.commit (.insertAudit _)), (r : DbReply)⟩ => r.failure.isNone
  | _ => false

def moved (trace : List StoreEvent) : Bool := trace.any StoreEvent.moves

def recorded (trace : List StoreEvent) : Bool := trace.any StoreEvent.records

@[simp] theorem moved_append (trace trace' : List StoreEvent) :
    moved (trace ++ trace') = (moved trace || moved trace') :=
  List.any_append

@[simp] theorem recorded_append (trace trace' : List StoreEvent) :
    recorded (trace ++ trace') = (recorded trace || recorded trace') :=
  List.any_append

@[simp] theorem moved_cons (e : StoreEvent) (trace : List StoreEvent) :
    moved (e :: trace) = (e.moves || moved trace) := rfl

@[simp] theorem recorded_cons (e : StoreEvent) (trace : List StoreEvent) :
    recorded (e :: trace) = (e.records || recorded trace) := rfl

namespace VerificationService

open EvidenceStore EvidenceSignature TrustScoreService AuditService

section

variable [Deployment] {S S' : Store} {trace : List StoreEvent}

omit [Deployment] in
theorem moved_of_didCommit (h : didCommit trace = false) : moved trace = false := by
  rw [didCommit, List.any_eq_false] at h
  rw [moved, List.any_eq_false]
  intro e he hmoves
  apply h e he
  obtain ⟨call, answer⟩ := e
  cases call with
  | commit change => exact (Bool.and_eq_true_iff.mp hmoves).2
  | clock => cases hmoves
  | select => cases hmoves
  | pipeline call => cases hmoves

omit [Deployment] in
theorem error_ne_ok {α : Type} (e : PyErr) : ¬∃ value : α, Except.error e = .ok value := by
  rintro ⟨_, h⟩
  cases h

/-- A refused insert says so. -/
theorem failure_of_refused {tx : Transaction} {r : DbReply} {e : PyErr}
    (hadm : truthful (.pipeline (.commit tx)) r S) (hrun : tx.run r S.db = .error e) :
    r.failure.isNone = false := by
  cases hfail : r.failure with
  | some kind => rfl
  | none =>
      obtain ⟨db, happly⟩ := Option.isSome_iff_exists.mp (hadm hfail)
      rw [Transaction.run_eq_ok.mpr ⟨hfail, happly⟩] at hrun
      cases hrun

theorem append_recorded {row : AuditEvent} {retry : Session AuditEvent}
    {result : Except PyErr AuditEvent}
    (hretry : ∀ (S : Store) trace, Prog.Runs truthful (inPipeline retry) S trace result S' →
      (recorded trace = true ↔ ∃ row, result = .ok row))
    (h : Prog.Runs truthful (inPipeline (append row retry)) S trace result S') :
    recorded trace = true ↔ ∃ row, result = .ok row := by
  cases h with
  | @act _ _ _ _ rest _ _ r hadm hrest =>
      rw [recorded_cons]
      unfold afterCommit at hrest
      cases hrun : (Transaction.insertAudit row).run r S.db with
      | ok db =>
          simp only [hrun] at hrest
          obtain ⟨rfl, rfl, _⟩ := Prog.runs_pure hrest
          have hfail := (Transaction.run_eq_ok.mp hrun).1
          refine iff_of_true ?_ ⟨_, rfl⟩
          simp [StoreEvent.records, hfail]
      | error e =>
          have hrefused : StoreEvent.records
              ⟨.pipeline (.commit (.insertAudit row)), r⟩ = false :=
            failure_of_refused hadm hrun
          rw [hrefused, Bool.false_or]
          simp only [hrun] at hrest
          split at hrest
          · next hok => cases hok
          · exact hretry _ _ hrest
          · exact hretry _ _ hrest
          · obtain ⟨rfl, rfl, _⟩ := Prog.runs_raise hrest
            exact iff_of_false Bool.false_ne_true (error_ne_ok _)

theorem select_recorded {query : Query} {next : Reading → Database → Session AuditEvent}
    {result : Except PyErr AuditEvent}
    (hnext : ∀ (r : Reading) (S : Store) trace,
      Prog.Runs truthful (inPipeline (next r S.db)) S trace result S' →
      (recorded trace = true ↔ ∃ row, result = .ok row))
    (h : Prog.Runs truthful (inPipeline (.act (.select query) (fun _ s => s) next)) S trace
      result S') : recorded trace = true ↔ ∃ row, result = .ok row := by
  cases h with
  | @act _ _ _ _ rest _ _ r _ hrest =>
      rw [recorded_cons]
      exact hnext r S rest hrest

/-- `record` returns exactly when one of its inserts was accepted. -/
theorem recordFrom_recorded {e : NewEvent} {attempts : Nat}
    {result : Except PyErr AuditEvent}
    (h : Prog.Runs truthful (inPipeline (recordFrom e attempts)) S trace result S') :
    recorded trace = true ↔ ∃ row, result = .ok row := by
  induction attempts generalizing S trace with
  | zero =>
      obtain ⟨rfl, rfl, _⟩ := Prog.runs_raise h
      exact iff_of_false Bool.false_ne_true (error_ne_ok _)
  | succ attempts ih =>
      rw [recordFrom_succ] at h
      apply select_recorded _ h
      intro r S trace hrest
      cases hlink : e.link (chainHead S.db.auditEvents.rows) r.now with
      | error error =>
          rw [hlink] at hrest
          obtain ⟨rfl, rfl, _⟩ := Prog.runs_raise hrest
          exact iff_of_false Bool.false_ne_true (error_ne_ok _)
      | ok row =>
          rw [hlink] at hrest
          exact append_recorded (fun _ _ => ih) hrest

/-- The call moved no verification and raised. -/
def Stopped {α : Type} (trace : List StoreEvent) (result : Except PyErr α) : Prop :=
  moved trace = false ∧ ∃ e, result = .error e

/-- The call moved a verification; it returns if its audit event is stored. -/
def Settled {α : Type} (trace : List StoreEvent) (result : Except PyErr α) : Prop :=
  moved trace = true ∧ (recorded trace = true ↔ ∃ value, result = .ok value)

omit [Deployment] in
theorem runs_stopped {α : Type} {adm : (q : StoreCall) → StoreReply q → Store → Prop}
    {e : PyErr} {result : Except PyErr α}
    (h : Prog.Runs adm (.raise e) S trace result S') : Stopped trace result ∧ S' = S := by
  obtain ⟨rfl, rfl, rfl⟩ := Prog.runs_raise h
  exact ⟨⟨rfl, e, rfl⟩, rfl⟩

omit [Deployment] in
/-- What goes before neither moves a verification nor records an event. -/
theorem Stopped.after {α : Type} {result : Except PyErr α} (h : Stopped trace result)
    (before : List StoreEvent) (hmoved : moved before = false) :
    Stopped (before ++ trace) result := by
  refine ⟨?_, h.2⟩
  rw [moved_append, hmoved, h.1]
  rfl

omit [Deployment] in
theorem Settled.after {α : Type} {result : Except PyErr α} (h : Settled trace result)
    (before : List StoreEvent) (hmoved : moved before = false)
    (hrecorded : recorded before = false) : Settled (before ++ trace) result := by
  refine ⟨?_, ?_⟩
  · rw [moved_append, hmoved, h.1]
    rfl
  · rw [recorded_append, hrecorded, Bool.false_or]
    exact h.2

omit [Deployment] in
/-- A call that returns a value made from that of its main part. -/
theorem runs_returning {α β : Type} {adm : (q : StoreCall) → StoreReply q → Store → Prop}
    {p : StoreSession α} {value : α → β} {result : Except PyErr β}
    (h : Prog.Runs adm (p.bind fun a => .pure (value a)) S trace result S') :
    ∃ result', Prog.Runs adm p S trace result' S' ∧
      (Stopped trace result' → Stopped trace result) ∧
        (Settled trace result' → Settled trace result) := by
  rcases Prog.runs_bind h with ⟨a, S₁, trace₁, trace₂, hfirst, hpure, rfl⟩ |
      ⟨e, hfirst, rfl⟩
  · obtain ⟨rfl, rfl, rfl⟩ := Prog.runs_pure hpure
    rw [List.append_nil]
    refine ⟨.ok a, hfirst, ?_, ?_⟩
    · rintro ⟨_, _, herror⟩
      cases herror
    · rintro ⟨hmoved, hstored⟩
      exact ⟨hmoved, iff_of_true (hstored.mpr ⟨a, rfl⟩) ⟨_, rfl⟩⟩
  · refine ⟨.error e, hfirst, fun hstopped => ⟨hstopped.1, e, rfl⟩, ?_⟩
    rintro ⟨hmoved, hstored⟩
    exact ⟨hmoved, iff_of_false (mt hstored.mp (error_ne_ok e)) (error_ne_ok e)⟩

theorem recordEvent_recorded {e : NewEvent} {result : Except PyErr AuditEvent}
    (h : Prog.Runs truthful (recordEvent e) S trace result S') :
    recorded trace = true ↔ ∃ row, result = .ok row :=
  recordFrom_recorded h

/-- What follows a committed change: the row is read again and audited. -/
theorem runs_audited {α : Type} {id : String} {row : TrustVerification}
    {event : TrustVerification → NewEvent} {value : TrustVerification → α}
    {result : Except PyErr α}
    (h : Prog.Runs truthful ((reloadVerification id).bind fun row =>
      (recordEvent (event row)).bind fun _ => .pure (value row)) S trace result S')
    (hrow : S.governance.verifications.find? id = some row) :
    S'.governance = S.governance ∧ moved trace = false ∧
      (recorded trace = true ↔ ∃ value, result = .ok value) := by
  have hquiet : Quiet ((reloadVerification id).bind fun row =>
      (recordEvent (event row)).bind fun _ => .pure (value row)) :=
    ((quiet_peek _).bind fun _ => quiet_foundAgain _).bind fun row =>
      (quiet_recordEvent _).bind fun _ => quiet_pure _
  obtain ⟨hsame, hcommit⟩ := hquiet.run h
  refine ⟨hsame, moved_of_didCommit hcommit, ?_⟩
  unfold reloadVerification at h
  rw [Prog.bind_eq, Prog.bind_assoc] at h
  obtain ⟨rest, rfl, hfound⟩ := runs_peek_bind h
  rw [hrow] at hfound
  have hlast : Prog.Runs truthful ((recordEvent (event row)).bind fun _ =>
      .pure (value row)) S rest result S' := hfound
  rcases Prog.runs_bind hlast with ⟨_, _, trace₁, trace₂, hrecord, hpure, rfl⟩ |
      ⟨e, hrecord, rfl⟩
  · obtain ⟨rfl, rfl, _⟩ := Prog.runs_pure hpure
    have hstored := (recordEvent_recorded hrecord).mpr ⟨_, rfl⟩
    refine iff_of_true ?_ ⟨_, rfl⟩
    simp [hstored]
  · have hnone : ¬recorded rest = true := by
      rw [recordEvent_recorded hrecord]
      exact error_ne_ok e
    exact iff_of_false hnone (error_ne_ok e)

/-- The commit of a truthful run, with what its reply says. -/
theorem runs_truthful_commit {α : Type} {change : GovernanceChange}
    {k : DbReply → StoreSession α} {result : Except PyErr α}
    (h : Prog.Runs truthful ((commitChange change).bind k) S trace result S') :
    ∃ (r : DbReply) (rest : List StoreEvent), trace = ⟨.commit change, r⟩ :: rest ∧
      ((r.failure = none ∧ ∃ g, change.apply r S.governance = some g ∧
          Prog.Runs truthful (k r) { S with governance := g } rest result S') ∨
        r.failure ≠ none ∧ rest = [] ∧ (∃ e, result = .error e) ∧ S' = S) := by
  obtain ⟨r, rest, htrace, hcommit⟩ := runs_commitChange_bind h
  refine ⟨r, rest, htrace, ?_⟩
  rcases hcommit with hdone | ⟨hrefused, hrest⟩
  · exact Or.inl hdone
  · right
    refine ⟨?_, hrest⟩
    rcases hrefused with hfail | hnone
    · exact hfail
    · intro hfail
      have hadm : truthful (.commit change) r S := by
        cases h with
        | act answer hadm _ =>
            cases htrace
            exact hadm
      obtain ⟨g, hsome⟩ := Option.isSome_iff_exists.mp (hadm hfail)
      rw [hnone] at hsome
      cases hsome

/-- A transition is refused, or changes the row and is audited. -/
theorem runs_transition {action : String} {row new : TrustVerification}
    {actor : Option String} {fields : TrustVerification → Dict}
    {result : Except PyErr TrustVerification}
    (h : Prog.Runs truthful (transition action row new actor fields) S trace result S')
    (hrow : S.governance.verifications.find? row.id = some row) :
    (Stopped trace result ∧ S' = S) ∨
      Settled trace result ∧ S'.governance = { S.governance with
        verifications := S.governance.verifications.modify row.id (row.updated new) } := by
  unfold transition at h
  obtain ⟨r, rest, rfl, hcommit⟩ := runs_truthful_commit h
  rcases hcommit with ⟨hfail, g, happly, hrest⟩ | ⟨hfail, rfl, herror, rfl⟩
  · right
    cases happly
    have hfound : (S.governance.verifications.modify row.id (row.updated new)).find? row.id =
        some (row.updated new row) :=
      Table.find?_modify_self hrow
    obtain ⟨hsame, hmoved, hstored⟩ := runs_audited hrest hfound
    refine ⟨⟨?_, ?_⟩, hsame⟩
    · simp [StoreEvent.moves, GovernanceChange.verifies, hfail]
    · exact hstored
  · left
    refine ⟨⟨?_, herror⟩, rfl⟩
    simp [moved, StoreEvent.moves, Option.isSome_iff_ne_none, hfail]

/-- The row that a transition starts from, or an error. -/
theorem runs_inStatus {α : Type} {id status : String} {tenantId : Option String}
    {k : TrustVerification → StoreSession α} {result : Except PyErr α}
    (h : Prog.Runs truthful ((inStatus id tenantId status).bind k) S trace result S') :
    (Stopped trace result ∧ S' = S) ∨
      ∃ row rest, trace = [⟨.select, ()⟩] ++ rest ∧
        S.governance.verifications.find? id = some row ∧ row.status = status ∧
          Prog.Runs truthful (k row) S rest result S' := by
  unfold inStatus at h
  rw [Prog.bind_eq, Prog.bind_assoc] at h
  obtain ⟨rest, rfl, hcheck⟩ := runs_peek_bind h
  cases hfound : getVerification S.governance id tenantId with
  | none =>
      rw [hfound] at hcheck
      obtain ⟨hstopped, rfl⟩ := runs_stopped hcheck
      exact Or.inl ⟨hstopped.after [⟨.select, ()⟩] rfl, rfl⟩
  | some row =>
      rw [hfound] at hcheck
      dsimp only at hcheck
      split at hcheck
      · obtain ⟨hstopped, rfl⟩ := runs_stopped hcheck
        exact Or.inl ⟨hstopped.after [⟨.select, ()⟩] rfl, rfl⟩
      · next hstatus =>
          right
          exact ⟨row, rest, rfl, (Option.filter_eq_some_iff.mp hfound).1, not_not.mp hstatus,
            hcheck⟩

theorem runs_requestVerification {tenantId : Option String} {subjectId : String}
    {requestedBy : Option String} {subjectType : String} {minScore : Int}
    {result : Except PyErr TrustVerification}
    (h : Prog.Runs truthful (requestVerification tenantId subjectId requestedBy subjectType
      minScore) S trace result S') :
    (Stopped trace result ∧ S' = S) ∨ Settled trace result ∧ ∃ packet row table,
      latestSignedPacket S.governance tenantId subjectId = some packet ∧
        row.subjectId = subjectId ∧ row.status = "requested" ∧
        row.evidencePacketId = some packet.id ∧ row.trustScoreId = none ∧
        row.trustScore = none ∧ S.governance.verifications.insert row = some table ∧
        S'.governance = { S.governance with verifications := table } := by
  unfold requestVerification at h
  obtain ⟨rest, rfl, hgraph⟩ := runs_peek_bind h
  split at hgraph
  · obtain ⟨hstopped, rfl⟩ := runs_stopped hgraph
    exact Or.inl ⟨hstopped.after [⟨.select, ()⟩] rfl, rfl⟩
  · obtain ⟨rest', rfl, hpacket⟩ := runs_peek_bind hgraph
    split at hpacket
    · obtain ⟨hstopped, rfl⟩ := runs_stopped hpacket
      exact Or.inl ⟨hstopped.after [⟨.select, ()⟩, ⟨.select, ()⟩] rfl, rfl⟩
    · next packet hlatest =>
        obtain ⟨r, rest'', rfl, hcommit⟩ := runs_truthful_commit hpacket
        rcases hcommit with ⟨hfail, g, happly, hrest⟩ | ⟨hfail, rfl, herror, rfl⟩
        · right
          obtain ⟨table, hinsert, rfl⟩ := Option.map_eq_some_iff.mp happly
          have hfound := Table.find?_insert_self hinsert
          obtain ⟨hsame, hmoved, hstored⟩ := runs_audited hrest hfound
          refine ⟨⟨?_, hstored⟩, packet, _, table, hlatest, rfl, rfl, rfl, rfl, rfl, hinsert,
            hsame⟩
          simp [StoreEvent.moves, GovernanceChange.verifies, hfail]
        · left
          refine ⟨⟨?_, herror⟩, rfl⟩
          simp [moved, StoreEvent.moves, Option.isSome_iff_ne_none, hfail]

theorem runs_revokeVerification {id reason : String} {tenantId revokedBy : Option String}
    {result : Except PyErr TrustVerification}
    (h : Prog.Runs truthful (revokeVerification id tenantId revokedBy reason) S trace
      result S') :
    (Stopped trace result ∧ S' = S) ∨ Settled trace result ∧ ∃ row now,
      S.governance.verifications.find? id = some row ∧ row.status = "approved" ∧
        S'.governance = { S.governance with
          verifications := S.governance.verifications.modify row.id
            (row.updated (revoked row revokedBy reason now)) } := by
  unfold revokeVerification at h
  rcases runs_inStatus h with hstopped | ⟨row, rest, rfl, hrow, hstatus, hrest⟩
  · exact Or.inl hstopped
  · obtain ⟨now, rest', rfl, hchange⟩ := runs_readClock_bind hrest
    have hid := Table.key_of_find? hrow
    rcases runs_transition hchange (by rw [hid]; exact hrow) with
      ⟨hstopped, rfl⟩ | ⟨hsettled, hsame⟩
    · exact Or.inl ⟨hstopped.after [⟨.select, ()⟩, ⟨.clock, now⟩] rfl, rfl⟩
    · exact Or.inr ⟨hsettled.after [⟨.select, ()⟩, ⟨.clock, now⟩] rfl rfl, row, now, hrow,
        hstatus, hsame⟩

end

section

variable [Deployment] [Python] [Ed25519] {S S' : Store} {trace : List StoreEvent}

/-- The packet of a row is found in the tenant of the row, and its verdict at a clock
reading of the trace is `valid`. -/
def ValidEvidence (g : Governance) (trace : List StoreEvent) (row : TrustVerification) :
    Prop :=
  ∃ (packetId : String) (packet : EvidencePacket) (now : Moment) (v : Verification),
    row.evidencePacketId = some packetId ∧
      getPacket g packetId row.tenantId = some packet ∧ ⟨.clock, now⟩ ∈ trace ∧
        verifyPacket packet now = .ok v ∧ v.status = .valid

/-- The reading may be one of a longer trace. -/
theorem ValidEvidence.mono {g : Governance} {row : TrustVerification}
    {trace' : List StoreEvent} (h : ValidEvidence g trace row)
    (hsub : ∀ e ∈ trace, e ∈ trace') : ValidEvidence g trace' row := by
  obtain ⟨packetId, packet, now, v, hid, hpacket, hnow, hv⟩ := h
  exact ⟨packetId, packet, now, v, hid, hpacket, hsub _ hnow, hv⟩

omit [Deployment] [Python] [Ed25519] in
theorem valid_of_value {status : PacketStatus} (h : status.value = "valid") :
    status = .valid := by
  cases status with
  | valid => rfl
  | expired | revoked | tampered | unsigned => simp [PacketStatus.value] at h

theorem runs_evidenceStatus {row : TrustVerification} {result : Except PyErr Evidence}
    (h : Prog.Runs truthful (evidenceStatus row) S trace result S') :
    S' = S ∧ moved trace = false ∧ recorded trace = false ∧
      ∀ ev, result = .ok ev → ev.status = "valid" →
        ValidEvidence S.governance trace row := by
  have hmissing : ∀ ev, (.ok .missing : Except PyErr Evidence) = .ok ev →
      ev.status = "valid" → ValidEvidence S.governance trace row := by
    rintro ev ⟨⟩ hvalid
    simp [Evidence.status] at hvalid
  unfold evidenceStatus at h
  cases hid : row.evidencePacketId with
  | none =>
      rw [hid] at h
      obtain ⟨rfl, rfl, rfl⟩ := Prog.runs_pure h
      exact ⟨rfl, rfl, rfl, hmissing⟩
  | some packetId =>
      rw [hid] at h
      split at h
      · obtain ⟨rfl, rfl, rfl⟩ := Prog.runs_pure h
        exact ⟨rfl, rfl, rfl, hmissing⟩
      · obtain ⟨rest, rfl, hfound⟩ := runs_peek_bind h
        cases hpacket : getPacket S.governance packetId row.tenantId with
        | none =>
            simp only [Option.getD_some, hpacket] at hfound
            obtain ⟨rfl, rfl, rfl⟩ := Prog.runs_pure hfound
            exact ⟨rfl, rfl, rfl, hmissing⟩
        | some packet =>
            simp only [Option.getD_some, hpacket] at hfound
            obtain ⟨now, rest', rfl, hverify⟩ := runs_readClock_bind hfound
            rcases Prog.runs_bind hverify with ⟨v, S₁, _, _, houtcome, hlast, rfl⟩ |
                ⟨e, houtcome, rfl⟩
            · obtain ⟨rfl, hv, rfl⟩ := runs_outcome houtcome
              obtain ⟨rfl, rfl, rfl⟩ := Prog.runs_pure hlast
              refine ⟨rfl, rfl, rfl, ?_⟩
              rintro ev ⟨⟩ hvalid
              exact ⟨packetId, packet, now, v, hid, hpacket, by simp, hv.symm,
                valid_of_value hvalid⟩
            · obtain ⟨rfl, _, rfl⟩ := runs_outcome houtcome
              exact ⟨rfl, rfl, rfl, by rintro _ ⟨⟩⟩

/-- Rows of the score table stay as they are. -/
def ScoresKept (g g' : Governance) : Prop :=
  ∀ id score, g.scores.find? id = some score → g'.scores.find? id = some score

/-- What the score of a subject was computed from. -/
def ComputedScore (settings : Settings) (S : Store) (trace : List StoreEvent)
    (subjectId : String) (tenantId : Option String) (score : Int) : Prop :=
  ∃ (now : Moment) (packet : EvidencePackets.Packet), ⟨.clock, now⟩ ∈ trace ∧
    EvidencePackets.buildActionPacket S (Datetime.utc now).isoformat subjectId tenantId =
      .ok (some packet) ∧ score = (scorePacket packet settings.appEnv).score

omit [Python] [Ed25519] in
theorem ComputedScore.mono {settings : Settings} {subjectId : String}
    {tenantId : Option String} {score : Int} {trace' : List StoreEvent}
    (h : ComputedScore settings S trace subjectId tenantId score)
    (hsub : ∀ e ∈ trace, e ∈ trace') :
    ComputedScore settings S trace' subjectId tenantId score := by
  obtain ⟨now, packet, hnow, hbuilt⟩ := h
  exact ⟨now, packet, hsub _ hnow, hbuilt⟩

/-- A stored score of the subject. -/
def StoredScore (g : Governance) (subjectId : String) (scoreId : Option String)
    (score : Int) : Prop :=
  ∃ id row, scoreId = some id ∧ g.scores.find? id = some row ∧ row.scopeId = subjectId ∧
    row.score = score

omit [Python] [Ed25519] in
theorem runs_persist {tenantId : Option String} {scopeType scopeId : String}
    {scored : Result} {result : Except PyErr TrustScore}
    (h : Prog.Runs truthful (persist tenantId scopeType scopeId scored) S trace result S') :
    moved trace = false ∧ recorded trace = false ∧ ∃ table,
      S'.governance = { S.governance with scores := table } ∧
        ScoresKept S.governance S'.governance ∧ ∀ row, result = .ok row →
          S'.governance.scores.find? row.id = some row ∧ row.scopeId = scopeId ∧
            row.score = scored.score := by
  unfold persist at h
  obtain ⟨rest, rfl, hcommit⟩ := runs_peek_bind h
  obtain ⟨r, rest', rfl, hdone⟩ := runs_truthful_commit hcommit
  rcases hdone with ⟨hfail, g, happly, hrest⟩ | ⟨_, rfl, ⟨e, rfl⟩, rfl⟩
  · obtain ⟨table, hinsert, rfl⟩ := Option.map_eq_some_iff.mp happly
    obtain ⟨rest'', rfl, hfound⟩ := runs_peek_bind hrest
    obtain ⟨rfl, rfl, hvalue⟩ := runs_foundAgain hfound
    refine ⟨rfl, rfl, table, rfl, ?_, ?_⟩
    · intro id score hscore
      exact Table.find?_insert_of_some hinsert hscore
    · intro row hresult
      have hrow := hvalue row hresult
      have hself := Table.find?_insert_self hinsert
      have hsame : some _ = some row := hself.symm.trans hrow
      cases hsame
      exact ⟨hself, rfl, rfl⟩
  · refine ⟨rfl, rfl, S'.governance.scores, rfl, fun _ _ hscore => hscore, ?_⟩
    rintro _ ⟨⟩

omit [Python] [Ed25519] in
theorem runs_scoreAction {settings : Settings} {subjectId : String}
    {tenantId : Option String} {result : Except PyErr (Option Scored)}
    (h : Prog.Runs truthful (scoreAction settings subjectId tenantId true) S trace
      result S') :
    moved trace = false ∧ recorded trace = false ∧ ∃ table,
      S'.governance = { S.governance with scores := table } ∧
        ScoresKept S.governance S'.governance ∧ ∀ scored, result = .ok (some scored) →
          ComputedScore settings S trace subjectId tenantId scored.result.score ∧
            StoredScore S'.governance subjectId scored.scoreId scored.result.score := by
  unfold scoreAction at h
  obtain ⟨now, rest, rfl, hbuild⟩ := runs_readClock_bind h
  obtain ⟨rest', rfl, hbuilt⟩ := runs_peek_bind hbuild
  rcases Prog.runs_bind hbuilt with ⟨built, S₁, _, _, houtcome, hscore, rfl⟩ |
      ⟨e, houtcome, rfl⟩
  · obtain ⟨rfl, hpacket, rfl⟩ := runs_outcome houtcome
    cases built with
    | none =>
        obtain ⟨rfl, rfl, rfl⟩ := Prog.runs_pure hscore
        refine ⟨rfl, rfl, S'.governance.scores, rfl, fun _ _ hscore => hscore, ?_⟩
        rintro _ ⟨⟩
    | some packet =>
        unfold scoreScope at hscore
        dsimp only at hscore
        rw [if_pos rfl, Prog.bind_eq, Prog.bind_eq, Prog.bind_assoc] at hscore
        rcases Prog.runs_bind hscore with ⟨row, S₂, _, _, hpersist, hlast, rfl⟩ |
            ⟨e, hpersist, rfl⟩
        · obtain ⟨hmoved, hrecorded, table, hsame, hkept, hrow⟩ := runs_persist hpersist
          obtain ⟨rfl, rfl, rfl⟩ := Prog.runs_pure hlast
          obtain ⟨hfind, hscope, hpoints⟩ := hrow row rfl
          refine ⟨?_, ?_, table, hsame, hkept, ?_⟩
          · simpa [StoreEvent.moves] using hmoved
          · simpa [StoreEvent.records] using hrecorded
          · rintro scored ⟨⟩
            exact ⟨⟨now, packet, by simp, hpacket.symm, rfl⟩,
              row.id, row, rfl, hfind, hscope, hpoints⟩
        · obtain ⟨hmoved, hrecorded, table, hsame, hkept, _⟩ := runs_persist hpersist
          refine ⟨hmoved, hrecorded, table, hsame, hkept, ?_⟩
          rintro _ ⟨⟩
  · obtain ⟨rfl, _, rfl⟩ := runs_outcome houtcome
    refine ⟨rfl, rfl, S'.governance.scores, rfl, fun _ _ hscore => hscore, ?_⟩
    rintro _ ⟨⟩

theorem runs_reviewVerification {id : String} {tenantId reviewedBy notes : Option String}
    {result : Except PyErr (TrustVerification × Evidence)}
    (h : Prog.Runs truthful (reviewVerification id tenantId reviewedBy notes) S trace
      result S') :
    (Stopped trace result ∧ S' = S) ∨ Settled trace result ∧ ∃ row ev now,
      S.governance.verifications.find? id = some row ∧ row.status = "requested" ∧
        S'.governance = { S.governance with
          verifications := S.governance.verifications.modify row.id
            (row.updated (reviewed row ev reviewedBy notes now)) } := by
  unfold reviewVerification at h
  rcases runs_inStatus h with hstopped | ⟨row, rest, rfl, hrow, hstatus, hrest⟩
  · exact Or.inl hstopped
  · have hid := Table.key_of_find? hrow
    rcases Prog.runs_bind hrest with ⟨ev, S₁, trace₁, trace₂, hevidence, hreview, rfl⟩ |
        ⟨e, hevidence, rfl⟩
    · obtain ⟨rfl, hmoved, hrecorded, _⟩ := runs_evidenceStatus hevidence
      obtain ⟨now, rest', rfl, hchange⟩ := runs_readClock_bind hreview
      obtain ⟨result', htransition, hstop, hsettle⟩ := runs_returning hchange
      rcases runs_transition htransition (by rw [hid]; exact hrow) with
        ⟨hstopped, rfl⟩ | ⟨hsettled, hsame⟩
      · have hlate := (hstop hstopped).after [⟨.clock, now⟩] rfl
        exact Or.inl ⟨(hlate.after trace₁ hmoved).after [⟨.select, ()⟩] rfl, rfl⟩
      · have hlate := (hsettle hsettled).after [⟨.clock, now⟩] rfl rfl
        exact Or.inr ⟨(hlate.after trace₁ hmoved hrecorded).after [⟨.select, ()⟩] rfl rfl,
          row, ev, now, hrow, hstatus, hsame⟩
    · obtain ⟨rfl, hmoved, _⟩ := runs_evidenceStatus hevidence
      have hstopped : Stopped rest (.error e : Except PyErr (TrustVerification × Evidence)) :=
        ⟨hmoved, e, rfl⟩
      exact Or.inl ⟨hstopped.after [⟨.select, ()⟩] rfl, rfl⟩

omit [Python] [Ed25519] in
/-- The row is read again after the score was stored. -/
theorem runs_decideApproval {row : TrustVerification} {score : Scored}
    {approvedBy : Option String} {result : Except PyErr (TrustVerification × Scored)}
    (h : Prog.Runs truthful (decideApproval row.id score approvedBy) S trace result S')
    (hrow : S.governance.verifications.find? row.id = some row) :
    (Stopped trace result ∧ S' = S) ∨ Settled trace result ∧
      row.minScoreRequired ≤ score.result.score ∧ ∃ now,
        S'.governance = { S.governance with
          verifications := S.governance.verifications.modify row.id
            (row.updated (approved row score approvedBy now)) } := by
  unfold decideApproval reloadVerification at h
  rw [Prog.bind_eq, Prog.bind_eq, Prog.bind_assoc] at h
  obtain ⟨rest, rfl, hfound⟩ := runs_peek_bind h
  rw [hrow, foundAgain, Prog.pure_bind] at hfound
  split at hfound
  · obtain ⟨hstopped, rfl⟩ := runs_stopped hfound
    exact Or.inl ⟨hstopped.after [⟨.select, ()⟩] rfl, rfl⟩
  · next hscore =>
      obtain ⟨now, rest', rfl, hchange⟩ := runs_readClock_bind hfound
      obtain ⟨result', htransition, hstop, hsettle⟩ := runs_returning hchange
      rcases runs_transition htransition hrow with ⟨hstopped, rfl⟩ | ⟨hsettled, hsame⟩
      · exact Or.inl ⟨(hstop hstopped).after [⟨.select, ()⟩, ⟨.clock, now⟩] rfl, rfl⟩
      · exact Or.inr ⟨(hsettle hsettled).after [⟨.select, ()⟩, ⟨.clock, now⟩] rfl rfl,
          not_lt.mp hscore, now, hsame⟩

/-- An approval may have stored a score before it raises; otherwise the evidence was
valid, and the score is stored and sufficient. -/
theorem runs_approveVerification {settings : Settings} {id : String}
    {tenantId approvedBy : Option String}
    {result : Except PyErr (TrustVerification × Scored)}
    (h : Prog.Runs truthful (approveVerification settings id tenantId approvedBy) S trace
      result S') :
    ∃ table, ScoresKept S.governance { S.governance with scores := table } ∧
      ((Stopped trace result ∧ S'.governance = { S.governance with scores := table }) ∨
        Settled trace result ∧ ∃ row score now,
          S.governance.verifications.find? id = some row ∧ row.status = "under_review" ∧
            ValidEvidence S.governance trace row ∧
            ComputedScore settings S trace row.subjectId tenantId score.result.score ∧
            row.minScoreRequired ≤ score.result.score ∧
            StoredScore S'.governance row.subjectId score.scoreId score.result.score ∧
            S'.governance = { S.governance with
              scores := table
              verifications := S.governance.verifications.modify row.id
                (row.updated (approved row score approvedBy now)) }) := by
  unfold approveVerification at h
  rcases runs_inStatus h with ⟨hstopped, rfl⟩ | ⟨row, rest, rfl, hrow, hstatus, hrest⟩
  · exact ⟨S'.governance.scores, fun _ _ hscore => hscore, Or.inl ⟨hstopped, rfl⟩⟩
  have hid := Table.key_of_find? hrow
  rcases Prog.runs_bind hrest with ⟨ev, S₁, trace₁, trace₂, hevidence, hlater, rfl⟩ |
      ⟨e, hevidence, rfl⟩
  · obtain ⟨rfl, hmoved, hrecorded, hvalid⟩ := runs_evidenceStatus hevidence
    split at hlater
    · obtain ⟨hstopped, rfl⟩ := runs_stopped hlater
      exact ⟨S'.governance.scores, fun _ _ hscore => hscore,
        Or.inl ⟨(hstopped.after trace₁ hmoved).after [⟨.select, ()⟩] rfl, rfl⟩⟩
    · next hstatusValid =>
        have hevidenceValid := hvalid ev rfl (not_not.mp hstatusValid)
        rcases Prog.runs_bind hlater with ⟨scored, S₂, trace₃, trace₄, hscore, hdecide, rfl⟩ |
            ⟨e, hscore, rfl⟩
        · obtain ⟨hmoved₂, hrecorded₂, table, hsame, hkept, hscored⟩ := runs_scoreAction hscore
          rw [hsame] at hkept
          refine ⟨table, hkept, ?_⟩
          cases scored with
          | none =>
              obtain ⟨hstopped, rfl⟩ := runs_stopped hdecide
              have hlate := (hstopped.after trace₃ hmoved₂).after trace₁ hmoved
              exact Or.inl ⟨hlate.after [⟨.select, ()⟩] rfl, hsame⟩
          | some score =>
              obtain ⟨hcomputed, hrowscore⟩ := hscored score rfl
              have hrow₂ : S₂.governance.verifications.find? row.id = some row := by
                rw [hsame, hid]
                exact hrow
              rcases runs_decideApproval hdecide hrow₂ with ⟨hstopped, rfl⟩ |
                  ⟨hsettled, hminimum, now, hafter⟩
              · have hlate := (hstopped.after trace₃ hmoved₂).after trace₁ hmoved
                exact Or.inl ⟨hlate.after [⟨.select, ()⟩] rfl, hsame⟩
              · have hlate := (hsettled.after trace₃ hmoved₂ hrecorded₂).after trace₁ hmoved
                  hrecorded
                right
                refine ⟨hlate.after [⟨.select, ()⟩] rfl rfl, row, score, now, hrow, hstatus,
                  ?_, ?_, hminimum, ?_, ?_⟩
                · exact hevidenceValid.mono fun e he => by simp [he]
                · exact hcomputed.mono fun e he => by simp [he]
                · rw [hafter]
                  exact hrowscore
                · rw [hafter, hsame]
        · obtain ⟨hmoved₂, _, table, hsame, hkept, _⟩ := runs_scoreAction hscore
          rw [hsame] at hkept
          have hstopped : Stopped trace₂
              (.error e : Except PyErr (TrustVerification × Scored)) := ⟨hmoved₂, e, rfl⟩
          exact ⟨table, hkept,
            Or.inl ⟨(hstopped.after trace₁ hmoved).after [⟨.select, ()⟩] rfl, hsame⟩⟩
  · obtain ⟨rfl, hmoved, _⟩ := runs_evidenceStatus hevidence
    have hstopped : Stopped rest (.error e : Except PyErr (TrustVerification × Scored)) :=
      ⟨hmoved, e, rfl⟩
    exact ⟨S'.governance.scores, fun _ _ hscore => hscore,
      Or.inl ⟨hstopped.after [⟨.select, ()⟩] rfl, rfl⟩⟩

inductive VerificationCall where
  | request (tenantId : Option String) (subjectId : String) (requestedBy : Option String)
      (subjectType : String) (minScoreRequired : Int)
  | review (verificationId : String) (tenantId reviewedBy notes : Option String)
  | approve (verificationId : String) (tenantId approvedBy : Option String)
  | revoke (verificationId : String) (tenantId revokedBy : Option String) (reason : String)

def VerificationCall.run (settings : Settings) : VerificationCall → StoreSession Unit
  | .request tenantId subjectId requestedBy subjectType minScoreRequired => do
      let _ ← requestVerification tenantId subjectId requestedBy subjectType minScoreRequired
      return ()
  | .review verificationId tenantId reviewedBy notes => do
      let _ ← reviewVerification verificationId tenantId reviewedBy notes
      return ()
  | .approve verificationId tenantId approvedBy => do
      let _ ← approveVerification settings verificationId tenantId approvedBy
      return ()
  | .revoke verificationId tenantId revokedBy reason => do
      let _ ← revokeVerification verificationId tenantId revokedBy reason
      return ()

/-- What holds of every stored verification: its packet is one of its subject, and so is
its score, if it has one. -/
structure Sound (g : Governance) (row : TrustVerification) : Prop where
  packet : ∃ packetId packet, row.evidencePacketId = some packetId ∧
    g.packets.find? packetId = some packet ∧ packet.scopeType = subjectGovernedAction ∧
      packet.scopeId = some row.subjectId
  score : (row.trustScoreId = none ∧ row.trustScore = none) ∨ ∃ score,
    row.trustScore = some score ∧ StoredScore g row.subjectId row.trustScoreId score

def AllSound (g : Governance) : Prop := ∀ row ∈ g.verifications.rows, Sound g row

/-- Packets keep their scope, and scores are kept. -/
structure ArtefactsKept (g g' : Governance) : Prop where
  packets : ∀ id packet, g.packets.find? id = some packet → ∃ packet',
    g'.packets.find? id = some packet' ∧ packet'.scopeType = packet.scopeType ∧
      packet'.scopeId = packet.scopeId
  scores : ScoresKept g g'

omit [Deployment] [Python] [Ed25519] in
theorem Sound.kept {g g' : Governance} {row : TrustVerification} (h : Sound g row)
    (hkept : ArtefactsKept g g') : Sound g' row := by
  constructor
  · obtain ⟨packetId, packet, hid, hfind, htype, hscope⟩ := h.packet
    obtain ⟨packet', hfind', htype', hscope'⟩ := hkept.packets packetId packet hfind
    exact ⟨packetId, packet', hid, hfind', htype'.trans htype, hscope'.trans hscope⟩
  · rcases h.score with hnone | ⟨score, hscore, id, stored, hid, hfind, hrest⟩
    · exact Or.inl hnone
    · exact Or.inr ⟨score, hscore, id, stored, hid, hkept.scores id stored hfind, hrest⟩

/-- A run of one call. -/
structure VerificationStep where
  call : VerificationCall
  before : Store
  trace : List StoreEvent
  result : Except PyErr Unit
  after : Store

/-- A row is approved by an approval of it, on valid evidence and a sufficient score. -/
def Qualified (settings : Settings) (step : VerificationStep) (row : TrustVerification) :
    Prop :=
  ∃ tenantId approvedBy score, step.call = .approve row.id tenantId approvedBy ∧
    ValidEvidence step.before.governance step.trace row ∧
      ComputedScore settings step.before step.trace row.subjectId tenantId score ∧
        row.minScoreRequired ≤ score ∧ row.trustScore = some score

/-- The step changes one row, by a transition. -/
def Changes (settings : Settings) (step : VerificationStep) (g g' : Governance) : Prop :=
  ∃ row, g'.verifications.find? row.id = some row ∧ Sound g' row ∧
    (∀ id, id ≠ row.id → g'.verifications.find? id = g.verifications.find? id) ∧
      ((g.verifications.find? row.id = none ∧ row.status = "requested") ∨
        ∃ old, g.verifications.find? row.id = some old ∧ Advances old.status row.status ∧
          (row.status = "approved" → Qualified settings step row))

omit [Deployment] [Python] [Ed25519] in
/-- What a session sets on the row that it loaded is what is stored. -/
theorem updated_self {old new : TrustVerification}
    (h : new = { old with
      status := new.status
      trustScoreId := new.trustScoreId
      trustScore := new.trustScore
      reviewedByUserId := new.reviewedByUserId
      decidedByUserId := new.decidedByUserId
      reviewNotes := new.reviewNotes
      decisionReason := new.decisionReason
      reviewedAt := new.reviewedAt
      decidedAt := new.decidedAt }) : old.updated new old = new := by
  rw [h]
  simp [TrustVerification.updated]

theorem changes_modify {settings : Settings} {step : VerificationStep} {g g' : Governance}
    {old : TrustVerification} {id : String} (new : TrustVerification)
    (hrow : g.verifications.find? id = some old)
    (hg : g'.verifications = g.verifications.modify old.id (old.updated new))
    (hid : new.id = old.id) (hnew : old.updated new old = new)
    (hfollows : Advances old.status new.status) (hsound : Sound g' new)
    (hqualified : new.status = "approved" → Qualified settings step new) :
    Changes settings step g g' := by
  have hold := g.verifications.find?_key (Table.mem_of_find? hrow)
  have hfind : g'.verifications.find? new.id = some new := by
    rw [hg, hid]
    exact (Table.find?_modify_self hold).trans (congrArg some hnew)
  refine ⟨new, hfind, hsound, ?_, Or.inr ⟨old, ?_, hfollows, hqualified⟩⟩
  · intro id hne
    rw [hg]
    exact Table.find?_modify_of_ne (hid ▸ hne)
  · rw [hid]
    exact hold

omit [Python] [Ed25519] in
/-- The packet of a request is one of its subject. -/
theorem latestSignedPacket_spec {g : Governance} {tenantId : Option String}
    {subjectId : String} {packet : EvidencePacket}
    (h : latestSignedPacket g tenantId subjectId = some packet) :
    g.packets.find? packet.id = some packet ∧
      packet.scopeType = subjectGovernedAction ∧ packet.scopeId = some subjectId := by
  have hmem := List.mem_of_head? h
  rw [List.mem_insertionSort, signedPackets, List.mem_filter] at hmem
  simp only [Bool.and_eq_true, decide_eq_true_eq] at hmem
  exact ⟨g.packets.find?_key hmem.1, hmem.2.1.1.1, hmem.2.1.1.2⟩

theorem settled_request {settings : Settings} {step : VerificationStep}
    {tenantId : Option String} {subjectId : String} {packet : EvidencePacket}
    {row : TrustVerification} {table : VerificationTable} {g g' : Governance}
    (hpacket : latestSignedPacket g tenantId subjectId = some packet)
    (hsubject : row.subjectId = subjectId) (hstatus : row.status = "requested")
    (hid : row.evidencePacketId = some packet.id) (hscoreId : row.trustScoreId = none)
    (hscore : row.trustScore = none) (hinsert : g.verifications.insert row = some table)
    (hg : g' = { g with verifications := table }) : Changes settings step g g' := by
  subst hg
  obtain ⟨hfind, htype, hscope⟩ := latestSignedPacket_spec hpacket
  refine ⟨row, Table.find?_insert_self hinsert, ⟨?_, Or.inl ⟨hscoreId, hscore⟩⟩, ?_,
    Or.inl ⟨Table.key_fresh_of_insert hinsert, hstatus⟩⟩
  · exact ⟨packet.id, packet, hid, hfind, htype, by rw [hsubject]; exact hscope⟩
  · intro id hne
    exact Table.find?_insert_of_ne hinsert hne

omit [Deployment] [Python] [Ed25519] in
theorem ArtefactsKept.of_verifications (g : Governance) (scores : ScoreTable)
    (table : VerificationTable) (h : ScoresKept g { g with scores := scores }) :
    ArtefactsKept g { g with scores := scores, verifications := table } :=
  ⟨fun _ packet hfind => ⟨packet, hfind, rfl, rfl⟩, h⟩

omit [Deployment] [Python] [Ed25519] in
theorem ArtefactsKept.refl (g : Governance) : ArtefactsKept g g :=
  ⟨fun _ packet hfind => ⟨packet, hfind, rfl, rfl⟩, fun _ _ hfind => hfind⟩

/-- A call that settled changed one row by a transition; a stopped one stored at most a
score. -/
theorem call_changes {settings : Settings} {call : VerificationCall}
    {result : Except PyErr Unit}
    (h : Prog.Runs truthful (call.run settings) S trace result S')
    (hall : AllSound S.governance) :
    ArtefactsKept S.governance S'.governance ∧
      ((Stopped trace result ∧ S'.governance.verifications = S.governance.verifications) ∨
        Settled trace result ∧
          Changes settings ⟨call, S, trace, result, S'⟩ S.governance S'.governance) := by
  cases call with
  | request tenantId subjectId requestedBy subjectType minScoreRequired =>
      obtain ⟨result', hrun, hstop, hsettle⟩ := runs_returning h
      rcases runs_requestVerification hrun with ⟨hstopped, rfl⟩ |
          ⟨hsettled, packet, row, table, hpacket, hsubject, hstatus, hid, hscoreId, hscore,
            hinsert, hafter⟩
      · exact ⟨.refl _, Or.inl ⟨hstop hstopped, rfl⟩⟩
      · refine ⟨?_, Or.inr ⟨hsettle hsettled, settled_request hpacket hsubject hstatus hid
          hscoreId hscore hinsert hafter⟩⟩
        rw [hafter]
        exact .of_verifications S.governance S.governance.scores table fun _ _ h => h
  | review verificationId tenantId reviewedBy notes =>
      obtain ⟨result', hrun, hstop, hsettle⟩ := runs_returning h
      rcases runs_reviewVerification hrun with ⟨hstopped, rfl⟩ |
          ⟨hsettled, row, ev, now, hrow, hstatus, hafter⟩
      · exact ⟨.refl _, Or.inl ⟨hstop hstopped, rfl⟩⟩
      · have hkept : ArtefactsKept S.governance S'.governance := by
          rw [hafter]
          exact .of_verifications S.governance S.governance.scores _ fun _ _ h => h
        have hsound := (hall row (Table.mem_of_find? hrow)).kept hkept
        have hfollows : Advances row.status (reviewed row ev reviewedBy notes now).status ∧
            (reviewed row ev reviewedBy notes now).status ≠ "approved" := by
          rw [hstatus]
          unfold reviewed
          dsimp only
          split
          · exact ⟨.review, by simp⟩
          · exact ⟨.reject, by simp⟩
        exact ⟨hkept, Or.inr ⟨hsettle hsettled,
          changes_modify (reviewed row ev reviewedBy notes now) hrow
            (congrArg Governance.verifications hafter) rfl (updated_self rfl) hfollows.1
            ⟨hsound.packet, hsound.score⟩ fun happroved => absurd happroved hfollows.2⟩⟩
  | approve verificationId tenantId approvedBy =>
      obtain ⟨result', hrun, hstop, hsettle⟩ := runs_returning h
      obtain ⟨table, hscores, hcases⟩ := runs_approveVerification hrun
      rcases hcases with ⟨hstopped, hafter⟩ |
          ⟨hsettled, row, score, now, hrow, hstatus, hvalid, hcomputed, hminimum, hstored,
            hafter⟩
      · rw [hafter]
        exact ⟨.of_verifications S.governance table _ hscores,
          Or.inl ⟨hstop hstopped, rfl⟩⟩
      · have hkept : ArtefactsKept S.governance S'.governance := by
          rw [hafter]
          exact .of_verifications S.governance table _ hscores
        have hsound := (hall row (Table.mem_of_find? hrow)).kept hkept
        have hid := Table.key_of_find? hrow
        refine ⟨hkept, Or.inr ⟨hsettle hsettled,
          changes_modify (approved row score approvedBy now) hrow
            (congrArg Governance.verifications hafter) rfl (updated_self rfl)
            (by rw [hstatus]; exact .approve) ⟨hsound.packet, Or.inr ⟨_, rfl, hstored⟩⟩ ?_⟩⟩
        intro _
        refine ⟨tenantId, approvedBy, score.result.score, ?_, hvalid, hcomputed, hminimum,
          rfl⟩
        exact congrArg (VerificationCall.approve · tenantId approvedBy) hid.symm
  | revoke verificationId tenantId revokedBy reason =>
      obtain ⟨result', hrun, hstop, hsettle⟩ := runs_returning h
      rcases runs_revokeVerification hrun with ⟨hstopped, rfl⟩ |
          ⟨hsettled, row, now, hrow, hstatus, hafter⟩
      · exact ⟨.refl _, Or.inl ⟨hstop hstopped, rfl⟩⟩
      · have hkept : ArtefactsKept S.governance S'.governance := by
          rw [hafter]
          exact .of_verifications S.governance S.governance.scores _ fun _ _ h => h
        have hsound := (hall row (Table.mem_of_find? hrow)).kept hkept
        exact ⟨hkept, Or.inr ⟨hsettle hsettled,
          changes_modify (revoked row revokedBy reason now) hrow
            (congrArg Governance.verifications hafter) rfl (updated_self rfl)
            (by rw [hstatus]; exact .revoke) ⟨hsound.packet, hsound.score⟩
            (by simp [revoked])⟩⟩

/-- What may happen between two calls: packets are revoked, expire, are signed again or
altered, the subject and its records change, and scores are added. -/
structure Meanwhile (S S' : Store) : Prop where
  verifications : S'.governance.verifications = S.governance.verifications
  artefacts : ArtefactsKept S.governance S'.governance

/-- Calls in any order, with anything else in between. -/
inductive VerificationRun (settings : Settings) (start : Store) :
    List VerificationStep → Store → Prop where
  | nil : VerificationRun settings start [] start
  | call {log : List VerificationStep} {S S' : Store}
      (h : VerificationRun settings start log S) (call : VerificationCall)
      {trace : List StoreEvent} {result : Except PyErr Unit}
      (hrun : Prog.Runs truthful (call.run settings) S trace result S') :
      VerificationRun settings start (log ++ [⟨call, S, trace, result, S'⟩]) S'
  | between {log : List VerificationStep} {S S' : Store}
      (h : VerificationRun settings start log S) (hother : Meanwhile S S') :
      VerificationRun settings start log S'

/-- Every row follows the transitions and is approved only when it qualifies, and a call
that raises changes none. -/
structure Correct (settings : Settings) (step : VerificationStep) : Prop where
  follows : ∀ id row, step.after.governance.verifications.find? id = some row →
    (step.before.governance.verifications.find? id = none ∧ row.status = "requested") ∨
      ∃ old, step.before.governance.verifications.find? id = some old ∧
        (row = old ∨ Advances old.status row.status)
  stays : ∀ id old, step.before.governance.verifications.find? id = some old →
    ∃ row, step.after.governance.verifications.find? id = some row
  approval : ∀ id row, step.after.governance.verifications.find? id = some row →
    row.status = "approved" →
    (∀ old, step.before.governance.verifications.find? id = some old →
      old.status ≠ "approved") → Qualified settings step row
  unchanged : (∃ e, step.result = .error e) →
    step.after.governance.verifications = step.before.governance.verifications

/-- If the change of the verification went through, so did the insert of its audit
event. -/
def Audited (step : VerificationStep) : Prop :=
  moved step.trace = true → recorded step.trace = true

theorem correct_of_same {settings : Settings} {step : VerificationStep}
    (h : step.after.governance.verifications = step.before.governance.verifications) :
    Correct settings step where
  follows id row hrow := by
    rw [h] at hrow
    exact Or.inr ⟨row, hrow, Or.inl rfl⟩
  stays id old hold := by
    rw [h]
    exact ⟨old, hold⟩
  approval id row hrow happroved hnot := by
    rw [h] at hrow
    exact absurd happroved (hnot row hrow)
  unchanged _ := h

theorem correct_of_changes {settings : Settings} {step : VerificationStep}
    (h : Changes settings step step.before.governance step.after.governance)
    (hreturned : ∃ value, step.result = .ok value) : Correct settings step := by
  obtain ⟨row, hrow, _, hother, hcase⟩ := h
  have hcases : ∀ id new, step.after.governance.verifications.find? id = some new →
      new = row ∧ id = row.id ∨
        step.before.governance.verifications.find? id = some new := by
    intro id new hnew
    by_cases hid : id = row.id
    · rw [hid, hrow] at hnew
      exact Or.inl ⟨(Option.some.inj hnew).symm, hid⟩
    · rw [hother id hid] at hnew
      exact Or.inr hnew
  constructor
  · intro id new hnew
    rcases hcases id new hnew with ⟨rfl, rfl⟩ | hsame
    · rcases hcase with hfresh | ⟨old, hold, hfollows, _⟩
      · exact Or.inl hfresh
      · exact Or.inr ⟨old, hold, Or.inr hfollows⟩
    · exact Or.inr ⟨new, hsame, Or.inl rfl⟩
  · intro id old hold
    by_cases hid : id = row.id
    · exact ⟨row, by rw [hid]; exact hrow⟩
    · exact ⟨old, by rw [hother id hid]; exact hold⟩
  · intro id new hnew happroved hnot
    rcases hcases id new hnew with ⟨rfl, rfl⟩ | hsame
    · rcases hcase with ⟨_, hrequested⟩ | ⟨old, hold, _, hqualified⟩
      · rw [happroved] at hrequested
        simp at hrequested
      · exact hqualified happroved
    · exact absurd happroved (hnot new hsame)
  · rintro ⟨e, herror⟩
    obtain ⟨value, hok⟩ := hreturned
    rw [hok] at herror
    cases herror

/-- A changed row differs from the one before. -/
theorem changes_ne {settings : Settings} {step : VerificationStep} {g g' : Governance}
    (h : Changes settings step g g') : g'.verifications ≠ g.verifications := by
  intro hsame
  obtain ⟨row, hrow, _, _, hcase⟩ := h
  rw [hsame] at hrow
  rcases hcase with ⟨hfresh, _⟩ | ⟨old, hold, hfollows, _⟩
  · rw [hfresh] at hrow
    cases hrow
  · rw [hrow] at hold
    cases hold
    exact hfollows.ne rfl

theorem correct_iff_audited {settings : Settings} {call : VerificationCall}
    {result : Except PyErr Unit}
    (h : Prog.Runs truthful (call.run settings) S trace result S')
    (hall : AllSound S.governance) :
    Correct settings ⟨call, S, trace, result, S'⟩ ↔
      Audited ⟨call, S, trace, result, S'⟩ := by
  obtain ⟨_, ⟨hstopped, hsame⟩ | ⟨hsettled, hchanges⟩⟩ := call_changes h hall
  · refine iff_of_true (correct_of_same hsame) ?_
    intro hmoved
    have hnot : moved trace = false := hstopped.1
    rw [hnot] at hmoved
    cases hmoved
  · constructor
    · intro hcorrect _
      by_contra hnot
      have herror : ∃ e, result = .error e := by
        cases result with
        | ok value => exact absurd (hsettled.2.mpr ⟨value, rfl⟩) hnot
        | error e => exact ⟨e, rfl⟩
      exact changes_ne hchanges (hcorrect.unchanged herror)
    · intro haudited
      exact correct_of_changes hchanges (hsettled.2.mp (haudited hsettled.1))

theorem sound_call {settings : Settings} {call : VerificationCall}
    {result : Except PyErr Unit}
    (h : Prog.Runs truthful (call.run settings) S trace result S')
    (hall : AllSound S.governance) : AllSound S'.governance := by
  obtain ⟨hkept, ⟨_, hsame⟩ | ⟨_, row, hrow, hsound, hother, _⟩⟩ := call_changes h hall
  · intro row hrow
    rw [hsame] at hrow
    exact (hall row hrow).kept hkept
  · intro new hnew
    have hfind := S'.governance.verifications.find?_key hnew
    by_cases hid : new.id = row.id
    · rw [hid, hrow] at hfind
      cases hfind
      exact hsound
    · rw [hother _ hid] at hfind
      exact (hall new (Table.mem_of_find? hfind)).kept hkept

theorem sound_run {settings : Settings} {start : Store} {log : List VerificationStep}
    (hstart : start.governance.verifications.rows = [])
    (h : VerificationRun settings start log S) : AllSound S.governance := by
  induction h with
  | nil =>
      intro row hrow
      rw [hstart] at hrow
      cases hrow
  | call _ call hrun ih => exact sound_call hrun ih
  | between _ hother ih =>
      intro row hrow
      rw [hother.verifications] at hrow
      exact (ih row hrow).kept hother.artefacts

/-- From a table without verifications, and whoever else changes artefacts between the calls:
every state of a run is sound and all its calls are correct if and only if no audit event of a
change was refused. -/
theorem lifecycle_iff_audited {settings : Settings} {start : Store}
    {log : List VerificationStep} (hstart : start.governance.verifications.rows = [])
    (h : VerificationRun settings start log S) :
    ((∀ step ∈ log, Correct settings step) ∧ AllSound S.governance) ↔
      ∀ step ∈ log, Audited step := by
  rw [and_iff_left (sound_run hstart h)]
  induction h with
  | nil => simp
  | between _ _ ih => exact ih
  | call h call hrun ih =>
      have hstep := correct_iff_audited hrun (sound_run hstart h)
      simp only [List.mem_append, List.mem_singleton, or_imp, forall_and, forall_eq, ih, hstep]

end

section Sample

local instance instLifecycleDeployment : Deployment := .sqlite
local instance instLifecyclePython : Python := plainPython
local instance instLifecycleKey : Ed25519 := keyPair ""

local instance instTruthful (q : StoreCall) (r : StoreReply q) (S : Store) :
    Decidable (truthful q r S) :=
  match q, r with
  | .clock, _ => inferInstanceAs (Decidable True)
  | .select, _ => inferInstanceAs (Decidable True)
  | .commit change, (r : DbReply) => inferInstanceAs
      (Decidable (r.failure = none → (change.apply r S.governance).isSome))
  | .pipeline (.select _), _ => inferInstanceAs (Decidable True)
  | .pipeline (.commit tx), (r : DbReply) => inferInstanceAs
      (Decidable (r.failure = none → (tx.apply r S.db).isSome))
  | .pipeline (.createDraft _ _ _), _ => inferInstanceAs (Decidable True)
  | .pipeline (.readThread _), _ => inferInstanceAs (Decidable True)
  | .pipeline (.sendApprovedDraft _ _), _ => inferInstanceAs (Decidable True)

def sampleSubject : GovernedAction where
  id := "g1"
  tenantId := some "t1"
  workflowId := none
  sourceJobId := none
  approvalId := none
  executionJobId := none
  actionType := "ai_vendor.governance_review"
  policyVersion := none
  policyVersionId := none
  policyDecision := none
  status := "cleared"
  metadataJson := none
  createdAt := unset

/-- A signed packet of the subject, with an empty export. -/
def signedPacket : EvidencePacket where
  id := "p1"
  tenantId := some "t1"
  scopeType := subjectGovernedAction
  scopeId := some "g1"
  jsonExport := some "{}"
  markdownExport := none
  createdByUserId := none
  packetHash := some (computePacketHash [])
  version := some 1
  retentionStatus := "active"
  packetSignature := some (Hex.encode (List.replicate 64 0))
  signatureAlgorithm := some "Ed25519"
  signedAt := none
  expiresAt := none
  revokedAt := none
  revocationReason := none
  createdAt := unset

def withPacket : Store :=
  { ({} : Store) with governance :=
    { ({} : Governance) with
      actions := .single sampleSubject
      packets := .single signedPacket } }

/-- The answers from the n-th on, with the audit events refused. -/
def refusingAudit (n : Nat) : (q : StoreCall) → StoreReply q
  | .pipeline (.commit _) => ⟨s!"row{n}", AuditService.sampleCreated.createdAt.moment,
      some .other, ""⟩
  | q => packetAnswers n q

def requestCall : VerificationCall := .request (some "t1") "g1" none "governed_action" 0

def reviewCall : VerificationCall := .review "row102" (some "t1") none none

def approveCall : VerificationCall := .approve "row102" (some "t1") none

/-- A call with answers given by position. -/
def answered (call : VerificationCall) (oracle : Nat → (q : StoreCall) → StoreReply q)
    (n : Nat) (S : Store) : VerificationStep :=
  let run := (call.run {}).exec oracle n S
  ⟨call, S, run.1, run.2.1, run.2.2⟩

theorem VerificationRun.answered {start S : Store} {log : List VerificationStep}
    (h : VerificationRun {} start log S) {call : VerificationCall}
    {oracle : Nat → (q : StoreCall) → StoreReply q} {n : Nat}
    (hadmits : (call.run {}).admits truthful oracle n S = true) :
    VerificationRun {} start (log ++ [VerificationService.answered call oracle n S])
      (VerificationService.answered call oracle n S).after :=
  h.call call (Prog.runs_of_admits hadmits)

def requestStep : VerificationStep := answered requestCall packetAnswers 100 withPacket

/-- The review is committed, and its audit event is refused. -/
def reviewStep : VerificationStep := answered reviewCall refusingAudit 200 requestStep.after

/-- The review with its audit event. -/
def auditedReviewStep : VerificationStep :=
  answered reviewCall packetAnswers 200 requestStep.after

/-- Before the approval the audit events of the two calls were moved to an archive. -/
def archived : Store := { auditedReviewStep.after with db := {} }

def approveStep : VerificationStep := answered approveCall packetAnswers 300 archived

/-- Every audit event of the four calls is stored but the one that is refused, whose call raises
with its row moved. -/
theorem lifecycle_admitted :
    (requestCall.run {}).admits truthful packetAnswers 100 withPacket = true ∧
    (reviewCall.run {}).admits truthful refusingAudit 200 requestStep.after = true ∧
    (reviewCall.run {}).admits truthful packetAnswers 200 requestStep.after = true ∧
    (approveCall.run {}).admits truthful packetAnswers 300 archived = true ∧
    (∀ step ∈ [requestStep, auditedReviewStep, approveStep], recorded step.trace = true) ∧
    ([requestStep, auditedReviewStep, approveStep].map fun step =>
      step.after.governance.verifications.rows.map TrustVerification.status) =
        [["requested"], ["under_review"], ["approved"]] ∧
    reviewStep.result.toOption = none ∧
    reviewStep.after.governance.verifications.rows.map TrustVerification.status ≠
      reviewStep.before.governance.verifications.rows.map TrustVerification.status := by
  decide +kernel

theorem request_reached :
    VerificationRun {} withPacket ([] ++ [requestStep]) requestStep.after :=
  VerificationRun.nil.answered lifecycle_admitted.1

theorem review_reached : VerificationRun {} withPacket ([] ++ [requestStep] ++ [reviewStep])
    reviewStep.after :=
  request_reached.answered lifecycle_admitted.2.1

/-- A request, its review and its approval, each with its audit event. -/
theorem request_lifecycle :
    ([requestStep, auditedReviewStep, approveStep].map fun step =>
      step.after.governance.verifications.rows.map TrustVerification.status) =
        [["requested"], ["under_review"], ["approved"]] ∧
    (∀ step ∈ [requestStep, auditedReviewStep, approveStep], Correct {} step) ∧
      AllSound approveStep.after.governance := by
  obtain ⟨_, _, hreview, happrove, hrecorded, hstatuses, _⟩ := lifecycle_admitted
  have hreviewed := request_reached.answered hreview
  have hkept : Meanwhile auditedReviewStep.after archived := ⟨rfl, .refl _⟩
  have hrun := (hreviewed.between hkept).answered happrove
  exact ⟨hstatuses, (lifecycle_iff_audited rfl hrun).mpr fun step hstep _ => hrecorded step hstep⟩

/-- The review raises and the row is under review. -/
theorem review_without_audit : ¬∀ (start S : Store) (log : List VerificationStep),
    start.governance.verifications.rows = [] → VerificationRun {} start log S →
      ∀ step ∈ log, Correct {} step := by
  intro hclaim
  have hcorrect := hclaim _ _ _ rfl review_reached reviewStep
    (List.mem_append_right _ (List.mem_singleton.mpr rfl))
  obtain ⟨_, _, _, _, _, _, hraised, hdiffer⟩ := lifecycle_admitted
  have herror : ∃ e, reviewStep.result = .error e := by
    cases hresult : reviewStep.result with
    | error e => exact ⟨e, rfl⟩
    | ok value =>
        rw [hresult] at hraised
        cases hraised
  have hsame := congrArg (fun table : VerificationTable =>
    table.rows.map TrustVerification.status) (hcorrect.unchanged herror)
  exact hdiffer hsame

end Sample

end VerificationService

end ControlPlane
