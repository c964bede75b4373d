import ControlPlane.Reviews.CallerIndependence
import ControlPlane.Services.Failures

/-!
The calls of a review that do not go through. An approval that is refused has stored
nothing, unless the refusal is that of the score: the score is stored before it is
compared. A review raises, with the row still requested, on an export that is JSON but
not an object.
-/

namespace ControlPlane

open Lib EvidenceGraph AuditService

namespace VerificationService

open EvidenceStore EvidenceSignature TrustScoreService EvidencePackets

section

variable [Deployment]

/-- The score of a subject. The time at which its packet is generated has no part in it. -/
def subjectScore (settings : Settings) (S : Store) (subjectId : String)
    (tenantId : Option String) : Except PyErr (Option Int) :=
  (buildActionPacket S "" subjectId tenantId).map fun built =>
    built.map fun packet => (scorePacket packet settings.appEnv).score

theorem subjectScore_eq (settings : Settings) (S : Store) (subjectId : String)
    (tenantId : Option String) (generatedAt : String) :
    subjectScore settings S subjectId tenantId =
      (buildActionPacket S generatedAt subjectId tenantId).map fun built =>
        built.map fun packet => (scorePacket packet settings.appEnv).score := by
  unfold subjectScore buildActionPacket
  cases getEvidenceGraph S subjectId tenantId with
  | none => rfl
  | some graph =>
      cases verify S tenantId with
      | error e => rfl
      | ok verification => rfl

theorem transition_raises {action : String} {row new : TrustVerification}
    {actor : Option String} {fields : TrustVerification → Dict} :
    (transition action row new actor fields).Raises NotRefusal :=
  raises_commitChange.bind fun _ =>
    Prog.Raises.bind (raises_peek.bind fun _ => raises_foundAgain) fun _ =>
      raises_recordEvent.bind fun _ => trivial

end

section

variable [Deployment] {settings : Settings} {S S' : Store} {trace : List StoreEvent}
  {adm : (q : StoreCall) → StoreReply q → Store → Prop}

/-- The first clock reading of a trace. -/
def firstReading : List StoreEvent → Option Moment
  | [] => none
  | ⟨.clock, m⟩ :: _ => some m
  | _ :: rest => firstReading rest

theorem persist_raises {tenantId : Option String} {scopeType scopeId : String}
    {result : Result} : (persist tenantId scopeType scopeId result).Raises NotRefusal :=
  raises_peek.bind fun _ => raises_commitChange.bind fun _ =>
    raises_peek.bind fun _ => raises_foundAgain

/-- Either nothing is stored, and an existing subject has met a database error, or the score
of the subject is. -/
theorem runs_subjectScore {subjectId : String} {tenantId : Option String}
    {result : Except PyErr (Option Scored)}
    (h : Prog.Runs adm (scoreAction settings subjectId tenantId true) S trace result S') :
    (S' = S ∧ ∀ scored, result = .ok (some scored) → False) ∧
        (∀ score, subjectScore settings S subjectId tenantId = .ok (some score) →
          ∃ e, result = .error e ∧ NotRefusal e) ∨
      S' ≠ S ∧ S'.governance.verifications = S.governance.verifications ∧
        ∃ scored, result = .ok (some scored) ∧
          subjectScore settings S subjectId tenantId = .ok (some scored.result.score) := by
  unfold scoreAction at h
  obtain ⟨now, rest, rfl, hbuild⟩ := runs_readClock_bind h
  obtain ⟨rest', rfl, hbuilt⟩ := runs_peek_bind hbuild
  have hsubject := subjectScore_eq settings S subjectId tenantId (Datetime.utc now).isoformat
  rcases Prog.runs_bind hbuilt with ⟨built, S₁, _, _, houtcome, hscore, rfl⟩ |
      ⟨e, houtcome, rfl⟩
  · obtain ⟨rfl, hpacket, rfl⟩ := runs_outcome houtcome
    rw [← hpacket] at hsubject
    cases built with
    | none =>
        obtain ⟨rfl, rfl, rfl⟩ := Prog.runs_pure hscore
        refine Or.inl ⟨⟨rfl, by rintro _ ⟨⟩⟩, fun score hsome => ?_⟩
        rw [hsubject] at hsome
        cases hsome
    | some packet =>
        unfold scoreScope at hscore
        dsimp only at hscore
        rw [if_pos rfl, Prog.bind_eq, Prog.bind_eq, Prog.bind_assoc] at hscore
        rcases Prog.runs_bind hscore with ⟨row, S₂, _, _, hpersist, hlast, rfl⟩ |
            ⟨e, hpersist, rfl⟩
        · obtain ⟨rfl, rfl, rfl⟩ := Prog.runs_pure hlast
          unfold persist at hpersist
          obtain ⟨rest, rfl, hcommit⟩ := runs_peek_bind hpersist
          obtain ⟨r, rest', rfl, hdone⟩ := runs_commitChange_bind hcommit
          rcases hdone with ⟨_, g, happly, hrest⟩ | ⟨_, _, ⟨e, herror⟩, _⟩
          · obtain ⟨table, hinsert, rfl⟩ := Option.map_eq_some_iff.mp happly
            obtain ⟨rest'', rfl, hfound⟩ := runs_peek_bind hrest
            obtain ⟨_, rfl, _⟩ := runs_foundAgain hfound
            refine Or.inr ⟨fun hsame => ?_, rfl, _, rfl, hsubject⟩
            have hrows := congrArg (fun S => S.governance.scores.rows.length) hsame
            simp [Table.rows_insert hinsert] at hrows
          · cases herror
        · have hrefusal := persist_raises.of_runs hpersist
          unfold persist at hpersist
          obtain ⟨rest, rfl, hcommit⟩ := runs_peek_bind hpersist
          obtain ⟨r, rest', rfl, hdone⟩ := runs_commitChange_bind hcommit
          rcases hdone with ⟨_, g, happly, hrest⟩ | ⟨_, _, _, rfl⟩
          · obtain ⟨table, hinsert, rfl⟩ := Option.map_eq_some_iff.mp happly
            obtain ⟨rest'', rfl, hfound⟩ := runs_peek_bind hrest
            rw [Table.find?_insert_self hinsert] at hfound
            obtain ⟨_, hvalue, _⟩ := Prog.runs_pure hfound
            cases hvalue
          · exact Or.inl ⟨⟨rfl, by rintro _ ⟨⟩⟩, fun _ _ => ⟨e, rfl, hrefusal⟩⟩
  · obtain ⟨rfl, hpacket, rfl⟩ := runs_outcome houtcome
    refine Or.inl ⟨⟨rfl, by rintro _ ⟨⟩⟩, fun score hsome => ?_⟩
    rw [hsubject, ← hpacket] at hsome
    cases hsome

variable [Python] [Ed25519]

/-- The verdict on the evidence, at the first clock reading if there is one. -/
theorem runs_evidence {row : TrustVerification} {result : Except PyErr Evidence}
    (h : Prog.Runs adm (evidenceStatus row) S trace result S') :
    S' = S ∧ ((result = .ok .missing ∧ ∀ now, evidenceAt S.governance row now = .ok .missing) ∨
      ∃ now, firstReading trace = some now ∧ result = evidenceAt S.governance row now) := by
  unfold evidenceStatus at h
  unfold evidenceAt
  split at h
  · next hfalsy =>
      obtain ⟨_, rfl, rfl⟩ := Prog.runs_pure h
      exact ⟨rfl, Or.inl ⟨rfl, fun _ => if_pos hfalsy⟩⟩
  · next hid =>
      simp only [if_neg hid]
      obtain ⟨rest, rfl, hfound⟩ := runs_peek_bind h
      cases hpacket : getPacket S.governance (row.evidencePacketId.getD "") row.tenantId with
      | none =>
          rw [hpacket] at hfound
          obtain ⟨_, rfl, rfl⟩ := Prog.runs_pure hfound
          exact ⟨rfl, Or.inl ⟨rfl, fun _ => rfl⟩⟩
      | some packet =>
          rw [hpacket] at hfound
          obtain ⟨now, rest', rfl, hverify⟩ := runs_readClock_bind hfound
          rcases Prog.runs_bind hverify with ⟨v, S₁, _, _, houtcome, hlast, rfl⟩ |
              ⟨e, houtcome, rfl⟩
          · obtain ⟨rfl, hv, rfl⟩ := runs_outcome houtcome
            obtain ⟨rfl, rfl, rfl⟩ := Prog.runs_pure hlast
            refine ⟨rfl, Or.inr ⟨now, rfl, ?_⟩⟩
            dsimp only
            rw [← hv]
            rfl
          · obtain ⟨rfl, hv, rfl⟩ := runs_outcome houtcome
            refine ⟨rfl, Or.inr ⟨now, rfl, ?_⟩⟩
            dsimp only
            rw [← hv]
            rfl

omit [Python] [Ed25519] in
/-- A refusal once the evidence is valid. -/
theorem runs_scored {row : TrustVerification} {tenantId approvedBy : Option String}
    {message : String}
    (h : Prog.Runs adm ((scoreAction settings row.subjectId tenantId true).bind fun
        | none => throw (.valueError "subject_not_found")
        | some score => decideApproval row.id score approvedBy)
      S trace (.error (.valueError message)) S')
    (hrow : S.governance.verifications.find? row.id = some row) :
    (S' = S ∧ ∀ score, subjectScore settings S row.subjectId tenantId ≠ .ok (some score)) ∨
      S' ≠ S ∧ ∃ score, subjectScore settings S row.subjectId tenantId = .ok (some score) ∧
        score < row.minScoreRequired := by
  rcases Prog.runs_bind h with ⟨scored, S₁, _, _, hscore, hdecide, rfl⟩ | ⟨e, hscore, herror⟩
  · rcases runs_subjectScore hscore with ⟨⟨rfl, hnone⟩, hsubject⟩ |
        ⟨hne, hverifications, score, hscored, hsubject⟩
    · cases scored with
      | some score => exact (hnone score rfl).elim
      | none =>
          obtain ⟨_, _, rfl⟩ := Prog.runs_raise hdecide
          refine Or.inl ⟨rfl, fun score hscore => ?_⟩
          obtain ⟨e, herror, _⟩ := hsubject score hscore
          cases herror
    · cases hscored
      dsimp only at hdecide
      unfold decideApproval reloadVerification at hdecide
      rw [Prog.bind_eq, Prog.bind_eq, Prog.bind_assoc] at hdecide
      obtain ⟨rest, rfl, hfound⟩ := runs_peek_bind hdecide
      rw [hverifications, hrow] at hfound
      change Prog.Runs adm (if score.result.score < row.minScoreRequired then _ else _) _ _ _ _
        at hfound
      split at hfound
      · next hlow =>
          obtain ⟨_, _, rfl⟩ := Prog.runs_raise hfound
          exact Or.inr ⟨hne, _, hsubject, hlow⟩
      · have hraises : Prog.Raises NotRefusal (readClock.bind fun now =>
            (transition "verification.approved" row (approved row score approvedBy now)
              approvedBy fun row => [("trust_score", .num score.result.score),
                ("min_score_required", .num row.minScoreRequired)]).bind
              fun row => .pure (row, score)) :=
          Prog.Raises.bind (fun _ _ => trivial) fun _ =>
            transition_raises.bind fun _ => trivial
        exact absurd (hraises.of_runs hfound) (by simp [NotRefusal, PyErr.refuses])
  · cases herror
    rcases runs_subjectScore hscore with ⟨⟨rfl, _⟩, hsubject⟩ | ⟨_, _, score, hscored, _⟩
    · refine Or.inl ⟨rfl, fun score hscored => ?_⟩
      obtain ⟨e, herror, hrefusal⟩ := hsubject score hscored
      cases herror
      exact absurd hrefusal (by simp [NotRefusal, PyErr.refuses])
    · cases hscored

/-- The row is under review, its evidence is valid and its subject scores too little. -/
def TooLow (settings : Settings) (S : Store) (id : String) (tenantId : Option String)
    (now : Moment) : Prop :=
  ∃ row score, getVerification S.governance id tenantId = some row ∧
    row.status = "under_review" ∧ ValidAt S.governance row now ∧
      subjectScore settings S row.subjectId tenantId = .ok (some score) ∧
        score < row.minScoreRequired

omit [Deployment] [Python] [Ed25519] in
theorem firstReading_append {first second : List StoreEvent} {now : Moment}
    (h : firstReading first = some now) : firstReading (first ++ second) = some now := by
  induction first with
  | nil => cases h
  | cons e rest ih =>
      obtain ⟨q, r⟩ := e
      cases q with
      | clock => exact h
      | select => exact ih h
      | commit change => exact ih h
      | pipeline call => exact ih h

/-- An approval that ends in a ValueError has changed nothing if and only if it was not the
score that it was refused for: the score is computed, and stored, before it is compared. -/
theorem refused_approval_traceless_iff {id message : String}
    {tenantId approvedBy : Option String}
    (h : Prog.Runs adm (approveVerification settings id tenantId approvedBy) S trace
      (.error (.valueError message)) S') :
    S' = S ↔ ¬∃ now, firstReading trace = some now ∧ TooLow settings S id tenantId now := by
  unfold approveVerification inStatus at h
  rw [Prog.bind_eq, Prog.bind_eq, Prog.bind_assoc] at h
  obtain ⟨rest, rfl, hcheck⟩ := runs_peek_bind h
  cases hrow : getVerification S.governance id tenantId with
  | none =>
      rw [hrow] at hcheck
      obtain ⟨_, _, rfl⟩ := Prog.runs_raise hcheck
      refine iff_of_true rfl ?_
      rintro ⟨now, _, row, score, hfound, _⟩
      rw [hrow] at hfound
      cases hfound
  | some row =>
      rw [hrow] at hcheck
      dsimp only at hcheck
      have hunique : ∀ {now}, TooLow settings S id tenantId now →
          row.status = "under_review" ∧ ValidAt S.governance row now ∧
            ∃ score, subjectScore settings S row.subjectId tenantId = .ok (some score) ∧
              score < row.minScoreRequired := by
        rintro now ⟨row', score, hfound, hstatus, hvalid, hscore, hlow⟩
        obtain rfl : row = row' := Option.some.inj (hrow.symm.trans hfound)
        exact ⟨hstatus, hvalid, score, hscore, hlow⟩
      split at hcheck
      · next hstatus =>
          obtain ⟨_, _, rfl⟩ := Prog.runs_raise hcheck
          exact iff_of_true rfl fun ⟨now, _, hlow⟩ => hstatus (hunique hlow).1
      · next hstatus =>
          rw [Prog.pure_eq, Prog.pure_bind] at hcheck
          rcases Prog.runs_bind hcheck with ⟨ev, S₁, first, later, hevidence, hlater, rfl⟩ |
              ⟨e, hevidence, herror⟩
          · obtain ⟨rfl, hverdict⟩ := runs_evidence hevidence
            split at hlater
            · next hinvalid =>
                obtain ⟨_, _, rfl⟩ := Prog.runs_raise hlater
                refine iff_of_true rfl ?_
                rintro ⟨now, hnow, hlow⟩
                obtain ⟨_, ⟨other, hother, hvalid⟩, _⟩ := hunique hlow
                rcases hverdict with ⟨hmissing, hat⟩ | ⟨now', hnow', hat⟩
                · rw [hat now] at hother
                  cases hother
                  revert hvalid
                  simp [Evidence.status]
                · have hsame : firstReading (⟨.select, ()⟩ :: (first ++ later)) = some now' :=
                    firstReading_append hnow'
                  rw [hnow, Option.some.injEq] at hsame
                  rw [← hsame, hother, Except.ok.injEq] at hat
                  rw [hat] at hinvalid
                  exact hinvalid hvalid
            · next hvalid =>
                have hfind := (Option.filter_eq_some_iff.mp hrow).1
                have hid := Table.key_of_find? hfind
                rcases hverdict with ⟨hmissing, _⟩ | ⟨now, hnow, hat⟩
                · cases hmissing
                  exact absurd (by simp [Evidence.status]) hvalid
                have hreading : firstReading (⟨.select, ()⟩ :: (first ++ later)) = some now :=
                  firstReading_append hnow
                rcases runs_scored hlater (by rw [hid]; exact hfind) with ⟨rfl, hnone⟩ |
                    ⟨hne, score, hscore, hlow⟩
                · refine iff_of_true rfl ?_
                  rintro ⟨now', _, hlow⟩
                  obtain ⟨_, _, score, hscore, _⟩ := hunique hlow
                  exact hnone score hscore
                · refine iff_of_false hne (not_not.mpr ⟨now, hreading, row, score, hrow,
                    not_not.mp hstatus, ⟨ev, hat.symm, not_not.mp hvalid⟩, hscore, hlow⟩)
          · cases herror
            obtain ⟨rfl, hverdict⟩ := runs_evidence hevidence
            refine iff_of_true rfl ?_
            rintro ⟨now, hnow, hlow⟩
            obtain ⟨_, ⟨other, hother, _⟩, _⟩ := hunique hlow
            rcases hverdict with ⟨hmissing, _⟩ | ⟨now', hnow', hat⟩
            · cases hmissing
            · have hsame : firstReading (⟨.select, ()⟩ :: rest) = some now' := hnow'
              rw [hnow, Option.some.injEq] at hsame
              rw [← hsame, hother] at hat
              cases hat

end

section

variable [Deployment] [Python] [Ed25519]

/-- Packets with a verdict: there is nothing to hash, or what there is loads as an object or
not at all. -/
def Verifiable (packet : EvidencePacket) : Prop :=
  falsy packet.packetSignature ∨ falsy packet.jsonExport ∨ falsy packet.packetHash ∨
    (Value.loads (packet.jsonExport.getD "") : Option PyValue) = none ∨
      ∃ fields : PyDict, Value.loads (packet.jsonExport.getD "") = some (.dict fields)

omit [Ed25519] in
theorem contentIntact_returns_iff {packet : EvidencePacket}
    (hsigned : ¬falsy packet.packetSignature) :
    (∃ intact, contentIntact packet = .ok intact) ↔ Verifiable packet := by
  unfold contentIntact Verifiable
  split
  · next hempty =>
      rw [Bool.or_eq_true] at hempty
      exact iff_of_true ⟨_, rfl⟩ (Or.inr (hempty.elim Or.inl fun h => Or.inr (Or.inl h)))
  · next hfull =>
      rw [Bool.or_eq_true, not_or] at hfull
      split
      · next hloads => exact iff_of_true ⟨_, rfl⟩ (by simp [hloads])
      · next fields hloads => exact iff_of_true ⟨_, rfl⟩ (by simp [hloads])
      · next v hobject hloads =>
          refine iff_of_false (by rintro ⟨_, ⟨⟩⟩) ?_
          rintro (h | h | h | h | ⟨fields, h⟩)
          · exact hsigned h
          · exact hfull.1 h
          · exact hfull.2 h
          · rw [hloads] at h
            cases h
          · rw [hloads, Option.some.injEq] at h
            exact hobject fields h

/-- A verdict is one of the five statuses; what is not an object has none. -/
theorem verifyPacket_returns_iff {packet : EvidencePacket} (now : Moment) :
    (∃ v, verifyPacket packet now = .ok v) ↔ Verifiable packet := by
  unfold verifyPacket
  split
  · next hunsigned => exact iff_of_true ⟨_, rfl⟩ (Or.inl hunsigned)
  · next hsigned =>
      rw [← contentIntact_returns_iff hsigned]
      cases contentIntact packet with
      | error e => exact iff_of_false (by rintro ⟨_, ⟨⟩⟩) (by rintro ⟨_, ⟨⟩⟩)
      | ok intact =>
          refine iff_of_true ?_ ⟨intact, rfl⟩
          dsimp only [bind, Except.bind]
          split
          · exact ⟨_, rfl⟩
          · split
            · exact ⟨_, rfl⟩
            · cases expiredAt packet now with
              | none => exact ⟨_, rfl⟩
              | some expires => exact ⟨_, rfl⟩

/-- The evidence of a row is missing or has a verdict. -/
def Reviewable (g : Governance) (row : TrustVerification) : Prop :=
  falsy row.evidencePacketId ∨
    ∀ packet, getPacket g (row.evidencePacketId.getD "") row.tenantId = some packet →
      Verifiable packet

theorem evidenceAt_returns_iff {g : Governance} {row : TrustVerification} (now : Moment) :
    (∃ ev, evidenceAt g row now = .ok ev) ↔ Reviewable g row := by
  unfold evidenceAt Reviewable
  split
  · next hfalsy => exact iff_of_true ⟨_, rfl⟩ (Or.inl hfalsy)
  · next hid =>
      cases getPacket g (row.evidencePacketId.getD "") row.tenantId with
      | none => exact iff_of_true ⟨_, rfl⟩ (Or.inr (by rintro _ ⟨⟩))
      | some packet =>
          have hpacket : (∃ ev, (verifyPacket packet now).map Evidence.verified = .ok ev) ↔
              Verifiable packet := by
            rw [← verifyPacket_returns_iff now]
            cases verifyPacket packet now with
            | error e => exact iff_of_false (by rintro ⟨_, ⟨⟩⟩) (by rintro ⟨_, ⟨⟩⟩)
            | ok v => exact iff_of_true ⟨_, rfl⟩ ⟨v, rfl⟩
          simp [hpacket, hid]

variable {S S' : Store} {trace : List StoreEvent}
  {adm : (q : StoreCall) → StoreReply q → Store → Prop}

/-- A row as the review leaves it. -/
def Decided (g : Governance) (id : String) : Prop :=
  ∃ row, g.verifications.find? id = some row ∧
    (row.status = "under_review" ∨ row.status = "rejected")

omit [Deployment] [Python] [Ed25519] in
theorem quiet_reread {id action : String} {actor : Option String}
    {fields : TrustVerification → Dict} [Deployment] :
    Quiet ((reloadVerification id).bind fun row =>
      (audit action row actor (fields row)).bind fun _ => .pure row) :=
  ((quiet_peek _).bind fun _ => quiet_foundAgain _).bind fun _ =>
    (quiet_recordEvent _).bind fun _ => trivial

omit [Python] [Ed25519] in
/-- A transition whose commit is stored has moved the row, whatever becomes of its audit
event. -/
theorem runs_stored_transition {action : String} {row new : TrustVerification}
    {actor : Option String} {fields : TrustVerification → Dict}
    {result : Except PyErr TrustVerification}
    (h : Prog.Runs adm (transition action row new actor fields) S trace result S')
    (hrow : S.governance.verifications.find? row.id = some row)
    (hcommits : ∀ change (r : DbReply), (⟨.commit change, r⟩ : StoreEvent) ∈ trace →
      r.failure = none) :
    S'.governance.verifications.find? row.id = some (row.updated new row) := by
  unfold transition at h
  obtain ⟨r, rest, rfl, hdone⟩ := runs_commitChange_bind h
  rcases hdone with ⟨_, g, happly, hrest⟩ | ⟨hrefused, _⟩
  · cases happly
    have hsame := (Quiet.run quiet_reread hrest).1
    have hmoved : (S.governance.verifications.modify row.id (row.updated new)).find? row.id =
        some (row.updated new row) :=
      Table.find?_modify_self hrow
    rw [hsame]
    exact hmoved
  · rcases hrefused with hfailure | hnone
    · exact absurd (hcommits _ r List.mem_cons_self) hfailure
    · cases hnone

/-- A packet has a verdict exactly if it is verifiable, whatever the time is. A review of a
requested verification whose commits are stored decides it, as under review or rejected, exactly
if the packet it names is missing or has a verdict. -/
theorem review_decided_iff :
    (∀ (packet : EvidencePacket) (now : Moment),
      (∃ v, verifyPacket packet now = .ok v) ↔ Verifiable packet) ∧
    ∀ {id : String} {tenantId reviewedBy notes : Option String} {row : TrustVerification}
      {result : Except PyErr (TrustVerification × Evidence)},
      Prog.Runs adm (reviewVerification id tenantId reviewedBy notes) S trace result S' →
      getVerification S.governance id tenantId = some row → row.status = "requested" →
      (∀ change (r : DbReply), (⟨.commit change, r⟩ : StoreEvent) ∈ trace →
        r.failure = none) →
      (Decided S'.governance id ↔ Reviewable S.governance row) := by
  refine ⟨fun packet now => verifyPacket_returns_iff now, ?_⟩
  intro id tenantId reviewedBy notes row result h hrow hstatus hcommits
  have hfind := (Option.filter_eq_some_iff.mp hrow).1
  have hid := Table.key_of_find? hfind
  unfold reviewVerification inStatus at h
  rw [Prog.bind_eq, Prog.bind_eq, Prog.bind_assoc] at h
  obtain ⟨rest, rfl, hcheck⟩ := runs_peek_bind h
  rw [hrow] at hcheck
  dsimp only at hcheck
  rw [if_neg (not_not.mpr hstatus), Prog.pure_eq, Prog.pure_bind] at hcheck
  rcases Prog.runs_bind hcheck with ⟨ev, S₁, first, later, hevidence, hlater, rfl⟩ |
      ⟨e, hevidence, rfl⟩
  · obtain ⟨rfl, hverdict⟩ := runs_evidence hevidence
    obtain ⟨now, rest', rfl, hchange⟩ := runs_readClock_bind hlater
    have hreviewable : Reviewable S₁.governance row := by
      rcases hverdict with ⟨_, hat⟩ | ⟨now, _, hat⟩
      · exact (evidenceAt_returns_iff _).mp ⟨_, hat now⟩
      · exact (evidenceAt_returns_iff _).mp ⟨_, hat.symm⟩
    refine iff_of_true ?_ hreviewable
    rw [Prog.bind_eq] at hchange
    have hstored : S'.governance.verifications.find? row.id =
        some (row.updated (reviewed row ev reviewedBy notes now) row) := by
      rcases Prog.runs_bind hchange with ⟨row', S₂, _, _, htransition, hlast, rfl⟩ |
          ⟨e, htransition, _⟩
      · obtain ⟨_, _, rfl⟩ := Prog.runs_pure hlast
        refine runs_stored_transition htransition (by rw [hid]; exact hfind) ?_
        intro change r hmem
        exact hcommits change r (by simp [hmem])
      · refine runs_stored_transition htransition (by rw [hid]; exact hfind) ?_
        intro change r hmem
        exact hcommits change r (by simp [hmem])
    rw [hid, updated_self rfl] at hstored
    refine ⟨_, hstored, ?_⟩
    by_cases hvalid : ev.status = "valid"
    · exact Or.inl (if_pos hvalid)
    · exact Or.inr (if_neg hvalid)
  · obtain ⟨rfl, hverdict⟩ := runs_evidence hevidence
    refine iff_of_false ?_ ?_
    · rintro ⟨row', hrow', hdecided⟩
      obtain rfl : row = row' := Option.some.inj (hfind.symm.trans hrow')
      rw [hstatus] at hdecided
      revert hdecided
      decide
    · intro hreviewable
      rcases hverdict with ⟨hmissing, _⟩ | ⟨now, _, hat⟩
      · cases hmissing
      · obtain ⟨ev, hev⟩ := (evidenceAt_returns_iff now).mpr hreviewable
        rw [← hat] at hev
        cases hev

end

section Sample

local instance instRefusedDeployment : Deployment := .sqlite
local instance instRefusedPython : Python := plainPython
local instance instRefusedKey : Ed25519 := keyPair ""

/-- The message a call is refused with. -/
def refusal : Except PyErr (TrustVerification × Scored) → Option String
  | .error (.valueError message) => some message
  | _ => none

theorem eq_of_refusal {result : Except PyErr (TrustVerification × Scored)} {message : String}
    (h : refusal result = some message) : result = .error (.valueError message) := by
  unfold refusal at h
  split at h
  · rw [Option.some.inj h]
  · cases h

/-- Both calls of the operator are refused; the second has left a score. -/
theorem operator_calls_refused :
    (refusal (approvedBy none none).2.1).isSome ∧
      (refusal (approvedBy none (some "p1")).2.1).isSome ∧
      (approvedBy none (some "p1")).2.2.governance.scores.rows.length ≠
        (withAwaiting (some "p1")).governance.scores.rows.length := by
  decide +kernel

/-- A row without a packet is refused for its evidence, which leaves no trace. -/
theorem missing_evidence_traceless :
    (approvedBy none none).2.2 = withAwaiting none ∧
      ∃ message, (approvedBy none none).2.1 = .error (.valueError message) := by
  obtain ⟨message, hmessage⟩ := Option.isSome_iff_exists.mp operator_calls_refused.1
  have hresult := eq_of_refusal hmessage
  have hrun := approval_runs none none (by simp) (by simp)
  rw [hresult] at hrun
  refine ⟨(refused_approval_traceless_iff hrun).mpr ?_, _, hresult⟩
  rintro ⟨now, _, row, score, hrow, _, ⟨ev, hevidence, hvalid⟩, _⟩
  obtain rfl : awaiting none = row := Option.some.inj hrow
  obtain rfl : Evidence.missing = ev := Except.ok.inj hevidence
  revert hvalid
  decide

/-- The operator's refused call has stored one more score of the subject. -/
theorem low_score_stored : ¬∀ (S S' : Store) (id message : String)
    (tenantId approvedBy : Option String) (trace : List StoreEvent),
    Prog.Runs (healthy sampleMoment) (approveVerification {} id tenantId approvedBy) S trace
      (.error (.valueError message)) S' → S' = S := by
  intro hclaim
  obtain ⟨_, hrefused, hstored⟩ := operator_calls_refused
  have hrun := approval_runs none (some "p1") (by simp) (by simp)
  obtain ⟨message, hmessage⟩ := Option.isSome_iff_exists.mp hrefused
  have hresult := eq_of_refusal hmessage
  rw [hresult] at hrun
  have hsame := hclaim _ _ _ _ _ _ _ hrun
  apply hstored
  rw [hsame]

/-- The sample row as it was requested, with its packet holding another export. -/
def withRequested (content : String) : Store :=
  { ({} : Store) with governance :=
    { ({} : Governance) with
      packets := .single { signedPacket with jsonExport := some content }
      verifications := .single { awaiting (some "p1") with status := "requested" } } }

/-- Commits of the governance tables are stored. -/
def storing : (q : StoreCall) → StoreReply q → Store → Prop
  | .commit _, r, _ => DbReply.failure r = none
  | _, _, _ => True

theorem storing_packetAnswers (n : Nat) (q : StoreCall) (S : Store) :
    storing q (packetAnswers n q) S := by
  cases q with
  | clock => trivial
  | select => trivial
  | commit change => rfl
  | pipeline call => trivial

/-- The review of the sample. -/
def sampleReview (content : String) :
    List StoreEvent × Except PyErr (TrustVerification × Evidence) × Store :=
  (reviewVerification "v1" (some "t1") none none).exec packetAnswers 0 (withRequested content)

theorem sampleReview_runs (content : String) :
    Prog.Runs storing (reviewVerification "v1" (some "t1") none none) (withRequested content)
      (sampleReview content).1 (sampleReview content).2.1 (sampleReview content).2.2 :=
  Prog.runs_exec storing_packetAnswers _ _ _

theorem sampleReview_stored (content : String) (change : GovernanceChange) (r : DbReply)
    (hmem : (⟨.commit change, r⟩ : StoreEvent) ∈ (sampleReview content).1) :
    r.failure = none := by
  obtain ⟨_, hstored⟩ := (sampleReview_runs content).admitted _ hmem
  exact hstored

/-- The two exports: a text that is no JSON is not loaded; a list is, it has no verdict, and the
review leaves the row as it was. -/
theorem exports_reviewed :
    (Value.loads "not json" : Option PyValue) = none ∧
      (verifyPacket { signedPacket with jsonExport := some "[]" }
        sampleMoment).toOption.isNone ∧
      ((sampleReview "[]").2.2.governance.verifications.find? "v1").map
        TrustVerification.status = some "requested" := by
  decide +kernel

/-- An export that is no JSON is rejected. -/
theorem broken_export_decided : Decided (sampleReview "not json").2.2.governance "v1" := by
  apply (review_decided_iff.2 (sampleReview_runs "not json") rfl rfl
    (sampleReview_stored "not json")).mpr
  right
  intro packet hpacket
  obtain rfl : { signedPacket with jsonExport := some "not json" } = packet :=
    Option.some.inj hpacket
  right; right; right; left
  exact exports_reviewed.1

/-- A list has no items, and the row stays requested. -/
theorem list_export_undecided :
    (¬∀ (packet : EvidencePacket) (now : Moment), ∃ v, verifyPacket packet now = .ok v) ∧
      ¬∀ (S S' : Store) (trace : List StoreEvent) (id : String)
        (tenantId reviewedBy notes : Option String) (row : TrustVerification)
        (result : Except PyErr (TrustVerification × Evidence)),
        Prog.Runs storing (reviewVerification id tenantId reviewedBy notes) S trace result S' →
        getVerification S.governance id tenantId = some row → row.status = "requested" →
        Decided S'.governance id := by
  constructor
  · intro hclaim
    obtain ⟨v, hv⟩ := hclaim { signedPacket with jsonExport := some "[]" } sampleMoment
    obtain ⟨_, hraises, _⟩ := exports_reviewed
    rw [hv] at hraises
    cases hraises
  · intro hclaim
    obtain ⟨row, hrow, hdecided⟩ := hclaim _ _ _ _ _ _ _ _ _ (sampleReview_runs "[]") rfl rfl
    obtain ⟨_, _, hrequested⟩ := exports_reviewed
    rw [hrow, Option.map_some, Option.some.injEq] at hrequested
    rw [hrequested] at hdecided
    revert hdecided
    decide

end Sample

end VerificationService

end ControlPlane
