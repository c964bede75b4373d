import ControlPlane.Services.AuditService

/-!
The audit chain as a linked sequence. `verify_chain` reports `verified` exactly
for the chains of `ControlPlane.Lib.Chain` that start at the genesis hash, and
the canonical payload determines every field it is computed from.
-/

namespace ControlPlane.AuditService

open Lib

/-- The fields bound by an event's hash, with `created_at` as an instant. -/
structure HashBound where
  seq : Option Int
  action : String
  resourceType : String
  resourceId : String
  tenantId : Option String
  actor : Option String
  actorUserId : Option String
  actorType : Option String
  actionType : Option String
  policyVersion : Option String
  decision : Option String
  reason : Option String
  metadataJson : Option String
  createdAt : Int
  previousHash : Option String
  deriving DecidableEq

def hashBound (row : AuditEvent) (previousHash : Option String) : HashBound where
  seq := row.seq
  action := row.action
  resourceType := row.resourceType
  resourceId := row.resourceId
  tenantId := row.tenantId
  actor := row.actor
  actorUserId := row.actorUserId
  actorType := row.actorType
  actionType := row.actionType
  policyVersion := row.policyVersion
  decision := row.decision
  reason := row.reason
  metadataJson := row.metadataJson
  createdAt := row.createdAt.instant
  previousHash := previousHash

theorem iso_eq_ok {value : Datetime} {result : Option String} :
    iso (some value) = .ok result ↔
      ∃ text, value.utcText = some text ∧ some text = result := by
  simp only [iso]
  cases value.utcText <;> simp

theorem canonicalPayload_eq_ok {row : AuditEvent} {previousHash : Option String}
    {payload : String} : canonicalPayload row previousHash = .ok payload ↔
      ∃ text, row.createdAt.utcText = some text ∧
        (Json.obj (payloadFields row (some text) previousHash)).dumps true
          .compact = payload := by
  unfold canonicalPayload
  cases hiso : iso (some row.createdAt) with
  | error e =>
      simp only [bind, Except.bind, reduceCtorEq, false_iff]
      rintro ⟨text, htext, _⟩
      rw [iso_eq_ok.mpr ⟨text, htext, rfl⟩] at hiso
      cases hiso
  | ok result =>
      obtain ⟨text, htext, rfl⟩ := iso_eq_ok.mp hiso
      simp [bind, Except.bind, pure, Except.pure, htext]

/-- The keys of the payload, which do not depend on the row. -/
theorem payloadFields_keys (row row' : AuditEvent)
    (createdAt createdAt' previousHash previousHash' : Option String) :
    (payloadFields row createdAt previousHash).map Prod.fst =
      (payloadFields row' createdAt' previousHash').map Prod.fst := rfl

theorem payloadFields_nodup (row : AuditEvent)
    (createdAt previousHash : Option String) :
    ((payloadFields row createdAt previousHash).map Prod.fst).Nodup := by
  simp [payloadFields]

theorem seq_inj {a b : Option Int}
    (h : ((a.map Json.num).getD .null).sortKeys =
      ((b.map Json.num).getD .null).sortKeys) : a = b := by
  cases a <;> cases b <;> simp at h <;> simp [h]

/-- Two payloads with the same text agree on every bound field. -/
theorem canonicalPayload_inj {row row' : AuditEvent}
    {previousHash previousHash' : Option String} {payload : String}
    (h : canonicalPayload row previousHash = .ok payload)
    (h' : canonicalPayload row' previousHash' = .ok payload) :
    hashBound row previousHash = hashBound row' previousHash' := by
  obtain ⟨text, htext, hdump⟩ := canonicalPayload_eq_ok.mp h
  obtain ⟨text', htext', hdump'⟩ := canonicalPayload_eq_ok.mp h'
  have hfields := Json.dumps_obj_inj (payloadFields_keys _ _ _ _ _ _)
    (payloadFields_nodup _ _ _) (hdump.trans hdump'.symm)
  simp only [payloadFields, Json.sortFields, List.cons.injEq, Prod.mk.injEq, true_and, and_true,
    Json.sortKeys_ofOption, Json.sortKeys_str, Json.str.injEq] at hfields
  obtain ⟨hseq, haction, htype, hid, htenant, hactor, huser, hactorType,
    hactionType, hpolicy, hdecision, hreason, hmetadata, hcreated, hprevious⟩ :=
    hfields
  have hinstant : row.createdAt.instant = row'.createdAt.instant := by
    cases Json.ofOption_inj hcreated
    exact Datetime.instant_of_utcText htext htext'
  simp only [hashBound, HashBound.mk.injEq]
  exact ⟨seq_inj hseq, haction, htype, hid, Json.ofOption_inj htenant,
    Json.ofOption_inj hactor, Json.ofOption_inj huser,
    Json.ofOption_inj hactorType, Json.ofOption_inj hactionType,
    Json.ofOption_inj hpolicy, Json.ofOption_inj hdecision,
    Json.ofOption_inj hreason, Json.ofOption_inj hmetadata, hinstant,
    Json.ofOption_inj hprevious⟩

/-- The payload depends on the bound fields only: not on the id, the stored
hash, or the offset `created_at` is stored with. -/
theorem canonicalPayload_congr {row row' : AuditEvent}
    {previousHash : Option String}
    (h : hashBound row previousHash = hashBound row' previousHash) :
    canonicalPayload row previousHash = canonicalPayload row' previousHash := by
  simp only [hashBound, HashBound.mk.injEq] at h
  obtain ⟨hseq, haction, htype, hid, htenant, hactor, huser, hactorType,
    hactionType, hpolicy, hdecision, hreason, hmetadata, hcreated, _⟩ := h
  simp only [canonicalPayload, payloadFields, iso, hseq, haction, htype, hid,
    htenant, hactor, huser, hactorType, hactionType, hpolicy, hdecision,
    hreason, hmetadata, Datetime.utcText_congr hcreated]

/-- One link: the row names the head `p`, and carries its own hash `q`. -/
def Link [Deployment] (p : String) (row : AuditEvent) (q : String) : Prop :=
  row.previousHash = some p ∧ computeEventHash row (some p) = .ok q ∧
    row.eventHash = some q

section

variable [Deployment]

theorem computeEventHash_eq_ok {row : AuditEvent} {previousHash : Option String}
    {hash : String} : computeEventHash row previousHash = .ok hash ↔
      ∃ payload, canonicalPayload row previousHash = .ok payload ∧
        Deployment.sha256 payload = hash := by
  unfold computeEventHash
  cases canonicalPayload row previousHash with
  | error e => simp [bind, Except.bind]
  | ok payload => simp [bind, Except.bind, pure, Except.pure]

/-- Hashing does not fail: the clock reads in UTC. -/
theorem link_ok (e : NewEvent) (head : Option AuditEvent) (now : Moment) :
    ∃ hash, e.link head now = .ok { e.row head now with eventHash := some hash } := by
  obtain ⟨text, htext⟩ := Datetime.utcText_utc now
  have hcreated : (e.row head now).createdAt.utcText = some text := htext
  have hpayload : canonicalPayload (e.row head now) (previousHash head) = .ok _ :=
    canonicalPayload_eq_ok.mpr ⟨text, hcreated, rfl⟩
  obtain ⟨hash, hhash⟩ : ∃ hash,
      computeEventHash (e.row head now) (previousHash head) = .ok hash :=
    ⟨_, computeEventHash_eq_ok.mpr ⟨_, hpayload, rfl⟩⟩
  refine ⟨hash, ?_⟩
  rw [NewEvent.link, hhash]
  rfl

/-- What `verify_chain` returns for an intact chain of `n` rows. -/
def verifiedResult (n : Nat) : ChainVerificationResult where
  status := .verified
  verifiedCount := n
  totalCount := n

/-- The loop reports `verified` exactly when the rows are linked, and then with
full counts. -/
theorem verifyFrom_verified_iff {p : String} {index total : Nat}
    {rows : List AuditEvent} {result : ChainVerificationResult} :
    verifyFrom (some p) index total rows = .ok result ∧
        result.status = .verified ↔
      (∃ q, Chain Link p rows q) ∧ result = verifiedResult total := by
  induction rows generalizing p index with
  | nil =>
      simp only [verifyFrom, Except.ok.injEq, Chain.nil_iff, exists_eq', true_and,
        verifiedResult]
      constructor
      · rintro ⟨rfl, _⟩
        rfl
      · rintro rfl
        exact ⟨rfl, rfl⟩
  | cons row rest ih =>
      by_cases hprevious : row.previousHash = some p
      · cases hhash : computeEventHash row (some p) with
        | error e =>
            simp [verifyFrom, hprevious, hhash, bind, Except.bind, Link]
        | ok hash =>
            by_cases hevent : row.eventHash = some hash
            · have hlink : ∀ m, Link p row m ↔ hash = m := by
                intro m
                simp [Link, hprevious, hhash, hevent]
              have hloop : verifyFrom (some p) index total (row :: rest) =
                  verifyFrom (some hash) (index + 1) total rest := by
                simp [verifyFrom, hprevious, hhash, hevent, bind, Except.bind]
              rw [hloop, ih]
              simp [hlink]
            · have hnone : ∀ m, ¬ Link p row m := by
                rintro m ⟨_, hm, hm'⟩
                cases hhash.symm.trans hm
                exact hevent hm'
              have hne : some hash ≠ row.eventHash := fun h => hevent h.symm
              simp only [verifyFrom, hprevious, hhash, bind, Except.bind, hne,
                ne_eq, not_true_eq_false, not_false_eq_true, if_true, if_false,
                Except.ok.injEq, Chain.cons_iff, hnone, false_and, exists_false,
                iff_false]
              rintro ⟨rfl, hstatus⟩
              cases hstatus
      · have hnone : ∀ m, ¬ Link p row m := fun m h => hprevious h.1
        simp only [verifyFrom, ne_eq, hprevious, not_false_eq_true, if_true,
          Except.ok.injEq, Chain.cons_iff, hnone, false_and, exists_false,
          iff_false]
        rintro ⟨rfl, hstatus⟩
        cases hstatus

theorem verifyChain_verified_iff {rows : List AuditEvent}
    {result : ChainVerificationResult} :
    verifyChain rows = .ok result ∧ result.status = .verified ↔
      orderedChain rows ≠ [] ∧
        (∃ q, Chain Link genesisHash (orderedChain rows) q) ∧
          result = verifiedResult (orderedChain rows).length := by
  unfold verifyChain
  cases hrows : orderedChain rows with
  | nil =>
      simp only [List.isEmpty_nil, if_true, Except.ok.injEq, ne_eq,
        not_true_eq_false, false_and, iff_false]
      rintro ⟨rfl, hstatus⟩
      cases hstatus
  | cons row rest =>
      simp only [List.isEmpty_cons, Bool.false_eq_true, if_false, ne_eq,
        reduceCtorEq, not_false_eq_true, true_and]
      exact verifyFrom_verified_iff

/-- The head of a linked chain is the hash stored in its last row. -/
theorem head_eq_last_hash {p q : String} {rows : List AuditEvent}
    {row : AuditEvent} (h : Chain Link p rows q)
    (hlast : rows.getLast? = some row) : row.eventHash = some q := by
  obtain ⟨init, rfl⟩ := List.getLast?_eq_some_iff.mp hlast
  obtain ⟨m, _, _, _, hhash⟩ := Chain.concat_iff.mp h
  exact hhash

end

section Sample

/-- The first event of a small chain. -/
def sampleCreated : AuditEvent where
  id := "e1"
  action := AuditAction.approvalCreated
  resourceType := "approval"
  resourceId := "a1"
  tenantId := none
  actor := none
  actorUserId := none
  actorType := none
  actionType := none
  policyVersion := none
  decision := none
  reason := none
  metadataJson :=
    some "\x7b\"kind\": \"job.gate\", \"source_job_id\": \"j1\"\x7d"
  seq := some 1
  previousHash := some genesisHash
  eventHash := some
    "a962ada6a22afd795a3afb936c959890ac43c5d9c9f824a067f42bea45cb7fa4"
  createdAt := Datetime.naive (.utc
    ⟨739621, 34200000000, by decide, by decide, by decide⟩)

/-- The event after it. -/
def sampleApproved : AuditEvent where
  id := "e2"
  action := AuditAction.approvalApproved
  resourceType := "approval"
  resourceId := "a1"
  tenantId := none
  actor := some "ops"
  actorUserId := none
  actorType := none
  actionType := none
  policyVersion := none
  decision := none
  reason := none
  metadataJson := some "\x7b\"note\": null\x7d"
  seq := some 2
  previousHash := sampleCreated.eventHash
  eventHash := some
    "370b68e63c1bbedd2d88742de97d178c5c24f2a3b3bc8f1193e342a2cc2122da"
  createdAt := Datetime.naive (.utc
    ⟨739621, 34260250000, by decide, by decide, by decide⟩)

def sampleCreatedText : String :=
  (Json.obj (payloadFields sampleCreated (some "2026-01-05T09:30:00+00:00")
    sampleCreated.previousHash)).dumps true .compact

def sampleApprovedText : String :=
  (Json.obj (payloadFields sampleApproved
    (some "2026-01-05T09:31:00.250000+00:00")
    sampleApproved.previousHash)).dumps true .compact

local instance instSampleChain : Deployment := .sqlite

theorem sampleCreated_time :
    sampleCreated.createdAt.utcText = some "2026-01-05T09:30:00+00:00" := by
  decide +kernel

theorem sampleCreated_payload (id : String) :
    canonicalPayload { sampleCreated with id := id }
      sampleCreated.previousHash = .ok sampleCreatedText :=
  canonicalPayload_eq_ok.mpr ⟨_, sampleCreated_time, rfl⟩

theorem sampleApproved_payload :
    canonicalPayload sampleApproved sampleApproved.previousHash =
      .ok sampleApprovedText :=
  canonicalPayload_eq_ok.mpr ⟨_, by decide +kernel, rfl⟩

theorem sampleCreated_digest : Sha256.hexdigest sampleCreatedText =
    "a962ada6a22afd795a3afb936c959890ac43c5d9c9f824a067f42bea45cb7fa4" := by
  decide +kernel

theorem sampleApproved_digest : Sha256.hexdigest sampleApprovedText =
    "370b68e63c1bbedd2d88742de97d178c5c24f2a3b3bc8f1193e342a2cc2122da" := by
  decide +kernel

theorem sampleCreated_link (id : String) :
    Link genesisHash { sampleCreated with id := id }
    "a962ada6a22afd795a3afb936c959890ac43c5d9c9f824a067f42bea45cb7fa4" := by
  exact ⟨rfl, computeEventHash_eq_ok.mpr
    ⟨_, sampleCreated_payload id, sampleCreated_digest⟩, rfl⟩

theorem sampleApproved_link : Link
    "a962ada6a22afd795a3afb936c959890ac43c5d9c9f824a067f42bea45cb7fa4"
    sampleApproved
    "370b68e63c1bbedd2d88742de97d178c5c24f2a3b3bc8f1193e342a2cc2122da" := by
  exact ⟨rfl, computeEventHash_eq_ok.mpr
    ⟨_, sampleApproved_payload, sampleApproved_digest⟩, rfl⟩

end Sample

end ControlPlane.AuditService
