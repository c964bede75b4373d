import ControlPlane.Audit.Chain

/-!
`_canonical_payload` as a function of its fifteen arguments, where `created_at` may be
missing. The payload of a row is this function at the columns of the row.
-/

namespace ControlPlane.AuditService

open Lib

/-- The arguments of `_canonical_payload`. -/
structure PayloadArguments where
  seq : Option Int
  action : String
  resourceType : String
  resourceId : String
  tenantId : Option String
  actor : Option String
  actorUserId : Option String
  actorType : Option String
  actionType : Option String
  policyVersion : Option String
  decision : Option String
  reason : Option String
  metadataJson : Option String
  createdAt : Option Datetime
  previousHash : String
  deriving DecidableEq

namespace PayloadArguments

def fields (a : PayloadArguments) (createdAt : Option String) : Dict :=
  [("seq", (a.seq.map Json.num).getD .null),
    ("action", .str a.action),
    ("resource_type", .str a.resourceType),
    ("resource_id", .str a.resourceId),
    ("tenant_id", .ofOption a.tenantId),
    ("actor", .ofOption a.actor),
    ("actor_user_id", .ofOption a.actorUserId),
    ("actor_type", .ofOption a.actorType),
    ("action_type", .ofOption a.actionType),
    ("policy_version", .ofOption a.policyVersion),
    ("decision", .ofOption a.decision),
    ("reason", .ofOption a.reason),
    ("metadata_json", .ofOption a.metadataJson),
    ("created_at", .ofOption createdAt),
    ("previous_hash", .str a.previousHash)]

def canonicalPayload (a : PayloadArguments) : Except PyErr String := do
  let createdAt ← iso a.createdAt
  return (Json.obj (a.fields createdAt)).dumps true .compact

/-- Equal arguments, with `created_at` compared as an instant. -/
def Denotes (a b : PayloadArguments) : Prop :=
  { a with createdAt := none } = { b with createdAt := none } ∧
    a.createdAt.map Datetime.instant = b.createdAt.map Datetime.instant

theorem fields_keys (a b : PayloadArguments) (createdAt createdAt' : Option String) :
    (a.fields createdAt).map Prod.fst = (b.fields createdAt').map Prod.fst := rfl

theorem fields_nodup (a : PayloadArguments) (createdAt : Option String) :
    ((a.fields createdAt).map Prod.fst).Nodup := by
  simp [fields]

theorem canonicalPayload_eq_ok {a : PayloadArguments} {payload : String}
    (h : a.canonicalPayload = .ok payload) :
    ∃ createdAt, iso a.createdAt = .ok createdAt ∧
      (Json.obj (a.fields createdAt)).dumps true .compact = payload := by
  unfold canonicalPayload at h
  cases hiso : iso a.createdAt with
  | error e =>
      rw [hiso] at h
      cases h
  | ok createdAt =>
      rw [hiso] at h
      exact ⟨createdAt, rfl, Except.ok.inj h⟩

/-- Two timestamps with one text denote one instant; no text stands for a missing one. -/
theorem iso_inj {d e : Option Datetime} {text : Option String} (hd : iso d = .ok text)
    (he : iso e = .ok text) : d.map Datetime.instant = e.map Datetime.instant := by
  cases d with
  | none =>
      cases hd
      cases e with
      | none => rfl
      | some e =>
          obtain ⟨_, _, hnone⟩ := iso_eq_ok.mp he
          cases hnone
  | some d =>
      obtain ⟨t, ht, rfl⟩ := iso_eq_ok.mp hd
      cases e with
      | none => cases he
      | some e =>
          obtain ⟨t', ht', heq⟩ := iso_eq_ok.mp he
          cases heq
          exact congrArg some (Datetime.instant_of_utcText ht ht')

theorem iso_congr {d e : Option Datetime}
    (h : d.map Datetime.instant = e.map Datetime.instant) : iso d = iso e := by
  cases d with
  | none =>
      cases e with
      | none => rfl
      | some e => cases h
  | some d =>
      cases e with
      | none => cases h
      | some e =>
          have htext : d.utcText = e.utcText := Datetime.utcText_congr (Option.some.inj h)
          simp only [iso, htext]

theorem fields_inj {a b : PayloadArguments} {createdAt createdAt' : Option String}
    (h : (Json.obj (a.fields createdAt)).dumps true .compact =
      (Json.obj (b.fields createdAt')).dumps true .compact) :
    { a with createdAt := none } = { b with createdAt := none } ∧ createdAt = createdAt' := by
  have hfields := Json.dumps_obj_inj (fields_keys a b _ _) (fields_nodup a _) h
  simp only [fields, Json.sortFields, List.cons.injEq, Prod.mk.injEq, true_and, and_true,
    Json.sortKeys_ofOption, Json.sortKeys_str, Json.str.injEq] at hfields
  obtain ⟨hseq, haction, htype, hid, htenant, hactor, huser, hactorType,
    hactionType, hpolicy, hdecision, hreason, hmetadata, hcreated, hprevious⟩ :=
    hfields
  refine ⟨?_, Json.ofOption_inj hcreated⟩
  rw [PayloadArguments.mk.injEq]
  exact ⟨seq_inj hseq, haction, htype, hid, Json.ofOption_inj htenant,
    Json.ofOption_inj hactor, Json.ofOption_inj huser, Json.ofOption_inj hactorType,
    Json.ofOption_inj hactionType, Json.ofOption_inj hpolicy, Json.ofOption_inj hdecision,
    Json.ofOption_inj hreason, Json.ofOption_inj hmetadata, rfl, hprevious⟩

theorem fields_congr {a b : PayloadArguments} (createdAt : Option String)
    (h : { a with createdAt := none } = { b with createdAt := none }) :
    a.fields createdAt = b.fields createdAt := by
  rw [PayloadArguments.mk.injEq] at h
  obtain ⟨hseq, haction, htype, hid, htenant, hactor, huser, hactorType,
    hactionType, hpolicy, hdecision, hreason, hmetadata, _, hprevious⟩ := h
  simp only [fields, hseq, haction, htype, hid, htenant, hactor, huser, hactorType, hactionType,
    hpolicy, hdecision, hreason, hmetadata, hprevious]

end PayloadArguments

/-- The arguments that `compute_event_hash` takes from a row. -/
def payloadArguments (row : AuditEvent) (previousHash : String) : PayloadArguments where
  seq := row.seq
  action := row.action
  resourceType := row.resourceType
  resourceId := row.resourceId
  tenantId := row.tenantId
  actor := row.actor
  actorUserId := row.actorUserId
  actorType := row.actorType
  actionType := row.actionType
  policyVersion := row.policyVersion
  decision := row.decision
  reason := row.reason
  metadataJson := row.metadataJson
  createdAt := some row.createdAt
  previousHash := previousHash

theorem canonicalPayload_row (row : AuditEvent) (previousHash : String) :
    canonicalPayload row (some previousHash) =
      (payloadArguments row previousHash).canonicalPayload := rfl

/-- The payload determines its arguments, with `created_at` as an instant, and depends on
nothing else: not on the offset a timestamp is written with, nor on a missing one. -/
theorem canonical_payload_injective (a b : PayloadArguments) :
    (∀ payload, a.canonicalPayload = .ok payload → b.canonicalPayload = .ok payload →
      a.Denotes b) ∧
    (a.Denotes b → a.canonicalPayload = b.canonicalPayload) ∧
    (∀ row previousHash, canonicalPayload row (some previousHash) =
      (payloadArguments row previousHash).canonicalPayload) := by
  refine ⟨?_, ?_, canonicalPayload_row⟩
  · intro payload ha hb
    obtain ⟨createdAt, hiso, hdump⟩ := PayloadArguments.canonicalPayload_eq_ok ha
    obtain ⟨createdAt', hiso', hdump'⟩ := PayloadArguments.canonicalPayload_eq_ok hb
    obtain ⟨hsame, rfl⟩ := PayloadArguments.fields_inj (hdump.trans hdump'.symm)
    exact ⟨hsame, PayloadArguments.iso_inj hiso hiso'⟩
  · rintro ⟨hsame, hinstant⟩
    unfold PayloadArguments.canonicalPayload
    rw [PayloadArguments.iso_congr hinstant]
    simp only [PayloadArguments.fields_congr _ hsame]

end ControlPlane.AuditService
