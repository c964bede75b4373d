import ControlPlane.App.Config
import ControlPlane.Db.StoreSession
import ControlPlane.Lib.Hex
import ControlPlane.Services.PacketExport
import ControlPlane.Services.Reads

/-!
`services/evidence_store.py` and `services/evidence_signature_service.py`: the
hash of a packet, its signature, and the rows they are stored in. The two modules
use each other.

The signing key is the deployment's. Its algorithm is a parameter: what is used
is that a signature is 64 bytes long and verifies for the message it was made
for.
-/

namespace ControlPlane

open Lib

/-- The configured Ed25519 key pair. -/
class Ed25519 where
  /-- `_private_key().sign(payload.encode("utf-8"))`. -/
  sign : String → List UInt8
  /-- `_public_key().verify(signature, payload.encode("utf-8"))` does not raise. -/
  verify : List UInt8 → String → Bool
  publicKeyHex : String
  sign_length : ∀ payload, (sign payload).length = 64
  verify_sign : ∀ payload, verify (sign payload) payload = true

namespace EvidenceStore

variable [Deployment] [Python]

/-- `{k: v for k, v in packet.items() if k != "generated_at"}`. -/
def core (packet : PyDict) : PyDict :=
  packet.filter fun f => f.1 ≠ Text.ofString "generated_at"

def computePacketHash (packet : PyDict) : String :=
  Deployment.sha256 (Value.canonical (.dict (core packet)))

end EvidenceStore

namespace EvidenceSignature

open EvidenceStore

def algorithm : String := "Ed25519"

/-- `str(value)` inside an f-string. -/
def optionText (value : Option String) : String := value.getD "None"

def versionText (version : Option Int) : String :=
  optionText (version.map fun n => String.ofList (Json.writeInt n))

/-- `f"{packet_id}:{version}:{packet_hash}"`. -/
def signingPayload (packetId : String) (version : Option Int)
    (packetHash : Option String) : String :=
  packetId ++ ":" ++ versionText version ++ ":" ++ optionText packetHash

def numOrNull (n : Option Int) : Json := (n.map Json.num).getD .null

inductive PacketStatus where
  | valid
  | expired
  | revoked
  | tampered
  | unsigned
  deriving DecidableEq, Repr

/-- What `verify_packet` returns. -/
structure Verification where
  packetId : String
  version : Option Int
  packetHash : Option String
  algorithm : Option String
  signedAt : Option String
  expiresAt : Option String
  revokedAt : Option String
  publicKey : String
  status : PacketStatus
  reasons : List String
  deriving DecidableEq, Repr

/-- A naive timestamp is read as UTC. -/
def aware (d : Datetime) : Datetime := { d with offset := some (d.offset.getD 0) }

theorem instant_aware (d : Datetime) : (aware d).instant = d.instant := by
  simp [aware, Datetime.instant]

section

variable [Deployment] [Ed25519]

/-- The row a caller holds after a commit is read again. -/
def reloadPacket (packetId : String) : StoreSession EvidencePacket := do
  let row ← peek fun S => S.governance.packets.find? packetId
  foundAgain row

def signPacket (settings : Settings) (packet : EvidencePacket)
    (signedBy : Option String) (ttlDays : Option Int) (recordAudit : Bool) :
    StoreSession EvidencePacket := do
  let ttl := ttlDays.getD settings.evidencePacketTtlDays
  let signature := Hex.encode
    (Ed25519.sign (signingPayload packet.id packet.version packet.packetHash))
  let signedAt ← readClock
  let now ← readClock
  match now.plusDays ttl with
  | none => throw (.other "OverflowError" "date value out of range")
  | some expiry => do
      let _ ← commitChange (.signPacket packet.id signature signedAt expiry)
      let packet ← reloadPacket packet.id
      if recordAudit then
        let _ ← recordEvent {
          action := "evidence.packet.signed"
          resourceType := "evidence_packet"
          resourceId := packet.id
          tenantId := packet.tenantId
          actor := signedBy
          metadata := some [("algorithm", .str algorithm),
            ("version", numOrNull packet.version),
            ("packet_hash", .ofOption packet.packetHash),
            ("expires_at", .ofOption (packet.expiresAt.map Datetime.isoformat))] }
      return packet

def revokePacket (packet : EvidencePacket) (reason : String)
    (revokedBy : Option String) : StoreSession EvidencePacket := do
  let revokedAt ← readClock
  let _ ← commitChange (.revokePacket packet.id reason revokedAt)
  let packet ← reloadPacket packet.id
  let _ ← recordEvent {
    action := "evidence.packet.revoked"
    resourceType := "evidence_packet"
    resourceId := packet.id
    tenantId := packet.tenantId
    actor := revokedBy
    metadata := some [("reason", .str reason), ("version", numOrNull packet.version)] }
  return packet

end

section

variable [Ed25519]

def signatureOk (packet : EvidencePacket) : Bool :=
  if falsy packet.packetSignature then false
  else
    match Hex.decode (packet.packetSignature.getD "") with
    | none => false
    | some signature =>
        Ed25519.verify signature
          (signingPayload packet.id packet.version packet.packetHash)

end

section

variable [Deployment] [Python]

/-- The stored export hashes to the stored hash. An export that is no object
has no `items`, and that error is not caught. -/
def contentIntact (packet : EvidencePacket) : Except PyErr Bool :=
  if falsy packet.jsonExport || falsy packet.packetHash then .ok false
  else
    match (Value.loads (packet.jsonExport.getD "") : Option PyValue) with
    | none => .ok false
    | some (.dict fields) => .ok (some (computePacketHash fields) = packet.packetHash)
    | some v => .error (.other "AttributeError"
        s!"'{Python.typeName v}' object has no attribute 'items'")

variable [Ed25519]

/-- The dictionary `base` with a status and its reasons. -/
def report (packet : EvidencePacket) (status : PacketStatus) (reasons : List String) :
    Verification where
  packetId := packet.id
  version := packet.version
  packetHash := packet.packetHash
  algorithm := packet.signatureAlgorithm
  signedAt := packet.signedAt.map Datetime.isoformat
  expiresAt := packet.expiresAt.map Datetime.isoformat
  revokedAt := packet.revokedAt.map Datetime.isoformat
  publicKey := Ed25519.publicKeyHex
  status := status
  reasons := reasons

/-- The signature has run out: `_now() > expires`. -/
def expiredAt (packet : EvidencePacket) (now : Moment) : Option Datetime :=
  (packet.expiresAt.map aware).filter fun expires => expires.instant < now.wall

def verifyPacket (packet : EvidencePacket) (now : Moment) :
    Except PyErr Verification :=
  if falsy packet.packetSignature then
    .ok (report packet .unsigned ["packet has not been signed"])
  else do
    let contentOk ← contentIntact packet
    let sigOk := signatureOk packet
    if !(contentOk && sigOk) then
      return report packet .tampered (
        (if contentOk then []
          else ["stored packet content does not match its recorded hash"]) ++
        (if sigOk then []
          else ["signature does not verify against the published public key"]))
    else if packet.revokedAt.isSome then
      let reason := if falsy packet.revocationReason then "no reason recorded"
        else packet.revocationReason.getD ""
      return report packet .revoked ["revoked: " ++ reason]
    else
      match expiredAt packet now with
      | some expires =>
          return report packet .expired ["signature expired at " ++ expires.isoformat]
      | none => return report packet .valid ["signature verified and content intact"]

end

end EvidenceSignature

namespace EvidenceStore

open EvidencePackets EvidenceSignature

/-- A packet as the builders make it: a dictionary, so no key occurs twice. -/
structure Document where
  fields : Dict
  distinct : Value.Distinct (.obj fields)

/-- A text column set from a value of the packet; anything but a text and `None`
cannot be bound. -/
def columnText : Json → Except PyErr (Option String)
  | .null => .ok none
  | .str s => .ok (some s)
  | _ => .error (.other "InterfaceError" "Error binding parameter")

/-- A column that may not be NULL. -/
def requiredText (v : Json) : Except PyErr String := do
  match ← columnText v with
  | some s => return s
  | none => throw (.db .integrity "NOT NULL constraint failed")

def nextVersion (existing : List EvidencePacket) : Int :=
  if existing.isEmpty then 1
  else (existing.map fun p => p.version.getD 0).foldl max
    ((existing.head?.bind fun p => p.version).getD 0) + 1

/-- The rows of a scope, in the caller's tenant if it has one. -/
def scopeRows (scopeType : String) (scopeId tenantId : Option String)
    (packets : PacketTable) : List EvidencePacket :=
  packets.rows.filter fun p =>
    p.scopeType = scopeType && p.scopeId = scopeId && inScope tenantId p.tenantId

def getPacket (g : Governance) (packetId : String) (tenantId : Option String) :
    Option EvidencePacket :=
  (g.packets.find? packetId).filter fun row => inScope tenantId row.tenantId

def listPackets (g : Governance) (tenantId scopeId : Option String) :
    List EvidencePacket :=
  (newestFirst EvidencePacket.createdAt g.packets.rows).filter fun row =>
    inScope tenantId row.tenantId && (scopeId = none || row.scopeId = scopeId)

section

variable [Deployment]

variable [Python]

/-- The columns `persist_packet` derives from the packet. -/
def packetRow (tenantId scopeId generatedBy : Option String)
    (scopeType jsonExport markdown hash : String) (version : Int) : EvidencePacket where
  id := ""
  tenantId := tenantId
  scopeType := scopeType
  scopeId := scopeId
  jsonExport := some jsonExport
  markdownExport := some markdown
  createdByUserId := generatedBy
  packetHash := some hash
  version := some version
  retentionStatus := "active"
  packetSignature := none
  signatureAlgorithm := none
  signedAt := none
  expiresAt := none
  revokedAt := none
  revocationReason := none
  createdAt := unset

variable [Ed25519]

/-- The end of `persist_packet`, once the row is committed. -/
def announcePacket (settings : Settings) (tenantId generatedBy : Option String)
    (scopeType : String) (scopeId : Option String) (version : Int)
    (packetId : String) : StoreSession EvidencePacket := do
  let row ← reloadPacket packetId
  let _ ← recordEvent {
    action := "evidence.packet.generated"
    resourceType := "evidence_packet"
    resourceId := row.id
    tenantId := tenantId
    actor := generatedBy
    metadata := some [("scope_type", .str scopeType), ("scope_id", .ofOption scopeId),
      ("version", .num version), ("packet_hash", .ofOption row.packetHash)] }
  signPacket settings row generatedBy none true

def persistPacket (settings : Settings) (tenantId : Option String) (packet : Document)
    (generatedBy : Option String) : StoreSession EvidencePacket := do
  let scopeType ← outcome
    (requiredText ((packet.fields.get? "packet_type").getD (.str "governed_action")))
  let scopeId ← outcome (columnText ((packet.fields.get? "scope_id").getD .null))
  let existing ← peek fun S =>
    scopeRows scopeType scopeId tenantId S.governance.packets
  let version := nextVersion existing
  let jsonExport ← outcome (renderJson packet.fields)
  let markdown ← outcome (renderMarkdown (Value.ofFields packet.fields))
  let hash := computePacketHash (Value.ofFields packet.fields)
  let superseded := (existing.filter fun p => p.retentionStatus = "active").map
    EvidencePacket.id
  let inserted ← commitChange (.insertPacket
    (packetRow tenantId scopeId generatedBy scopeType jsonExport
      (Text.toString markdown) hash version) superseded)
  announcePacket settings tenantId generatedBy scopeType scopeId version inserted.newId

end

section

variable [Deployment] [Ed25519] {adm : (q : StoreCall) → StoreReply q → Store → Prop}
  {post : List StoreEvent → Except PyErr EvidencePacket → Store → Prop}
  {before : List StoreEvent} {S : Store} {settings : Settings}

/-- The events of services of the pipeline. -/
def InPipeline (events : List StoreEvent) : Prop :=
  ∀ e ∈ events, ∃ call, e.call = StoreCall.pipeline call

/-- A signing fails at the clock, is refused, or is committed; the row that is
returned is the signed one. -/
theorem traced_signPacket {packet : EvidencePacket} {signedBy : Option String}
    {ttlDays : Option Int} {recordAudit : Bool}
    (hearly : ∀ (signedAt now : Moment) e,
      post (before ++ [⟨.clock, signedAt⟩] ++ [⟨.clock, now⟩]) (.error e) S)
    (hcommit : ∀ (signedAt now : Moment) window,
      now.plusDays (ttlDays.getD settings.evidencePacketTtlDays) = some window →
      ∀ change, change = GovernanceChange.signPacket packet.id (Hex.encode (Ed25519.sign
        (signingPayload packet.id packet.version packet.packetHash))) signedAt window →
      (∀ (r : DbReply) e, Refused change r S →
        post (before ++ [⟨.clock, signedAt⟩] ++ [⟨.clock, now⟩] ++
          [⟨.commit change, r⟩]) (.error e) S) ∧
      ∀ (r : DbReply) g events result db, r.failure = none →
        change.apply r S.governance = some g → InPipeline events →
        (∀ row, result = .ok row → row.id = packet.id) →
        post (before ++ [⟨.clock, signedAt⟩] ++ [⟨.clock, now⟩] ++
          [⟨.commit change, r⟩] ++ [⟨.select, ()⟩] ++ events) result
          { S with governance := g, db := db }) :
    (signPacket settings packet signedBy ttlDays recordAudit).traced adm post before S := by
  unfold signPacket
  simp only [Prog.bind_eq]
  rw [Prog.traced_bind]
  apply traced_readClock
  intro signedAt
  rw [Prog.tracedThen_ok, Prog.traced_bind]
  apply traced_readClock
  intro now
  rw [Prog.tracedThen_ok]
  cases hplus : now.plusDays (ttlDays.getD settings.evidencePacketTtlDays) with
  | none => exact hearly signedAt now _
  | some window =>
      obtain ⟨hrefused, hsigned⟩ := hcommit signedAt now window hplus _ rfl
      dsimp only
      rw [Prog.traced_bind]
      apply traced_commitChange
      · intro r g hfail happly
        rw [Prog.tracedThen_ok, Prog.traced_bind]
        unfold reloadPacket
        simp only [Prog.bind_eq]
        rw [Prog.traced_bind]
        apply traced_peek
        rw [Prog.tracedThen_ok]
        apply traced_foundAgain
        · intro row hrow
          have hid := Table.key_of_find? hrow
          rw [Prog.tracedThen_ok]
          cases recordAudit with
          | false =>
              have hdone := hsigned r g [] (.ok row) S.db hfail happly (by simp [InPipeline])
                (by rintro _ ⟨⟩; exact hid)
              rwa [List.append_nil] at hdone
          | true =>
              simp only [if_true]
              rw [Prog.traced_bind]
              apply traced_inPipeline
              intro events result db hevents
              cases result with
              | error e =>
                  exact hsigned r g events (.error e) db hfail happly hevents
                    (by rintro _ ⟨⟩)
              | ok value =>
                  exact hsigned r g events (.ok row) db hfail happly hevents
                    (by rintro _ ⟨⟩; exact hid)
        · intro _ e
          have hdone := hsigned r g [] (.error e) S.db hfail happly (by simp [InPipeline])
            (by rintro _ ⟨⟩)
          rwa [List.append_nil] at hdone
      · intro r e hrefuse
        exact hrefused r e hrefuse

omit [Ed25519] in
theorem traced_revokePacket {packet : EvidencePacket} {reason : String}
    {revokedBy : Option String}
    (hcommit : ∀ (revokedAt : Moment) change,
      change = GovernanceChange.revokePacket packet.id reason revokedAt →
      (∀ (r : DbReply) e, Refused change r S →
        post (before ++ [⟨.clock, revokedAt⟩] ++ [⟨.commit change, r⟩]) (.error e) S) ∧
      ∀ (r : DbReply) g events result db, r.failure = none →
        change.apply r S.governance = some g → InPipeline events →
        post (before ++ [⟨.clock, revokedAt⟩] ++ [⟨.commit change, r⟩] ++
          [⟨.select, ()⟩] ++ events) result { S with governance := g, db := db }) :
    (revokePacket packet reason revokedBy).traced adm post before S := by
  unfold revokePacket
  simp only [Prog.bind_eq]
  rw [Prog.traced_bind]
  apply traced_readClock
  intro revokedAt
  obtain ⟨hrefused, hrevoked⟩ := hcommit revokedAt _ rfl
  rw [Prog.tracedThen_ok, Prog.traced_bind]
  apply traced_commitChange
  · intro r g hfail happly
    rw [Prog.tracedThen_ok, Prog.traced_bind]
    unfold reloadPacket
    simp only [Prog.bind_eq]
    rw [Prog.traced_bind]
    apply traced_peek
    rw [Prog.tracedThen_ok]
    apply traced_foundAgain
    · intro row _
      rw [Prog.tracedThen_ok, Prog.traced_bind]
      apply traced_inPipeline
      intro events result db hevents
      cases result with
      | error e => exact hrevoked r g events (.error e) db hfail happly hevents
      | ok value => exact hrevoked r g events (.ok row) db hfail happly hevents
    · intro _ e
      have hdone := hrevoked r g [] (.error e) S.db hfail happly (by simp [InPipeline])
      rwa [List.append_nil] at hdone
  · intro r e hrefuse
    exact hrefused r e hrefuse

/-- A row that was just committed is recorded and signed. -/
theorem traced_announcePacket {tenantId generatedBy : Option String} {scopeType : String}
    {scopeId : Option String} {version : Int} {packetId : String}
    (herror : ∀ events e db, InPipeline events →
      post (before ++ [⟨.select, ()⟩] ++ events) (.error e) { S with db := db })
    (hsign : ∀ row events db, S.governance.packets.find? packetId = some row →
      InPipeline events →
      (signPacket settings row generatedBy none true).traced adm post
        (before ++ [⟨.select, ()⟩] ++ events) { S with db := db }) :
    (announcePacket settings tenantId generatedBy scopeType scopeId version
      packetId).traced adm post before S := by
  unfold announcePacket reloadPacket
  simp only [Prog.bind_eq]
  rw [Prog.traced_bind, Prog.traced_bind]
  apply traced_peek
  rw [Prog.tracedThen_ok]
  apply traced_foundAgain
  · intro row hrow
    rw [Prog.tracedThen_ok, Prog.traced_bind]
    apply traced_inPipeline
    intro events result db hevents
    cases result with
    | error e => exact herror events e db hevents
    | ok value => exact hsign row events db hrow hevents
  · intro _ e
    have hdone := herror [] e S.db (by simp [InPipeline])
    rwa [List.append_nil] at hdone

end

section

variable [Deployment] [Python]

/-- The columns of a row that were derived from a packet. -/
structure Rendered (tenantId : Option String) (packet : Document)
    (row : EvidencePacket) : Prop where
  scopeType : requiredText ((packet.fields.get? "packet_type").getD
    (.str "governed_action")) = .ok row.scopeType
  scopeId : columnText ((packet.fields.get? "scope_id").getD .null) = .ok row.scopeId
  tenant : row.tenantId = tenantId
  json : ∃ text, renderJson packet.fields = .ok text ∧ row.jsonExport = some text
  markdown : ∃ text, renderMarkdown (Value.ofFields packet.fields) = .ok text ∧
    row.markdownExport = some (Text.toString text)
  hash : row.packetHash = some (computePacketHash (Value.ofFields packet.fields))
  version : ∃ n, row.version = some n

theorem Rendered.inserted {tenantId : Option String} {packet : Document}
    {row : EvidencePacket} (h : Rendered tenantId packet row) (r : DbReply) :
    Rendered tenantId packet (row.inserted r) :=
  { h with }

omit [Deployment] in
/-- What the encoder writes counts as a text. -/
theorem written_not_falsy (L : Value.Layout) (v : PyValue) :
    falsy (some (String.ofList (Value.write L 0 v))) = false := by
  obtain ⟨c, rest, hhead, _⟩ := Value.write_head L 0 v
  have hne : String.ofList (Value.write L 0 v) ≠ "" := by
    intro heq
    have hlist := congrArg String.toList heq
    rw [String.toList_ofList, hhead] at hlist
    cases hlist
  simp [falsy, hne]

/-- A digest counts as a text. -/
theorem hash_not_falsy (hdigest : ∀ text, (Deployment.sha256 text).length = 64)
    (fields : PyDict) : falsy (some (computePacketHash fields)) = false := by
  have hne : computePacketHash fields ≠ "" := by
    intro heq
    have hlen := hdigest (Value.canonical (.dict (core fields) : PyValue))
    rw [← computePacketHash, heq] at hlen
    cases hlen
  simp [falsy, hne]

/-- The stored export is not empty, and decodes to the packet. -/
theorem Rendered.loads {tenantId : Option String} {packet : Document}
    {row : EvidencePacket} (h : Rendered tenantId packet row) :
    falsy row.jsonExport = false ∧
      (.dict (Value.ofFields packet.fields) : PyValue).Fits true ∧
      (Value.loads (row.jsonExport.getD "") : Option PyValue) =
        some (.dict (Value.ofFields packet.fields)) := by
  obtain ⟨text, hrender, hjson⟩ := h.json
  unfold renderJson at hrender
  split at hrender
  · next hprint =>
      cases hrender
      have hfits : ∀ ascii, (Value.ofJson (.obj packet.fields) : PyValue).Fits ascii := by
        intro ascii
        apply Value.ofJson_fits ascii (.obj packet.fields) packet.distinct
        simpa [Value.printable] using hprint
      have hloads := Value.loads_write .indented (hfits false)
      have hascii := hfits true
      simp only [Value.ofJson] at hloads hascii
      rw [hjson]
      exact ⟨written_not_falsy _ _, hascii, hloads⟩
  · cases hrender

/-- A new row among the others of its scope: it is active, has the next version,
and the commit supersedes the rows that were active. -/
structure Placed (tenantId : Option String) (S : Store) (row : EvidencePacket)
    (superseded : List String) : Prop where
  version : row.version = some (nextVersion
    (scopeRows row.scopeType row.scopeId tenantId S.governance.packets))
  status : row.retentionStatus = "active"
  superseded : superseded = ((scopeRows row.scopeType row.scopeId tenantId
    S.governance.packets).filter fun p => p.retentionStatus = "active").map
      EvidencePacket.id
  unsigned : row.packetSignature = none
  unrevoked : row.revokedAt = none

variable [Ed25519]

/-- What is to be shown of a call of `persist_packet`: it may fail before its
commit, be refused, or go on with a row that holds the packet. -/
theorem traced_persistPacket
    {adm : (q : StoreCall) → StoreReply q → Store → Prop}
    {post : List StoreEvent → Except PyErr EvidencePacket → Store → Prop}
    {before : List StoreEvent} {S : Store} {settings : Settings}
    {tenantId generatedBy : Option String} {packet : Document}
    (hearly : ∀ e, post before (.error e) S)
    (hlate : ∀ e, post (before ++ [⟨.select, ()⟩]) (.error e) S)
    (hrefused : ∀ row superseded (r : DbReply) e, Rendered tenantId packet row →
      Refused (.insertPacket row superseded) r S →
      post (before ++ [⟨.select, ()⟩] ++ [⟨.commit (.insertPacket row superseded), r⟩])
        (.error e) S)
    (hinserted : ∀ row superseded version (r : DbReply) g,
      Rendered tenantId packet row → Placed tenantId S row superseded →
      r.failure = none →
      (GovernanceChange.insertPacket row superseded).apply r S.governance = some g →
      (announcePacket settings tenantId generatedBy row.scopeType row.scopeId version
        r.newId).traced adm post
        (before ++ [⟨.select, ()⟩] ++ [⟨.commit (.insertPacket row superseded), r⟩])
        { S with governance := g }) :
    (persistPacket settings tenantId packet generatedBy).traced adm post before S := by
  unfold persistPacket
  simp only [Prog.bind_eq]
  rw [Prog.traced_bind]
  apply traced_outcome
  cases htype : requiredText ((packet.fields.get? "packet_type").getD
      (.str "governed_action")) with
  | error e => exact hearly e
  | ok scopeType =>
  rw [Prog.tracedThen_ok, Prog.traced_bind]
  apply traced_outcome
  cases hscope : columnText ((packet.fields.get? "scope_id").getD .null) with
  | error e => exact hearly e
  | ok scopeId =>
  rw [Prog.tracedThen_ok, Prog.traced_bind]
  apply traced_peek
  rw [Prog.tracedThen_ok, Prog.traced_bind]
  apply traced_outcome
  cases hjson : renderJson packet.fields with
  | error e => exact hlate e
  | ok jsonExport =>
  rw [Prog.tracedThen_ok, Prog.traced_bind]
  apply traced_outcome
  cases hmarkdown : renderMarkdown (Value.ofFields packet.fields) with
  | error e => exact hlate e
  | ok markdown =>
  have hrendered : ∀ version, Rendered tenantId packet (packetRow tenantId scopeId
      generatedBy scopeType jsonExport (Text.toString markdown)
      (computePacketHash (Value.ofFields packet.fields)) version) := by
    intro version
    exact {
      scopeType := htype
      scopeId := hscope
      tenant := rfl
      json := ⟨jsonExport, hjson, rfl⟩
      markdown := ⟨markdown, hmarkdown, rfl⟩
      hash := rfl
      version := ⟨version, rfl⟩ }
  rw [Prog.tracedThen_ok, Prog.traced_bind]
  apply traced_commitChange
  · intro r g hfail happly
    rw [Prog.tracedThen_ok]
    apply hinserted _ _ _ r g (hrendered _) _ hfail happly
    exact {
      version := rfl
      status := rfl
      superseded := rfl
      unsigned := rfl
      unrevoked := rfl }
  · intro r e h
    apply hrefused _ _ r e _ h
    exact hrendered _

end

end EvidenceStore

end ControlPlane
