import ControlPlane.Evidence.PacketLifecycle
import Mathlib.Data.Set.Function

/-!
Content integrity of stored packets. A row whose columns were rewritten after
the signing, with signatures that the service made for any rows, still verifies
only if the service signed its id, version and hash; and then its export is the
packet that the row was stored with, up to the generation time.
-/

namespace ControlPlane

open Lib EvidenceStore EvidenceSignature

namespace EvidenceSignature

/-- Texts that are split at their last separator. -/
theorem last_separator {c : Char} {x x' y y' : List Char} (hy : c ∉ y) (hy' : c ∉ y')
    (h : x ++ c :: y = x' ++ c :: y') : x = x' ∧ y = y' := by
  rcases List.append_eq_append_iff.mp h with ⟨z, hx, hz⟩ | ⟨z, hx, hz⟩
  · cases z with
    | nil =>
        rw [List.append_nil] at hx
        exact ⟨hx.symm, List.tail_eq_of_cons_eq hz⟩
    | cons d rest =>
        obtain ⟨_, hmem⟩ := List.cons.inj hz
        exact absurd (hmem ▸ List.mem_append_right rest List.mem_cons_self) hy
  · cases z with
    | nil =>
        rw [List.append_nil] at hx
        exact ⟨hx, (List.tail_eq_of_cons_eq hz).symm⟩
    | cons d rest =>
        obtain ⟨_, hmem⟩ := List.cons.inj hz
        exact absurd (hmem ▸ List.mem_append_right rest List.mem_cons_self) hy'

theorem colon_not_mem_writeInt (n : Int) : ':' ∉ Json.writeInt n := by
  intro hmem
  have hdigits : ':' ∉ Nat.toDigits 10 n.natAbs := by
    intro hdigit
    have h := Nat.isDigit_of_mem_toDigits (by omega) (by omega) hdigit
    cases h
  unfold Json.writeInt at hmem
  split at hmem
  · rcases List.mem_cons.mp hmem with h | h
    · cases h
    · exact hdigits h
  · exact hdigits hmem

theorem colon_not_mem_versionText (version : Option Int) :
    ':' ∉ (versionText version).toList := by
  cases version with
  | none => decide
  | some n =>
      change ':' ∉ (String.ofList (Json.writeInt n)).toList
      rw [String.toList_ofList]
      exact colon_not_mem_writeInt n

theorem versionText_inj {n : Int} {version : Option Int}
    (h : versionText (some n) = versionText version) : version = some n := by
  cases version with
  | none =>
      have hlist := congrArg String.toList h
      change (String.ofList (Json.writeInt n)).toList = _ at hlist
      rw [String.toList_ofList] at hlist
      obtain ⟨c, rest, hhead, hkind⟩ := Json.writeInt_head n
      rw [hhead] at hlist
      obtain ⟨hc, _⟩ := List.cons.inj hlist
      subst hc
      rcases hkind with hkind | hkind
      · cases hkind
      · cases hkind
  | some m =>
      have hlist := congrArg String.toList h
      change (String.ofList (Json.writeInt n)).toList =
        (String.ofList (Json.writeInt m)).toList at hlist
      rw [String.toList_ofList, String.toList_ofList] at hlist
      have hstop : Json.Stop [] := Json.stop_nil
      have heq := Json.writeInt_inj hstop hstop (congrArg (· ++ []) hlist)
      rw [heq.1]

/-- The payload names one id, version and hash: neither a version nor a hash
has a colon. -/
theorem signingPayload_inj {id id' hash hash' : String} {n : Int} {version : Option Int}
    (hhash : ':' ∉ hash.toList) (hhash' : ':' ∉ hash'.toList)
    (h : signingPayload id (some n) (some hash) =
      signingPayload id' version (some hash')) :
    id = id' ∧ version = some n ∧ hash = hash' := by
  have hcolon : (":" : String).toList = [':'] := rfl
  have hlist := congrArg String.toList h
  simp only [signingPayload, String.toList_append, hcolon, List.singleton_append,
    List.append_assoc] at hlist
  rw [← List.append_assoc, ← List.append_assoc] at hlist
  -- the hash is what follows the last colon, the version what precedes it
  have hsplit : (id.toList ++ ':' :: (versionText (some n)).toList) ++ ':' :: hash.toList =
      (id'.toList ++ ':' :: (versionText version).toList) ++ ':' :: hash'.toList := by
    simpa [optionText] using hlist
  obtain ⟨hfront, hhashes⟩ := last_separator hhash hhash' hsplit
  obtain ⟨hids, hversions⟩ := last_separator (colon_not_mem_versionText (some n))
    (colon_not_mem_versionText version) hfront
  refine ⟨String.toList_inj.mp hids, versionText_inj (String.toList_inj.mp hversions),
    String.toList_inj.mp hhashes⟩

end EvidenceSignature

section

variable [Deployment] [Python] [Ed25519]

def EvidencePacket.payload (row : EvidencePacket) : String :=
  signingPayload row.id row.version row.packetHash

/-- The run stored this row: a commit that went through, with the columns that
`persist_packet` derives from a packet. -/
def Persisted (trace : List StoreEvent) (row : EvidencePacket) : Prop :=
  ∃ new superseded tenantId packet, ∃ r : DbReply,
    (⟨.commit (.insertPacket new superseded), r⟩ : StoreEvent) ∈ trace ∧
      r.failure = none ∧ Rendered tenantId packet new ∧ row = new.inserted r

/-- The run signed the id, version and hash of this row. -/
def SignedIn (trace : List StoreEvent) (row : EvidencePacket) : Prop :=
  ∃ signedAt window, ∃ r : DbReply,
    (⟨.commit (.signPacket row.id (Hex.encode (Ed25519.sign row.payload)) signedAt
      window), r⟩ : StoreEvent) ∈ trace

/-- What was signed in the run are rows that it had stored. -/
def Accounted (trace : List StoreEvent) : Prop :=
  ∀ id signature signedAt window, ∀ r : DbReply,
    (⟨.commit (.signPacket id signature signedAt window), r⟩ : StoreEvent) ∈ trace →
    ∃ row, Persisted trace row ∧ row.id = id ∧
      signature = Hex.encode (Ed25519.sign row.payload)

omit [Ed25519] in
theorem Persisted.append {trace : List StoreEvent} {row : EvidencePacket}
    (h : Persisted trace row) (events : List StoreEvent) :
    Persisted (trace ++ events) row := by
  obtain ⟨new, superseded, tenantId, packet, r, hmem, hrest⟩ := h
  exact ⟨new, superseded, tenantId, packet, r, List.mem_append_left events hmem, hrest⟩

/-- The calls that are not signings. -/
def SignsNothing (e : StoreEvent) : Prop :=
  ∀ id signature signedAt window,
    e.call ≠ StoreCall.commit (.signPacket id signature signedAt window)

theorem Accounted.append {trace events : List StoreEvent} (h : Accounted trace)
    (hevents : ∀ e ∈ events, SignsNothing e) : Accounted (trace ++ events) := by
  intro id signature signedAt window r hmem
  rcases List.mem_append.mp hmem with hmem | hmem
  · obtain ⟨row, hrow, hsame⟩ := h id signature signedAt window r hmem
    exact ⟨row, hrow.append events, hsame⟩
  · exact absurd rfl (hevents _ hmem id signature signedAt window)

omit [Deployment] [Python] [Ed25519] in
theorem signsNothing_pipeline {events : List StoreEvent} (h : InPipeline events) :
    ∀ e ∈ events, SignsNothing e := by
  intro e he id signature signedAt window heq
  obtain ⟨call, hcall⟩ := h e he
  rw [hcall] at heq
  cases heq

theorem Accounted.concat {trace : List StoreEvent} (h : Accounted trace) {e : StoreEvent}
    (he : SignsNothing e) : Accounted (trace ++ [e]) := by
  apply h.append
  intro e' he'
  rw [List.mem_singleton.mp he']
  exact he

theorem Accounted.clock {trace : List StoreEvent} (h : Accounted trace) (m : Moment) :
    Accounted (trace ++ [⟨.clock, m⟩]) := by
  apply h.concat
  rintro _ _ _ _ ⟨⟩

theorem Accounted.select {trace : List StoreEvent} (h : Accounted trace) :
    Accounted (trace ++ [⟨.select, ()⟩]) := by
  apply h.concat
  rintro _ _ _ _ ⟨⟩

theorem Accounted.pipeline {trace events : List StoreEvent} (h : Accounted trace)
    (hevents : InPipeline events) : Accounted (trace ++ events) :=
  h.append (signsNothing_pipeline hevents)

/-- A row that the run stored is signed. -/
theorem Accounted.signed {trace : List StoreEvent} (h : Accounted trace)
    {row : EvidencePacket} (hrow : Persisted trace row) (signedAt : Moment)
    (window : Expiry) (r : DbReply) :
    Accounted (trace ++ [⟨.commit (.signPacket row.id
      (Hex.encode (Ed25519.sign row.payload)) signedAt window), r⟩]) := by
  intro id signature at' window' r' hmem
  rcases List.mem_append.mp hmem with hmem | hmem
  · obtain ⟨row', hrow', hsame⟩ := h id signature at' window' r' hmem
    exact ⟨row', hrow'.append _, hsame⟩
  · cases List.mem_singleton.mp hmem
    exact ⟨row, hrow.append _, rfl, rfl⟩

/-- The row has the identity of one that the run stored. -/
def Genuine (trace : List StoreEvent) (packet : EvidencePacket) : Prop :=
  ∃ row, Persisted trace row ∧ row.id = packet.id ∧ row.version = packet.version ∧
    row.packetHash = packet.packetHash

omit [Ed25519] in
theorem Genuine.append {trace : List StoreEvent} {packet : EvidencePacket}
    (h : Genuine trace packet) (events : List StoreEvent) :
    Genuine (trace ++ events) packet := by
  obtain ⟨row, hrow, hsame⟩ := h
  exact ⟨row, hrow.append events, hsame⟩

theorem signPacket_accounted {settings : Settings} {packet : EvidencePacket}
    {signedBy : Option String} {ttlDays : Option Int} {recordAudit : Bool}
    {trace : List StoreEvent} {S : Store} (hgenuine : Genuine trace packet)
    (h : Accounted trace) :
    (signPacket settings packet signedBy ttlDays recordAudit).traced anyAnswer
      (fun trace' _ _ => Accounted trace') trace S := by
  apply traced_signPacket
  · intro signedAt now e
    exact (h.clock signedAt).clock now
  · intro signedAt now window _ change hchange
    have hsigned : ∀ r : DbReply, Accounted (trace ++ [⟨.clock, signedAt⟩] ++
        [⟨.clock, now⟩] ++ [⟨.commit change, r⟩]) := by
      intro r
      obtain ⟨row, hrow, hid, hversion, hhash⟩ :=
        (hgenuine.append [⟨.clock, signedAt⟩]).append [⟨.clock, now⟩]
      have hdone := ((h.clock signedAt).clock now).signed hrow signedAt window r
      rw [hchange, ← hid, ← hversion, ← hhash]
      exact hdone
    refine ⟨?_, ?_⟩
    · intro r e _
      exact hsigned r
    · intro r g events result db _ _ hevents _
      exact (hsigned r).select.pipeline hevents

theorem revokePacket_accounted {packet : EvidencePacket}
    {reason : String} {revokedBy : Option String} {trace : List StoreEvent} {S : Store}
    (h : Accounted trace) :
    (revokePacket packet reason revokedBy).traced anyAnswer
      (fun trace' _ _ => Accounted trace') trace S := by
  apply traced_revokePacket
  intro revokedAt change hchange
  have hrevoked : ∀ r : DbReply,
      Accounted (trace ++ [⟨.clock, revokedAt⟩] ++ [⟨.commit change, r⟩]) := by
    intro r
    rw [hchange]
    apply (h.clock revokedAt).concat
    rintro _ _ _ _ ⟨⟩
  refine ⟨?_, ?_⟩
  · intro r e _
    exact hrevoked r
  · intro r g events result db _ _ hevents
    exact (hrevoked r).select.pipeline hevents

/-- `persist_packet` signs the row that it has just stored. -/
theorem persistPacket_accounted {settings : Settings}
    {tenantId generatedBy : Option String} {packet : Document}
    {trace : List StoreEvent} {S : Store} (h : Accounted trace) :
    (persistPacket settings tenantId packet generatedBy).traced anyAnswer
      (fun trace' _ _ => Accounted trace') trace S := by
  have hinsert : ∀ row superseded, ∀ r : DbReply, Accounted (trace ++ [⟨.select, ()⟩] ++
      [⟨.commit (.insertPacket row superseded), r⟩]) := by
    intro row superseded r
    apply h.select.concat
    rintro _ _ _ _ ⟨⟩
  apply traced_persistPacket
  · intro e
    exact h
  · intro e
    exact h.select
  · intro row superseded r e _ _
    exact hinsert row superseded r
  · intro row superseded version r g hrendered _ hfail happly
    simp only [GovernanceChange.apply, Option.map_eq_some_iff] at happly
    obtain ⟨packets, hrow, rfl⟩ := happly
    have hfind := Table.find?_insert_self hrow
    have hstored : Persisted (trace ++ [⟨.select, ()⟩] ++
        [⟨.commit (.insertPacket row superseded), r⟩]) (row.inserted r) :=
      ⟨row, superseded, tenantId, packet, r, List.mem_append_right _ (by simp), hfail,
        hrendered, rfl⟩
    apply traced_announcePacket
    · intro events e db hevents
      exact (hinsert row superseded r).select.pipeline hevents
    · intro row' events db hrow' hevents
      have heq : row' = row.inserted r := Option.some.inj (hrow'.symm.trans hfind)
      apply signPacket_accounted _ ((hinsert row superseded r).select.pipeline hevents)
      rw [heq]
      exact ⟨row.inserted r, (hstored.append _).append _, rfl, rfl, rfl⟩

/-- A request that signs once more does so before the row is rewritten. -/
def PacketCall.SignsGenuine (call : PacketCall) (trace : List StoreEvent) (S : Store) :
    Prop :=
  match call with
  | .sign _ packetId _ _ =>
      ∀ row, S.governance.packets.find? packetId = some row → Genuine trace row
  | _ => True

/-- The calls of the services so far, for requests of one kind. Between two
requests the database may be rewritten at will. -/
inductive History (settings : Settings) (kind : PacketCall → Prop) :
    List StoreEvent → Store → Prop
  | start (S : Store) : History settings kind [] S
  | request {trace trace' : List StoreEvent} {S S' : Store}
      {result : Except PyErr EvidencePacket} (call : PacketCall) (hkind : kind call)
      (h : History settings kind trace S) (hgenuine : call.SignsGenuine trace S)
      (hrun : Prog.Runs anyAnswer (call.run settings) S trace' result S') :
      History settings kind (trace ++ trace') S'
  | rewrite {trace : List StoreEvent} {S : Store} (h : History settings kind trace S)
      (S' : Store) : History settings kind trace S'

theorem PacketCall.run_accounted {settings : Settings} (call : PacketCall)
    {trace : List StoreEvent} {S : Store} (hgenuine : call.SignsGenuine trace S)
    (h : Accounted trace) :
    (call.run settings).traced anyAnswer (fun trace' _ _ => Accounted trace')
      trace S := by
  cases call with
  | persist tenantId packet generatedBy => exact persistPacket_accounted h
  | sign tenantId id signedBy recordAudit =>
      unfold PacketCall.run
      simp only [Prog.bind_eq]
      rw [Prog.traced_bind]
      apply traced_loadPacket
      · intro packet hfind
        exact signPacket_accounted ((hgenuine packet hfind).append _) h.select
      · exact h.select
  | revoke tenantId id reason revokedBy =>
      unfold PacketCall.run
      simp only [Prog.bind_eq]
      rw [Prog.traced_bind]
      apply traced_loadPacket
      · intro packet _
        exact revokePacket_accounted h.select
      · exact h.select

theorem History.accounted {settings : Settings} {kind : PacketCall → Prop}
    {trace : List StoreEvent} {S : Store} (h : History settings kind trace S) :
    Accounted trace := by
  induction h with
  | start S =>
      intro id signature signedAt window r hmem
      cases hmem
  | request call _ _ hgenuine hrun ih =>
      exact Prog.traced_sound (call.run_accounted hgenuine ih) hrun
  | rewrite _ _ ih => exact ih

/-- The payloads that the service's key was used for. -/
def signedPayloads (trace : List StoreEvent) : Set String :=
  {payload | ∃ row, Persisted trace row ∧ SignedIn trace row ∧ payload = row.payload}

/-- The texts that are hashed: those of the stored packets and of one more row. -/
def blobs (trace : List StoreEvent) (packet : EvidencePacket) : Set String :=
  {blob | ∃ row fields, (row = packet ∨ Persisted trace row) ∧
    (Value.loads (row.jsonExport.getD "") : Option PyValue) = some (.dict fields) ∧
    blob = Value.canonical (.dict (core fields) : PyValue)}

/-- A row that is neither unsigned nor tampered passed both checks. -/
theorem checks_of_verified {packet : EvidencePacket} {now : Moment} {v : Verification}
    (h : verifyPacket packet now = .ok v)
    (hstatus : v.status = .valid ∨ v.status = .expired ∨ v.status = .revoked) :
    contentIntact packet = .ok true ∧ signatureOk packet = true := by
  unfold verifyPacket at h
  split at h
  · cases h
    rcases hstatus with h | h | h <;> cases h
  · cases hcontent : contentIntact packet with
    | error e =>
        rw [hcontent] at h
        cases h
    | ok contentOk =>
        rw [hcontent] at h
        cases contentOk with
        | false =>
            cases h
            rcases hstatus with h | h | h <;> cases h
        | true =>
            cases hsig : signatureOk packet with
            | false =>
                rw [hsig] at h
                cases h
                rcases hstatus with h | h | h <;> cases h
            | true => exact ⟨rfl, rfl⟩

omit [Ed25519] in
theorem loads_of_intact {packet : EvidencePacket} (h : contentIntact packet = .ok true) :
    ∃ fields, (Value.loads (packet.jsonExport.getD "") : Option PyValue) =
      some (.dict fields) ∧ packet.packetHash = some (computePacketHash fields) := by
  unfold contentIntact at h
  split at h
  · cases h
  · split at h
    · cases h
    · next fields hloads =>
        refine ⟨fields, hloads, ?_⟩
        have hsame : some (computePacketHash fields) = packet.packetHash := by
          simpa using h
        exact hsame.symm
    · cases h

omit [Ed25519] [Deployment] in
/-- What is left of a packet without its generation time can still be encoded. -/
theorem core_fits {fields : PyDict} (h : (.dict fields : PyValue).Fits true) :
    (.dict (core fields) : PyValue).Fits true := by
  simp only [Value.Fits] at h ⊢
  obtain ⟨hkeys, hfields⟩ := h
  refine ⟨?_, ?_⟩
  · exact hkeys.sublist (List.filter_sublist.map Prod.fst)
  · rw [Value.fitsFields_iff] at hfields ⊢
    intro f hf
    exact hfields f (List.mem_of_mem_filter hf)

omit [Ed25519] in
/-- What a stored row says of its packet. -/
theorem Persisted.content {trace : List StoreEvent} {row : EvidencePacket}
    (h : Persisted trace row) : ∃ n fields, row.version = some n ∧
      (.dict fields : PyValue).Fits true ∧
      (Value.loads (row.jsonExport.getD "") : Option PyValue) = some (.dict fields) ∧
      row.packetHash = some (computePacketHash fields) := by
  obtain ⟨new, superseded, tenantId, packet, r, _, _, hrendered, rfl⟩ := h
  obtain ⟨_, hfits, hloads⟩ := hrendered.loads
  obtain ⟨n, hversion⟩ := hrendered.version
  exact ⟨n, _, hversion, hfits, hloads, hrendered.hash⟩

omit [Deployment] [Python] in
theorem verify_of_signatureOk {packet : EvidencePacket} {signature : List UInt8}
    (h : signatureOk packet = true)
    (hdecode : Hex.decode (packet.packetSignature.getD "") = some signature) :
    Ed25519.verify signature packet.payload = true := by
  unfold signatureOk at h
  split at h
  · cases h
  · rw [hdecode] at h
    exact h

/-- A row that verifies carries the id, the version and the hash of a row that was
stored and signed, and their exports have the same canonical text. -/
theorem stored_of_verified {settings : Settings} {kind : PacketCall → Prop}
    {trace : List StoreEvent} {S : Store} {packet : EvidencePacket} {now : Moment}
    {v : Verification} (hdigest : ∀ text, ':' ∉ (Deployment.sha256 text).toList)
    (hinj : Set.InjOn Deployment.sha256 (blobs trace packet))
    (hunforgeable : ∀ payload ∈ signedPayloads trace, ∀ forged,
      Ed25519.verify (Ed25519.sign payload) forged = true →
      forged ∈ signedPayloads trace)
    (hhistory : History settings kind trace S)
    (hsignature : ∃ id signature signedAt window, ∃ r : DbReply,
      (⟨.commit (.signPacket id signature signedAt window), r⟩ : StoreEvent) ∈ trace ∧
        Hex.decode (packet.packetSignature.getD "") = Hex.decode signature)
    (hverify : verifyPacket packet now = .ok v)
    (hstatus : v.status = .valid ∨ v.status = .expired ∨ v.status = .revoked) :
    ∃ row fields stored, Persisted trace row ∧ SignedIn trace row ∧
      row.id = packet.id ∧ row.version = packet.version ∧
      row.packetHash = packet.packetHash ∧
      (Value.loads (packet.jsonExport.getD "") : Option PyValue) = some (.dict fields) ∧
      (Value.loads (row.jsonExport.getD "") : Option PyValue) = some (.dict stored) ∧
      Value.canonical (.dict (core fields) : PyValue) =
        Value.canonical (.dict (core stored) : PyValue) := by
  obtain ⟨hcontent, hsig⟩ := checks_of_verified hverify hstatus
  obtain ⟨fields, hloads, hhash⟩ := loads_of_intact hcontent
  obtain ⟨id, signature, signedAt, window, r, hmem, hdecode⟩ := hsignature
  obtain ⟨owner, howner, rfl, rfl⟩ := hhistory.accounted _ _ _ _ _ hmem
  rw [Hex.decode_encode] at hdecode
  have hsigned : owner.payload ∈ signedPayloads trace :=
    ⟨owner, howner, ⟨signedAt, window, r, hmem⟩, rfl⟩
  obtain ⟨row, hrow, hrowSigned, hpayload⟩ := hunforgeable owner.payload hsigned
    packet.payload (verify_of_signatureOk hsig hdecode)
  obtain ⟨n, stored, hversion, hfits, hstored, hrowHash⟩ := hrow.content
  -- the payload of one row is that of the other, so their columns agree
  rw [EvidencePacket.payload, EvidencePacket.payload, hhash, hversion, hrowHash] at hpayload
  obtain ⟨hid, hversion', hhashes⟩ := signingPayload_inj (hdigest _) (hdigest _)
    hpayload.symm
  have hblob : Value.canonical (.dict (core stored) : PyValue) =
      Value.canonical (.dict (core fields) : PyValue) :=
    hinj ⟨row, stored, Or.inr hrow, hstored, rfl⟩ ⟨packet, fields, Or.inl rfl, hloads, rfl⟩
      hhashes
  refine ⟨row, fields, stored, hrow, hrowSigned, hid, ?_, ?_, hloads, hstored, hblob.symm⟩
  · rw [hversion, hversion']
  · have hdigests : computePacketHash stored = computePacketHash fields := hhashes
    rw [hrowHash, hhash, hdigests]

/-- A row that verifies carries an id, a version and a hash that the service signed for one
row, and its export has the content that this row was stored with. The signature is assumed to
be one of the service, not to be forged, and SHA-256 to tell the texts apart that occur; the
columns of the row and the layout of the export may have been changed in any way. -/
theorem verified_packet_content {settings : Settings} {kind : PacketCall → Prop}
    {trace : List StoreEvent} {S : Store} {packet : EvidencePacket} {now : Moment}
    {v : Verification} (hdigest : ∀ text, ':' ∉ (Deployment.sha256 text).toList)
    (hinj : Set.InjOn Deployment.sha256 (blobs trace packet))
    (hunforgeable : ∀ payload ∈ signedPayloads trace, ∀ forged,
      Ed25519.verify (Ed25519.sign payload) forged = true →
      forged ∈ signedPayloads trace)
    (hhistory : History settings kind trace S)
    (hsignature : ∃ id signature signedAt window, ∃ r : DbReply,
      (⟨.commit (.signPacket id signature signedAt window), r⟩ : StoreEvent) ∈ trace ∧
        Hex.decode (packet.packetSignature.getD "") = Hex.decode signature)
    (hverify : verifyPacket packet now = .ok v)
    (hstatus : v.status = .valid ∨ v.status = .expired ∨ v.status = .revoked) :
    ∃ row fields stored, Persisted trace row ∧ SignedIn trace row ∧
      row.id = packet.id ∧ row.version = packet.version ∧
      row.packetHash = packet.packetHash ∧
      (Value.loads (packet.jsonExport.getD "") : Option PyValue) = some (.dict fields) ∧
      (Value.loads (row.jsonExport.getD "") : Option PyValue) = some (.dict stored) ∧
      Value.Same (.dict (core fields) : PyValue) (.dict (core stored)) := by
  obtain ⟨row, fields, stored, hrow, hsigned, hid, hversion, hhash, hloads, hstored, hblob⟩ :=
    stored_of_verified hdigest hinj hunforgeable hhistory hsignature hverify hstatus
  have hsame := Value.same_of_canonical (core_fits (Value.loads_fits hloads))
    (core_fits (Value.loads_fits hstored)) hblob
  exact ⟨row, fields, stored, hrow, hsigned, hid, hversion, hhash, hloads, hstored, hsame⟩

/-- Every row that was inserted, or was to be, is one of `φ`. -/
def StoresOnly (φ : EvidencePacket → Prop) (trace : List StoreEvent) : Prop :=
  ∀ e ∈ trace, ∀ new superseded, e.call = .commit (.insertPacket new superseded) → φ new

section

variable {φ : EvidencePacket → Prop} {trace : List StoreEvent}

omit [Deployment] [Python] [Ed25519] in
theorem StoresOnly.concat (h : StoresOnly φ trace) {e : StoreEvent}
    (he : ∀ new superseded, e.call = .commit (.insertPacket new superseded) → φ new) :
    StoresOnly φ (trace ++ [e]) := by
  intro e' hmem
  rcases List.mem_append.mp hmem with hmem | hmem
  · exact h e' hmem
  · rw [List.mem_singleton.mp hmem]
    exact he

omit [Deployment] [Python] [Ed25519] in
theorem StoresOnly.pipeline (h : StoresOnly φ trace)
    {events : List StoreEvent} (hevents : InPipeline events) :
    StoresOnly φ (trace ++ events) := by
  intro e hmem
  rcases List.mem_append.mp hmem with hmem | hmem
  · exact h e hmem
  · obtain ⟨call, hcall⟩ := hevents e hmem
    intro new superseded heq
    rw [hcall] at heq
    cases heq

omit [Deployment] [Python] [Ed25519] in
theorem StoresOnly.clock (h : StoresOnly φ trace) (m : Moment) :
    StoresOnly φ (trace ++ [⟨.clock, m⟩]) := by
  apply h.concat
  rintro _ _ ⟨⟩

omit [Deployment] [Python] [Ed25519] in
theorem StoresOnly.select (h : StoresOnly φ trace) :
    StoresOnly φ (trace ++ [⟨.select, ()⟩]) := by
  apply h.concat
  rintro _ _ ⟨⟩

omit [Python] in
theorem signPacket_storesOnly {settings : Settings} {row : EvidencePacket}
    {signedBy : Option String} {ttlDays : Option Int} {recordAudit : Bool} {S : Store}
    (h : StoresOnly φ trace) :
    (signPacket settings row signedBy ttlDays recordAudit).traced anyAnswer
      (fun trace' _ _ => StoresOnly φ trace') trace S := by
  apply traced_signPacket
  · intro signedAt now e
    exact (h.clock signedAt).clock now
  · intro signedAt now window _ change hchange
    have hsigned : ∀ r : DbReply, StoresOnly φ (trace ++
        [⟨.clock, signedAt⟩] ++ [⟨.clock, now⟩] ++ [⟨.commit change, r⟩]) := by
      intro r
      rw [hchange]
      apply ((h.clock signedAt).clock now).concat
      rintro _ _ ⟨⟩
    refine ⟨?_, ?_⟩
    · intro r e _
      exact hsigned r
    · intro r g events result db _ _ hevents _
      exact (hsigned r).select.pipeline hevents

omit [Python] [Ed25519] in
theorem revokePacket_storesOnly {row : EvidencePacket} {reason : String}
    {revokedBy : Option String} {S : Store} (h : StoresOnly φ trace) :
    (revokePacket row reason revokedBy).traced anyAnswer
      (fun trace' _ _ => StoresOnly φ trace') trace S := by
  apply traced_revokePacket
  intro revokedAt change hchange
  have hrevoked : ∀ r : DbReply,
      StoresOnly φ (trace ++ [⟨.clock, revokedAt⟩] ++ [⟨.commit change, r⟩]) := by
    intro r
    rw [hchange]
    apply (h.clock revokedAt).concat
    rintro _ _ ⟨⟩
  refine ⟨?_, ?_⟩
  · intro r e _
    exact hrevoked r
  · intro r g events result db _ _ hevents
    exact (hrevoked r).select.pipeline hevents

/-- A call of `persist_packet` stores its packet and no other. -/
theorem persistPacket_storesOnly {settings : Settings} {tenantId : Option String}
    {packet : Document} {generatedBy : Option String} {S : Store}
    (hφ : ∀ row, Rendered tenantId packet row → φ row) (h : StoresOnly φ trace) :
    (persistPacket settings tenantId packet generatedBy).traced anyAnswer
      (fun trace' _ _ => StoresOnly φ trace') trace S := by
  have hinsert : ∀ row superseded, ∀ r : DbReply, Rendered tenantId packet row →
      StoresOnly φ (trace ++ [⟨.select, ()⟩] ++
        [⟨.commit (.insertPacket row superseded), r⟩]) := by
    intro row superseded r hrow
    apply h.select.concat
    rintro _ _ ⟨⟩
    exact hφ row hrow
  apply traced_persistPacket
  · intro e
    exact h
  · intro e
    exact h.select
  · intro row superseded r e hrow _
    exact hinsert row superseded r hrow
  · intro row superseded version r g hrow _ _ _
    have hstored := (hinsert row superseded r hrow).select
    apply traced_announcePacket
    · intro events e db hevents
      exact hstored.pipeline hevents
    · intro row' events db _ hevents
      exact signPacket_storesOnly (hstored.pipeline hevents)

end

end

section Sample

local instance instRewritten : Deployment := .sqlite
local instance instRewrittenPython : Python := plainPython
local instance instRewrittenKey : Ed25519 := keyPair (signingPayload "row1" (some 1)
  (some (computePacketHash (Value.ofFields packetFields))))

def insertedIn (trace : List StoreEvent) : List (String × Option Int) :=
  trace.filterMap fun e =>
    match e with
    | ⟨.commit (.insertPacket new _), (r : DbReply)⟩ => some (r.newId, new.version)
    | _ => none

def signedIn (trace : List StoreEvent) : List String :=
  trace.filterMap fun e =>
    match e with
    | ⟨.commit (.signPacket id _ _ _), _⟩ => some id
    | _ => none

theorem storedPacket_runs : Prog.Runs anyAnswer
    (persistPacket {} (some "t1") samplePacket (some "u1")) {} storedPacket.1
    storedPacket.2.1 storedPacket.2.2 :=
  Prog.runs_exec (fun _ _ _ => trivial) _ 0 ({} : Store)

theorem storedPacket_history (kind : PacketCall → Prop)
    (hkind : kind (.persist (some "t1") samplePacket (some "u1"))) :
    History {} kind storedPacket.1 storedPacket.2.2 := by
  have hstart : History {} kind [] {} := .start {}
  have hstored := History.request _ hkind hstart trivial storedPacket_runs
  rwa [List.nil_append] at hstored

/-- The run stored one row, with the packet. -/
theorem storedPacket_row {row : EvidencePacket} (h : Persisted storedPacket.1 row) :
    Rendered (some "t1") samplePacket row ∧ row.id = "row1" ∧ row.version = some 1 := by
  have honly : StoresOnly (Rendered (some "t1") samplePacket) storedPacket.1 := by
    have hnone : StoresOnly (Rendered (some "t1") samplePacket) [] := by
      rintro _ ⟨⟩
    have hrun := Prog.traced_sound (persistPacket_storesOnly (fun _ => id) hnone)
      storedPacket_runs
    rwa [List.nil_append] at hrun
  obtain ⟨new, superseded, tenantId, packet, r, hmem, _, _, rfl⟩ := h
  have hinserted : (r.newId, new.version) ∈ insertedIn storedPacket.1 :=
    List.mem_filterMap.mpr ⟨_, hmem, rfl⟩
  have honce : insertedIn storedPacket.1 = [("row1", some 1)] := by decide +kernel
  rw [honce, List.mem_singleton] at hinserted
  obtain ⟨hid, hversion⟩ := Prod.mk.inj hinserted
  exact ⟨(honly _ hmem new superseded rfl).inserted r, hid, hversion⟩

/-- The row with another layout of its export, moved to another tenant and
subject, with an empty report. -/
def relayouted (row : EvidencePacket) : EvidencePacket :=
  { row with
    tenantId := some "t2"
    scopeType := "workflow"
    scopeId := some "w1"
    markdownExport := some ""
    jsonExport := some (String.ofList (Value.write .compact 0
      (.dict (Value.ofFields packetFields) : PyValue)))
    packetSignature := some (Hex.encode (Ed25519.sign row.payload))
    expiresAt := none
    revokedAt := none }

theorem relayouted_loads (row : EvidencePacket) :
    (Value.loads ((relayouted row).jsonExport.getD "") : Option PyValue) =
      some (.dict (Value.ofFields packetFields)) := by
  have hfits : (Value.ofJson (.obj packetFields) : PyValue).Fits true :=
    Value.ofJson_fits true _ samplePacket.distinct (by decide +kernel)
  have hloads := Value.loads_write .compact hfits
  simp only [Value.ofJson] at hloads
  exact hloads

theorem relayouted_valid {row : EvidencePacket} (h : Persisted storedPacket.1 row)
    (now : Moment) : verifyPacket (relayouted row) now =
      .ok (report (relayouted row) .valid ["signature verified and content intact"]) := by
  have hhash := (storedPacket_row h).1.hash
  have hjson : falsy (relayouted row).jsonExport = false := written_not_falsy _ _
  have hfalsy : falsy (relayouted row).packetHash = false := by
    change falsy row.packetHash = false
    rw [hhash]
    exact hash_not_falsy Sha256.length_hexdigest _
  have hcontent : contentIntact (relayouted row) = .ok true := by
    have hsame : some (computePacketHash (Value.ofFields packetFields)) =
        (relayouted row).packetHash := hhash.symm
    rw [contentIntact, hjson, hfalsy, relayouted_loads]
    exact congrArg Except.ok (decide_eq_true hsame)
  have hok : signatureOk (relayouted row) = true := signatureOk_of_signed rfl
  have hsigned : falsy (relayouted row).packetSignature = false := signature_not_falsy _
  have hrevoked : (relayouted row).revokedAt = none := rfl
  have hexpires : expiredAt (relayouted row) now = none := rfl
  simp only [verifyPacket, hsigned, hcontent, hok, hrevoked, hexpires]
  rfl

theorem storedPacket_signed :
    ∃ row, Persisted storedPacket.1 row ∧ SignedIn storedPacket.1 row := by
  have hsigned : signedIn storedPacket.1 = ["row1"] := by decide +kernel
  have hmem : "row1" ∈ signedIn storedPacket.1 := by simp [hsigned]
  obtain ⟨⟨call, answer⟩, hevent, hcall⟩ := List.mem_filterMap.mp hmem
  obtain ⟨id, signature, signedAt, window, rfl⟩ : ∃ id signature signedAt window,
      call = .commit (.signPacket id signature signedAt window) := by
    split at hcall
    · next heq =>
        cases heq
        exact ⟨_, _, _, _, rfl⟩
    · cases hcall
  obtain ⟨owner, howner, rfl, rfl⟩ :=
    (storedPacket_history (fun _ => True) trivial).accounted _ _ _ _ _ hevent
  exact ⟨owner, howner, signedAt, window, answer, hevent⟩

theorem storedPacket_payload {row : EvidencePacket} (h : Persisted storedPacket.1 row) :
    row.payload = signingPayload "row1" (some 1)
      (some (computePacketHash (Value.ofFields packetFields))) := by
  obtain ⟨hrendered, hid, hversion⟩ := storedPacket_row h
  rw [EvidencePacket.payload, hid, hversion, hrendered.hash]
  rfl

theorem storedPacket_unforgeable : ∀ payload ∈ signedPayloads storedPacket.1, ∀ forged,
    Ed25519.verify (Ed25519.sign payload) forged = true →
    forged ∈ signedPayloads storedPacket.1 := by
  rintro payload ⟨row, hrow, hsigned, rfl⟩ forged hforged
  rw [storedPacket_payload hrow] at hforged
  refine ⟨row, hrow, hsigned, ?_⟩
  rw [storedPacket_payload hrow]
  exact keyPair_binds hforged

/-- Only one text is hashed. -/
theorem relayouted_injOn (row : EvidencePacket) :
    Set.InjOn Deployment.sha256 (blobs storedPacket.1 (relayouted row)) := by
  have hblob : ∀ blob ∈ blobs storedPacket.1 (relayouted row), blob =
      Value.canonical (.dict (core (Value.ofFields packetFields)) : PyValue) := by
    rintro blob ⟨row, fields, rfl | hrow, hloads, rfl⟩
    · rw [relayouted_loads] at hloads
      cases hloads
      rfl
    · obtain ⟨_, _, hstored⟩ := (storedPacket_row hrow).1.loads
      rw [hstored] at hloads
      cases hloads
      rfl
  intro a ha b hb _
  rw [hblob a ha, hblob b hb]

theorem relayouted_signature (row : EvidencePacket) :
    Hex.decode ((relayouted row).packetSignature.getD "") =
      Hex.decode (Hex.encode (Ed25519.sign row.payload)) := by
  rw [relayouted, Option.getD_some]

/-- A row that was laid out anew and given to another tenant verifies, and the
theorem finds the row it was made from. -/
theorem verified_packet_content_relayouted : ∃ packet v, packet.tenantId = some "t2" ∧
    verifyPacket packet AuditService.sampleCreated.createdAt.moment = .ok v ∧
    ∃ row fields stored, Persisted storedPacket.1 row ∧ SignedIn storedPacket.1 row ∧
      row.id = packet.id ∧ row.version = packet.version ∧
      row.packetHash = packet.packetHash ∧
      (Value.loads (packet.jsonExport.getD "") : Option PyValue) = some (.dict fields) ∧
      (Value.loads (row.jsonExport.getD "") : Option PyValue) = some (.dict stored) ∧
      Value.Same (.dict (core fields) : PyValue) (.dict (core stored)) := by
  obtain ⟨owner, howner, signedAt, window, answer, hevent⟩ := storedPacket_signed
  have hverify := relayouted_valid howner AuditService.sampleCreated.createdAt.moment
  have hhistory := storedPacket_history (fun _ => True) trivial
  refine ⟨relayouted owner, _, by rw [relayouted], hverify, ?_⟩
  exact verified_packet_content Sha256.colon_not_mem_hexdigest (relayouted_injOn owner)
    storedPacket_unforgeable hhistory
    ⟨_, _, signedAt, window, answer, hevent, relayouted_signature owner⟩ hverify
    (Or.inl rfl)

end Sample

end ControlPlane
