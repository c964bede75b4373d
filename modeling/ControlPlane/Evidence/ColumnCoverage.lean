import ControlPlane.Evidence.ContentIntegrity

/-!
What a valid verdict says of the other columns of a packet. The signature covers
the id, the version and the hash of the export. So the export agrees with the
columns `persist_packet` wrote for that id; the columns the row has now are not
looked at.
-/

namespace ControlPlane

open Lib EvidenceStore EvidenceSignature EvidencePackets

section

variable [Deployment] [Python] [Ed25519]

/-- A text column as the packet shows it. -/
def columnValue : Option String → PyValue
  | none => .null
  | some s => .str (Text.ofString s)

/-- `fields.get(key, default)`. -/
def fieldOr (fields : PyDict) (key : String) (default : PyValue) : PyValue :=
  (Value.lookup fields (Text.ofString key)).getD default

/-- The columns that say what a packet is about are those of a decoded export. -/
structure Agrees (row : EvidencePacket) (fields : PyDict) : Prop where
  scopeType : fieldOr fields "packet_type" (columnValue (some "governed_action")) =
    columnValue (some row.scopeType)
  scopeId : fieldOr fields "scope_id" .null = columnValue row.scopeId
  tenant : fieldOr fields "tenant_id" .null = columnValue row.tenantId

/-- A packet is stored in the tenant it was built for. -/
def Built (tenantId : Option String) (packet : Document) : Prop :=
  (packet.fields.get? "tenant_id").getD .null = .ofOption tenantId

/-- The requests of the API: a packet is stored by the caller it was built for. -/
def PacketCall.Built : PacketCall → Prop
  | .persist tenantId packet _ => ControlPlane.Built tenantId packet
  | _ => True

omit [Deployment] [Ed25519] in
theorem lookup_ofFields (fields : Dict) (key : String) :
    Value.lookup (Value.ofFields fields : PyDict) (Text.ofString key) =
      (fields.get? key).map Value.ofJson := by
  induction fields with
  | nil => rfl
  | cons f rest ih =>
      obtain ⟨k, v⟩ := f
      by_cases hk : k = key
      · simp [Value.ofFields, Value.lookup, Dict.get?, hk]
      · have hne : Text.ofString k ≠ Text.ofString key :=
          fun h => hk (Text.ofString_injective h)
        simpa [Value.ofFields, Value.lookup, Dict.get?, hk, hne] using ih

omit [Deployment] [Ed25519] in
theorem fieldOr_ofFields (fields : Dict) (key : String) (default : Json) :
    fieldOr (Value.ofFields fields) key (Value.ofJson default) =
      Value.ofJson ((fields.get? key).getD default) := by
  rw [fieldOr, lookup_ofFields]
  cases fields.get? key <;> rfl

omit [Deployment] [Ed25519] in
theorem ofJson_columnText {v : Json} {column : Option String}
    (h : columnText v = .ok column) : (Value.ofJson v : PyValue) = columnValue column := by
  cases v <;> cases h <;> rfl

omit [Deployment] [Ed25519] in
theorem ofJson_requiredText {v : Json} {text : String} (h : requiredText v = .ok text) :
    (Value.ofJson v : PyValue) = columnValue (some text) := by
  cases hcolumn : columnText v with
  | error e =>
      rw [requiredText, hcolumn] at h
      cases h
  | ok column =>
      rw [requiredText, hcolumn] at h
      cases column with
      | none => cases h
      | some s =>
          cases h
          exact ofJson_columnText hcolumn

omit [Ed25519] in
/-- What `persist_packet` wrote agrees with the packet. -/
theorem agrees_of_rendered {tenantId : Option String} {packet : Document}
    {row : EvidencePacket} (h : Rendered tenantId packet row)
    (hbuilt : Built tenantId packet) : Agrees row (Value.ofFields packet.fields) where
  scopeType := by
    have hfield := fieldOr_ofFields packet.fields "packet_type" (.str "governed_action")
    exact hfield.trans (ofJson_requiredText h.scopeType)
  scopeId := by
    have hfield := fieldOr_ofFields packet.fields "scope_id" .null
    exact hfield.trans (ofJson_columnText h.scopeId)
  tenant := by
    have hfield := fieldOr_ofFields packet.fields "tenant_id" .null
    rw [hbuilt, ← h.tenant] at hfield
    refine hfield.trans ?_
    cases row.tenantId <;> rfl

omit [Deployment] [Ed25519] in
theorem lookup_of_sameFields {fields others : PyDict} {key : Text} {v : PyValue}
    (h : Value.SameFields fields others) (hlookup : Value.lookup fields key = some v) :
    ∃ w, Value.lookup others key = some w ∧ Value.Same v w := by
  induction fields with
  | nil => cases hlookup
  | cons f rest ih =>
      obtain ⟨k, u⟩ := f
      simp only [Value.SameFields] at h
      by_cases hk : k = key
      · have hu : u = v := by simpa [Value.lookup, hk] using hlookup
        rw [← hk, ← hu]
        exact h.1
      · apply ih h.2
        simpa [Value.lookup, hk] using hlookup

omit [Deployment] [Ed25519] in
theorem same_columnValue {column : Option String} {w : PyValue}
    (h : Value.Same (columnValue column) w) : w = columnValue column := by
  cases column <;> cases w <;> simp_all [columnValue, Value.Same]

omit [Deployment] [Ed25519] in
/-- Two packets with the same content have the same text fields. -/
theorem fieldOr_of_same {fields others : PyDict} {key : String}
    {column default : Option String}
    (h : Value.Same (.dict fields : PyValue) (.dict others))
    (h' : Value.Same (.dict others : PyValue) (.dict fields))
    (hfield : fieldOr fields key (columnValue default) = columnValue column) :
    fieldOr others key (columnValue default) = columnValue column := by
  simp only [Value.Same] at h h'
  unfold fieldOr at hfield ⊢
  cases hlookup : Value.lookup fields (Text.ofString key) with
  | some v =>
      rw [hlookup, Option.getD_some] at hfield
      obtain ⟨w, hw, hsame⟩ := lookup_of_sameFields h.2 hlookup
      rw [hfield] at hsame
      rw [hw, Option.getD_some]
      exact same_columnValue hsame
  | none =>
      cases hother : Value.lookup others (Text.ofString key) with
      | none => rwa [hlookup] at hfield
      | some w =>
          obtain ⟨v, hv, _⟩ := lookup_of_sameFields h'.2 hother
          rw [hlookup] at hv
          cases hv

omit [Deployment] [Ed25519] in
/-- Leaving out the generation time leaves the other fields. -/
theorem fieldOr_core {fields : PyDict} {key : String} {default : PyValue}
    (hkey : key ≠ "generated_at") :
    fieldOr (core fields) key default = fieldOr fields key default := by
  have hfind : Value.lookup (core fields) (Text.ofString key) =
      Value.lookup fields (Text.ofString key) := by
    simp only [Value.lookup, core, List.find?_filter]
    congr 2
    funext f
    have hne : Text.ofString key ≠ Text.ofString "generated_at" :=
      fun h => hkey (Text.ofString_injective h)
    by_cases hf : f.1 = Text.ofString key <;> simp [hf, hne]
  rw [fieldOr, hfind, fieldOr]

omit [Deployment] [Ed25519] in
theorem Agrees.of_same {row : EvidencePacket} {fields others : PyDict}
    (h : Agrees row fields)
    (hsame : Value.Same (.dict (core fields) : PyValue) (.dict (core others)))
    (hsame' : Value.Same (.dict (core others) : PyValue) (.dict (core fields))) :
    Agrees row others := by
  have htransfer : ∀ (key : String) (column default : Option String),
      key ≠ "generated_at" → fieldOr fields key (columnValue default) = columnValue column →
      fieldOr others key (columnValue default) = columnValue column := by
    intro key column default hkey hfield
    rw [← fieldOr_core hkey] at hfield ⊢
    exact fieldOr_of_same hsame hsame' hfield
  exact {
    scopeType := htransfer _ _ _ (by decide) h.scopeType
    scopeId := htransfer _ _ none (by decide) h.scopeId
    tenant := htransfer _ _ none (by decide) h.tenant }

/-- The rows that a request stores hold a packet of the caller's tenant. -/
def HoldsBuilt (row : EvidencePacket) : Prop :=
  ∃ tenantId packet, Rendered tenantId packet row ∧ Built tenantId packet

theorem PacketCall.run_storesOnly {settings : Settings} (call : PacketCall)
    (hbuilt : call.Built) {trace : List StoreEvent} {S : Store}
    (h : StoresOnly HoldsBuilt trace) :
    (call.run settings).traced anyAnswer (fun trace' _ _ => StoresOnly HoldsBuilt trace')
      trace S := by
  cases call with
  | persist tenantId packet generatedBy =>
      apply persistPacket_storesOnly _ h
      intro row hrow
      exact ⟨tenantId, packet, hrow, hbuilt⟩
  | sign tenantId id signedBy recordAudit =>
      unfold PacketCall.run
      simp only [Prog.bind_eq]
      rw [Prog.traced_bind]
      apply traced_loadPacket
      · intro packet _
        exact signPacket_storesOnly h.select
      · exact h.select
  | revoke tenantId id reason revokedBy =>
      unfold PacketCall.run
      simp only [Prog.bind_eq]
      rw [Prog.traced_bind]
      apply traced_loadPacket
      · intro packet _
        exact revokePacket_storesOnly h.select
      · exact h.select

theorem History.storesOnly {settings : Settings} {trace : List StoreEvent} {S : Store}
    (h : History settings PacketCall.Built trace S) : StoresOnly HoldsBuilt trace := by
  induction h with
  | start S => rintro _ ⟨⟩
  | request call hbuilt _ _ hrun ih =>
      exact Prog.traced_sound (call.run_storesOnly hbuilt ih) hrun
  | rewrite _ _ ih => exact ih

omit [Ed25519] in
/-- What the service stored agrees with the packet, and is its rendering. -/
theorem stored_agrees {trace : List StoreEvent} {row : EvidencePacket} {stored : PyDict}
    (h : StoresOnly HoldsBuilt trace) (hrow : Persisted trace row)
    (hstored : (Value.loads (row.jsonExport.getD "") : Option PyValue) =
      some (.dict stored)) :
    Agrees row stored ∧ ∃ text, renderMarkdown stored = .ok text ∧
      row.markdownExport = some (Text.toString text) := by
  obtain ⟨new, superseded, _, _, r, hmem, _, _, rfl⟩ := hrow
  obtain ⟨tenantId, packet, hrendered, hbuilt⟩ := h _ hmem new superseded rfl
  have hinserted := hrendered.inserted r
  obtain ⟨_, _, hloads⟩ := hinserted.loads
  rw [hloads] at hstored
  cases hstored
  exact ⟨agrees_of_rendered hinserted hbuilt, hinserted.markdown⟩

/-- The verdict does not look at the Markdown, the scope and the tenant that the row has. -/
theorem verifyPacket_columns (packet : EvidencePacket) (now : Moment)
    (markdownExport scopeId tenantId : Option String) (scopeType : String) :
    verifyPacket { packet with
        markdownExport := markdownExport
        scopeType := scopeType
        scopeId := scopeId
        tenantId := tenantId } now =
      verifyPacket packet now := rfl

/-- A valid export agrees with the columns that were stored with it: what the
packet is about, and, as long as the export is the stored text, the Markdown. The
columns that the row has now do not occur (`verifyPacket_columns`). The signature is
assumed to be one of the service, not to be forged, and SHA-256 to tell the texts apart
that occur. -/
theorem valid_packet_stored_columns {settings : Settings} {trace : List StoreEvent}
    {S : Store} {packet : EvidencePacket} {now : Moment}
    {v : EvidenceSignature.Verification}
    (hdigest : ∀ text, ':' ∉ (Deployment.sha256 text).toList)
    (hinj : Set.InjOn Deployment.sha256 (blobs trace packet))
    (hunforgeable : ∀ payload ∈ signedPayloads trace, ∀ forged,
      Ed25519.verify (Ed25519.sign payload) forged = true →
      forged ∈ signedPayloads trace)
    (hhistory : History settings PacketCall.Built trace S)
    (hsignature : ∃ id signature signedAt window, ∃ r : DbReply,
      (⟨.commit (.signPacket id signature signedAt window), r⟩ : StoreEvent) ∈ trace ∧
        Hex.decode (packet.packetSignature.getD "") = Hex.decode signature)
    (hverify : verifyPacket packet now = .ok v) (hstatus : v.status = .valid) :
    ∃ row fields, Persisted trace row ∧ SignedIn trace row ∧ row.id = packet.id ∧
      (Value.loads (packet.jsonExport.getD "") : Option PyValue) = some (.dict fields) ∧
      Agrees row fields ∧
      (packet.jsonExport = row.jsonExport → ∃ text, renderMarkdown fields = .ok text ∧
        row.markdownExport = some (Text.toString text)) := by
  obtain ⟨row, fields, stored, hrow, hsigned, hid, _, _, hloads, hstored, hblob⟩ :=
    stored_of_verified hdigest hinj hunforgeable hhistory hsignature hverify
      (Or.inl hstatus)
  have hfits := core_fits (Value.loads_fits hloads)
  have hfits' := core_fits (Value.loads_fits hstored)
  have hsame := Value.same_of_canonical hfits hfits' hblob
  have hsame' := Value.same_of_canonical hfits' hfits hblob.symm
  obtain ⟨hagrees, hmarkdown⟩ := stored_agrees hhistory.storesOnly hrow hstored
  refine ⟨row, fields, hrow, hsigned, hid, hloads, hagrees.of_same hsame' hsame, ?_⟩
  intro hexport
  rw [hexport, hstored] at hloads
  cases hloads
  exact hmarkdown

end

section Sample

local instance instColumns : Deployment := .sqlite
local instance instColumnsPython : Python := plainPython
local instance instColumnsKey : Ed25519 := keyPair (signingPayload "row1" (some 1)
  (some (computePacketHash (Value.ofFields packetFields))))

/-- A stored row whose other columns were rewritten is still valid: its report is
empty, and its tenant and subject are not those of the export. -/
theorem valid_with_rewritten_columns : ∃ packet v fields,
    verifyPacket packet AuditService.sampleCreated.createdAt.moment = .ok v ∧
    v.status = .valid ∧
    (Value.loads (packet.jsonExport.getD "") : Option PyValue) = some (.dict fields) ∧
    (∀ text, renderMarkdown fields = .ok text →
      packet.markdownExport ≠ some (Text.toString text)) ∧
    fieldOr fields "packet_type" .null ≠ columnValue (some packet.scopeType) ∧
    fieldOr fields "scope_id" .null ≠ columnValue packet.scopeId ∧
    fieldOr fields "tenant_id" .null ≠ columnValue packet.tenantId := by
  obtain ⟨row, hrow, _⟩ := storedPacket_signed
  have hverify := relayouted_valid hrow AuditService.sampleCreated.createdAt.moment
  refine ⟨relayouted row, _, _, hverify, rfl, relayouted_loads row, ?_, ?_, ?_, ?_⟩
  · intro text htext heq
    have hreport : (renderMarkdown (Value.ofFields packetFields)).toOption.map
        Text.toString ≠ some "" := by decide +kernel
    rw [htext] at hreport
    exact hreport heq.symm
  · intro heq
    have htexts := Text.ofString_injective (Value.str.inj heq)
    simp [relayouted] at htexts
  · intro heq
    have htexts := Text.ofString_injective (Value.str.inj heq)
    simp at htexts
  · intro heq
    have htexts := Text.ofString_injective (Value.str.inj heq)
    simp at htexts

theorem valid_packet_stored_columns_relayouted : ∃ packet : EvidencePacket,
    packet.tenantId = some "t2" ∧
    ∃ row fields, Persisted storedPacket.1 row ∧ SignedIn storedPacket.1 row ∧
      row.id = packet.id ∧
      (Value.loads (packet.jsonExport.getD "") : Option PyValue) = some (.dict fields) ∧
      Agrees row fields ∧
      (packet.jsonExport = row.jsonExport → ∃ text, renderMarkdown fields = .ok text ∧
        row.markdownExport = some (Text.toString text)) := by
  obtain ⟨owner, howner, signedAt, window, answer, hevent⟩ := storedPacket_signed
  have hverify := relayouted_valid howner AuditService.sampleCreated.createdAt.moment
  have hhistory := storedPacket_history PacketCall.Built rfl
  refine ⟨relayouted owner, by rw [relayouted], ?_⟩
  exact valid_packet_stored_columns Sha256.colon_not_mem_hexdigest
    (relayouted_injOn owner) storedPacket_unforgeable hhistory
    ⟨_, _, signedAt, window, answer, hevent, relayouted_signature owner⟩ hverify rfl

end Sample

end ControlPlane
