import ControlPlane.Audit.Chain
import ControlPlane.Services.EvidenceStore
import ControlPlane.System.Processes

/-!
The life of a stored packet. What was done to a packet is read off the calls of
a run; the abstract life is the last signing and whether the packet was
revoked, and it fixes the verdict at every clock reading. A stored row follows
that life as long as only the services write it.
-/

namespace ControlPlane

open Lib EvidenceStore EvidenceSignature

/-- What the verdict on an unaltered packet depends on. -/
structure Lifecycle where
  /-- The validity window set by the last signing. -/
  signing : Option Expiry := none
  revoked : Bool := false

namespace Lifecycle

/-- Revocation wins over everything; a signature expires strictly after its
signing time plus the days it is valid. -/
def verdict (life : Lifecycle) (now : Moment) : PacketStatus :=
  match life.signing with
  | none => .unsigned
  | some window =>
      if life.revoked then .revoked
      else if window.start.wall + window.days * microsPerDay < now.wall then .expired
      else .valid

/-- One call of a run; a commit that failed did nothing. -/
def step (packetId : String) (life : Lifecycle) (e : StoreEvent) : Lifecycle :=
  match e with
  | ⟨.commit (.signPacket id _ _ window), (r : DbReply)⟩ =>
      if id = packetId ∧ r.failure = none then { life with signing := some window }
      else life
  | ⟨.commit (.revokePacket id _ _), (r : DbReply)⟩ =>
      if id = packetId ∧ r.failure = none then { life with revoked := true } else life
  | _ => life

/-- The life of a packet after the calls of a run. -/
def of (packetId : String) (trace : List StoreEvent) : Lifecycle :=
  trace.foldl (step packetId) {}

theorem of_append (packetId : String) (trace events : List StoreEvent) :
    of packetId (trace ++ events) = events.foldl (step packetId) (of packetId trace) :=
  List.foldl_append

theorem of_concat (packetId : String) (trace : List StoreEvent) (e : StoreEvent) :
    of packetId (trace ++ [e]) = step packetId (of packetId trace) e := by
  rw [of_append]
  rfl

/-- Calls of the pipeline do not concern a packet. -/
theorem of_pipeline (packetId : String) (trace : List StoreEvent)
    {events : List StoreEvent} (h : ∀ e ∈ events, ∃ call, e.call = StoreCall.pipeline call) :
    of packetId (trace ++ events) = of packetId trace := by
  rw [of_append]
  generalize of packetId trace = life
  induction events generalizing life with
  | nil => rfl
  | cons e rest ih =>
      obtain ⟨call, hcall⟩ := h e List.mem_cons_self
      have hstep : step packetId life e = life := by
        obtain ⟨c, answer⟩ := e
        dsimp only at hcall
        subst hcall
        rfl
      rw [List.foldl_cons, hstep]
      exact ih (fun e he => h e (List.mem_cons_of_mem _ he)) life

theorem signing_step {packetId : String} {life : Lifecycle}
    (h : life.signing.isSome) (e : StoreEvent) : (step packetId life e).signing.isSome := by
  unfold step
  split
  · split
    · rfl
    · exact h
  · split
    · exact h
    · exact h
  · exact h

/-- No call takes a signature away. -/
theorem signing_append {packetId : String} {trace : List StoreEvent}
    (h : (of packetId trace).signing.isSome) (events : List StoreEvent) :
    (of packetId (trace ++ events)).signing.isSome := by
  rw [of_append]
  generalize of packetId trace = life at h
  induction events generalizing life with
  | nil => exact h
  | cons e rest ih => exact ih _ (signing_step h e)

end Lifecycle

/-- A key pair's signatures are written as a text that counts as one. -/
theorem signature_not_falsy [Ed25519] (payload : String) :
    falsy (some (Hex.encode (Ed25519.sign payload))) = false := by
  have hne : Ed25519.sign payload ≠ [] := by
    intro h
    have hlen := Ed25519.sign_length payload
    rw [h] at hlen
    cases hlen
  simp [falsy, Hex.encode_ne_empty hne]

theorem signatureOk_of_signed [Ed25519] {row : EvidencePacket}
    (h : row.packetSignature = some (Hex.encode
      (Ed25519.sign (signingPayload row.id row.version row.packetHash)))) :
    signatureOk row = true := by
  rw [signatureOk, h, signature_not_falsy, Option.getD_some, Hex.decode_encode]
  exact Ed25519.verify_sign _

section

variable [Deployment] [Python] [Ed25519] {ttl : Int}

/-- The row is what the packet's life says: its content is intact, and the
columns of the signature are those of the last signing, valid for `ttl` days. -/
structure Follows (ttl : Int) (row : EvidencePacket) (life : Lifecycle) : Prop where
  intact : contentIntact row = .ok true
  unsigned : life.signing = none → row.packetSignature = none
  signed : ∀ window, life.signing = some window →
    row.packetSignature = some (Hex.encode
      (Ed25519.sign (signingPayload row.id row.version row.packetHash))) ∧
    ∃ expires, row.expiresAt = some expires ∧ expires.instant = window.moment.wall
  term : ∀ window, life.signing = some window → window.days = ttl
  revoked : row.revokedAt.isSome = life.revoked

/-- The life is the row's as long as the row is the only one with its id. -/
def Tracks (ttl : Int) (packetId : String) (trace : List StoreEvent) (S : Store) : Prop :=
  ∃ row, S.governance.packets.find? packetId = some row ∧
    Follows ttl row (Lifecycle.of packetId trace)

/-- The verdict on a row that follows a life is the life's verdict. -/
theorem verifyPacket_of_follows {row : EvidencePacket} {life : Lifecycle}
    (h : Follows ttl row life) (now : Moment) :
    ∃ v, verifyPacket row now = .ok v ∧ v.status = life.verdict now := by
  cases hsigning : life.signing with
  | none =>
      have hnone := h.unsigned hsigning
      refine ⟨_, by rw [verifyPacket, hnone]; rfl, ?_⟩
      simp [report, Lifecycle.verdict, hsigning]
  | some window =>
      obtain ⟨hsig, expires, hexpires, hinstant⟩ := h.signed window hsigning
      have hok := signatureOk_of_signed hsig
      have hfalsy : falsy row.packetSignature = false := by
        rw [hsig]
        exact signature_not_falsy _
      have hwindow := window.wall_moment
      simp only [verifyPacket, hfalsy, h.intact, hok, h.revoked, Lifecycle.verdict,
        hsigning]
      cases hrevoked : life.revoked with
      | true => exact ⟨_, rfl, by simp [report]⟩
      | false =>
          by_cases hlate : window.start.wall + window.days * microsPerDay < now.wall
          · have hexp : expiredAt row now = some (aware expires) := by
              simp [expiredAt, hexpires, instant_aware, hinstant, hwindow, hlate]
            exact ⟨_, by simp [hexp]; rfl, by simp [report, hlate]⟩
          · have hexp : expiredAt row now = none := by
              simp [expiredAt, hexpires, instant_aware, hinstant, hwindow,
                not_lt.mp hlate]
            exact ⟨_, by simp [hexp]; rfl, by simp [report, hlate]⟩

end

section

variable [Deployment] {r : DbReply} {g g' : Governance}

theorem find_signPacket {id signature : String} {signedAt : Moment} {window : Expiry}
    (h : (GovernanceChange.signPacket id signature signedAt window).apply r g = some g')
    (packetId : String) : g'.packets.find? packetId =
      (g.packets.find? packetId).map fun row =>
        if row.id = id then row.signed signature signedAt window else row := by
  cases h
  exact @Table.find?_modify _ _ _ _ _ _ g.packets id
    (fun row : EvidencePacket => row.signed signature signedAt window) (fun _ => rfl)
    (fun _ => rfl) packetId

theorem find_revokePacket {id reason : String} {revokedAt : Moment}
    (h : (GovernanceChange.revokePacket id reason revokedAt).apply r g = some g')
    (packetId : String) : g'.packets.find? packetId =
      (g.packets.find? packetId).map fun row =>
        if row.id = id then row.revoked reason revokedAt else row := by
  cases h
  exact @Table.find?_modify _ _ _ _ _ _ g.packets id
    (fun row : EvidencePacket => row.revoked reason revokedAt) (fun _ => rfl)
    (fun _ => rfl) packetId

omit [Deployment] in
theorem find_supersede {packets : PacketTable} {packetId : String}
    {row : EvidencePacket} (ids : List String) (h : packets.find? packetId = some row) :
    ∃ status, (supersede packets ids).find? packetId =
      some { row with retentionStatus := status } := by
  induction ids generalizing packets row with
  | nil => exact ⟨row.retentionStatus, h⟩
  | cons id rest ih =>
      have hstep := @Table.find?_modify _ _ _ _ _ _ packets id
        EvidencePacket.superseded (fun _ => rfl) (fun _ => rfl) packetId
      rw [h, Option.map_some] at hstep
      split at hstep
      · obtain ⟨status, hstatus⟩ := ih hstep
        exact ⟨status, hstatus⟩
      · obtain ⟨status, hstatus⟩ := ih hstep
        exact ⟨status, hstatus⟩

/-- The changes that write packet rows. -/
def GovernanceChange.writesPackets : GovernanceChange → Bool
  | .insertPacket _ _ => true
  | .signPacket _ _ _ _ => true
  | .revokePacket _ _ _ => true
  | _ => false

theorem GovernanceChange.packets_of_apply {change : GovernanceChange} {r : DbReply}
    {g g' : Governance} (hother : change.writesPackets = false)
    (h : change.apply r g = some g') : g'.packets = g.packets := by
  cases change with
  | insertPacket row superseded => cases hother
  | signPacket packetId signature signedAt window => cases hother
  | revokePacket packetId reason revokedAt => cases hother
  | linkApproval actionId approvalId =>
      cases h
      rfl
  | updateVerification loaded new =>
      cases h
      rfl
  | updatePolicies changes =>
      cases h
      rfl
  | _ =>
      obtain ⟨_, _, rfl⟩ := Option.map_eq_some_iff.mp h
      rfl

end

section

variable [Deployment] [Python] [Ed25519] {ttl : Int}

theorem Follows.resigned {row : EvidencePacket} {life : Lifecycle}
    (h : Follows ttl row life) (signedAt : Moment) {window : Expiry}
    (hdays : window.days = ttl) :
    Follows ttl (row.signed (Hex.encode
      (Ed25519.sign (signingPayload row.id row.version row.packetHash))) signedAt window)
      { life with signing := some window } where
  intact := h.intact
  unsigned := by
    intro hnone
    cases hnone
  signed := by
    intro window' hwindow
    cases hwindow
    exact ⟨rfl, _, rfl, Deployment.instant_stored window.moment⟩
  term := by
    intro window' hwindow
    cases hwindow
    exact hdays
  revoked := h.revoked

theorem Follows.revokedAgain {row : EvidencePacket} {life : Lifecycle}
    (h : Follows ttl row life) (reason : String) (revokedAt : Moment) :
    Follows ttl (row.revoked reason revokedAt) { life with revoked := true } where
  intact := h.intact
  unsigned := h.unsigned
  signed := h.signed
  term := h.term
  revoked := rfl

theorem Follows.retained {row : EvidencePacket} {life : Lifecycle}
    (h : Follows ttl row life) (status : String) :
    Follows ttl { row with retentionStatus := status } life where
  intact := h.intact
  unsigned := h.unsigned
  signed := h.signed
  term := h.term
  revoked := h.revoked

/-- A signature written to a row is one over the columns of that row. -/
def Honest (ttl : Int) (change : GovernanceChange) (S : Store) : Prop :=
  match change with
  | .signPacket packetId signature _ window => window.days = ttl ∧
      ∀ row, S.governance.packets.find? packetId = some row →
        signature = Hex.encode
          (Ed25519.sign (signingPayload row.id row.version row.packetHash))
  | _ => True

theorem Tracks.congr {packetId : String} {trace trace' : List StoreEvent}
    {S S' : Store} (h : Tracks ttl packetId trace S)
    (hlife : Lifecycle.of packetId trace' = Lifecycle.of packetId trace)
    (hpackets : S'.governance.packets = S.governance.packets) :
    Tracks ttl packetId trace' S' := by
  obtain ⟨row, hfind, hfollows⟩ := h
  refine ⟨row, ?_, ?_⟩
  · rw [hpackets]
    exact hfind
  · rw [hlife]
    exact hfollows

/-- A refused commit changes neither the store nor the life. -/
theorem Tracks.refused {packetId : String} {trace : List StoreEvent} {S : Store}
    {change : GovernanceChange} {r : DbReply} (h : Tracks ttl packetId trace S)
    (hrefused : Refused change r S) :
    Tracks ttl packetId (trace ++ [⟨.commit change, r⟩]) S := by
  apply h.congr _ rfl
  rw [Lifecycle.of_concat]
  rcases hrefused with hfail | hnone
  · cases change <;> simp [Lifecycle.step, hfail]
  · cases change with
    | signPacket id signature signedAt window => cases hnone
    | revokePacket id reason revokedAt => cases hnone
    | _ => rfl

/-- A committed change of the governance tables is followed by the life. -/
theorem Tracks.committed {packetId : String} {trace : List StoreEvent} {S : Store}
    {change : GovernanceChange} {r : DbReply} {g : Governance}
    (h : Tracks ttl packetId trace S) (hfail : r.failure = none)
    (happly : change.apply r S.governance = some g) (hhonest : Honest ttl change S) :
    Tracks ttl packetId (trace ++ [⟨.commit change, r⟩]) { S with governance := g } := by
  obtain ⟨row, hfind, hfollows⟩ := h
  have hid := Table.key_of_find? hfind
  cases change with
  | signPacket id signature signedAt window =>
      have hfind' := find_signPacket happly packetId
      rw [hfind, Option.map_some, hid] at hfind'
      refine ⟨_, hfind', ?_⟩
      rw [Lifecycle.of_concat]
      by_cases hsame : packetId = id
      · subst hsame
        simp only [Lifecycle.step, hfail, and_self, if_true, hhonest.2 row hfind]
        exact hfollows.resigned signedAt hhonest.1
      · simp only [Lifecycle.step, hsame, Ne.symm hsame, false_and, if_false]
        exact hfollows
  | revokePacket id reason revokedAt =>
      have hfind' := find_revokePacket happly packetId
      rw [hfind, Option.map_some, hid] at hfind'
      refine ⟨_, hfind', ?_⟩
      rw [Lifecycle.of_concat]
      by_cases hsame : packetId = id
      · subst hsame
        simp only [Lifecycle.step, hfail, and_self, if_true]
        exact hfollows.revokedAgain reason revokedAt
      · simp only [Lifecycle.step, hsame, Ne.symm hsame, false_and, if_false]
        exact hfollows
  | insertPacket new superseded =>
      simp only [GovernanceChange.apply, Option.map_eq_some_iff] at happly
      obtain ⟨packets, hinsert, rfl⟩ := happly
      obtain ⟨status, hstatus⟩ := find_supersede superseded hfind
      refine ⟨{ row with retentionStatus := status }, ?_, ?_⟩
      · exact Table.find?_insert_of_some hinsert hstatus
      · rw [Lifecycle.of_concat]
        exact hfollows.retained status
  | _ =>
      apply Tracks.congr ⟨row, hfind, hfollows⟩ (Lifecycle.of_concat _ _ _)
      exact GovernanceChange.packets_of_apply rfl happly

theorem Tracks.pipeline {packetId : String} {trace events : List StoreEvent} {S : Store}
    (h : Tracks ttl packetId trace S)
    (hevents : ∀ e ∈ events, ∃ call, e.call = StoreCall.pipeline call) (db : Database) :
    Tracks ttl packetId (trace ++ events) { S with db := db } :=
  h.congr (Lifecycle.of_pipeline packetId trace hevents) rfl

theorem Tracks.clock {packetId : String} {trace : List StoreEvent} {S : Store}
    (h : Tracks ttl packetId trace S) (m : Moment) :
    Tracks ttl packetId (trace ++ [⟨.clock, m⟩]) S :=
  h.congr (Lifecycle.of_concat _ _ _) rfl

theorem Tracks.select {packetId : String} {trace : List StoreEvent} {S : Store}
    (h : Tracks ttl packetId trace S) : Tracks ttl packetId (trace ++ [⟨.select, ()⟩]) S :=
  h.congr (Lifecycle.of_concat _ _ _) rfl

/-- The caller holds the columns of the row that a signature covers. -/
def Held (packet : EvidencePacket) (S : Store) : Prop :=
  ∀ row, S.governance.packets.find? packet.id = some row →
    row.version = packet.version ∧ row.packetHash = packet.packetHash

/-- A call that returned did so with the row of `packetId`, and signed it. -/
def Signed (packetId : String) (trace : List StoreEvent)
    (result : Except PyErr EvidencePacket) : Prop :=
  ∀ row, result = .ok row →
    row.id = packetId ∧ (Lifecycle.of packetId trace).signing.isSome

omit [Deployment] [Python] [Ed25519] in
theorem signed_error {packetId : String} {trace : List StoreEvent} {e : PyErr} :
    Signed packetId trace (.error e) := by
  intro row hrow
  cases hrow

theorem signPacket_tracks {settings : Settings} {packet : EvidencePacket}
    {signedBy : Option String} {ttlDays : Option Int} {recordAudit : Bool}
    {packetId : String} {trace : List StoreEvent} {S : Store}
    (httl : ttlDays.getD settings.evidencePacketTtlDays = ttl)
    (hheld : Held packet S) (h : Tracks ttl packetId trace S) :
    (signPacket settings packet signedBy ttlDays recordAudit).traced anyAnswer
      (fun trace' result S' =>
        Tracks ttl packetId trace' S' ∧ Signed packet.id trace' result) trace S := by
  apply traced_signPacket
  · intro signedAt now e
    exact ⟨(h.clock signedAt).clock now, signed_error⟩
  · intro signedAt now window hplus change hchange
    have hclocks := (h.clock signedAt).clock now
    refine ⟨?_, ?_⟩
    · intro r e hrefused
      exact ⟨hclocks.refused hrefused, signed_error⟩
    · intro r g events result db hfail happly hevents hid
      have hhonest : Honest ttl change S := by
        subst hchange
        refine ⟨(Moment.plusDays_eq_some hplus).2.trans httl, ?_⟩
        intro row hrow
        obtain ⟨hversion, hhash⟩ := hheld row hrow
        rw [hversion, hhash, Table.key_of_find? hrow]
      have hsigned := hclocks.committed hfail happly hhonest
      refine ⟨hsigned.select.pipeline hevents db, ?_⟩
      intro row hrow
      refine ⟨hid row hrow, ?_⟩
      rw [Lifecycle.of_pipeline _ _ hevents, Lifecycle.of_concat, Lifecycle.of_concat,
        hchange]
      simp [Lifecycle.step, hfail]

theorem revokePacket_tracks {packet : EvidencePacket} {reason : String}
    {revokedBy : Option String} {packetId : String} {trace : List StoreEvent}
    {S : Store} (h : Tracks ttl packetId trace S) :
    (revokePacket packet reason revokedBy).traced anyAnswer
      (fun trace' _ S' => Tracks ttl packetId trace' S') trace S := by
  apply traced_revokePacket
  intro revokedAt change hchange
  have hclock := h.clock revokedAt
  refine ⟨?_, ?_⟩
  · intro r e hrefused
    exact hclock.refused hrefused
  · intro r g events result db hfail happly hevents
    have hhonest : Honest ttl change S := by
      rw [hchange]
      trivial
    exact (hclock.committed hfail happly hhonest).select.pipeline hevents db

theorem announcePacket_tracks {settings : Settings} {tenantId generatedBy : Option String}
    {scopeType : String} {scopeId : Option String} {version : Int} {newId : String}
    {packetId : String} {trace : List StoreEvent} {S : Store}
    (httl : settings.evidencePacketTtlDays = ttl) (h : Tracks ttl packetId trace S) :
    (announcePacket settings tenantId generatedBy scopeType scopeId version newId).traced
      anyAnswer
      (fun trace' result S' => Tracks ttl packetId trace' S' ∧ Signed newId trace' result)
      trace S := by
  apply traced_announcePacket
  · intro events e db hevents
    exact ⟨h.select.pipeline hevents db, signed_error⟩
  · intro row events db hrow hevents
    have hid := Table.key_of_find? hrow
    have hheld : Held row { S with db := db } := by
      intro row' hrow'
      rw [hid] at hrow'
      have heq : row' = row := Option.some.inj (hrow'.symm.trans hrow)
      rw [heq]
      exact ⟨rfl, rfl⟩
    rw [← hid]
    apply signPacket_tracks _ hheld (h.select.pipeline hevents db)
    exact httl

omit [Ed25519] in
/-- The export decodes to the packet, so its hash is the stored one. -/
theorem intact_of_rendered {tenantId : Option String} {packet : Document}
    {row : EvidencePacket} (hdigest : ∀ text, (Deployment.sha256 text).length = 64)
    (h : Rendered tenantId packet row) : contentIntact row = .ok true := by
  obtain ⟨hnotempty, _, hloads⟩ := h.loads
  have hfalsy : falsy row.packetHash = false := by
    rw [h.hash]
    exact hash_not_falsy hdigest _
  rw [contentIntact, hnotempty, hfalsy, hloads, h.hash]
  simp

theorem persistPacket_tracks {settings : Settings} {tenantId generatedBy : Option String}
    {packet : Document} {packetId : String} {trace : List StoreEvent} {S : Store}
    (httl : settings.evidencePacketTtlDays = ttl) (h : Tracks ttl packetId trace S) :
    (persistPacket settings tenantId packet generatedBy).traced anyAnswer
      (fun trace' _ S' => Tracks ttl packetId trace' S') trace S := by
  apply traced_persistPacket
  · intro e
    exact h
  · intro e
    exact h.select
  · intro row superseded r e _ hrefused
    exact h.select.refused hrefused
  · intro row superseded version r g _ _ hfail happly
    have hinserted := h.select.committed hfail happly trivial
    apply Prog.traced_mono (announcePacket_tracks httl hinserted)
    intro trace' result S' hpost
    exact hpost.1

/-- The row that `persist_packet` returns is stored and signed. -/
theorem persistPacket_starts {settings : Settings} {tenantId generatedBy : Option String}
    {packet : Document} {S : Store}
    (hdigest : ∀ text, (Deployment.sha256 text).length = 64) :
    (persistPacket settings tenantId packet generatedBy).traced anyAnswer
      (fun trace result S' => ∀ row, result = .ok row →
        Tracks settings.evidencePacketTtlDays row.id trace S' ∧
          (Lifecycle.of row.id trace).signing.isSome) [] S := by
  apply traced_persistPacket
  · intro e row hrow
    cases hrow
  · intro e row hrow
    cases hrow
  · intro row superseded r e _ _ row' hrow'
    cases hrow'
  · intro row superseded version r g hrendered hplaced hfail happly
    simp only [GovernanceChange.apply, Option.map_eq_some_iff] at happly
    obtain ⟨packets, hinsert, rfl⟩ := happly
    have hfind := Table.find?_insert_self hinsert
    have hfollows : Follows settings.evidencePacketTtlDays (row.inserted r) {} := {
      intact := intact_of_rendered hdigest (hrendered.inserted r)
      unsigned := fun _ => hplaced.unsigned
      signed := by
        intro window hwindow
        cases hwindow
      term := by
        intro window hwindow
        cases hwindow
      revoked := by
        simp [EvidencePacket.inserted, hplaced.unrevoked] }
    have htracks : Tracks settings.evidencePacketTtlDays r.newId
        ([] ++ [⟨.select, ()⟩] ++ [⟨.commit (.insertPacket row superseded), r⟩])
        { S with governance := { S.governance with packets } } :=
      ⟨row.inserted r, hfind, hfollows⟩
    apply Prog.traced_mono (announcePacket_tracks rfl htracks)
    intro trace' result S' hpost row' hrow'
    obtain ⟨hid, hsigned⟩ := hpost.2 row' hrow'
    rw [hid]
    exact ⟨hpost.1, hsigned⟩

end

section

variable [Deployment] [Python] [Ed25519]

/-- A request that stores, signs or revokes a packet. -/
inductive PacketCall where
  | persist (tenantId : Option String) (packet : Document) (generatedBy : Option String)
  | sign (tenantId : Option String) (packetId : String) (signedBy : Option String)
      (recordAudit : Bool)
  | revoke (tenantId : Option String) (packetId reason : String)
      (revokedBy : Option String)

omit [Deployment] [Python] [Ed25519] in
/-- The packet a request names, in the caller's tenant. -/
def loadPacket (tenantId : Option String) (packetId : String) :
    StoreSession EvidencePacket := do
  match ← peek fun S => getPacket S.governance packetId tenantId with
  | some row => return row
  | none => throw (.http 404 "not_found")

omit [Deployment] [Python] [Ed25519] in
theorem traced_loadPacket {tenantId : Option String} {packetId : String}
    {adm : (q : StoreCall) → StoreReply q → Store → Prop}
    {post : List StoreEvent → Except PyErr EvidencePacket → Store → Prop}
    {before : List StoreEvent} {S : Store}
    (hfound : ∀ packet, S.governance.packets.find? packetId = some packet →
      post (before ++ [⟨.select, ()⟩]) (.ok packet) S)
    (hmissing : post (before ++ [⟨.select, ()⟩]) (.error (.http 404 "not_found")) S) :
    (loadPacket tenantId packetId).traced adm post before S := by
  unfold loadPacket
  simp only [Prog.bind_eq]
  rw [Prog.traced_bind]
  apply traced_peek
  rw [Prog.tracedThen_ok]
  cases hget : getPacket S.governance packetId tenantId with
  | none => exact hmissing
  | some packet =>
      rw [getPacket, Option.filter_eq_some_iff] at hget
      exact hfound packet hget.1

def PacketCall.run (settings : Settings) : PacketCall → StoreSession EvidencePacket
  | .persist tenantId packet generatedBy =>
      persistPacket settings tenantId packet generatedBy
  | .sign tenantId packetId signedBy recordAudit => do
      let packet ← loadPacket tenantId packetId
      signPacket settings packet signedBy none recordAudit
  | .revoke tenantId packetId reason revokedBy => do
      let packet ← loadPacket tenantId packetId
      revokePacket packet reason revokedBy

/-- One request after the other; one that raises is answered with an error and
the next one follows. -/
def runCalls (settings : Settings) : List PacketCall → StoreSession Unit
  | [] => pure ()
  | call :: rest => do
      (do let _ ← call.run settings).handle fun _ => pure ()
      runCalls settings rest

theorem PacketCall.run_tracks {settings : Settings} (call : PacketCall)
    {packetId : String} {trace : List StoreEvent} {S : Store}
    (h : Tracks settings.evidencePacketTtlDays packetId trace S) :
    (call.run settings).traced anyAnswer
      (fun trace' _ S' => Tracks settings.evidencePacketTtlDays packetId trace' S')
      trace S := by
  cases call with
  | persist tenantId packet generatedBy => exact persistPacket_tracks rfl h
  | sign tenantId id signedBy recordAudit =>
      unfold PacketCall.run
      simp only [Prog.bind_eq]
      rw [Prog.traced_bind]
      apply traced_loadPacket
      · intro packet hfind
        have hid := Table.key_of_find? hfind
        have hheld : Held packet S := by
          intro row hrow
          rw [show packet.id = id from hid, hfind] at hrow
          cases hrow
          exact ⟨rfl, rfl⟩
        apply Prog.traced_mono (signPacket_tracks _ hheld h.select)
        · intro trace' result S' hpost
          exact hpost.1
        · rfl
      · exact h.select
  | revoke tenantId id reason revokedBy =>
      unfold PacketCall.run
      simp only [Prog.bind_eq]
      rw [Prog.traced_bind]
      apply traced_loadPacket
      · intro packet _
        exact revokePacket_tracks h.select
      · exact h.select

theorem runCalls_tracks {settings : Settings} (calls : List PacketCall)
    {packetId : String} {trace : List StoreEvent} {S : Store}
    (h : Tracks settings.evidencePacketTtlDays packetId trace S) :
    (runCalls settings calls).traced anyAnswer
      (fun trace' _ S' => Tracks settings.evidencePacketTtlDays packetId trace' S')
      trace S := by
  induction calls generalizing trace S with
  | nil => exact h
  | cons call rest ih =>
      unfold runCalls
      simp only [Prog.bind_eq]
      rw [Prog.traced_bind, Prog.traced_handle, Prog.traced_bind]
      apply Prog.traced_mono (call.run_tracks h)
      intro trace' result S' htracks
      cases result with
      | ok row => exact ih htracks
      | error e => exact ih htracks

/-- What a stored packet is verified as, whatever was done after it was stored:
revoked once it was revoked, else expired after the last signing time plus the
days of the settings, else valid. -/
theorem persisted_packet_verdict {settings : Settings} {tenantId : Option String}
    {packet : Document} {generatedBy : Option String} {calls : List PacketCall}
    {S₀ S₁ S₂ : Store} {trace trace' : List StoreEvent} {row : EvidencePacket}
    {result : Except PyErr Unit}
    (hdigest : ∀ text, (Deployment.sha256 text).length = 64)
    (hpersist : Prog.Runs anyAnswer (persistPacket settings tenantId packet generatedBy)
      S₀ trace (.ok row) S₁)
    (hcalls : Prog.Runs anyAnswer (runCalls settings calls) S₁ trace' result S₂) :
    ∃ stored window, S₂.governance.packets.find? row.id = some stored ∧
      (Lifecycle.of row.id (trace ++ trace')).signing = some window ∧
      ∀ now, ∃ v, verifyPacket stored now = .ok v ∧ v.status =
        if (Lifecycle.of row.id (trace ++ trace')).revoked then .revoked
        else if window.start.wall + settings.evidencePacketTtlDays * microsPerDay < now.wall
          then .expired
        else .valid := by
  have hstart := Prog.traced_sound (persistPacket_starts hdigest) hpersist row rfl
  rw [List.nil_append] at hstart
  obtain ⟨htracks, hsigned⟩ := hstart
  obtain ⟨stored, hfind, hfollows⟩ :=
    Prog.traced_sound (runCalls_tracks calls htracks) hcalls
  have hsigned' := Lifecycle.signing_append hsigned trace'
  obtain ⟨window, hwindow⟩ := Option.isSome_iff_exists.mp hsigned'
  refine ⟨stored, window, hfind, hwindow, ?_⟩
  intro now
  obtain ⟨v, hv, hstatus⟩ := verifyPacket_of_follows hfollows now
  refine ⟨v, hv, ?_⟩
  rw [hstatus, Lifecycle.verdict, hwindow, ← hfollows.term window hwindow]

end

section Sample

/-- An interpreter for packets without floats. -/
@[reducible] def plainPython : Python where
  Float := Unit
  format := {
    parse := fun _ => ()
    nan := ()
    infinity := ()
    negInfinity := ()
    text := fun _ => ['0', '.', '0']
    text_spec := by
      intro x
      have hzero : JsonNumber.IsDigits ['0'] := by
        refine ⟨List.cons_ne_nil _ _, ?_⟩
        intro c hc
        rw [List.mem_singleton.mp hc]
        rfl
      right
      right
      right
      refine ⟨⟨false, ['0'], ['.', '0'], [], Or.inl rfl, Or.inr ⟨_, hzero, rfl⟩,
        Or.inl rfl⟩, ?_, rfl, rfl⟩
      simp [JsonNumber.Literal.IsFloat] }
  floatRepr := fun _ => Text.ofString "0.0"
  floatZero := fun _ => true
  isPrintable := fun _ => true

/-- A key pair whose signature of one payload verifies for no other. -/
@[reducible] def keyPair (payload : String) : Ed25519 where
  sign text := List.replicate 64 (if text = payload then 1 else 0)
  verify signature text := signature = List.replicate 64 (if text = payload then 1 else 0)
  publicKeyHex := Hex.encode []
  sign_length _ := List.length_replicate
  verify_sign _ := decide_eq_true rfl

theorem keyPair_binds {payload forged : String}
    (h : (keyPair payload).verify ((keyPair payload).sign payload) forged = true) :
    forged = payload := by
  have hbytes : List.replicate 64 (if payload = payload then (1 : UInt8) else 0) =
      List.replicate 64 (if forged = payload then 1 else 0) := of_decide_eq_true h
  by_contra hne
  rw [if_pos rfl, if_neg hne] at hbytes
  cases hbytes

local instance instPacketDeployment : Deployment := .sqlite
local instance instPacketPython : Python := plainPython
def packetFields : Dict :=
  [("packet_type", .str "governed_action"), ("scope_id", .str "g1"),
    ("tenant_id", .str "t1"), ("generated_at", .str "2026-01-05T09:30:00+00:00"),
    ("tenant", .obj [("id", .str "t1")]), ("workflow", .null), ("time_range", .null),
    ("governed_actions", .arr []), ("approvals", .arr []), ("policy_decisions", .arr []),
    ("execution_history", .arr []), ("audit_events", .arr []),
    ("audit_chain_verification", .obj [("scope", .str "tenant"),
      ("status", .str "empty"), ("verified_count", .num 0), ("total_count", .num 0),
      ("reason", .null)]),
    ("mapped_controls", .arr []), ("mapped_regulations", .arr []),
    ("evidence_artifacts", .arr []), ("overrides", .arr []),
    ("evidence_gaps", .arr [.str "missing_approval"]),
    ("disclaimer", .str "Control mapping only."), ("executive_summary", .str "")]

def samplePacket : Document where
  fields := packetFields
  distinct := by simp [packetFields]

local instance instPacketKey : Ed25519 := keyPair (signingPayload "row1" (some 1)
  (some (computePacketHash (Value.ofFields packetFields))))

/-- Nothing fails, and every answer names a new row. -/
def packetAnswers (n : Nat) : (q : StoreCall) → StoreReply q
  | .clock => AuditService.sampleCreated.createdAt.moment
  | .select => ()
  | .commit _ => ⟨s!"row{n}", AuditService.sampleCreated.createdAt.moment, none, ""⟩
  | .pipeline call => quiet AuditService.sampleCreated.createdAt.moment s!"row{n}" call

def storedPacket : List StoreEvent × Except PyErr EvidencePacket × Store :=
  (persistPacket {} (some "t1") samplePacket (some "u1")).exec packetAnswers 0 {}

/-- The packet is revoked and then signed once more. -/
def resignedPacket : List StoreEvent × Except PyErr Unit × Store :=
  (runCalls {} [.revoke none "row1" "superseded" none, .sign none "row1" none true]).exec
    packetAnswers 20 storedPacket.2.2

theorem revoked_packet_stays_revoked :
    ∃ stored, resignedPacket.2.2.governance.packets.find? "row1" = some stored ∧
      ∀ now, ∃ v, verifyPacket stored now = .ok v ∧ v.status = .revoked := by
  have hid : storedPacket.2.1.toOption.map EvidencePacket.id = some "row1" := by
    decide +kernel
  have hrevoked :
      (Lifecycle.of "row1" (storedPacket.1 ++ resignedPacket.1)).revoked = true := by
    decide +kernel
  cases hrow : storedPacket.2.1 with
  | error e =>
      rw [hrow] at hid
      cases hid
  | ok row =>
      rw [hrow] at hid
      have hrow_id : row.id = "row1" := Option.some.inj hid
      have hany : ∀ n q s, anyAnswer q (packetAnswers n q) s := fun _ _ _ => trivial
      have hpersist := Prog.runs_exec hany
        (persistPacket {} (some "t1") samplePacket (some "u1")) 0 {}
      have hcalls := Prog.runs_exec hany
        (runCalls {} [.revoke none "row1" "superseded" none, .sign none "row1" none true])
        20 storedPacket.2.2
      have hpersist' : Prog.Runs anyAnswer
          (persistPacket {} (some "t1") samplePacket (some "u1")) {} storedPacket.1
          (.ok row) storedPacket.2.2 := by
        rw [← hrow]
        exact hpersist
      obtain ⟨stored, window, hfind, _, hverdict⟩ :=
        persisted_packet_verdict Sha256.length_hexdigest hpersist' hcalls
      rw [hrow_id] at hfind
      refine ⟨stored, hfind, ?_⟩
      intro now
      obtain ⟨v, hv, hstatus⟩ := hverdict now
      refine ⟨v, hv, hstatus.trans (if_pos ?_)⟩
      rw [hrow_id]
      exact hrevoked

end Sample

end ControlPlane
