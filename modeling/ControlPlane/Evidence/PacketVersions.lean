import ControlPlane.Evidence.PacketLifecycle
import ControlPlane.Lib.Numbering

/-!
The versions of the packets of a scope. A call of `persist_packet` gives its row
the next version of the rows it can see and supersedes the active ones among
them. For a caller with a tenant these are the rows of one key. A caller without
one sees the rows of every tenant, and stores a row that belongs to none: the
tenants it took the active packet from are left without one.

What is said here is about the key, version and status of the stored rows, which
signing does not touch.
-/

namespace ControlPlane.EvidenceStore

open Lib EvidenceSignature

/-- What versioning looks at in a stored packet. -/
structure Slot where
  id : String
  tenantId : Option String
  scopeType : String
  scopeId : Option String
  version : Option Int
  status : String
  deriving DecidableEq, Repr

def slot (row : EvidencePacket) : Slot where
  id := row.id
  tenantId := row.tenantId
  scopeType := row.scopeType
  scopeId := row.scopeId
  version := row.version
  status := row.retentionStatus

def slots (g : Governance) : List Slot := g.packets.rows.map slot

def Slot.number (s : Slot) : Int := s.version.getD 0

def Slot.Active (s : Slot) : Prop := s.status = "active"

instance (s : Slot) : Decidable s.Active := inferInstanceAs (Decidable (_ = _))

def Slot.superseded (s : Slot) : Slot := { s with status := "superseded" }

def Slot.retire (ids : List String) (s : Slot) : Slot :=
  if s.id ∈ ids then s.superseded else s

theorem Slot.retire_superseded (ids : List String) (s : Slot) :
    s.superseded.retire ids = s.superseded := by
  unfold Slot.retire
  split <;> rfl

/-- The slots a caller sees in a scope. -/
def scopeSlots (scopeType : String) (scopeId tenantId : Option String)
    (L : List Slot) : List Slot :=
  L.filter fun s => s.scopeType = scopeType && s.scopeId = scopeId &&
    inScope tenantId s.tenantId

theorem scopeSlots_eq (scopeType : String) (scopeId tenantId : Option String)
    (g : Governance) : scopeSlots scopeType scopeId tenantId (slots g) =
      (scopeRows scopeType scopeId tenantId g.packets).map slot := by
  rw [scopeSlots, slots, List.filter_map]
  rfl

theorem nextVersion_eq (rows : List EvidencePacket) :
    nextVersion rows = nextNumber ((rows.map slot).map Slot.number) := by
  cases rows with
  | nil => rfl
  | cons row rows =>
      have hnumbers : ((row :: rows).map slot).map Slot.number =
          row.version.getD 0 :: rows.map fun p => p.version.getD 0 := by
        rw [List.map_map]
        rfl
      rw [hnumbers, nextNumber, List.max?_cons', Option.getD_some]
      simp [nextVersion]

theorem slots_ids_nodup (g : Governance) : ((slots g).map Slot.id).Nodup := by
  have hids : (slots g).map Slot.id = g.packets.rows.map EvidencePacket.id := by
    rw [slots, List.map_map]
    rfl
  rw [hids]
  exact g.packets.key_nodup

theorem slot_superseded (row : EvidencePacket) :
    slot row.superseded = (slot row).superseded := rfl

theorem supersede_slots (packets : PacketTable) (ids : List String) :
    (supersede packets ids).rows.map slot = (packets.rows.map slot).map (Slot.retire ids) := by
  induction ids generalizing packets with
  | nil =>
      simp [supersede, Slot.retire]
  | cons id ids ih =>
      have hrest := ih (packets.modify id EvidencePacket.superseded)
      rw [supersede, List.foldl_cons]
      rw [supersede] at hrest
      rw [hrest]
      have hrows : (packets.modify id EvidencePacket.superseded).rows = packets.rows.map
          fun row => if row.id = id then row.superseded else row := rfl
      rw [hrows, List.map_map, List.map_map, List.map_map]
      apply List.map_congr_left
      intro row _
      simp only [Function.comp]
      by_cases hid : row.id = id
      · have hmem : (slot row).id ∈ id :: ids := List.mem_cons.mpr (Or.inl hid)
        rw [if_pos hid, slot_superseded, Slot.retire_superseded, Slot.retire, if_pos hmem]
      · have hiff : (slot row).id ∈ id :: ids ↔ (slot row).id ∈ ids := by
          simp [slot, hid]
        rw [if_neg hid, Slot.retire, Slot.retire]
        simp only [hiff]

section

variable [Deployment]

theorem insertPacket_slots {row : EvidencePacket} {superseded : List String}
    {r : DbReply} {g g' : Governance}
    (h : (GovernanceChange.insertPacket row superseded).apply r g = some g') :
    slots g' = (slots g).map (Slot.retire superseded) ++ [slot (row.inserted r)] := by
  obtain ⟨T, hinsert, rfl⟩ := Option.map_eq_some_iff.mp h
  have hrows := Table.rows_insert hinsert
  rw [slots, hrows, List.map_append, supersede_slots]
  rfl

theorem signPacket_slots {packetId signature : String} {signedAt : Moment}
    {expiry : Expiry} {r : DbReply} {g g' : Governance}
    (h : (GovernanceChange.signPacket packetId signature signedAt expiry).apply r g =
      some g') : slots g' = slots g := by
  cases h
  have hrows : (g.packets.modify packetId fun row => row.signed signature signedAt
      expiry).rows = g.packets.rows.map fun row =>
        if row.id = packetId then row.signed signature signedAt expiry else row := rfl
  rw [slots, hrows, List.map_map]
  apply List.map_congr_left
  intro row _
  simp only [Function.comp]
  split <;> rfl

/-- The program leaves the slots alone. -/
def KeepsSlots {α : Type} (p : StoreSession α) : Prop :=
  p.Keeps fun S => slots S.governance

variable [Ed25519]

omit [Deployment] [Ed25519] in
theorem quiet_reloadPacket (packetId : String) : Quiet (reloadPacket packetId) :=
  (quiet_peek _).bind fun row => quiet_foundAgain row

theorem keepsSlots_signPacket (settings : Settings) (packet : EvidencePacket)
    (signedBy : Option String) (ttlDays : Option Int) (recordAudit : Bool) :
    KeepsSlots (signPacket settings packet signedBy ttlDays recordAudit) := by
  unfold signPacket
  refine Prog.Keeps.bind (quiet_readClock.keeps slots) fun signedAt => ?_
  refine Prog.Keeps.bind (quiet_readClock.keeps slots) fun now => ?_
  split
  · exact (quiet_raise _).keeps slots
  · refine Prog.Keeps.bind (keeps_commitChange fun r g g' => signPacket_slots) fun _ => ?_
    refine Quiet.keeps ((quiet_reloadPacket _).bind fun row => ?_) slots
    split
    · exact (quiet_recordEvent _).bind fun _ => quiet_pure _
    · exact quiet_pure _

theorem keepsSlots_announcePacket (settings : Settings)
    (tenantId generatedBy : Option String) (scopeType : String) (scopeId : Option String)
    (version : Int) (packetId : String) :
    KeepsSlots (announcePacket settings tenantId generatedBy scopeType scopeId version
      packetId) := by
  unfold announcePacket
  refine Prog.Keeps.bind ((quiet_reloadPacket _).keeps slots) fun row => ?_
  refine Prog.Keeps.bind ((quiet_recordEvent _).keeps slots) fun _ => ?_
  exact keepsSlots_signPacket _ _ _ _ _

end

/-- The scope a packet is stored under, once its values can be bound. -/
def scopeOf (packet : Document) : Except PyErr (String × Option String) := do
  let scopeType ← requiredText ((packet.fields.get? "packet_type").getD
    (.str "governed_action"))
  let scopeId ← columnText ((packet.fields.get? "scope_id").getD .null)
  return (scopeType, scopeId)

/-- A new slot among those of its scope: it supersedes the active ones that its
caller sees. -/
def placed (id : String) (tenantId : Option String) (scope : String × Option String)
    (L : List Slot) : List Slot :=
  let seen := scopeSlots scope.1 scope.2 tenantId L
  L.map (Slot.retire ((seen.filter fun s => s.Active).map Slot.id)) ++
    [⟨id, tenantId, scope.1, scope.2, some (nextNumber (seen.map Slot.number)), "active"⟩]

section

variable [Deployment]

/-- A packet was inserted by a call that found the store `S`. -/
def Inserts (S : Store) (trace : List StoreEvent) : Prop :=
  ∃ row superseded, ∃ r : DbReply, ⟨.commit (.insertPacket row superseded), r⟩ ∈ trace ∧
    ¬Refused (.insertPacket row superseded) r S

/-- What a call of `persist_packet` does to the slots. -/
inductive Stores (tenantId : Option String) (packet : Document) (S : Store)
    (trace : List StoreEvent) (S' : Store) : Prop where
  | kept (hnone : ¬Inserts S trace) (h : slots S'.governance = slots S.governance)
  | stored (hsome : Inserts S trace) {scope : String × Option String} {id : String}
      (hscope : scopeOf packet = .ok scope)
      (h : slots S'.governance = placed id tenantId scope (slots S.governance))

variable [Python]

theorem placed_slots {tenantId : Option String} {packet : Document} {S : Store}
    {row : EvidencePacket} {superseded : List String} {r : DbReply} {g : Governance}
    (hrendered : Rendered tenantId packet row)
    (hplaced : Placed tenantId S row superseded)
    (happly : (GovernanceChange.insertPacket row superseded).apply r S.governance =
      some g) :
    slots g = placed r.newId tenantId (row.scopeType, row.scopeId)
      (slots S.governance) := by
  have hslot : slot (row.inserted r) = ⟨r.newId, tenantId, row.scopeType, row.scopeId,
      some (nextNumber ((scopeSlots row.scopeType row.scopeId tenantId
        (slots S.governance)).map Slot.number)), "active"⟩ := by
    rw [scopeSlots_eq, ← nextVersion_eq, ← hplaced.version, ← hplaced.status,
      ← hrendered.tenant]
    rfl
  have hids : superseded = ((scopeSlots row.scopeType row.scopeId tenantId
      (slots S.governance)).filter fun s => s.Active).map Slot.id := by
    rw [hplaced.superseded, scopeSlots_eq, List.filter_map, List.map_map]
    rfl
  rw [insertPacket_slots happly, hslot, hids]
  rfl

variable [Ed25519]

/-- The calls after the commit leave the slots as they are. -/
theorem persist_stores {adm : (q : StoreCall) → StoreReply q → Store → Prop}
    {settings : Settings} {tenantId generatedBy : Option String} {packet : Document}
    {S S' : Store} {trace : List StoreEvent} {result : Except PyErr EvidencePacket}
    (h : Prog.Runs adm (persistPacket settings tenantId packet generatedBy) S trace result
      S') : Stores tenantId packet S trace S' := by
  have hpost : (persistPacket settings tenantId packet generatedBy).traced adm
      (fun trace _ S' => Stores tenantId packet S trace S') [] S := by
    apply traced_persistPacket
    · intro e
      exact .kept (by simp [Inserts]) rfl
    · intro e
      exact .kept (by simp [Inserts]) rfl
    · intro row superseded r e _ hrefused
      refine .kept ?_ rfl
      rintro ⟨row', superseded', r', hmem, haccepted⟩
      have heq : (⟨.commit (.insertPacket row' superseded'), r'⟩ : StoreEvent) =
          ⟨.commit (.insertPacket row superseded), r⟩ := by simpa using hmem
      cases heq
      exact haccepted hrefused
    · intro row superseded version r g hrendered hplaced hfail happly
      have hmem : ∀ trace, Inserts S ([] ++ [⟨.select, ()⟩] ++
          [⟨.commit (.insertPacket row superseded), r⟩] ++ trace) := by
        intro trace
        refine ⟨row, superseded, r, by simp, ?_⟩
        rintro (hrefused | hrefused)
        · exact hrefused hfail
        · rw [happly] at hrefused
          cases hrefused
      have hscope : scopeOf packet = .ok (row.scopeType, row.scopeId) := by
        rw [scopeOf, hrendered.scopeType, hrendered.scopeId]
        rfl
      apply Prog.traced_of_runs
      intro trace result S' hrun
      have hslots := ((keepsSlots_announcePacket _ _ _ _ _ _ _).run hrun).trans
        (placed_slots hrendered hplaced happly)
      exact .stored (hmem trace) hscope hslots
  exact Prog.traced_sound hpost h

end

/-- The stored packets of a key, in the order they were stored. -/
def keyRows (g : Governance) (tenantId : Option String) (scopeType : String)
    (scopeId : Option String) : List EvidencePacket :=
  g.packets.rows.filter fun p =>
    p.tenantId = tenantId && p.scopeType = scopeType && p.scopeId = scopeId

/-- Versions increase in the order of storing, and there is one active packet,
which has the highest. -/
structure Versioned (rows : List EvidencePacket) : Prop where
  present : ∀ p ∈ rows, p.version.isSome
  increasing : rows.Pairwise fun p q => p.version.getD 0 < q.version.getD 0
  active : ∃ p ∈ rows, p.retentionStatus = "active" ∧
    (∀ q ∈ rows, q.retentionStatus = "active" → q = p) ∧
    ∀ q ∈ rows, q.version.getD 0 ≤ p.version.getD 0

/-- Every key with a stored packet. -/
def AllVersioned (g : Governance) : Prop :=
  ∀ tenantId scopeType scopeId, keyRows g tenantId scopeType scopeId ≠ [] →
    Versioned (keyRows g tenantId scopeType scopeId)

def keySlots (tenantId : Option String) (scopeType : String) (scopeId : Option String)
    (L : List Slot) : List Slot :=
  L.filter fun s =>
    s.tenantId = tenantId && s.scopeType = scopeType && s.scopeId = scopeId

theorem keySlots_eq (g : Governance) (tenantId : Option String) (scopeType : String)
    (scopeId : Option String) : keySlots tenantId scopeType scopeId (slots g) =
      (keyRows g tenantId scopeType scopeId).map slot := by
  rw [keySlots, slots, List.filter_map]
  rfl

/-- The same for slots, and for keys without a packet too. -/
structure Keyed (L : List Slot) : Prop where
  present : ∀ s ∈ L, s.version.isSome
  numbered : ∀ tenantId scopeType scopeId,
    Numbered Slot.number Slot.Active (keySlots tenantId scopeType scopeId L)

theorem Keyed.allVersioned {g : Governance} (h : Keyed (slots g)) : AllVersioned g := by
  intro tenantId scopeType scopeId hne
  have hnumbered := h.numbered tenantId scopeType scopeId
  rw [keySlots_eq, numbered_map] at hnumbered
  obtain ⟨p, hp, hactive⟩ := hnumbered.exists_live hne
  refine ⟨fun q hq => ?_, hnumbered.increasing, p, hp, hactive, fun q hq hq' => ?_, ?_⟩
  · exact h.present (slot q) (List.mem_map_of_mem (List.mem_of_mem_filter hq))
  · exact hnumbered.live_unique hq hp hq' hactive
  · exact (hnumbered.newest p hp).mp hactive

section

variable {L : List Slot} {tenantId : Option String} {scope : String × Option String}
  {id : String}

@[simp] theorem number_retire (ids : List String) (s : Slot) :
    (s.retire ids).number = s.number := by
  unfold Slot.retire
  split <;> rfl

theorem version_retire (ids : List String) (s : Slot) :
    (s.retire ids).version = s.version := by
  unfold Slot.retire
  split <;> rfl

theorem keySlots_retire (ids : List String) (t : Option String) (scopeType : String)
    (scopeId : Option String) : keySlots t scopeType scopeId (L.map (Slot.retire ids)) =
      (keySlots t scopeType scopeId L).map (Slot.retire ids) := by
  rw [keySlots, keySlots, List.filter_map]
  congr 1
  apply List.filter_congr
  intro s _
  simp only [Function.comp, Slot.retire]
  split <;> rfl

theorem not_active_superseded (s : Slot) : ¬s.superseded.Active := by
  intro h
  exact absurd h (by simp [Slot.Active, Slot.superseded])

/-- The ids of the active slots a caller sees. -/
def seenActive (tenantId : Option String) (scope : String × Option String)
    (L : List Slot) : List String :=
  ((scopeSlots scope.1 scope.2 tenantId L).filter fun s => s.Active).map Slot.id

/-- A slot that was seen is not active afterwards. -/
theorem not_active_retire {s : Slot} {seen : List Slot} (hs : s ∈ seen) :
    ¬(s.retire ((seen.filter fun s => s.Active).map Slot.id)).Active := by
  unfold Slot.retire
  split
  · exact not_active_superseded s
  · next hnot =>
      intro hactive
      apply hnot
      exact List.mem_map_of_mem (List.mem_filter.mpr ⟨hs, by simpa using hactive⟩)

/-- A slot that the caller does not see stays as it is. -/
theorem retire_of_unseen {s : Slot} (hnodup : (L.map Slot.id).Nodup) (hmem : s ∈ L)
    (hs : s ∉ scopeSlots scope.1 scope.2 tenantId L) :
    s.retire (seenActive tenantId scope L) = s := by
  apply if_neg
  intro hid
  obtain ⟨s', hs', heq⟩ := List.mem_map.mp hid
  have hseen := List.mem_of_mem_filter hs'
  have hsame := List.inj_on_of_nodup_map hnodup (List.mem_of_mem_filter hseen) hmem heq
  exact hs (hsame ▸ hseen)

theorem mem_keySlots {s : Slot} {t : Option String} {scopeType : String}
    {scopeId : Option String} : s ∈ keySlots t scopeType scopeId L ↔
      s ∈ L ∧ s.tenantId = t ∧ s.scopeType = scopeType ∧ s.scopeId = scopeId := by
  simp [keySlots, List.mem_filter, and_assoc]

theorem mem_scopeSlots {s : Slot} {t : Option String} {scopeType : String}
    {scopeId : Option String} : s ∈ scopeSlots scopeType scopeId t L ↔
      s ∈ L ∧ s.scopeType = scopeType ∧ s.scopeId = scopeId ∧
        inScope t s.tenantId = true := by
  simp [scopeSlots, List.mem_filter, and_assoc]

theorem keySlots_placed (t : Option String) (scopeType : String)
    (scopeId : Option String) :
    keySlots t scopeType scopeId (EvidenceStore.placed id tenantId scope L) =
      (keySlots t scopeType scopeId L).map (Slot.retire (seenActive tenantId scope L)) ++
        if tenantId = t ∧ scope.1 = scopeType ∧ scope.2 = scopeId then
          [⟨id, tenantId, scope.1, scope.2, some (nextNumber
            ((scopeSlots scope.1 scope.2 tenantId L).map Slot.number)), "active"⟩]
        else [] := by
  rw [← keySlots_retire]
  simp only [EvidenceStore.placed, keySlots, seenActive, List.filter_append]
  congr 1
  simp [List.filter_cons, and_assoc]

/-- A row is stored where no tenant has one that its caller would supersede. -/
theorem Keyed.placed (h : Keyed L) (hnodup : (L.map Slot.id).Nodup)
    (hclear : tenantId = none →
      ∀ s ∈ scopeSlots scope.1 scope.2 none L, s.tenantId = none) :
    Keyed (EvidenceStore.placed id tenantId scope L) := by
  have hself : inScope tenantId tenantId = true := by
    cases tenantId <;> simp [inScope]
  constructor
  · intro s hs
    rcases List.mem_append.mp hs with hs | hs
    · obtain ⟨old, hold, rfl⟩ := List.mem_map.mp hs
      rw [version_retire]
      exact h.present old hold
    · rw [List.mem_singleton.mp hs]
      rfl
  · intro t scopeType scopeId
    have hold := h.numbered t scopeType scopeId
    rw [keySlots_placed]
    by_cases hkey : tenantId = t ∧ scope.1 = scopeType ∧ scope.2 = scopeId
    · -- the key of the new row: all its rows are seen
      obtain ⟨rfl, rfl, rfl⟩ := hkey
      have hseen : ∀ s ∈ keySlots tenantId scope.1 scope.2 L,
          s ∈ scopeSlots scope.1 scope.2 tenantId L := by
        intro s hs
        obtain ⟨hmem, ht, htype, hid⟩ := mem_keySlots.mp hs
        exact mem_scopeSlots.mpr ⟨hmem, htype, hid, by rw [ht]; exact hself⟩
      rw [if_pos ⟨rfl, rfl, rfl⟩]
      apply Numbered.renew
      · rw [List.pairwise_map]
        simpa only [number_retire] using hold.increasing
      · rfl
      · intro s hs
        obtain ⟨old, hmem, rfl⟩ := List.mem_map.mp hs
        exact not_active_retire (hseen old hmem)
      · intro s hs
        obtain ⟨old, hmem, rfl⟩ := List.mem_map.mp hs
        rw [number_retire]
        exact lt_nextNumber (List.mem_map_of_mem (hseen old hmem))
    · -- no row of another key is seen, or it would be a tenant's
      have hunseen : ∀ s ∈ keySlots t scopeType scopeId L,
          s ∉ scopeSlots scope.1 scope.2 tenantId L := by
        intro s hs hseen
        obtain ⟨hmem, ht, htype, hid⟩ := mem_keySlots.mp hs
        obtain ⟨_, htype', hid', hscope⟩ := mem_scopeSlots.mp hseen
        apply hkey
        refine ⟨?_, htype'.symm.trans htype, hid'.symm.trans hid⟩
        cases tenantId with
        | none => exact (hclear rfl s hseen).symm.trans ht
        | some own =>
            have hown : s.tenantId = some own := by simpa [inScope] using hscope
            exact hown.symm.trans ht
      have hsame : (keySlots t scopeType scopeId L).map
          (Slot.retire (seenActive tenantId scope L)) = keySlots t scopeType scopeId L := by
        calc (keySlots t scopeType scopeId L).map
              (Slot.retire (seenActive tenantId scope L))
          _ = (keySlots t scopeType scopeId L).map fun s => s :=
            List.map_congr_left fun s hs =>
              retire_of_unseen hnodup (mem_keySlots.mp hs).1 (hunseen s hs)
          _ = keySlots t scopeType scopeId L := List.map_id' _
      rw [if_neg hkey, List.append_nil, hsame]
      exact hold

/-- An unscoped caller leaves a tenant of the scope without an active packet. -/
theorem not_keyed_placed {s : Slot} {t : String}
    (hs : s ∈ scopeSlots scope.1 scope.2 none L) (ht : s.tenantId = some t) :
    keySlots (some t) scope.1 scope.2 (EvidenceStore.placed id none scope L) ≠ [] ∧
      ∀ s' ∈ keySlots (some t) scope.1 scope.2 (EvidenceStore.placed id none scope L),
        ¬s'.Active := by
  obtain ⟨hmem, htype, hid, _⟩ := mem_scopeSlots.mp hs
  rw [keySlots_placed, if_neg (by rintro ⟨⟨⟩, _⟩), List.append_nil]
  refine ⟨?_, fun s' hs' => ?_⟩
  · apply List.ne_nil_of_mem
    exact List.mem_map_of_mem (mem_keySlots.mpr ⟨hmem, ht, htype, hid⟩)
  · obtain ⟨old, hold, rfl⟩ := List.mem_map.mp hs'
    obtain ⟨hold, _, htype', hid'⟩ := mem_keySlots.mp hold
    exact not_active_retire (mem_scopeSlots.mpr ⟨hold, htype', hid', rfl⟩)

end

structure PersistCall where
  tenantId : Option String
  packet : Document
  generatedBy : Option String

/-- One call of a run: the store it found and the steps it made. -/
structure PersistStep where
  call : PersistCall
  before : Store
  trace : List StoreEvent

section

variable [Deployment] [Python] [Ed25519]

def PersistCall.run (settings : Settings) (call : PersistCall) :
    StoreSession EvidencePacket :=
  persistPacket settings call.tenantId call.packet call.generatedBy

/-- The calls follow one another, whether they return or raise. -/
inductive PersistRun (settings : Settings) (start : Store) :
    List PersistStep → Store → Prop where
  | nil : PersistRun settings start [] start
  | call {log : List PersistStep} {S S' : Store} (h : PersistRun settings start log S)
      (call : PersistCall) {trace : List StoreEvent}
      {result : Except PyErr EvidencePacket}
      (hrun : Prog.Runs anyAnswer (call.run settings) S trace result S') :
      PersistRun settings start (log ++ [⟨call, S, trace⟩]) S'

/-- The states of a run, the last one included. -/
def states (log : List PersistStep) (S : Store) : List Governance :=
  log.map (fun step => step.before.governance) ++ [S.governance]

omit [Python] [Ed25519] in
/-- A call without a tenant that stores a packet finds no packet of a tenant in its
scope. -/
def PersistStep.Clear (step : PersistStep) : Prop :=
  step.call.tenantId = none → Inserts step.before step.trace →
    ∀ scope, scopeOf step.call.packet = .ok scope →
      ∀ row ∈ scopeRows scope.1 scope.2 none step.before.governance.packets,
        row.tenantId = none

/-- What a call does to well-numbered slots. -/
theorem keyed_call {settings : Settings} {call : PersistCall} {S S' : Store}
    {trace : List StoreEvent} {result : Except PyErr EvidencePacket}
    (hrun : Prog.Runs anyAnswer (call.run settings) S trace result S')
    (h : Keyed (slots S.governance)) (hclear : PersistStep.Clear ⟨call, S, trace⟩) :
    Keyed (slots S'.governance) := by
  cases persist_stores hrun with
  | kept _ hslots =>
      rw [hslots]
      exact h
  | stored hsome hscope hslots =>
      rw [hslots]
      apply h.placed (slots_ids_nodup _)
      intro hnone s hs
      rw [scopeSlots_eq] at hs
      obtain ⟨row, hrow, rfl⟩ := List.mem_map.mp hs
      exact hclear hnone hsome _ hscope row hrow

/-- A call that is not clear takes the active packet of some tenant. -/
theorem not_versioned_call {settings : Settings} {call : PersistCall} {S S' : Store}
    {trace : List StoreEvent} {result : Except PyErr EvidencePacket}
    (hrun : Prog.Runs anyAnswer (call.run settings) S trace result S')
    (hclear : ¬PersistStep.Clear ⟨call, S, trace⟩) : ¬AllVersioned S'.governance := by
  intro hversioned
  apply hclear
  intro hnone hinserts scope hscope row hrow
  by_contra htenant
  obtain ⟨t, ht⟩ := Option.ne_none_iff_exists'.mp htenant
  cases persist_stores hrun with
  | kept hkept _ => exact hkept hinserts
  | @stored _ scope' id hscope' hslots =>
      obtain rfl : scope' = scope := Except.ok.inj (hscope'.symm.trans hscope)
      have hnone' : call.tenantId = none := hnone
      rw [hnone'] at hslots
      have hseen : slot row ∈ scopeSlots scope'.1 scope'.2 none (slots S.governance) := by
        rw [scopeSlots_eq]
        exact List.mem_map_of_mem hrow
      have hrows : keySlots (some t) scope'.1 scope'.2
            (EvidenceStore.placed id none scope' (slots S.governance)) ≠ [] ∧
          ∀ s' ∈ keySlots (some t) scope'.1 scope'.2
            (EvidenceStore.placed id none scope' (slots S.governance)), ¬s'.Active :=
        not_keyed_placed hseen ht
      rw [← hslots, keySlots_eq] at hrows
      obtain ⟨p, hp, hactive, _⟩ := (hversioned (some t) scope'.1 scope'.2
        (by simpa using hrows.1)).active
      exact hrows.2 (slot p) (List.mem_map_of_mem hp) hactive

theorem keyed_run {settings : Settings} {start S : Store} {log : List PersistStep}
    (hstart : start.governance.packets.rows = []) (h : PersistRun settings start log S)
    (hclear : ∀ step ∈ log, step.Clear) : Keyed (slots S.governance) := by
  induction h with
  | nil =>
      rw [slots, hstart]
      exact ⟨by simp, fun _ _ _ => numbered_nil⟩
  | call h call hrun ih =>
      apply keyed_call hrun
      · exact ih fun step hstep => hclear step (List.mem_append_left _ hstep)
      · exact hclear _ (by simp)

/-- From a table without packets, every state of a run is versioned if and only if no unscoped
call stored a packet next to one of a tenant. -/
theorem versioned_iff_clear {settings : Settings} {start S : Store}
    {log : List PersistStep} (hstart : start.governance.packets.rows = [])
    (h : PersistRun settings start log S) :
    (∀ g ∈ states log S, AllVersioned g) ↔ ∀ step ∈ log, step.Clear := by
  induction h with
  | nil =>
      refine iff_of_true ?_ (by simp)
      intro g hg
      obtain rfl : g = start.governance := by simpa [states] using hg
      have hnil : PersistRun settings start [] start := .nil
      exact (keyed_run hstart hnil (by simp)).allVersioned
  | @call log S S' h call trace result hrun ih =>
      have hstates : states (log ++ [⟨call, S, trace⟩]) S' =
          states log S ++ [S'.governance] := by
        simp [states]
      rw [hstates]
      constructor
      · intro hall step hstep
        have hbefore := ih.mp fun g hg => hall g (List.mem_append_left _ hg)
        rcases List.mem_append.mp hstep with hstep | hstep
        · exact hbefore step hstep
        · rw [List.mem_singleton.mp hstep]
          by_contra hnot
          exact not_versioned_call hrun hnot (hall _ (by simp))
      · intro hclear g hg
        rcases List.mem_append.mp hg with hg | hg
        · exact ih.mpr (fun step hstep => hclear step (List.mem_append_left _ hstep)) g hg
        · rw [List.mem_singleton.mp hg]
          exact (keyed_run hstart (h.call call hrun) hclear).allVersioned

end

section Sample

local instance instVersionsDeployment : Deployment := .sqlite
local instance instVersionsPython : Python := plainPython
local instance instVersionsKey : Ed25519 := keyPair ""

def persistBy (tenantId : Option String) : PersistCall where
  tenantId := tenantId
  packet := samplePacket
  generatedBy := none

/-- The store after a call, with answers that name new rows. -/
def afterPersist (call : PersistCall) (n : Nat) (S : Store) :
    List StoreEvent × Except PyErr EvidencePacket × Store :=
  (call.run {}).exec packetAnswers n S

theorem persistRun_exec {log : List PersistStep} {S : Store}
    (h : PersistRun {} {} log S) (call : PersistCall) (n : Nat) :
    PersistRun {} {} (log ++ [⟨call, S, (afterPersist call n S).1⟩])
      (afterPersist call n S).2.2 :=
  h.call call (Prog.runs_exec (fun _ _ _ => trivial) _ n S)

/-- The operator stores a packet, and then a tenant two of the same scope. -/
def operatorFirst : List PersistStep × Store :=
  let first := afterPersist (persistBy none) 0 {}
  let second := afterPersist (persistBy (some "t1")) 20 first.2.2
  let third := afterPersist (persistBy (some "t1")) 40 second.2.2
  ([⟨persistBy none, {}, first.1⟩, ⟨persistBy (some "t1"), first.2.2, second.1⟩,
    ⟨persistBy (some "t1"), second.2.2, third.1⟩], third.2.2)

theorem versioned_operator_first : operatorFirst.1.length = 3 ∧
    ∀ g ∈ states operatorFirst.1 operatorFirst.2, AllVersioned g := by
  refine ⟨rfl, ?_⟩
  have hrun : PersistRun {} {} operatorFirst.1 operatorFirst.2 :=
    persistRun_exec (persistRun_exec (persistRun_exec .nil (persistBy none) 0)
      (persistBy (some "t1")) 20) (persistBy (some "t1")) 40
  apply (versioned_iff_clear rfl hrun).mpr
  intro step hstep hnone hinserts scope hscope row hrow
  have hsteps : step = ⟨persistBy none, {}, (afterPersist (persistBy none) 0 {}).1⟩ ∨
      step.call = persistBy (some "t1") := by
    rcases List.mem_cons.mp hstep with rfl | hstep
    · exact Or.inl rfl
    · rcases List.mem_cons.mp hstep with rfl | hstep
      · exact Or.inr rfl
      · rw [List.mem_singleton.mp hstep]
        exact Or.inr rfl
  rcases hsteps with rfl | hcall
  · cases hrow
  · rw [hcall] at hnone
    cases hnone

/-- A tenant stores a packet, and then the operator one of the same scope. -/
def operatorSecond : List PersistStep × Store :=
  let first := afterPersist (persistBy (some "t1")) 0 {}
  let second := afterPersist (persistBy none) 20 first.2.2
  ([⟨persistBy (some "t1"), {}, first.1⟩, ⟨persistBy none, first.2.2, second.1⟩],
    second.2.2)

/-- After the operator's call the tenant has no active packet. -/
theorem operator_takes_active_packet : ∃ log S, PersistRun {} {} log S ∧
    ¬∀ g ∈ states log S, AllVersioned g := by
  refine ⟨operatorSecond.1, operatorSecond.2,
    persistRun_exec (persistRun_exec .nil (persistBy (some "t1")) 0) (persistBy none) 20,
    fun hall => ?_⟩
  have hstatus : (keyRows operatorSecond.2.governance (some "t1") "governed_action"
      (some "g1")).map EvidencePacket.retentionStatus = ["superseded"] := by
    decide +kernel
  have hversioned := hall operatorSecond.2.governance (by simp [states]) (some "t1")
    "governed_action" (some "g1")
  obtain ⟨p, hp, hactive, _⟩ := (hversioned (by
    intro hnil
    rw [hnil] at hstatus
    cases hstatus)).active
  have hmem := List.mem_map_of_mem (f := EvidencePacket.retentionStatus) hp
  rw [hstatus, hactive] at hmem
  simp at hmem

end Sample

end ControlPlane.EvidenceStore
