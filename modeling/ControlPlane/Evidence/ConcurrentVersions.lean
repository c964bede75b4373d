import ControlPlane.Evidence.PacketVersions
import ControlPlane.Lib.Allocators
import ControlPlane.Services.TrustScoreService

/-!
Versions that are handed out concurrently. `persist_packet` and the `_persist` of
the trust scores read the rows of their scope in one step and commit the next
version in another. No UNIQUE constraint keeps two callers that read the same rows
from storing the same version, and then two packets are active.
-/

namespace ControlPlane

open Lib

namespace EvidenceStore

open EvidencePackets EvidenceSignature

section

variable [Deployment]

/-- The change goes through in the store. -/
def accepts (change : GovernanceChange) (r : DbReply) (S : Store) : Bool :=
  match change.run r S with
  | .ok _ => true
  | .error _ => false

theorem accepts_eq_true {change : GovernanceChange} {r : DbReply} {S : Store}
    (h : accepts change r S = true) : ∃ g, change.apply r S.governance = some g ∧
      change.run r S = .ok { S with governance := g } := by
  unfold accepts at h
  cases hrun : change.run r S with
  | error e =>
      rw [hrun] at h
      cases h
  | ok S' =>
      obtain ⟨_, g, happly, rfl⟩ := GovernanceChange.run_eq_ok hrun
      exact ⟨g, happly, rfl⟩

theorem accepts_eq_false {change : GovernanceChange} {r : DbReply} {S : Store}
    (h : accepts change r S = false) : ∃ e, change.run r S = .error e := by
  unfold accepts at h
  cases hrun : change.run r S with
  | error e => exact ⟨e, rfl⟩
  | ok S' =>
      rw [hrun] at h
      cases h

def packetNumbering (tenantId : Option String) (scope : String × Option String) :
    Numbering Store StoreCall StoreReply Slot where
  rows S := scopeSlots scope.1 scope.2 tenantId (slots S.governance)
  key := Slot.id
  number := Slot.number
  retire seen := Slot.retire ((seen.filter fun s => s.Active).map Slot.id)
  make id n := ⟨id, tenantId, scope.1, scope.2, some n, "active"⟩
  reads
    | .select => true
    | _ => false
  inserts
    | .commit (.insertPacket row superseded), (r : DbReply), S =>
        accepts (.insertPacket row superseded) r S
    | _, _, _ => false
  key_retire _ s := by
    unfold Slot.retire
    split <;> rfl
  number_retire _ _ := number_retire _ _
  key_make _ _ := rfl
  number_make _ _ := rfl

variable {tenantId : Option String} {scope : String × Option String}

theorem quiet_leaves {α : Type} {p : StoreSession α} (hp : Quiet p) :
    p.Uses (packetNumbering tenantId scope).Leaves := by
  refine Prog.Uses.mono hp fun q w hq r S => ⟨?_, ?_⟩
  · cases q with
    | commit change => exact absurd rfl (hq.1 change)
    | clock => rfl
    | select => rfl
    | pipeline call => rfl
  · simp only [packetNumbering, hq.2 r S]

theorem signPacket_leaves {packetId signature : String} {signedAt : Moment}
    {expiry : Expiry} :
    (commitChange (.signPacket packetId signature signedAt expiry)).Uses
      (packetNumbering tenantId scope).Leaves := by
  have hkeeps : (commitChange (.signPacket packetId signature signedAt expiry)).Keeps
      fun S => slots S.governance :=
    keeps_commitChange fun _ _ _ => signPacket_slots
  refine ⟨fun r S => ⟨rfl, ?_⟩, fun r S => ?_⟩
  · exact congrArg (scopeSlots scope.1 scope.2 tenantId) (hkeeps.1 r S)
  · dsimp only
    cases GovernanceChange.run _ r S <;> trivial

def versionOf (row : EvidencePacket) : Int := row.version.getD 0

theorem scopeSlots_placed (L seen : List Slot) (s : Slot) (hs : s.scopeType = scope.1)
    (hs' : s.scopeId = scope.2) (htenant : s.tenantId = tenantId) :
    scopeSlots scope.1 scope.2 tenantId
        (L.map ((packetNumbering tenantId scope).retire seen) ++ [s]) =
      (scopeSlots scope.1 scope.2 tenantId L).map
        ((packetNumbering tenantId scope).retire seen) ++ [s] := by
  have hself : inScope tenantId tenantId = true := by
    cases tenantId <;> simp [inScope]
  have hmap : scopeSlots scope.1 scope.2 tenantId
      (L.map ((packetNumbering tenantId scope).retire seen)) =
        (scopeSlots scope.1 scope.2 tenantId L).map
          ((packetNumbering tenantId scope).retire seen) := by
    rw [scopeSlots, scopeSlots, List.filter_map]
    congr 1
    apply List.filter_congr
    intro x _
    simp only [Function.comp, packetNumbering, Slot.retire]
    split <;> rfl
  have hnew : scopeSlots scope.1 scope.2 tenantId [s] = [s] := by
    simp [scopeSlots, hs, hs', htenant, hself]
  rw [scopeSlots, List.filter_append]
  exact congrArg₂ _ hmap hnew

/-- The commit of a row with the next version of the rows that were read. -/
theorem holding_insertPacket {row : EvidencePacket} {superseded : List String}
    {seen : List Slot} {k : DbReply → StoreSession EvidencePacket}
    (hslot : ∀ r : DbReply, slot (row.inserted r) = (packetNumbering tenantId scope).make
      r.newId (nextNumber (seen.map Slot.number)))
    (hids : superseded = (seen.filter fun s => s.Active).map Slot.id)
    (hk : ∀ r : DbReply, (packetNumbering tenantId scope).Settles versionOf r.newId
      (nextNumber (seen.map Slot.number)) (k r)) :
    (packetNumbering tenantId scope).Holding versionOf seen
      ((commitChange (.insertPacket row superseded)).bind k) := by
  refine ⟨rfl, fun (r : DbReply) S => ⟨fun haccepted => ?_, fun hrefused => ?_⟩⟩
  · obtain ⟨g, happly, hrun⟩ := accepts_eq_true haccepted
    refine ⟨r.newId, ?_, ?_⟩
    · have hslots := insertPacket_slots happly
      rw [hslot r, hids] at hslots
      simp only [GovernanceChange.write, hrun]
      change scopeSlots scope.1 scope.2 tenantId (slots g) = _
      rw [hslots]
      exact scopeSlots_placed _ seen _ rfl rfl rfl
    · simp only [hrun]
      exact hk r
  · obtain ⟨e, hrun⟩ := accepts_eq_false hrefused
    refine ⟨?_, e, ?_⟩
    · simp only [GovernanceChange.write, hrun]
    · simp only [hrun]
      rfl

/-- A row that is read again has the number it was stored with. -/
theorem settles_reload {α : Type} {value : α → Int} {id : String} {n : Int}
    {f : EvidencePacket → StoreSession α}
    (hf : ∀ row, row.id = id → versionOf row = n →
      (packetNumbering tenantId scope).Settles value id n (f row)) :
    (packetNumbering tenantId scope).Settles value id n ((reloadPacket id).bind f) := by
  refine ⟨fun _ _ => ⟨rfl, rfl⟩, ?_⟩
  rintro _ S ⟨s, hs, hid, hn⟩
  change (packetNumbering tenantId scope).Settles value id n
    ((foundAgain (S.governance.packets.find? id)).bind f)
  cases hfind : S.governance.packets.find? id with
  | none => trivial
  | some row =>
      apply hf row (Table.key_of_find? hfind)
      obtain ⟨stored, hstored, rfl⟩ := List.mem_map.mp (List.mem_of_mem_filter hs)
      have hsame : stored = row := by
        have hfound := S.governance.packets.find?_key hstored
        have hkey : stored.id = id := hid
        rw [hkey, hfind] at hfound
        exact (Option.some.inj hfound).symm
      rw [← hsame]
      exact hn

variable [Ed25519]

theorem signPacket_settles {settings : Settings} {packet : EvidencePacket}
    {signedBy : Option String} {ttlDays : Option Int} {recordAudit : Bool} {n : Int} :
    (packetNumbering tenantId scope).Settles versionOf packet.id n
      (signPacket settings packet signedBy ttlDays recordAudit) := by
  unfold signPacket
  refine Numbering.Settles.bind (quiet_leaves quiet_readClock) fun signedAt => ?_
  refine Numbering.Settles.bind (quiet_leaves quiet_readClock) fun now => ?_
  split
  · trivial
  · refine Numbering.Settles.bind signPacket_leaves fun _ => ?_
    refine settles_reload fun row _ hn => ?_
    cases recordAudit with
    | true => exact Numbering.Settles.bind (quiet_leaves (quiet_recordEvent _)) fun _ => hn
    | false => exact hn

theorem announcePacket_settles {settings : Settings} {generatedBy : Option String}
    {scopeType : String} {scopeId : Option String} {version : Int} {id : String} {n : Int} :
    (packetNumbering tenantId scope).Settles versionOf id n
      (announcePacket settings tenantId generatedBy scopeType scopeId version id) := by
  unfold announcePacket
  refine settles_reload fun row hid _ => ?_
  refine Numbering.Settles.bind (quiet_leaves (quiet_recordEvent _)) fun _ => ?_
  rw [← hid]
  exact signPacket_settles

variable [Python]

/-- A call of `persist_packet` for the scope. -/
def Persists (settings : Settings) (tenantId : Option String)
    (scope : String × Option String) (p : StoreSession EvidencePacket) : Prop :=
  ∃ packet generatedBy, scopeOf packet = .ok scope ∧
    p = persistPacket settings tenantId packet generatedBy

theorem persists_client {settings : Settings} {p : StoreSession EvidencePacket}
    (hp : Persists settings tenantId scope p) :
    (packetNumbering tenantId scope).Client versionOf p := by
  obtain ⟨packet, generatedBy, hscope, rfl⟩ := hp
  unfold scopeOf at hscope
  unfold persistPacket
  cases htype : requiredText ((packet.fields.get? "packet_type").getD
      (.str "governed_action")) with
  | error e =>
      rw [htype] at hscope
      cases hscope
  | ok scopeType =>
  cases hid : columnText ((packet.fields.get? "scope_id").getD .null) with
  | error e =>
      rw [htype, hid] at hscope
      cases hscope
  | ok scopeId =>
  rw [htype, hid] at hscope
  cases hscope
  refine ⟨rfl, fun _ _ => ⟨rfl, rfl⟩, fun _ S => ?_⟩
  have hseen := scopeSlots_eq scopeType scopeId tenantId S.governance
  change (packetNumbering tenantId (scopeType, scopeId)).Holding versionOf _
    ((outcome (renderJson packet.fields)).bind _)
  cases renderJson packet.fields with
  | error e => trivial
  | ok jsonExport =>
  change (packetNumbering tenantId (scopeType, scopeId)).Holding versionOf _
    ((outcome (renderMarkdown (Value.ofFields packet.fields))).bind _)
  cases renderMarkdown (Value.ofFields packet.fields) with
  | error e => trivial
  | ok markdown =>
  apply holding_insertPacket
  · intro r
    have hversion := nextVersion_eq
      (scopeRows scopeType scopeId tenantId S.governance.packets)
    rw [← hseen] at hversion
    change slot _ = (⟨r.newId, tenantId, scopeType, scopeId, some (nextNumber
      ((scopeSlots scopeType scopeId tenantId (slots S.governance)).map Slot.number)),
      "active"⟩ : Slot)
    rw [← hversion]
    rfl
  · change _ = ((scopeSlots scopeType scopeId tenantId (slots S.governance)).filter
      fun s => s.Active).map Slot.id
    rw [hseen, List.filter_map, List.map_map]
    rfl
  · intro r
    exact announcePacket_settles

variable {τ : Type} [DecidableEq τ]

/-- Calls of `persist_packet` for one scope; a finished or abandoned one may be
replaced by the next. -/
def packetCallers (τ : Type) (settings : Settings) (tenantId : Option String)
    (scope : String × Option String) :
    System τ Store StoreCall StoreReply PyErr EvidencePacket Empty Empty :=
  Numbering.clients τ anyAnswer (Persists settings tenantId scope)

/-- The packets that the calls stored have distinct versions, calls that return have
distinct ones, and once a packet was stored, one packet of the scope is active. -/
structure DistinctPackets (tenantId : Option String) (scope : String × Option String)
    (start : Store)
    (P : Pool τ Store StoreCall StoreReply PyErr EvidencePacket Empty Empty) : Prop where
  stored : (((packetNumbering tenantId scope).added
    ((packetNumbering tenantId scope).rows start) P).map Slot.number).Nodup
  returned : ∀ t u row row', P.thread t = .pure row → P.thread u = .pure row' → t ≠ u →
    versionOf row ≠ versionOf row'
  active : (packetNumbering tenantId scope).added
    ((packetNumbering tenantId scope).rows start) P ≠ [] →
      ∃! row, row ∈ scopeRows scope.1 scope.2 tenantId P.store.governance.packets ∧
        row.retentionStatus = "active"

omit [Python] [Ed25519] [DecidableEq τ] in
/-- Slots with one active among them are slots of rows with one active among them. -/
theorem existsUnique_active {rows : List EvidencePacket}
    {prev : List Slot} {id : String} (hnodup : (rows.map EvidencePacket.id).Nodup)
    (h : rows.map slot = (packetNumbering tenantId scope).place prev prev id) :
    ∃! row, row ∈ rows ∧ row.retentionStatus = "active" := by
  have hnew : (packetNumbering tenantId scope).make id
      (nextNumber (prev.map Slot.number)) ∈ rows.map slot := by
    rw [h]
    exact List.mem_append_right _ List.mem_cons_self
  obtain ⟨row, hrow, hslot⟩ := List.mem_map.mp hnew
  refine ⟨row, ⟨hrow, congrArg Slot.status hslot⟩, ?_⟩
  rintro other ⟨hother, hactive⟩
  have hmem : slot other ∈ rows.map slot := List.mem_map_of_mem hother
  rw [h] at hmem
  rcases List.mem_append.mp hmem with hold | hlast
  · obtain ⟨s, hs, heq⟩ := List.mem_map.mp hold
    have hretired : ¬((packetNumbering tenantId scope).retire prev s).Active :=
      not_active_retire hs
    rw [heq] at hretired
    exact absurd hactive hretired
  · have hid : other.id = row.id := by
      have hsame := (List.mem_singleton.mp hlast).trans hslot.symm
      exact congrArg Slot.id hsame
    exact List.inj_on_of_nodup_map hnodup hother hrow hid

theorem distinctPackets_iff {settings : Settings} {start : Store}
    {calls : τ → StoreSession EvidencePacket}
    {P : Pool τ Store StoreCall StoreReply PyErr EvidencePacket Empty Empty}
    (hcalls : ∀ t, Persists settings tenantId scope (calls t))
    (hreach : (packetCallers τ settings tenantId scope).Reach ⟨start, calls, []⟩ P) :
    DistinctPackets tenantId scope start P ↔
      Isolated ((packetNumbering tenantId scope).ops P.history) := by
  have hclient : ∀ p, Persists settings tenantId scope p →
      (packetNumbering tenantId scope).Client versionOf p := fun _ => persists_client
  have hnodup := Numbering.added_nodup_iff hclient rfl hcalls hreach
  constructor
  · intro h
    exact hnodup.mp h.stored
  · intro hisolated
    refine ⟨hnodup.mpr hisolated, ?_, ?_⟩
    · intro t u row row' ht hu hne
      exact Numbering.returned_distinct hclient rfl hcalls hreach hisolated ht hu hne
    · intro hadded
      rcases Numbering.rows_serial hclient rfl hcalls hreach hisolated with
        hnone | ⟨prev, id, hplace⟩
      · exact absurd hnone hadded
      · have hrows := (scopeSlots_eq scope.1 scope.2 tenantId P.store.governance).symm
        apply existsUnique_active _ (hrows.trans hplace)
        exact P.store.governance.packets.key_nodup.sublist (List.filter_sublist.map _)

end

end EvidenceStore

namespace TrustScoreService

open EvidenceStore (accepts accepts_eq_true accepts_eq_false)

section

variable [Deployment]

def scoreNumbering (tenantId : Option String) (scope : String × String) :
    Numbering Store StoreCall StoreReply (String × Int) where
  rows S := (scopeScores scope.1 scope.2 tenantId S.governance).map
    fun row => (row.id, row.version)
  key := Prod.fst
  number := Prod.snd
  retire _ row := row
  make id n := (id, n)
  reads
    | .select => true
    | _ => false
  inserts
    | .commit (.insertScore row), (r : DbReply), S => accepts (.insertScore row) r S
    | _, _, _ => false
  key_retire _ _ := rfl
  number_retire _ _ := rfl
  key_make _ _ := rfl
  number_make _ _ := rfl

/-- A call of `_persist` for the scope. -/
def Persists (tenantId : Option String) (scope : String × String)
    (p : StoreSession TrustScore) : Prop :=
  ∃ result, p = persist tenantId scope.1 scope.2 result

variable {tenantId : Option String} {scope : String × String}

theorem persists_client {p : StoreSession TrustScore} (hp : Persists tenantId scope p) :
    (scoreNumbering tenantId scope).Client TrustScore.version p := by
  obtain ⟨result, rfl⟩ := hp
  have hself : inScope tenantId tenantId = true := by
    cases tenantId <;> simp [inScope]
  refine ⟨rfl, fun _ _ => ⟨rfl, rfl⟩, fun _ S => ?_⟩
  refine ⟨rfl, fun (r : DbReply) S' => ⟨fun haccepted => ?_, fun hrefused => ?_⟩⟩
  · obtain ⟨g, happly, hrun⟩ := accepts_eq_true haccepted
    obtain ⟨T, hinsert, rfl⟩ := Option.map_eq_some_iff.mp happly
    refine ⟨r.newId, ?_, ?_⟩
    · simp only [GovernanceChange.write, hrun]
      have hrows := Table.rows_insert hinsert
      simp [scoreNumbering, Numbering.place, scopeScores, hrows, scoreRow, hself, nextVersion,
        nextNumber, Function.comp_def]
    · simp only [hrun]
      refine ⟨fun _ _ => ⟨rfl, rfl⟩, ?_⟩
      rintro _ S'' ⟨entry, hentry, hid, hn⟩
      obtain ⟨stored, hstored, rfl⟩ := List.mem_map.mp hentry
      have hfound := S''.governance.scores.find?_key (List.mem_of_mem_filter hstored)
      have hkey : stored.id = r.newId := hid
      rw [hkey] at hfound
      change (scoreNumbering tenantId scope).Settles TrustScore.version r.newId _
        (foundAgain (S''.governance.scores.find? r.newId))
      rw [hfound]
      exact hn
  · obtain ⟨e, hrun⟩ := accepts_eq_false hrefused
    refine ⟨?_, e, ?_⟩
    · simp only [GovernanceChange.write, hrun]
    · simp only [hrun]
      rfl

variable {τ : Type} [DecidableEq τ]

def scoreCallers (τ : Type) (tenantId : Option String) (scope : String × String) :
    System τ Store StoreCall StoreReply PyErr TrustScore Empty Empty :=
  Numbering.clients τ anyAnswer (Persists tenantId scope)

/-- The scores that the calls stored have distinct versions, and calls that return
have distinct ones. -/
structure DistinctScores (tenantId : Option String) (scope : String × String)
    (start : Store)
    (P : Pool τ Store StoreCall StoreReply PyErr TrustScore Empty Empty) : Prop where
  stored : (((scoreNumbering tenantId scope).added
    ((scoreNumbering tenantId scope).rows start) P).map Prod.snd).Nodup
  returned : ∀ t u row row', P.thread t = .pure row → P.thread u = .pure row' → t ≠ u →
    row.version ≠ row'.version

theorem distinctScores_iff {start : Store} {calls : τ → StoreSession TrustScore}
    {P : Pool τ Store StoreCall StoreReply PyErr TrustScore Empty Empty}
    (hcalls : ∀ t, Persists tenantId scope (calls t))
    (hreach : (scoreCallers τ tenantId scope).Reach ⟨start, calls, []⟩ P) :
    DistinctScores tenantId scope start P ↔
      Isolated ((scoreNumbering tenantId scope).ops P.history) := by
  have hclient : ∀ p, Persists tenantId scope p →
      (scoreNumbering tenantId scope).Client TrustScore.version p :=
    fun _ => persists_client
  have hnodup := Numbering.added_nodup_iff hclient rfl hcalls hreach
  constructor
  · intro h
    exact hnodup.mp h.stored
  · intro hisolated
    refine ⟨hnodup.mpr hisolated, fun t u row row' ht hu hne => ?_⟩
    exact Numbering.returned_distinct hclient rfl hcalls hreach hisolated ht hu hne

end

end TrustScoreService

namespace EvidenceStore

open TrustScoreService (scoreCallers scoreNumbering DistinctScores)

/-- In every interleaving of calls for one scope the versions are distinct, and one
packet is active, if and only if no call stores between the reading and the storing
of another. -/
theorem concurrent_versions_iff [Deployment] [Python] [Ed25519] (τ : Type)
    [DecidableEq τ] (settings : Settings) (tenantId : Option String) (start : Store) :
    (∀ scope (calls : τ → StoreSession EvidencePacket) P,
      (∀ t, Persists settings tenantId scope (calls t)) →
      (packetCallers τ settings tenantId scope).Reach ⟨start, calls, []⟩ P →
      (DistinctPackets tenantId scope start P ↔
        Isolated ((packetNumbering tenantId scope).ops P.history))) ∧
    ∀ scope (calls : τ → StoreSession TrustScore) P,
      (∀ t, TrustScoreService.Persists tenantId scope (calls t)) →
      (scoreCallers τ tenantId scope).Reach ⟨start, calls, []⟩ P →
      (DistinctScores tenantId scope start P ↔
        Isolated ((scoreNumbering tenantId scope).ops P.history)) :=
  ⟨fun _ _ _ => distinctPackets_iff, fun _ _ _ => TrustScoreService.distinctScores_iff⟩

section Sample

local instance instConcurrentDeployment : Deployment := .sqlite
local instance instConcurrentPython : Python := plainPython
local instance instConcurrentKey : Ed25519 := keyPair ""

def sampleScope : String × Option String := ("governed_action", some "g1")

def packetCalls (_ : Bool) : StoreSession EvidencePacket :=
  persistPacket {} (some "t1") samplePacket none

def sampleScore : TrustScoreService.Result where
  score := 80
  scoreBand := "Strong"
  breakdown := []

def scoreCalls (_ : Bool) : StoreSession TrustScore :=
  TrustScoreService.persist (some "t1") "governed_action" "g1" sampleScore

/-- The calls take turns as listed; the answers name new rows. -/
def turns {α : Type} (order : List Bool) :
    List (System.Move Bool Store StoreCall StoreReply PyErr α Empty) :=
  order.zipIdx.map fun turn => .act turn.1 (packetAnswers turn.2)

def packetPool (order : List Bool) :
    Pool Bool Store StoreCall StoreReply PyErr EvidencePacket Empty Empty :=
  (packetCallers Bool {} (some "t1") sampleScope).play ⟨{}, packetCalls, []⟩ (turns order)

def scorePool (order : List Bool) :
    Pool Bool Store StoreCall StoreReply PyErr TrustScore Empty Empty :=
  (scoreCallers Bool (some "t1") ("governed_action", "g1")).play ⟨{}, scoreCalls, []⟩
    (turns order)

theorem packetCalls_persists (t : Bool) :
    Persists {} (some "t1") sampleScope (packetCalls t) :=
  ⟨samplePacket, none, rfl, rfl⟩

theorem packetPool_reach (order : List Bool) :
    (packetCallers Bool {} (some "t1") sampleScope).Reach ⟨{}, packetCalls, []⟩
      (packetPool order) := by
  apply System.reach_play
  intro P m hm
  obtain ⟨turn, _, rfl⟩ := List.mem_map.mp hm
  intro _ _ _ _
  trivial

theorem scorePool_reach (order : List Bool) :
    (scoreCallers Bool (some "t1") ("governed_action", "g1")).Reach ⟨{}, scoreCalls, []⟩
      (scorePool order) := by
  apply System.reach_play
  intro P m hm
  obtain ⟨turn, _, rfl⟩ := List.mem_map.mp hm
  intro _ _ _ _
  trivial

theorem isolated_one_by_one :
    Isolated [Allot.read false, .insert false, .read true, .insert true] := by
  have hops : Isolated ([] ++ [Allot.read false] ++ [.insert false] ++ [.read true] ++
      [.insert true]) := by
    simp only [Allocation.isolated_insert, Allocation.isolated_read,
      Allocation.upToDate_read, true_or, and_true]
    simp [Isolated]
  exact hops

/-- Two calls of each kind, one after the other. -/
theorem one_by_one_distinct :
    DistinctPackets (some "t1") sampleScope {} (packetPool [false, false, true, true]) ∧
    DistinctScores (some "t1") ("governed_action", "g1") {}
      (scorePool [false, false, true, true]) := by
  obtain ⟨hpackets, hscores⟩ := concurrent_versions_iff Bool {} (some "t1") {}
  constructor
  · apply (hpackets _ _ _ packetCalls_persists (packetPool_reach _)).mpr
    have hops : (packetNumbering (some "t1") sampleScope).ops
        (packetPool [false, false, true, true]).history =
          [.read false, .insert false, .read true, .insert true] := by
      decide
    rw [hops]
    exact isolated_one_by_one
  · apply (hscores _ _ _ (fun t => ⟨sampleScore, rfl⟩) (scorePool_reach _)).mpr
    have hops : (scoreNumbering (some "t1") ("governed_action", "g1")).ops
        (scorePool [false, false, true, true]).history =
          [.read false, .insert false, .read true, .insert true] := by
      decide
    rw [hops]
    exact isolated_one_by_one

/-- Both calls read before either stores. -/
theorem simultaneous_calls_share_version : ∃ P,
    (packetCallers Bool {} (some "t1") sampleScope).Reach ⟨{}, packetCalls, []⟩ P ∧
      ¬DistinctPackets (some "t1") sampleScope {} P := by
  refine ⟨_, packetPool_reach [false, true, false, true], fun h => ?_⟩
  have hversions : ((packetNumbering (some "t1") sampleScope).added
      ((packetNumbering (some "t1") sampleScope).rows {})
        (packetPool [false, true, false, true])).map Slot.number = [1, 1] := by
    decide
  have hstored := h.stored
  rw [hversions] at hstored
  exact absurd hstored (by decide)

end Sample

end EvidenceStore

end ControlPlane
