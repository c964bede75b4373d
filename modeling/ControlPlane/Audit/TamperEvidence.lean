import ControlPlane.Audit.Chain
import Mathlib.Data.Set.Function

/-!
Tamper evidence of the audit chain. Two tables that both verify and end in the
same hash agree on every hash-bound field of every chained row, however one was
obtained from the other. The ids of the rows and the rows from before the chain
are not bound.

The digest has to be injective on the payloads of the two tables only, and may
not produce the genesis hash from them: otherwise a table could continue the
other one backwards.
-/

namespace ControlPlane.AuditService

open Lib

section

variable [Deployment]

/-- The texts that are hashed when a table is verified. -/
def payloads (rows : List AuditEvent) : Set String :=
  {payload | ∃ row ∈ orderedChain rows,
    canonicalPayload row row.previousHash = .ok payload}

/-- The payload a link hashes is one of the table's. -/
theorem Link.payload {rows : List AuditEvent} {row : AuditEvent} {p q : String}
    (h : Link p row q) (hmem : row ∈ orderedChain rows) :
    ∃ payload ∈ payloads rows, canonicalPayload row (some p) = .ok payload ∧
      Deployment.sha256 payload = q := by
  obtain ⟨hprevious, hhash, _⟩ := h
  obtain ⟨payload, hpayload, hdigest⟩ := computeEventHash_eq_ok.mp hhash
  exact ⟨payload, ⟨row, hmem, hprevious ▸ hpayload⟩, hpayload, hdigest⟩

/-- Audit links can be followed backwards. -/
theorem link_backward {L L' : List AuditEvent}
    (hinj : Set.InjOn Deployment.sha256 (payloads L ∪ payloads L'))
    (hgenesis : ∀ payload ∈ payloads L ∪ payloads L',
      Deployment.sha256 payload ≠ genesisHash) :
    Chain.Backward Link genesisHash
      (fun row => hashBound row row.previousHash)
      (orderedChain L) (orderedChain L') where
  fresh := by
    intro p row hrow hlink
    rcases List.mem_append.mp hrow with hmem | hmem
    · obtain ⟨payload, hpayload, _, hdigest⟩ := hlink.payload hmem
      exact hgenesis payload (Or.inl hpayload) hdigest
    · obtain ⟨payload, hpayload, _, hdigest⟩ := hlink.payload hmem
      exact hgenesis payload (Or.inr hpayload) hdigest
  determined := by
    intro p p' q row hrow row' hrow' hlink hlink'
    obtain ⟨payload, hpayload, hcanonical, hdigest⟩ := hlink.payload hrow
    obtain ⟨payload', hpayload', hcanonical', hdigest'⟩ := hlink'.payload hrow'
    have heq : payload = payload' :=
      hinj (Or.inl hpayload) (Or.inr hpayload') (hdigest.trans hdigest'.symm)
    subst heq
    have hbound := canonicalPayload_inj hcanonical hcanonical'
    have hp : p = p' := Option.some.inj (congrArg HashBound.previousHash hbound)
    refine ⟨hp, ?_⟩
    simpa only [hlink.1, hlink'.1] using hbound

/-- Two verified tables whose last chained rows carry the same hash have the
same chain: as many rows, with the same bound fields in the same order. SHA-256 is
assumed to tell apart the payloads that occur in the two tables, and to map none of
them to the genesis hash. -/
theorem verified_same_head_same_chain {L L' : List AuditEvent}
    {result result' : ChainVerificationResult} {last last' : AuditEvent}
    (hinj : Set.InjOn Deployment.sha256 (payloads L ∪ payloads L'))
    (hgenesis : ∀ payload ∈ payloads L ∪ payloads L',
      Deployment.sha256 payload ≠ genesisHash)
    (hverify : verifyChain L = .ok result) (hstatus : result.status = .verified)
    (hverify' : verifyChain L' = .ok result')
    (hstatus' : result'.status = .verified)
    (hlast : chainHead L = some last) (hlast' : chainHead L' = some last')
    (hhead : last.eventHash = last'.eventHash) :
    (orderedChain L).length = (orderedChain L').length ∧
      (orderedChain L).map (fun row => hashBound row row.previousHash) =
        (orderedChain L').map fun row => hashBound row row.previousHash := by
  obtain ⟨_, ⟨q, hchain⟩, _⟩ := verifyChain_verified_iff.mp ⟨hverify, hstatus⟩
  obtain ⟨_, ⟨q', hchain'⟩, _⟩ :=
    verifyChain_verified_iff.mp ⟨hverify', hstatus'⟩
  have hq := head_eq_last_hash hchain hlast
  have hq' := head_eq_last_hash hchain' hlast'
  have heq : q = q' := Option.some.inj (hq.symm.trans (hhead.trans hq'))
  have hcontent := Chain.content_eq_of_head_eq (link_backward hinj hgenesis)
    hchain (heq ▸ hchain')
  exact ⟨by simpa using congrArg List.length hcontent, hcontent⟩

end

section Sample

local instance instSampleTable : Deployment := .sqlite

/-- The two events stored in the wrong order, the first under a free id. -/
def sampleTable (id : String) : List AuditEvent :=
  [sampleApproved, { sampleCreated with id := id }]

theorem sampleTable_ordered (id : String) :
    orderedChain (sampleTable id) =
      [{ sampleCreated with id := id }, sampleApproved] := by
  simp [sampleTable, orderedChain, chained, sampleApproved, sampleCreated,
    List.orderedInsert, seqLe]

theorem sampleTable_verified (id : String) :
    verifyChain (sampleTable id) = .ok (verifiedResult 2) := by
  refine (verifyChain_verified_iff.mpr ⟨?_, ?_, ?_⟩).1
  · simp [sampleTable_ordered]
  · rw [sampleTable_ordered]
    exact ⟨_, _, sampleCreated_link id, _, sampleApproved_link, rfl⟩
  · rw [sampleTable_ordered]
    rfl

theorem sampleTable_head (id : String) :
    chainHead (sampleTable id) = some sampleApproved := by
  rw [chainHead, sampleTable_ordered]
  rfl

theorem sampleTable_payloads {id payload : String}
    (h : payload ∈ payloads (sampleTable id)) :
    payload = sampleCreatedText ∨ payload = sampleApprovedText := by
  obtain ⟨row, hrow, hpayload⟩ := h
  rw [sampleTable_ordered] at hrow
  rcases List.mem_cons.mp hrow with rfl | hrow
  · exact Or.inl (Except.ok.inj (hpayload.symm.trans (sampleCreated_payload id)))
  · rw [List.mem_singleton.mp hrow, sampleApproved_payload] at hpayload
    exact Or.inr (Except.ok.inj hpayload).symm

/-- The first event was deleted and inserted again under another id: the chain
is the same. -/
theorem verified_same_head_same_chain_sample :
    (orderedChain (sampleTable "e1")).length =
        (orderedChain (sampleTable "e9")).length ∧
      (orderedChain (sampleTable "e1")).map
          (fun row => hashBound row row.previousHash) =
        (orderedChain (sampleTable "e9")).map
          fun row => hashBound row row.previousHash := by
  apply verified_same_head_same_chain _ _ (sampleTable_verified "e1") rfl
    (sampleTable_verified "e9") rfl (sampleTable_head "e1")
    (sampleTable_head "e9") rfl
  · have hne : Sha256.hexdigest sampleCreatedText ≠
        Sha256.hexdigest sampleApprovedText := by
      rw [sampleCreated_digest, sampleApproved_digest]
      decide
    intro x hx y hy hxy
    rcases hx.elim sampleTable_payloads sampleTable_payloads with rfl | rfl
    · rcases hy.elim sampleTable_payloads sampleTable_payloads with rfl | rfl
      · rfl
      · exact absurd hxy hne
    · rcases hy.elim sampleTable_payloads sampleTable_payloads with rfl | rfl
      · exact absurd hxy.symm hne
      · rfl
  · intro x hx
    rcases hx.elim sampleTable_payloads sampleTable_payloads with rfl | rfl
    · change Sha256.hexdigest sampleCreatedText ≠ genesisHash
      rw [sampleCreated_digest]
      decide
    · change Sha256.hexdigest sampleApprovedText ≠ genesisHash
      rw [sampleApproved_digest]
      decide

end Sample

end ControlPlane.AuditService
