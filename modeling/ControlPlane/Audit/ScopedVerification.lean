import ControlPlane.Audit.FirstBreak
import ControlPlane.Services.Reads
import Mathlib.Algebra.BigOperators.Group.Finset.Piecewise

/-!
`verify_tenant_events` beside `verify_chain`. Both look for the first row that does not
carry the hash of its contents; the one among the rows that carry the tenant, the other
among all rows and with the links between them. A row that no longer carries the tenant,
or no hash, is not looked at.
-/

namespace ControlPlane

open Lib

/-- Every link of a chain holds. -/
theorem Lib.Chain.exists_link {ρ δ : Type} {Link : δ → ρ → δ → Prop} {p q : δ}
    {rows : List ρ} (h : Chain Link p rows q) {row : ρ} (hrow : row ∈ rows) :
    ∃ m n, Link m row n := by
  induction rows generalizing p with
  | nil => cases hrow
  | cons r rest ih =>
      obtain ⟨m, hlink, hrest⟩ := h
      rcases List.mem_cons.mp hrow with rfl | hrow
      · exact ⟨p, m, hlink⟩
      · exact ih hrest hrow

namespace AuditService

section

variable [Deployment]

/-- The row carries the hash of its contents. -/
def OwnHash (row : AuditEvent) : Prop :=
  ∃ hash, computeEventHash row row.previousHash = .ok hash ∧ row.eventHash = some hash

/-- The row can be hashed, and carries another hash or none. -/
def Mismatch (row : AuditEvent) : Prop :=
  ∃ hash, computeEventHash row row.previousHash = .ok hash ∧ row.eventHash ≠ some hash

theorem Mismatch.not_ownHash {row : AuditEvent} (h : Mismatch row) : ¬OwnHash row := by
  rintro ⟨hash, hhash, hown⟩
  obtain ⟨hash', hhash', hother⟩ := h
  rw [hhash, Except.ok.injEq] at hhash'
  rw [hhash'] at hown
  exact hother hown

theorem Link.ownHash {row : AuditEvent} {p q : String} (h : Link p row q) : OwnHash row := by
  obtain ⟨hprevious, hhash, hown⟩ := h
  refine ⟨q, ?_, hown⟩
  rw [hprevious]
  exact hhash

/-- A row can be hashed if its time is one in UTC. -/
theorem computeEventHash_isOk_iff {row : AuditEvent} (previousHash : Option String) :
    (∃ hash, computeEventHash row previousHash = .ok hash) ↔
      row.createdAt.utcText.isSome := by
  simp only [computeEventHash_eq_ok, canonicalPayload_eq_ok, Option.isSome_iff_exists]
  constructor
  · rintro ⟨_, _, ⟨text, htext, _⟩, _⟩
    exact ⟨text, htext⟩
  · rintro ⟨text, htext⟩
    exact ⟨_, _, ⟨text, htext, rfl⟩, rfl⟩

theorem mem_orderedChain {rows : List AuditEvent} {row : AuditEvent} :
    row ∈ orderedChain rows ↔ row ∈ rows ∧ row.eventHash.isSome = true := by
  rw [orderedChain, List.mem_insertionSort, chained, List.mem_filter]

theorem mem_ofTenant {rows : List AuditEvent} {t : String} {row : AuditEvent} :
    row ∈ orderedChain (rows.filter fun row => row.tenantId = some t) ↔
      row ∈ orderedChain rows ∧ row.tenantId = some t := by
  simp only [mem_orderedChain, List.mem_filter, decide_eq_true_eq]
  tauto

theorem verifyEventsFrom_cons {index total : Nat} {row : AuditEvent}
    {rest : List AuditEvent} (h : OwnHash row) :
    verifyEventsFrom index total (row :: rest) = verifyEventsFrom (index + 1) total rest := by
  obtain ⟨hash, hhash, hown⟩ := h
  simp [verifyEventsFrom, hhash, hown, bind, Except.bind]

theorem verifyEventsFrom_stops {index total : Nat} {row : AuditEvent}
    {rest : List AuditEvent} (h : Mismatch row) :
    verifyEventsFrom index total (row :: rest) =
      .ok (brokenResult "hash_mismatch" row.seq index total) := by
  obtain ⟨hash, hhash, hother⟩ := h
  have hne : some hash ≠ row.eventHash := fun heq => hother heq.symm
  simp [verifyEventsFrom, hhash, hne, bind, Except.bind, brokenResult]

/-- Rows with their own hashes are passed over. -/
theorem verifyEventsFrom_append {index total : Nat} {rows rest : List AuditEvent}
    (h : ∀ row ∈ rows, OwnHash row) :
    verifyEventsFrom index total (rows ++ rest) =
      verifyEventsFrom (index + rows.length) total rest := by
  induction rows generalizing index with
  | nil => rfl
  | cons row rows ih =>
      rw [List.cons_append, verifyEventsFrom_cons (h row List.mem_cons_self),
        ih fun other hother => h other (List.mem_cons_of_mem _ hother), List.length_cons,
        Nat.add_right_comm, Nat.add_assoc]

theorem verifyEventsFrom_verified {index total : Nat} {rows : List AuditEvent}
    (h : ∀ row ∈ rows, OwnHash row) :
    verifyEventsFrom index total rows =
      .ok { status := .verified, verifiedCount := total, totalCount := total } := by
  have hloop : verifyEventsFrom index total (rows ++ []) =
      verifyEventsFrom (index + rows.length) total [] := verifyEventsFrom_append h
  rw [List.append_nil] at hloop
  rw [hloop]
  rfl

/-- The loop fails at the one row that does not carry its own hash, if it meets it and
can hash it. -/
theorem verifyEventsFrom_failed_iff {index total : Nat} {rows : List AuditEvent}
    {altered : AuditEvent} (haltered : ¬OwnHash altered)
    (h : ∀ row ∈ rows, OwnHash row ∨ row = altered) :
    (∃ result, verifyEventsFrom index total rows = .ok result ∧ result.ok = false) ↔
      altered ∈ rows ∧ altered.createdAt.utcText.isSome := by
  induction rows generalizing index with
  | nil => simp [verifyEventsFrom, ChainVerificationResult.ok]
  | cons row rest ih =>
      rcases h row List.mem_cons_self with hown | rfl
      · have hne : altered ≠ row := by
          rintro rfl
          exact haltered hown
        rw [verifyEventsFrom_cons hown,
          ih fun other hother => h other (List.mem_cons_of_mem _ hother), List.mem_cons,
          or_iff_right hne]
      · rw [← computeEventHash_isOk_iff row.previousHash]
        constructor
        · rintro ⟨result, hresult, _⟩
          refine ⟨List.mem_cons_self, ?_⟩
          cases hhash : computeEventHash row row.previousHash with
          | ok hash => exact ⟨hash, rfl⟩
          | error e => simp [verifyEventsFrom, hhash, bind, Except.bind] at hresult
        · rintro ⟨_, hash, hhash⟩
          have hother : row.eventHash ≠ some hash := fun heq => haltered ⟨hash, hhash, heq⟩
          exact ⟨_, verifyEventsFrom_stops ⟨hash, hhash, hother⟩, rfl⟩

/-- The loop does not raise over rows that can be hashed. -/
theorem verifyEventsFrom_isOk {index total : Nat} {rows : List AuditEvent}
    (h : ∀ row ∈ rows, row.createdAt.utcText.isSome) :
    ∃ result, verifyEventsFrom index total rows = .ok result := by
  induction rows generalizing index with
  | nil => exact ⟨_, rfl⟩
  | cons row rest ih =>
      obtain ⟨hash, hhash⟩ := (computeEventHash_isOk_iff row.previousHash).mpr
        (h row List.mem_cons_self)
      by_cases hown : row.eventHash = some hash
      · rw [verifyEventsFrom_cons ⟨hash, hhash, hown⟩]
        exact ih fun other hother => h other (List.mem_cons_of_mem _ hother)
      · exact ⟨_, verifyEventsFrom_stops ⟨hash, hhash, hown⟩⟩

theorem verifyTenantEvents_isOk {db : Database} (t : String)
    (h : ∀ row ∈ db.auditEvents.rows, row.createdAt.utcText.isSome) :
    ∃ result, verifyTenantEvents db t = .ok result := by
  unfold verifyTenantEvents
  dsimp only
  split
  · exact ⟨_, rfl⟩
  · apply verifyEventsFrom_isOk
    intro row hrow
    rw [mem_orderedChain, List.mem_filter] at hrow
    exact h row hrow.1.1

/-- What `verify_tenant_events` fails on, if at most one row lacks its own hash. -/
theorem verifyTenantEvents_failed_iff {db : Database} {t : String} {altered : AuditEvent}
    (haltered : ¬OwnHash altered)
    (h : ∀ row ∈ chained db.auditEvents.rows, OwnHash row ∨ row = altered) :
    (∃ result, verifyTenantEvents db t = .ok result ∧ result.ok = false) ↔
      (altered ∈ chained db.auditEvents.rows ∧ altered.tenantId = some t) ∧
        altered.createdAt.utcText.isSome := by
  have hmem : ∀ row, row ∈ orderedChain
      (db.auditEvents.rows.filter fun row => row.tenantId = some t) ↔
        row ∈ chained db.auditEvents.rows ∧ row.tenantId = some t := by
    intro row
    rw [mem_ofTenant, orderedChain, List.mem_insertionSort]
  have hrows : ∀ row ∈ orderedChain
      (db.auditEvents.rows.filter fun row => row.tenantId = some t),
        OwnHash row ∨ row = altered := fun row hrow => h row ((hmem row).mp hrow).1
  rw [← hmem]
  unfold verifyTenantEvents
  dsimp only
  split
  · next hempty =>
      rw [List.isEmpty_iff.mp hempty]
      simp [ChainVerificationResult.ok]
  · exact verifyEventsFrom_failed_iff haltered hrows

/-- The chained rows have numbers of their own. -/
def DistinctSeq (rows : List AuditEvent) : Prop :=
  (chained rows).Pairwise fun a b => a.seq ≠ b.seq

omit [Deployment] in
theorem DistinctSeq.eq_of_seq {rows : List AuditEvent} (h : DistinctSeq rows)
    {a b : AuditEvent} (ha : a ∈ chained rows) (hb : b ∈ chained rows)
    (hseq : a.seq = b.seq) : a = b := by
  have hsymm : Std.Symm fun a b : AuditEvent => a.seq ≠ b.seq := ⟨fun _ _ hne => hne.symm⟩
  by_contra hne
  exact h.forall ha hb hne hseq

/-- `a` has the smaller number. -/
def Before (a b : AuditEvent) : Prop := seqLe a b = true ∧ a.seq ≠ b.seq

instance (a b : AuditEvent) : Decidable (Before a b) :=
  inferInstanceAs (Decidable (_ ∧ _))

theorem seqLe_total (a b : AuditEvent) : seqLe a b = true ∨ seqLe b a = true := by
  unfold seqLe
  cases a.seq with
  | none => cases b.seq <;> cases Deployment.nullsFirst <;> simp
  | some m =>
      cases b.seq with
      | none => cases Deployment.nullsFirst <;> simp
      | some n => simpa using Int.le_total m n

theorem seqLe_trans {a b c : AuditEvent} (hab : seqLe a b = true) (hbc : seqLe b c = true) :
    seqLe a c = true := by
  unfold seqLe at *
  cases ha : a.seq <;> cases hb : b.seq <;> cases hc : c.seq <;> simp_all
  omega

theorem seqLe_antisymm {a b : AuditEvent} (hab : seqLe a b = true) (hba : seqLe b a = true) :
    a.seq = b.seq := by
  unfold seqLe at *
  cases ha : a.seq <;> cases hb : b.seq <;> simp_all
  omega

instance seqLe_isTotal : Std.Total fun a b : AuditEvent => seqLe a b = true :=
  ⟨seqLe_total⟩

instance seqLe_isTrans : IsTrans AuditEvent fun a b => seqLe a b = true :=
  ⟨fun _ _ _ => seqLe_trans⟩

theorem orderedChain_sorted (rows : List AuditEvent) :
    (orderedChain rows).Pairwise fun a b => seqLe a b = true :=
  List.pairwise_insertionSort _ _

/-- Rows with numbers of their own are in one order only. -/
theorem orderedChain_filter {rows : List AuditEvent} (h : DistinctSeq rows)
    (p : AuditEvent → Bool) :
    orderedChain (rows.filter p) = (orderedChain rows).filter p := by
  have hperm : (orderedChain (rows.filter p)).Perm ((orderedChain rows).filter p) := by
    have hsorted : (orderedChain rows).Perm (chained rows) := List.perm_insertionSort _ _
    have hcomm : chained (rows.filter p) = (chained rows).filter p := by
      unfold chained
      rw [List.filter_comm]
    have hscope : (orderedChain (rows.filter p)).Perm (chained (rows.filter p)) :=
      List.perm_insertionSort _ _
    rw [hcomm] at hscope
    exact hscope.trans (hsorted.filter p).symm
  apply List.Perm.eq_of_pairwise _ (orderedChain_sorted _) ((orderedChain_sorted _).filter p)
    hperm
  intro a b ha hb hab hba
  have hmem : ∀ row, row ∈ (orderedChain rows).filter p → row ∈ chained rows :=
    fun row hrow => (List.mem_insertionSort _).mp (List.mem_filter.mp hrow).1
  exact h.eq_of_seq (hmem a (hperm.mem_iff.mp ha)) (hmem b hb) (seqLe_antisymm hab hba)

/-- The first row at which `verify_chain` reports a hash mismatch. -/
theorem verifyFrom_mismatch {previous : Option String} {index total : Nat}
    {rows : List AuditEvent} {result : ChainVerificationResult}
    (h : verifyFrom previous index total rows = .ok result)
    (hreason : result.reason = some "hash_mismatch") :
    ∃ init row rest, rows = init ++ row :: rest ∧ (∀ other ∈ init, OwnHash other) ∧
      Mismatch row ∧
        result = brokenResult "hash_mismatch" row.seq (index + init.length) total := by
  induction rows generalizing previous index with
  | nil =>
      cases h
      cases hreason
  | cons row rest ih =>
      unfold verifyFrom at h
      split at h
      · cases h
        revert hreason
        simp
      · cases hhash : computeEventHash row row.previousHash with
        | error e =>
            rw [hhash] at h
            cases h
        | ok hash =>
            rw [hhash] at h
            change (if some hash ≠ row.eventHash then _ else _) = _ at h
            split at h
            · next hne =>
                cases h
                exact ⟨[], row, rest, rfl, by simp, ⟨hash, hhash, fun heq => hne heq.symm⟩, rfl⟩
            · next hown =>
                obtain ⟨init, bad, rest', rfl, hinit, hbad, hresult⟩ := ih h
                refine ⟨row :: init, bad, rest', rfl, ?_, hbad, ?_⟩
                · intro other hother
                  rcases List.mem_cons.mp hother with rfl | hother
                  · exact ⟨hash, hhash, (not_not.mp hown).symm⟩
                  · exact hinit other hother
                · rw [hresult, List.length_cons, Nat.add_right_comm, Nat.add_assoc]

theorem verifyChain_mismatch {rows : List AuditEvent} {result : ChainVerificationResult}
    (h : verifyChain rows = .ok result) (hreason : result.reason = some "hash_mismatch") :
    ∃ init row rest, orderedChain rows = init ++ row :: rest ∧
      (∀ other ∈ init, OwnHash other) ∧ Mismatch row ∧
        result = brokenResult "hash_mismatch" row.seq init.length
          (orderedChain rows).length := by
  unfold verifyChain at h
  dsimp only at h
  split at h
  · cases h
    cases hreason
  · obtain ⟨init, row, rest, hrows, hinit, hrow, hresult⟩ := verifyFrom_mismatch h hreason
    refine ⟨init, row, rest, hrows, hinit, hrow, ?_⟩
    rw [hresult, Nat.zero_add]

/-- The rows of the table that a tenant's verification counts. -/
theorem length_ofTenant (rows : List AuditEvent) (t : String) :
    (orderedChain (rows.filter fun row => row.tenantId = some t)).length =
      (chained rows).countP fun row => row.tenantId = some t := by
  rw [orderedChain, List.length_insertionSort, chained, List.filter_comm,
    List.countP_eq_length_filter]
  rfl

omit [Deployment] in
/-- Each row counts for its tenant or as one without a tenant. -/
theorem sum_countP_tenant (rows : List AuditEvent) (tenants : Finset String)
    (h : ∀ row ∈ rows, ∀ t, row.tenantId = some t → t ∈ tenants) :
    ∑ t ∈ tenants, rows.countP (fun row => row.tenantId = some t) +
      rows.countP (fun row => row.tenantId = none) = rows.length := by
  induction rows with
  | nil => simp
  | cons row rest ih =>
      have hrest := ih fun other hother => h other (List.mem_cons_of_mem _ hother)
      simp only [List.countP_cons, Finset.sum_add_distrib, List.length_cons]
      cases htenant : row.tenantId with
      | none =>
          simp only [reduceCtorEq, decide_false, Bool.false_eq_true, if_false,
            Finset.sum_const_zero, decide_true, if_true]
          omega
      | some t =>
          have hmem := h row List.mem_cons_self t htenant
          simp only [Option.some.injEq, decide_eq_true_eq, Finset.sum_ite_eq, hmem,
            if_true, reduceCtorEq, decide_false, Bool.false_eq_true, if_false]
          omega

/-- The rows of a tenant with smaller numbers are those before the row. -/
theorem countP_before {rows init rest : List AuditEvent} {row : AuditEvent} {t : String}
    (hdistinct : DistinctSeq rows) (hrows : orderedChain rows = init ++ row :: rest) :
    (chained rows).countP (fun other => other.tenantId = some t ∧ Before other row) =
      (init.filter fun other => other.tenantId = some t).length := by
  have hperm : (orderedChain rows).Perm (chained rows) := List.perm_insertionSort _ _
  have hsorted := orderedChain_sorted rows
  have hne : (orderedChain rows).Pairwise fun a b => a.seq ≠ b.seq :=
    hdistinct.perm hperm.symm fun hseq => hseq.symm
  rw [hrows] at hsorted hne
  obtain ⟨_, hsortedRest, hsortedInit⟩ := List.pairwise_append.mp hsorted
  obtain ⟨_, hneRest, hneInit⟩ := List.pairwise_append.mp hne
  have hinit : ∀ other ∈ init, Before other row := fun other hother =>
    ⟨hsortedInit other hother row List.mem_cons_self,
      hneInit other hother row List.mem_cons_self⟩
  have hrest : ∀ other ∈ row :: rest, ¬Before other row := by
    rintro other hother ⟨hle, hseq⟩
    rcases List.mem_cons.mp hother with rfl | hother
    · exact hseq rfl
    · exact hseq (seqLe_antisymm hle (List.rel_of_pairwise_cons hsortedRest hother))
  rw [← hperm.countP_eq, hrows, List.countP_append, ← List.countP_eq_length_filter]
  have hnone : (row :: rest).countP
      (fun other => other.tenantId = some t ∧ Before other row) = 0 := by
    rw [List.countP_eq_zero]
    intro other hother hboth
    exact hrest other hother (of_decide_eq_true hboth).2
  rw [hnone, Nat.add_zero]
  apply List.countP_congr
  intro other hother
  simp [hinit other hother]

/-- The verification of the chain does not fail. -/
def Unbroken (rows : List AuditEvent) : Prop :=
  ∃ result, verifyChain rows = .ok result ∧ result.status ≠ .failed

theorem verifyFrom_ne_empty {previous : Option String} {index total : Nat}
    {rows : List AuditEvent} {result : ChainVerificationResult}
    (h : verifyFrom previous index total rows = .ok result) :
    result.status ≠ .empty ∧ result.totalCount = total := by
  induction rows generalizing previous index with
  | nil =>
      cases h
      simp
  | cons row rest ih =>
      unfold verifyFrom at h
      split at h
      · cases h
        simp
      · cases hhash : computeEventHash row row.previousHash with
        | error e =>
            rw [hhash] at h
            cases h
        | ok hash =>
            rw [hhash] at h
            change (if some hash ≠ row.eventHash then _ else _) = _ at h
            split at h
            · cases h
              simp
            · exact ih h

theorem verifyChain_totalCount {rows : List AuditEvent} {result : ChainVerificationResult}
    (h : verifyChain rows = .ok result) : result.totalCount = (chained rows).length := by
  have hlength : (orderedChain rows).length = (chained rows).length :=
    List.length_insertionSort _ _
  unfold verifyChain at h
  dsimp only at h
  split at h
  · next hempty =>
      cases h
      rw [← hlength, List.isEmpty_iff.mp hempty]
      rfl
  · rw [(verifyFrom_ne_empty h).2, hlength]

/-- An intact chain with rows is verified. -/
theorem Unbroken.verified {rows : List AuditEvent} (h : Unbroken rows)
    (hne : orderedChain rows ≠ []) :
    ∃ result, verifyChain rows = .ok result ∧ result.status = .verified := by
  obtain ⟨result, hresult, hstatus⟩ := h
  refine ⟨result, hresult, ?_⟩
  unfold verifyChain at hresult
  cases hrows : orderedChain rows with
  | nil => exact absurd hrows hne
  | cons row rest =>
      simp only [hrows, List.isEmpty_cons, Bool.false_eq_true, if_false] at hresult
      have hnotEmpty := (verifyFrom_ne_empty hresult).1
      cases hcase : result.status with
      | verified => rfl
      | failed => exact absurd hcase hstatus
      | empty => exact absurd hcase hnotEmpty

/-- Each covered event of an intact table carries its own hash. -/
theorem Unbroken.own_hash {rows : List AuditEvent} (h : Unbroken rows) {row : AuditEvent}
    (hrow : row ∈ orderedChain rows) : OwnHash row := by
  obtain ⟨result, hverified⟩ := h.verified (List.ne_nil_of_mem hrow)
  obtain ⟨_, ⟨_, hchain⟩, _⟩ := verifyChain_verified_iff.mp hverified
  obtain ⟨p, q, hlink⟩ := hchain.exists_link hrow
  exact hlink.ownHash

/-- The events in a tenant's scope that the chain covers. -/
def inChain (rows : List AuditEvent) (tenantId : Option String) : Bool :=
  rows.any fun row => row.eventHash.isSome && inScope tenantId row.tenantId

theorem inChain_eq_true {rows : List AuditEvent} {tenantId : Option String} :
    inChain rows tenantId = true ↔ ∃ row ∈ orderedChain rows,
      inScope tenantId row.tenantId = true := by
  simp only [inChain, List.any_eq_true, Bool.and_eq_true, mem_orderedChain]
  constructor
  · rintro ⟨row, hrow, hhash, hscope⟩
    exact ⟨row, ⟨hrow, hhash⟩, hscope⟩
  · rintro ⟨row, ⟨hrow, hhash⟩, hscope⟩
    exact ⟨row, hrow, hhash, hscope⟩

/-- The chain of an intact table is empty or verified. -/
theorem Unbroken.verifyChain {rows : List AuditEvent} (h : Unbroken rows) :
    ∃ result, AuditService.verifyChain rows = .ok result ∧
      result.status = if inChain rows none then .verified else .empty := by
  by_cases hnil : orderedChain rows = []
  · have hnone : ¬inChain rows none = true := by
      rw [inChain_eq_true, hnil]
      simp
    rw [if_neg hnone, AuditService.verifyChain, hnil]
    exact ⟨_, rfl, rfl⟩
  · have hsome : inChain rows none = true := by
      obtain ⟨row, hrow⟩ := List.exists_mem_of_ne_nil _ hnil
      exact inChain_eq_true.mpr ⟨row, hrow, rfl⟩
    rw [if_pos hsome]
    exact h.verified hnil

/-- The events of a tenant in an unbroken table. -/
theorem Unbroken.verifyTenantEvents {db : Database} (h : Unbroken db.auditEvents.rows)
    (t : String) : ∃ result, AuditService.verifyTenantEvents db t = .ok result ∧
      result.status = (if inChain db.auditEvents.rows (some t) then .verified else .empty) ∧
      result.totalCount =
        (chained db.auditEvents.rows).countP fun row => row.tenantId = some t := by
  rw [← length_ofTenant]
  unfold AuditService.verifyTenantEvents
  dsimp only
  cases hrows : orderedChain (db.auditEvents.rows.filter fun row => row.tenantId = some t) with
  | nil =>
      have hnone : ¬inChain db.auditEvents.rows (some t) = true := by
        rw [inChain_eq_true]
        rintro ⟨row, hrow, hscope⟩
        have hown := mem_ofTenant.mpr ⟨hrow, by simpa [inScope] using hscope⟩
        rw [hrows] at hown
        cases hown
      rw [if_neg hnone]
      exact ⟨_, rfl, rfl, rfl⟩
  | cons row rest =>
      have hown : ∀ other ∈ row :: rest, other ∈ orderedChain db.auditEvents.rows ∧
          other.tenantId = some t := by
        intro other hother
        rw [← hrows] at hother
        exact mem_ofTenant.mp hother
      have hsome : inChain db.auditEvents.rows (some t) = true := by
        obtain ⟨hmem, htenant⟩ := hown row List.mem_cons_self
        exact inChain_eq_true.mpr ⟨row, hmem, by simp [inScope, htenant]⟩
      rw [if_pos hsome]
      exact ⟨_, verifyEventsFrom_verified fun other hother => h.own_hash (hown other hother).1,
        rfl, rfl⟩

omit [Deployment] in
theorem ChainVerificationResult.ok_iff {result : ChainVerificationResult} :
    result.ok = true ↔ result.status ≠ .failed := by
  unfold ChainVerificationResult.ok
  cases result.status <;> simp

/-- An intact chain is intact for every tenant, with counts that add up, and at a hash
mismatch the tenant's loop stops at the same row, after as many of its own rows as stand before
it. Any table is meant in which no sequence number occurs twice. -/
theorem tenants_agree_with_chain {db : Database} (hdistinct : DistinctSeq db.auditEvents.rows) :
    (∀ result, verifyChain db.auditEvents.rows = .ok result → result.ok = true →
      ∃ own : String → ChainVerificationResult,
        (∀ t, verifyTenantEvents db t = .ok (own t) ∧ (own t).ok = true) ∧
        ∀ tenants : Finset String, (∀ row ∈ chained db.auditEvents.rows, ∀ t,
          row.tenantId = some t → t ∈ tenants) →
          ∑ t ∈ tenants, (own t).totalCount +
            (chained db.auditEvents.rows).countP (fun row => row.tenantId = none) =
              result.totalCount) ∧
    ∀ result row t, verifyChain db.auditEvents.rows = .ok result →
      result.reason = some "hash_mismatch" → row ∈ chained db.auditEvents.rows →
      row.seq = result.brokenAtSeq → row.tenantId = some t →
      ∃ own, verifyTenantEvents db t = .ok own ∧ own.ok = false ∧
        own.brokenAtSeq = result.brokenAtSeq ∧
        own.verifiedCount = (chained db.auditEvents.rows).countP fun other =>
          other.tenantId = some t ∧ Before other row := by
  constructor
  · intro result hresult hok
    have hchain : Unbroken db.auditEvents.rows :=
      ⟨result, hresult, ChainVerificationResult.ok_iff.mp hok⟩
    choose own hown hstatus hcount using hchain.verifyTenantEvents
    refine ⟨own, fun t => ⟨hown t, ?_⟩, ?_⟩
    · rw [ChainVerificationResult.ok_iff, hstatus]
      split <;> simp
    · intro tenants htenants
      simp only [hcount]
      rw [sum_countP_tenant _ _ htenants, verifyChain_totalCount hresult]
  · intro result row t hresult hreason hrow hseq htenant
    obtain ⟨init, bad, rest, hrows, hinit, hbad, rfl⟩ := verifyChain_mismatch hresult hreason
    have hbadMem : bad ∈ chained db.auditEvents.rows := by
      have hmem : bad ∈ orderedChain db.auditEvents.rows := by
        rw [hrows]
        exact List.mem_append_right _ List.mem_cons_self
      exact (List.mem_insertionSort _).mp hmem
    obtain rfl : bad = row := hdistinct.eq_of_seq hbadMem hrow hseq.symm
    have hown : orderedChain (db.auditEvents.rows.filter fun row => row.tenantId = some t) =
        (init.filter fun row => row.tenantId = some t) ++
          bad :: rest.filter fun row => row.tenantId = some t := by
      rw [orderedChain_filter hdistinct, hrows, List.filter_append,
        List.filter_cons_of_pos (by simpa using htenant)]
    have hstops : verifyTenantEvents db t = .ok (brokenResult "hash_mismatch" bad.seq
        (init.filter fun row => row.tenantId = some t).length
        (orderedChain (db.auditEvents.rows.filter fun row => row.tenantId = some t)).length) := by
      have hpassed : ∀ other ∈ init.filter (fun row => row.tenantId = some t),
          OwnHash other := fun other hother => hinit other (List.mem_filter.mp hother).1
      unfold verifyTenantEvents
      dsimp only
      rw [hown, if_neg (by simp), verifyEventsFrom_append hpassed, verifyEventsFrom_stops hbad,
        Nat.zero_add]
    exact ⟨_, hstops, rfl, rfl, (countP_before hdistinct hrows).symm⟩

/-- An event of a recorded log was altered and does not carry its own hash: the
verification of a tenant fails if and only if the event still carries the tenant and some
hash, and its time is one in UTC. -/
theorem tenant_alteration_detected_iff {τ : Type} [DecidableEq τ] {events : τ → NewEvent}
    {start : Database}
    (hlegacy : ∀ row ∈ start.auditEvents.rows, row.seq = none ∧ row.eventHash = none)
    {P : Pool τ Database Call Reply PyErr AuditEvent Empty Empty}
    (hreach : (writers τ).Reach (launch events start) P) {pre post : List AuditEvent}
    {row row' : AuditEvent} {t : String}
    (hrows : P.store.auditEvents.rows = pre ++ row :: post) (hbroken : ¬OwnHash row')
    {db : Database} (hdb : db.auditEvents.rows = pre ++ row' :: post) :
    (∃ result, verifyTenantEvents db t = .ok result ∧ result.ok = false) ↔
      (row'.eventHash.isSome = true ∧ row'.tenantId = some t) ∧
        row'.createdAt.utcText.isSome = true := by
  obtain ⟨head, hintact⟩ := (writers_reach (writers_launch hlegacy) hreach).intact
  have hown : ∀ other ∈ chained P.store.auditEvents.rows, OwnHash other := by
    intro other hother
    obtain ⟨p, q, hlink⟩ := hintact.linked.exists_link hother
    exact hlink.ownHash
  have hothers : ∀ other ∈ chained db.auditEvents.rows, OwnHash other ∨ other = row' := by
    intro other hother
    obtain ⟨hmem, hhash⟩ := mem_chained.mp hother
    rw [hdb, List.mem_append, List.mem_cons] at hmem
    rcases hmem with hmem | rfl | hmem
    · left
      apply hown other
      rw [mem_chained, hrows]
      exact ⟨List.mem_append_left _ hmem, hhash⟩
    · exact Or.inr rfl
    · left
      apply hown other
      rw [mem_chained, hrows]
      exact ⟨List.mem_append_right _ (List.mem_cons_of_mem _ hmem), hhash⟩
  rw [verifyTenantEvents_failed_iff hbroken hothers, mem_chained, hdb]
  simp

end

section Sample

local instance instScopedVerification : Deployment := .sqlite

/-- An event of tenant `t1`. -/
def ownedEvent : NewEvent where
  action := AuditAction.approvalCreated
  resourceType := "approval"
  resourceId := "a1"
  tenantId := some "t1"

/-- Its row, with a hash. -/
def ownedRow (hash : Option String) : AuditEvent :=
  AuditEvent.inserted
    { ownedEvent.row none sampleCreated.createdAt.moment with eventHash := hash }
    (sampleReply "e1")

/-- The event is recorded in the empty table. -/
theorem ownedEvent_recorded : ∃ P hash, (writers Unit).Reach
    (launch (fun _ => ownedEvent) {}) P ∧ P.store.auditEvents.rows = [ownedRow (some hash)] := by
  obtain ⟨hash, hlink⟩ := link_ok ownedEvent none sampleCreated.createdAt.moment
  obtain ⟨P, hreach, hrows, _⟩ := reach_record (P := launch (fun _ => ownedEvent) {})
    (t := ()) rfl hlink (r := sampleReply "e1") rfl (by simp [launch, Table.Accepts, Table.empty])
  exact ⟨P, hash, reach_writers hreach, hrows⟩

theorem distinct_of_rising {rows : List AuditEvent} (h : Rising (chained rows)) :
    DistinctSeq rows := by
  refine h.imp ?_
  rintro a b ⟨m, n, hm, hn, hlt⟩ hsame
  rw [hm, hn, Option.some.injEq] at hsame
  omega

/-- The table with one row. -/
def holding (row : AuditEvent) : Database := { ({} : Database) with auditEvents := .single row }

def turnId (n : Nat) : String := String.ofList (List.replicate n 'e')

theorem turnId_inj {m n : Nat} (h : turnId m = turnId n) : m = n := by
  have hlength := congrArg String.length h
  simpa [turnId] using hlength

/-- Writers that record one after the other. -/
theorem recorded_in_turn (events : Nat → NewEvent) (n : Nat) :
    ∃ P, (contended Nat).Reach (launch events {}) P ∧
      (∀ t, n ≤ t → P.thread t = record (events t)) ∧
      (P.store.auditEvents.rows.map fun row => (row.id, row.tenantId)) =
        (List.range n).map (fun i => (turnId i, (events i).tenantId)) ∧
      ∀ row ∈ P.store.auditEvents.rows, row.eventHash.isSome = true ∧
        row.createdAt = Deployment.stored (.utc sampleCreated.createdAt.moment) := by
  induction n with
  | zero => exact ⟨_, .refl, fun _ _ => rfl, rfl, fun _ h => by cases h⟩
  | succ n ih =>
      obtain ⟨P, hreach, hthread, hrows, hstored⟩ := ih
      have hwriters := writers_reach (writers_launch (by simp [Table.empty])) (reach_writers hreach)
      obtain ⟨hash, hlink⟩ := link_ok (events n) (chainHead P.store.auditEvents.rows)
        sampleCreated.createdAt.moment
      have hfresh : ∀ row ∈ P.store.auditEvents.rows, row.id ≠ turnId n := by
        intro row hrow hid
        have hpair := List.mem_map_of_mem (f := fun row => (row.id, row.tenantId)) hrow
        rw [hrows] at hpair
        obtain ⟨i, hi, heq⟩ := List.mem_map.mp hpair
        have hsame : turnId i = turnId n := (congrArg Prod.fst heq).trans hid
        exact absurd (List.mem_range.mp hi) (by rw [turnId_inj hsame]; exact lt_irrefl n)
      obtain ⟨P', hreach', hrows', _, hothers⟩ :=
        reach_record (hthread n (le_refl n)) hlink (r := sampleReply (turnId n)) rfl
          (accepts_next hwriters.intact hfresh)
      refine ⟨P', hreach.trans hreach', fun t ht => ?_, ?_, ?_⟩
      · rw [hothers t (by omega)]
        exact hthread t (by omega)
      · rw [hrows', List.map_append, hrows, List.range_succ, List.map_append]
        rfl
      · intro row hrow
        rw [hrows', List.mem_append, List.mem_singleton] at hrow
        rcases hrow with hrow | rfl
        · exact hstored row hrow
        · exact ⟨rfl, rfl⟩

theorem stored_time :
    (Deployment.stored (.utc sampleCreated.createdAt.moment)).utcText.isSome = true := by
  decide +kernel

/-- No event hashes to the empty text. -/
theorem emptied_mismatch {row : AuditEvent} (htime : row.createdAt.utcText.isSome = true) :
    Mismatch { row with eventHash := some "" } := by
  obtain ⟨hash, hhash⟩ := (computeEventHash_isOk_iff row.previousHash).mpr htime
  refine ⟨hash, hhash, ?_⟩
  obtain ⟨text, _, rfl⟩ := computeEventHash_eq_ok.mp hhash
  intro hown
  have hlength := congrArg (fun hash => (hash.getD "").length) hown
  have hdigest : (Deployment.sha256 text).length = 64 := Sha256.length_hexdigest text
  simp [hdigest] at hlength

/-- Two tenants by turns, and an event without a tenant. -/
def mixedTenants : List (Option String) := [some "t1", some "t2", none, some "t1", some "t2"]

def mixedEvents (i : Nat) : NewEvent := { ownedEvent with tenantId := mixedTenants[i]?.join }

/-- The log of these events, and its fourth row. -/
theorem mixed_recorded : ∃ P pre row post, (writers Nat).Reach (launch mixedEvents {}) P ∧
    P.store.auditEvents.rows = pre ++ row :: post ∧
    pre.map AuditEvent.tenantId = [some "t1", some "t2", none] ∧
    row.tenantId = some "t1" ∧ post.map AuditEvent.tenantId = [some "t2"] ∧
    (row.seq = some 4 ∧ row.createdAt.utcText.isSome = true) ∧
    ∀ row ∈ P.store.auditEvents.rows, row.eventHash.isSome = true := by
  obtain ⟨P, hreach, _, hrows, hstored⟩ := recorded_in_turn mixedEvents 5
  have hhashed : ∀ row ∈ P.store.auditEvents.rows, row.eventHash.isSome = true :=
    fun row hrow => (hstored row hrow).1
  have htenants := congrArg (List.map Prod.snd) hrows
  rw [List.map_map, List.map_map] at htenants
  change P.store.auditEvents.rows.map AuditEvent.tenantId =
    [some "t1", some "t2", none] ++ some "t1" :: [some "t2"] at htenants
  obtain ⟨pre, rest, hsplit, hpre, hrest⟩ := List.map_eq_append_iff.mp htenants
  obtain ⟨row, post, rfl, hrow, hpost⟩ := List.map_eq_cons_iff.mp hrest
  refine ⟨P, pre, row, post, reach_writers hreach, hsplit, hpre, hrow, hpost, ⟨?_, ?_⟩, hhashed⟩
  · have hwriters :=
      writers_reach (writers_launch (by simp [Table.empty])) (reach_writers hreach)
    obtain ⟨head, hintact⟩ := hwriters.intact
    have hlength := congrArg List.length hpre
    rw [List.length_map] at hlength
    apply seq_of_intact hintact (i := 3)
    rw [chained, List.filter_eq_self.mpr hhashed, hsplit,
      List.getElem?_append_right (by rw [hlength]; decide), hlength]
    rfl
  · rw [(hstored row (by rw [hsplit]; simp)).2]
    exact stored_time

/-- The table in which the hash of a row was emptied. -/
def emptied (T : AuditTable) (id : String) : Database :=
  { ({} : Database) with auditEvents := T.modify id fun row => { row with eventHash := some "" } }

theorem rows_emptied {T : AuditTable} {row : AuditEvent} {pre post : List AuditEvent}
    (hrows : T.rows = pre ++ row :: post) : (emptied T row.id).auditEvents.rows =
      pre ++ { row with eventHash := some "" } :: post := by
  change (T.modify row.id (fun row => { row with eventHash := some "" }) (fun _ => rfl)
    fun _ => rfl).rows = _
  rw [Table.rows_modify hrows]

/-- The order of the chain does not change, and the rows before are still linked. -/
theorem emptied_ordered {T : AuditTable} {row : AuditEvent} {pre post : List AuditEvent} {k : Nat}
    (hintact : Intact T.rows) (hrows : T.rows = pre ++ row :: post)
    (hseq : row.seq = some (k : Int))
    (hhashed : ∀ row ∈ T.rows, row.eventHash.isSome = true) :
    orderedChain (emptied T row.id).auditEvents.rows =
        pre ++ { row with eventHash := some "" } :: post ∧
      DistinctSeq (emptied T row.id).auditEvents.rows ∧
      ∃ p, Chain Link genesisHash pre p ∧ row.previousHash = some p := by
  obtain ⟨p, q, haround⟩ := around_of_intact hintact hrows hseq
  have hpre : chained pre = pre :=
    List.filter_eq_self.mpr fun other hother => hhashed other (by rw [hrows]; simp [hother])
  have hpost : chained post = post :=
    List.filter_eq_self.mpr fun other hother => hhashed other (by rw [hrows]; simp [hother])
  have hchained : chained (emptied T row.id).auditEvents.rows =
      pre ++ { row with eventHash := some "" } :: post := by
    rw [rows_emptied hrows, chained_cons rfl, hpre, hpost]
  have hrising : Rising (chained (emptied T row.id).auditEvents.rows) := by
    have hbefore := haround.rising
    rw [hpre, hpost] at hbefore
    rw [hchained]
    exact rising_replace hbefore rfl
  exact ⟨(orderedChain_of_rising hrising).trans hchained, distinct_of_rising hrising, p,
    hpre ▸ haround.initial, haround.link.1⟩

/-- An event with an emptied hash is reported, with events of the tenant and others around it. -/
theorem emptied_hash_detected : ∃ (db : Database) (result : ChainVerificationResult),
    db.auditEvents.rows.map AuditEvent.tenantId = mixedTenants ∧
      verifyTenantEvents db "t1" = .ok result ∧ result.ok = false := by
  obtain ⟨P, pre, row, post, hreach, hrows, hpre, hrow, hpost, ⟨_, htime⟩, _⟩ := mixed_recorded
  have hemptied := rows_emptied hrows
  obtain ⟨result, hresult, hfailed⟩ := (tenant_alteration_detected_iff (by simp [Table.empty])
    hreach hrows (emptied_mismatch htime).not_ownHash hemptied).mpr ⟨⟨rfl, hrow⟩, htime⟩
  refine ⟨_, result, ?_, hresult, hfailed⟩
  rw [hemptied, List.map_append, List.map_cons, hpre, hrow, hpost]
  rfl

/-- The log verifies with counts that add up; with the hash of the fourth event emptied, both
loops stop there, after one intact event of the tenant. -/
theorem emptied_hash_agree :
    (∃ (db : Database) (own : String → ChainVerificationResult),
      db.auditEvents.rows.map AuditEvent.tenantId = mixedTenants ∧
      (∀ t, verifyTenantEvents db t = .ok (own t) ∧ (own t).ok = true) ∧
      (own "t1").totalCount + (own "t2").totalCount + 1 = 5) ∧
    ∃ (db : Database) (own : ChainVerificationResult),
      db.auditEvents.rows.map AuditEvent.tenantId = mixedTenants ∧
      verifyChain db.auditEvents.rows = .ok (brokenResult "hash_mismatch" (some 4) 3 5) ∧
      verifyTenantEvents db "t1" = .ok own ∧ own.ok = false ∧ own.brokenAtSeq = some 4 ∧
      own.verifiedCount = 1 := by
  obtain ⟨P, pre, row, post, hreach, hrows, hpre, hrow, hpost, ⟨hseq, htime⟩, hhashed⟩ :=
    mixed_recorded
  have hwriters := writers_reach (writers_launch (by simp [Table.empty])) hreach
  obtain ⟨head, hintact⟩ := hwriters.intact
  have hchained : chained P.store.auditEvents.rows = P.store.auditEvents.rows :=
    List.filter_eq_self.mpr hhashed
  have hlength : pre.length = 3 ∧ post.length = 1 := by
    have hpre := congrArg List.length hpre
    have hpost := congrArg List.length hpost
    rw [List.length_map] at hpre hpost
    exact ⟨hpre, hpost⟩
  constructor
  · have hdistinct : DistinctSeq P.store.auditEvents.rows :=
      distinct_of_rising (rising_of_intact hintact)
    have hverified := verifyChain_of_intact hwriters.intact
    rw [hchained, hrows, if_neg (by simp)] at hverified
    obtain ⟨own, hown, hsum⟩ := (tenants_agree_with_chain hdistinct).1 _ (hrows ▸ hverified) rfl
    refine ⟨P.store, own, ?_, hown, ?_⟩
    · rw [hrows, List.map_append, List.map_cons, hpre, hrow, hpost]
      rfl
    · have hcount := hsum {"t1", "t2"} ?_
      · rw [Finset.sum_pair (by decide), hchained, hrows] at hcount
        have hnone : (pre ++ row :: post).countP (fun row => row.tenantId = none) =
            ((pre ++ row :: post).map AuditEvent.tenantId).countP
              fun tenantId => tenantId = none := by
          rw [List.countP_map]
          rfl
        rw [hnone, List.map_append, List.map_cons, hpre, hrow, hpost] at hcount
        rw [verifiedResult, List.length_append, List.length_cons, hlength.1, hlength.2] at hcount
        exact hcount
      · intro other hother t ht
        have hmem := List.mem_map_of_mem (f := AuditEvent.tenantId) hother
        rw [hchained, hrows, List.map_append, List.map_cons, hpre, hrow, hpost, ht] at hmem
        simp at hmem ⊢
        tauto
  · have hemptied := rows_emptied hrows
    obtain ⟨hordered, hdistinct, p, hlinked, hprevious⟩ :=
      emptied_ordered hwriters.intact hrows hseq hhashed
    obtain ⟨hash, hhash, hother⟩ := emptied_mismatch htime
    have hbreak : FirstBreak (emptied P.store.auditEvents row.id).auditEvents.rows "hash_mismatch"
        (some 4) 3 := ⟨pre, _, post, p, hordered, hlinked,
      .hash hprevious (hprevious ▸ hhash) hother, hseq, hlength.1⟩
    have hverified := hbreak.verifyChain
    rw [hordered, List.length_append, List.length_cons, hlength.1, hlength.2] at hverified
    have hmem : { row with eventHash := some "" } ∈
        chained (emptied P.store.auditEvents row.id).auditEvents.rows := by
      rw [hemptied, chained_cons rfl]
      simp
    obtain ⟨own, hown, hfailed, hbroken, hcount⟩ := (tenants_agree_with_chain hdistinct).2 _
      { row with eventHash := some "" } "t1" hverified rfl hmem hseq hrow
    refine ⟨_, own, ?_, hverified, hown, hfailed, hbroken, ?_⟩
    · rw [hemptied, List.map_append, List.map_cons, hpre, hrow, hpost]
      rfl
    · have hfilter : (pre.filter fun other => other.tenantId = some "t1").length =
          (pre.map AuditEvent.tenantId).countP fun tenantId => tenantId = some "t1" := by
        rw [List.countP_map, List.countP_eq_length_filter]
        rfl
      rw [hcount, countP_before hdistinct hordered, hfilter, hpre]
      rfl

/-- An event without a hash is not looked at. -/
theorem removed_hash_undetected : ¬∀ (events : Unit → NewEvent)
    (P : Pool Unit Database Call Reply PyErr AuditEvent Empty Empty)
    (pre post : List AuditEvent) (row row' : AuditEvent) (t : String) (db : Database),
    (writers Unit).Reach (launch events {}) P →
      P.store.auditEvents.rows = pre ++ row :: post → row.tenantId = some t →
      ¬OwnHash row' → db.auditEvents.rows = pre ++ row' :: post →
        ∃ result, verifyTenantEvents db t = .ok result ∧ result.ok = false := by
  intro hclaim
  obtain ⟨P, hash, hreach, hrows⟩ := ownedEvent_recorded
  have hbroken : ¬OwnHash (ownedRow none) := by
    rintro ⟨hash, _, hown⟩
    cases hown
  obtain ⟨result, hresult, hok⟩ := hclaim _ P [] [] _ (ownedRow none) "t1"
    (holding (ownedRow none)) hreach hrows rfl hbroken rfl
  have hempty : verifyTenantEvents (holding (ownedRow none)) "t1" =
      .ok { status := .empty, verifiedCount := 0, totalCount := 0 } := rfl
  rw [hempty] at hresult
  cases hresult
  cases hok

end Sample

end AuditService

end ControlPlane
