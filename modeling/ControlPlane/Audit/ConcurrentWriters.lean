import ControlPlane.Audit.Chain
import ControlPlane.Lib.Threads

/-!
Any number of writers appending to one audit chain. Reading the head and
committing the new row are separate steps, so a writer may hold a head that
others have already extended. What a writer holds is then a position the chain
has reached before, and the UNIQUE constraint on `seq` rejects it: only the
writer that holds the current head can commit. This needs that the positions
are exactly `1..n`; that, with the links, is the invariant.

The table may start with rows from before the chain. Nothing is assumed about
the answers: clocks, ids, and failures of commits are arbitrary.
-/

namespace ControlPlane.AuditService

open Lib

theorem mem_chained {rows : List AuditEvent} {row : AuditEvent} :
    row ∈ chained rows ↔ row ∈ rows ∧ row.eventHash.isSome := by
  simp [chained]

section

variable {τ : Type} [DecidableEq τ]

/-- The rows are exactly those the threads have returned, one thread a row. -/
structure OneToOne (thread : τ → Session AuditEvent) (rows : List AuditEvent) :
    Prop where
  returned : ∀ row ∈ rows, ∃ t, thread t = .pure row
  distinct : ∀ t u row, thread t = .pure row → thread u = .pure row → t = u

theorem OneToOne.waiting {thread : τ → Session AuditEvent}
    {rows : List AuditEvent} {t : τ} {p : Session AuditEvent}
    (h : OneToOne thread rows) (hbusy : ∀ row, thread t ≠ .pure row)
    (hp : ∀ row, p ≠ .pure row) : OneToOne (Function.update thread t p) rows := by
  have hiff : ∀ u row, Function.update thread t p u = .pure row ↔
      thread u = .pure row := by
    intro u row
    rcases eq_or_ne u t with rfl | hu
    · simp [hbusy, hp]
    · rw [Function.update_of_ne hu]
  constructor
  · intro row hrow
    obtain ⟨u, hu⟩ := h.returned row hrow
    exact ⟨u, (hiff u row).mpr hu⟩
  · intro u v row hu hv
    exact h.distinct u v row ((hiff u row).mp hu) ((hiff v row).mp hv)

theorem OneToOne.appended {thread : τ → Session AuditEvent}
    {rows : List AuditEvent} {t : τ} {row : AuditEvent}
    (h : OneToOne thread rows) (hbusy : ∀ row, thread t ≠ .pure row)
    (hnew : ∀ u, thread u ≠ .pure row) :
    OneToOne (Function.update thread t (.pure row)) (rows ++ [row]) := by
  have hiff : ∀ u x, Function.update thread t (.pure row) u = .pure x ↔
      thread u = .pure x ∨ u = t ∧ x = row := by
    intro u x
    rcases eq_or_ne u t with rfl | hu
    · simp [hbusy, eq_comm]
    · simp [hu]
  constructor
  · intro x hx
    rcases List.mem_append.mp hx with hx | hx
    · obtain ⟨u, hu⟩ := h.returned x hx
      exact ⟨u, (hiff u x).mpr (Or.inl hu)⟩
    · exact ⟨t, (hiff t x).mpr (Or.inr ⟨rfl, List.mem_singleton.mp hx⟩)⟩
  · intro u v x hu hv
    rcases (hiff u x).mp hu with hu | ⟨hut, hx⟩
    · rcases (hiff v x).mp hv with hv | ⟨_, hx⟩
      · exact h.distinct u v x hu hv
      · exact absurd (hx ▸ hu) (hnew u)
    · rcases (hiff v x).mp hv with hv | ⟨hvt, _⟩
      · exact absurd (hx ▸ hv) (hnew v)
      · rw [hut, hvt]

end

section

variable [Deployment]

/-- The chained rows are numbered `1..n` and linked from the genesis hash to
`head`; every other row has no number. -/
structure IntactTo (rows : List AuditEvent) (head : String) : Prop where
  legacy : ∀ row ∈ rows, row.eventHash = none → row.seq = none
  numbered : (chained rows).map AuditEvent.seq =
    (List.range' 1 (chained rows).length).map fun k : Nat => some (k : Int)
  linked : Chain Link genesisHash (chained rows) head

def Intact (rows : List AuditEvent) : Prop := ∃ head, IntactTo rows head

theorem seq_mem_iff {rows : List AuditEvent} {head : String}
    (h : IntactTo rows head) {m : Int} :
    m ∈ rows.filterMap AuditEvent.seq ↔ 1 ≤ m ∧ m ≤ (chained rows).length := by
  have hseq : m ∈ rows.filterMap AuditEvent.seq ↔
      some m ∈ (chained rows).map AuditEvent.seq := by
    simp only [List.mem_filterMap, List.mem_map, mem_chained]
    constructor
    · rintro ⟨row, hrow, hm⟩
      refine ⟨row, ⟨hrow, ?_⟩, hm⟩
      cases hhash : row.eventHash with
      | none =>
          rw [h.legacy row hrow hhash] at hm
          cases hm
      | some hash => rfl
    · rintro ⟨row, ⟨hrow, _⟩, hm⟩
      exact ⟨row, hrow, hm⟩
  rw [hseq, h.numbered, List.mem_map]
  constructor
  · rintro ⟨k, hk, hkm⟩
    have hrange := List.mem_range'_1.mp hk
    have := Option.some.inj hkm
    omega
  · intro hm
    exact ⟨m.toNat, List.mem_range'_1.mpr (by omega), by
      rw [Int.toNat_of_nonneg (by omega)]⟩

/-- The rows are stored in the order of the chain. -/
theorem orderedChain_of_intact {rows : List AuditEvent} {head : String}
    (h : IntactTo rows head) : orderedChain rows = chained rows := by
  apply List.Pairwise.insertionSort_eq
  have hsorted : ((chained rows).map AuditEvent.seq).Pairwise fun a b =>
      ∃ m n : Int, a = some m ∧ b = some n ∧ m ≤ n := by
    rw [h.numbered, List.pairwise_map]
    refine (List.pairwise_lt_range').imp ?_
    intro m n hmn
    exact ⟨m, n, rfl, rfl, by omega⟩
  rw [List.pairwise_map] at hsorted
  refine hsorted.imp ?_
  rintro a b ⟨m, n, ha, hb, hmn⟩
  simp [seqLe, ha, hb, hmn]

theorem intact_empty {rows : List AuditEvent}
    (h : ∀ row ∈ rows, row.seq = none ∧ row.eventHash = none) :
    IntactTo rows genesisHash := by
  have hnil : chained rows = [] := by
    simp only [chained, List.filter_eq_nil_iff]
    intro row hrow
    simp [(h row hrow).2]
  exact {
    legacy := fun row hrow _ => (h row hrow).1
    numbered := by simp [hnil]
    linked := by simp [hnil] }

theorem verifyChain_of_intact {rows : List AuditEvent} (h : Intact rows) :
    verifyChain rows = .ok (if (chained rows).length = 0 then
      { status := .empty, verifiedCount := 0, totalCount := 0 }
      else verifiedResult (chained rows).length) := by
  obtain ⟨head, h⟩ := h
  have hordered := orderedChain_of_intact h
  split
  · next hlen =>
      have hnil : orderedChain rows = [] := by
        rw [hordered]
        exact List.eq_nil_of_length_eq_zero hlen
      simp [verifyChain, hnil]
  · next hlen =>
      refine (verifyChain_verified_iff.mpr ⟨?_, ⟨head, ?_⟩, ?_⟩).1
      · rw [hordered]
        intro hnil
        exact hlen (by simp [hnil])
      · rw [hordered]
        exact h.linked
      · rw [hordered]

/-- A row built on some head the chain has had: it takes a position up to the
next one, and the next one only with the current head. -/
structure Ready (rows : List AuditEvent) (row : AuditEvent) : Prop where
  position : ∃ m : Int, row.seq = some m ∧ 1 ≤ m ∧ m ≤ (chained rows).length + 1
  link : ∃ p q, Link p row q ∧
    ∀ head, IntactTo rows head →
      row.seq = some ((chained rows).length + 1 : Int) → p = head
  createdAt : ∃ now, row.createdAt = .utc now

theorem link_inserted {row : AuditEvent} {p q : String} {r : DbReply}
    {now : Moment} (hnow : row.createdAt = .utc now) (h : Link p row q) :
    Link p (row.inserted r) q := by
  obtain ⟨hprevious, hhash, hevent⟩ := h
  refine ⟨hprevious, ?_, hevent⟩
  have hbound : hashBound (row.inserted r) (some p) = hashBound row (some p) := by
    simp [hashBound, AuditEvent.inserted, hnow, Deployment.instant_stored]
  unfold computeEventHash
  rw [canonicalPayload_congr hbound]
  exact hhash

theorem chained_append {rows : List AuditEvent} {row : AuditEvent} {p q : String}
    (h : Link p row q) : chained (rows ++ [row]) = chained rows ++ [row] := by
  simp [chained, h.2.2]

/-- Once a row with a number is in, its writer held the current head, and the
chain is intact again. -/
theorem intact_insert {T T' : AuditTable} {row : AuditEvent} {r : DbReply}
    (hintact : Intact T.rows) (hready : Ready T.rows row)
    (hinsert : T.insert (row.inserted r) = some T') :
    Intact T'.rows ∧ chained T'.rows = chained T.rows ++ [row.inserted r] := by
  obtain ⟨head, h⟩ := hintact
  obtain ⟨m, hm, hpos, hle⟩ := hready.position
  obtain ⟨p, q, hlink, hcurrent⟩ := hready.link
  obtain ⟨now, hnow⟩ := hready.createdAt
  have hfresh : m ∉ T.rows.filterMap AuditEvent.seq :=
    Table.uniq_fresh_of_insert hinsert hm
  rw [seq_mem_iff h] at hfresh
  have hmax : m = (chained T.rows).length + 1 := by omega
  obtain rfl : p = head := hcurrent head h (hmax ▸ hm)
  have hlink' := link_inserted (r := r) hnow hlink
  have hrows := Table.rows_insert hinsert
  have hchained : chained T'.rows = chained T.rows ++ [row.inserted r] := by
    rw [hrows]
    exact chained_append hlink'
  refine ⟨⟨q, ?_⟩, hchained⟩
  constructor
  · intro x hx hnone
    rw [hrows] at hx
    rcases List.mem_append.mp hx with hx | hx
    · exact h.legacy x hx hnone
    · rw [List.mem_singleton.mp hx, hlink'.2.2] at hnone
      cases hnone
  · have hseq : (row.inserted r).seq = some m := hm
    rw [hchained, List.map_append, h.numbered, List.length_append,
      List.length_singleton, List.range'_1_concat, List.map_append]
    simp [hseq, hmax, add_comm]
  · rw [hchained]
    exact Chain.concat_iff.mpr ⟨p, h.linked, hlink'⟩

/-- A row stays ready while others append. -/
theorem Ready.insert {T T' : AuditTable} {row other : AuditEvent}
    (h : Ready T.rows row)
    (hchained : chained T'.rows = chained T.rows ++ [other]) :
    Ready T'.rows row := by
  obtain ⟨m, hm, hpos, hle⟩ := h.position
  obtain ⟨p, q, hlink, _⟩ := h.link
  have hlen : (chained T'.rows).length = (chained T.rows).length + 1 := by
    simp [hchained]
  refine ⟨⟨m, hm, hpos, by omega⟩, ⟨p, q, hlink, ?_⟩, h.createdAt⟩
  intro head _ hseq
  rw [hm, Option.some.injEq] at hseq
  omega

/-- The next position and the head, as `record` computes them. -/
theorem head_of_intact {rows : List AuditEvent} {head : String}
    (h : IntactTo rows head) :
    previousHash (chainHead rows) = some head ∧
      nextSeq (chainHead rows) = (chained rows).length + 1 := by
  have hlinked := h.linked
  have hnumbered := h.numbered
  rw [chainHead, orderedChain_of_intact h]
  cases hrows : chained rows using List.reverseRecOn with
  | nil =>
      rw [hrows, Chain.nil_iff] at hlinked
      simp [previousHash, nextSeq, hlinked]
  | append_singleton rest last =>
      rw [hrows] at hlinked hnumbered
      obtain ⟨m, _, hlink⟩ := Chain.concat_iff.mp hlinked
      rw [List.map_append, List.length_append, List.length_singleton,
        List.range'_1_concat, List.map_append] at hnumbered
      have hlast := (List.append_inj hnumbered (by simp)).2
      have hseq : last.seq = some ((1 + rest.length : Nat) : Int) := by
        simpa using hlast
      refine ⟨?_, ?_⟩
      · simp [previousHash, hlink.2.2]
      · simp [nextSeq, hseq, add_comm]

/-- What `record` reads and hashes is ready to be appended. -/
theorem ready_link {rows : List AuditEvent} {e : NewEvent} {now : Moment}
    {row : AuditEvent} (hintact : Intact rows)
    (hlink : e.link (chainHead rows) now = .ok row) : Ready rows row := by
  obtain ⟨head, h⟩ := hintact
  obtain ⟨hprevious, hnext⟩ := head_of_intact h
  unfold NewEvent.link at hlink
  cases hhash : computeEventHash (e.row (chainHead rows) now)
      (previousHash (chainHead rows)) with
  | error error =>
      rw [hhash] at hlink
      cases hlink
  | ok hash =>
      rw [hhash] at hlink
      cases hlink
      rw [hprevious] at hhash
      constructor
      · exact ⟨_, rfl, by omega, by omega⟩
      · refine ⟨head, hash, ⟨hprevious, hhash, rfl⟩, ?_⟩
        intro head' h' _
        have hprevious' := (head_of_intact h').1
        exact Option.some.inj (hprevious.symm.trans hprevious')
      · exact ⟨now, rfl⟩

variable {τ : Type}

/-- Threads that run `record` and nothing else. -/
def writers (τ : Type) :
    System τ Database Call Reply PyErr AuditEvent Empty Empty where
  adm := fun _ _ _ => True
  spawn := fun _ _ => False
  body := fun req => req.elim

/-- A commit fails only if its number is taken. -/
def contention : (q : Call) → Reply q → Database → Prop
  | .commit _, (r : DbReply), s =>
      r.failure = none ∧ ∀ row ∈ s.auditEvents.rows, row.id ≠ r.newId
  | _, _, _ => True

/-- Writers that fail under contention only. -/
def contended (τ : Type) :
    System τ Database Call Reply PyErr AuditEvent Empty Empty :=
  { writers τ with adm := contention }

/-- Every writer `t` is about to call `record (events t)`. -/
def launch (events : τ → NewEvent) (start : Database) :
    Pool τ Database Call Reply PyErr AuditEvent Empty Empty where
  store := start
  thread := fun t => record (events t)
  history := []

/-- What a writer may still do, given the rows of the table. -/
inductive Writer (rows : List AuditEvent) : Session AuditEvent → Prop where
  | reading (e : NewEvent) (attempts : Nat) : Writer rows (recordFrom e attempts)
  | appending {row : AuditEvent} (h : Ready rows row) (e : NewEvent)
      (attempts : Nat) : Writer rows (append row (recordFrom e attempts))
  | returned {row : AuditEvent} (h : row ∈ chained rows) : Writer rows (.pure row)
  | failed (error : PyErr) : Writer rows (.raise error)

theorem Writer.insert {T T' : AuditTable} {p : Session AuditEvent}
    {other : AuditEvent} (h : Writer T.rows p)
    (hchained : chained T'.rows = chained T.rows ++ [other]) :
    Writer T'.rows p := by
  cases h with
  | reading e attempts => exact .reading e attempts
  | appending h e attempts => exact .appending (h.insert hchained) e attempts
  | returned h => exact .returned (by simp [hchained, h])
  | failed error => exact .failed error

/-- One action of a writer: the table stays as it is and the writer has not
returned, or the writer returns the row it has appended. -/
inductive Progress (T : AuditTable) : AuditTable → Session AuditEvent → Prop where
  | waiting {p} (h : Writer T.rows p) (hrunning : ∀ row, p ≠ .pure row) :
      Progress T T p
  | appended {T' row} (hintact : Intact T'.rows)
      (hchained : chained T'.rows = chained T.rows ++ [row])
      (hfresh : row ∉ chained T.rows) : Progress T T' (.pure row)

theorem recordFrom_ne_pure (e : NewEvent) (attempts : Nat) (row : AuditEvent) :
    recordFrom e attempts ≠ .pure row := by
  cases attempts with
  | zero => simp [recordFrom]
  | succ attempts => simp [recordFrom]

theorem append_progress {s : Database} {row : AuditEvent} {e : NewEvent}
    {attempts : Nat} (hintact : Intact s.auditEvents.rows)
    (hready : Ready s.auditEvents.rows row) (r : DbReply) :
    Progress s.auditEvents ((Transaction.insertAudit row).write r s).auditEvents
      (afterCommit row (recordFrom e attempts) r s) := by
  unfold afterCommit
  cases hrun : (Transaction.insertAudit row).run r s with
  | ok s' =>
      obtain ⟨_, happly⟩ := Transaction.run_eq_ok.mp hrun
      obtain ⟨T', hinsert, rfl⟩ := Option.map_eq_some_iff.mp happly
      obtain ⟨hintact', hchained⟩ := intact_insert hintact hready hinsert
      rw [Transaction.write_of_ok hrun]
      refine .appended hintact' hchained ?_
      intro hmem
      have hnone := Table.key_fresh_of_insert hinsert
      exact (Table.find?_eq_none _).mp hnone _ (mem_chained.mp hmem).1 rfl
  | error error =>
      rw [Transaction.write_of_error hrun]
      split
      · next h => cases h
      · exact .waiting (.reading e attempts) (recordFrom_ne_pure e attempts)
      · exact .waiting (.reading e attempts) (recordFrom_ne_pure e attempts)
      · exact .waiting (.failed _) (by simp)

theorem writer_progress {s : Database} {call : Call}
    {write : Reply call → Database → Database}
    {next : Reply call → Database → Session AuditEvent}
    (hintact : Intact s.auditEvents.rows)
    (h : Writer s.auditEvents.rows (.act call write next))
    (answer : Reply call) :
    Progress s.auditEvents (write answer s).auditEvents (next answer s) := by
  generalize hp : Prog.act call write next = p at h
  cases h with
  | reading e attempts =>
      cases attempts with
      | zero => cases hp
      | succ attempts =>
          cases hp
          dsimp only
          cases hlink : e.link (chainHead s.auditEvents.rows)
              (Reading.now answer) with
          | ok row =>
              exact .waiting (.appending (ready_link hintact hlink) e attempts)
                (by simp [append])
          | error error => exact .waiting (.failed error) (by simp)
  | appending hready e attempts =>
      cases hp
      exact append_progress hintact hready answer
  | returned h => cases hp
  | failed error => cases hp

theorem writer_pure {rows : List AuditEvent} {row : AuditEvent}
    (h : Writer rows (.pure row)) : row ∈ chained rows := by
  generalize hp : (Prog.pure row : Session AuditEvent) = p at h
  cases h with
  | reading e attempts => exact absurd hp.symm (recordFrom_ne_pure e attempts row)
  | appending hready e attempts => cases hp
  | returned h =>
      cases hp
      exact h
  | failed error => cases hp

/-- The invariant of all interleavings: an intact table, and a one-to-one
correspondence between its chained rows and the writers that have returned. -/
structure Writers
    (P : Pool τ Database Call Reply PyErr AuditEvent Empty Empty) : Prop where
  intact : Intact P.store.auditEvents.rows
  writer : ∀ t, Writer P.store.auditEvents.rows (P.thread t)
  oneToOne : OneToOne P.thread (chained P.store.auditEvents.rows)

theorem writers_launch {events : τ → NewEvent} {start : Database}
    (hlegacy : ∀ row ∈ start.auditEvents.rows,
      row.seq = none ∧ row.eventHash = none) : Writers (launch events start) := by
  have hintact := intact_empty hlegacy
  have hnil : chained start.auditEvents.rows = [] := by
    simp only [chained, List.filter_eq_nil_iff]
    intro row hrow
    simp [(hlegacy row hrow).2]
  constructor
  · exact ⟨genesisHash, hintact⟩
  · exact fun t => .reading (events t) maxRecordAttempts
  · constructor
    · intro row hrow
      simp [launch, hnil] at hrow
    · intro t u row ht
      exact absurd ht (recordFrom_ne_pure (events t) maxRecordAttempts row)

variable [DecidableEq τ]

omit [Deployment] in
theorem reach_writers {P P' : Pool τ Database Call Reply PyErr AuditEvent Empty Empty}
    (h : (contended τ).Reach P P') : (writers τ).Reach P P' :=
  System.Reach.mono (S := contended τ) (fun _ _ _ _ => trivial) (fun _ _ h => h) rfl h

theorem writers_step {P P' : Pool τ Database Call Reply PyErr AuditEvent Empty Empty}
    (h : Writers P) (hstep : (writers τ).Step P P') : Writers P' := by
  cases hstep with
  | spawn hspawn => exact hspawn.elim
  | @request req => exact req.elim
  | @act t call write next answer hthread _ =>
      have hwriter := h.writer t
      rw [hthread] at hwriter
      have hprogress := writer_progress h.intact hwriter answer
      have hbusy : ∀ row, P.thread t ≠ .pure row := by
        intro row hrow
        rw [hthread] at hrow
        cases hrow
      generalize hnext : next answer P.store = p at hprogress
      generalize hwrite : (write answer P.store).auditEvents = T at hprogress
      cases hprogress with
      | waiting hp hrunning =>
          constructor
          · simpa only [hwrite] using h.intact
          · intro u
            rcases eq_or_ne u t with rfl | hu
            · simpa only [hwrite, Function.update_self] using hp
            · simpa only [hwrite, Function.update_of_ne hu] using h.writer u
          · simpa only [hwrite] using h.oneToOne.waiting hbusy hrunning
      | @appended T' row hintact hchained hfresh =>
          constructor
          · simpa only [hwrite] using hintact
          · intro u
            rcases eq_or_ne u t with rfl | hu
            · simp only [hwrite, Function.update_self]
              exact .returned (by simp [hchained])
            · simp only [hwrite, Function.update_of_ne hu]
              exact (h.writer u).insert hchained
          · simp only [hwrite, hchained]
            refine h.oneToOne.appended hbusy ?_
            intro u hu
            have hw := h.writer u
            rw [hu] at hw
            exact hfresh (writer_pure hw)

theorem writers_reach {P P' : Pool τ Database Call Reply PyErr AuditEvent Empty Empty}
    (h : Writers P) (hreach : (writers τ).Reach P P') : Writers P' := by
  induction hreach with
  | refl => exact h
  | step _ hstep ih => exact writers_step ih hstep

/-- The chain as a reader of the table sees it: numbered `1..n`, each row
naming its predecessor's hash, each hash recomputable from the stored row. -/
structure WellChained (rows : List AuditEvent) : Prop where
  numbered : rows.map AuditEvent.seq =
    (List.range' 1 rows.length).map fun k : Nat => some (k : Int)
  first : ∀ row, rows[0]? = some row → row.previousHash = some genesisHash
  next : ∀ k row row', rows[k]? = some row → rows[k + 1]? = some row' →
    row'.previousHash = row.eventHash
  hashed : ∀ row ∈ rows, ∃ hash,
    computeEventHash row row.previousHash = .ok hash ∧ row.eventHash = some hash

theorem chain_first {p q : String} {rows : List AuditEvent} {row : AuditEvent}
    (h : Chain Link p rows q) (hrow : rows[0]? = some row) :
    row.previousHash = some p := by
  cases rows with
  | nil => cases hrow
  | cons x rest =>
      cases hrow
      obtain ⟨m, hlink, _⟩ := h
      exact hlink.1

theorem chain_next {p q : String} {rows : List AuditEvent} {k : Nat}
    {row row' : AuditEvent} (h : Chain Link p rows q)
    (hrow : rows[k]? = some row) (hrow' : rows[k + 1]? = some row') :
    row'.previousHash = row.eventHash := by
  induction rows generalizing p k with
  | nil => cases hrow
  | cons x rest ih =>
      obtain ⟨m, hlink, hrest⟩ := h
      cases k with
      | zero =>
          cases hrow
          rw [List.getElem?_cons_succ] at hrow'
          rw [chain_first hrest hrow', hlink.2.2]
      | succ k =>
          rw [List.getElem?_cons_succ] at hrow hrow'
          exact ih hrest hrow hrow'

theorem chain_hashed {p q : String} {rows : List AuditEvent} {row : AuditEvent}
    (h : Chain Link p rows q) (hrow : row ∈ rows) : ∃ hash,
      computeEventHash row row.previousHash = .ok hash ∧
        row.eventHash = some hash := by
  induction rows generalizing p with
  | nil => cases hrow
  | cons x rest ih =>
      obtain ⟨m, hlink, hrest⟩ := h
      rcases List.mem_cons.mp hrow with rfl | hrow
      · exact ⟨m, hlink.1 ▸ hlink.2.1, hlink.2.2⟩
      · exact ih hrest hrow

theorem wellChained_of_intact {rows : List AuditEvent} (h : Intact rows) :
    WellChained (chained rows) := by
  obtain ⟨head, h⟩ := h
  exact {
    numbered := h.numbered
    first := fun row hrow => chain_first h.linked hrow
    next := fun k row row' hrow hrow' => chain_next h.linked hrow hrow'
    hashed := fun row hrow => chain_hashed h.linked hrow }

/-- Every reachable state of any number of concurrent writers: the chain is
numbered without gap or duplicate, linked from the genesis hash and hashed as
stored, it verifies with full counts, and its rows are those of the calls that
have returned, one each. -/
theorem record_concurrent {events : τ → NewEvent} {start : Database}
    (hlegacy : ∀ row ∈ start.auditEvents.rows,
      row.seq = none ∧ row.eventHash = none)
    {P : Pool τ Database Call Reply PyErr AuditEvent Empty Empty}
    (hreach : (writers τ).Reach (launch events start) P) :
    orderedChain P.store.auditEvents.rows = chained P.store.auditEvents.rows ∧
    WellChained (chained P.store.auditEvents.rows) ∧
    verifyChain P.store.auditEvents.rows =
      .ok (if (chained P.store.auditEvents.rows).length = 0 then
        { status := .empty, verifiedCount := 0, totalCount := 0 }
        else verifiedResult (chained P.store.auditEvents.rows).length) ∧
    (∀ t row, P.thread t = .pure row →
      row ∈ chained P.store.auditEvents.rows) ∧
    ∀ row ∈ chained P.store.auditEvents.rows, ∃! t, P.thread t = .pure row := by
  have h := writers_reach (writers_launch hlegacy) hreach
  refine ⟨?_, wellChained_of_intact h.intact, verifyChain_of_intact h.intact,
    ?_, ?_⟩
  · obtain ⟨head, hintact⟩ := h.intact
    exact orderedChain_of_intact hintact
  · intro t row hrow
    have hwriter := h.writer t
    rw [hrow] at hwriter
    exact writer_pure hwriter
  · intro row hrow
    obtain ⟨t, ht⟩ := h.oneToOne.returned row hrow
    exact ⟨t, ht, fun u hu => h.oneToOne.distinct u t row hu ht⟩

end

section Steps

variable [Deployment] {τ : Type} [DecidableEq τ]
  {P : Pool τ Database Call Reply PyErr AuditEvent Empty Empty} {t : τ} {e : NewEvent}
  {attempts : Nat} {now : Moment} {row : AuditEvent} {r : DbReply} {retry : Session AuditEvent}

omit [DecidableEq τ] in
/-- A row built on the current head is accepted under a new id. -/
theorem accepts_next {T : AuditTable} {hash : String} (hintact : Intact T.rows)
    (hfresh : ∀ other ∈ T.rows, other.id ≠ r.newId) : T.Accepts (AuditEvent.inserted
      { e.row (chainHead T.rows) now with eventHash := some hash } r) := by
  obtain ⟨head, h⟩ := hintact
  constructor
  · intro hmem
    obtain ⟨other, hother, hid⟩ := List.mem_map.mp hmem
    exact hfresh other hother hid
  · intro u hu hmem
    have hnext : nextSeq (chainHead T.rows) = u := Option.some.inj hu
    rw [(head_of_intact h).2] at hnext
    have hle := ((seq_mem_iff h).mp hmem).2
    omega

/-- A writer reads the head of the chain. -/
theorem reach_read (hthread : P.thread t = recordFrom e (attempts + 1))
    (hlink : e.link (chainHead P.store.auditEvents.rows) now = .ok row) :
    ∃ P', (contended τ).Reach P P' ∧ P'.store = P.store ∧
      P'.thread t = append row (recordFrom e attempts) ∧
      (∀ u, u ≠ t → P'.thread u = P.thread u) ∧
      P'.history = P.history ++ [.act t P.store ⟨.select .chainHead, (⟨now, 0⟩ : Reading)⟩] := by
  have hreach := System.Reach.refl (S := contended τ) (P := P)
  have hreach := hreach.step (.act (t := t) (⟨now, 0⟩ : Reading) hthread trivial)
  refine ⟨_, hreach, rfl, ?_, fun u hu => ?_, rfl⟩
  · dsimp only
    rw [Function.update_self, hlink]
    rfl
  · simp only [Function.update_of_ne hu]

/-- Its row is stored. -/
theorem reach_append (hthread : P.thread t = append row retry) (hfailure : r.failure = none)
    (haccepts : P.store.auditEvents.Accepts (row.inserted r)) :
    ∃ P', (contended τ).Reach P P' ∧
      P'.store.auditEvents.rows = P.store.auditEvents.rows ++ [row.inserted r] ∧
      P'.thread t = .pure (row.inserted r) ∧ (∀ u, u ≠ t → P'.thread u = P.thread u) ∧
      (∃ s', (Transaction.insertAudit row).run r P.store = .ok s') ∧
      P'.history = P.history ++ [.act t P.store ⟨.commit (.insertAudit row), r⟩] := by
  have hinsert : P.store.auditEvents.insert (row.inserted r) =
      some (P.store.auditEvents.append _ haccepts) := dif_pos haccepts
  have hrun : (Transaction.insertAudit row).run r P.store =
      .ok { P.store with auditEvents := P.store.auditEvents.append _ haccepts } :=
    Transaction.run_eq_ok.mpr ⟨hfailure, by simp [Transaction.apply, hinsert]⟩
  have hfresh : ∀ other ∈ P.store.auditEvents.rows, other.id ≠ r.newId :=
    (Table.find?_eq_none _).mp (Table.key_fresh_of_insert hinsert)
  have hreach := System.Reach.refl (S := contended τ) (P := P)
  have hreach := hreach.step (.act (t := t) r hthread ⟨hfailure, hfresh⟩)
  refine ⟨_, hreach, ?_, ?_, fun u hu => ?_, ⟨_, hrun⟩, rfl⟩
  · change ((Transaction.insertAudit row).write r P.store).auditEvents.rows = _
    rw [Transaction.write_of_ok hrun]
    exact Table.rows_insert hinsert
  · dsimp only
    rw [Function.update_self]
    change afterCommit row retry r P.store = _
    rw [afterCommit, hrun]
  · simp only [Function.update_of_ne hu]

/-- Another row has taken its number, and the writer starts its next pass. -/
theorem reach_lost (hthread : P.thread t = append row retry) (hfailure : r.failure = none)
    (hfresh : ∀ other ∈ P.store.auditEvents.rows, other.id ≠ r.newId)
    (htaken : ¬P.store.auditEvents.Accepts (row.inserted r)) :
    ∃ P', (contended τ).Reach P P' ∧ P'.store = P.store ∧ P'.thread t = retry ∧
      (∀ u, u ≠ t → P'.thread u = P.thread u) ∧
      P'.history = P.history ++ [.act t P.store ⟨.commit (.insertAudit row), r⟩] := by
  have hinsert : P.store.auditEvents.insert (row.inserted r) = none := dif_neg htaken
  have hrun : (Transaction.insertAudit row).run r P.store = .error (.db .integrity r.message) := by
    unfold Transaction.run
    rw [hfailure]
    simp [Transaction.apply, hinsert]
  have hreach := System.Reach.refl (S := contended τ) (P := P)
  have hreach := hreach.step (.act (t := t) r hthread ⟨hfailure, hfresh⟩)
  refine ⟨_, hreach, Transaction.write_of_error hrun, ?_, fun u hu => ?_, rfl⟩
  · dsimp only
    rw [Function.update_self]
    change afterCommit row retry r P.store = _
    rw [afterCommit, hrun]
  · simp only [Function.update_of_ne hu]

end Steps

section Race

local instance instRace : Deployment := .sqlite

def raceEvents (_ : Bool) : NewEvent where
  action := AuditAction.approvalCreated
  resourceType := "approval"
  resourceId := "a1"
  metadata := some [("kind", .str "job.gate"), ("source_job_id", .str "j1")]

def raceClock : Moment := sampleCreated.createdAt.moment

def raceReply : DbReply where
  newId := "e1"
  now := raceClock
  failure := none
  message := ""

/-- Both writers read the empty chain and one commits: the theorem applies to
the state in between, where the other still holds a stale head. -/
theorem record_concurrent_race :
    ∃ P, (writers Bool).Reach (launch raceEvents {}) P ∧
      (∃ row, P.thread true = .pure row ∧
        chained P.store.auditEvents.rows = [row]) ∧
      verifyChain P.store.auditEvents.rows = .ok (verifiedResult 1) := by
  obtain ⟨hash, hlink⟩ := link_ok (raceEvents true) none raceClock
  obtain ⟨P₁, hreach₁, hstore₁, hthread₁, hothers₁, _⟩ :=
    reach_read (P := launch raceEvents {}) (t := true) rfl hlink
  obtain ⟨P₂, hreach₂, hstore₂, _, hothers₂, _⟩ :=
    reach_read (P := P₁) (t := false) (hothers₁ false (by decide)) (by rw [hstore₁]; exact hlink)
  have hrows₂ : P₂.store.auditEvents.rows = [] := by
    rw [hstore₂, hstore₁]
    rfl
  obtain ⟨P₃, hreach₃, hrows₃, hthread₃, _⟩ :=
    reach_append (P := P₂) (t := true) (r := raceReply) ((hothers₂ true (by decide)).trans hthread₁)
      rfl (by simp [Table.Accepts, hrows₂])
  have hreach := reach_writers ((hreach₁.trans hreach₂).trans hreach₃)
  rw [hrows₂, List.nil_append] at hrows₃
  have hchained : chained P₃.store.auditEvents.rows = P₃.store.auditEvents.rows := by
    rw [hrows₃]
    rfl
  refine ⟨P₃, hreach, ⟨_, hthread₃, by rw [hchained, hrows₃]⟩, ?_⟩
  rw [(record_concurrent (by simp [Table.empty]) hreach).2.2.1, hchained, hrows₃]
  rfl

end Race

end ControlPlane.AuditService
