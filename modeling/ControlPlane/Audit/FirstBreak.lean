import ControlPlane.Audit.ConcurrentWriters
import ControlPlane.Audit.TamperEvidence

/-!
Where `verify_chain` stops on a table that was intact before one of its rows
was rewritten, deleted or forged, and that it keeps stopping there. The loop
leaves at the first row that does not link, so what follows that row changes
the total and nothing else; and `record` numbers every later row above the
last row of the table it finds, broken or not.
-/

namespace ControlPlane.Lib

/-- Elements that come after all of `l` are sorted behind it. -/
theorem insertionSort_append {α : Type} (r : α → α → Prop) [DecidableRel r]
    {l l' : List α} (h : ∀ a ∈ l, ∀ b ∈ l', r a b) :
    (l ++ l').insertionSort r = l.insertionSort r ++ l'.insertionSort r := by
  have hinsert : ∀ (a : α) (s t : List α), (∀ b ∈ t, r a b) →
      (s ++ t).orderedInsert r a = s.orderedInsert r a ++ t := by
    intro a s t hle
    induction s with
    | nil => cases t with
      | nil => rfl
      | cons b t => simp [hle b (by simp)]
    | cons b s ih =>
        simp only [List.cons_append, List.orderedInsert]
        split
        · rfl
        · rw [ih, List.cons_append]
  induction l with
  | nil => rfl
  | cons a l ih =>
      have hrest : ∀ b ∈ l'.insertionSort r, r a b := by
        intro b hb
        exact h a (by simp) b ((List.mem_insertionSort r).mp hb)
      rw [List.cons_append, List.insertionSort_cons, List.insertionSort_cons,
        ih fun b hb => h b (by simp [hb]), hinsert a _ _ hrest]

end ControlPlane.Lib

namespace ControlPlane.AuditService

open Lib

section

variable [Deployment]

/-- What the loop finds at a row when it expects the previous hash `p`. -/
inductive Breaks (p : String) (row : AuditEvent) : String → Prop where
  | link (h : row.previousHash ≠ some p) : Breaks p row "broken_link"
  | hash (h : row.previousHash = some p) {hash : String}
      (hhash : computeEventHash row (some p) = .ok hash)
      (hne : row.eventHash ≠ some hash) : Breaks p row "hash_mismatch"

/-- Linked rows are passed over. -/
theorem verifyFrom_linked {p q : String} {rows rest : List AuditEvent}
    (h : Chain Link p rows q) (index total : Nat) :
    verifyFrom (some p) index total (rows ++ rest) =
      verifyFrom (some q) (index + rows.length) total rest := by
  induction rows generalizing p index with
  | nil => rw [Chain.nil_iff.mp h, List.nil_append, List.length_nil, Nat.add_zero]
  | cons row rows ih =>
      obtain ⟨m, ⟨hprevious, hhash, hevent⟩, hrest⟩ := h
      have hstep : verifyFrom (some p) index total (row :: (rows ++ rest)) =
          verifyFrom (some m) (index + 1) total (rows ++ rest) := by
        simp [verifyFrom, hprevious, hhash, hevent, bind, Except.bind]
      rw [List.cons_append, hstep, ih hrest, List.length_cons, Nat.add_right_comm,
        Nat.add_assoc]

/-- What `verify_chain` returns on a chain broken at `seq`. -/
def brokenResult (reason : String) (seq : Option Int) (count total : Nat) :
    ChainVerificationResult where
  status := .failed
  verifiedCount := count
  totalCount := total
  brokenAtSeq := seq
  reason := some reason

theorem verifyFrom_breaks {p reason : String} {row : AuditEvent}
    (h : Breaks p row reason) (index total : Nat) (rest : List AuditEvent) :
    verifyFrom (some p) index total (row :: rest) =
      .ok (brokenResult reason row.seq index total) := by
  cases h with
  | link h => simp [verifyFrom, h, brokenResult]
  | @hash h hash hhash hne =>
      have hne' : some hash ≠ row.eventHash := fun heq => hne heq.symm
      simp [verifyFrom, h, hhash, hne', bind, Except.bind, brokenResult]

/-- The first row of the table that does not link, in the order of the loop. -/
def FirstBreak (rows : List AuditEvent) (reason : String) (seq : Option Int)
    (count : Nat) : Prop :=
  ∃ init row rest p, orderedChain rows = init ++ row :: rest ∧
    Chain Link genesisHash init p ∧ Breaks p row reason ∧
    row.seq = seq ∧ init.length = count

theorem FirstBreak.verifyChain {rows : List AuditEvent} {reason : String}
    {seq : Option Int} {count : Nat} (h : FirstBreak rows reason seq count) :
    verifyChain rows =
      .ok (brokenResult reason seq count (orderedChain rows).length) := by
  obtain ⟨init, row, rest, p, hrows, hinit, hbreak, rfl, rfl⟩ := h
  have hne : (orderedChain rows).isEmpty = false := by simp [hrows]
  rw [AuditService.verifyChain]
  simp only [hne, Bool.false_eq_true, if_false]
  rw [hrows, verifyFrom_linked hinit, verifyFrom_breaks hbreak, Nat.zero_add]

/-- Rows behind the last one do not change where the chain breaks. -/
theorem FirstBreak.append {rows rows' more : List AuditEvent} {reason : String}
    {seq : Option Int} {count : Nat} (h : FirstBreak rows reason seq count)
    (hmore : orderedChain rows' = orderedChain rows ++ more) :
    FirstBreak rows' reason seq count := by
  obtain ⟨init, row, rest, p, hrows, hinit, hbreak, hseq, hcount⟩ := h
  refine ⟨init, row, rest ++ more, p, ?_, hinit, hbreak, hseq, hcount⟩
  rw [hmore, hrows, List.append_assoc, List.cons_append]

/-- A row numbered above `N`. -/
def Above (N : Int) (row : AuditEvent) : Prop := ∃ m, row.seq = some m ∧ N < m

/-- The chained rows end with number `N` and none is numbered above it. -/
structure EndsAt (rows : List AuditEvent) (N : Int) : Prop where
  last : ∃ row, chainHead rows = some row ∧ row.seq = some N
  le : ∀ row ∈ chained rows, ∃ m, row.seq = some m ∧ m ≤ N

theorem orderedChain_append {rows more : List AuditEvent} {N : Int}
    (hrows : EndsAt rows N) (hmore : ∀ row ∈ more, Above N row) :
    orderedChain (rows ++ more) = orderedChain rows ++ orderedChain more := by
  have hsplit : chained (rows ++ more) = chained rows ++ chained more :=
    List.filter_append ..
  rw [orderedChain, hsplit]
  apply insertionSort_append
  intro a ha b hb
  obtain ⟨m, hm, hle⟩ := hrows.le a ha
  obtain ⟨n, hn, hlt⟩ := hmore b (mem_chained.mp hb).1
  have hmn : m ≤ n := by omega
  simp [seqLe, hm, hn, hmn]

/-- The number `record` takes is above those of the table it started from. -/
theorem lt_nextSeq {rows more : List AuditEvent} {N : Int}
    (hrows : EndsAt rows N) (hmore : ∀ row ∈ more, Above N row) :
    N < nextSeq (chainHead (rows ++ more)) := by
  rw [chainHead, orderedChain_append hrows hmore, List.getLast?_append]
  cases hlast : (orderedChain more).getLast? with
  | none =>
      obtain ⟨row, hrow, hseq⟩ := hrows.last
      rw [chainHead] at hrow
      simp [hrow, nextSeq, hseq]
  | some row =>
      have hmem : row ∈ orderedChain more := List.mem_of_getLast? hlast
      have hmem : row ∈ chained more := (List.mem_insertionSort _).mp hmem
      obtain ⟨m, hm, hlt⟩ := hmore row (mem_chained.mp hmem).1
      simp [nextSeq, hm]
      omega

/-- What a writer may still do: a row it holds is numbered above `N`. -/
inductive Appender (N : Int) : Session AuditEvent → Prop where
  | reading (e : NewEvent) (attempts : Nat) : Appender N (recordFrom e attempts)
  | appending {row : AuditEvent} (h : Above N row) (e : NewEvent)
      (attempts : Nat) : Appender N (append row (recordFrom e attempts))
  | returned (row : AuditEvent) : Appender N (.pure row)
  | failed (error : PyErr) : Appender N (.raise error)

/-- The table grows by rows numbered above `N`. -/
def Grown (base : List AuditEvent) (N : Int) (rows : List AuditEvent) : Prop :=
  ∃ more, rows = base ++ more ∧ ∀ row ∈ more, Above N row

theorem above_of_link {e : NewEvent} {head : Option AuditEvent} {now : Moment}
    {row : AuditEvent} {N : Int} (hlink : e.link head now = .ok row)
    (hnext : N < nextSeq head) : Above N row := by
  unfold NewEvent.link at hlink
  cases hhash : computeEventHash (e.row head now) (previousHash head) with
  | error error =>
      rw [hhash] at hlink
      cases hlink
  | ok hash =>
      rw [hhash] at hlink
      cases hlink
      exact ⟨_, rfl, hnext⟩

theorem grown_append {base : List AuditEvent} {N : Int} {s : Database}
    {row : AuditEvent} {e : NewEvent} {attempts : Nat}
    (h : Grown base N s.auditEvents.rows) (hrow : Above N row) (r : DbReply) :
    Grown base N ((Transaction.insertAudit row).write r s).auditEvents.rows ∧
      Appender N (afterCommit row (recordFrom e attempts) r s) := by
  unfold afterCommit
  cases hrun : (Transaction.insertAudit row).run r s with
  | ok s' =>
      obtain ⟨_, happly⟩ := Transaction.run_eq_ok.mp hrun
      obtain ⟨T', hinsert, rfl⟩ := Option.map_eq_some_iff.mp happly
      obtain ⟨more, hmore, habove⟩ := h
      rw [Transaction.write_of_ok hrun]
      refine ⟨⟨more ++ [row.inserted r], ?_, ?_⟩, .returned _⟩
      · rw [Table.rows_insert hinsert, hmore, List.append_assoc]
      · intro x hx
        rcases List.mem_append.mp hx with hx | hx
        · exact habove x hx
        · rw [List.mem_singleton.mp hx]
          exact hrow
  | error error =>
      rw [Transaction.write_of_error hrun]
      refine ⟨h, ?_⟩
      split
      · next heq => cases heq
      · exact .reading e attempts
      · exact .reading e attempts
      · exact .failed _

theorem grown_act {base : List AuditEvent} {N : Int} (hbase : EndsAt base N)
    {s : Database} {call : Call} {write : Reply call → Database → Database}
    {next : Reply call → Database → Session AuditEvent}
    (hgrown : Grown base N s.auditEvents.rows)
    (h : Appender N (.act call write next)) (answer : Reply call) :
    Grown base N (write answer s).auditEvents.rows ∧
      Appender N (next answer s) := by
  generalize hp : Prog.act call write next = p at h
  cases h with
  | reading e attempts =>
      cases attempts with
      | zero => cases hp
      | succ attempts =>
          cases hp
          refine ⟨hgrown, ?_⟩
          obtain ⟨more, hmore, habove⟩ := hgrown
          dsimp only
          cases hlink : e.link (chainHead s.auditEvents.rows)
              (Reading.now answer) with
          | ok row =>
              have hnext := lt_nextSeq hbase habove
              rw [← hmore] at hnext
              exact .appending (above_of_link hlink hnext) e attempts
          | error error => exact .failed error
  | appending hrow e attempts =>
      cases hp
      exact grown_append hgrown hrow answer
  | returned row => cases hp
  | failed error => cases hp

/-- However many writers append to a table, and in whatever order: the table
they started from stays below their rows. -/
theorem grown_reach {τ : Type} [DecidableEq τ] {base : List AuditEvent} {N : Int}
    (hbase : EndsAt base N) {events : τ → NewEvent} {start : Database}
    (hstart : start.auditEvents.rows = base)
    {P : Pool τ Database Call Reply PyErr AuditEvent Empty Empty}
    (hreach : (writers τ).Reach (launch events start) P) :
    Grown base N P.store.auditEvents.rows ∧
      ∀ t, Appender N (P.thread t) := by
  induction hreach with
  | refl =>
      exact ⟨⟨[], by simp [launch, hstart], by simp⟩,
        fun t => .reading (events t) maxRecordAttempts⟩
  | step _ hstep ih =>
      obtain ⟨hgrown, hthreads⟩ := ih
      cases hstep with
      | spawn hspawn => exact hspawn.elim
      | @request req => exact req.elim
      | @act t call write next answer hthread _ =>
          have happender := hthreads t
          rw [hthread] at happender
          obtain ⟨hgrown', hnext⟩ := grown_act hbase hgrown happender answer
          refine ⟨hgrown', ?_⟩
          intro u
          rcases eq_or_ne u t with rfl | hu
          · simpa only [Function.update_self] using hnext
          · simpa only [Function.update_of_ne hu] using hthreads u

/-- The assumption on the digest, for the texts that are hashed. -/
structure Digests (texts : Set String) : Prop where
  inj : Set.InjOn Deployment.sha256 texts
  fresh : ∀ text ∈ texts, Deployment.sha256 text ≠ genesisHash

theorem Digests.mono {texts texts' : Set String} (h : Digests texts')
    (hsub : texts ⊆ texts') : Digests texts where
  inj := h.inj.mono hsub
  fresh := fun text htext => h.fresh text (hsub htext)

/-- `row'` stands in the place of `row` and differs from it in a hash-bound
field. The changed time is one that a row can have, a moment in UTC. -/
structure Rewrites (row row' : AuditEvent) : Prop where
  seq : row'.seq = row.seq
  previousHash : row'.previousHash = row.previousHash
  bound : hashBound row' row'.previousHash ≠ hashBound row row.previousHash
  createdAt : ∃ m : Moment, row'.createdAt.instant = m.wall

/-- What `verify_chain` reports, on the table itself and after any number of
further calls of `record`, alone or racing each other. -/
def KeepsReporting (rows : List AuditEvent) (reason : String) (seq : Int)
    (count : Nat) : Prop :=
  (∃ total, verifyChain rows = .ok (brokenResult reason (some seq) count total)) ∧
    ∀ (τ : Type) [DecidableEq τ] (events : τ → NewEvent) (start : Database)
      (P : Pool τ Database Call Reply PyErr AuditEvent Empty Empty),
      start.auditEvents.rows = rows →
      (writers τ).Reach (launch events start) P →
      ∃ total, verifyChain P.store.auditEvents.rows =
        .ok (brokenResult reason (some seq) count total)

theorem keepsReporting {rows : List AuditEvent} {reason : String} {seq N : Int}
    {count : Nat} (hbreak : FirstBreak rows reason (some seq) count)
    (hends : EndsAt rows N) : KeepsReporting rows reason seq count := by
  refine ⟨⟨_, hbreak.verifyChain⟩, ?_⟩
  intro τ _ events start P hstart hreach
  obtain ⟨⟨more, hmore, habove⟩, _⟩ := grown_reach hends hstart hreach
  have hordered := orderedChain_append hends habove
  rw [← hmore] at hordered
  exact ⟨_, (hbreak.append hordered).verifyChain⟩

/-- Rows in the order of their numbers. -/
def Rising (rows : List AuditEvent) : Prop :=
  rows.Pairwise fun a b => ∃ m n, a.seq = some m ∧ b.seq = some n ∧ m < n

theorem orderedChain_of_rising {rows : List AuditEvent}
    (h : Rising (chained rows)) : orderedChain rows = chained rows := by
  apply List.Pairwise.insertionSort_eq
  refine h.imp ?_
  rintro a b ⟨m, n, ha, hb, hlt⟩
  have hle : m ≤ n := by omega
  simp [seqLe, ha, hb, hle]

theorem endsAt_of_rising {rows init : List AuditEvent} {last : AuditEvent}
    {N : Int} (h : Rising (chained rows)) (hrows : chained rows = init ++ [last])
    (hlast : last.seq = some N) : EndsAt rows N := by
  constructor
  · refine ⟨last, ?_, hlast⟩
    rw [chainHead, orderedChain_of_rising h, hrows, List.getLast?_concat]
  · intro row hrow
    rw [hrows] at h hrow
    rcases List.mem_append.mp hrow with hrow | hrow
    · have hbefore := (List.pairwise_append.mp h).2.2 row hrow last (by simp)
      obtain ⟨m, n, hm, hn, hlt⟩ := hbefore
      have hN : n = N := Option.some.inj (hn.symm.trans hlast)
      exact ⟨m, hm, by omega⟩
    · rw [List.mem_singleton.mp hrow]
      exact ⟨N, hlast, le_refl N⟩

/-- The rows of an intact chain are numbered from 1. -/
theorem seq_of_intact {rows : List AuditEvent} {head : String}
    (h : IntactTo rows head) {i : Nat} {row : AuditEvent}
    (hrow : (chained rows)[i]? = some row) : row.seq = some (i + 1 : Int) := by
  have hmap := congrArg (fun l => l[i]?) h.numbered
  have hlt : i < (chained rows).length :=
    (List.getElem?_eq_some_iff.mp hrow).1
  have hrange : (List.range' 1 (chained rows).length)[i]? = some (1 + i) := by
    rw [List.getElem?_range' hlt, Nat.one_mul]
  simp only [List.getElem?_map, hrow, hrange, Option.map_some,
    Option.some.injEq] at hmap
  rw [hmap]
  congr 1
  omega

theorem rising_of_intact {rows : List AuditEvent} {head : String}
    (h : IntactTo rows head) : Rising (chained rows) := by
  rw [Rising, List.pairwise_iff_getElem]
  intro i j hi hj hij
  refine ⟨_, _, seq_of_intact h (List.getElem?_eq_getElem hi),
    seq_of_intact h (List.getElem?_eq_getElem hj), by omega⟩

omit [Deployment] in
theorem chained_cons {row : AuditEvent} (h : row.eventHash.isSome)
    (pre post : List AuditEvent) :
    chained (pre ++ row :: post) = chained pre ++ row :: chained post := by
  simp [chained, h]

/-- An intact chain around one of its rows: what is before and behind it, and
the hash it names and the one it carries. -/
structure Around (rows : List AuditEvent) (k : Nat) (row : AuditEvent)
    (init rest : List AuditEvent) (p q : String) : Prop where
  chained : chained rows = init ++ row :: rest
  initial : Chain Link genesisHash init p
  link : Link p row q
  following : ∃ head, Chain Link q rest head
  seq : row.seq = some (k : Int)
  position : k = init.length + 1
  rising : Rising (init ++ row :: rest)
  last : ∀ row', (init ++ row :: rest).getLast? = some row' →
    row'.seq = some (init.length + 1 + rest.length : Int)
  next : ∀ row' rest', rest = row' :: rest' →
    row'.seq = some (init.length + 2 : Int)

theorem around_of_intact {rows pre post : List AuditEvent} {row : AuditEvent}
    {k : Nat} (hintact : Intact rows) (hrows : rows = pre ++ row :: post)
    (hk : row.seq = some (k : Int)) :
    ∃ p q, Around rows k row (chained pre) (chained post) p q := by
  obtain ⟨head, h⟩ := hintact
  have hmem : row ∈ rows := by simp [hrows]
  have hsome : row.eventHash.isSome := by
    cases hhash : row.eventHash with
    | none =>
        rw [h.legacy row hmem hhash] at hk
        cases hk
    | some hash => rfl
  have hchained : chained rows = chained pre ++ row :: chained post := by
    rw [hrows, chained_cons hsome]
  have hlinked := h.linked
  rw [hchained] at hlinked
  obtain ⟨p, hinitial, q, hlink, hrest⟩ := Chain.append_iff.mp hlinked
  have hseq : ∀ (i : Nat) (row' : AuditEvent),
      (chained pre ++ row :: chained post)[i]? = some row' →
        row'.seq = some (i + 1 : Int) := by
    intro i row' hrow'
    rw [← hchained] at hrow'
    exact seq_of_intact h hrow'
  refine ⟨p, q, hchained, hinitial, hlink, ⟨head, hrest⟩, hk, ?_, ?_, ?_, ?_⟩
  · have hnumber := hseq (chained pre).length row (by simp)
    rw [hk, Option.some.injEq] at hnumber
    omega
  · rw [← hchained]
    exact rising_of_intact h
  · intro row' hlast
    rw [List.getLast?_eq_getElem?] at hlast
    have hnumber := hseq _ row' hlast
    rw [hnumber]
    simp only [List.length_append, List.length_cons]
    congr 1
    omega
  · intro row' rest' hpost
    have hnumber := hseq ((chained pre).length + 1) row'
      (by simp [hpost])
    rw [hnumber]
    congr 1

/-- The text hashed for a chained row of a table is one of the table's. -/
theorem mem_payloads {rows : List AuditEvent} {row : AuditEvent} {text : String}
    (hrow : row ∈ chained rows)
    (htext : canonicalPayload row row.previousHash = .ok text) :
    text ∈ payloads rows :=
  ⟨row, (List.mem_insertionSort _).mpr hrow, htext⟩

/-- Two chained rows that differ in a hash-bound field have different hashes. -/
theorem hash_ne {rows rows' : List AuditEvent} (row row' : AuditEvent)
    {hash hash' : String} (hdigests : Digests (payloads rows ∪ payloads rows'))
    (hrow : row ∈ chained rows) (hrow' : row' ∈ chained rows')
    (hhash : computeEventHash row row.previousHash = .ok hash)
    (hhash' : computeEventHash row' row'.previousHash = .ok hash')
    (hbound : hashBound row' row'.previousHash ≠ hashBound row row.previousHash) :
    hash' ≠ hash := by
  obtain ⟨text, htext, rfl⟩ := computeEventHash_eq_ok.mp hhash
  obtain ⟨text', htext', rfl⟩ := computeEventHash_eq_ok.mp hhash'
  intro heq
  have hsame := hdigests.inj (Or.inr (mem_payloads hrow' htext'))
    (Or.inl (mem_payloads hrow htext)) heq
  subst hsame
  exact hbound (canonicalPayload_inj htext' htext)

/-- A rewritten row can be hashed. -/
theorem Rewrites.hash {row row' : AuditEvent} (h : Rewrites row row')
    (previousHash : Option String) :
    ∃ hash, computeEventHash row' previousHash = .ok hash := by
  obtain ⟨m, hm⟩ := h.createdAt
  obtain ⟨text, htext⟩ := Datetime.utcText_utc m
  have hsame : row'.createdAt.instant = (Datetime.utc m).instant := by
    rw [hm, Datetime.instant_utc]
  rw [← Datetime.utcText_congr hsame] at htext
  exact ⟨_, computeEventHash_eq_ok.mpr
    ⟨_, canonicalPayload_eq_ok.mpr ⟨text, htext, rfl⟩, rfl⟩⟩

omit [Deployment] in
/-- The order of the numbers is that of the table before. -/
theorem rising_replace {init rest : List AuditEvent} {row row' : AuditEvent}
    (h : Rising (init ++ row :: rest)) (hseq : row'.seq = row.seq) :
    Rising (init ++ row' :: rest) := by
  unfold Rising at h ⊢
  simp only [List.pairwise_append, List.pairwise_cons, List.mem_cons] at h ⊢
  obtain ⟨hinit, ⟨hrow, hrest⟩, hcross⟩ := h
  refine ⟨hinit, ⟨?_, hrest⟩, ?_⟩
  · intro b hb
    rw [hseq]
    exact hrow b hb
  · rintro a ha b (rfl | hb)
    · obtain ⟨m, n, hm, hn, hlt⟩ := hcross a ha row (Or.inl rfl)
      exact ⟨m, n, hm, hseq.trans hn, hlt⟩
    · exact hcross a ha b (Or.inr hb)

/-- A table whose chain ends with a row ends at that row's number. -/
theorem exists_endsAt {rows : List AuditEvent} {N : Int}
    (hrising : Rising (chained rows)) (hne : chained rows ≠ [])
    (hlast : ∀ row, (chained rows).getLast? = some row → row.seq = some N) :
    EndsAt rows N := by
  have hsplit := (List.dropLast_append_getLast hne).symm
  exact endsAt_of_rising hrising hsplit
    (hlast _ (List.getLast?_eq_some_getLast hne))

omit [Deployment] in
/-- The last number survives the exchange of a row. -/
theorem last_replace {init rest : List AuditEvent} {row row' : AuditEvent}
    {N : Int} (hseq : row'.seq = row.seq)
    (h : ∀ x, (init ++ row :: rest).getLast? = some x → x.seq = some N) :
    ∀ x, (init ++ row' :: rest).getLast? = some x → x.seq = some N := by
  intro x hx
  cases rest using List.reverseRecOn with
  | nil =>
      rw [List.getLast?_concat, Option.some.injEq] at hx
      rw [← hx, hseq]
      exact h row (by rw [List.getLast?_concat])
  | append_singleton rest last =>
      have hend : ∀ y : AuditEvent, init ++ y :: (rest ++ [last]) =
          (init ++ y :: rest) ++ [last] := by simp
      rw [hend, List.getLast?_concat, Option.some.injEq] at hx
      exact h x (by rw [hend, List.getLast?_concat, hx])

/-- A rewritten row whose hash was not renewed. -/
theorem keepsReporting_rewritten {pre post : List AuditEvent}
    {row row' : AuditEvent} {k : Nat} {p q : String}
    (h : Around (pre ++ row :: post) k row (chained pre) (chained post) p q)
    (hrewrites : Rewrites row row') (hevent : row'.eventHash = row.eventHash)
    (hdigests : Digests (payloads (pre ++ row :: post) ∪
      payloads (pre ++ row' :: post))) :
    KeepsReporting (pre ++ row' :: post) "hash_mismatch" k (k - 1) := by
  obtain ⟨hprevious, hhash, hstored⟩ := h.link
  have hchained' : chained (pre ++ row' :: post) =
      chained pre ++ row' :: chained post :=
    chained_cons (by rw [hevent, hstored]; rfl) pre post
  have hrising := rising_replace h.rising hrewrites.seq
  rw [← hchained'] at hrising
  have hends : EndsAt (pre ++ row' :: post) _ :=
    exists_endsAt hrising (by simp [hchained'])
      (by rw [hchained']; exact last_replace hrewrites.seq h.last)
  have hprevious' : row'.previousHash = some p :=
    hrewrites.previousHash.trans hprevious
  obtain ⟨hash, hhash'⟩ := hrewrites.hash (some p)
  have hne : hash ≠ q :=
    hash_ne row row' hdigests (by simp [h.chained]) (by simp [hchained'])
      (by rw [hprevious]; exact hhash) (by rw [hprevious']; exact hhash')
      hrewrites.bound
  have hposition := h.position
  refine keepsReporting ?_ hends
  refine ⟨chained pre, row', chained post, p, ?_, h.initial, ?_, ?_, ?_⟩
  · rw [orderedChain_of_rising hrising, hchained']
  · refine .hash hprevious' hhash' ?_
    rw [hevent, hstored]
    intro heq
    exact hne (Option.some.inj heq).symm
  · exact hrewrites.seq.trans h.seq
  · omega

/-- A deleted row: the next one names the hash of a row that is gone. -/
theorem keepsReporting_deleted {pre post : List AuditEvent} {row : AuditEvent}
    {k : Nat} {p q : String}
    (h : Around (pre ++ row :: post) k row (chained pre) (chained post) p q)
    (hpost : chained post ≠ [])
    (hdigests : Digests (payloads (pre ++ row :: post))) :
    KeepsReporting (pre ++ post) "broken_link" (k + 1) (k - 1) := by
  have hchained' : chained (pre ++ post) = chained pre ++ chained post :=
    List.filter_append ..
  have hrising : Rising (chained (pre ++ post)) := by
    rw [hchained']
    exact h.rising.sublist ((List.sublist_cons_self _ _).append_left _)
  obtain ⟨next, rest, hnext⟩ := List.exists_cons_of_ne_nil hpost
  have hends : EndsAt (pre ++ post)
      ((chained pre).length + 1 + (chained post).length) := by
    apply exists_endsAt hrising (by simp [hchained', hpost])
    intro x hx
    apply h.last x
    rw [hchained', hnext, List.getLast?_append_cons] at hx
    rw [hnext, List.getLast?_append_cons, List.getLast?_cons_cons, hx]
  have hrow : row ∈ chained (pre ++ row :: post) := by simp [h.chained]
  obtain ⟨hprevious, hhash, _⟩ := h.link
  have hpq : q ≠ p := by
    have hinitial := h.initial
    cases hinit : chained pre using List.reverseRecOn with
    | nil =>
        rw [hinit, Chain.nil_iff] at hinitial
        obtain ⟨text, htext, rfl⟩ := computeEventHash_eq_ok.mp hhash
        rw [← hinitial]
        exact hdigests.fresh text (mem_payloads hrow (hprevious ▸ htext))
    | append_singleton init last =>
        rw [hinit] at hinitial
        obtain ⟨m, _, hprevious', hhash', _⟩ := Chain.concat_iff.mp hinitial
        have hlast : last ∈ chained (pre ++ row :: post) := by
          simp [h.chained, hinit]
        have hrising := h.rising
        rw [hinit] at hrising
        have hbefore := (List.pairwise_append.mp hrising).2.2 last (by simp) row
          (by simp)
        refine hash_ne last row (hdigests.mono (by simp)) hlast hrow
          (by rw [hprevious']; exact hhash') (by rw [hprevious]; exact hhash) ?_
        intro hbound
        obtain ⟨i, j, hi, hj, hlt⟩ := hbefore
        have hseq : row.seq = last.seq := congrArg HashBound.seq hbound
        rw [hi, hj, Option.some.injEq] at hseq
        omega
  have hfollowing := h.following
  rw [hnext] at hfollowing
  obtain ⟨_, m, hlink', _⟩ := hfollowing
  have hposition := h.position
  refine keepsReporting ?_ hends
  refine ⟨chained pre, next, rest, p, ?_, h.initial, ?_, ?_, by omega⟩
  · rw [orderedChain_of_rising hrising, hchained', hnext]
  · refine .link ?_
    rw [hlink'.1]
    exact fun heq => hpq (Option.some.inj heq)
  · rw [h.next next rest hnext, hposition]
    congr 1

/-- A forged row carries its own hash, but the next one still names the hash
of the row before. -/
theorem keepsReporting_forged {pre post : List AuditEvent}
    {row row' : AuditEvent} {k : Nat} {p q hash : String}
    (h : Around (pre ++ row :: post) k row (chained pre) (chained post) p q)
    (hpost : chained post ≠ []) (hrewrites : Rewrites row row')
    (hhash' : computeEventHash row' row'.previousHash = .ok hash)
    (hevent : row'.eventHash = some hash)
    (hdigests : Digests (payloads (pre ++ row :: post) ∪
      payloads (pre ++ row' :: post))) :
    KeepsReporting (pre ++ row' :: post) "broken_link" (k + 1) k := by
  obtain ⟨hprevious, hhash, _⟩ := h.link
  have hchained' : chained (pre ++ row' :: post) =
      chained pre ++ row' :: chained post :=
    chained_cons (by rw [hevent]; rfl) pre post
  have hrising := rising_replace h.rising hrewrites.seq
  rw [← hchained'] at hrising
  have hends : EndsAt (pre ++ row' :: post) _ :=
    exists_endsAt hrising (by simp [hchained'])
      (by rw [hchained']; exact last_replace hrewrites.seq h.last)
  have hprevious' : row'.previousHash = some p :=
    hrewrites.previousHash.trans hprevious
  have hne : hash ≠ q :=
    hash_ne row row' hdigests (by simp [h.chained]) (by simp [hchained'])
      (by rw [hprevious]; exact hhash) hhash' hrewrites.bound
  obtain ⟨next, rest, hnext⟩ := List.exists_cons_of_ne_nil hpost
  have hfollowing := h.following
  rw [hnext] at hfollowing
  obtain ⟨_, m, hlink', _⟩ := hfollowing
  have hposition := h.position
  refine keepsReporting ?_ hends
  refine ⟨chained pre ++ [row'], next, rest, hash, ?_, ?_, ?_, ?_, ?_⟩
  · rw [orderedChain_of_rising hrising, hchained', hnext, List.append_assoc]
    rfl
  · exact Chain.concat_iff.mpr
      ⟨p, h.initial, hprevious', hprevious' ▸ hhash', hevent⟩
  · refine .link ?_
    rw [hlink'.1]
    exact fun heq => hne (Option.some.inj heq).symm
  · rw [h.next next rest hnext, hposition]
    congr 1
  · rw [List.length_append, List.length_singleton, hposition]

/-- `verify_chain` localises the first break of a chain that calls of `record`
wrote, and keeps reporting it. Event `k` of `n` is rewritten without renewing
its hash, deleted, or rewritten and given the hash recomputed from it. -/
theorem verifyChain_first_break {τ : Type} [DecidableEq τ]
    {events : τ → NewEvent} {start : Database}
    (hlegacy : ∀ row ∈ start.auditEvents.rows,
      row.seq = none ∧ row.eventHash = none)
    {P : Pool τ Database Call Reply PyErr AuditEvent Empty Empty}
    (hreach : (writers τ).Reach (launch events start) P)
    {pre post : List AuditEvent} {row : AuditEvent} {k : Nat}
    (hrows : P.store.auditEvents.rows = pre ++ row :: post)
    (hk : row.seq = some (k : Int)) :
    (∀ row', Rewrites row row' → row'.eventHash = row.eventHash →
      Digests (payloads (pre ++ row :: post) ∪ payloads (pre ++ row' :: post)) →
      KeepsReporting (pre ++ row' :: post) "hash_mismatch" k (k - 1)) ∧
    (k < (chained P.store.auditEvents.rows).length →
      Digests (payloads (pre ++ row :: post)) →
      KeepsReporting (pre ++ post) "broken_link" (k + 1) (k - 1)) ∧
    (k < (chained P.store.auditEvents.rows).length →
      ∀ row' hash, Rewrites row row' →
      computeEventHash row' row'.previousHash = .ok hash →
      row'.eventHash = some hash →
      Digests (payloads (pre ++ row :: post) ∪ payloads (pre ++ row' :: post)) →
      KeepsReporting (pre ++ row' :: post) "broken_link" (k + 1) k) := by
  have hintact := (writers_reach (writers_launch hlegacy) hreach).intact
  rw [hrows] at hintact ⊢
  obtain ⟨p, q, h⟩ := around_of_intact hintact rfl hk
  have hpost : k < (chained (pre ++ row :: post)).length →
      chained post ≠ [] := by
    intro hlt hnil
    have hposition := h.position
    rw [h.chained, hnil, List.length_append, List.length_singleton] at hlt
    omega
  exact ⟨fun row' => keepsReporting_rewritten h,
    fun hlt => keepsReporting_deleted h (hpost hlt),
    fun hlt row' hash => keepsReporting_forged h (hpost hlt)⟩

/-- `record` hashes a row with the same bound fields to the same hash. -/
theorem link_of_bound {e : NewEvent} {head : Option AuditEvent} {now : Moment}
    {row : AuditEvent} {p hash : String} (hlink : Link p row hash)
    (hbound : hashBound (e.row head now) (previousHash head) =
      hashBound row (some p)) :
    e.link head now = .ok { e.row head now with eventHash := some hash } := by
  have hhash : computeEventHash (e.row head now) (previousHash head) =
      .ok hash := by
    have hprevious : previousHash head = some p :=
      congrArg HashBound.previousHash hbound
    rw [hprevious] at hbound ⊢
    rw [← hlink.2.1, computeEventHash, computeEventHash,
      canonicalPayload_congr hbound]
  rw [NewEvent.link, hhash]
  rfl

/-- A writer that is not interrupted reads the head and commits its row. -/
theorem reach_record {τ : Type} [DecidableEq τ]
    {P : Pool τ Database Call Reply PyErr AuditEvent Empty Empty} {t : τ}
    {e : NewEvent} {attempts : Nat} {now : Moment} {row : AuditEvent}
    {r : DbReply} (hthread : P.thread t = recordFrom e (attempts + 1))
    (hlink : e.link (chainHead P.store.auditEvents.rows) now = .ok row)
    (hfailure : r.failure = none)
    (haccepts : P.store.auditEvents.Accepts (row.inserted r)) :
    ∃ P', (contended τ).Reach P P' ∧
      P'.store.auditEvents.rows = P.store.auditEvents.rows ++ [row.inserted r] ∧
      P'.thread t = .pure (row.inserted r) ∧ ∀ u, u ≠ t → P'.thread u = P.thread u := by
  obtain ⟨P₁, hreach₁, hstore₁, hthread₁, hothers₁, _⟩ := reach_read hthread hlink
  rw [← hstore₁] at haccepts ⊢
  obtain ⟨P₂, hreach₂, hrows₂, hthread₂, hothers₂, _⟩ := reach_append hthread₁ hfailure haccepts
  exact ⟨P₂, hreach₁.trans hreach₂, hrows₂, hthread₂,
    fun u hu => (hothers₂ u hu).trans (hothers₁ u hu)⟩

end

section Sample

local instance instFirstBreak : Deployment := .sqlite

/-- The calls that write the sample chain. -/
def sampleEvents : Bool → NewEvent
  | true => raceEvents true
  | false =>
      { action := AuditAction.approvalApproved
        resourceType := "approval"
        resourceId := "a1"
        actor := some "ops"
        metadata := some [("note", .null)] }

def sampleReply (id : String) : DbReply where
  newId := id
  now := sampleCreated.createdAt.moment
  failure := none
  message := ""

theorem sampleCreated_recorded :
    (sampleEvents true).link none sampleCreated.createdAt.moment = .ok
      { (sampleEvents true).row none sampleCreated.createdAt.moment with
        eventHash := sampleCreated.eventHash } :=
  link_of_bound (sampleCreated_link "e1") rfl

theorem sampleApproved_recorded :
    (sampleEvents false).link (some sampleCreated)
        sampleApproved.createdAt.moment = .ok
      { (sampleEvents false).row (some sampleCreated)
          sampleApproved.createdAt.moment with
        eventHash := sampleApproved.eventHash } :=
  link_of_bound sampleApproved_link rfl

/-- Both events are recorded, the second after the first. -/
theorem sampleChain_recorded : ∃ P, (writers Bool).Reach
    (launch sampleEvents {}) P ∧
      P.store.auditEvents.rows = [sampleCreated, sampleApproved] := by
  have hfirst : AuditEvent.inserted
      { (sampleEvents true).row none sampleCreated.createdAt.moment with
        eventHash := sampleCreated.eventHash } (sampleReply "e1") =
      sampleCreated := by decide +kernel
  have hsecond : AuditEvent.inserted
      { (sampleEvents false).row (some sampleCreated)
          sampleApproved.createdAt.moment with
        eventHash := sampleApproved.eventHash } (sampleReply "e2") =
      sampleApproved := by decide +kernel
  obtain ⟨P, hreach, hrows, _, hthread⟩ := reach_record
    (P := launch sampleEvents {}) (t := true) rfl sampleCreated_recorded
    (r := sampleReply "e1") rfl (by rw [hfirst]; decide)
  rw [hfirst] at hrows
  have hrows : P.store.auditEvents.rows = [sampleCreated] := hrows
  have hhead : chainHead P.store.auditEvents.rows = some sampleCreated := by
    rw [hrows]
    rfl
  obtain ⟨P', hreach', hrows', _⟩ := reach_record (P := P) (t := false)
    (hthread false (by decide)) (by rw [hhead]; exact sampleApproved_recorded)
    (r := sampleReply "e2") rfl (by
      rw [hsecond]
      simp [Table.Accepts, hrows, sampleCreated, sampleApproved])
  refine ⟨P', reach_writers (hreach.trans hreach'), ?_⟩
  rw [hrows', hrows, hsecond]
  rfl

/-- The first event under another actor. -/
def sampleRewritten : AuditEvent := { sampleCreated with actor := some "eve" }

/-- The same with its hash renewed. -/
def sampleForged : AuditEvent :=
  { sampleRewritten with
    eventHash := some
      "4af38bfe6d5e687d21ed45889c8baba90ffbfd98418ac98b39e511fe26befb2c" }

def sampleRewrittenText : String :=
  (Json.obj (payloadFields sampleRewritten (some "2026-01-05T09:30:00+00:00")
    sampleRewritten.previousHash)).dumps true .compact

theorem sampleRewritten_digest : Sha256.hexdigest sampleRewrittenText =
    "4af38bfe6d5e687d21ed45889c8baba90ffbfd98418ac98b39e511fe26befb2c" := by
  decide +kernel

theorem sampleRewritten_rewrites (hash : Option String) :
    Rewrites sampleCreated { sampleRewritten with eventHash := hash } where
  seq := rfl
  previousHash := rfl
  bound := by
    intro heq
    have hactor := congrArg HashBound.actor heq
    cases hactor
  createdAt := ⟨sampleCreated.createdAt.moment, Datetime.instant_naive_utc _⟩

theorem sampleRewritten_payload (hash : Option String) :
    canonicalPayload { sampleRewritten with eventHash := hash }
      sampleRewritten.previousHash = .ok sampleRewrittenText :=
  canonicalPayload_eq_ok.mpr ⟨_, sampleCreated_time, rfl⟩

/-- The texts of the sample, which have different hashes. -/
theorem sample_digests : Digests
    {text | text = sampleCreatedText ∨ text = sampleApprovedText ∨
      text = sampleRewrittenText} where
  inj := by
    have hca : Sha256.hexdigest sampleCreatedText ≠
        Sha256.hexdigest sampleApprovedText := by
      rw [sampleCreated_digest, sampleApproved_digest]
      decide
    have hcr : Sha256.hexdigest sampleCreatedText ≠
        Sha256.hexdigest sampleRewrittenText := by
      rw [sampleCreated_digest, sampleRewritten_digest]
      decide
    have har : Sha256.hexdigest sampleApprovedText ≠
        Sha256.hexdigest sampleRewrittenText := by
      rw [sampleApproved_digest, sampleRewritten_digest]
      decide
    intro x hx y hy (hxy : Sha256.hexdigest x = Sha256.hexdigest y)
    rcases hx with rfl | rfl | rfl
    · rcases hy with rfl | rfl | rfl
      · rfl
      · exact absurd hxy hca
      · exact absurd hxy hcr
    · rcases hy with rfl | rfl | rfl
      · exact absurd hxy hca.symm
      · rfl
      · exact absurd hxy har
    · rcases hy with rfl | rfl | rfl
      · exact absurd hxy hcr.symm
      · exact absurd hxy har.symm
      · rfl
  fresh := by
    rintro text (rfl | rfl | rfl) <;> intro (heq : Sha256.hexdigest _ = _)
    · rw [sampleCreated_digest] at heq
      exact absurd heq (by decide +kernel)
    · rw [sampleApproved_digest] at heq
      exact absurd heq (by decide +kernel)
    · rw [sampleRewritten_digest] at heq
      exact absurd heq (by decide +kernel)

/-- What a table of sample rows hashes is among the sample texts. -/
theorem sample_payloads {rows : List AuditEvent}
    (h : ∀ row ∈ rows, row = sampleCreated ∨ row = sampleApproved ∨
      ∃ hash, row = { sampleRewritten with eventHash := hash }) :
    payloads rows ⊆ {text | text = sampleCreatedText ∨
      text = sampleApprovedText ∨ text = sampleRewrittenText} := by
  rintro text ⟨row, hrow, htext⟩
  have hrow := (List.mem_insertionSort _).mp hrow
  rcases h row (mem_chained.mp hrow).1 with rfl | rfl | ⟨hash, rfl⟩
  · exact Or.inl (Except.ok.inj (htext.symm.trans (sampleCreated_payload "e1")))
  · rw [sampleApproved_payload] at htext
    exact Or.inr (Or.inl (Except.ok.inj htext).symm)
  · exact Or.inr (Or.inr
      (Except.ok.inj (htext.symm.trans (sampleRewritten_payload hash))))

/-- The three reports for the first of the two events. -/
theorem verifyChain_first_break_sample :
    KeepsReporting [sampleRewritten, sampleApproved] "hash_mismatch" 1 0 ∧
    KeepsReporting [sampleApproved] "broken_link" 2 0 ∧
    KeepsReporting [sampleForged, sampleApproved] "broken_link" 2 1 := by
  obtain ⟨P, hreach, hrows⟩ := sampleChain_recorded
  have hlt : 1 < (chained P.store.auditEvents.rows).length := by
    rw [hrows]
    decide
  have hsplit : P.store.auditEvents.rows =
      [] ++ sampleCreated :: [sampleApproved] := hrows
  obtain ⟨hrewritten, hdeleted, hforged⟩ := verifyChain_first_break
    (k := 1) (by simp [Table.empty]) hreach hsplit rfl
  refine ⟨?_, ?_, ?_⟩
  · refine hrewritten sampleRewritten
      (sampleRewritten_rewrites sampleCreated.eventHash) rfl ?_
    apply sample_digests.mono
    apply Set.union_subset <;> apply sample_payloads
    · simp
    · simp only [List.nil_append, List.mem_cons, List.not_mem_nil, or_false]
      rintro row (rfl | rfl)
      · exact Or.inr (Or.inr ⟨_, rfl⟩)
      · exact Or.inr (Or.inl rfl)
  · exact hdeleted hlt (sample_digests.mono (sample_payloads (by simp)))
  · refine hforged hlt sampleForged _ (sampleRewritten_rewrites _) (computeEventHash_eq_ok.mpr
      ⟨_, sampleRewritten_payload _, sampleRewritten_digest⟩) rfl ?_
    apply sample_digests.mono
    apply Set.union_subset <;> apply sample_payloads
    · simp
    · simp only [List.nil_append, List.mem_cons, List.not_mem_nil, or_false]
      rintro row (rfl | rfl)
      · exact Or.inr (Or.inr ⟨_, rfl⟩)
      · exact Or.inr (Or.inl rfl)

end Sample

end ControlPlane.AuditService
