import ControlPlane.Lib.Numbering
import ControlPlane.Lib.Threads

/-!
Programs that number their rows by reading the rows in use and storing one with
the next number, run side by side over one store. The reading and the storing are
two actions. Every interleaving comes to one of the operation lists of
`ControlPlane.Lib.Numbering`: the numbers are distinct exactly when nobody stores
between another program's reading and its storing, and then the rows are those of
the same calls made one after another.
-/

namespace ControlPlane.Lib

/-- Numbered rows in a store, and the actions that read and insert them. A client
that read the rows `seen` applies `retire seen` to the rows it finds and adds a
new one. -/
structure Numbering (σ Q : Type) (R : Q → Type) (ρ : Type) where
  rows : σ → List ρ
  key : ρ → String
  number : ρ → Int
  retire : List ρ → ρ → ρ
  make : String → Int → ρ
  reads : Q → Bool
  inserts : (q : Q) → R q → σ → Bool
  key_retire : ∀ seen row, key (retire seen row) = key row
  number_retire : ∀ seen row, number (retire seen row) = number row
  key_make : ∀ k n, key (make k n) = k
  number_make : ∀ k n, number (make k n) = n

namespace Numbering

variable {τ σ Q : Type} {R : Q → Type} {ε α ρ : Type} (N : Numbering σ Q R ρ)

/-- The rows after an insertion by a client that read `seen`. -/
def place (seen current : List ρ) (k : String) : List ρ :=
  current.map (N.retire seen) ++ [N.make k (nextNumber (seen.map N.number))]

theorem numbers_place (seen current : List ρ) (k : String) :
    (N.place seen current k).map N.number =
      current.map N.number ++ [nextNumber (seen.map N.number)] := by
  have hretire : (current.map (N.retire seen)).map N.number = current.map N.number := by
    rw [List.map_map]
    exact List.map_congr_left fun row _ => N.number_retire seen row
  rw [place, List.map_append, hretire, List.map_singleton, N.number_make]

/-- A row with the given key and number. -/
def Has (k : String) (n : Int) (rows : List ρ) : Prop :=
  ∃ row ∈ rows, N.key row = k ∧ N.number row = n

variable {N}

theorem Has.place {k k' : String} {n : Int} {rows seen : List ρ} (h : N.Has k n rows) :
    N.Has k n (N.place seen rows k') := by
  obtain ⟨row, hrow, hkey, hnumber⟩ := h
  refine ⟨N.retire seen row, List.mem_append_left _ (List.mem_map_of_mem hrow), ?_, ?_⟩
  · rw [N.key_retire, hkey]
  · rw [N.number_retire, hnumber]

theorem has_placed (seen rows : List ρ) (k : String) :
    N.Has k (nextNumber (seen.map N.number)) (N.place seen rows k) :=
  ⟨_, List.mem_append_right _ List.mem_cons_self, N.key_make _ _, N.number_make _ _⟩

variable (N) (value : α → Int)

/-- An action that leaves the rows alone. -/
def Leaves (call : Q) (write : R call → σ → σ) : Prop :=
  ∀ r s, N.inserts call r s = false ∧ N.rows (write r s) = N.rows s

/-- The end of a client that has stored the row with key `k` and number `n`: it
stores no other, and returns a value with this number. -/
def Settles (k : String) (n : Int) : Prog σ Q R ε α → Prop
  | .pure v => value v = n
  | .raise _ => True
  | .act call write next => N.Leaves call write ∧
      ∀ r s, N.Has k n (N.rows s) → Settles k n (next r s)

/-- A client that has read `seen` and is about to insert. -/
def Holding (seen : List ρ) : Prog σ Q R ε α → Prop
  | .pure _ => False
  | .raise _ => True
  | .act call write next => N.reads call = false ∧ ∀ r s,
      (N.inserts call r s = true → ∃ k, N.rows (write r s) = N.place seen (N.rows s) k ∧
        N.Settles value k (nextNumber (seen.map N.number)) (next r s)) ∧
      (N.inserts call r s = false → N.rows (write r s) = N.rows s ∧
        ∃ e, next r s = .raise e)

/-- A client reads the rows first. -/
def Client : Prog σ Q R ε α → Prop
  | .pure _ => False
  | .raise _ => True
  | .act call write next => N.reads call = true ∧ N.Leaves call write ∧
      ∀ r s, N.Holding value (N.rows s) (next r s)

variable {N value}

/-- A part that leaves the rows alone, and an end for whatever it returns. -/
theorem Settles.bind {β : Type} {k : String} {n : Int} {p : Prog σ Q R ε β}
    {f : β → Prog σ Q R ε α} (hp : p.Uses N.Leaves)
    (hf : ∀ v, N.Settles value k n (f v)) : N.Settles value k n (p.bind f) := by
  induction p with
  | pure v => exact hf v
  | raise e => trivial
  | act call write next ih =>
      exact ⟨hp.1, fun r s _ => ih r s (hp.2 r s)⟩

variable (N value)

/-- The operation an action comes to. -/
def op : Entry τ σ Q R ε Empty Empty → Option (Allot τ)
  | .act t s e =>
      if N.inserts e.call e.answer s then some (.insert t)
      else if N.reads e.call then some (.read t) else none
  | .request _ req _ => nomatch req

def ops (history : List (Entry τ σ Q R ε Empty Empty)) : List (Allot τ) :=
  history.filterMap N.op

/-- What a client knows: nothing yet, the rows it has read, or the key and number
of the row it has stored. -/
inductive Claim (ρ : Type) where
  | idle
  | held (seen : List ρ)
  | stored (k : String) (n : Int)

section

variable [DecidableEq τ]

/-- The rows are those of `base` with the numbers handed out, and in an isolated
history the last insertion found the rows it had read. -/
structure Inv (base : List ρ) (h : List (Entry τ σ Q R ε Empty Empty)) (s : σ) :
    Prop where
  numbers : (N.rows s).map N.number =
    base.map N.number ++ (Allocation.after (base.map N.number) (N.ops h)).numbers
  informed : Informed (N.ops h)
  serial : Isolated (N.ops h) → N.rows s = base ∨ ∃ prev k, N.rows s = N.place prev prev k

def Holds (base : List ρ) (t : τ) (c : Claim ρ)
    (h : List (Entry τ σ Q R ε Empty Empty)) (s : σ) : Prop :=
  match c with
  | .idle => True
  | .held seen => .read t ∈ N.ops h ∧
      (Allocation.after (base.map N.number) (N.ops h)).held t =
        nextNumber (seen.map N.number) ∧ (UpToDate (N.ops h) t → N.rows s = seen)
  | .stored k n =>
      (t, n) ∈ (Allocation.after (base.map N.number) (N.ops h)).inserted ∧
        N.Has k n (N.rows s)

def logic (base : List ρ) : Logic τ σ Q R ε α Empty Empty (Claim ρ) where
  inv := N.Inv base
  holds := N.Holds base
  compat _ _ := True
  idle := .idle
  post _ result c := ∀ v, result = .ok v → ∃ k, c = .stored k (value v)

variable {N} {base : List ρ} {h : List (Entry τ σ Q R ε Empty Empty)} {s s' : σ}
  {t : τ} {call : Q} {answer : R call}

omit [DecidableEq τ] in
theorem ops_append (entry : Entry τ σ Q R ε Empty Empty) :
    N.ops (h ++ [entry]) = N.ops h ++ (N.op entry).toList := by
  rw [ops, List.filterMap_append]
  cases hop : N.op entry <;> simp [ops, hop]

omit [DecidableEq τ] in
/-- What an action without an insertion comes to. -/
theorem ops_leaves (hinserts : N.inserts call answer s = false) :
    N.ops (h ++ [.act t s ⟨call, answer⟩]) =
      if N.reads call then N.ops h ++ [.read t] else N.ops h := by
  rw [ops_append, op, hinserts, if_neg Bool.false_ne_true]
  cases N.reads call <;> simp

omit [DecidableEq τ] in
theorem ops_inserts (hinserts : N.inserts call answer s = true) :
    N.ops (h ++ [.act t s ⟨call, answer⟩]) = N.ops h ++ [.insert t] := by
  rw [ops_append, op, if_pos hinserts]
  rfl

theorem Inv.leaves (hinv : N.Inv base h s)
    (hinserts : N.inserts call answer s = false) (hrows : N.rows s' = N.rows s) :
    N.Inv base (h ++ [.act t s ⟨call, answer⟩]) s' := by
  have hops := ops_leaves (h := h) (t := t) hinserts
  cases hreads : N.reads call with
  | false =>
      rw [hreads, if_neg Bool.false_ne_true] at hops
      constructor
      · rw [hops, hrows]
        exact hinv.numbers
      · rw [hops]
        exact hinv.informed
      · rw [hops, hrows]
        exact hinv.serial
  | true =>
      rw [hreads, if_pos rfl] at hops
      constructor
      · rw [hops, hrows, Allocation.numbers_read]
        exact hinv.numbers
      · rw [hops]
        exact Allocation.informed_read.mpr hinv.informed
      · rw [hops, hrows, Allocation.isolated_read]
        exact hinv.serial

/-- The claims of the others are kept, and so is the claim of the client itself
unless it is about to insert and reads again. -/
theorem Holds.leaves {u : τ} {c : Claim ρ} (hc : N.Holds base u c h s)
    (hown : u ≠ t ∨ N.reads call = false ∨ ∀ seen, c ≠ .held seen)
    (hinserts : N.inserts call answer s = false) (hrows : N.rows s' = N.rows s) :
    N.Holds base u c (h ++ [.act t s ⟨call, answer⟩]) s' := by
  have hops := ops_leaves (h := h) (t := t) hinserts
  cases c with
  | idle => trivial
  | stored k n =>
      obtain ⟨hmem, hhas⟩ := hc
      refine ⟨?_, by rw [hrows]; exact hhas⟩
      rw [hops]
      split
      · rw [Allocation.inserted_read]
        exact hmem
      · exact hmem
  | held seen =>
      obtain ⟨hread, hheld, hfresh⟩ := hc
      cases hreads : N.reads call with
      | false =>
          rw [hreads, if_neg Bool.false_ne_true] at hops
          refine ⟨?_, ?_, ?_⟩
          · rw [hops]
            exact hread
          · rw [hops]
            exact hheld
          · rw [hops, hrows]
            exact hfresh
      | true =>
          rw [hreads, if_pos rfl] at hops
          have hne : u ≠ t := by
            rcases hown with hne | hquiet | hother
            · exact hne
            · rw [hreads] at hquiet
              cases hquiet
            · exact absurd rfl (hother seen)
          refine ⟨?_, ?_, ?_⟩
          · rw [hops]
            exact List.mem_append_left _ hread
          · rw [hops, Allocation.held_read_other hne]
            exact hheld
          · rw [hops, hrows, Allocation.upToDate_read]
            rintro (heq | hup)
            · exact absurd heq hne
            · exact hfresh hup

/-- A client that reads holds the rows. -/
theorem Inv.read (hinv : N.Inv base h s) (hreads : N.reads call = true)
    (hinserts : N.inserts call answer s = false) (hrows : N.rows s' = N.rows s) :
    N.Holds base t (.held (N.rows s)) (h ++ [.act t s ⟨call, answer⟩]) s' := by
  have hops := ops_leaves (h := h) (t := t) hinserts
  rw [hreads, if_pos rfl] at hops
  refine ⟨?_, ?_, fun _ => hrows⟩
  · rw [hops]
    simp
  · rw [hops, Allocation.held_read_self, hinv.numbers]

section Insert

variable {seen : List ρ} {k : String}

theorem Inv.insert (hinv : N.Inv base h s) (hc : N.Holds base t (.held seen) h s)
    (hinserts : N.inserts call answer s = true)
    (hrows : N.rows s' = N.place seen (N.rows s) k) :
    N.Inv base (h ++ [.act t s ⟨call, answer⟩]) s' := by
  have hops := ops_inserts (h := h) (t := t) hinserts
  obtain ⟨hread, hheld, hfresh⟩ := hc
  constructor
  · rw [hops, hrows, numbers_place, hinv.numbers, Allocation.numbers_insert, hheld,
      List.append_assoc]
  · rw [hops]
    exact Allocation.informed_insert.mpr ⟨hinv.informed, hread⟩
  · rw [hops, Allocation.isolated_insert]
    rintro ⟨_, hup⟩
    have hseen := hfresh hup
    refine Or.inr ⟨N.rows s, k, ?_⟩
    rw [hrows, hseen]

theorem Holds.insert (hc : N.Holds base t (.held seen) h s)
    (hinserts : N.inserts call answer s = true)
    (hrows : N.rows s' = N.place seen (N.rows s) k) :
    N.Holds base t (.stored k (nextNumber (seen.map N.number)))
      (h ++ [.act t s ⟨call, answer⟩]) s' := by
  have hops := ops_inserts (h := h) (t := t) hinserts
  obtain ⟨_, hheld, _⟩ := hc
  constructor
  · rw [hops, Allocation.inserted_insert, hheld]
    simp
  · rw [hrows]
    exact has_placed seen _ k

theorem Holds.insert_other {u : τ} {c : Claim ρ} (hc : N.Holds base u c h s)
    (hinserts : N.inserts call answer s = true)
    (hrows : N.rows s' = N.place seen (N.rows s) k) :
    N.Holds base u c (h ++ [.act t s ⟨call, answer⟩]) s' := by
  have hops := ops_inserts (h := h) (t := t) hinserts
  cases c with
  | idle => trivial
  | stored k' n =>
      obtain ⟨hmem, hhas⟩ := hc
      constructor
      · rw [hops, Allocation.inserted_insert]
        exact List.mem_append_left _ hmem
      · rw [hrows]
        exact hhas.place
  | held seen' =>
      obtain ⟨hread, hheld, _⟩ := hc
      refine ⟨?_, ?_, ?_⟩
      · rw [hops]
        exact List.mem_append_left _ hread
      · rw [hops, Allocation.held_insert]
        exact hheld
      · rw [hops]
        intro hup
        exact absurd hup Allocation.not_upToDate_insert

end Insert

variable {value : α → Int} {S : System τ σ Q R ε α Empty Empty}

theorem moves_leaves {c : Claim ρ} {write : R call → σ → σ}
    (hown : N.reads call = false ∨ ∀ seen, c ≠ .held seen)
    (hleaves : N.inserts call answer s = false ∧ N.rows (write answer s) = N.rows s)
    (hinv : N.Inv base h s) (hc : N.Holds base t c h s) :
    (N.logic (ε := ε) value base).Moves t c h s (.act t s ⟨call, answer⟩)
      (write answer s) c where
  inv := hinv.leaves hleaves.1 hleaves.2
  holds := hc.leaves (Or.inr hown) hleaves.1 hleaves.2
  others _ hu _ _ hd := ⟨trivial, hd.leaves (Or.inl hu) hleaves.1 hleaves.2⟩

theorem settles_safe {k : String} {n : Int} {p : Prog σ Q R ε α}
    (hp : N.Settles value k n p) :
    (N.logic value base).Safe S t p ((N.logic value base).post t) (.stored k n) := by
  induction p with
  | pure v =>
      rintro _ ⟨⟩
      exact ⟨k, by rw [show value v = n from hp]⟩
  | raise e =>
      rintro _ ⟨⟩
  | act call write next ih =>
      obtain ⟨hleaves, hnext⟩ := hp
      intro h s answer _ hinv hc
      refine ⟨.stored k n, moves_leaves (Or.inr (by rintro _ ⟨⟩)) (hleaves answer s) hinv hc,
        ?_⟩
      exact ih answer s (hnext answer s hc.2)

theorem holding_safe {seen : List ρ} {p : Prog σ Q R ε α}
    (hp : N.Holding value seen p) :
    (N.logic value base).Safe S t p ((N.logic value base).post t) (.held seen) := by
  cases p with
  | pure v => exact hp.elim
  | raise e =>
      rintro _ ⟨⟩
  | act call write next =>
      obtain ⟨hquiet, hnext⟩ := hp
      intro h s answer _ hinv hc
      cases hinserts : N.inserts call answer s with
      | false =>
          obtain ⟨hrows, e, hraise⟩ := (hnext answer s).2 hinserts
          refine ⟨.held seen, moves_leaves (Or.inl hquiet) ⟨hinserts, hrows⟩ hinv hc, ?_⟩
          rw [hraise]
          rintro _ ⟨⟩
      | true =>
          obtain ⟨k, hrows, hsettles⟩ := (hnext answer s).1 hinserts
          refine ⟨_, ?_, settles_safe hsettles⟩
          exact {
            inv := hinv.insert hc hinserts hrows
            holds := Holds.insert hc hinserts hrows
            others := fun _ _ _ _ hd => ⟨trivial, Holds.insert_other hd hinserts hrows⟩ }

theorem client_safe {p : Prog σ Q R ε α} (hp : N.Client value p) :
    (N.logic value base).Safe S t p ((N.logic value base).post t) .idle := by
  cases p with
  | pure v => exact hp.elim
  | raise e =>
      rintro _ ⟨⟩
  | act call write next =>
      obtain ⟨hreads, hleaves, hnext⟩ := hp
      intro h s answer _ hinv _
      obtain ⟨hinserts, hrows⟩ := hleaves answer s
      refine ⟨.held (N.rows s), ?_, holding_safe (hnext answer s)⟩
      exact {
        inv := hinv.leaves hinserts hrows
        holds := hinv.read hreads hinserts hrows
        others := fun u hu _ _ hd => ⟨trivial, hd.leaves (Or.inl hu) hinserts hrows⟩ }

/-- Any number of clients, each of which may be replaced by a new one. -/
def clients (τ : Type) (adm : (q : Q) → R q → σ → Prop)
    (calls : Prog σ Q R ε α → Prop) : System τ σ Q R ε α Empty Empty where
  adm := adm
  spawn _ p := calls p
  body req := nomatch req

variable {adm : (q : Q) → R q → σ → Prop} {calls : Prog σ Q R ε α → Prop}

theorem logic_sound (hcalls : ∀ p, calls p → N.Client value p) :
    (N.logic value base).Sound (clients τ adm calls) where
  symm _ _ _ := trivial
  idle_compat _ := trivial
  idle_holds _ _ _ _ := trivial
  spawn _ p hp := client_safe (hcalls p hp)
  request _ _ req := nomatch req

/-- The rows that were stored since `base`. -/
def added (N : Numbering σ Q R ρ) (base : List ρ)
    (P : Pool τ σ Q R ε α Empty Empty) : List ρ :=
  (N.rows P.store).drop base.length

variable {P P' : Pool τ σ Q R ε α Empty Empty}

section

variable (hcalls : ∀ p, calls p → N.Client value p) (hhistory : P.history = [])
  (hthreads : ∀ t, calls (P.thread t)) (hreach : (clients τ adm calls).Reach P P')

include hcalls hhistory hthreads hreach

theorem reach_logic : (N.logic value (N.rows P.store)).Good (clients τ adm calls) P' := by
  refine Logic.reach_good (logic_sound hcalls) ?_
    (fun t => client_safe (hcalls _ (hthreads t))) hreach
  rw [hhistory]
  refine ⟨?_, ?_, fun _ => Or.inl rfl⟩
  · exact (List.append_nil _).symm
  · intro before t hprefix
    have hlength := hprefix.length_le
    simp [ops] at hlength

theorem reach_added : (added N (N.rows P.store) P').map N.number =
    (Allocation.after ((N.rows P.store).map N.number) (N.ops P'.history)).numbers := by
  have hnumbers := (reach_logic hcalls hhistory hthreads hreach).1.numbers
  rw [added, List.map_drop, hnumbers, List.drop_left' (List.length_map _)]

/-- The numbers are distinct if and only if nobody stores between the reading and
the storing of another. -/
theorem added_nodup_iff : ((added N (N.rows P.store) P').map N.number).Nodup ↔
    Isolated (N.ops P'.history) := by
  rw [reach_added hcalls hhistory hthreads hreach]
  exact Allocation.nodup_iff_isolated _
    (reach_logic hcalls hhistory hthreads hreach).1.informed

/-- What a client returned has a number that was handed out to it. -/
theorem returned_inserted {t : τ} {v : α} (hreturned : P'.thread t = .pure v) :
    (t, value v) ∈ (Allocation.after ((N.rows P.store).map N.number)
      (N.ops P'.history)).inserted := by
  obtain ⟨_, claim, _, hclaims⟩ := reach_logic hcalls hhistory hthreads hreach
  obtain ⟨hholds, hsafe⟩ := hclaims t
  rw [hreturned] at hsafe
  obtain ⟨k, hstored⟩ := hsafe v rfl
  rw [hstored] at hholds
  exact hholds.1

/-- Two clients return different numbers. -/
theorem returned_distinct (hisolated : Isolated (N.ops P'.history)) {t u : τ} {v w : α}
    (ht : P'.thread t = .pure v) (hu : P'.thread u = .pure w) (hne : t ≠ u) :
    value v ≠ value w := by
  intro heq
  have hnodup := (Allocation.nodup_iff_isolated ((N.rows P.store).map N.number)
    (reach_logic hcalls hhistory hthreads hreach).1.informed).mpr hisolated
  have hsame := List.inj_on_of_nodup_map hnodup
    (returned_inserted hcalls hhistory hthreads hreach ht)
    (returned_inserted hcalls hhistory hthreads hreach hu) heq
  exact hne (congrArg Prod.fst hsame)

/-- The last insertion found the rows that it had read. -/
theorem rows_serial (hisolated : Isolated (N.ops P'.history)) :
    added N (N.rows P.store) P' = [] ∨
      ∃ prev k, N.rows P'.store = N.place prev prev k := by
  rcases (reach_logic hcalls hhistory hthreads hreach).1.serial hisolated with hsame | hlast
  · left
    rw [added, hsame, List.drop_length]
  · exact Or.inr hlast

end

end

end Numbering

end ControlPlane.Lib
