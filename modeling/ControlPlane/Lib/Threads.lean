import ControlPlane.Lib.Program

/-!
Programs run side by side over one store, and a logic for invariants of all
their interleavings. A thread executes one action of its program at a time; it
may be replaced by a fresh program at any moment, which covers a crash, a
restart and the next call of a loop. Besides the threads, requests may run
whole, from start to end in one step.

Every thread holds a claim: what it knows about the store, or has reserved in
it, between two of its actions. An action has to keep the invariant, the claims
of all other threads that are compatible with its own, and may exchange its own
claim. `Logic.reach_good` composes these local obligations.
-/

namespace ControlPlane.Lib

variable {τ σ Q : Type} {R : Q → Type} {ε α ρ β : Type}

/-- What a run records: the store an action or a request started from, with
the thread and the answered call, or the result of the request. -/
inductive Entry (τ σ Q : Type) (R : Q → Type) (ε ρ β : Type) : Type where
  | act (thread : τ) (before : σ) (event : Event Q R) : Entry τ σ Q R ε ρ β
  | request (before : σ) (req : ρ) (result : Except ε β) : Entry τ σ Q R ε ρ β

structure System (τ σ Q : Type) (R : Q → Type) (ε α ρ β : Type) where
  /-- The answers the surroundings may give. -/
  adm : (q : Q) → R q → σ → Prop
  /-- The programs a thread may be restarted with. -/
  spawn : τ → Prog σ Q R ε α → Prop
  /-- The program of a request. -/
  body : ρ → Prog σ Q R ε β

structure Pool (τ σ Q : Type) (R : Q → Type) (ε α ρ β : Type) where
  store : σ
  thread : τ → Prog σ Q R ε α
  history : List (Entry τ σ Q R ε ρ β)

namespace System

variable [DecidableEq τ]

inductive Step (S : System τ σ Q R ε α ρ β) :
    Pool τ σ Q R ε α ρ β → Pool τ σ Q R ε α ρ β → Prop where
  | act {P : Pool τ σ Q R ε α ρ β} {t call write next} (answer : R call)
      (hthread : P.thread t = .act call write next)
      (hadm : S.adm call answer P.store) :
      Step S P
        { store := write answer P.store
          thread := Function.update P.thread t (next answer P.store)
          history := P.history ++ [.act t P.store ⟨call, answer⟩] }
  | spawn {P : Pool τ σ Q R ε α ρ β} {t p} (h : S.spawn t p) :
      Step S P { P with thread := Function.update P.thread t p }
  | request {P : Pool τ σ Q R ε α ρ β} {req trace result s'}
      (h : Prog.Runs S.adm (S.body req) P.store trace result s') :
      Step S P
        { P with
          store := s'
          history := P.history ++ [.request P.store req result] }

/-- The pools reached from `P` by any number of steps in any order. -/
inductive Reach (S : System τ σ Q R ε α ρ β) (P : Pool τ σ Q R ε α ρ β) :
    Pool τ σ Q R ε α ρ β → Prop where
  | refl : Reach S P P
  | step {P' P''} (h : Reach S P P') (hstep : Step S P' P'') : Reach S P P''

/-- Reachability composes. -/
theorem Reach.trans {S : System τ σ Q R ε α ρ β} {P P' P'' : Pool τ σ Q R ε α ρ β}
    (h : S.Reach P P') (h' : S.Reach P' P'') : S.Reach P P'' := by
  induction h' with
  | refl => exact h
  | step _ hstep ih => exact ih.step hstep

/-- Surroundings that give fewer answers reach fewer pools. -/
theorem Reach.mono {S S' : System τ σ Q R ε α ρ β} {P P' : Pool τ σ Q R ε α ρ β}
    (hadm : ∀ q r s, S.adm q r s → S'.adm q r s) (hspawn : ∀ t p, S.spawn t p → S'.spawn t p)
    (hbody : S.body = S'.body) (h : S.Reach P P') : S'.Reach P P' := by
  induction h with
  | refl => exact .refl
  | step _ hstep ih =>
      refine ih.step ?_
      cases hstep with
      | act answer hthread hanswer => exact .act answer hthread (hadm _ _ _ hanswer)
      | spawn hp => exact .spawn (hspawn _ _ hp)
      | request hrun => exact .request (hbody ▸ hrun.mono hadm)

/-- One step of a schedule, with the answers it gets. -/
inductive Move (τ σ Q : Type) (R : Q → Type) (ε α ρ : Type) : Type where
  | act (t : τ) (oracle : (q : Q) → R q) : Move τ σ Q R ε α ρ
  | spawn (t : τ) (p : Prog σ Q R ε α) : Move τ σ Q R ε α ρ
  | request (req : ρ) (oracle : Nat → (q : Q) → R q) : Move τ σ Q R ε α ρ

/-- The executable reading of a step; a finished thread stays as it is. -/
def perform (S : System τ σ Q R ε α ρ β) (P : Pool τ σ Q R ε α ρ β) :
    Move τ σ Q R ε α ρ → Pool τ σ Q R ε α ρ β
  | .act t oracle =>
      match P.thread t with
      | .act call write next =>
          { store := write (oracle call) P.store
            thread := Function.update P.thread t (next (oracle call) P.store)
            history := P.history ++ [.act t P.store ⟨call, oracle call⟩] }
      | .pure _ => P
      | .raise _ => P
  | .spawn t p => { P with thread := Function.update P.thread t p }
  | .request req oracle =>
      let outcome := ((S.body req).exec oracle 0 P.store).2
      { P with
        store := outcome.2
        history := P.history ++ [.request P.store req outcome.1] }

def Allows (S : System τ σ Q R ε α ρ β) (P : Pool τ σ Q R ε α ρ β) :
    Move τ σ Q R ε α ρ → Prop
  | .act t oracle => ∀ call write next, P.thread t = .act call write next →
      S.adm call (oracle call) P.store
  | .spawn t p => S.spawn t p
  | .request _ oracle => ∀ n q s, S.adm q (oracle n q) s

theorem reach_perform {S : System τ σ Q R ε α ρ β} {P : Pool τ σ Q R ε α ρ β}
    {m : Move τ σ Q R ε α ρ} (h : S.Allows P m) : S.Reach P (S.perform P m) := by
  cases m with
  | act t oracle =>
      simp only [perform]
      split
      · next call write next hthread =>
          exact Reach.refl.step (.act (oracle call) hthread (h _ _ _ hthread))
      · exact .refl
      · exact .refl
  | spawn t p => exact Reach.refl.step (.spawn h)
  | request req oracle => exact Reach.refl.step (.request (Prog.runs_exec h _ _ _))

def play (S : System τ σ Q R ε α ρ β) (P : Pool τ σ Q R ε α ρ β)
    (moves : List (Move τ σ Q R ε α ρ)) : Pool τ σ Q R ε α ρ β :=
  moves.foldl S.perform P

theorem reach_play {S : System τ σ Q R ε α ρ β} (P : Pool τ σ Q R ε α ρ β)
    (moves : List (Move τ σ Q R ε α ρ))
    (h : ∀ P, ∀ m ∈ moves, S.Allows P m) : S.Reach P (S.play P moves) := by
  induction moves generalizing P with
  | nil => exact .refl
  | cons m rest ih =>
      exact (reach_perform (h P m List.mem_cons_self)).trans
        (ih _ fun P m hm => h P m (List.mem_cons_of_mem _ hm))

/-- The actions of a schedule pass a test of their answers. -/
def passes (S : System τ σ Q R ε α ρ β) (test : (q : Q) → R q → σ → Bool) :
    Pool τ σ Q R ε α ρ β → List (Move τ σ Q R ε α ρ) → Bool
  | _, [] => true
  | P, .act t oracle :: rest =>
      (match P.thread t with
        | .act call _ _ => test call (oracle call) P.store
        | .pure _ => true
        | .raise _ => true) && S.passes test (S.perform P (.act t oracle)) rest
  | _, .spawn _ _ :: _ => false
  | _, .request _ _ :: _ => false

/-- A schedule of actions is possible when its answers pass a test that implies
admissibility. -/
theorem reach_passes {S : System τ σ Q R ε α ρ β} {test : (q : Q) → R q → σ → Bool}
    (htest : ∀ q r s, test q r s = true → S.adm q r s)
    (P : Pool τ σ Q R ε α ρ β) (moves : List (Move τ σ Q R ε α ρ))
    (h : S.passes test P moves = true) : S.Reach P (S.play P moves) := by
  induction moves generalizing P with
  | nil => exact .refl
  | cons m rest ih =>
      cases m with
      | act t oracle =>
          simp only [passes, Bool.and_eq_true] at h
          refine (reach_perform ?_).trans (ih _ h.2)
          intro call write next hthread
          have hcall := h.1
          rw [hthread] at hcall
          exact htest call _ _ hcall
      | spawn t p => cases h
      | request req oracle => cases h

end System

/-- An invariant of the recorded history and the store, with the claims of the
threads. `compat` says which claims two threads may hold at the same time, and
`post` what the claim of a finished thread has to be. -/
structure Logic (τ σ Q : Type) (R : Q → Type) (ε α ρ β γ : Type) where
  inv : List (Entry τ σ Q R ε ρ β) → σ → Prop
  holds : τ → γ → List (Entry τ σ Q R ε ρ β) → σ → Prop
  compat : γ → γ → Prop
  idle : γ
  post : τ → Except ε α → γ → Prop

namespace Logic

variable {γ : Type} (L : Logic τ σ Q R ε α ρ β γ)
  (S : System τ σ Q R ε α ρ β)

/-- Thread `t` with claim `c` may go from `s` to `s'` and hold `c'` there:
the invariant is kept, and so is every claim another thread can have. -/
structure Moves (t : τ) (c : γ) (h : List (Entry τ σ Q R ε ρ β)) (s : σ)
    (entry : Entry τ σ Q R ε ρ β) (s' : σ) (c' : γ) : Prop where
  inv : L.inv (h ++ [entry]) s'
  holds : L.holds t c' (h ++ [entry]) s'
  others : ∀ u, u ≠ t → ∀ d, L.compat c d → L.holds u d h s →
    L.compat c' d ∧ L.holds u d (h ++ [entry]) s'

/-- Started with claim `c`, every action of the program is a move of `t`,
whatever the store is when it is executed, and the program ends with a claim
that satisfies `post`. -/
def Safe {δ : Type} (t : τ) :
    Prog σ Q R ε δ → (Except ε δ → γ → Prop) → γ → Prop
  | .pure value, post, c => post (.ok value) c
  | .raise error, post, c => post (.error error) c
  | .act call write next, post, c =>
      ∀ h s answer, S.adm call answer s → L.inv h s → L.holds t c h s →
        ∃ c', L.Moves t c h s (.act t s ⟨call, answer⟩) (write answer s) c' ∧
          Safe t (next answer s) post c'

variable {L S} {t : τ}

theorem Safe.act {δ : Type} {call : Q} {write : R call → σ → σ}
    {next : R call → σ → Prog σ Q R ε δ} {post : Except ε δ → γ → Prop} {c : γ}
    (h : ∀ h s answer, S.adm call answer s → L.inv h s → L.holds t c h s →
      ∃ c', L.Moves t c h s (.act t s ⟨call, answer⟩) (write answer s) c' ∧
        L.Safe S t (next answer s) post c') :
    L.Safe S t (.act call write next) post c := h

theorem Safe.mono {δ : Type} {p : Prog σ Q R ε δ}
    {post post' : Except ε δ → γ → Prop} {c : γ} (h : L.Safe S t p post c)
    (himp : ∀ r c, post r c → post' r c) : L.Safe S t p post' c := by
  induction p generalizing c with
  | pure value => exact himp _ _ h
  | raise error => exact himp _ _ h
  | act call write next ih =>
      intro hist s answer hadm hinv hc
      obtain ⟨c', hmoves, hrest⟩ := h hist s answer hadm hinv hc
      exact ⟨c', hmoves, ih answer s hrest⟩

/-- What a bind has to show about the result of its first part. -/
def Then (L : Logic τ σ Q R ε α ρ β γ) (S : System τ σ Q R ε α ρ β) (t : τ)
    {δ κ : Type} (k : δ → Prog σ Q R ε κ) (post : Except ε κ → γ → Prop) :
    Except ε δ → γ → Prop
  | .ok value, c => L.Safe S t (k value) post c
  | .error error, c => post (.error error) c

/-- What an exception handler has to show about the guarded part. -/
def Else (L : Logic τ σ Q R ε α ρ β γ) (S : System τ σ Q R ε α ρ β) (t : τ)
    {δ : Type} (k : ε → Prog σ Q R ε δ) (post : Except ε δ → γ → Prop) :
    Except ε δ → γ → Prop
  | .ok value, c => post (.ok value) c
  | .error error, c => L.Safe S t (k error) post c

@[simp] theorem then_ok {δ κ : Type} (k : δ → Prog σ Q R ε κ)
    (post : Except ε κ → γ → Prop) (value : δ) (c : γ) :
    Then L S t k post (.ok value) c = L.Safe S t (k value) post c := rfl

theorem Safe.bind {δ κ : Type} {p : Prog σ Q R ε δ}
    {k : δ → Prog σ Q R ε κ} {post : Except ε κ → γ → Prop} {c : γ}
    (hp : L.Safe S t p (Then L S t k post) c) :
    L.Safe S t (p.bind k) post c := by
  induction p generalizing c with
  | pure value => exact hp
  | raise error => exact hp
  | act call write next ih =>
      intro hist s answer hadm hinv hc
      obtain ⟨c', hmoves, hrest⟩ := hp hist s answer hadm hinv hc
      exact ⟨c', hmoves, ih answer s hrest⟩

theorem Safe.handle {δ : Type} {p : Prog σ Q R ε δ}
    {k : ε → Prog σ Q R ε δ} {post : Except ε δ → γ → Prop} {c : γ}
    (hp : L.Safe S t p (Else L S t k post) c) :
    L.Safe S t (p.handle k) post c := by
  induction p generalizing c with
  | pure value => exact hp
  | raise error => exact hp
  | act call write next ih =>
      intro hist s answer hadm hinv hc
      obtain ⟨c', hmoves, hrest⟩ := hp hist s answer hadm hinv hc
      exact ⟨c', hmoves, ih answer s hrest⟩

/-- An action that keeps the invariant and all claims, its own included. -/
def Silent (L : Logic τ σ Q R ε α ρ β γ) (S : System τ σ Q R ε α ρ β) (t : τ)
    (call : Q) (write : R call → σ → σ) : Prop :=
  ∀ h s answer, S.adm call answer s → L.inv h s →
    L.inv (h ++ [.act t s ⟨call, answer⟩]) (write answer s) ∧
      ∀ u c, L.holds u c h s →
        L.holds u c (h ++ [.act t s ⟨call, answer⟩]) (write answer s)

theorem Silent.moves {call : Q} {write : R call → σ → σ}
    (hsilent : L.Silent S t call write) {c : γ}
    {h : List (Entry τ σ Q R ε ρ β)} {s : σ} {answer : R call}
    (hadm : S.adm call answer s) (hinv : L.inv h s) (hc : L.holds t c h s) :
    L.Moves t c h s (.act t s ⟨call, answer⟩) (write answer s) c where
  inv := (hsilent h s answer hadm hinv).1
  holds := (hsilent h s answer hadm hinv).2 t c hc
  others u _ d hcompat hd := ⟨hcompat, (hsilent h s answer hadm hinv).2 u d hd⟩

/-- A silent action leaves the claim alone. The continuation may use that the
invariant and the claim held in the store it has read. -/
theorem Safe.silent {δ : Type} {call : Q} {write : R call → σ → σ}
    {next : R call → σ → Prog σ Q R ε δ} {post : Except ε δ → γ → Prop}
    {c : γ} (hsilent : L.Silent S t call write)
    (hnext : ∀ h s answer, S.adm call answer s → L.inv h s →
      L.holds t c h s → L.Safe S t (next answer s) post c) :
    L.Safe S t (.act call write next) post c := by
  intro h s answer hadm hinv hc
  exact ⟨c, hsilent.moves hadm hinv hc, hnext h s answer hadm hinv hc⟩

/-- An action that thread `t` may do with claim `c`, and that keeps this claim. -/
def Steady (L : Logic τ σ Q R ε α ρ β γ) (S : System τ σ Q R ε α ρ β) (t : τ)
    (c : γ) (call : Q) (write : R call → σ → σ) : Prop :=
  ∀ h s answer, S.adm call answer s → L.inv h s → L.holds t c h s →
    L.Moves t c h s (.act t s ⟨call, answer⟩) (write answer s) c

theorem Silent.steady {call : Q} {write : R call → σ → σ}
    (hsilent : L.Silent S t call write) (c : γ) : L.Steady S t c call write :=
  fun _ _ _ => hsilent.moves

/-- A program of steady actions keeps its claim to the end. -/
theorem Safe.of_uses {δ : Type} {p : Prog σ Q R ε δ}
    {post : Except ε δ → γ → Prop} {c : γ} (hp : p.Uses (L.Steady S t c))
    (hpost : ∀ r, post r c) : L.Safe S t p post c := by
  induction p with
  | pure value => exact hpost _
  | raise error => exact hpost _
  | act call write next ih =>
      intro h s answer hadm hinv hc
      exact ⟨c, hp.1 h s answer hadm hinv hc, ih answer s (hp.2 answer s)⟩

/-- The obligations on a logic for one system. -/
structure Sound (L : Logic τ σ Q R ε α ρ β γ)
    (S : System τ σ Q R ε α ρ β) : Prop where
  symm : ∀ c d, L.compat c d → L.compat d c
  idle_compat : ∀ d, L.compat L.idle d
  idle_holds : ∀ t h s, L.inv h s → L.holds t L.idle h s
  spawn : ∀ t p, S.spawn t p → L.Safe S t p (L.post t) L.idle
  request : ∀ h s req trace result s', L.inv h s →
    Prog.Runs S.adm (S.body req) s trace result s' →
      L.inv (h ++ [.request s req result]) s' ∧
        ∀ t c, L.holds t c h s → L.holds t c (h ++ [.request s req result]) s'

/-- The invariant holds and the threads have pairwise compatible claims. -/
def Good (L : Logic τ σ Q R ε α ρ β γ) (S : System τ σ Q R ε α ρ β)
    (P : Pool τ σ Q R ε α ρ β) : Prop :=
  L.inv P.history P.store ∧ ∃ claim : τ → γ,
    (∀ t u, t ≠ u → L.compat (claim t) (claim u)) ∧
      ∀ t, L.holds t (claim t) P.history P.store ∧
        L.Safe S t (P.thread t) (L.post t) (claim t)

variable [DecidableEq τ]

theorem step_good (hL : L.Sound S) {P P' : Pool τ σ Q R ε α ρ β}
    (hgood : L.Good S P) (hstep : S.Step P P') : L.Good S P' := by
  obtain ⟨hinv, claim, hcompat, hclaim⟩ := hgood
  cases hstep with
  | @act t call write next answer hthread hadm =>
      obtain ⟨hholds, hsafe⟩ := hclaim t
      rw [hthread] at hsafe
      obtain ⟨c', hmoves, hrest⟩ :=
        hsafe P.history P.store answer hadm hinv hholds
      refine ⟨hmoves.inv, Function.update claim t c', ?_, ?_⟩
      · intro u v huv
        rcases eq_or_ne u t with rfl | hu
        · rw [Function.update_self, Function.update_of_ne huv.symm]
          exact (hmoves.others v huv.symm _ (hcompat u v huv) (hclaim v).1).1
        rcases eq_or_ne v t with rfl | hv
        · rw [Function.update_self, Function.update_of_ne hu]
          exact hL.symm _ _
            (hmoves.others u hu _ (hcompat v u huv.symm) (hclaim u).1).1
        · rw [Function.update_of_ne hu, Function.update_of_ne hv]
          exact hcompat u v huv
      · intro u
        rcases eq_or_ne u t with rfl | hu
        · simp only [Function.update_self]
          exact ⟨hmoves.holds, hrest⟩
        · simp only [Function.update_of_ne hu]
          exact ⟨(hmoves.others u hu _ (hcompat t u hu.symm) (hclaim u).1).2,
            (hclaim u).2⟩
  | @spawn t p hspawn =>
      refine ⟨hinv, Function.update claim t L.idle, ?_, ?_⟩
      · intro u v huv
        rcases eq_or_ne u t with rfl | hu
        · rw [Function.update_self]
          exact hL.idle_compat _
        rcases eq_or_ne v t with rfl | hv
        · rw [Function.update_self]
          exact hL.symm _ _ (hL.idle_compat _)
        · rw [Function.update_of_ne hu, Function.update_of_ne hv]
          exact hcompat u v huv
      · intro u
        rcases eq_or_ne u t with rfl | hu
        · simp only [Function.update_self]
          exact ⟨hL.idle_holds _ _ _ hinv, hL.spawn _ _ hspawn⟩
        · simp only [Function.update_of_ne hu]
          exact hclaim u
  | @request req trace result s' hrun =>
      obtain ⟨hinv', hkeep⟩ :=
        hL.request P.history P.store req trace result s' hinv hrun
      exact ⟨hinv', claim, hcompat, fun t =>
        ⟨hkeep _ _ (hclaim t).1, (hclaim t).2⟩⟩

/-- A good pool leads to good pools only. -/
theorem Good.reach (hL : L.Sound S) {P P' : Pool τ σ Q R ε α ρ β} (hgood : L.Good S P)
    (hreach : S.Reach P P') : L.Good S P' := by
  induction hreach with
  | refl => exact hgood
  | step _ hstep ih => exact step_good hL ih hstep

/-- Any interleaving: from a pool whose threads are safe and idle, every
reachable pool satisfies the invariant, with compatible claims. -/
theorem reach_good (hL : L.Sound S) {P P' : Pool τ σ Q R ε α ρ β}
    (hinv : L.inv P.history P.store)
    (hthreads : ∀ t, L.Safe S t (P.thread t) (L.post t) L.idle)
    (hreach : S.Reach P P') : L.Good S P' :=
  Good.reach hL ⟨hinv, fun _ => L.idle, fun _ _ _ => hL.idle_compat _,
    fun t => ⟨hL.idle_holds _ _ _ hinv, hthreads t⟩⟩ hreach

end Logic

end ControlPlane.Lib
