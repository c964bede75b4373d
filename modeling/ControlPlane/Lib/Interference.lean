import ControlPlane.Lib.Threads

/-!
One thread among requests that run whole between its actions. What the thread
knows about the history and the store must survive these requests: such a fact
is stable. A triple says that a program, started where a stable fact holds,
keeps the invariant with every action and ends where a stable fact about its
result holds. The rules are those of a Hoare logic; `reach_owned` carries the
invariant to every pool that is reached, whatever is restarted on the way.
-/

namespace ControlPlane.Lib

variable {σ Q : Type} {R : Q → Type} {ε α ρ β δ κ : Type}

/-- Something said of the history and the store. -/
abbrev Assertion (σ Q : Type) (R : Q → Type) (ε ρ β : Type) : Type :=
  List (Entry Unit σ Q R ε ρ β) → σ → Prop

structure StableFact (S : System Unit σ Q R ε α ρ β) (inv : Assertion σ Q R ε ρ β) where
  holds : Assertion σ Q R ε ρ β
  stable : ∀ h s req trace result s', inv h s → holds h s →
    Prog.Runs S.adm (S.body req) s trace result s' → holds (h ++ [.request s req result]) s'

namespace StableFact

variable {S : System Unit σ Q R ε α ρ β} {inv : Assertion σ Q R ε ρ β}
  {c d e : StableFact S inv}

/-- Nothing is known. -/
def top : StableFact S inv where
  holds _ _ := True
  stable _ _ _ _ _ _ _ _ _ := trivial

def Entails (c d : StableFact S inv) : Prop := ∀ h s, inv h s → c.holds h s → d.holds h s

theorem Entails.refl (c : StableFact S inv) : c.Entails c := fun _ _ _ hc => hc

theorem Entails.trans (hcd : c.Entails d) (hde : d.Entails e) : c.Entails e :=
  fun h s hinv hc => hde h s hinv (hcd h s hinv hc)

theorem entails_top : c.Entails top := fun _ _ _ _ => trivial

end StableFact

/-- The claims of the only thread are stable facts. -/
def ownedLogic (S : System Unit σ Q R ε α ρ β) (inv : Assertion σ Q R ε ρ β) :
    Logic Unit σ Q R ε α ρ β (StableFact S inv) where
  inv := inv
  holds _ c := c.holds
  compat _ _ := True
  idle := .top
  post _ _ _ := True

def Triple {S : System Unit σ Q R ε α ρ β} {inv : Assertion σ Q R ε ρ β}
    (c : StableFact S inv) (p : Prog σ Q R ε δ) (post : Except ε δ → StableFact S inv) : Prop :=
  (ownedLogic S inv).Safe S () p (fun result d => d.Entails (post result)) c

namespace Triple

variable {S : System Unit σ Q R ε α ρ β} {inv : Assertion σ Q R ε ρ β}
  {c c' d : StableFact S inv} {p : Prog σ Q R ε δ} {post post' : Except ε δ → StableFact S inv}

theorem pure {value : δ} (h : c.Entails (post (.ok value))) : Triple c (.pure value) post := h

theorem raise {error : ε} (h : c.Entails (post (.error error))) :
    Triple c (.raise error) post := h

/-- Each action keeps the invariant; what holds after it may depend on the answer and on the
store the action is executed in. -/
theorem act {call : Q} {write : R call → σ → σ} {next : R call → σ → Prog σ Q R ε δ}
    (h : ∀ h s answer, S.adm call answer s → inv h s → c.holds h s →
      inv (h ++ [.act () s ⟨call, answer⟩]) (write answer s) ∧ ∃ c' : StableFact S inv,
        c'.holds (h ++ [.act () s ⟨call, answer⟩]) (write answer s) ∧
          Triple c' (next answer s) post) : Triple c (.act call write next) post := by
  intro hist s answer hadm hinv hc
  obtain ⟨hinv', c', hc', hnext⟩ := h hist s answer hadm hinv hc
  exact ⟨c', ⟨hinv', hc', fun u hu => absurd (Subsingleton.elim u ()) hu⟩, hnext⟩

theorem of_act {call : Q} {write : R call → σ → σ} {next : R call → σ → Prog σ Q R ε δ}
    (h : Triple c (.act call write next) post) {hist : List (Entry Unit σ Q R ε ρ β)} {s : σ}
    {answer : R call} (hadm : S.adm call answer s) (hinv : inv hist s) (hc : c.holds hist s) :
    inv (hist ++ [.act () s ⟨call, answer⟩]) (write answer s) ∧ ∃ c' : StableFact S inv,
      c'.holds (hist ++ [.act () s ⟨call, answer⟩]) (write answer s) ∧
        Triple c' (next answer s) post := by
  obtain ⟨c', hmoves, hnext⟩ := h hist s answer hadm hinv hc
  exact ⟨hmoves.inv, c', hmoves.holds, hnext⟩

theorem weaken (hpre : c.Entails c') (h : Triple c' p post) : Triple c p post := by
  cases p with
  | pure value => exact hpre.trans h
  | raise error => exact hpre.trans h
  | act call write next =>
      exact act fun hist s answer hadm hinv hc => of_act h hadm hinv (hpre hist s hinv hc)

theorem mono (h : Triple c p post) (hpost : ∀ result, (post result).Entails (post' result)) :
    Triple c p post' :=
  Logic.Safe.mono h fun result _ hd => hd.trans (hpost result)

/-- What is known beforehand may be used to prove the triple. -/
theorem of_known {P : Prop} (hP : ∀ h s, inv h s → c.holds h s → P)
    (h : P → Triple c p post) : Triple c p post := by
  cases p with
  | pure value => exact fun hist s hinv hc => h (hP hist s hinv hc) hist s hinv hc
  | raise error => exact fun hist s hinv hc => h (hP hist s hinv hc) hist s hinv hc
  | act call write next =>
      exact act fun hist s answer hadm hinv hc =>
        of_act (h (hP hist s hinv hc)) hadm hinv hc

theorem bind {k : δ → Prog σ Q R ε κ} {last : Except ε κ → StableFact S inv}
    (hp : Triple c p post) (hk : ∀ value, Triple (post (.ok value)) (k value) last)
    (herror : ∀ error, (post (.error error)).Entails (last (.error error))) :
    Triple c (p.bind k) last := by
  refine Logic.Safe.bind (Logic.Safe.mono hp ?_)
  rintro (error | value) d hd
  · exact hd.trans (herror error)
  · exact weaken hd (hk value)

theorem handle {k : ε → Prog σ Q R ε δ} (hp : Triple c p post')
    (hok : ∀ value, (post' (.ok value)).Entails (post (.ok value)))
    (hk : ∀ error, Triple (post' (.error error)) (k error) post) :
    Triple c (p.handle k) post := by
  refine Logic.Safe.handle (Logic.Safe.mono hp ?_)
  rintro (error | value) d hd
  · exact weaken hd (hk error)
  · exact hd.trans (hok value)

/-- Actions that keep the invariant and the fact. -/
theorem of_uses (hp : p.Uses fun call write => ∀ h s answer, S.adm call answer s → inv h s →
      c.holds h s → inv (h ++ [.act () s ⟨call, answer⟩]) (write answer s) ∧
        c.holds (h ++ [.act () s ⟨call, answer⟩]) (write answer s)) :
    Triple c p fun _ => c := by
  refine Logic.Safe.of_uses (Prog.Uses.mono hp ?_) fun _ => StableFact.Entails.refl c
  intro call write hcall hist s answer hadm hinv hc
  obtain ⟨hinv', hc'⟩ := hcall hist s answer hadm hinv hc
  exact ⟨hinv', hc', fun u hu => absurd (Subsingleton.elim u ()) hu⟩

end Triple

section

variable {S : System Unit σ Q R ε α ρ β} {inv : Assertion σ Q R ε ρ β}
  {P P' : Pool Unit σ Q R ε α ρ β}

/-- The invariant holds wherever the thread and the requests lead, when the requests keep it and
every program the thread may be restarted with has a triple. -/
theorem reach_owned
    (hrequest : ∀ h s req trace result s', inv h s →
      Prog.Runs S.adm (S.body req) s trace result s' → inv (h ++ [.request s req result]) s')
    (hspawn : ∀ p, S.spawn () p → Triple (.top : StableFact S inv) p fun _ => .top)
    (hthread : Triple (.top : StableFact S inv) (P.thread ()) fun _ => .top)
    (hinv : inv P.history P.store) (hreach : S.Reach P P') : inv P'.history P'.store := by
  have hsafe : ∀ p : Prog σ Q R ε α, Triple (.top : StableFact S inv) p (fun _ => .top) →
      (ownedLogic S inv).Safe S () p ((ownedLogic S inv).post ()) (ownedLogic S inv).idle :=
    fun p h => Logic.Safe.mono h fun _ _ _ => trivial
  have hsound : (ownedLogic S inv).Sound S := {
    symm := fun _ _ _ => trivial
    idle_compat := fun _ => trivial
    idle_holds := fun _ _ _ _ => trivial
    spawn := fun _ p hp => hsafe p (hspawn p hp)
    request := fun h s req trace result s' hinv hrun =>
      ⟨hrequest h s req trace result s' hinv hrun,
        fun _ c hc => c.stable h s req trace result s' hinv hc hrun⟩ }
  exact (Logic.reach_good hsound hinv (fun _ => hsafe _ hthread) hreach).1

end

section

variable {τ : Type}

/-- The events of the threads, in their order. -/
def events (history : List (Entry τ σ Q R ε ρ β)) : List (Event Q R) :=
  history.filterMap fun
    | .act _ _ event => some event
    | .request _ _ _ => none

theorem events_append (first second : List (Entry τ σ Q R ε ρ β)) :
    events (first ++ second) = events first ++ events second :=
  List.filterMap_append

variable [DecidableEq τ] {S : System τ σ Q R ε α ρ β} {P : Pool τ σ Q R ε α ρ β}

/-- A thread that is not interrupted performs the actions of its program one after another. -/
theorem reach_runs {t : τ} {p : Prog σ Q R ε α} {s : σ} {trace : List (Event Q R)}
    {result : Except ε α} {s' : σ} (hrun : Prog.Runs S.adm p s trace result s')
    (hthread : P.thread t = p) (hstore : P.store = s) :
    ∃ P', S.Reach P P' ∧ P'.store = s' ∧ ∃ acts, P'.history = P.history ++ acts ∧
      events acts = trace := by
  induction hrun generalizing P with
  | pure value s => exact ⟨P, .refl, hstore, [], by simp, rfl⟩
  | raise error s => exact ⟨P, .refl, hstore, [], by simp, rfl⟩
  | @act call write next s trace result s' answer hadm hrest ih =>
      subst hstore
      have hstep : S.Step P
          { store := write answer P.store
            thread := Function.update P.thread t (next answer P.store)
            history := P.history ++ [.act t P.store ⟨call, answer⟩] } :=
        .act answer hthread hadm
      obtain ⟨P', hreach, hlast, acts, hhistory, hevents⟩ :=
        ih (P := { store := write answer P.store
                   thread := Function.update P.thread t (next answer P.store)
                   history := P.history ++ [.act t P.store ⟨call, answer⟩] })
          (Function.update_self ..) rfl
      refine ⟨P', (System.Reach.refl.step hstep).trans hreach, hlast,
        .act t P.store ⟨call, answer⟩ :: acts, ?_, ?_⟩
      · rw [hhistory, List.append_assoc]
        rfl
      · rw [← hevents]
        rfl

end

end ControlPlane.Lib
