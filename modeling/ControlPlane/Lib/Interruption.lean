import ControlPlane.Lib.Program

/-!
Runs that may stop. `Reaches` are the runs of a program up to some action, also those cut short
when the process is stopped, with the stores around every action. A complete run is one whose
outcome is known.

The second half is about a program that changes some rows in one action and appends to a log in
a later one. At whatever action such a run stops or raises, its change and its log entry are both
there or both missing exactly if it did not stop or raise between the two.
-/

namespace ControlPlane.Lib

/-- An action with the stores before and after it. -/
structure Step (σ Q : Type) (R : Q → Type) where
  before : σ
  event : Event Q R
  after : σ

namespace Prog

variable {σ Q : Type} {R : Q → Type} {ε α β : Type}
  {adm : (q : Q) → R q → σ → Prop}

/-- `Reaches adm p s steps outcome s'`: `p` started in `s` has taken `steps` and left the store
`s'`. The outcome is missing if it was stopped there. -/
inductive Reaches (adm : (q : Q) → R q → σ → Prop) :
    Prog σ Q R ε α → σ → List (Step σ Q R) → Option (Except ε α) → σ → Prop where
  | stopped (p : Prog σ Q R ε α) (s : σ) : Reaches adm p s [] none s
  | pure (value : α) (s : σ) : Reaches adm (.pure value) s [] (some (.ok value)) s
  | raise (error : ε) (s : σ) : Reaches adm (.raise error) s [] (some (.error error)) s
  | act {call write next s steps outcome s'} (answer : R call) (hadm : adm call answer s)
      (hrest : Reaches adm (next answer s) (write answer s) steps outcome s') :
      Reaches adm (.act call write next) s
        (⟨s, ⟨call, answer⟩, write answer s⟩ :: steps) outcome s'

theorem Runs.reaches {p : Prog σ Q R ε α} {s s' : σ} {trace : List (Event Q R)}
    {result : Except ε α} (h : Runs adm p s trace result s') :
    ∃ steps, Reaches adm p s steps (some result) s' := by
  induction h with
  | pure value s => exact ⟨[], .pure value s⟩
  | raise error s => exact ⟨[], .raise error s⟩
  | act answer hadm _ ih =>
      obtain ⟨steps, hsteps⟩ := ih
      exact ⟨_, .act answer hadm hsteps⟩

/-- A run with an outcome is a complete one. -/
theorem Reaches.runs {p : Prog σ Q R ε α} {s s' : σ} {steps : List (Step σ Q R)}
    {result : Except ε α} (h : Reaches adm p s steps (some result) s') :
    Runs adm p s (steps.map Step.event) result s' := by
  generalize houtcome : some result = outcome at h
  induction h with
  | stopped p s => cases houtcome
  | pure value s =>
      cases houtcome
      exact .pure value s
  | raise error s =>
      cases houtcome
      exact .raise error s
  | act answer hadm _ ih => exact .act answer hadm (ih houtcome)

/-- A run of a bind reached its second part, or raised or was stopped in the first. -/
theorem reaches_bind {p : Prog σ Q R ε α} {k : α → Prog σ Q R ε β} {s s' : σ}
    {steps : List (Step σ Q R)} {outcome : Option (Except ε β)}
    (h : Reaches adm (p.bind k) s steps outcome s') :
    (∃ value s₁ steps₁ steps₂, Reaches adm p s steps₁ (some (.ok value)) s₁ ∧
      Reaches adm (k value) s₁ steps₂ outcome s' ∧ steps = steps₁ ++ steps₂) ∨
    ∃ outcome', Reaches adm p s steps outcome' s' := by
  induction p generalizing s steps with
  | pure value => exact .inl ⟨value, s, [], steps, .pure value s, h, rfl⟩
  | raise error =>
      cases h with
      | stopped => exact .inr ⟨none, .stopped _ _⟩
      | raise => exact .inr ⟨_, .raise error _⟩
  | act call write next ih =>
      rw [act_bind] at h
      cases h with
      | stopped => exact .inr ⟨none, .stopped _ _⟩
      | act answer hadm hrest =>
          rcases ih answer s hrest with
            ⟨value, s₁, steps₁, steps₂, hfirst, hsecond, rfl⟩ | ⟨outcome', hfirst⟩
          · exact .inl ⟨value, s₁, _, steps₂, .act answer hadm hfirst, hsecond, rfl⟩
          · exact .inr ⟨outcome', .act answer hadm hfirst⟩

/-- What every action of a program satisfies, every step of its runs does. -/
theorem Uses.reaches {φ : Step σ Q R → Prop} {p : Prog σ Q R ε α}
    (hp : p.Uses fun q w => ∀ r s, φ ⟨s, ⟨q, r⟩, w r s⟩) {s s' : σ} {steps : List (Step σ Q R)}
    {outcome : Option (Except ε α)} (h : Reaches adm p s steps outcome s') :
    ∀ step ∈ steps, φ step := by
  induction h with
  | stopped p s => simp
  | pure value s => simp
  | raise error s => simp
  | act answer _ _ ih =>
      intro step hstep
      rcases List.mem_cons.mp hstep with rfl | hstep
      · exact hp.1 answer _
      · exact ih (hp.2 answer _) step hstep

/-- What every step keeps, the run keeps. -/
theorem Reaches.keeps {γ : Type} {view : σ → γ} {p : Prog σ Q R ε α} {s s' : σ}
    {steps : List (Step σ Q R)} {outcome : Option (Except ε α)}
    (h : Reaches adm p s steps outcome s')
    (hsteps : ∀ step ∈ steps, view step.after = view step.before) : view s' = view s := by
  induction h with
  | stopped p s => rfl
  | pure value s => rfl
  | raise error s => rfl
  | act answer _ _ ih =>
      have hrest := ih fun step hstep => hsteps step (List.mem_cons_of_mem _ hstep)
      exact hrest.trans (hsteps _ List.mem_cons_self)

end Prog

/-- Rows that are changed and a log in which the change has to be recorded. `applied i` says what
the change of number `i` does to the rows, and `describes i` which entries record it. -/
structure Logbook (σ Q : Type) (R : Q → Type) (β γ ι : Type) where
  rows : σ → β
  log : σ → List γ
  appends : Step σ Q R → Prop
  applied : ι → β → β → Prop
  describes : ι → γ → Prop

namespace Logbook

open Prog

variable {σ Q : Type} {R : Q → Type} {ε α β γ ι δ : Type} {adm : (q : Q) → R q → σ → Prop}
  {L : Logbook σ Q R β γ ι} {s s' s₁ : σ} {steps steps₁ steps₂ : List (Step σ Q R)}
  {outcome : Option (Except ε α)}

/-- The change and its entry are both there, or neither is. -/
def Whole (L : Logbook σ Q R β γ ι) (s s' : σ) : Prop :=
  (L.rows s' = L.rows s ∧ L.log s' = L.log s) ∨
  ∃ i, L.applied i (L.rows s) (L.rows s') ∧ ∃ entry, L.describes i entry ∧
    L.log s' = L.log s ++ [entry]

/-- After every action that alters the rows there is one that appends to the log. -/
def Followed (L : Logbook σ Q R β γ ι) (steps : List (Step σ Q R)) : Prop :=
  ∀ before step after, steps = before ++ step :: after → L.rows step.after ≠ L.rows step.before →
    ∃ later ∈ after, L.appends later

/-- The action changes neither the rows nor the log. -/
def Idle (L : Logbook σ Q R β γ ι) (step : Step σ Q R) : Prop :=
  L.rows step.after = L.rows step.before ∧ L.log step.after = L.log step.before

/-- How far a run has come that may change the rows once and then logs it. -/
inductive Phase (L : Logbook σ Q R β γ ι) (s : σ) (steps : List (Step σ Q R))
    (outcome : Option (Except ε α)) (s' : σ) : Prop where
  | untouched (hsteps : ∀ step ∈ steps, L.rows step.after = L.rows step.before)
      (hrows : L.rows s' = L.rows s) (hlog : L.log s' = L.log s)
  | changed {before after : List (Step σ Q R)} {step : Step σ Q R}
      (hsteps : steps = before ++ step :: after)
      (hbefore : ∀ step ∈ before, L.rows step.after = L.rows step.before)
      (hafter : ∀ step ∈ after, L.rows step.after = L.rows step.before)
      (hstart : L.rows step.before = L.rows s) (hrows : L.rows s' = L.rows step.after)
      (hlog : L.log s' = L.log s) (hnone : ∀ later ∈ after, ¬L.appends later)
  | logged {before after : List (Step σ Q R)} {step : Step σ Q R}
      (hsteps : steps = before ++ step :: after)
      (hbefore : ∀ step ∈ before, L.rows step.after = L.rows step.before)
      (hafter : ∀ step ∈ after, L.rows step.after = L.rows step.before)
      (hwhole : ∃ i, L.applied i (L.rows s) (L.rows s') ∧ ∃ entry, L.describes i entry ∧
        L.log s' = L.log s ++ [entry])
      (hlater : ∃ later ∈ after, L.appends later)
      (hreturns : ∀ error, outcome ≠ some (.error error))

/-- Only the action that changes the rows alters them, so it is followed if an entry came after. -/
theorem followed_of_later {before after : List (Step σ Q R)} {step : Step σ Q R}
    (hbefore : ∀ step ∈ before, L.rows step.after = L.rows step.before)
    (hafter : ∀ step ∈ after, L.rows step.after = L.rows step.before)
    (hlater : ∃ later ∈ after, L.appends later) : L.Followed (before ++ step :: after) := by
  intro before' step' after' hsteps halters
  rcases List.append_eq_append_iff.mp hsteps with ⟨middle, rfl, hrest⟩ | ⟨middle, rfl, hrest⟩
  · cases middle with
    | nil =>
        cases hrest
        exact hlater
    | cons first middle =>
        obtain ⟨rfl, rfl⟩ := List.cons_eq_cons.mp hrest
        exact absurd (hafter step' (by simp)) halters
  · cases middle with
    | nil =>
        cases hrest
        exact hlater
    | cons first middle =>
        obtain ⟨rfl, rfl⟩ := List.cons_eq_cons.mp hrest
        exact absurd (hbefore step' (by simp)) halters

theorem followed_of_unaltered
    (h : ∀ step ∈ steps, L.rows step.after = L.rows step.before) : L.Followed steps := by
  rintro before step after rfl halters
  exact absurd (h step (by simp)) halters

/-- The change and its entry are both there or both missing, and the rows are as they were if the
run raised, exactly when every action that altered the rows is followed by one that appended to
the log. -/
theorem Phase.whole_iff (h : L.Phase s steps outcome s') :
    (L.Whole s s' ∧ ∀ error, outcome = some (.error error) → L.rows s' = L.rows s) ↔
      L.Followed steps := by
  cases h with
  | untouched hsteps hrows hlog =>
      exact iff_of_true ⟨.inl ⟨hrows, hlog⟩, fun _ _ => hrows⟩ (followed_of_unaltered hsteps)
  | @changed before after step hsteps hbefore hafter hstart hrows hlog hnone =>
      subst hsteps
      by_cases hsame : L.rows step.after = L.rows step.before
      · have hrows' : L.rows s' = L.rows s := hrows.trans (hsame.trans hstart)
        refine iff_of_true ⟨.inl ⟨hrows', hlog⟩, fun _ _ => hrows'⟩ (followed_of_unaltered ?_)
        intro other hother
        rcases List.mem_append.mp hother with hmem | hmem
        · exact hbefore other hmem
        · rcases List.mem_cons.mp hmem with rfl | hmem
          · exact hsame
          · exact hafter other hmem
      · refine iff_of_false ?_ ?_
        · rintro ⟨⟨hrows', _⟩ | ⟨_, _, _, _, hentry⟩, _⟩
          · exact hsame (hrows.symm.trans (hrows'.trans hstart.symm))
          · rw [hlog] at hentry
            simpa using congrArg List.length hentry
        · intro hfollowed
          obtain ⟨later, hmem, happends⟩ := hfollowed before step after rfl hsame
          exact hnone later hmem happends
  | logged hsteps hbefore hafter hwhole hlater hreturns =>
      subst hsteps
      exact iff_of_true ⟨.inr hwhole, fun error herror => absurd herror (hreturns error)⟩
        (followed_of_later hbefore hafter hlater)

/-- Actions that change neither the rows nor the log come before everything else. -/
theorem Phase.prefixed (h : L.Phase s₁ steps₂ outcome s') (hidle : ∀ step ∈ steps₁, L.Idle step)
    (hrows₁ : L.rows s₁ = L.rows s) (hlog₁ : L.log s₁ = L.log s) :
    L.Phase s (steps₁ ++ steps₂) outcome s' := by
  cases h with
  | untouched hsteps hrows hlog =>
      refine .untouched ?_ (hrows.trans hrows₁) (hlog.trans hlog₁)
      intro step hstep
      rcases List.mem_append.mp hstep with hmem | hmem
      · exact (hidle step hmem).1
      · exact hsteps step hmem
  | @changed before after step hsteps hbefore hafter hstart hrows hlog hnone =>
      subst hsteps
      refine .changed (List.append_assoc steps₁ before (step :: after)).symm ?_ hafter
        (hstart.trans hrows₁) hrows (hlog.trans hlog₁) hnone
      intro step hstep
      rcases List.mem_append.mp hstep with hmem | hmem
      · exact (hidle step hmem).1
      · exact hbefore step hmem
  | @logged before after step hsteps hbefore hafter hwhole hlater hreturns =>
      subst hsteps
      rw [hrows₁, hlog₁] at hwhole
      refine .logged (List.append_assoc steps₁ before (step :: after)).symm ?_ hafter hwhole
        hlater hreturns
      intro step hstep
      rcases List.mem_append.mp hstep with hmem | hmem
      · exact (hidle step hmem).1
      · exact hbefore step hmem

/-- A program that changes neither the rows nor the log. -/
def Idles (L : Logbook σ Q R β γ ι) (p : Prog σ Q R ε α) : Prop :=
  p.Uses fun q w => ∀ r s, L.Idle ⟨s, ⟨q, r⟩, w r s⟩

theorem Idles.bind {p : Prog σ Q R ε α} {k : α → Prog σ Q R ε δ} (hp : L.Idles p)
    (hk : ∀ value, L.Idles (k value)) : L.Idles (p.bind k) :=
  Uses.bind hp hk

theorem Idles.phase {p : Prog σ Q R ε α} (hp : L.Idles p)
    (h : Reaches adm p s steps outcome s') : L.Phase s steps outcome s' := by
  have hidle := hp.reaches h
  exact .untouched (fun step hstep => (hidle step hstep).1)
    (h.keeps fun step hstep => (hidle step hstep).1)
    (h.keeps fun step hstep => (hidle step hstep).2)

/-- What comes before the change. -/
theorem Idles.phase_bind {p : Prog σ Q R ε α} {k : α → Prog σ Q R ε δ} (hp : L.Idles p)
    {outcome : Option (Except ε δ)} (h : Reaches adm (p.bind k) s steps outcome s')
    (hk : ∀ value s₁ trace steps₂, Runs adm p s trace (.ok value) s₁ →
      Reaches adm (k value) s₁ steps₂ outcome s' → L.Phase s₁ steps₂ outcome s') :
    L.Phase s steps outcome s' := by
  rcases reaches_bind h with
    ⟨value, s₁, steps₁, steps₂, hfirst, hsecond, rfl⟩ | ⟨outcome', hfirst⟩
  · have hidle := hp.reaches hfirst
    exact (hk value s₁ _ steps₂ hfirst.runs hsecond).prefixed hidle
      (hfirst.keeps fun step hstep => (hidle step hstep).1)
      (hfirst.keeps fun step hstep => (hidle step hstep).2)
  · have hidle := hp.reaches hfirst
    exact .untouched (fun step hstep => (hidle step hstep).1)
      (hfirst.keeps fun step hstep => (hidle step hstep).1)
      (hfirst.keeps fun step hstep => (hidle step hstep).2)

/-- The rest of a run once its change is logged: it is idle and does not raise. -/
def Finishes (L : Logbook σ Q R β γ ι) (adm : (q : Q) → R q → σ → Prop) (p : Prog σ Q R ε α)
    (s : σ) : Prop :=
  ∀ steps outcome s', Reaches adm p s steps outcome s' →
    (∀ step ∈ steps, L.Idle step) ∧ ∀ error, outcome ≠ some (.error error)

/-- The rest of a run whose change has number `i`: it keeps the rows, and either nothing is
appended to the log or an entry for the change is, after which the run does not raise. -/
def Logs (L : Logbook σ Q R β γ ι) (adm : (q : Q) → R q → σ → Prop) (i : ι)
    (p : Prog σ Q R ε α) (s : σ) : Prop :=
  ∀ steps outcome s', Reaches adm p s steps outcome s' →
    (∀ step ∈ steps, L.rows step.after = L.rows step.before) ∧
    ((L.log s' = L.log s ∧ ∀ step ∈ steps, ¬L.appends step) ∨
      (∃ entry, L.describes i entry ∧ L.log s' = L.log s ++ [entry]) ∧
      (∃ step ∈ steps, L.appends step) ∧ ∀ error, outcome ≠ some (.error error))

/-- A program that neither changes the rows nor appends to the log. -/
def Silent (L : Logbook σ Q R β γ ι) (p : Prog σ Q R ε α) : Prop :=
  p.Uses fun q w => ∀ r s, L.Idle ⟨s, ⟨q, r⟩, w r s⟩ ∧ ¬L.appends ⟨s, ⟨q, r⟩, w r s⟩

theorem Silent.idles {p : Prog σ Q R ε α} (hp : L.Silent p) : L.Idles p :=
  hp.mono fun _ _ hact r s => (hact r s).1

theorem Silent.bind {p : Prog σ Q R ε α} {k : α → Prog σ Q R ε δ} (hp : L.Silent p)
    (hk : ∀ value, L.Silent (k value)) : L.Silent (p.bind k) :=
  Uses.bind hp hk

theorem Silent.bind_logs {i : ι} {p : Prog σ Q R ε α} {k : α → Prog σ Q R ε δ} (hp : L.Silent p)
    (hk : ∀ value s₁ trace, Runs adm p s trace (.ok value) s₁ → L.Logs adm i (k value) s₁) :
    L.Logs adm i (p.bind k) s := by
  intro steps outcome s' h
  rcases reaches_bind h with
    ⟨value, s₁, steps₁, steps₂, hfirst, hsecond, rfl⟩ | ⟨outcome', hfirst⟩
  · have hsilent := Uses.reaches (φ := fun step => L.Idle step ∧ ¬L.appends step) hp hfirst
    have hlog₁ := hfirst.keeps fun step hstep => (hsilent step hstep).1.2
    obtain ⟨hrows, hlog⟩ := hk value s₁ _ hfirst.runs steps₂ outcome s' hsecond
    refine ⟨?_, ?_⟩
    · intro step hstep
      rcases List.mem_append.mp hstep with hmem | hmem
      · exact (hsilent step hmem).1.1
      · exact hrows step hmem
    · rw [hlog₁] at hlog
      rcases hlog with ⟨hsame, hnone⟩ | ⟨hentry, ⟨step, hstep, happends⟩, hreturns⟩
      · refine .inl ⟨hsame, ?_⟩
        intro step hstep
        rcases List.mem_append.mp hstep with hmem | hmem
        · exact (hsilent step hmem).2
        · exact hnone step hmem
      · exact .inr ⟨hentry, ⟨step, List.mem_append_right _ hstep, happends⟩, hreturns⟩
  · have hsilent := Uses.reaches (φ := fun step => L.Idle step ∧ ¬L.appends step) hp hfirst
    exact ⟨fun step hstep => (hsilent step hstep).1.1,
      .inl ⟨hfirst.keeps fun step hstep => (hsilent step hstep).1.2,
        fun step hstep => (hsilent step hstep).2⟩⟩

theorem logs_raise {i : ι} (error : ε) : L.Logs adm i (.raise error : Prog σ Q R ε α) s := by
  intro steps outcome s' h
  cases h <;> exact ⟨by simp, .inl ⟨rfl, by simp⟩⟩

/-- An action after the change: it leaves the rows and the log alone, or appends the entry. -/
theorem logs_act {i : ι} {call : Q} {write : R call → σ → σ}
    {next : R call → σ → Prog σ Q R ε α}
    (hact : ∀ answer, adm call answer s →
      (L.Idle ⟨s, ⟨call, answer⟩, write answer s⟩ ∧
        ¬L.appends ⟨s, ⟨call, answer⟩, write answer s⟩ ∧
        L.Logs adm i (next answer s) (write answer s)) ∨
      L.rows (write answer s) = L.rows s ∧ L.appends ⟨s, ⟨call, answer⟩, write answer s⟩ ∧
        (∃ entry, L.describes i entry ∧ L.log (write answer s) = L.log s ++ [entry]) ∧
        L.Finishes adm (next answer s) (write answer s)) :
    L.Logs adm i (.act call write next) s := by
  intro steps outcome s' h
  cases h with
  | stopped => exact ⟨by simp, .inl ⟨rfl, by simp⟩⟩
  | act answer hadm hrest =>
      rcases hact answer hadm with
        ⟨⟨hrows, hlog⟩, hnot, hlogs⟩ | ⟨hrows, happends, ⟨entry, hentry, hlog⟩, hfinishes⟩
      · obtain ⟨hkept, hafter⟩ := hlogs _ outcome s' hrest
        refine ⟨List.forall_mem_cons.mpr ⟨hrows, hkept⟩, ?_⟩
        rw [show L.log (write answer s) = L.log s from hlog] at hafter
        rcases hafter with ⟨hsame, hnone⟩ | ⟨hlogged, ⟨step, hstep, happends⟩, hreturns⟩
        · exact .inl ⟨hsame, List.forall_mem_cons.mpr ⟨hnot, hnone⟩⟩
        · exact .inr ⟨hlogged, ⟨step, List.mem_cons_of_mem _ hstep, happends⟩, hreturns⟩
      · obtain ⟨hidle, hreturns⟩ := hfinishes _ outcome s' hrest
        have hlog' := hrest.keeps fun step hstep => (hidle step hstep).2
        refine ⟨List.forall_mem_cons.mpr ⟨hrows, fun step hstep => (hidle step hstep).1⟩, .inr
          ⟨⟨entry, hentry, hlog'.trans hlog⟩, ⟨_, List.mem_cons_self, happends⟩, hreturns⟩⟩

/-- The action that changes the rows, which may also raise and change nothing. -/
theorem phase_act {call : Q} {write : R call → σ → σ} {next : R call → σ → Prog σ Q R ε α}
    (h : Reaches adm (.act call write next) s steps outcome s')
    (hact : ∀ answer, adm call answer s →
      (write answer s = s ∧ ∃ error, next answer s = .raise error) ∨
      L.log (write answer s) = L.log s ∧ ∃ i, L.applied i (L.rows s) (L.rows (write answer s)) ∧
        L.Logs adm i (next answer s) (write answer s)) :
    L.Phase s steps outcome s' := by
  cases h with
  | stopped => exact .untouched (by simp) rfl rfl
  | act answer hadm hrest =>
      rcases hact answer hadm with ⟨hsame, error, hraise⟩ | ⟨hlog, i, happlied, hlogs⟩
      · rw [hraise, hsame] at hrest
        cases hrest <;> exact .untouched (by simp [hsame]) rfl rfl
      · obtain ⟨hrows, hafter⟩ := hlogs _ outcome s' hrest
        have hrows' := hrest.keeps hrows
        rcases hafter with ⟨hlog', hnone⟩ | ⟨⟨entry, hentry, hlog'⟩, hlater, hreturns⟩
        · exact .changed (List.nil_append _).symm (by simp) hrows rfl hrows' (hlog'.trans hlog)
            hnone
        · rw [hlog] at hlog'
          refine .logged (List.nil_append _).symm (by simp) hrows ⟨i, ?_, entry, hentry, hlog'⟩
            hlater hreturns
          rw [hrows']
          exact happlied

end Logbook

end ControlPlane.Lib
