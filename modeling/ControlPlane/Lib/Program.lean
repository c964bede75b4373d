import Mathlib.Logic.Function.Basic

/-!
Programs that share a store. A program is a tree of actions: an action names
the call it makes, receives the answer the surroundings give to that call, and
updates the store in one atomic step. Between two actions anything else may
happen to the store, so the same tree has a sequential reading (`Runs`, with
`wp` as its calculus) and an interleaved one (`ControlPlane.Lib.Threads`).

The answers are not chosen by the program: a clock reading, a fresh identifier,
the outcome of a commit or a provider's reply all arrive through them. An
admissibility predicate says which answers the surroundings may give in a
store; the trivial predicate allows all of them.
-/

namespace ControlPlane.Lib

/-- A program over the store `σ` making calls `Q` answered in `R`, which
returns an `α` or raises an `ε`. Both the update and the continuation of an
action see the answer and the store the action is executed in. -/
inductive Prog (σ Q : Type) (R : Q → Type) (ε α : Type) : Type where
  | pure (value : α) : Prog σ Q R ε α
  | raise (error : ε) : Prog σ Q R ε α
  | act (call : Q) (write : R call → σ → σ)
      (next : R call → σ → Prog σ Q R ε α) : Prog σ Q R ε α

/-- One answered call. -/
structure Event (Q : Type) (R : Q → Type) where
  call : Q
  answer : R call

namespace Prog

variable {σ Q : Type} {R : Q → Type} {ε α β : Type}

def bind : Prog σ Q R ε α → (α → Prog σ Q R ε β) → Prog σ Q R ε β
  | .pure value, k => k value
  | .raise error, _ => .raise error
  | .act call write next, k => .act call write (fun r s => (next r s).bind k)

/-- Run `p`; an exception it raises is handed to the handler. -/
def handle : Prog σ Q R ε α → (ε → Prog σ Q R ε α) → Prog σ Q R ε α
  | .pure value, _ => .pure value
  | .raise error, k => k error
  | .act call write next, k => .act call write (fun r s => (next r s).handle k)

instance : Monad (Prog σ Q R ε) where
  pure := Prog.pure
  bind := Prog.bind

instance : MonadExceptOf ε (Prog σ Q R ε) where
  throw := Prog.raise
  tryCatch := Prog.handle

@[simp] theorem pure_eq (value : α) :
    (Pure.pure value : Prog σ Q R ε α) = .pure value := rfl

@[simp] theorem throw_eq (error : ε) :
    (throw error : Prog σ Q R ε α) = .raise error := rfl

@[simp] theorem bind_eq (p : Prog σ Q R ε α) (k : α → Prog σ Q R ε β) :
    p >>= k = p.bind k := rfl

@[simp] theorem tryCatch_eq (p : Prog σ Q R ε α) (k : ε → Prog σ Q R ε α) :
    tryCatch p k = p.handle k := rfl

@[simp] theorem pure_bind (value : α) (k : α → Prog σ Q R ε β) :
    (Prog.pure value : Prog σ Q R ε α).bind k = k value := rfl

@[simp] theorem raise_bind (error : ε) (k : α → Prog σ Q R ε β) :
    (Prog.raise error : Prog σ Q R ε α).bind k = .raise error := rfl

@[simp] theorem act_bind (call : Q) (write : R call → σ → σ)
    (next : R call → σ → Prog σ Q R ε α) (k : α → Prog σ Q R ε β) :
    (Prog.act call write next).bind k =
      .act call write fun r s => (next r s).bind k := rfl

@[simp] theorem pure_handle (value : α) (k : ε → Prog σ Q R ε α) :
    (Prog.pure value : Prog σ Q R ε α).handle k = .pure value := rfl

@[simp] theorem raise_handle (error : ε) (k : ε → Prog σ Q R ε α) :
    (Prog.raise error : Prog σ Q R ε α).handle k = k error := rfl

@[simp] theorem act_handle (call : Q) (write : R call → σ → σ)
    (next : R call → σ → Prog σ Q R ε α) (k : ε → Prog σ Q R ε α) :
    (Prog.act call write next).handle k =
      .act call write fun r s => (next r s).handle k := rfl

theorem bind_assoc {δ : Type} (p : Prog σ Q R ε α) (k : α → Prog σ Q R ε β)
    (l : β → Prog σ Q R ε δ) : (p.bind k).bind l = p.bind fun a => (k a).bind l := by
  induction p with
  | pure value => rfl
  | raise error => rfl
  | act call write next ih =>
      simp only [act_bind, ih]

theorem bind_pure (p : Prog σ Q R ε α) : p.bind .pure = p := by
  induction p with
  | pure value => rfl
  | raise error => rfl
  | act call write next ih =>
      simp only [act_bind, ih]

/-- `Runs adm p s trace result s'`: with admissible answers only, `p` started
in `s` makes the calls of `trace` and ends in `s'` with `result`. -/
inductive Runs (adm : (q : Q) → R q → σ → Prop) :
    Prog σ Q R ε α → σ → List (Event Q R) → Except ε α → σ → Prop where
  | pure (value : α) (s : σ) : Runs adm (.pure value) s [] (.ok value) s
  | raise (error : ε) (s : σ) : Runs adm (.raise error) s [] (.error error) s
  | act {call write next s trace result s'} (answer : R call)
      (hadm : adm call answer s)
      (hrest : Runs adm (next answer s) (write answer s) trace result s') :
      Runs adm (.act call write next) s (⟨call, answer⟩ :: trace) result s'

/-- Answers given by position: the executable reading of a program. -/
def exec (oracle : Nat → (q : Q) → R q) :
    Prog σ Q R ε α → Nat → σ → List (Event Q R) × Except ε α × σ
  | .pure value, _, s => ([], .ok value, s)
  | .raise error, _, s => ([], .error error, s)
  | .act call write next, n, s =>
      let answer := oracle n call
      let rest := (next answer s).exec oracle (n + 1) (write answer s)
      (⟨call, answer⟩ :: rest.1, rest.2)

theorem runs_exec {adm : (q : Q) → R q → σ → Prop} {oracle : Nat → (q : Q) → R q}
    (hadm : ∀ n q s, adm q (oracle n q) s) (p : Prog σ Q R ε α) (n : Nat) (s : σ) :
    Runs adm p s (p.exec oracle n s).1 (p.exec oracle n s).2.1
      (p.exec oracle n s).2.2 := by
  induction p generalizing n s with
  | pure value => exact .pure value s
  | raise error => exact .raise error s
  | act call write next ih =>
      exact .act (oracle n call) (hadm n call s)
        (ih (oracle n call) s (n + 1) (write (oracle n call) s))

/-- All answers of an executed run are admissible. -/
def admits (adm : (q : Q) → R q → σ → Prop) [∀ q r s, Decidable (adm q r s)]
    (oracle : Nat → (q : Q) → R q) : Prog σ Q R ε α → Nat → σ → Bool
  | .pure _, _, _ => true
  | .raise _, _, _ => true
  | .act call write next, n, s =>
      decide (adm call (oracle n call) s) &&
        (next (oracle n call) s).admits adm oracle (n + 1) (write (oracle n call) s)

theorem runs_of_admits {adm : (q : Q) → R q → σ → Prop} [∀ q r s, Decidable (adm q r s)]
    {oracle : Nat → (q : Q) → R q} {p : Prog σ Q R ε α} {n : Nat} {s : σ}
    (h : p.admits adm oracle n s = true) : Runs adm p s (p.exec oracle n s).1
      (p.exec oracle n s).2.1 (p.exec oracle n s).2.2 := by
  induction p generalizing n s with
  | pure value => exact .pure value s
  | raise error => exact .raise error s
  | act call write next ih =>
      rw [admits, Bool.and_eq_true, decide_eq_true_eq] at h
      exact .act (oracle n call) h.1 (ih (oracle n call) s h.2)

theorem Runs.mono {adm adm' : (q : Q) → R q → σ → Prop}
    {p : Prog σ Q R ε α} {s s' : σ} {trace : List (Event Q R)}
    {result : Except ε α} (h : Runs adm p s trace result s')
    (hle : ∀ q r s, adm q r s → adm' q r s) : Runs adm' p s trace result s' := by
  induction h with
  | pure value s => exact .pure value s
  | raise error s => exact .raise error s
  | act answer hadm _ ih => exact .act answer (hle _ _ _ hadm) ih

theorem runs_pure {adm : (q : Q) → R q → σ → Prop} {value : α} {s s' : σ}
    {trace : List (Event Q R)} {result : Except ε α}
    (h : Runs adm (.pure value) s trace result s') :
    trace = [] ∧ result = .ok value ∧ s' = s := by
  cases h
  exact ⟨rfl, rfl, rfl⟩

theorem runs_raise {adm : (q : Q) → R q → σ → Prop} {error : ε} {s s' : σ}
    {trace : List (Event Q R)} {result : Except ε α}
    (h : Runs adm (.raise error) s trace result s') :
    trace = [] ∧ result = .error error ∧ s' = s := by
  cases h
  exact ⟨rfl, rfl, rfl⟩

/-- A run of a bind is a run of its first part, and then, unless that raised,
one of the second. -/
theorem runs_bind {adm : (q : Q) → R q → σ → Prop} {p : Prog σ Q R ε α}
    {k : α → Prog σ Q R ε β} {s s' : σ} {trace : List (Event Q R)}
    {result : Except ε β} (h : Runs adm (p.bind k) s trace result s') :
    (∃ value s₁ trace₁ trace₂, Runs adm p s trace₁ (.ok value) s₁ ∧
      Runs adm (k value) s₁ trace₂ result s' ∧ trace = trace₁ ++ trace₂) ∨
    ∃ error, Runs adm p s trace (.error error) s' ∧ result = .error error := by
  induction p generalizing s trace with
  | pure value => exact Or.inl ⟨value, s, [], trace, .pure value s, h, rfl⟩
  | raise error =>
      obtain ⟨rfl, rfl, rfl⟩ := runs_raise h
      exact Or.inr ⟨error, .raise error _, rfl⟩
  | act call write next ih =>
      rw [act_bind] at h
      cases h with
      | act answer hadm hrest =>
          rcases ih answer s hrest with
            ⟨value, s₁, trace₁, trace₂, hfirst, hsecond, rfl⟩ | ⟨error, hfirst, rfl⟩
          · exact Or.inl ⟨value, s₁, _, trace₂, .act answer hadm hfirst, hsecond,
              rfl⟩
          · exact Or.inr ⟨error, .act answer hadm hfirst, rfl⟩

/-- A bind that returned: both parts did. -/
theorem runs_bind_ok {adm : (q : Q) → R q → σ → Prop} {p : Prog σ Q R ε α}
    {k : α → Prog σ Q R ε β} {s s' : σ} {trace : List (Event Q R)} {value : β}
    (h : Runs adm (p.bind k) s trace (.ok value) s') :
    ∃ first s₁ trace₁ trace₂, Runs adm p s trace₁ (.ok first) s₁ ∧
      Runs adm (k first) s₁ trace₂ (.ok value) s' ∧ trace = trace₁ ++ trace₂ := by
  rcases runs_bind h with hrun | ⟨error, _, hresult⟩
  · exact hrun
  · cases hresult

/-- What follows the program only rewrites its result. -/
theorem runs_bind_pure {adm : (q : Q) → R q → σ → Prop} {p : Prog σ Q R ε α} {f : α → β}
    {s s' : σ} {trace : List (Event Q R)} {result : Except ε β}
    (h : Runs adm (p.bind fun value => .pure (f value)) s trace result s') :
    ∃ r, Runs adm p s trace r s' ∧ result = r.map f := by
  rcases runs_bind h with ⟨value, s₁, first, second, hp, hlast, rfl⟩ | ⟨e, hp, rfl⟩
  · obtain ⟨rfl, rfl, rfl⟩ := runs_pure hlast
    rw [List.append_nil]
    exact ⟨.ok value, hp, rfl⟩
  · exact ⟨.error e, hp, rfl⟩

theorem Runs.admitted {adm : (q : Q) → R q → σ → Prop} {p : Prog σ Q R ε α} {s s' : σ}
    {trace : List (Event Q R)} {result : Except ε α}
    (h : Runs adm p s trace result s') : ∀ e ∈ trace, ∃ s, adm e.call e.answer s := by
  induction h with
  | pure value s => simp
  | raise error s => simp
  | @act call _ _ s _ _ _ answer hadm _ ih =>
      rintro e (_ | ⟨_, hmem⟩)
      · exact ⟨s, hadm⟩
      · exact ih e hmem

/-- A run of a program with a handler is one that returned, or a run that raised and one of
the handler after it. -/
theorem runs_handle {adm : (q : Q) → R q → σ → Prop} {p : Prog σ Q R ε α}
    {k : ε → Prog σ Q R ε α} {s s' : σ} {trace : List (Event Q R)}
    {result : Except ε α} (h : Runs adm (p.handle k) s trace result s') :
    (∃ value, Runs adm p s trace (.ok value) s' ∧ result = .ok value) ∨
    ∃ error s₁ trace₁ trace₂, Runs adm p s trace₁ (.error error) s₁ ∧
      Runs adm (k error) s₁ trace₂ result s' ∧ trace = trace₁ ++ trace₂ := by
  induction p generalizing s trace with
  | pure value =>
      obtain ⟨rfl, rfl, rfl⟩ := runs_pure h
      exact Or.inl ⟨value, .pure value _, rfl⟩
  | raise error => exact Or.inr ⟨error, s, [], trace, .raise error s, h, rfl⟩
  | act call write next ih =>
      rw [act_handle] at h
      cases h with
      | act answer hadm hrest =>
          rcases ih answer s hrest with ⟨value, hfirst, rfl⟩ |
            ⟨error, s₁, trace₁, trace₂, hfirst, hsecond, rfl⟩
          · exact Or.inl ⟨value, .act answer hadm hfirst, rfl⟩
          · exact Or.inr ⟨error, s₁, _, trace₂, .act answer hadm hfirst, hsecond, rfl⟩

/-- A handler around a program whose value is passed on. -/
theorem runs_guarded {adm : (q : Q) → R q → σ → Prop} {p : Prog σ Q R ε α} {f : α → β}
    {k : ε → Prog σ Q R ε β} {s s' : σ} {trace : List (Event Q R)} {result : Except ε β}
    (h : Runs adm ((p.bind fun value => .pure (f value)).handle k) s trace result s') :
    (∃ value, Runs adm p s trace (.ok value) s' ∧ result = .ok (f value)) ∨
    ∃ error s₁ trace₁ trace₂, Runs adm p s trace₁ (.error error) s₁ ∧
      Runs adm (k error) s₁ trace₂ result s' ∧ trace = trace₁ ++ trace₂ := by
  rcases runs_handle h with ⟨value, hfirst, rfl⟩ |
      ⟨error, s₁, trace₁, trace₂, hraised, hsecond, rfl⟩
  · obtain ⟨value', s₁, trace₁, trace₂, hvalue, hpure, rfl⟩ := runs_bind_ok hfirst
    obtain ⟨rfl, hresult, rfl⟩ := runs_pure hpure
    rw [List.append_nil]
    exact Or.inl ⟨value', hvalue, hresult⟩
  · rcases runs_bind hraised with ⟨value, _, _, _, _, hpure, _⟩ | ⟨error', herror, heq⟩
    · obtain ⟨_, hresult, _⟩ := runs_pure hpure
      cases hresult
    · cases heq
      exact Or.inr ⟨_, s₁, trace₁, trace₂, herror, hsecond, rfl⟩

/-- Every admissible run of the program from the given store ends in `post`. -/
def wp (adm : (q : Q) → R q → σ → Prop) :
    Prog σ Q R ε α → (Except ε α → σ → Prop) → σ → Prop
  | .pure value, post, s => post (.ok value) s
  | .raise error, post, s => post (.error error) s
  | .act call write next, post, s =>
      ∀ answer, adm call answer s →
        (next answer s).wp adm post (write answer s)

variable {adm : (q : Q) → R q → σ → Prop}

@[simp] theorem wp_pure (value : α) (post : Except ε α → σ → Prop) (s : σ) :
    (Prog.pure value : Prog σ Q R ε α).wp adm post s = post (.ok value) s := rfl

theorem wp_sound {p : Prog σ Q R ε α} {post : Except ε α → σ → Prop}
    {s s' : σ} {trace : List (Event Q R)} {result : Except ε α}
    (hwp : p.wp adm post s) (hrun : Runs adm p s trace result s') :
    post result s' := by
  induction hrun with
  | pure value s => exact hwp
  | raise error s => exact hwp
  | act answer hadm _ ih => exact ih (hwp answer hadm)

theorem wp_mono {p : Prog σ Q R ε α} {post post' : Except ε α → σ → Prop}
    {s : σ} (h : p.wp adm post s) (himp : ∀ r s, post r s → post' r s) :
    p.wp adm post' s := by
  induction p generalizing s with
  | pure value => exact himp _ _ h
  | raise error => exact himp _ _ h
  | act call write next ih =>
      intro answer hadm
      exact ih answer s (h answer hadm)

/-- What a bind does with the result of its first part. -/
def andThen (adm : (q : Q) → R q → σ → Prop) (k : α → Prog σ Q R ε β)
    (post : Except ε β → σ → Prop) : Except ε α → σ → Prop
  | .ok value, s => (k value).wp adm post s
  | .error error, s => post (.error error) s

@[simp] theorem andThen_ok (k : α → Prog σ Q R ε β)
    (post : Except ε β → σ → Prop) (value : α) (s : σ) :
    andThen adm k post (.ok value) s = (k value).wp adm post s := rfl

theorem wp_bind (p : Prog σ Q R ε α) (k : α → Prog σ Q R ε β)
    (post : Except ε β → σ → Prop) (s : σ) :
    (p.bind k).wp adm post s ↔ p.wp adm (andThen adm k post) s := by
  induction p generalizing s with
  | pure value => rfl
  | raise error => rfl
  | act call write next ih =>
      constructor
      · intro h answer hadm
        exact (ih answer s _).mp (h answer hadm)
      · intro h answer hadm
        exact (ih answer s _).mpr (h answer hadm)

/-- Every admissible run of the program from the given store ends in `post`,
which also sees the calls: those of `before`, made earlier, and the program's. -/
def traced (adm : (q : Q) → R q → σ → Prop) :
    Prog σ Q R ε α → (List (Event Q R) → Except ε α → σ → Prop) →
      List (Event Q R) → σ → Prop
  | .pure value, post, before, s => post before (.ok value) s
  | .raise error, post, before, s => post before (.error error) s
  | .act call write next, post, before, s =>
      ∀ answer, adm call answer s →
        (next answer s).traced adm post (before ++ [⟨call, answer⟩]) (write answer s)

theorem traced_sound {p : Prog σ Q R ε α}
    {post : List (Event Q R) → Except ε α → σ → Prop} {before : List (Event Q R)}
    {s s' : σ} {trace : List (Event Q R)} {result : Except ε α}
    (h : p.traced adm post before s) (hrun : Runs adm p s trace result s') :
    post (before ++ trace) result s' := by
  induction hrun generalizing before with
  | pure value s =>
      rw [List.append_nil]
      exact h
  | raise error s =>
      rw [List.append_nil]
      exact h
  | act answer hadm _ ih =>
      have hrest := ih (h answer hadm)
      rwa [List.append_assoc, List.singleton_append] at hrest

theorem traced_of_runs {p : Prog σ Q R ε α}
    {post : List (Event Q R) → Except ε α → σ → Prop} {before : List (Event Q R)} {s : σ}
    (h : ∀ trace result s', Runs adm p s trace result s' →
      post (before ++ trace) result s') : p.traced adm post before s := by
  induction p generalizing before s with
  | pure value =>
      have hdone := h [] (.ok value) s (.pure value s)
      rwa [List.append_nil] at hdone
  | raise error =>
      have hdone := h [] (.error error) s (.raise error s)
      rwa [List.append_nil] at hdone
  | act call write next ih =>
      intro answer hadm
      apply ih
      intro trace result s' hrun
      have hdone := h _ result s' (.act answer hadm hrun)
      rwa [List.append_assoc, List.singleton_append]

theorem traced_mono {p : Prog σ Q R ε α}
    {post post' : List (Event Q R) → Except ε α → σ → Prop}
    {before : List (Event Q R)} {s : σ} (h : p.traced adm post before s)
    (himp : ∀ trace r s, post trace r s → post' trace r s) :
    p.traced adm post' before s := by
  induction p generalizing before s with
  | pure value => exact himp _ _ _ h
  | raise error => exact himp _ _ _ h
  | act call write next ih =>
      intro answer hadm
      exact ih answer s (h answer hadm)

/-- What a bind does after the calls of its first part. -/
def tracedThen (adm : (q : Q) → R q → σ → Prop) (k : α → Prog σ Q R ε β)
    (post : List (Event Q R) → Except ε β → σ → Prop) :
    List (Event Q R) → Except ε α → σ → Prop
  | before, .ok value, s => (k value).traced adm post before s
  | before, .error error, s => post before (.error error) s

@[simp] theorem tracedThen_ok (k : α → Prog σ Q R ε β)
    (post : List (Event Q R) → Except ε β → σ → Prop) (before : List (Event Q R))
    (value : α) (s : σ) : tracedThen adm k post before (.ok value) s =
      (k value).traced adm post before s := rfl

theorem traced_bind (p : Prog σ Q R ε α) (k : α → Prog σ Q R ε β)
    (post : List (Event Q R) → Except ε β → σ → Prop) (before : List (Event Q R))
    (s : σ) : (p.bind k).traced adm post before s ↔
      p.traced adm (tracedThen adm k post) before s := by
  induction p generalizing before s with
  | pure value => rfl
  | raise error => rfl
  | act call write next ih =>
      constructor
      · intro h answer hadm
        exact (ih answer s _ _).mp (h answer hadm)
      · intro h answer hadm
        exact (ih answer s _ _).mpr (h answer hadm)

/-- What an exception handler does after the calls of the guarded part. -/
def tracedElse (adm : (q : Q) → R q → σ → Prop) (k : ε → Prog σ Q R ε α)
    (post : List (Event Q R) → Except ε α → σ → Prop) :
    List (Event Q R) → Except ε α → σ → Prop
  | before, .ok value, s => post before (.ok value) s
  | before, .error error, s => (k error).traced adm post before s

theorem traced_handle (p : Prog σ Q R ε α) (k : ε → Prog σ Q R ε α)
    (post : List (Event Q R) → Except ε α → σ → Prop) (before : List (Event Q R))
    (s : σ) : (p.handle k).traced adm post before s ↔
      p.traced adm (tracedElse adm k post) before s := by
  induction p generalizing before s with
  | pure value => rfl
  | raise error => rfl
  | act call write next ih =>
      constructor
      · intro h answer hadm
        exact (ih answer s _ _).mp (h answer hadm)
      · intro h answer hadm
        exact (ih answer s _ _).mpr (h answer hadm)

/-- Every exception the program raises, whatever the answers were, satisfies `φ`. -/
def Raises (φ : ε → Prop) : Prog σ Q R ε α → Prop
  | .pure _ => True
  | .raise error => φ error
  | .act _ _ next => ∀ answer s, (next answer s).Raises φ

theorem Raises.bind {φ : ε → Prop} {p : Prog σ Q R ε α} {k : α → Prog σ Q R ε β}
    (hp : p.Raises φ) (hk : ∀ value, (k value).Raises φ) : (p.bind k).Raises φ := by
  induction p with
  | pure value => exact hk value
  | raise error => exact hp
  | act call write next ih => exact fun answer s => ih answer s (hp answer s)

theorem Raises.of_runs {φ : ε → Prop} {p : Prog σ Q R ε α} (hp : p.Raises φ) {s s' : σ}
    {trace : List (Event Q R)} {error : ε} (hrun : Runs adm p s trace (.error error) s') :
    φ error := by
  generalize hresult : (Except.error error : Except ε α) = result at hrun
  induction hrun with
  | pure value s => cases hresult
  | raise error' s =>
      cases hresult
      exact hp
  | act answer _ _ ih => exact ih (hp answer _) hresult

/-- Every action of the program satisfies `φ`, whatever the answers were. -/
def Uses (φ : (q : Q) → (R q → σ → σ) → Prop) : Prog σ Q R ε α → Prop
  | .pure _ => True
  | .raise _ => True
  | .act call write next => φ call write ∧ ∀ answer s, (next answer s).Uses φ

theorem Uses.bind {φ : (q : Q) → (R q → σ → σ) → Prop}
    {p : Prog σ Q R ε α} {k : α → Prog σ Q R ε β} (hp : p.Uses φ)
    (hk : ∀ value, (k value).Uses φ) : (p.bind k).Uses φ := by
  induction p with
  | pure value => exact hk value
  | raise error => trivial
  | act call write next ih =>
      exact ⟨hp.1, fun answer s => ih answer s (hp.2 answer s)⟩

theorem Uses.handle {φ : (q : Q) → (R q → σ → σ) → Prop}
    {p : Prog σ Q R ε α} {k : ε → Prog σ Q R ε α} (hp : p.Uses φ)
    (hk : ∀ error, (k error).Uses φ) : (p.handle k).Uses φ := by
  induction p with
  | pure value => trivial
  | raise error => exact hk error
  | act call write next ih =>
      exact ⟨hp.1, fun answer s => ih answer s (hp.2 answer s)⟩

theorem Uses.mono {φ ψ : (q : Q) → (R q → σ → σ) → Prop}
    {p : Prog σ Q R ε α} (hp : p.Uses φ) (h : ∀ q w, φ q w → ψ q w) :
    p.Uses ψ := by
  induction p with
  | pure value => trivial
  | raise error => trivial
  | act call write next ih =>
      exact ⟨h _ _ hp.1, fun answer s => ih answer s (hp.2 answer s)⟩

/-- A reflexive and transitive relation kept by every action of a program is
kept by its runs. -/
theorem Uses.run {φ : (q : Q) → (R q → σ → σ) → Prop} {rel : σ → σ → Prop}
    (hrefl : ∀ s, rel s s) (htrans : ∀ a b c, rel a b → rel b c → rel a c)
    (hstep : ∀ q w, φ q w → ∀ r s, rel s (w r s)) {p : Prog σ Q R ε α}
    (hp : p.Uses φ) {s s' : σ} {trace : List (Event Q R)}
    {result : Except ε α} (hrun : Runs adm p s trace result s') : rel s s' := by
  induction hrun with
  | pure value s => exact hrefl s
  | raise error s => exact hrefl s
  | act answer _ _ ih =>
      exact htrans _ _ _ (hstep _ _ hp.1 answer _) (ih (hp.2 answer _))

/-- Every action of the program keeps what `view` shows of the store. -/
def Keeps {β : Type} (view : σ → β) (p : Prog σ Q R ε α) : Prop :=
  p.Uses fun _ w => ∀ r s, view (w r s) = view s

theorem Keeps.bind {γ : Type} {view : σ → γ} {p : Prog σ Q R ε α}
    {k : α → Prog σ Q R ε β} (hp : p.Keeps view) (hk : ∀ value, (k value).Keeps view) :
    (p.bind k).Keeps view :=
  Uses.bind hp hk

theorem Keeps.run {γ : Type} {view : σ → γ} {p : Prog σ Q R ε α} (hp : p.Keeps view)
    {s s' : σ} {trace : List (Event Q R)} {result : Except ε α}
    (hrun : Runs adm p s trace result s') : view s' = view s := by
  induction hrun with
  | pure value s => rfl
  | raise error s => rfl
  | act answer _ _ ih =>
      exact (ih (hp.2 answer _)).trans (hp.1 answer _)

end Prog

end ControlPlane.Lib
