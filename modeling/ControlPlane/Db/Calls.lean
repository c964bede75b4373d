import ControlPlane.Db.Session
import ControlPlane.Lib.Threads

/-!
The calls a session program can make, whatever it is answered. `Calls C p` says
that every call of `p` satisfies `C` and changes the store only as the call
says. The rules follow the constructs of a program, and the rules for weakest
preconditions at the end are those of its actions.
-/

namespace ControlPlane

open Lib

section

variable [Deployment] {α β : Type} {C C' : Call → Prop}

def Calls (C : Call → Prop) (p : Session α) : Prop :=
  p.Uses fun q w => w = q.write ∧ C q

theorem Calls.mono {p : Session α} (h : Calls C p) (himp : ∀ q, C q → C' q) :
    Calls C' p :=
  Prog.Uses.mono h fun q _ hq => ⟨hq.1, himp q hq.2⟩

theorem calls_pure (value : α) : Calls C (pure value : Session α) := trivial

theorem calls_throw (error : PyErr) : Calls C (throw error : Session α) := trivial

theorem calls_act {call : Call} {next : Reply call → Database → Session α}
    (h : C call) (hnext : ∀ r s, Calls C (next r s)) :
    Calls C (.act call call.write next) :=
  ⟨⟨rfl, h⟩, hnext⟩

theorem Calls.bind {p : Session α} {k : α → Session β} (hp : Calls C p)
    (hk : ∀ value, Calls C (k value)) : Calls C (p >>= k) :=
  Prog.Uses.bind hp hk

theorem Calls.handle {p : Session α} {k : PyErr → Session α} (hp : Calls C p)
    (hk : ∀ error, Calls C (k error)) : Calls C (tryCatch p k) :=
  Prog.Uses.handle hp hk

theorem calls_select {query : Query} {read : Reading → Database → α}
    (h : C (.select query)) : Calls C (select query read) :=
  ⟨⟨rfl, h⟩, fun _ _ => trivial⟩

/-- After a SELECT the program goes on with the rows of some store. -/
theorem calls_select_bind {query : Query} {read : Reading → Database → α}
    {k : α → Session β} (h : C (.select query))
    (hk : ∀ r s, Calls C (k (read r s))) : Calls C (select query read >>= k) :=
  ⟨⟨rfl, h⟩, hk⟩

theorem calls_commit {tx : Transaction} (h : C (.commit tx)) :
    Calls C (commit tx) := by
  refine ⟨⟨rfl, h⟩, ?_⟩
  intro r s
  dsimp only
  cases tx.run r s <;> trivial

theorem calls_answered (result : Except PyErr α) : Calls C (answered result) := by
  cases result <;> trivial

theorem Calls.bind_answered {result : Except PyErr α} {k : α → Session β}
    (hk : ∀ value, result = .ok value → Calls C (k value)) :
    Calls C ((answered result).bind k) := by
  cases result with
  | ok value => exact hk value rfl
  | error error => exact calls_throw error

theorem calls_createDraft {threadId subject body : String}
    (h : C (.createDraft threadId subject body)) :
    Calls C (createDraft threadId subject body) :=
  ⟨⟨rfl, h⟩, fun _ _ => calls_answered _⟩

theorem calls_readThread {threadId : String} (h : C (.readThread threadId)) :
    Calls C (readThread threadId) :=
  ⟨⟨rfl, h⟩, fun _ _ => calls_answered _⟩

theorem calls_sendApprovedDraft {approvalId : String} {draftId : Json}
    (h : C (.sendApprovedDraft approvalId draftId)) :
    Calls C (sendApprovedDraft approvalId draftId) :=
  ⟨⟨rfl, h⟩, fun _ _ => calls_answered _⟩

/-- The programs of a system keep `C` in every thread, also after restarts. -/
theorem calls_thread {τ ρ κ : Type} [DecidableEq τ]
    {S : System τ Database Call Reply PyErr α ρ κ}
    {P P' : Pool τ Database Call Reply PyErr α ρ κ}
    (hspawn : ∀ t p, S.spawn t p → Calls C p) (hinit : ∀ t, Calls C (P.thread t))
    (hreach : S.Reach P P') (t : τ) : Calls C (P'.thread t) := by
  induction hreach generalizing t with
  | refl => exact hinit t
  | step _ hstep ih =>
      cases hstep with
      | @act u call write next answer hthread _ =>
          rcases eq_or_ne t u with rfl | htu
          · have hcalls := ih t
            rw [hthread] at hcalls
            simp only [Function.update_self]
            exact hcalls.2 answer _
          · simpa only [Function.update_of_ne htu] using ih t
      | @spawn u p hp =>
          rcases eq_or_ne t u with rfl | htu
          · simpa only [Function.update_self] using hspawn t p hp
          · simpa only [Function.update_of_ne htu] using ih t
      | request _ => exact ih t

end

section

variable {τ ρ κ α γ δ : Type}
  {L : Logic τ Database Call Reply PyErr α ρ κ γ}
  {S : System τ Database Call Reply PyErr α ρ κ} {t : τ} {c : γ}

theorem safe_select {query : Query} {read : Reading → Database → δ}
    {post : Except PyErr δ → γ → Prop}
    (h : ∀ h s (r : Reading), S.adm (.select query) r s → L.inv h s →
      L.holds t c h s → ∃ c', L.Moves t c h s (.act t s ⟨.select query, r⟩) s c' ∧
        post (.ok (read r s)) c') : L.Safe S t (select query read) post c := h

variable [Deployment]

/-- A commit that goes through may change the claim; one that raises may too,
but the store is as before. -/
theorem safe_commit {tx : Transaction} {post : Except PyErr DbReply → γ → Prop}
    (hok : ∀ h s s' (r : DbReply), S.adm (.commit tx) r s → L.inv h s →
      L.holds t c h s → tx.run r s = .ok s' →
      ∃ c', L.Moves t c h s (.act t s ⟨.commit tx, r⟩) s' c' ∧ post (.ok r) c')
    (herror : ∀ h s e (r : DbReply), S.adm (.commit tx) r s → L.inv h s →
      L.holds t c h s → tx.run r s = .error e →
      ∃ c', L.Moves t c h s (.act t s ⟨.commit tx, r⟩) s c' ∧ post (.error e) c') :
    L.Safe S t (commit tx) post c := by
  intro h s r hadm hinv hc
  dsimp only
  cases hrun : tx.run r s with
  | ok s' =>
      rw [Transaction.write_of_ok hrun]
      exact hok h s s' r hadm hinv hc hrun
  | error e =>
      rw [Transaction.write_of_error hrun]
      exact herror h s e r hadm hinv hc hrun

/-- A program of the calls `C` keeps its claim when each of them does. -/
theorem safe_of_calls {C : Call → Prop} {p : Session δ}
    {post : Except PyErr δ → γ → Prop} (hp : Calls C p)
    (hsteady : ∀ q, C q → L.Steady S t c q q.write) (hpost : ∀ r, post r c) :
    L.Safe S t p post c := by
  refine Logic.Safe.of_uses (Prog.Uses.mono hp ?_) hpost
  rintro q w ⟨rfl, hq⟩
  exact hsteady q hq

end

section

variable {α : Type} {adm : (q : Call) → Reply q → Database → Prop}

end

end ControlPlane
