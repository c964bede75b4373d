import ControlPlane.Audit.ScopedVerification

/-!
When `record` gives up. A pass of its loop loses only against a commit that took the
number it had read, so each pass it loses is paid for by a commit of another writer that
came after its SELECT; the next pass reads a head behind that commit.
-/

namespace ControlPlane.AuditService

open Lib

section

variable [Deployment] {τ : Type}

/-- An action of thread `t`. -/
def actsAs [DecidableEq τ] (t : τ) : Entry τ Database Call Reply PyErr Empty Empty → Bool
  | .act u _ _ => u = t
  | .request _ _ _ => false

/-- The event of a commit was stored. -/
def appends (s : Database) : Event Call Reply → Bool
  | ⟨.commit tx, r⟩ => (tx.apply r s).isSome && (r : DbReply).failure.isNone
  | _ => false

/-- A successful commit of another thread than `t`. -/
def competes [DecidableEq τ] (t : τ) :
    Entry τ Database Call Reply PyErr Empty Empty → Bool
  | .act u s event => u ≠ t && appends s event
  | .request _ _ _ => false

theorem appends_of_run {tx : Transaction} {r : DbReply} {s : Database} :
    appends s ⟨.commit tx, r⟩ = true ↔ ∃ s', tx.run r s = .ok s' := by
  simp only [appends, Bool.and_eq_true, Option.isSome_iff_exists, Option.isNone_iff_eq_none,
    Transaction.run_eq_ok]
  constructor
  · rintro ⟨⟨s', happly⟩, hfailure⟩
    exact ⟨s', hfailure, happly⟩
  · rintro ⟨s', hfailure, happly⟩
    exact ⟨⟨s', happly⟩, hfailure⟩

/-- Where a call of `record` is that started on a chain of `base` events, which has `length`
now, and has taken `steps` actions: at a SELECT it has lost no more passes than events were
appended since it started, and before a commit no more than before its last SELECT. -/
inductive Attempt (e : NewEvent) (base length steps : Nat) : Session AuditEvent → Prop where
  | reading {attempts : Nat} (hlost : base + maxRecordAttempts ≤ attempts + length)
      (hsteps : steps + 2 * attempts = 2 * maxRecordAttempts) :
      Attempt e base length steps (recordFrom e attempts)
  | appending {attempts m : Nat} {row : AuditEvent} (hseq : row.seq = some (m : Int))
      (hnext : m ≤ length + 1) (hlost : base + maxRecordAttempts ≤ attempts + m)
      (hsteps : steps + 2 * attempts + 1 = 2 * maxRecordAttempts) :
      Attempt e base length steps (append row (recordFrom e attempts))

theorem Attempt.mono {e : NewEvent} {base length length' steps : Nat} {p : Session AuditEvent}
    (h : Attempt e base length steps p) (hle : length ≤ length') :
    Attempt e base length' steps p := by
  cases h with
  | reading hlost hsteps => exact .reading (by omega) hsteps
  | appending hseq hnext hlost hsteps => exact .appending hseq (by omega) hlost hsteps

/-- A call that has given up lost all its passes. -/
theorem Attempt.lost {e : NewEvent} {base length steps : Nat} {error : PyErr}
    (h : Attempt e base length steps (.raise error)) :
    base + maxRecordAttempts ≤ length := by
  generalize hp : (Prog.raise error : Session AuditEvent) = p at h
  cases h with
  | @reading attempts hlost hsteps =>
      cases attempts with
      | zero => omega
      | succ attempts => cases hp
  | appending hseq hnext hlost hsteps => cases hp

/-- Each pass that is lost takes two actions. -/
theorem Attempt.steps_le {e : NewEvent} {base length steps : Nat} {p : Session AuditEvent}
    (h : Attempt e base length steps p) : steps ≤ 2 * (length - base) + 1 := by
  cases h with
  | reading hlost hsteps => omega
  | appending hseq hnext hlost hsteps => omega

/-- What one action of the call does: it goes on, or its event is stored. -/
inductive Outcome (e : NewEvent) (base steps : Nat) (T : AuditTable) :
    AuditTable → Bool → Session AuditEvent → Prop where
  | lost {p : Session AuditEvent} (h : Attempt e base (chained T.rows).length (steps + 1) p) :
      Outcome e base steps T T false p
  | stored {T' : AuditTable} {row : AuditEvent}
      (hsteps : steps + 1 ≤ 2 * ((chained T.rows).length - base + 1))
      (hlength : (chained T'.rows).length = (chained T.rows).length + 1) :
      Outcome e base steps T T' true (.pure row)

theorem append_outcome {s : Database} {row : AuditEvent} {e : NewEvent}
    {base steps attempts m : Nat} (hintact : Intact s.auditEvents.rows)
    (hready : Ready s.auditEvents.rows row) (hseq : row.seq = some (m : Int))
    (hlost : base + maxRecordAttempts ≤ attempts + m)
    (hsteps : steps + 2 * attempts + 1 = 2 * maxRecordAttempts) {r : DbReply}
    (hanswer : contention (.commit (.insertAudit row)) r s) :
    Outcome e base steps s.auditEvents ((Transaction.insertAudit row).write r s).auditEvents
      (appends s ⟨.commit (.insertAudit row), r⟩)
      (afterCommit row (recordFrom e attempts) r s) := by
  obtain ⟨head, h⟩ := hintact
  obtain ⟨hfailure, hfresh⟩ := hanswer
  unfold afterCommit
  cases hrun : (Transaction.insertAudit row).run r s with
  | ok s' =>
      obtain ⟨_, happly⟩ := Transaction.run_eq_ok.mp hrun
      obtain ⟨T', hinsert, rfl⟩ := Option.map_eq_some_iff.mp happly
      obtain ⟨_, hchained⟩ := intact_insert ⟨head, h⟩ hready hinsert
      obtain ⟨n, hn, _, hle⟩ := hready.position
      rw [hseq, Option.some.injEq] at hn
      rw [Transaction.write_of_ok hrun, appends_of_run.mpr ⟨_, hrun⟩]
      exact .stored (by omega) (by simp [hchained])
  | error error =>
      -- The commit did not fail by itself and its id is new, so the number is taken.
      have hnone : s.auditEvents.insert (row.inserted r) = none := by
        cases hinsert : s.auditEvents.insert (row.inserted r) with
        | none => rfl
        | some T' =>
            have hok : (Transaction.insertAudit row).run r s =
                .ok { s with auditEvents := T' } :=
              Transaction.run_eq_ok.mpr ⟨hfailure, by simp [Transaction.apply, hinsert]⟩
            rw [hrun] at hok
            cases hok
      have htaken : (m : Int) ∈ s.auditEvents.rows.filterMap AuditEvent.seq := by
        by_contra hfree
        have haccepts : s.auditEvents.Accepts (row.inserted r) := by
          refine ⟨?_, fun u hu => ?_⟩
          · rintro hmem
            obtain ⟨other, hother, hid⟩ := List.mem_map.mp hmem
            exact hfresh other hother hid
          · obtain rfl : (m : Int) = u := Option.some.inj (hseq.symm.trans hu)
            exact hfree
        have hsome : s.auditEvents.insert (row.inserted r) = some _ := dif_pos haccepts
        rw [hnone] at hsome
        cases hsome
      have hle : (m : Int) ≤ (chained s.auditEvents.rows).length :=
        ((seq_mem_iff h).mp htaken).2
      have herror : error = .db .integrity r.message := by
        unfold Transaction.run at hrun
        rw [hfailure] at hrun
        simp [Transaction.apply, hnone] at hrun
        exact hrun.symm
      have hfailed : appends s ⟨.commit (.insertAudit row), r⟩ = false := by
        simp [appends, Transaction.apply, hnone]
      rw [Transaction.write_of_error hrun, hfailed, herror]
      exact .lost (.reading (by omega) (by omega))

theorem writer_append {rows : List AuditEvent} {row : AuditEvent} {retry : Session AuditEvent}
    (h : Writer rows (append row retry)) : Ready rows row := by
  generalize hp : append row retry = p at h
  cases h with
  | reading e attempts =>
      cases attempts with
      | zero => cases hp
      | succ attempts => cases hp
  | @appending row' hready e attempts =>
      obtain rfl : row = row' := by
        simp only [append, Prog.act.injEq, Call.commit.injEq,
          Transaction.insertAudit.injEq] at hp
        exact hp.1
      exact hready
  | returned h => cases hp
  | failed error => cases hp

theorem attempt_outcome {s : Database} {e : NewEvent} {base steps : Nat} {call : Call}
    {write : Reply call → Database → Database}
    {next : Reply call → Database → Session AuditEvent}
    (hintact : Intact s.auditEvents.rows)
    (hwriter : Writer s.auditEvents.rows (.act call write next))
    (h : Attempt e base (chained s.auditEvents.rows).length steps (.act call write next))
    {answer : Reply call} (hanswer : contention call answer s) :
    Outcome e base steps s.auditEvents (write answer s).auditEvents
      (appends s ⟨call, answer⟩) (next answer s) := by
  generalize hp : Prog.act call write next = p at h
  cases h with
  | @reading attempts hlost hsteps =>
      cases attempts with
      | zero => cases hp
      | succ attempts =>
          cases hp
          obtain ⟨hash, hlink⟩ := link_ok e (chainHead s.auditEvents.rows)
            (Reading.now answer)
          obtain ⟨head, h⟩ := hintact
          have hseq : nextSeq (chainHead s.auditEvents.rows) =
              ((chained s.auditEvents.rows).length + 1 : Nat) := (head_of_intact h).2
          dsimp only
          rw [hlink]
          exact .lost (.appending (congrArg some hseq) (Nat.le_refl _) (by omega) (by omega))
  | appending hseq hnext hlost hsteps =>
      have hready := writer_append (hp ▸ hwriter)
      cases hp
      exact append_outcome hintact hready hseq hlost hsteps hanswer

/-- The chain grows by the commits that are stored. -/
theorem writer_length {s : Database} {call : Call}
    {write : Reply call → Database → Database}
    {next : Reply call → Database → Session AuditEvent}
    (hintact : Intact s.auditEvents.rows)
    (h : Writer s.auditEvents.rows (.act call write next)) (answer : Reply call) :
    (chained (write answer s).auditEvents.rows).length =
      (chained s.auditEvents.rows).length + (appends s ⟨call, answer⟩).toNat := by
  generalize hp : Prog.act call write next = p at h
  cases h with
  | reading e attempts =>
      cases attempts with
      | zero => cases hp
      | succ attempts =>
          cases hp
          rfl
  | @appending row hready e attempts =>
      cases hp
      cases hrun : (Transaction.insertAudit row).run answer s with
      | ok s' =>
          obtain ⟨_, happly⟩ := Transaction.run_eq_ok.mp hrun
          obtain ⟨T', hinsert, rfl⟩ := Option.map_eq_some_iff.mp happly
          obtain ⟨_, hchained⟩ := intact_insert hintact hready hinsert
          rw [Transaction.write_of_ok hrun, appends_of_run.mpr ⟨_, hrun⟩]
          simp [hchained]
      | error error =>
          have hfailed : appends s ⟨.commit (.insertAudit row), answer⟩ = false := by
            rw [Bool.eq_false_iff]
            intro hok
            obtain ⟨s', hs'⟩ := appends_of_run.mp hok
            rw [hrun] at hs'
            cases hs'
          rw [Transaction.write_of_error hrun, hfailed]
          rfl
  | returned h => cases hp
  | failed error => cases hp

variable [DecidableEq τ]

/-- The call of `t` after the entries `more` of a history that started on a chain of `base`
events. -/
inductive Trial (e : NewEvent) (base : Nat) (t : τ)
    (P : Pool τ Database Call Reply PyErr AuditEvent Empty Empty)
    (more : List (Entry τ Database Call Reply PyErr Empty Empty)) : Prop where
  | running (h : Attempt e base (chained P.store.auditEvents.rows).length
        (more.countP (actsAs t)) (P.thread t))
      (hcount : (chained P.store.auditEvents.rows).length =
        base + more.countP (competes t)) : Trial e base t P more
  | returned {row : AuditEvent} (h : P.thread t = .pure row)
      (hsteps : more.countP (actsAs t) ≤ 2 * (more.countP (competes t) + 1)) :
      Trial e base t P more

theorem trial_step {e : NewEvent} {base : Nat} {t : τ}
    {P P' : Pool τ Database Call Reply PyErr AuditEvent Empty Empty}
    {more : List (Entry τ Database Call Reply PyErr Empty Empty)} (hwriters : Writers P)
    (h : Trial e base t P more) (hstep : (contended τ).Step P P') :
    ∃ entry, P'.history = P.history ++ [entry] ∧ Trial e base t P' (more ++ [entry]) := by
  cases hstep with
  | spawn hspawn => exact hspawn.elim
  | @request req => exact req.elim
  | @act u call write next answer hthread hanswer =>
      have hwriter := hwriters.writer u
      rw [hthread] at hwriter
      refine ⟨_, rfl, ?_⟩
      rcases eq_or_ne u t with rfl | hu
      · have hacts : (more ++ [Entry.act u P.store ⟨call, answer⟩]).countP (actsAs u) =
            more.countP (actsAs u) + 1 := by
          simp [List.countP_append, actsAs]
        have hcompetes : (more ++ [Entry.act u P.store ⟨call, answer⟩]).countP
            (competes u) = more.countP (competes u) := by
          simp [List.countP_append, competes]
        cases h with
        | returned h =>
            rw [hthread] at h
            cases h
        | running h hcount =>
            rw [hthread] at h
            have houtcome := attempt_outcome hwriters.intact hwriter h hanswer
            generalize next answer P.store = p at houtcome
            generalize hwrite : (write answer P.store).auditEvents = T at houtcome
            generalize appends P.store ⟨call, answer⟩ = stored at houtcome
            cases houtcome with
            | lost hattempt =>
                refine .running ?_ ?_
                · dsimp only
                  rw [hwrite, hacts, Function.update_self]
                  exact hattempt
                · dsimp only
                  rw [hwrite, hcompetes]
                  exact hcount
            | stored hsteps hlength =>
                refine .returned (Function.update_self _ _ _) ?_
                rw [hacts, hcompetes]
                omega
      · have hacts : (more ++ [Entry.act u P.store ⟨call, answer⟩]).countP (actsAs t) =
            more.countP (actsAs t) := by
          simp [List.countP_append, actsAs, hu]
        have hcompetes : (more ++ [Entry.act u P.store ⟨call, answer⟩]).countP
            (competes t) =
              more.countP (competes t) + (appends P.store ⟨call, answer⟩).toNat := by
          rw [List.countP_append, List.countP_singleton]
          simp only [competes, ne_eq, hu, not_false_eq_true, decide_true, Bool.true_and]
          cases appends P.store ⟨call, answer⟩ <;> rfl
        have hlength := writer_length hwriters.intact hwriter answer
        cases h with
        | returned h hsteps =>
            refine .returned ((Function.update_of_ne hu.symm _ _).trans h) ?_
            rw [hacts, hcompetes]
            omega
        | running h hcount =>
            refine .running ?_ ?_
            · dsimp only
              rw [hacts, Function.update_of_ne hu.symm]
              exact h.mono (by omega)
            · dsimp only
              rw [hlength, hcompetes, hcount, Nat.add_assoc]

theorem trial_reach {e : NewEvent} {t : τ}
    {P P' : Pool τ Database Call Reply PyErr AuditEvent Empty Empty} (hwriters : Writers P)
    (hstart : P.thread t = record e) (hreach : (contended τ).Reach P P') :
    ∃ more, P'.history = P.history ++ more ∧
      Trial e (chained P.store.auditEvents.rows).length t P' more := by
  induction hreach with
  | refl =>
      refine ⟨[], (List.append_nil _).symm, .running ?_ rfl⟩
      rw [hstart]
      exact .reading (by omega) (by simp)
  | step hreach hstep ih =>
      obtain ⟨more, hhistory, htrial⟩ := ih
      obtain ⟨entry, hentry, htrial'⟩ :=
        trial_step (writers_reach hwriters (reach_writers hreach)) htrial hstep
      refine ⟨more ++ [entry], ?_, htrial'⟩
      rw [hentry, hhistory, List.append_assoc]

/-- A call of `record` gives up only after fifty commits of other writers, and needs one pass
more than it loses to them: alone it succeeds at the first. Any number of writers take part, over
a table of legacy rows, and the call may start at any moment. -/
theorem record_gives_up_only_under_contention {events : τ → NewEvent} {start : Database}
    (hlegacy : ∀ row ∈ start.auditEvents.rows, row.seq = none ∧ row.eventHash = none)
    {P P' : Pool τ Database Call Reply PyErr AuditEvent Empty Empty}
    (hbefore : (contended τ).Reach (launch events start) P) {t : τ}
    (hstart : P.thread t = record (events t)) (hreach : (contended τ).Reach P P') :
    ∃ more, P'.history = P.history ++ more ∧
      (∀ error, P'.thread t = .raise error → maxRecordAttempts ≤ more.countP (competes t)) ∧
      more.countP (actsAs t) ≤ 2 * (more.countP (competes t) + 1) ∧
      (more.countP (competes t) = 0 → more.countP (actsAs t) = 2 →
        ∃ row ∈ chained P'.store.auditEvents.rows, P'.thread t = .pure row) := by
  have hwriters := writers_reach (writers_launch hlegacy) (reach_writers hbefore)
  obtain ⟨more, hhistory, htrial⟩ := trial_reach hwriters hstart hreach
  refine ⟨more, hhistory, ?_⟩
  cases htrial with
  | running h hcount =>
      have hsteps := h.steps_le
      refine ⟨fun error herror => ?_, by omega, fun hnone htwo => ?_⟩
      · rw [herror] at h
        have hlost := h.lost
        omega
      · omega
  | @returned row h hsteps =>
      refine ⟨fun error herror => ?_, hsteps, fun _ _ => ⟨row, ?_, h⟩⟩
      · rw [h] at herror
        cases herror
      · have hwriter := (writers_reach hwriters (reach_writers hreach)).writer t
        rw [h] at hwriter
        exact writer_pure hwriter

end

section Sample

local instance instContention : Deployment := .sqlite

/-- A lone writer returns after two actions. -/
theorem lone_writer_returns : ∃ P, (contended Unit).Reach (launch (fun _ => ownedEvent) {}) P ∧
    P.history.countP (competes ()) = 0 ∧ P.history.countP (actsAs ()) = 2 := by
  obtain ⟨hash, hlink⟩ := link_ok ownedEvent none sampleCreated.createdAt.moment
  obtain ⟨P₁, hreach₁, hstore₁, hthread₁, _, hhistory₁⟩ :=
    reach_read (P := launch (fun _ => ownedEvent) {}) (t := ()) rfl hlink
  obtain ⟨P₂, hreach₂, _, _, _, _, hhistory₂⟩ := reach_append (r := sampleReply "e1") hthread₁ rfl
    (by rw [hstore₁]; simp [launch, Table.Accepts, Table.empty])
  refine ⟨P₂, hreach₁.trans hreach₂, ?_, ?_⟩
  · rw [hhistory₂, hhistory₁]
    rfl
  · rw [hhistory₂, hhistory₁]
    rfl

/-- One of two writers reads, the other one records, and the first loses its pass and wins the
next. -/
theorem overtaken_writer_returns : ∃ P row,
    (contended Bool).Reach (launch (fun _ => ownedEvent) {}) P ∧ P.thread true = .pure row ∧
    P.history.countP (competes true) = 1 ∧ P.history.countP (actsAs true) = 4 := by
  obtain ⟨hash, hlink⟩ := link_ok ownedEvent none sampleCreated.createdAt.moment
  obtain ⟨P₁, hreach₁, hstore₁, hthread₁, hothers₁, hhistory₁⟩ :=
    reach_read (P := launch (fun _ => ownedEvent) {}) (t := true) rfl hlink
  obtain ⟨P₂, hreach₂, hstore₂, hthread₂, hothers₂, hhistory₂⟩ :=
    reach_read (P := P₁) (t := false) (hothers₁ false (by decide)) (by rw [hstore₁]; exact hlink)
  have hrows₂ : P₂.store.auditEvents.rows = [] := by
    rw [hstore₂, hstore₁]
    rfl
  obtain ⟨P₃, hreach₃, hrows₃, _, hothers₃, hstored₃, hhistory₃⟩ :=
    reach_append (r := sampleReply "e1") hthread₂ rfl (by simp [Table.Accepts, hrows₂])
  rw [hrows₂, List.nil_append] at hrows₃
  have hthread₃ := (hothers₃ true (by decide)).trans ((hothers₂ true (by decide)).trans hthread₁)
  obtain ⟨P₄, hreach₄, hstore₄, hthread₄, _, hhistory₄⟩ :=
    reach_lost (r := sampleReply "e2") hthread₃ rfl
      (by rw [hrows₃]; simp [sampleReply, AuditEvent.inserted])
      (fun haccepts => haccepts.2 1 rfl (by rw [hrows₃]; exact .head _))
  have hreach := (hreach₁.trans hreach₂).trans (hreach₃.trans hreach₄)
  have hintact :=
    (writers_reach (writers_launch (by simp [Table.empty])) (reach_writers hreach)).intact
  obtain ⟨hash', hlink'⟩ := link_ok ownedEvent (chainHead P₄.store.auditEvents.rows)
    sampleCreated.createdAt.moment
  obtain ⟨P₅, hreach₅, hstore₅, hthread₅, _, hhistory₅⟩ := reach_read hthread₄ hlink'
  obtain ⟨P₆, hreach₆, _, hthread₆, _, _, hhistory₆⟩ :=
    reach_append (r := sampleReply "e2") hthread₅ rfl (by
      rw [hstore₅]
      refine accepts_next hintact ?_
      rw [hstore₄, hrows₃]
      simp [sampleReply, AuditEvent.inserted])
  refine ⟨P₆, _, (hreach.trans hreach₅).trans hreach₆, hthread₆, ?_, ?_⟩
  · have happends := appends_of_run.mpr hstored₃
    rw [hhistory₆, hhistory₅, hhistory₄, hhistory₃, hhistory₂, hhistory₁]
    simp only [List.countP_append, List.countP_singleton, competes, happends]
    rfl
  · rw [hhistory₆, hhistory₅, hhistory₄, hhistory₃, hhistory₂, hhistory₁]
    rfl

/-- Alone the event is stored by the first commit. A writer that loses one pass to another one
has its event stored by the second, and has made as many actions as the bound allows. -/
theorem writers_succeed :
    (∃ P, (contended Unit).Reach (launch (fun _ => ownedEvent) {}) P ∧
      P.history.countP (competes ()) = 0 ∧ P.history.countP (actsAs ()) = 2 ∧
      ∃ row ∈ chained P.store.auditEvents.rows, P.thread () = .pure row) ∧
    ∃ P row, (contended Bool).Reach (launch (fun _ => ownedEvent) {}) P ∧
      P.thread true = .pure row ∧ P.history.countP (competes true) = 1 ∧
      P.history.countP (actsAs true) = 4 ∧
      P.history.countP (actsAs true) ≤ 2 * (P.history.countP (competes true) + 1) := by
  constructor
  · obtain ⟨P, hreach, hnone, htwo⟩ := lone_writer_returns
    obtain ⟨more, hhistory, _, _, hreturns⟩ :=
      record_gives_up_only_under_contention (by simp [Table.empty]) .refl rfl hreach
    obtain rfl : P.history = more := hhistory
    exact ⟨P, hreach, hnone, htwo, hreturns hnone htwo⟩
  · obtain ⟨P, row, hreach, hreturned, hone, hfour⟩ := overtaken_writer_returns
    obtain ⟨more, hhistory, _, hbound, _⟩ :=
      record_gives_up_only_under_contention (by simp [Table.empty]) .refl (t := true) rfl hreach
    obtain rfl : P.history = more := hhistory
    exact ⟨P, row, hreach, hreturned, hone, hfour, hbound⟩

end Sample

end ControlPlane.AuditService
