import ControlPlane.Lib.Numbering
import ControlPlane.Policies.Registry
import ControlPlane.Services.TrustScoreService

/-!
The latest stored score of a scope. Versions are numbered in what the caller of the
computation sees, and read in what the reader sees: a caller with a tenant numbers after
its own rows, the operator reads the rows of everybody.
-/

namespace ControlPlane

open Lib

namespace TrustScoreService

/-- What `stored_to_dict` returns; the maximum and the disclaimer are constant. -/
structure ScoreView where
  scoreId : String
  tenantId : Option String
  scopeType : String
  scopeId : String
  version : Int
  score : Int
  scoreBand : String
  breakdown : Json
  createdAt : String

def storedToDict (row : TrustScore) : ScoreView where
  scoreId := row.id
  tenantId := row.tenantId
  scopeType := row.scopeType
  scopeId := row.scopeId
  version := row.version
  score := row.score
  scoreBand := row.scoreBand
  breakdown := row.scoreBreakdown.getD (.arr [])
  createdAt := row.createdAt.isoformat

/-- `latest_result`: the query orders by descending version and takes the first row. The
order of rows with equal versions is the database's. -/
inductive LatestResult (g : Governance) (scopeType scopeId : String)
    (tenantId : Option String) : Option ScoreView → Prop
  | missing (h : scopeScores scopeType scopeId tenantId g = []) :
      LatestResult g scopeType scopeId tenantId none
  | found {row : TrustScore}
      (h : Highest TrustScore.version (scopeScores scopeType scopeId tenantId g) row) :
      LatestResult g scopeType scopeId tenantId (some (storedToDict row))

/-- The stored row shows what the computation returned. -/
structure Shows (view : ScoreView) (scored : Scored) : Prop where
  scoreId : scored.scoreId = some view.scoreId
  tenantId : scored.tenantId = view.tenantId
  scopeType : scored.scopeType = view.scopeType
  scopeId : scored.scopeId = view.scopeId
  version : scored.version = some view.version
  score : scored.result.score = view.score
  scoreBand : scored.result.scoreBand = view.scoreBand
  breakdown : Json.arr (scored.result.breakdown.map Dimension.toDict) = view.breakdown

/-- A computation that stores its score, with the scope of its caller. -/
inductive ScoreCall where
  | action (governedActionId : String) (tenantId : Option String)
  | workflow (workflowId : String) (tenantId : Option String)
  | tenant (tenantId : String)
  deriving DecidableEq, Repr

namespace ScoreCall

def caller : ScoreCall → Option String
  | .action _ tenantId => tenantId
  | .workflow _ tenantId => tenantId
  | .tenant tenantId => some tenantId

def scopeType : ScoreCall → String
  | .action _ _ => "governed_action"
  | .workflow _ _ => "workflow"
  | .tenant _ => "tenant"

def scopeId : ScoreCall → String
  | .action governedActionId _ => governedActionId
  | .workflow workflowId _ => workflowId
  | .tenant tenantId => tenantId

variable [Deployment]

def run (settings : Settings) : ScoreCall → StoreSession (Option Scored)
  | .action governedActionId tenantId => scoreAction settings governedActionId tenantId true
  | .workflow workflowId tenantId => scoreWorkflow settings workflowId tenantId true
  | .tenant tenantId => do
      let scored ← scoreTenant settings tenantId true
      return some scored

end ScoreCall

/-- A computation that went through, with the store it ran on. -/
structure Computation where
  call : ScoreCall
  before : Store
  scored : Scored

/-- Computations one after the other, from an empty table. Whatever happens between them
leaves the table of scores alone. -/
inductive ScoreHistory [Deployment] (settings : Settings) : List Computation → Store → Prop
  | start {S : Store} (h : S.governance.scores.rows = []) : ScoreHistory settings [] S
  | computed {log : List Computation} {S S' : Store} {call : ScoreCall} {scored : Scored}
      {trace : List StoreEvent} (h : ScoreHistory settings log S)
      (hrun : Prog.Runs anyAnswer (call.run settings) S trace (.ok (some scored)) S') :
      ScoreHistory settings (log ++ [⟨call, S, scored⟩]) S'
  | between {log : List Computation} {S S' : Store} (h : ScoreHistory settings log S)
      (hsame : S'.governance.scores = S.governance.scores) : ScoreHistory settings log S'

/-- The last computation of a scope that the reader may see. -/
def lastComputed (log : List Computation) (scopeType scopeId : String)
    (tenantId : Option String) : Option Computation :=
  (log.filter fun c => c.scored.scopeType = scopeType && c.scored.scopeId = scopeId &&
    inScope tenantId c.scored.tenantId).getLast?

/-- Every reader gets the last computation of every scope, or nothing if there is none. -/
def LatestIsLast (log : List Computation) (g : Governance) : Prop :=
  ∀ scopeType scopeId tenantId view, LatestResult g scopeType scopeId tenantId view →
    match lastComputed log scopeType scopeId tenantId with
    | none => view = none
    | some c => ∃ shown, view = some shown ∧ Shows shown c.scored

/-- The version that the caller's own rows give is above every row of the scope. -/
def Computation.Clear (c : Computation) : Prop :=
  ∀ row ∈ scopeScores c.call.scopeType c.call.scopeId none c.before.governance,
    row.version < nextVersion
      (scopeScores c.call.scopeType c.call.scopeId c.call.caller c.before.governance)

/-- What a computation stores. -/
structure Stores (call : ScoreCall) (scored : Scored) (S S' : Store) (row : TrustScore) :
    Prop where
  rows : S'.governance.scores.rows = S.governance.scores.rows ++ [row]
  scopeType : row.scopeType = call.scopeType
  scopeId : row.scopeId = call.scopeId
  tenantId : row.tenantId = call.caller
  version : row.version =
    nextVersion (scopeScores call.scopeType call.scopeId call.caller S.governance)
  shows : Shows (storedToDict row) scored

section

variable [Deployment] {settings : Settings} {S S' : Store} {trace : List StoreEvent}

theorem stores_scoreScope (call : ScoreCall) {packet : EvidencePackets.Packet} {scored : Scored}
    (h : Prog.Runs anyAnswer
      (scoreScope settings call.caller call.scopeType call.scopeId true packet) S trace
      (.ok scored) S') : ∃ row, Stores call scored S S' row := by
  unfold scoreScope persist at h
  generalize scorePacket packet settings.appEnv = result at h
  simp only [if_true, Prog.bind_eq, Prog.bind_assoc, Prog.pure_eq] at h
  obtain ⟨rest, rfl, hcommit⟩ := runs_peek_bind h
  obtain ⟨r, rest', rfl, ⟨hfail, g, happly, hrest⟩ | ⟨_, _, ⟨e, he⟩, _⟩⟩ :=
    runs_commitChange_bind hcommit
  · obtain ⟨rest'', rfl, hread⟩ := runs_peek_bind hrest
    obtain ⟨table, hinsert, rfl⟩ := Option.map_eq_some_iff.mp happly
    rcases Prog.runs_bind hread with ⟨row, S₁, _, _, hfound, hdone, rfl⟩ | ⟨e, _, he⟩
    · obtain ⟨rfl, rfl, hvalue⟩ := runs_foundAgain hfound
      obtain ⟨_, hscored, rfl⟩ := Prog.runs_pure hdone
      have hrow := hvalue row rfl
      have hself := Table.find?_insert_self hinsert
      have hsame : some _ = some row := hself.symm.trans hrow
      cases hsame
      cases hscored
      exact ⟨_, Table.rows_insert hinsert, rfl, rfl, rfl, rfl,
        ⟨rfl, rfl, rfl, rfl, rfl, rfl, rfl, rfl⟩⟩
    · cases he
  · cases he

/-- A packet is built from the store, and scored if there is one. -/
theorem stores_built (call : ScoreCall) {scored : Scored}
    {built : Store → Moment → Except PyErr (Option EvidencePackets.Packet)}
    (h : Prog.Runs anyAnswer (readClock.bind fun now => (peek fun S => built S now).bind
      fun result => (outcome result).bind fun packet? => match packet? with
        | none => .pure none
        | some packet =>
            (scoreScope settings call.caller call.scopeType call.scopeId true packet).bind
              fun scored => .pure (some scored)) S trace (.ok (some scored)) S') :
    ∃ row, Stores call scored S S' row := by
  obtain ⟨now, rest, rfl, hbuild⟩ := runs_readClock_bind h
  obtain ⟨rest', rfl, hbuilt⟩ := runs_peek_bind hbuild
  rcases Prog.runs_bind hbuilt with ⟨packet?, S₁, _, _, houtcome, hscore, rfl⟩ | ⟨e, _, he⟩
  · obtain ⟨rfl, _, rfl⟩ := runs_outcome houtcome
    cases packet? with
    | none => cases (Prog.runs_pure hscore).2.1
    | some packet =>
        rcases Prog.runs_bind hscore with ⟨value, S₂, _, _, hscored, hdone, rfl⟩ | ⟨e, _, he⟩
        · obtain ⟨_, hvalue, rfl⟩ := Prog.runs_pure hdone
          cases hvalue
          exact stores_scoreScope call hscored
        · cases he
  · cases he

theorem stores_call {call : ScoreCall} {scored : Scored}
    (h : Prog.Runs anyAnswer (call.run settings) S trace (.ok (some scored)) S') :
    ∃ row, Stores call scored S S' row := by
  cases call with
  | action governedActionId tenantId =>
      exact stores_built (.action governedActionId tenantId) h
  | workflow workflowId tenantId =>
      exact stores_built (.workflow workflowId tenantId) h
  | tenant tenantId =>
      unfold ScoreCall.run scoreTenant at h
      simp only [Prog.bind_eq, Prog.bind_assoc, Prog.pure_eq] at h
      obtain ⟨now, rest, rfl, hbuild⟩ := runs_readClock_bind h
      obtain ⟨rest', rfl, hbuilt⟩ := runs_peek_bind hbuild
      rcases Prog.runs_bind hbuilt with ⟨packet, S₁, _, _, houtcome, hscore, rfl⟩ | ⟨e, _, he⟩
      · obtain ⟨rfl, _, rfl⟩ := runs_outcome houtcome
        rcases Prog.runs_bind hscore with ⟨value, S₂, _, _, hscored, hdone, rfl⟩ | ⟨e, _, he⟩
        · obtain ⟨_, hvalue, rfl⟩ := Prog.runs_pure hdone
          cases hvalue
          exact stores_scoreScope (.tenant tenantId) hscored
        · cases he
      · cases he

/-- The rows of the table are those of the computations, in order. -/
inductive Logged : List Computation → List TrustScore → Prop
  | nil : Logged [] []
  | snoc {log : List Computation} {rows : List TrustScore} {c : Computation} {S' : Store}
      {row : TrustScore} (h : Logged log rows)
      (hbefore : c.before.governance.scores.rows = rows)
      (hstores : Stores c.call c.scored c.before S' row) :
      Logged (log ++ [c]) (rows ++ [row])

theorem ScoreHistory.logged {log : List Computation} (h : ScoreHistory settings log S) :
    Logged log S.governance.scores.rows := by
  induction h with
  | start hnone =>
      rw [hnone]
      exact .nil
  | computed _ hrun ih =>
      obtain ⟨row, hrow⟩ := stores_call hrun
      rw [hrow.rows]
      exact ih.snoc rfl hrow
  | between _ hsame ih =>
      rw [hsame]
      exact ih

def visible (scopeType scopeId : String) (tenantId : Option String) (rows : List TrustScore) :
    List TrustScore :=
  rows.filter fun p =>
    p.scopeType = scopeType && p.scopeId = scopeId && inScope tenantId p.tenantId

omit [Deployment] in
/-- Either the reader sees no row and no computation, or the last row it sees is that of
the last computation, after the rows it saw before. -/
theorem Logged.last {log : List Computation} {rows : List TrustScore} (h : Logged log rows)
    (scopeType scopeId : String) (tenantId : Option String) :
    (lastComputed log scopeType scopeId tenantId = none ∧
      visible scopeType scopeId tenantId rows = []) ∨
    ∃ c S' row, lastComputed log scopeType scopeId tenantId = some c ∧
      Stores c.call c.scored c.before S' row ∧
      c.call.scopeType = scopeType ∧ c.call.scopeId = scopeId ∧
      inScope tenantId c.call.caller = true ∧
      visible scopeType scopeId tenantId rows =
        scopeScores scopeType scopeId tenantId c.before.governance ++ [row] := by
  induction h with
  | nil => exact Or.inl ⟨rfl, rfl⟩
  | @snoc log rows c S' row _ hbefore hstores ih =>
      have hshows := hstores.shows
      have hkey : (c.scored.scopeType = scopeType && c.scored.scopeId = scopeId &&
          inScope tenantId c.scored.tenantId) = (row.scopeType = scopeType &&
          row.scopeId = scopeId && inScope tenantId row.tenantId) := by
        rw [hshows.scopeType, hshows.scopeId, hshows.tenantId]
        rfl
      unfold lastComputed visible at ih ⊢
      rw [List.filter_append, List.filter_append, List.filter_singleton,
        List.filter_singleton, hkey]
      cases hseen : (row.scopeType = scopeType && row.scopeId = scopeId &&
          inScope tenantId row.tenantId : Bool) with
      | false => simpa [hseen] using ih
      | true =>
          simp only [Bool.and_eq_true, decide_eq_true_eq] at hseen
          refine Or.inr ⟨c, S', row, by simp, hstores, ?_, ?_, ?_, ?_⟩
          · rw [← hstores.scopeType, hseen.1.1]
          · rw [← hstores.scopeId, hseen.1.2]
          · rw [← hstores.tenantId, hseen.2]
          · rw [scopeScores, hbefore]
            simp

omit [Deployment] in
theorem visible_nodup (g : Governance) (scopeType scopeId : String)
    (tenantId : Option String) : (scopeScores scopeType scopeId tenantId g).Nodup :=
  (List.Nodup.of_map _ g.scores.key_nodup).filter _

omit [Deployment] in
/-- For one reader and one scope: what it gets is the last computation exactly if no row
it saw before has a version as high. -/
theorem shows_last_iff {g : Governance} {scopeType scopeId : String} {tenantId : Option String}
    {scored : Scored} {old : List TrustScore} {row : TrustScore}
    (hrows : scopeScores scopeType scopeId tenantId g = old ++ [row])
    (hshows : Shows (storedToDict row) scored) :
    (∀ view, LatestResult g scopeType scopeId tenantId view →
      ∃ shown, view = some shown ∧ Shows shown scored) ↔
    ∀ other ∈ old, other.version < row.version := by
  have hnodup := visible_nodup g scopeType scopeId tenantId
  have hmem : ∀ r ∈ old ++ [row], r ∈ g.scores.rows := by
    intro r hr
    rw [← hrows] at hr
    exact List.mem_of_mem_filter hr
  rw [hrows] at hnodup
  rw [← highest_last_iff hnodup]
  constructor
  · intro h r hr
    rw [← hrows] at hr
    obtain ⟨shown, hview, hshown⟩ := h _ (.found hr)
    cases hview
    have hid : some r.id = some row.id := hshown.scoreId.symm.trans hshows.scoreId
    rw [hrows] at hr
    exact List.inj_on_of_nodup_map g.scores.key_nodup (hmem r hr.1)
      (hmem row (by simp)) (Option.some.inj hid)
  · intro h view hview
    cases hview with
    | missing hnone =>
        rw [hrows] at hnone
        simp at hnone
    | found hr =>
        rw [hrows] at hr
        rw [h _ hr]
        exact ⟨_, rfl, hshows⟩

/-- The latest stored score is the last computed one, for every reader and every scope,
exactly if the last computation of each scope got a version above all rows of the scope. The
history is any sequence of computations from an empty table, with anything in between that
leaves the scores alone. -/
theorem latest_is_last_iff_clear {log : List Computation} (h : ScoreHistory settings log S) :
    LatestIsLast log S.governance ↔ ∀ scopeType scopeId c,
      lastComputed log scopeType scopeId none = some c → c.Clear := by
  have hlogged := h.logged
  constructor
  · intro hlast scopeType scopeId c hc
    have hreader := hlast scopeType scopeId none
    rcases hlogged.last scopeType scopeId none with ⟨hnone, _⟩ |
        ⟨c', S', row, hc', hstores, rfl, rfl, _, hrows⟩
    · rw [hnone] at hc
      cases hc
    · rw [hc] at hc'
      cases hc'
      rw [hc] at hreader
      unfold Computation.Clear
      rw [← hstores.version]
      exact (shows_last_iff hrows hstores.shows).mp hreader
  · intro hclear scopeType scopeId tenantId view hview
    rcases hlogged.last scopeType scopeId tenantId with ⟨hnone, hempty⟩ |
        ⟨c, S', row, hc, hstores, hscopeType, hscopeId, hcaller, hrows⟩
    · rw [hnone]
      cases hview with
      | missing _ => rfl
      | found hr =>
          have hmem := hr.1
          unfold visible at hempty
          rw [scopeScores, hempty] at hmem
          cases hmem
    · rw [hc]
      dsimp only
      refine (shows_last_iff hrows hstores.shows).mpr ?_ view hview
      rw [hstores.version]
      cases tenantId with
      | none =>
          have hoperator := hclear scopeType scopeId c hc
          unfold Computation.Clear at hoperator
          rw [hscopeType, hscopeId] at hoperator ⊢
          exact hoperator
      | some t =>
          have hown : c.call.caller = some t := by simpa [inScope] using hcaller
          rw [hscopeType, hscopeId, hown]
          intro other hother
          exact lt_nextNumber (List.mem_map_of_mem hother)

end

section Sample

local instance instScoresDeployment : Deployment := .sqlite

/-- The computations one after the other, as long as each of them goes through. -/
def computeAll (settings : Settings) : List ScoreCall → List Computation → Store →
    Option (List Computation × Store)
  | [], log, S => some (log, S)
  | call :: rest, log, S =>
      match ((call.run settings).exec PolicyVersionService.steadyAnswers (10 * log.length) S).2 with
      | (.ok (some scored), S') => computeAll settings rest (log ++ [⟨call, S, scored⟩]) S'
      | _ => none

theorem history_computeAll {settings : Settings} {calls : List ScoreCall}
    {log log' : List Computation} {S S' : Store} (h : ScoreHistory settings log S)
    (hrun : computeAll settings calls log S = some (log', S')) :
    ScoreHistory settings log' S' := by
  induction calls generalizing log S with
  | nil =>
      cases hrun
      exact h
  | cons call rest ih =>
      unfold computeAll at hrun
      split at hrun
      next scored S₁ hexec =>
          have hany : ∀ n q S, anyAnswer q (PolicyVersionService.steadyAnswers n q) S :=
            fun _ _ _ => trivial
          have hcall := Prog.runs_exec hany (call.run settings) (10 * log.length) S
          rw [hexec] at hcall
          exact ih (h.computed hcall) hrun
      next => cases hrun

def reviewWorkflow : Workflow where
  id := "w1"
  tenantId := some "acme"
  aiSystemId := none
  name := "vendor review"
  description := none
  createdAt := unset

def workflowStore : Store where
  governance := { workflows := Table.single reviewWorkflow }

theorem workflowStore_history : ScoreHistory {} [] workflowStore := .start rfl

/-- Twice for the operator between two computations for the tenant. -/
def shadowingCalls : List ScoreCall :=
  [.workflow "w1" (some "acme"), .workflow "w1" none, .workflow "w1" none,
    .workflow "w1" (some "acme")]

/-- The tenant and the operator by turns; the operator is the last. -/
def alternatingCalls : List ScoreCall :=
  [.workflow "w1" (some "acme"), .workflow "w1" none, .workflow "w1" (some "acme"),
    .workflow "w1" none]

theorem getLast?_of_lastComputed {log : List Computation} {scopeType scopeId : String}
    {c : Computation}
    (hscope : ∀ c ∈ log, c.scored.scopeType = "workflow" ∧ c.scored.scopeId = "w1")
    (hlast : lastComputed log scopeType scopeId none = some c) : log.getLast? = some c := by
  obtain ⟨hmem, hfound⟩ := List.mem_filter.mp (List.mem_of_getLast? hlast)
  have hall : ∀ c' ∈ log, (c'.scored.scopeType = scopeType && c'.scored.scopeId = scopeId &&
      inScope none c'.scored.tenantId) = true := by
    intro c' hc'
    rw [(hscope c' hc').1, (hscope c' hc').2]
    rw [(hscope c hmem).1, (hscope c hmem).2] at hfound
    simpa [inScope] using hfound
  rwa [lastComputed, List.filter_eq_self.mpr hall] at hlast

/-- The second computation for the tenant shares its version with the operator's first one; the
operator's second one is above all of them, and is the latest for every reader. -/
theorem operator_computation_is_latest : ∃ log S, ScoreHistory {} log S ∧
    (log.map fun c => (c.call.caller, c.scored.version)) =
      [(some "acme", some 1), (none, some 2), (some "acme", some 2), (none, some 3)] ∧
    LatestIsLast log S.governance := by
  have hcomputed : ((computeAll {} alternatingCalls [] workflowStore).map fun p =>
      (p.1.map fun c => (c.call.caller, c.scored.version),
        p.1.all fun c => c.scored.scopeType = "workflow" ∧ c.scored.scopeId = "w1",
        p.1.getLast?.all fun c => (scopeScores c.call.scopeType c.call.scopeId none
          c.before.governance).all fun row => row.version < nextVersion (scopeScores
            c.call.scopeType c.call.scopeId c.call.caller c.before.governance))) =
      some ([(some "acme", some 1), (none, some 2), (some "acme", some 2), (none, some 3)],
        true, true) := by decide
  obtain ⟨⟨log, S⟩, hrun, hseen⟩ := Option.map_eq_some_iff.mp hcomputed
  simp only [Prod.mk.injEq, List.all_eq_true, decide_eq_true_eq] at hseen
  obtain ⟨hversions, hscope, hclear⟩ := hseen
  have hhistory := history_computeAll workflowStore_history hrun
  refine ⟨log, S, hhistory, hversions, (latest_is_last_iff_clear hhistory).mpr ?_⟩
  intro scopeType scopeId c hlast
  rw [getLast?_of_lastComputed hscope hlast] at hclear
  simpa [Computation.Clear] using hclear

theorem operator_scores_shadow_later :
    ∃ log S, ScoreHistory {} log S ∧ ¬LatestIsLast log S.governance := by
  have hshadow : ((computeAll {} shadowingCalls [] workflowStore).map fun p =>
      ((scopeScores "workflow" "w1" none p.2.governance).map TrustScore.version,
        (lastComputed p.1 "workflow" "w1" none).map fun c => c.scored.version)) =
      some ([1, 2, 3, 2], some (some 2)) := by decide
  obtain ⟨⟨log, S⟩, hrun, hseen⟩ := Option.map_eq_some_iff.mp hshadow
  refine ⟨log, S, history_computeAll workflowStore_history hrun, fun hlast => ?_⟩
  have hversions : (scopeScores "workflow" "w1" none S.governance).map TrustScore.version =
      [1, 2, 3, 2] := congrArg Prod.fst hseen
  have hlater : (lastComputed log "workflow" "w1" none).map (fun c => c.scored.version) =
      some (some 2) := congrArg Prod.snd hseen
  obtain ⟨row, hrow, hthree⟩ := List.mem_map.mp
    (show (3 : Int) ∈ (scopeScores "workflow" "w1" none S.governance).map TrustScore.version by
      rw [hversions]; decide)
  have hhighest : Highest TrustScore.version (scopeScores "workflow" "w1" none S.governance)
      row := by
    refine ⟨hrow, fun other hother => ?_⟩
    have hmem := List.mem_map_of_mem (f := TrustScore.version) hother
    have hle : ∀ v ∈ ([1, 2, 3, 2] : List Int), v ≤ 3 := by decide
    rw [hversions] at hmem
    rw [hthree]
    exact hle _ hmem
  obtain ⟨c, hc, hversion⟩ := Option.map_eq_some_iff.mp hlater
  have hshown := hlast "workflow" "w1" none _ (.found hhighest)
  rw [hc] at hshown
  obtain ⟨shown, hview, hshows⟩ := hshown
  cases hview
  have hsame := hversion.symm.trans hshows.version
  rw [show (storedToDict row).version = 3 from hthree] at hsame
  cases hsame

end Sample

end TrustScoreService

end ControlPlane
