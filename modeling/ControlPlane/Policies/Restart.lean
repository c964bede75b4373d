import ControlPlane.Policies.Registry

/-!
The start of the application looks for the one default version. Names and
versions of a tenant are unique in the table, but the default version has no
tenant, and NULLs are distinct: an operator can draft it again, and then the
lookup raises at every later start.
-/

namespace ControlPlane.PolicyVersionService

open Lib

section

variable [Deployment]

/-- The call stored another version without a tenant under the name and version
of the default one. -/
def RegistryStep.duplicates (step : RegistryStep) : Bool :=
  match step.call, step.trace with
  | .create none name version _ _ _, ⟨.commit _, (r : DbReply)⟩ :: _ =>
      name = defaultPolicyName && version = initialVersion && r.failure.isNone &&
        (step.before.governance.policies.find? r.newId).isNone
  | _, _ => false

/-- The database refuses none of the commits. -/
def Unfailing (trace : List StoreEvent) : Prop :=
  ∀ change (r : DbReply), (⟨.commit change, r⟩ : StoreEvent) ∈ trace → r.failure = none

/-- The application starts: the default version is found or made, and set. -/
def Starts (S : Store) : Prop :=
  ∀ trace result S', Prog.Runs anyAnswer seedDefaultPolicy S trace result S' →
    Unfailing trace → ∃ row, result = .ok row

omit [Deployment] in
/-- UPDATEs of the lifecycle columns do not change what the lookup finds. -/
theorem length_defaultRows_map {g g' : Governance}
    {f : GovernancePolicy → GovernancePolicy}
    (hrows : g'.policies.rows = g.policies.rows.map f)
    (hf : ∀ row, (f row).tenantId = row.tenantId ∧ (f row).name = row.name ∧
      (f row).version = row.version) :
    (defaultRows g').length = (defaultRows g).length := by
  rw [defaultRows, defaultRows, hrows, List.filter_map, List.length_map]
  congr 2
  funext row
  simp only [Function.comp, hf row]

theorem afterActivation_kept (pol : GovernancePolicy) (now : Moment)
    (approvedBy : Option String) (row : GovernancePolicy) :
    (afterActivation pol now approvedBy row).tenantId = row.tenantId ∧
      (afterActivation pol now approvedBy row).name = row.name ∧
      (afterActivation pol now approvedBy row).version = row.version := by
  unfold afterActivation
  split
  · exact ⟨rfl, rfl, rfl⟩
  · split <;> exact ⟨rfl, rfl, rfl⟩

omit [Deployment] in
theorem updateRow_kept (changes : List (GovernancePolicy × GovernancePolicy))
    (row : GovernancePolicy) : (updateRow changes row).tenantId = row.tenantId ∧
      (updateRow changes row).name = row.name ∧
      (updateRow changes row).version = row.version := by
  induction changes generalizing row with
  | nil => exact ⟨rfl, rfl, rfl⟩
  | cons c changes ih =>
      have hrest := ih (if row.id = c.1.id then c.1.updated c.2 row else row)
      rw [updateRow] at hrest ⊢
      rw [List.foldl_cons]
      by_cases hid : row.id = c.1.id
      · rw [if_pos hid] at hrest ⊢
        exact hrest
      · rw [if_neg hid] at hrest ⊢
        exact hrest

theorem activates_defaultRows {versionId : String} {approvedBy tenantId : Option String}
    {S S' : Store} {trace : List StoreEvent}
    (h : Unchanged S trace S' ∨ Activates versionId approvedBy tenantId S trace S') :
    (defaultRows S'.governance).length = (defaultRows S.governance).length := by
  rcases h with ⟨hsame, _⟩ | ⟨pol, now, hpol, _, _, hgov⟩
  · rw [hsame]
  · have hmem : pol ∈ S.governance.policies.rows :=
      Table.mem_of_find? (Option.filter_eq_some_iff.mp hpol).1
    apply length_defaultRows_map _ (afterActivation_kept pol now approvedBy)
    rw [hgov]
    exact activation_rows hmem now approvedBy

/-- A draft is found by the lookup if it repeats the default version. -/
theorem created_defaultRows {tenantId : Option String} {name version : String}
    {rules : Option Dict} {createdBy changeReason : Option String} {S S' : Store}
    {trace : List StoreEvent} (h : (RegistryCall.create tenantId name version rules
      createdBy changeReason).Effect S trace S') :
    (defaultRows S'.governance).length = (defaultRows S.governance).length +
      if RegistryStep.duplicates ⟨.create tenantId name version rules createdBy
        changeReason, S, trace⟩ then 1 else 0 := by
  obtain ⟨r, rest, rfl, ⟨hfail, T, hinsert, hgov⟩ | ⟨hrefused, hsame⟩⟩ := h
  · have hrows := Table.rows_insert hinsert
    have hfresh := Table.key_fresh_of_insert hinsert
    have hkey : S.governance.policies.find? r.newId = none := hfresh
    rw [hgov, defaultRows, defaultRows, hrows, List.filter_append, List.length_append]
    congr 1
    cases tenantId with
    | some tenant =>
        rw [List.filter_cons_of_neg (by simp [draft, GovernancePolicy.inserted])]
        rfl
    | none =>
        by_cases hdefault : name = defaultPolicyName ∧ version = initialVersion
        · rw [List.filter_cons_of_pos (by
            simp [draft, GovernancePolicy.inserted, hdefault.1, hdefault.2])]
          simp [RegistryStep.duplicates, hdefault.1, hdefault.2, hfail, hkey]
        · rw [List.filter_cons_of_neg (by
            intro hfound
            simp only [draft, GovernancePolicy.inserted, Bool.and_eq_true] at hfound
            exact hdefault ⟨of_decide_eq_true hfound.1.2, of_decide_eq_true hfound.2⟩)]
          rw [if_neg]
          · rfl
          · intro hdup
            simp only [RegistryStep.duplicates, Bool.and_eq_true,
              decide_eq_true_eq] at hdup
            exact hdefault hdup.1.1
  · rw [hsame]
    rw [if_neg]
    · rfl
    · intro hdup
      cases tenantId with
      | some tenant => cases hdup
      | none =>
          simp only [RegistryStep.duplicates, Bool.and_eq_true,
            Option.isNone_iff_eq_none] at hdup
          obtain ⟨⟨_, hfail⟩, hkey⟩ := hdup
          have hstored : ∃ T, S.governance.policies.insert ((draft none name version rules
              createdBy changeReason).inserted r) = some T :=
            Table.exists_insert hkey rfl
          obtain ⟨T, hinsert⟩ := hstored
          rcases hrefused with hfailed | happly
          · exact hfailed hfail
          · simp [GovernanceChange.apply, hinsert] at happly

/-- Each call adds the default versions it duplicates; there is one to begin
with. -/
theorem length_defaultRows {start S : Store} {log : List RegistryStep}
    (hone : (defaultRows start.governance).length = 1) (hrun : RegistryRun start log S) :
    (defaultRows S.governance).length = 1 + (log.filter RegistryStep.duplicates).length := by
  induction hrun with
  | nil => rw [hone, List.filter_nil, List.length_nil]
  | @call log S S' hbefore call trace result hrun ih =>
      have heffect := RegistryCall.effect hrun
      have hstep : (defaultRows S'.governance).length = (defaultRows S.governance).length +
          if RegistryStep.duplicates ⟨call, S, trace⟩ then 1 else 0 := by
        cases call with
        | seed =>
            have hnot : RegistryStep.duplicates ⟨.seed, S, trace⟩ = false := rfl
            rw [hnot]
            cases heffect with
            | kept hsame => rw [hsame]; rfl
            | inserted hnone =>
                rw [hnone, List.length_nil] at ih
                omega
            | @reactivated existing start' _ _ hgov =>
                apply length_defaultRows_map _
                  (updateRow_kept [(existing, reactivated existing start')])
                rw [hgov]
                exact update_rows _ _
        | create tenantId name version rules createdBy changeReason =>
            exact created_defaultRows heffect
        | activate versionId approvedBy tenantId =>
            exact activates_defaultRows heffect
        | rollback versionId approvedBy changeReason tenantId =>
            exact activates_defaultRows heffect
        | submit tenantId actor intake =>
            have hnot : RegistryStep.duplicates ⟨.submit tenantId actor intake, S, trace⟩ =
                false := rfl
            rw [hnot, defaultRows, defaultRows, heffect.1]
            rfl
      rw [hstep, ih, List.filter_append, List.length_append, Nat.add_assoc]
      congr 2
      cases hdup : RegistryStep.duplicates ⟨call, S, trace⟩ <;>
        simp [hdup]

/-- The lookup raises exactly when it finds more than one row. -/
theorem starts_iff {S : Store} (hpos : 0 < (defaultRows S.governance).length) :
    Starts S ↔ (defaultRows S.governance).length ≤ 1 := by
  constructor
  · intro hstarts
    by_contra hmany
    have hraises : Prog.Runs anyAnswer seedDefaultPolicy S [⟨.select, ()⟩]
        (.error (.other "MultipleResultsFound"
          "Multiple rows were found when one or none was required")) S := by
      unfold seedDefaultPolicy
      apply runs_after_peek
      match hrows : defaultRows S.governance with
      | [] => rw [hrows] at hpos; cases hpos
      | [row] => rw [hrows] at hmany; exact absurd (le_refl 1) hmany
      | _ :: _ :: _ => exact .raise _ _
    obtain ⟨row, hrow⟩ := hstarts _ _ _ hraises (by simp [Unfailing])
    cases hrow
  · intro hone trace result S' hrun hunfailing
    unfold seedDefaultPolicy at hrun
    obtain ⟨rest₁, rfl, h₁⟩ := runs_peek_bind hrun
    match hrows : defaultRows S.governance with
    | [] => rw [hrows] at hpos; cases hpos
    | _ :: _ :: _ =>
        rw [hrows, List.length_cons, List.length_cons] at hone
        omega
    | [existing] =>
        rw [hrows] at h₁
        change Prog.Runs anyAnswer (if existing.status ≠ "active" then _ else _) S rest₁
          result S' at h₁
        split at h₁
        · rcases Prog.runs_bind h₁ with
            ⟨start, S₁, trace₁, trace₂, hstart, h₂, rfl⟩ | ⟨e, hstart, rfl⟩
          · obtain ⟨r, rest₃, rfl, ⟨hfail, g, happly, h₃⟩ | ⟨hrefused, rfl, _, rfl⟩⟩ :=
              runs_commitChange_bind h₂
            · obtain ⟨_, rfl, _⟩ := Prog.runs_pure h₃
              exact ⟨reactivated existing start, rfl⟩
            · have hfail := hunfailing
                (.updatePolicies [(existing, reactivated existing start)]) r (by simp)
              rcases hrefused with hfailed | happly
              · exact absurd hfail hfailed
              · cases happly
          · exfalso
            unfold effectiveStart at hstart
            split at hstart
            · obtain ⟨_, hvalue, _⟩ := Prog.runs_pure hstart
              cases hvalue
            · obtain ⟨m, rest, rfl, h₂⟩ := runs_readClock_bind hstart
              obtain ⟨_, hvalue, _⟩ := Prog.runs_pure h₂
              cases hvalue
        · obtain ⟨_, rfl, _⟩ := Prog.runs_pure h₁
          exact ⟨existing, rfl⟩

/-- The first start of the application leaves one default version. -/
theorem first_start {start S : Store} {trace : List StoreEvent} {row : GovernancePolicy}
    (hfresh : start.governance.policies.rows = [])
    (hrun : Prog.Runs anyAnswer seedDefaultPolicy start trace (.ok row) S) :
    (defaultRows S.governance).length = 1 := by
  have hnone : defaultRows start.governance = [] := by
    rw [defaultRows, hfresh, List.filter_nil]
  unfold seedDefaultPolicy at hrun
  obtain ⟨rest₁, rfl, h₁⟩ := runs_peek_bind hrun
  rw [hnone] at h₁
  obtain ⟨now, rest₂, rfl, h₂⟩ := runs_readClock_bind h₁
  obtain ⟨r, rest₃, rfl, ⟨hfail, g, happly, h₃⟩ | ⟨_, _, ⟨e, hvalue⟩, _⟩⟩ :=
    runs_commitChange_bind h₂
  · obtain ⟨T, hinsert, rfl⟩ := Option.map_eq_some_iff.mp happly
    have hsame := ((quiet_reloadPolicy _).run h₃).1
    have hrows := Table.rows_insert hinsert
    rw [hsame, defaultRows, hrows, hfresh]
    rfl
  · cases hvalue

/-- After a first start on a table without policies, and any calls of the registry since, the
application can be started again exactly as long as no operator has stored the default version
once more. -/
theorem restart_completes_iff {start S₀ S : Store} {trace : List StoreEvent}
    {row : GovernancePolicy} {log : List RegistryStep}
    (hfresh : start.governance.policies.rows = [])
    (hfirst : Prog.Runs anyAnswer seedDefaultPolicy start trace (.ok row) S₀)
    (hrun : RegistryRun S₀ log S) :
    Starts S ↔ ∀ step ∈ log, step.duplicates = false := by
  have hlength := length_defaultRows (first_start hfresh hfirst) hrun
  rw [starts_iff (by omega), hlength]
  constructor
  · intro hle step hstep
    have hnil : log.filter RegistryStep.duplicates = [] :=
      List.eq_nil_of_length_eq_zero (by omega)
    simpa using List.filter_eq_nil_iff.mp hnil step hstep
  · intro hnone
    have hnil : log.filter RegistryStep.duplicates = [] := by
      rw [List.filter_eq_nil_iff]
      intro step hstep
      simp [hnone step hstep]
    rw [hnil, List.length_nil]

end

section Sample

local instance instRestart : Deployment := .sqlite

def firstStart : List StoreEvent × Except PyErr GovernancePolicy × Store :=
  seedDefaultPolicy.exec steadyAnswers 0 {}

theorem firstStart_runs : ∃ row,
    Prog.Runs anyAnswer seedDefaultPolicy {} firstStart.1 (.ok row) firstStart.2.2 := by
  have hany : ∀ n q s, anyAnswer q (steadyAnswers n q) s := fun _ _ _ => trivial
  have hrun := Prog.runs_exec hany seedDefaultPolicy 0 {}
  cases hresult : firstStart.2.1 with
  | ok row =>
      refine ⟨row, ?_⟩
      rw [← hresult]
      exact hrun
  | error e =>
      have hok : firstStart.2.1.toOption.isSome := by decide +kernel
      rw [hresult] at hok
      cases hok

/-- The operator drafts the default version again. -/
def redrafted : List StoreEvent × Except PyErr Unit × Store :=
  (RegistryCall.create none defaultPolicyName initialVersion none none none).run.exec
    steadyAnswers 100 firstStart.2.2

theorem redrafted_reached : RegistryRun firstStart.2.2
    [⟨.create none defaultPolicyName initialVersion none none none, firstStart.2.2,
      redrafted.1⟩] redrafted.2.2 :=
  RegistryRun.nil.exec (.create none defaultPolicyName initialVersion none none none)
    steadyAnswers 100

theorem restart_raises_after_redraft :
    ¬ ∀ (start S₀ S : Store) (trace : List StoreEvent) (row : GovernancePolicy)
      (log : List RegistryStep), start.governance.policies.rows = [] →
      Prog.Runs anyAnswer seedDefaultPolicy start trace (.ok row) S₀ →
      RegistryRun S₀ log S → Starts S := by
  intro hclaim
  obtain ⟨row, hfirst⟩ := firstStart_runs
  have hstarts := hclaim _ _ _ _ row _ rfl hfirst redrafted_reached
  have htwo : (defaultRows redrafted.2.2.governance).length = 2 := by decide +kernel
  rw [starts_iff (by omega), htwo] at hstarts
  omega

/-- A tenant drafts its own version under the name and number of the default one and activates
it, and the operator drafts a second version of the default policy. -/
def otherVersions : Store :=
  let drafted := ((RegistryCall.create (some "acme") defaultPolicyName initialVersion none none
    none).run.exec steadyAnswers 100 firstStart.2.2).2.2
  let activated := ((RegistryCall.activate "id-100" none (some "acme")).run.exec steadyAnswers 200
    drafted).2.2
  ((RegistryCall.create none defaultPolicyName "v2" none none none).run.exec steadyAnswers 300
    activated).2.2

theorem otherVersions_reached : ∃ log, RegistryRun firstStart.2.2 log otherVersions ∧
    ∀ step ∈ log, step.duplicates = false := by
  have hrun := (((RegistryRun.nil : RegistryRun firstStart.2.2 [] _).exec
    (.create (some "acme") defaultPolicyName initialVersion none none none) steadyAnswers 100).exec
    (.activate "id-100" none (some "acme")) steadyAnswers 200).exec
    (.create none defaultPolicyName "v2" none none none) steadyAnswers 300
  refine ⟨_, hrun, ?_⟩
  intro step hstep
  simp only [List.nil_append, List.cons_append, List.mem_cons, List.not_mem_nil,
    or_false] at hstep
  rcases hstep with rfl | rfl | rfl
  · rfl
  · rfl
  · unfold RegistryStep.duplicates
    split
    · next hcall _ =>
        cases hcall
        rfl
    · rfl

/-- All three versions are stored next to the default one, and the application starts again. -/
theorem restart_completes_sample :
    (otherVersions.governance.policies.rows.map fun row =>
      (row.tenantId, row.version, row.status)) =
      [(none, "v1", "active"), (some "acme", "v1", "active"), (none, "v2", "draft")] ∧
      Starts otherVersions := by
  obtain ⟨row, hfirst⟩ := firstStart_runs
  obtain ⟨log, hrun, hdistinct⟩ := otherVersions_reached
  exact ⟨by decide +kernel, (restart_completes_iff rfl hfirst hrun).mpr hdistinct⟩

end Sample

end ControlPlane.PolicyVersionService
