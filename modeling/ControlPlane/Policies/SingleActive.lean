import ControlPlane.Policies.Registry

/-!
One active version for each tenant and name. An activation retires the others,
so it keeps this, and makes the version it names the active one. A start of the
application also makes a version active, the default one, and retires none:
after another version of the system's default policy was activated and the
application started again, both are active.
-/

namespace ControlPlane.PolicyVersionService

open Lib

section

variable [Deployment]

/-- The version of a tenant and name that a caller activated last. -/
def latest (log : List RegistryStep) (tenantId : Option String) (name : String) :
    Option String :=
  ((log.filterMap RegistryStep.activates).filter fun pol =>
    pol.tenantId = tenantId && pol.name = name).getLast?.map GovernancePolicy.id

structure SingleActive (log : List RegistryStep) (g : Governance) : Prop where
  flag : ∀ row ∈ g.policies.rows, row.isActive = true ↔ row.status = "active"
  single : ∀ tenantId name row row', row ∈ activeVersions g tenantId name →
    row' ∈ activeVersions g tenantId name → row = row'
  lastActivated : ∀ tenantId name id, latest log tenantId name = some id →
    ∃ row ∈ activeVersions g tenantId name, row.id = id

/-- A start of the application sets the default version: there is at most one,
and it is not active. -/
def Reseeds (g : Governance) : Prop :=
  (defaultRows g).length ≤ 1 ∧ ∀ row ∈ defaultRows g, row.status ≠ "active"

/-- Then no other version of the system's default policy is active. -/
def Harmless (g : Governance) : Prop :=
  Reseeds g → activeVersions g none defaultPolicyName = []

omit [Deployment] in
theorem latest_other {log : List RegistryStep} {step : RegistryStep}
    (h : step.activates = none) (tenantId : Option String) (name : String) :
    latest (log ++ [step]) tenantId name = latest log tenantId name := by
  simp [latest, h]

omit [Deployment] in
theorem latest_activated {log : List RegistryStep} {step : RegistryStep}
    {pol : GovernancePolicy} (h : step.activates = some pol)
    (tenantId : Option String) (name : String) :
    latest (log ++ [step]) tenantId name =
      if pol.tenantId = tenantId ∧ pol.name = name then some pol.id
      else latest log tenantId name := by
  have happend : (log ++ [step]).filterMap RegistryStep.activates =
      log.filterMap RegistryStep.activates ++ [pol] := by
    simp [h]
  rw [latest, happend, List.filter_append]
  by_cases hkey : pol.tenantId = tenantId ∧ pol.name = name
  · rw [if_pos hkey, List.filter_cons_of_pos (by simp [hkey.1, hkey.2]),
      List.filter_nil, List.getLast?_concat]
    rfl
  · rw [if_neg hkey, List.filter_cons_of_neg (by simpa using hkey), List.filter_nil,
      List.append_nil]
    rfl

omit [Deployment] in
/-- Calls that activate nothing and leave the registry alone. -/
theorem SingleActive.kept {log : List RegistryStep} {g g' : Governance}
    {step : RegistryStep} (h : SingleActive log g) (hstep : step.activates = none)
    (hrows : g'.policies.rows = g.policies.rows) :
    SingleActive (log ++ [step]) g' := by
  have hactive : ∀ tenantId name,
      activeVersions g' tenantId name = activeVersions g tenantId name := by
    intro tenantId name
    rw [activeVersions, activeVersions, hrows]
  constructor
  · rw [hrows]
    exact h.flag
  · simp only [hactive]
    exact h.single
  · simp only [hactive, latest_other hstep]
    exact h.lastActivated

omit [Deployment] in
/-- A new row that is not active. -/
theorem SingleActive.drafted {log : List RegistryStep} {g g' : Governance}
    {step : RegistryStep} {row : GovernancePolicy} (h : SingleActive log g)
    (hstep : step.activates = none) (hrows : g'.policies.rows = g.policies.rows ++ [row])
    (hstatus : row.status ≠ "active") (hflag : row.isActive = false) :
    SingleActive (log ++ [step]) g' := by
  have hactive : ∀ tenantId name,
      activeVersions g' tenantId name = activeVersions g tenantId name := by
    intro tenantId name
    rw [activeVersions, activeVersions, hrows, List.filter_append,
      List.filter_cons_of_neg (by simp [hstatus]), List.filter_nil, List.append_nil]
  constructor
  · rw [hrows]
    intro x hx
    rcases List.mem_append.mp hx with hx | hx
    · exact h.flag x hx
    · rw [List.mem_singleton.mp hx]
      simp [hstatus, hflag]
  · simp only [hactive]
    exact h.single
  · simp only [hactive, latest_other hstep]
    exact h.lastActivated

omit [Deployment] in
/-- The default version becomes active where no version of its policy is. `row`
is the one that is active then, and the other rows stay as they are. -/
theorem SingleActive.seeded {log : List RegistryStep} {g g' : Governance}
    {step : RegistryStep} {row : GovernancePolicy} (h : SingleActive log g)
    (hstep : step.activates = none)
    (hnone : activeVersions g none defaultPolicyName = [])
    (hgoverns : Governs none defaultPolicyName row) (hflag : row.isActive = true)
    (hrows : ∀ x ∈ g'.policies.rows, x = row ∨ x ∈ g.policies.rows)
    (hkeep : ∀ x ∈ g.policies.rows, x.status = "active" → x ∈ g'.policies.rows)
    (hstatus : row.status = "active") : SingleActive (log ++ [step]) g' := by
  have hsplit : ∀ tenantId name x, x ∈ activeVersions g' tenantId name →
      (x = row ∧ tenantId = none ∧ name = defaultPolicyName) ∨
        x ∈ activeVersions g tenantId name := by
    intro tenantId name x hx
    obtain ⟨hmem, hkey, hactive⟩ := mem_activeVersions.mp hx
    rcases hrows x hmem with rfl | hold
    · exact Or.inl ⟨rfl, hkey.1.symm.trans hgoverns.1, hkey.2.symm.trans hgoverns.2⟩
    · exact Or.inr (mem_activeVersions.mpr ⟨hold, hkey, hactive⟩)
  constructor
  · intro x hx
    rcases hrows x hx with rfl | hold
    · simp [hflag, hstatus]
    · exact h.flag x hold
  · intro tenantId name x y hx hy
    rcases hsplit tenantId name x hx with ⟨rfl, rfl, rfl⟩ | hx
    · rcases hsplit _ _ y hy with ⟨rfl, _, _⟩ | hy
      · rfl
      · rw [hnone] at hy
        cases hy
    · rcases hsplit tenantId name y hy with ⟨rfl, rfl, rfl⟩ | hy
      · rw [hnone] at hx
        cases hx
      · exact h.single tenantId name x y hx hy
  · intro tenantId name id hlatest
    rw [latest_other hstep] at hlatest
    obtain ⟨x, hx, hid⟩ := h.lastActivated tenantId name id hlatest
    obtain ⟨hmem, hkey, hactive⟩ := mem_activeVersions.mp hx
    exact ⟨x, mem_activeVersions.mpr ⟨hkeep x hmem hactive, hkey, hactive⟩, hid⟩

/-- An activation retires the active versions of its tenant and name. -/
theorem SingleActive.activation {log : List RegistryStep} {g g' : Governance}
    {step : RegistryStep} {pol : GovernancePolicy} {now : Moment}
    {approvedBy : Option String} (h : SingleActive log g)
    (hstep : step.activates = some pol) (hpol : pol ∈ g.policies.rows)
    (hrows : g'.policies.rows =
      g.policies.rows.map (afterActivation pol now approvedBy)) :
    SingleActive (log ++ [step]) g' := by
  have hsame : ∀ row ∈ g.policies.rows, row.id = pol.id → row = pol := fun row hrow =>
    List.inj_on_of_nodup_map g.policies.key_nodup hrow hpol
  have hafter : ∀ row, row ∈ g'.policies.rows →
      (row = activated pol now approvedBy ∨ (row.status ≠ "active" ∧
        row.isActive = false) ∨ (row ∈ g.policies.rows ∧
          ¬(row.tenantId = pol.tenantId ∧ row.name = pol.name ∧ row.status = "active"))) := by
    intro row hrow
    rw [hrows] at hrow
    obtain ⟨old, hold, rfl⟩ := List.mem_map.mp hrow
    unfold afterActivation
    split
    · next hid =>
        rw [hsame old hold hid]
        exact Or.inl rfl
    · split
      · exact Or.inr (Or.inl ⟨by simp [retired], rfl⟩)
      · next hkey => exact Or.inr (Or.inr ⟨hold, hkey⟩)
  have hself : activated pol now approvedBy ∈ g'.policies.rows := by
    rw [hrows]
    refine List.mem_map.mpr ⟨pol, hpol, ?_⟩
    rw [afterActivation, if_pos rfl]
  have hkeep : ∀ row ∈ g.policies.rows,
      ¬(row.tenantId = pol.tenantId ∧ row.name = pol.name) → row ∈ g'.policies.rows := by
    intro row hrow hkey
    rw [hrows]
    refine List.mem_map.mpr ⟨row, hrow, ?_⟩
    have hid : row.id ≠ pol.id := by
      intro hid
      exact hkey (by rw [hsame row hrow hid]; exact ⟨rfl, rfl⟩)
    rw [afterActivation, if_neg hid, if_neg fun hall => hkey ⟨hall.1, hall.2.1⟩]
  have hsplit : ∀ tenantId name row, row ∈ activeVersions g' tenantId name →
      (row = activated pol now approvedBy ∧ pol.tenantId = tenantId ∧ pol.name = name) ∨
        (row ∈ activeVersions g tenantId name ∧
          ¬(pol.tenantId = tenantId ∧ pol.name = name)) := by
    intro tenantId name row hrow
    obtain ⟨hmem, hkey, hactive⟩ := mem_activeVersions.mp hrow
    rcases hafter row hmem with rfl | ⟨hstatus, _⟩ | ⟨hold, hnot⟩
    · exact Or.inl ⟨rfl, hkey⟩
    · exact absurd hactive hstatus
    · refine Or.inr ⟨mem_activeVersions.mpr ⟨hold, hkey, hactive⟩, ?_⟩
      rintro ⟨rfl, rfl⟩
      exact hnot ⟨hkey.1, hkey.2, hactive⟩
  constructor
  · intro row hrow
    rcases hafter row hrow with rfl | ⟨hstatus, hflag⟩ | ⟨hold, _⟩
    · simp [activated]
    · simp [hstatus, hflag]
    · exact h.flag row hold
  · intro tenantId name row row' hrow hrow'
    rcases hsplit tenantId name row hrow with ⟨rfl, hkey⟩ | ⟨hrow, hkey⟩
    · rcases hsplit tenantId name row' hrow' with ⟨rfl, _⟩ | ⟨_, hkey'⟩
      · rfl
      · exact absurd hkey hkey'
    · rcases hsplit tenantId name row' hrow' with ⟨_, hkey'⟩ | ⟨hrow', _⟩
      · exact absurd hkey' hkey
      · exact h.single tenantId name row row' hrow hrow'
  · intro tenantId name id hlatest
    rw [latest_activated hstep] at hlatest
    split at hlatest
    · next hkey =>
        refine ⟨activated pol now approvedBy, ?_, Option.some.inj hlatest⟩
        exact mem_activeVersions.mpr ⟨hself, hkey, rfl⟩
    · next hkey =>
        obtain ⟨row, hrow, hid⟩ := h.lastActivated tenantId name id hlatest
        obtain ⟨hmem, hgoverns, hactive⟩ := mem_activeVersions.mp hrow
        refine ⟨row, mem_activeVersions.mpr ⟨?_, hgoverns, hactive⟩, hid⟩
        apply hkeep row hmem
        rw [hgoverns.1, hgoverns.2]
        rintro ⟨rfl, rfl⟩
        exact hkey ⟨rfl, rfl⟩

/-- One call, given that a start of the application is harmless. -/
theorem SingleActive.call {log : List RegistryStep} {S S' : Store} {call : RegistryCall}
    {trace : List StoreEvent} (h : SingleActive log S.governance)
    (heffect : call.Effect S trace S')
    (hseed : call = .seed → Harmless S.governance) :
    SingleActive (log ++ [⟨call, S, trace⟩]) S'.governance := by
  have hactivates : ∀ {versionId : String} {approvedBy tenantId : Option String}
      {step : RegistryStep}, (didCommit trace = false → step.activates = none) →
      (didCommit trace = true →
        step.activates = getVersion S.governance versionId tenantId) →
      Unchanged S trace S' ∨ Activates versionId approvedBy tenantId S trace S' →
      SingleActive (log ++ [step]) S'.governance := by
    rintro versionId approvedBy tenantId step hnone hsome
      (⟨hsame, hdid⟩ | ⟨pol, now, hpol, _, hdid, hgov⟩)
    · exact h.kept (hnone hdid) (by rw [hsame])
    · have hmem := mem_of_getVersion hpol
      have hrows : S'.governance.policies.rows = S.governance.policies.rows.map
          (afterActivation pol now approvedBy) := by
        rw [hgov]
        exact activation_rows hmem now approvedBy
      exact h.activation ((hsome hdid).trans hpol) hmem hrows
  cases call with
  | seed =>
      have hstep : (⟨.seed, S, trace⟩ : RegistryStep).activates = none := by
        simp [RegistryStep.activates]
      have hbenign := hseed rfl
      cases heffect with
      | kept hsame => exact h.kept hstep (by rw [hsame])
      | @inserted hnone now r T _ hinsert hgov =>
          have hrows : S'.governance.policies.rows =
              S.governance.policies.rows ++ [(defaultRow now).inserted r] := by
            rw [hgov]
            exact Table.rows_insert hinsert
          have hgoverns : Governs none defaultPolicyName ((defaultRow now).inserted r) :=
            ⟨rfl, rfl⟩
          refine h.seeded hstep (hbenign ⟨by simp [hnone], by simp [hnone]⟩) hgoverns rfl
            ?_ ?_ rfl
          · intro x hx
            rw [hrows] at hx
            rcases List.mem_append.mp hx with hx | hx
            · exact Or.inr hx
            · exact Or.inl (List.mem_singleton.mp hx)
          · intro x hx _
            rw [hrows]
            exact List.mem_append_left _ hx
      | @reactivated existing start hfound hinactive hgov =>
          have hexisting : existing ∈ defaultRows S.governance := by simp [hfound]
          obtain ⟨hmem, hgoverns, _⟩ := mem_defaultRows.mp hexisting
          have hsame : ∀ row ∈ S.governance.policies.rows, row.id = existing.id →
              row = existing := fun row hrow =>
            List.inj_on_of_nodup_map S.governance.policies.key_nodup hrow hmem
          have hrows : S'.governance.policies.rows = S.governance.policies.rows.map
              (updateRow [(existing, reactivated existing start)]) := by
            rw [hgov]
            exact update_rows _ _
          have hkept : Governs none defaultPolicyName (reactivated existing start) :=
            hgoverns
          refine h.seeded hstep (hbenign ⟨by simp [hfound], by simp [hfound, hinactive]⟩)
            hkept rfl ?_ ?_ rfl
          · intro x hx
            rw [hrows] at hx
            obtain ⟨row, hrow, rfl⟩ := List.mem_map.mp hx
            rw [updateRow, List.foldl_cons, List.foldl_nil]
            split
            · next hid =>
                rw [hsame row hrow hid]
                exact Or.inl (updated_self rfl)
            · exact Or.inr hrow
          · intro x hx hactive
            have hne : x.id ≠ existing.id := by
              intro hid
              rw [hsame x hx hid] at hactive
              exact hinactive hactive
            rw [hrows]
            refine List.mem_map.mpr ⟨x, hx, ?_⟩
            rw [updateRow, List.foldl_cons, List.foldl_nil, if_neg hne]
  | create tenantId name version rules createdBy changeReason =>
      have hstep : (⟨.create tenantId name version rules createdBy changeReason, S,
          trace⟩ : RegistryStep).activates = none := by
        simp [RegistryStep.activates]
      obtain ⟨r, rest, _, ⟨_, T, hinsert, hgov⟩ | ⟨_, hsame⟩⟩ := heffect
      · have hrows := Table.rows_insert hinsert
        have hrows' : S'.governance.policies.rows = _ := (congrArg
          (fun g : Governance => g.policies.rows) hgov).trans hrows
        exact h.drafted hstep hrows' (by simp [draft, GovernancePolicy.inserted]) rfl
      · exact h.kept hstep (by rw [hsame])
  | activate versionId approvedBy tenantId =>
      apply hactivates _ _ heffect
      · intro hdid
        simp [RegistryStep.activates, hdid]
      · intro hdid
        simp [RegistryStep.activates, hdid]
  | rollback versionId approvedBy changeReason tenantId =>
      apply hactivates _ _ heffect
      · intro hdid
        simp [RegistryStep.activates, hdid]
      · intro hdid
        simp [RegistryStep.activates, hdid]
  | submit tenantId actor intake =>
      have hstep : (⟨.submit tenantId actor intake, S, trace⟩ : RegistryStep).activates =
          none := by
        simp [RegistryStep.activates]
      exact h.kept hstep (by rw [heffect.1])

omit [Deployment] in
theorem singleActive_fresh {g : Governance} (hfresh : g.policies.rows = []) :
    SingleActive [] g := by
  constructor
  · simp [hfresh]
  · intro tenantId name row row' hrow
    rw [mem_activeVersions, hfresh] at hrow
    exact absurd hrow.1 (by simp)
  · rintro tenantId name id ⟨⟩

/-- A start that is not harmless leaves two active versions. -/
theorem reseeded_breaks {S S' : Store} {trace : List StoreEvent}
    {result : Except PyErr GovernancePolicy}
    {adm : (q : StoreCall) → StoreReply q → Store → Prop}
    (hrun : Prog.Runs adm seedDefaultPolicy S trace result S')
    (hchanged : S'.governance ≠ S.governance) (hharm : ¬ Harmless S.governance) :
    ∃ row ∈ activeVersions S'.governance none defaultPolicyName,
      ∃ row' ∈ activeVersions S'.governance none defaultPolicyName, row ≠ row' := by
  simp only [Harmless, Classical.not_imp] at hharm
  obtain ⟨_, hactive⟩ := hharm
  obtain ⟨row, hrow⟩ := List.exists_mem_of_ne_nil _ hactive
  obtain ⟨hmem, hgoverns, hstatus⟩ := mem_activeVersions.mp hrow
  cases seed_effect hrun with
  | kept hsame => exact absurd hsame hchanged
  | @inserted hnone now r T _ hinsert hgov =>
      have hin : ∀ x, x ∈ S'.governance.policies.rows ↔
          x ∈ S.governance.policies.rows ∨ x = (defaultRow now).inserted r := by
        intro x
        rw [hgov]
        exact Table.mem_insert hinsert
      refine ⟨row, mem_activeVersions.mpr ⟨(hin row).mpr (Or.inl hmem), hgoverns, hstatus⟩,
        (defaultRow now).inserted r, mem_activeVersions.mpr
          ⟨(hin _).mpr (Or.inr rfl), ⟨rfl, rfl⟩, rfl⟩, ?_⟩
      rintro rfl
      have hfresh := Table.key_fresh_of_insert hinsert
      exact (Table.find?_eq_none _).mp hfresh _ hmem rfl
  | @reactivated existing start hfound hinactive hgov =>
      have hexisting : existing ∈ defaultRows S.governance := by simp [hfound]
      obtain ⟨hold, hdefault, _⟩ := mem_defaultRows.mp hexisting
      have hne : row.id ≠ existing.id := by
        intro hid
        have hsame := List.inj_on_of_nodup_map S.governance.policies.key_nodup hmem hold
          hid
        exact hinactive (hsame ▸ hstatus)
      have hin : ∀ x ∈ S.governance.policies.rows,
          updateRow [(existing, reactivated existing start)] x ∈
            S'.governance.policies.rows := by
        intro x hx
        rw [hgov]
        exact (update_rows _ _).symm ▸ List.mem_map.mpr ⟨x, hx, rfl⟩
      have hrow' := hin row hmem
      have hexisting' := hin existing hold
      rw [updateRow, List.foldl_cons, List.foldl_nil, if_neg hne] at hrow'
      rw [updateRow, List.foldl_cons, List.foldl_nil, if_pos rfl, updated_self rfl]
        at hexisting'
      refine ⟨row, mem_activeVersions.mpr ⟨hrow', hgoverns, hstatus⟩,
        reactivated existing start, mem_activeVersions.mpr ⟨hexisting', hdefault, rfl⟩, ?_⟩
      intro heq
      rw [heq] at hne
      exact hne rfl

/-- In every run whose starts are harmless there is one active version for each
tenant and name, the one a caller activated last. A start that is not harmless
and sets the default version leaves two. -/
theorem single_active_version {start : Store}
    (hfresh : start.governance.policies.rows = []) {log : List RegistryStep} {S : Store}
    (hrun : RegistryRun start log S) :
    ((∀ step ∈ log, step.call = .seed → Harmless step.before.governance) →
      SingleActive log S.governance) ∧
    ∀ trace result S', Prog.Runs anyAnswer seedDefaultPolicy S trace result S' →
      S'.governance ≠ S.governance → ¬ Harmless S.governance →
      ∀ log', ¬ SingleActive log' S'.governance := by
  constructor
  · intro hstarts
    induction hrun with
    | nil => exact singleActive_fresh hfresh
    | call hbefore call hrun ih =>
        have hearlier := ih fun step hstep => hstarts step (by simp [hstep])
        exact hearlier.call (RegistryCall.effect hrun) fun hcall =>
          hstarts _ (List.mem_append_right _ (List.mem_singleton.mpr rfl)) hcall
  · intro trace result S' hseed hchanged hharm log' hsingle
    obtain ⟨row, hrow, row', hrow', hne⟩ := reseeded_breaks hseed hchanged hharm
    exact hne (hsingle.single _ _ row row' hrow hrow')

end

section Sample

local instance instSingleActive : Deployment := .sqlite

/-- The first start, a second version of the system's default policy, and its
activation by the operator. -/
def replacedDefault : Store :=
  let started := (RegistryCall.seed.run.exec steadyAnswers 0 {}).2.2
  let drafted := ((RegistryCall.create none defaultPolicyName "v2" none none none).run.exec
    steadyAnswers 100 started).2.2
  ((RegistryCall.activate "id-100" none none).run.exec steadyAnswers 200 drafted).2.2

theorem replacedDefault_reached : ∃ log, RegistryRun {} log replacedDefault ∧
    ∀ step ∈ log, step.call = .seed → Harmless step.before.governance := by
  have hrun := (((RegistryRun.nil : RegistryRun {} [] {}).exec .seed steadyAnswers 0).exec
    (.create none defaultPolicyName "v2" none none none) steadyAnswers 100).exec
    (.activate "id-100" none none) steadyAnswers 200
  refine ⟨_, hrun, ?_⟩
  intro step hstep hcall
  simp only [List.nil_append, List.cons_append, List.mem_cons, List.not_mem_nil,
    or_false] at hstep
  rcases hstep with rfl | rfl | rfl
  · intro _
    rfl
  · cases hcall
  · cases hcall

/-- The application starts once more: both versions are active. -/
def restartedDefault : Store :=
  (RegistryCall.seed.run.exec steadyAnswers 300 replacedDefault).2.2

theorem two_active_versions_after_restart :
    ¬ ∀ (log : List RegistryStep) (S : Store), RegistryRun {} log S →
      SingleActive log S.governance := by
  intro hclaim
  obtain ⟨log, hrun, _⟩ := replacedDefault_reached
  have hsingle := hclaim _ _ (hrun.exec .seed steadyAnswers 300)
  have hactive : ∀ id ∈ ["id-2", "id-100"], (activeVersions restartedDefault.governance
      none defaultPolicyName).any fun row => row.id = id := by
    decide +kernel
  obtain ⟨row, hrow, hid⟩ := List.any_eq_true.mp (hactive "id-2" (by simp))
  obtain ⟨row', hrow', hid'⟩ := List.any_eq_true.mp (hactive "id-100" (by simp))
  have heq := hsingle.single none defaultPolicyName row row' hrow hrow'
  rw [heq, of_decide_eq_true hid'] at hid
  exact absurd hid (by decide)

/-- Up to the restart the second version is the active one. -/
theorem single_active_version_sample : ∃ log,
    SingleActive log replacedDefault.governance := by
  obtain ⟨log, hrun, hharmless⟩ := replacedDefault_reached
  exact ⟨log, (single_active_version rfl hrun).1 hharmless⟩

end Sample

end ControlPlane.PolicyVersionService
