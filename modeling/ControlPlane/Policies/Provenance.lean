import ControlPlane.Policies.Registry

/-!
What the registry says of past decisions. An action is bound to the version in
effect when it was submitted, and the version records since when it is, and
until when it was. An activation starts the interval of its version afresh, so
an action that was bound to it in an earlier interval is no longer covered:
the record is true as long as no version is activated again under which an
earlier action was submitted.
-/

namespace ControlPlane.PolicyVersionService

open Lib

section

variable [Deployment]

/-- The recorded interval of a version contains a time; it is open if it has no
end. -/
def InEffect (pol : GovernancePolicy) (time : Datetime) : Prop :=
  ∃ start, pol.effectiveFrom = some start ∧ start.instant ≤ time.instant ∧
    ∀ stop, pol.effectiveTo = some stop → time.instant ≤ stop.instant

/-- Every bound action was submitted while its version was in effect. -/
def Provenance (g : Governance) : Prop :=
  ∀ action ∈ g.actions.rows, ∀ id, action.policyVersionId = some id →
    ∃ pol ∈ g.policies.rows, pol.id = id ∧ InEffect pol action.createdAt

/-- The readings of the clock in the order of a run. -/
def clock (log : List RegistryStep) : List Moment :=
  log.flatMap fun step => readings step.trace

def NonDecreasing (times : List Moment) : Prop :=
  times.Pairwise fun m m' => m.wall ≤ m'.wall

/-- The application is started on an empty registry only. -/
def StartedOnce (log : List RegistryStep) : Prop :=
  ∀ step ∈ log, step.call = .seed → step.before.governance.policies.rows = []

/-- No action bound to the version was submitted before this time. -/
def Ungoverned (g : Governance) (pol : GovernancePolicy) (now : Moment) : Prop :=
  ∀ action ∈ g.actions.rows, action.policyVersionId = some pol.id →
    now.wall ≤ action.createdAt.instant

/-- The activations of a run reach no version that governs an earlier action. -/
def Forward (log : List RegistryStep) : Prop :=
  ∀ step ∈ log, ∀ pol now, step.activates = some pol →
    (readings step.trace).head? = some now → Ungoverned step.before.governance pol now

omit [Deployment] in
theorem clock_append (log : List RegistryStep) (step : RegistryStep) :
    clock (log ++ [step]) = clock log ++ readings step.trace := by
  simp [clock]

omit [Deployment] in
/-- The provenance of the actions, said of their bindings. -/
theorem provenance_iff {g : Governance} : Provenance g ↔
    ∀ b ∈ bindings g, ∀ id, b.1 = some id →
      ∃ pol ∈ g.policies.rows, pol.id = id ∧ InEffect pol b.2 := by
  simp [Provenance, bindings]

omit [Deployment] in
theorem ungoverned_iff {g : Governance} {pol : GovernancePolicy} {now : Moment} :
    Ungoverned g pol now ↔
      ∀ b ∈ bindings g, b.1 = some pol.id → now.wall ≤ b.2.instant := by
  simp [Ungoverned, bindings]

/-- Everything recorded is past, and the versions in effect are open. -/
structure Recorded (log : List RegistryStep) (g : Governance) : Prop where
  provenance : ∀ b ∈ bindings g, ∀ id, b.1 = some id →
    ∃ pol ∈ g.policies.rows, pol.id = id ∧ InEffect pol b.2
  past : ∀ b ∈ bindings g, ∃ m ∈ clock log, b.2.instant = m.wall
  current : ∀ pol ∈ g.policies.rows, pol.status = "active" → pol.effectiveTo = none ∧
    ∃ start, pol.effectiveFrom = some start ∧ ∃ m ∈ clock log, start.instant = m.wall

section

variable {log : List RegistryStep} {g g' : Governance} {step : RegistryStep}

omit [Deployment] in
/-- Readings of a later call are not before what is recorded. -/
theorem reading_le (hclock : NonDecreasing (clock (log ++ [step]))) {m now : Moment}
    (hm : m ∈ clock log) (hnow : now ∈ readings step.trace) : m.wall ≤ now.wall := by
  rw [clock_append] at hclock
  exact (List.pairwise_append.mp hclock).2.2 m hm now hnow

omit [Deployment] in
theorem mem_clock (step : RegistryStep) {m : Moment}
    (h : m ∈ clock log ∨ m ∈ readings step.trace) : m ∈ clock (log ++ [step]) := by
  rw [clock_append]
  exact List.mem_append.mpr h

omit [Deployment] in
/-- New rows that are not in effect, or are since a reading of the call. -/
theorem Recorded.extended (h : Recorded log g) {row : GovernancePolicy}
    (hbindings : bindings g' = bindings g)
    (hrows : ∀ x, x ∈ g'.policies.rows ↔ x ∈ g.policies.rows ∨ x = row)
    (hrow : row.status = "active" → row.effectiveTo = none ∧
      ∃ start, row.effectiveFrom = some start ∧
        ∃ m ∈ readings step.trace, start.instant = m.wall) :
    Recorded (log ++ [step]) g' := by
  constructor
  · intro b hb id hid
    rw [hbindings] at hb
    obtain ⟨pol, hpol, hmatch⟩ := h.provenance b hb id hid
    exact ⟨pol, (hrows pol).mpr (Or.inl hpol), hmatch⟩
  · intro b hb
    rw [hbindings] at hb
    obtain ⟨m, hm, hwall⟩ := h.past b hb
    exact ⟨m, mem_clock step (Or.inl hm), hwall⟩
  · intro pol hpol hactive
    rcases (hrows pol).mp hpol with hold | rfl
    · obtain ⟨hopen, start, hstart, m, hm, hwall⟩ := h.current pol hold hactive
      exact ⟨hopen, start, hstart, m, mem_clock step (Or.inl hm), hwall⟩
    · obtain ⟨hopen, start, hstart, m, hm, hwall⟩ := hrow hactive
      exact ⟨hopen, start, hstart, m, mem_clock step (Or.inr hm), hwall⟩

omit [Deployment] in
theorem Recorded.kept (h : Recorded log g) (hbindings : bindings g' = bindings g)
    (hrows : g'.policies.rows = g.policies.rows) : Recorded (log ++ [step]) g' := by
  constructor
  · rw [hbindings, hrows]
    exact h.provenance
  · intro b hb
    rw [hbindings] at hb
    obtain ⟨m, hm, hwall⟩ := h.past b hb
    exact ⟨m, mem_clock step (Or.inl hm), hwall⟩
  · intro pol hpol hactive
    rw [hrows] at hpol
    obtain ⟨hopen, start, hstart, m, hm, hwall⟩ := h.current pol hpol hactive
    exact ⟨hopen, start, hstart, m, mem_clock step (Or.inl hm), hwall⟩

theorem stored_instant (m : Moment) :
    (Deployment.stored (Datetime.utc m)).instant = m.wall :=
  Deployment.instant_stored m

/-- An activation ends the intervals it finds open and starts its own. -/
theorem Recorded.activation (h : Recorded log g) {pol : GovernancePolicy} {now : Moment}
    {approvedBy : Option String} (hclock : NonDecreasing (clock (log ++ [step])))
    (hnow : now ∈ readings step.trace)
    (hforward : ∀ b ∈ bindings g, b.1 = some pol.id → now.wall ≤ b.2.instant)
    (hbindings : bindings g' = bindings g)
    (hrows : g'.policies.rows =
      g.policies.rows.map (afterActivation pol now approvedBy)) :
    Recorded (log ++ [step]) g' := by
  constructor
  · intro b hb id hid
    rw [hbindings] at hb
    obtain ⟨x, hx, hxid, start, hstart, hle, hstop⟩ := h.provenance b hb id hid
    refine ⟨afterActivation pol now approvedBy x, ?_, ?_, ?_⟩
    · rw [hrows]
      exact List.mem_map.mpr ⟨x, hx, rfl⟩
    · unfold afterActivation
      split
      · exact hxid
      · split <;> exact hxid
    · unfold afterActivation
      split
      · next hsame =>
          have hbound : b.1 = some pol.id := by rw [hid, ← hxid, hsame]
          refine ⟨_, rfl, ?_, ?_⟩
          · rw [stored_instant]
            exact hforward b hb hbound
          · rintro stop ⟨⟩
      · split
        · refine ⟨start, hstart, hle, ?_⟩
          rintro stop ⟨⟩
          obtain ⟨m, hm, hwall⟩ := h.past b hb
          rw [stored_instant, hwall]
          exact reading_le hclock hm hnow
        · exact ⟨start, hstart, hle, hstop⟩
  · intro b hb
    rw [hbindings] at hb
    obtain ⟨m, hm, hwall⟩ := h.past b hb
    exact ⟨m, mem_clock step (Or.inl hm), hwall⟩
  · intro x hx hactive
    rw [hrows] at hx
    obtain ⟨old, hold, rfl⟩ := List.mem_map.mp hx
    unfold afterActivation at hactive ⊢
    split at hactive
    · next hsame =>
        rw [if_pos hsame]
        exact ⟨rfl, _, rfl, now, mem_clock step (Or.inr hnow), stored_instant now⟩
    · next hother =>
        rw [if_neg hother]
        split at hactive
        · simp [retired] at hactive
        · next hkeep =>
            rw [if_neg hkeep]
            obtain ⟨hopen, start, hstart, m, hm, hwall⟩ := h.current old hold hactive
            exact ⟨hopen, start, hstart, m, mem_clock step (Or.inl hm), hwall⟩

omit [Deployment] in
theorem mem_of_getActive {tenantId : Option String} {name : String}
    {pol : GovernancePolicy} (h : getActive g tenantId name = some pol) :
    pol ∈ g.policies.rows ∧ pol.status = "active" := by
  have hof : ∀ tenant, pol ∈ activeVersions g tenant name →
      pol ∈ g.policies.rows ∧ pol.status = "active" := fun tenant hmem =>
    ⟨(mem_activeVersions.mp hmem).1, (mem_activeVersions.mp hmem).2.2⟩
  unfold getActive at h
  split at h
  · next active rest hrows =>
      cases h
      exact hof tenantId (by simp [hrows])
  · split at h
    · exact hof none (List.mem_of_head? h)
    · cases h

/-- A submission is bound to a version that is in effect. -/
theorem Recorded.submission (h : Recorded log g) {tenantId : Option String}
    {now : Moment} (hclock : NonDecreasing (clock (log ++ [step])))
    (hnow : now ∈ readings step.trace)
    (hbindings : bindings g' = bindings g ++
      [((getActive g tenantId defaultPolicyName).map GovernancePolicy.id,
        Deployment.stored (.utc now))])
    (hrows : g'.policies.rows = g.policies.rows) : Recorded (log ++ [step]) g' := by
  constructor
  · intro b hb id hid
    rw [hbindings] at hb
    rw [hrows]
    rcases List.mem_append.mp hb with hb | hb
    · exact h.provenance b hb id hid
    · obtain rfl := List.mem_singleton.mp hb
      obtain ⟨pol, hactive, rfl⟩ := Option.map_eq_some_iff.mp hid
      obtain ⟨hpol, hstatus⟩ := mem_of_getActive hactive
      obtain ⟨hopen, start, hstart, m, hm, hwall⟩ := h.current pol hpol hstatus
      refine ⟨pol, hpol, rfl, start, hstart, ?_, ?_⟩
      · rw [stored_instant, hwall]
        exact reading_le hclock hm hnow
      · intro stop hstop
        rw [hopen] at hstop
        cases hstop
  · intro b hb
    rw [hbindings] at hb
    rcases List.mem_append.mp hb with hb | hb
    · obtain ⟨m, hm, hwall⟩ := h.past b hb
      exact ⟨m, mem_clock step (Or.inl hm), hwall⟩
    · obtain rfl := List.mem_singleton.mp hb
      exact ⟨now, mem_clock step (Or.inr hnow), stored_instant now⟩
  · intro pol hpol hactive
    rw [hrows] at hpol
    obtain ⟨hopen, start, hstart, m, hm, hwall⟩ := h.current pol hpol hactive
    exact ⟨hopen, start, hstart, m, mem_clock step (Or.inl hm), hwall⟩

end

/-- One call of a run. -/
theorem Recorded.call {log : List RegistryStep} {S S' : Store} {call : RegistryCall}
    {trace : List StoreEvent} (h : Recorded log S.governance)
    (heffect : call.Effect S trace S')
    (hclock : NonDecreasing (clock (log ++ [⟨call, S, trace⟩])))
    (hstart : call = .seed → S.governance.policies.rows = [])
    (hforward : ∀ pol now, (⟨call, S, trace⟩ : RegistryStep).activates = some pol →
      (readings trace).head? = some now → Ungoverned S.governance pol now) :
    Recorded (log ++ [⟨call, S, trace⟩]) S'.governance := by
  have hactivates : ∀ {versionId : String} {approvedBy tenantId : Option String},
      (didCommit trace = true → (⟨call, S, trace⟩ : RegistryStep).activates =
        getVersion S.governance versionId tenantId) →
      Unchanged S trace S' ∨ Activates versionId approvedBy tenantId S trace S' →
      Recorded (log ++ [⟨call, S, trace⟩]) S'.governance := by
    rintro versionId approvedBy tenantId hsome
      (⟨hsame, _⟩ | ⟨pol, now, hpol, hnow, hdid, hgov⟩)
    · exact h.kept (by rw [hsame]) (by rw [hsame])
    · have hmem := mem_of_getVersion hpol
      have hrows : S'.governance.policies.rows = S.governance.policies.rows.map
          (afterActivation pol now approvedBy) := by
        rw [hgov]
        exact activation_rows hmem now approvedBy
      have hungoverned := hforward pol now ((hsome hdid).trans hpol) hnow
      exact h.activation hclock (List.mem_of_head? hnow)
        (ungoverned_iff.mp hungoverned) (by rw [hgov]; rfl) hrows
  cases call with
  | seed =>
      cases heffect with
      | kept hsame => exact h.kept (by rw [hsame]) (by rw [hsame])
      | @inserted hnone now r T hnow hinsert hgov =>
          have hrows : ∀ x, x ∈ S'.governance.policies.rows ↔
              x ∈ S.governance.policies.rows ∨ x = (defaultRow now).inserted r := by
            intro x
            rw [hgov]
            exact Table.mem_insert hinsert
          exact h.extended (by rw [hgov]; rfl) hrows fun _ =>
            ⟨rfl, _, rfl, now, hnow, stored_instant now⟩
      | @reactivated existing start hfound _ _ =>
          rw [defaultRows, hstart rfl, List.filter_nil] at hfound
          cases hfound
  | create tenantId name version rules createdBy changeReason =>
      obtain ⟨r, rest, _, ⟨_, T, hinsert, hgov⟩ | ⟨_, hsame⟩⟩ := heffect
      · have hrows : ∀ x, x ∈ S'.governance.policies.rows ↔
            x ∈ S.governance.policies.rows ∨ x = (draft tenantId name version rules
              createdBy changeReason).inserted r := by
          intro x
          rw [hgov]
          exact Table.mem_insert hinsert
        exact h.extended (by rw [hgov]; rfl) hrows fun hactive =>
          absurd hactive (by simp [draft, GovernancePolicy.inserted])
      · exact h.kept (by rw [hsame]) (by rw [hsame])
  | activate versionId approvedBy tenantId =>
      refine hactivates ?_ heffect
      intro hdid
      simp [RegistryStep.activates, hdid]
  | rollback versionId approvedBy changeReason tenantId =>
      refine hactivates ?_ heffect
      intro hdid
      simp [RegistryStep.activates, hdid]
  | submit tenantId actor intake =>
      obtain ⟨hpolicies, hkept | ⟨now, hnow, hbound⟩⟩ := heffect
      · exact h.kept hkept (by rw [hpolicies])
      · exact h.submission hclock hnow hbound (by rw [hpolicies])

/-- An activation of a version that governs an earlier action takes that action
out of the recorded interval. -/
theorem activation_breaks {versionId : String} {approvedBy tenantId : Option String}
    {S S' : Store} {trace : List StoreEvent} {pol : GovernancePolicy} {now : Moment}
    (h : Activates versionId approvedBy tenantId S trace S')
    (hpol : getVersion S.governance versionId tenantId = some pol)
    (hnow : (readings trace).head? = some now)
    (hgoverns : ¬ Ungoverned S.governance pol now) : ¬ Provenance S'.governance := by
  obtain ⟨pol', now', hpol', hnow', _, hgov⟩ := h
  obtain rfl := Option.some.inj (hpol.symm.trans hpol')
  obtain rfl := Option.some.inj (hnow.symm.trans hnow')
  have hmem := mem_of_getVersion hpol
  have hrows : S'.governance.policies.rows = S.governance.policies.rows.map
      (afterActivation pol now approvedBy) := by
    rw [hgov]
    exact activation_rows hmem now approvedBy
  have hactions : S'.governance.actions = S.governance.actions := by rw [hgov]
  intro hprovenance
  apply hgoverns
  intro action haction hbound
  obtain ⟨x, hx, hid, start, hstart, hle, _⟩ :=
    hprovenance action (by rw [hactions]; exact haction) pol.id hbound
  rw [hrows] at hx
  obtain ⟨old, hold, rfl⟩ := List.mem_map.mp hx
  have hsame : old.id = pol.id := by
    unfold afterActivation at hid
    split at hid
    · next heq => exact heq
    · split at hid <;> exact hid
  rw [afterActivation, if_pos hsame] at hstart
  cases hstart
  rw [stored_instant] at hle
  exact hle

/-- A call of a run that activates a version does it as an activation. -/
theorem RegistryCall.activates {call : RegistryCall} {S S' : Store}
    {trace : List StoreEvent} {pol : GovernancePolicy}
    (heffect : call.Effect S trace S')
    (hpol : (⟨call, S, trace⟩ : RegistryStep).activates = some pol) :
    ∃ versionId approvedBy tenantId, Activates versionId approvedBy tenantId S trace S' ∧
      getVersion S.governance versionId tenantId = some pol := by
  unfold RegistryStep.activates at hpol
  split at hpol
  · next hdid =>
      cases call with
      | activate versionId approvedBy tenantId =>
          rcases heffect with ⟨_, hnone⟩ | hactivates
          · rw [hnone] at hdid
            cases hdid
          · exact ⟨versionId, approvedBy, tenantId, hactivates, hpol⟩
      | rollback versionId approvedBy changeReason tenantId =>
          rcases heffect with ⟨_, hnone⟩ | hactivates
          · rw [hnone] at hdid
            cases hdid
          · exact ⟨versionId, approvedBy, tenantId, hactivates, hpol⟩
      | seed => cases hpol
      | create => cases hpol
      | submit => cases hpol
  · cases hpol

/-- The record of past decisions stays true in every run that activates no
version again under which an earlier action was submitted; a call that does
makes it false. -/
theorem policy_provenance {start : Store}
    (hfresh : start.governance.policies.rows = [] ∧ start.governance.actions.rows = [])
    {log : List RegistryStep} {S : Store} (hrun : RegistryRun start log S)
    (hclock : NonDecreasing (clock log)) (hstarted : StartedOnce log) :
    (Forward log → Provenance S.governance) ∧
    ∀ call trace result S' pol now, Prog.Runs anyAnswer call.run S trace result S' →
      (⟨call, S, trace⟩ : RegistryStep).activates = some pol →
      (readings trace).head? = some now → ¬ Ungoverned S.governance pol now →
      ¬ Provenance S'.governance := by
  constructor
  · intro hforward
    rw [provenance_iff]
    have hrecorded : Recorded log S.governance := by
      induction hrun with
      | nil =>
          constructor
          · simp [bindings, hfresh.2]
          · simp [bindings, hfresh.2]
          · simp [hfresh.1]
      | call hbefore call hrun ih =>
          have hclock' := hclock
          rw [clock_append] at hclock'
          have hearlier := ih (List.pairwise_append.mp hclock').1
            (fun step hstep => hstarted step (by simp [hstep]))
            (fun step hstep => hforward step (by simp [hstep]))
          exact hearlier.call (RegistryCall.effect hrun) hclock
            (hstarted _ (List.mem_append_right _ (List.mem_singleton.mpr rfl)))
            (hforward _ (List.mem_append_right _ (List.mem_singleton.mpr rfl)))
    exact hrecorded.provenance
  · intro call trace result S' pol now hcall hactivates hnow hgoverns
    obtain ⟨versionId, approvedBy, tenantId, hdone, hpol⟩ :=
      RegistryCall.activates (RegistryCall.effect hcall) hactivates
    exact activation_breaks hdone hpol hnow hgoverns

end

section Sample

local instance instProvenance : Deployment := .sqlite

def sampleIntake : GovernanceWorkflow.Intake where
  vendorName := "Acme"
  systemType := "chat"
  intendedUse := "support"
  dataSensitivity := none
  externalExposure := false
  autonomyLevel := none

def submitCall : RegistryCall := .submit (some "t1") none sampleIntake

/-- The default version, and an action that is bound to it. -/
def governedStore : Store :=
  let started := (RegistryCall.seed.run.exec steadyAnswers 0 {}).2.2
  (submitCall.run.exec steadyAnswers 100 started).2.2

def governedLog : List RegistryStep :=
  let started := RegistryCall.seed.run.exec steadyAnswers 0 {}
  [⟨.seed, {}, started.1⟩,
    ⟨submitCall, started.2.2, (submitCall.run.exec steadyAnswers 100 started.2.2).1⟩]

theorem governed_reached : RegistryRun {} governedLog governedStore :=
  ((RegistryRun.nil : RegistryRun {} [] {}).exec .seed steadyAnswers 0).exec submitCall
    steadyAnswers 100

def reactivation : List StoreEvent × Except PyErr Unit × Store :=
  (RegistryCall.activate "id-2" none none).run.exec steadyAnswers 200 governedStore

theorem reactivated_reached : RegistryRun {}
    (governedLog ++ [⟨.activate "id-2" none none, governedStore, reactivation.1⟩])
    reactivation.2.2 :=
  governed_reached.exec (.activate "id-2" none none) steadyAnswers 200

instance (times : List Moment) : Decidable (NonDecreasing times) :=
  inferInstanceAs (Decidable (times.Pairwise _))

theorem provenance_false_after_reactivation :
    ¬ ∀ (log : List RegistryStep) (S : Store), RegistryRun {} log S →
      NonDecreasing (clock log) → StartedOnce log → Provenance S.governance := by
  intro hclaim
  have hclock : NonDecreasing (clock (governedLog ++
      [⟨.activate "id-2" none none, governedStore, reactivation.1⟩])) := by
    decide +kernel
  have hprovenance := hclaim _ _ reactivated_reached hclock (by
    intro step hstep hcall
    simp only [governedLog, List.cons_append, List.nil_append, List.mem_cons,
      List.not_mem_nil, or_false] at hstep
    rcases hstep with rfl | rfl | rfl
    · rfl
    · cases hcall
    · cases hcall)
  have hlate : (bindings reactivation.2.2.governance).any fun b =>
      b.1 = some "id-2" && reactivation.2.2.governance.policies.rows.all fun pol =>
        pol.effectiveFrom.all fun start => b.2.instant < start.instant := by
    decide +kernel
  obtain ⟨b, hb, hlate⟩ := List.any_eq_true.mp hlate
  simp only [Bool.and_eq_true, decide_eq_true_eq, List.all_eq_true] at hlate
  obtain ⟨hbound, hlate⟩ := hlate
  obtain ⟨pol, hpol, _, start, hstart, hle, _⟩ :=
    provenance_iff.mp hprovenance b hb "id-2" hbound
  have hafter := hlate pol hpol
  rw [hstart, Option.all_some, decide_eq_true_eq] at hafter
  omega

/-- Until then the record is true. -/
theorem policy_provenance_sample : Provenance governedStore.governance := by
  refine (policy_provenance ⟨rfl, rfl⟩ governed_reached (by decide +kernel) ?_).1 ?_
  · intro step hstep hcall
    simp only [governedLog, List.mem_cons, List.not_mem_nil, or_false] at hstep
    rcases hstep with rfl | rfl
    · rfl
    · cases hcall
  · intro step hstep pol now hactivates
    simp only [governedLog, List.mem_cons, List.not_mem_nil, or_false] at hstep
    rcases hstep with rfl | rfl
    · simp [RegistryStep.activates] at hactivates
    · unfold RegistryStep.activates at hactivates
      split at hactivates <;> cases hactivates

end Sample

end ControlPlane.PolicyVersionService
