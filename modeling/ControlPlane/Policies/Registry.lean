import ControlPlane.Services.GovernanceWorkflow

/-!
What the calls of the policy registry do to its table, and runs of them. Every
call makes at most one commit there: a draft is inserted, a version is activated
and the active ones of its tenant and name are retired, or the application makes
sure of the default version at its start.
-/

namespace ControlPlane

open Lib

namespace PolicyVersionService

/-- The versions of one tenant and name. -/
def Governs (tenantId : Option String) (name : String) (row : GovernancePolicy) : Prop :=
  row.tenantId = tenantId ∧ row.name = name

theorem mem_activeVersions {g : Governance} {tenantId : Option String} {name : String}
    {row : GovernancePolicy} : row ∈ activeVersions g tenantId name ↔
      row ∈ g.policies.rows ∧ Governs tenantId name row ∧ row.status = "active" := by
  simp only [activeVersions, List.mem_filter, Governs, Bool.and_eq_true,
    decide_eq_true_eq]
  constructor
  · rintro ⟨hmem, ⟨hname, hstatus⟩, htenant⟩
    exact ⟨hmem, ⟨htenant, hname⟩, hstatus⟩
  · rintro ⟨hmem, ⟨htenant, hname⟩, hstatus⟩
    exact ⟨hmem, ⟨hname, hstatus⟩, htenant⟩

theorem mem_of_getVersion {g : Governance} {versionId : String}
    {tenantId : Option String} {pol : GovernancePolicy}
    (h : getVersion g versionId tenantId = some pol) : pol ∈ g.policies.rows :=
  Table.mem_of_find? (Option.filter_eq_some_iff.mp h).1

theorem mem_defaultRows {g : Governance} {row : GovernancePolicy} :
    row ∈ defaultRows g ↔ row ∈ g.policies.rows ∧
      Governs none defaultPolicyName row ∧ row.version = initialVersion := by
  simp only [defaultRows, List.mem_filter, Governs, Bool.and_eq_true,
    decide_eq_true_eq]

/-- One row after the UPDATEs of a commit. -/
def updateRow (changes : List (GovernancePolicy × GovernancePolicy))
    (row : GovernancePolicy) : GovernancePolicy :=
  changes.foldl (fun row c => if row.id = c.1.id then c.1.updated c.2 row else row) row

theorem update_rows (T : PolicyTable)
    (changes : List (GovernancePolicy × GovernancePolicy)) :
    (T.update changes).rows = T.rows.map (updateRow changes) := by
  induction changes generalizing T with
  | nil => exact (List.map_id T.rows).symm
  | cons c changes ih =>
      have hrows := ih (T.modify c.1.id (c.1.updated c.2))
      have hmodify : (T.modify c.1.id (c.1.updated c.2)).rows = T.rows.map fun row =>
          if row.id = c.1.id then c.1.updated c.2 row else row := rfl
      rw [hmodify, List.map_map] at hrows
      exact hrows

/-- A version that is set from its loaded values. -/
theorem updated_self {loaded new : GovernancePolicy}
    (hrest : new = { loaded with
      isActive := new.isActive
      status := new.status
      effectiveFrom := new.effectiveFrom
      effectiveTo := new.effectiveTo
      approvedByUserId := new.approvedByUserId }) : loaded.updated new loaded = new := by
  rw [GovernancePolicy.updated]
  simp only [changed_current]
  exact hrest.symm

section

variable [Deployment]

omit [Deployment] in
theorem updateRow_of_ne {changes : List (GovernancePolicy × GovernancePolicy)}
    {row : GovernancePolicy} (h : ∀ c ∈ changes, c.1.id ≠ row.id) :
    updateRow changes row = row := by
  induction changes with
  | nil => rfl
  | cons c changes ih =>
      have hne : row.id ≠ c.1.id := (h c (by simp)).symm
      rw [updateRow, List.foldl_cons, if_neg hne]
      exact ih fun d hd => h d (by simp [hd])

/-- Retiring a list of rows retires each of them once. -/
theorem updateRow_retired {others : List GovernancePolicy} {row : GovernancePolicy}
    (now : Moment) (hnodup : (others.map GovernancePolicy.id).Nodup)
    (hsame : ∀ other ∈ others, other.id = row.id → other = row) :
    updateRow (others.map fun other => (other, retired other now)) row =
      if row.id ∈ others.map GovernancePolicy.id then retired row now else row := by
  induction others with
  | nil => rfl
  | cons other others ih =>
      rw [List.map_cons, List.nodup_cons] at hnodup
      rw [List.map_cons, updateRow, List.foldl_cons]
      by_cases hid : row.id = other.id
      · obtain rfl : other = row := hsame other (by simp) hid.symm
        rw [if_pos rfl, updated_self rfl, if_pos (by simp)]
        apply updateRow_of_ne
        intro c hc
        obtain ⟨x, hx, rfl⟩ := List.mem_map.mp hc
        intro heq
        exact hnodup.1 (List.mem_map.mpr ⟨x, hx, heq⟩)
      · rw [if_neg hid]
        have hrest := ih hnodup.2 fun x hx => hsame x (by simp [hx])
        rw [updateRow] at hrest
        rw [hrest]
        simp [hid]

/-- What an activation makes of a row: the version itself, an active one of the
same tenant and name, or any other. -/
def afterActivation (pol : GovernancePolicy) (now : Moment) (approvedBy : Option String)
    (row : GovernancePolicy) : GovernancePolicy :=
  if row.id = pol.id then activated row now approvedBy
  else if row.tenantId = pol.tenantId ∧ row.name = pol.name ∧ row.status = "active" then
    retired row now
  else row

theorem activation_rows {g : Governance} {pol : GovernancePolicy}
    (hpol : pol ∈ g.policies.rows) (now : Moment) (approvedBy : Option String) :
    (g.policies.update (activation pol (activeVersions g pol.tenantId pol.name) now
      approvedBy)).rows = g.policies.rows.map (afterActivation pol now approvedBy) := by
  rw [update_rows]
  apply List.map_congr_left
  intro row hrow
  have hinj : ∀ x ∈ g.policies.rows, x.id = row.id → x = row := fun x hx =>
    List.inj_on_of_nodup_map g.policies.key_nodup hx hrow
  have hsub : List.Sublist ((activeVersions g pol.tenantId pol.name).filter
      fun other => other.id ≠ pol.id) g.policies.rows :=
    List.filter_sublist.trans List.filter_sublist
  have hretired := updateRow_retired now (g.policies.key_nodup.sublist
    (hsub.map _)) fun x hx => hinj x (hsub.mem hx)
  rw [activation, updateRow, List.foldl_append]
  rw [updateRow] at hretired
  rw [hretired, afterActivation]
  by_cases hid : row.id = pol.id
  · obtain rfl : pol = row := hinj pol hpol hid.symm
    have hnot : pol.id ∉ ((activeVersions g pol.tenantId pol.name).filter
        fun other => other.id ≠ pol.id).map GovernancePolicy.id := by
      simp
    rw [if_neg hnot, if_pos rfl, List.foldl_cons, List.foldl_nil, if_pos rfl,
      updated_self rfl]
  · rw [if_neg hid]
    have hiff : row.id ∈ ((activeVersions g pol.tenantId pol.name).filter
        fun other => other.id ≠ pol.id).map GovernancePolicy.id ↔
          row.tenantId = pol.tenantId ∧ row.name = pol.name ∧
            row.status = "active" := by
      simp only [List.mem_map, List.mem_filter, mem_activeVersions, Governs]
      constructor
      · rintro ⟨x, ⟨⟨hx, ⟨htenant, hname⟩, hstatus⟩, _⟩, hxid⟩
        obtain rfl := hinj x hx hxid
        exact ⟨htenant, hname, hstatus⟩
      · rintro ⟨htenant, hname, hstatus⟩
        exact ⟨row, ⟨⟨hrow, ⟨htenant, hname⟩, hstatus⟩, by simpa using hid⟩, rfl⟩
    simp only [hiff, List.foldl_cons, List.foldl_nil]
    split
    · exact if_neg hid
    · rfl

section

variable {adm : (q : StoreCall) → StoreReply q → Store → Prop} {S S' : Store}
  {trace : List StoreEvent}

/-- The tables are as before, and no commit of theirs went through. -/
def Unchanged (S : Store) (trace : List StoreEvent) (S' : Store) : Prop :=
  S'.governance = S.governance ∧ didCommit trace = false

/-- The version a call names was activated at the first reading of its clock. -/
def Activates (versionId : String) (approvedBy tenantId : Option String) (S : Store)
    (trace : List StoreEvent) (S' : Store) : Prop :=
  ∃ pol now, getVersion S.governance versionId tenantId = some pol ∧
    (readings trace).head? = some now ∧ didCommit trace = true ∧
    S'.governance = { S.governance with
      policies := S.governance.policies.update (activation pol
        (activeVersions S.governance pol.tenantId pol.name) now approvedBy) }

omit [Deployment] in
theorem didCommit_cons (e : StoreEvent) (trace : List StoreEvent) :
    didCommit (e :: trace) = (e.commits || didCommit trace) := rfl

omit [Deployment] in
theorem quiet_reloadPolicy (versionId : String) : Quiet (reloadPolicy versionId) :=
  (quiet_peek _).bind fun row => quiet_foundAgain row

theorem quiet_announceActivation (versionId : String) (approvedBy : Option String) :
    Quiet (announceActivation versionId approvedBy) :=
  (quiet_reloadPolicy _).bind fun row => (quiet_recordEvent _).bind fun _ =>
    quiet_pure row

/-- An UPDATE is refused only by the database. -/
theorem didCommit_refused {change : GovernanceChange} {r : DbReply} {g : Governance}
    (hupdates : change.apply r S.governance = some g)
    (h : Refused change r S) : didCommit [⟨.commit change, r⟩] = false := by
  rcases h with hfail | happly
  · simpa [didCommit, StoreEvent.commits] using Option.isSome_iff_ne_none.mpr hfail
  · rw [hupdates] at happly
    cases happly

theorem activate_effect {versionId : String} {approvedBy tenantId : Option String}
    {result : Except PyErr GovernancePolicy}
    (h : Prog.Runs adm (activate versionId approvedBy tenantId) S trace result S') :
    Unchanged S trace S' ∨ Activates versionId approvedBy tenantId S trace S' := by
  unfold activate at h
  obtain ⟨rest₁, rfl, h₁⟩ := runs_peek_bind h
  cases hpol : getVersion S.governance versionId tenantId with
  | none =>
      rw [hpol] at h₁
      obtain ⟨rfl, _, rfl⟩ := Prog.runs_raise h₁
      exact Or.inl ⟨rfl, rfl⟩
  | some pol =>
      rw [hpol] at h₁
      obtain ⟨now, rest₂, rfl, h₂⟩ := runs_readClock_bind h₁
      obtain ⟨rest₃, rfl, h₃⟩ := runs_peek_bind h₂
      obtain ⟨r, rest₄, rfl, ⟨hfail, g, happly, h₄⟩ | ⟨hrefused, rfl, _, rfl⟩⟩ :=
        runs_commitChange_bind h₃
      · cases happly
        obtain ⟨hsame, _⟩ := (quiet_announceActivation pol.id approvedBy).run h₄
        refine Or.inr ⟨pol, now, hpol, rfl, ?_, hsame⟩
        simp [didCommit_cons, StoreEvent.commits, hfail]
      · exact Or.inl ⟨rfl, didCommit_refused rfl hrefused⟩

theorem rollbackTo_effect {versionId : String}
    {approvedBy changeReason tenantId : Option String}
    {result : Except PyErr GovernancePolicy}
    (h : Prog.Runs adm (rollbackTo versionId approvedBy changeReason tenantId) S trace
      result S') :
    Unchanged S trace S' ∨ Activates versionId approvedBy tenantId S trace S' := by
  unfold rollbackTo at h
  obtain ⟨rest₁, rfl, h₁⟩ := runs_peek_bind h
  cases hpol : getVersion S.governance versionId tenantId with
  | none =>
      rw [hpol] at h₁
      obtain ⟨rfl, _, rfl⟩ := Prog.runs_raise h₁
      exact Or.inl ⟨rfl, rfl⟩
  | some pol =>
      rw [hpol] at h₁
      have hstep : ∀ (S₁ : Store) (trace₁ trace₂ : List StoreEvent),
          S'.governance = S₁.governance ∧ didCommit trace₂ = false →
          Unchanged S trace₁ S₁ ∨ Activates versionId approvedBy tenantId S trace₁ S₁ →
          Unchanged S (⟨.select, ()⟩ :: (trace₁ ++ trace₂)) S' ∨
            Activates versionId approvedBy tenantId S
              (⟨.select, ()⟩ :: (trace₁ ++ trace₂)) S' := by
        rintro S₁ trace₁ trace₂ ⟨hsame, hquiet⟩
          (⟨hkept, hnone⟩ | ⟨pol, now, hpol, hnow, hdid, hdone⟩)
        · refine Or.inl ⟨hsame.trans hkept, ?_⟩
          rw [didCommit_cons, didCommit_append, hnone, hquiet]
          rfl
        · refine Or.inr ⟨pol, now, hpol, ?_, ?_, hsame.trans hdone⟩
          · have hcons : readings (⟨.select, ()⟩ :: (trace₁ ++ trace₂)) =
                readings trace₁ ++ readings trace₂ := readings_append trace₁ trace₂
            rw [hcons, List.head?_append, hnow]
            rfl
          · rw [didCommit_cons, didCommit_append, hdid]
            rfl
      rcases Prog.runs_bind h₁ with
        ⟨row, S₁, trace₁, trace₂, hactivate, hrecord, rfl⟩ | ⟨e, hactivate, rfl⟩
      · have hquiet : Quiet ((recordEvent {
            action := "policy.version.rolled_back"
            resourceType := "policy_version"
            resourceId := row.id
            tenantId := row.tenantId
            actor := approvedBy
            metadata := some [("name", .str row.name), ("version", .str row.version),
              ("change_reason", .ofOption changeReason),
              ("mode", .str "activate_previous")] }).bind fun _ => .pure row) :=
          (quiet_recordEvent _).bind fun _ => quiet_pure row
        exact hstep _ _ _ (hquiet.run hrecord) (activate_effect hactivate)
      · have hnone := hstep _ _ [] ⟨rfl, rfl⟩ (activate_effect hactivate)
        rwa [List.append_nil] at hnone

/-- A draft is stored, or nothing is. -/
theorem createVersion_effect {tenantId : Option String} {name version : String}
    {rules : Option Dict} {createdBy changeReason : Option String}
    {result : Except PyErr GovernancePolicy}
    (h : Prog.Runs adm (createVersion tenantId name version rules createdBy changeReason)
      S trace result S') : ∃ r rest, trace = ⟨.commit (.insertPolicy (draft tenantId name
        version rules createdBy changeReason)), r⟩ :: rest ∧
      ((r.failure = none ∧ ∃ T, S.governance.policies.insert ((draft tenantId name version
          rules createdBy changeReason).inserted r) = some T ∧
          S'.governance = { S.governance with policies := T }) ∨
        Refused (.insertPolicy (draft tenantId name version rules createdBy changeReason))
          r S ∧ S'.governance = S.governance) := by
  unfold createVersion at h
  obtain ⟨r, rest, rfl, ⟨hfail, g, happly, h₁⟩ | ⟨hrefused, rfl, _, rfl⟩⟩ :=
    runs_commitChange_bind h
  · obtain ⟨T, hinsert, rfl⟩ := Option.map_eq_some_iff.mp happly
    have hquiet : Quiet ((reloadPolicy r.newId).bind fun row => do
        let _ ← recordEvent {
          action := "policy.version.created"
          resourceType := "policy_version"
          resourceId := row.id
          tenantId := tenantId
          actor := createdBy
          metadata := some [("name", .str name), ("version", .str version)] }
        return row) :=
      (quiet_reloadPolicy _).bind fun row => (quiet_recordEvent _).bind fun _ =>
        quiet_pure row
    exact ⟨r, rest, rfl, Or.inl ⟨hfail, T, hinsert, (hquiet.run h₁).1⟩⟩
  · exact ⟨r, [], rfl, Or.inr ⟨hrefused, rfl⟩⟩

theorem quiet_effectiveStart (existing : GovernancePolicy) :
    Quiet (effectiveStart existing) := by
  unfold effectiveStart
  split
  · exact quiet_pure _
  · exact quiet_readClock.bind fun _ => quiet_pure _

/-- What a start of the application does to the table. -/
inductive Seeds (S : Store) (trace : List StoreEvent) (S' : Store) : Prop where
  | kept (h : S'.governance = S.governance)
  | inserted (hnone : defaultRows S.governance = []) {now : Moment} {r : DbReply}
      {T : PolicyTable} (hnow : now ∈ readings trace)
      (hinsert : S.governance.policies.insert ((defaultRow now).inserted r) = some T)
      (h : S'.governance = { S.governance with policies := T })
  | reactivated {existing : GovernancePolicy} {start : Option Datetime}
      (hfound : defaultRows S.governance = [existing])
      (hinactive : existing.status ≠ "active")
      (h : S'.governance = { S.governance with
        policies := S.governance.policies.update
          [(existing, reactivated existing start)] })

theorem seed_effect {result : Except PyErr GovernancePolicy}
    (h : Prog.Runs adm seedDefaultPolicy S trace result S') : Seeds S trace S' := by
  unfold seedDefaultPolicy at h
  obtain ⟨rest₁, rfl, h₁⟩ := runs_peek_bind h
  match hrows : defaultRows S.governance with
  | [] =>
      rw [hrows] at h₁
      obtain ⟨now, rest₂, rfl, h₂⟩ := runs_readClock_bind h₁
      obtain ⟨r, rest₃, rfl, ⟨hfail, g, happly, h₃⟩ | ⟨hrefused, rfl, _, rfl⟩⟩ :=
        runs_commitChange_bind h₂
      · obtain ⟨T, hinsert, rfl⟩ := Option.map_eq_some_iff.mp happly
        exact .inserted hrows (by simp [readings, StoreEvent.reading]) hinsert
          ((quiet_reloadPolicy _).run h₃).1
      · exact .kept rfl
  | [existing] =>
      rw [hrows] at h₁
      change Prog.Runs adm (if existing.status ≠ "active" then _ else _) S rest₁ result S'
        at h₁
      split at h₁
      · next hinactive =>
          rcases Prog.runs_bind h₁ with
            ⟨start, S₁, trace₁, trace₂, hstart, h₂, rfl⟩ | ⟨e, hstart, rfl⟩
          · obtain ⟨hsame, _⟩ := (quiet_effectiveStart existing).run hstart
            obtain ⟨r, rest₃, rfl, ⟨hfail, g, happly, h₃⟩ | ⟨hrefused, rfl, _, rfl⟩⟩ :=
              runs_commitChange_bind h₂
            · cases happly
              have hdone := ((quiet_pure _).run h₃).1
              rw [hsame] at hdone
              exact .reactivated hrows hinactive hdone
            · exact .kept hsame
          · exact .kept ((quiet_effectiveStart existing).run hstart).1
      · obtain ⟨_, _, rfl⟩ := Prog.runs_pure h₁
        exact .kept rfl
  | _ :: _ :: _ =>
      rw [hrows] at h₁
      obtain ⟨_, _, rfl⟩ := Prog.runs_raise h₁
      exact .kept rfl

/-- What a governed action keeps of its submission: the version it is bound to and
the time. -/
def bindings (g : Governance) : List (Option String × Datetime) :=
  g.actions.rows.map fun action => (action.policyVersionId, action.createdAt)

/-- The registry and the bindings are as before. -/
def Bound (S S' : Store) : Prop :=
  S'.governance.policies = S.governance.policies ∧
    bindings S'.governance = bindings S.governance

/-- Every step of the program keeps the registry and the bindings. -/
def Binds {α : Type} (p : StoreSession α) : Prop :=
  p.Uses fun _ w => ∀ r S, Bound S (w r S)

omit [Deployment] in
theorem Quiet.binds {α : Type} {p : StoreSession α} (h : Quiet p) : Binds p :=
  Prog.Uses.mono h fun _ _ hw r S => by
    rw [Bound, hw.2 r S]
    exact ⟨rfl, rfl⟩

omit [Deployment] in
theorem Binds.bind {α β : Type} {p : StoreSession α} {k : α → StoreSession β}
    (hp : Binds p) (hk : ∀ value, Binds (k value)) : Binds (p.bind k) :=
  Prog.Uses.bind hp hk

theorem binds_commitChange {change : GovernanceChange}
    (h : ∀ r g g', change.apply r g = some g' →
      g'.policies = g.policies ∧ bindings g' = bindings g) :
    Binds (commitChange change) := by
  refine ⟨?_, ?_⟩
  · intro r S
    unfold GovernanceChange.write
    cases hrun : change.run r S with
    | error e => exact ⟨rfl, rfl⟩
    | ok S' =>
        obtain ⟨_, g, happly, rfl⟩ := GovernanceChange.run_eq_ok hrun
        exact h r _ g happly
  · intro r S
    dsimp only
    cases change.run r S <;> trivial

omit [Deployment] in
theorem Binds.run {α : Type} {p : StoreSession α} (hp : Binds p)
    {result : Except PyErr α} (h : Prog.Runs adm p S trace result S') : Bound S S' :=
  Prog.Uses.run (fun _ => ⟨rfl, rfl⟩)
    (fun _ _ _ h h' => ⟨h'.1.trans h.1, h'.2.trans h.2⟩) (fun _ _ hw r S => hw r S) hp h

theorem binds_linkApproval (actionId approvalId : String) :
    Binds (commitChange (.linkApproval actionId approvalId)) := by
  apply binds_commitChange
  rintro r g g' ⟨⟩
  refine ⟨rfl, ?_⟩
  have hrows : (g.actions.modify actionId
      fun row => { row with approvalId := some approvalId }).rows =
      g.actions.rows.map fun row => if row.id = actionId then
        { row with approvalId := some approvalId } else row := rfl
  rw [bindings, hrows, List.map_map]
  apply List.map_congr_left
  intro row _
  simp only [Function.comp]
  split <;> rfl

theorem binds_createRiskAssessment (tenantId : Option String) (riskLevel : String)
    (summary : Option String) (metadata : Dict) :
    Binds (EvidenceGraph.createRiskAssessment tenantId riskLevel summary metadata) := by
  refine Binds.bind (binds_commitChange ?_) fun r => Quiet.binds
    ((quiet_peek _).bind fun row => quiet_foundAgain row)
  intro r g g' h
  obtain ⟨T, _, rfl⟩ := Option.map_eq_some_iff.mp h
  exact ⟨rfl, rfl⟩

theorem binds_recordEvidenceArtifact (tenantId : Option String) (artifactType : String)
    (governedActionId uri : Option String) (metadata : Dict) :
    Binds (EvidenceGraph.recordEvidenceArtifact tenantId artifactType governedActionId uri
      metadata) := by
  refine Binds.bind (binds_commitChange ?_) fun r => Quiet.binds
    ((quiet_peek _).bind fun row => quiet_foundAgain row)
  intro r g g' h
  obtain ⟨T, _, rfl⟩ := Option.map_eq_some_iff.mp h
  exact ⟨rfl, rfl⟩

theorem quiet_audit (action gaId : String) (tenantId actor : Option String)
    (metadata : Dict) :
    Quiet (GovernanceWorkflow.audit action gaId tenantId actor metadata) :=
  quiet_recordEvent _

theorem binds_settle (intake : GovernanceWorkflow.Intake)
    (tenantId actor : Option String) (actionId : String) :
    Binds (GovernanceWorkflow.settle intake tenantId actor actionId) := by
  unfold GovernanceWorkflow.settle
  split
  · exact Quiet.binds ((quiet_audit _ _ _ _ _).bind fun _ => quiet_pure _)
  · split
    · refine Binds.bind ?_ fun _ => Quiet.binds (quiet_pure _)
      refine Binds.bind (Quiet.binds (quiet_inPipeline _)) fun approval => ?_
      refine Binds.bind (binds_linkApproval _ _) fun _ => Quiet.binds ?_
      exact (quiet_audit _ _ _ _ _).bind fun _ => quiet_pure _
    · exact Quiet.binds ((quiet_audit _ _ _ _ _).bind fun _ => quiet_pure _)

/-- A submission keeps the registry. It adds one action, bound to the version in
effect, or none. -/
def Submits (tenantId : Option String) (S : Store) (trace : List StoreEvent)
    (S' : Store) : Prop :=
  S'.governance.policies = S.governance.policies ∧
    (bindings S'.governance = bindings S.governance ∨
      ∃ now ∈ readings trace, bindings S'.governance = bindings S.governance ++
        [((getActive S.governance tenantId defaultPolicyName).map GovernancePolicy.id,
          Deployment.stored (.utc now))])

theorem submit_effect {tenantId actor : Option String}
    {intake : GovernanceWorkflow.Intake}
    {result : Except PyErr GovernanceWorkflow.ReviewSummary}
    (h : Prog.Runs adm (GovernanceWorkflow.submitVendorGovernanceReview tenantId actor
      intake) S trace result S') : Submits tenantId S trace S' := by
  unfold GovernanceWorkflow.submitVendorGovernanceReview
    EvidenceGraph.createGovernedAction at h
  obtain ⟨rest₁, rfl, h₁⟩ := runs_peek_bind h
  rw [Prog.bind_eq, Prog.bind_eq, Prog.bind_assoc] at h₁
  obtain ⟨r, rest₂, rfl, ⟨hfail, g, happly, h₂⟩ | ⟨hrefused, rfl, _, rfl⟩⟩ :=
    runs_commitChange_bind h₁
  · obtain ⟨T, hinsert, rfl⟩ := Option.map_eq_some_iff.mp happly
    have hrest : Bound _ S' := Binds.run (by
      refine Binds.bind (Quiet.binds ((quiet_peek _).bind fun row =>
        quiet_foundAgain row)) fun action => ?_
      refine Binds.bind (binds_createRiskAssessment _ _ _ _) fun _ => ?_
      refine Binds.bind (Quiet.binds (quiet_audit _ _ _ _ _)) fun _ => ?_
      refine Binds.bind (Quiet.binds (quiet_audit _ _ _ _ _)) fun _ => ?_
      refine Binds.bind (Quiet.binds (quiet_audit _ _ _ _ _)) fun _ => ?_
      refine Binds.bind (binds_settle _ _ _ _) fun _ => ?_
      exact Binds.bind (binds_recordEvidenceArtifact _ _ _ _ _) fun _ =>
        Quiet.binds (quiet_pure _)) h₂
    refine ⟨hrest.1, Or.inr ⟨r.now, ?_, ?_⟩⟩
    · simp [readings, StoreEvent.reading]
    · rw [hrest.2]
      have hrows := Table.rows_insert hinsert
      simp [bindings, hrows, GovernanceWorkflow.Intake.action,
        EvidenceGraph.NewAction.row, DbReply.createdAt]
  · exact ⟨rfl, Or.inl rfl⟩

end

/-- The calls of the registry, with its start and the submissions it governs. -/
inductive RegistryCall where
  | seed
  | create (tenantId : Option String) (name version : String) (rules : Option Dict)
      (createdBy changeReason : Option String)
  | activate (versionId : String) (approvedBy tenantId : Option String)
  | rollback (versionId : String) (approvedBy changeReason tenantId : Option String)
  | submit (tenantId actor : Option String) (intake : GovernanceWorkflow.Intake)

def RegistryCall.run : RegistryCall → StoreSession Unit
  | .seed => do let _ ← seedDefaultPolicy
  | .create tenantId name version rules createdBy changeReason => do
      let _ ← createVersion tenantId name version rules createdBy changeReason
  | .activate versionId approvedBy tenantId => do
      let _ ← PolicyVersionService.activate versionId approvedBy tenantId
  | .rollback versionId approvedBy changeReason tenantId => do
      let _ ← rollbackTo versionId approvedBy changeReason tenantId
  | .submit tenantId actor intake => do
      let _ ← GovernanceWorkflow.submitVendorGovernanceReview tenantId actor intake

/-- One call of a run: the store it found and the steps it made. -/
structure RegistryStep where
  call : RegistryCall
  before : Store
  trace : List StoreEvent

/-- The version that a call of a run activated. -/
def RegistryStep.activates (step : RegistryStep) : Option GovernancePolicy :=
  if didCommit step.trace then
    match step.call with
    | .activate versionId _ tenantId =>
        getVersion step.before.governance versionId tenantId
    | .rollback versionId _ _ tenantId =>
        getVersion step.before.governance versionId tenantId
    | _ => none
  else none

/-- The calls follow one another, whether they return or raise. -/
inductive RegistryRun (start : Store) : List RegistryStep → Store → Prop where
  | nil : RegistryRun start [] start
  | call {log : List RegistryStep} {S S' : Store} (h : RegistryRun start log S)
      (call : RegistryCall) {trace : List StoreEvent} {result : Except PyErr Unit}
      (hrun : Prog.Runs anyAnswer call.run S trace result S') :
      RegistryRun start (log ++ [⟨call, S, trace⟩]) S'

/-- What a call does, by its kind. -/
def RegistryCall.Effect (call : RegistryCall) (S : Store) (trace : List StoreEvent)
    (S' : Store) : Prop :=
  match call with
  | .seed => Seeds S trace S'
  | .create tenantId name version rules createdBy changeReason =>
      ∃ r rest, trace = ⟨.commit (.insertPolicy (draft tenantId name version rules
        createdBy changeReason)), r⟩ :: rest ∧
      ((r.failure = none ∧ ∃ T, S.governance.policies.insert ((draft tenantId name version
          rules createdBy changeReason).inserted r) = some T ∧
          S'.governance = { S.governance with policies := T }) ∨
        Refused (.insertPolicy (draft tenantId name version rules createdBy changeReason))
          r S ∧ S'.governance = S.governance)
  | .activate versionId approvedBy tenantId =>
      Unchanged S trace S' ∨ Activates versionId approvedBy tenantId S trace S'
  | .rollback versionId approvedBy _ tenantId =>
      Unchanged S trace S' ∨ Activates versionId approvedBy tenantId S trace S'
  | .submit tenantId _ _ => Submits tenantId S trace S'

omit [Deployment] in
/-- The result of a call is dropped. -/
theorem runs_dropped {α : Type} {adm : (q : StoreCall) → StoreReply q → Store → Prop}
    {p : StoreSession α} {S S' : Store} {trace : List StoreEvent}
    {result : Except PyErr Unit}
    (h : Prog.Runs adm (p.bind fun _ => .pure ()) S trace result S') :
    ∃ result, Prog.Runs adm p S trace result S' := by
  rcases Prog.runs_bind h with ⟨value, S₁, trace₁, trace₂, hp, hunit, rfl⟩ |
      ⟨e, hp, rfl⟩
  · obtain ⟨rfl, _, rfl⟩ := Prog.runs_pure hunit
    rw [List.append_nil]
    exact ⟨_, hp⟩
  · exact ⟨_, hp⟩

theorem RegistryCall.effect {call : RegistryCall}
    {adm : (q : StoreCall) → StoreReply q → Store → Prop} {S S' : Store}
    {trace : List StoreEvent} {result : Except PyErr Unit}
    (h : Prog.Runs adm call.run S trace result S') : call.Effect S trace S' := by
  cases call with
  | seed =>
      obtain ⟨_, hrun⟩ := runs_dropped h
      exact seed_effect hrun
  | create tenantId name version rules createdBy changeReason =>
      obtain ⟨_, hrun⟩ := runs_dropped h
      exact createVersion_effect hrun
  | activate versionId approvedBy tenantId =>
      obtain ⟨_, hrun⟩ := runs_dropped h
      exact activate_effect hrun
  | rollback versionId approvedBy changeReason tenantId =>
      obtain ⟨_, hrun⟩ := runs_dropped h
      exact rollbackTo_effect hrun
  | submit tenantId actor intake =>
      obtain ⟨_, hrun⟩ := runs_dropped h
      exact submit_effect hrun

/-- A call with the answers of an oracle is a call of a run. -/
theorem RegistryRun.exec {start S : Store} {log : List RegistryStep}
    (h : RegistryRun start log S) (call : RegistryCall)
    (oracle : Nat → (q : StoreCall) → StoreReply q) (n : Nat) :
    RegistryRun start (log ++ [⟨call, S, (call.run.exec oracle n S).1⟩])
      (call.run.exec oracle n S).2.2 :=
  h.call call (Prog.runs_exec (fun _ _ _ => trivial) call.run n S)

end

theorem steadyDay_pos : 0 < 739621 := by decide

theorem steadyDay_le : 739621 ≤ maxOrdinal := by decide

def steadyClock (n : Nat) : Moment where
  day := 739621
  micros := n % microsPerDay
  day_pos := steadyDay_pos
  day_le := steadyDay_le
  micros_lt := Nat.mod_lt _ microsPerDay_pos

/-- Nothing fails, ids are new, and the clock advances with every answer. -/
def steadyAnswers (n : Nat) : (q : StoreCall) → StoreReply q
  | .clock => steadyClock n
  | .select => ()
  | .commit _ => ⟨s!"id-{n}", steadyClock n, none, ""⟩
  | .pipeline (.select _) => ⟨steadyClock n, 0⟩
  | .pipeline (.commit _) => ⟨s!"id-{n}", steadyClock n, none, ""⟩
  | .pipeline (.createDraft _ _ _) => .ok "draft"
  | .pipeline (.readThread _) => .ok ⟨none, none, 0⟩
  | .pipeline (.sendApprovedDraft _ _) => .ok "message"

end PolicyVersionService

end ControlPlane
