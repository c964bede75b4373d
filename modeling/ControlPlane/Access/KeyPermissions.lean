import ControlPlane.Access.RbacSeed
import Mathlib.Data.List.Induction

/-!
Permissions of API keys over provisioning runs. The grant of a permission is a
join over three tables that looks at the user's id only; neither the user's own
tenant and activity nor the tenant of an assignment is read. Whether a key
stays within its tenant is therefore decided when it is provisioned, when its
user receives a role, and when its user is deactivated.
-/

namespace ControlPlane

open Lib

namespace RbacService

/-- A role carries a permission. -/
def RoleGrants (s : Identity) (roleId permission : String) : Prop :=
  permission ∈ permissionsOfRole s roleId

/-- Some assignment gives the user the permission, whatever its tenant. -/
def Granted (s : Identity) (userId permission : String) : Prop :=
  ∃ link ∈ s.userRoles.rows, link.userId = userId ∧
    RoleGrants s link.roleId permission

/-- An assignment for this tenant, or a global one, gives the permission. -/
def GrantedIn (s : Identity) (tenantId : Option String)
    (userId permission : String) : Prop :=
  ∃ link ∈ s.userRoles.rows, link.userId = userId ∧
    (link.tenantId = none ∨ link.tenantId = tenantId) ∧
    RoleGrants s link.roleId permission

def ActiveMember (s : Identity) (tenantId : Option String) (userId : String) :
    Prop :=
  ∃ user ∈ s.users.rows, user.id = userId ∧ user.isActive ∧
    user.tenantId = tenantId

/-- The permission is the user's within this tenant. -/
def Within (s : Identity) (tenantId : Option String)
    (userId permission : String) : Prop :=
  ActiveMember s tenantId userId ∧ GrantedIn s tenantId userId permission

theorem mem_permissionsForUser {s : Identity} {userId permission : String} :
    permission ∈ permissionsForUser s userId ↔ Granted s userId permission := by
  simp [permissionsForUser, Granted, RoleGrants, and_assoc]

section Bound

variable [Deployment] {s s' : Identity}

/-- Some credential other than the empty one has this fingerprint. -/
def Presentable (keyHash : String) : Prop :=
  ∃ raw, raw ≠ "" ∧ TenantService.hashApiKey raw = keyHash

/-- The key opens a session: it is active and can be presented. -/
def Usable (key : ApiKey) : Prop :=
  key.isActive ∧ Presentable key.keyHash

/-- Every permission of a resolved principal is bounded by the tenant of its
key. -/
def Bounded (s : Identity) : Prop :=
  ∀ settings apiKey principal userId permission,
    resolvePrincipal settings s apiKey = .ok principal →
    principal.userId = some userId → permission ∈ principal.permissions →
    (∃ raw, apiKey = some raw ∧ ∃ key ∈ s.apiKeys.rows,
      key.keyHash = TenantService.hashApiKey raw ∧ key.isActive ∧
      key.userId = some userId ∧ key.tenantId = principal.tenantId) ∧
    ActiveMember s principal.tenantId userId ∧
    GrantedIn s principal.tenantId userId permission

/-- The same, said of the rows. -/
def RowsBounded (s : Identity) : Prop :=
  ∀ key ∈ s.apiKeys.rows, Usable key → ∀ userId, key.userId = some userId →
    ∀ permission, Granted s userId permission →
      Within s key.tenantId userId permission

/-- A principal with a user comes from the row of the presented key. -/
theorem resolvePrincipal_user {settings : Settings} {apiKey : Option String}
    {principal : Principal} {userId : String}
    (h : resolvePrincipal settings s apiKey = .ok principal)
    (huser : principal.userId = some userId) :
    ∃ raw, apiKey = some raw ∧ raw ≠ "" ∧ ∃ key ∈ s.apiKeys.rows,
      key.keyHash = TenantService.hashApiKey raw ∧ key.isActive ∧
      key.userId = some userId ∧
      principal = ⟨key.tenantId, some userId, permissionsForUser s userId, false⟩ := by
  cases apiKey with
  | none =>
      cases h
      cases huser
  | some raw =>
      by_cases hraw : raw = ""
      · subst hraw
        cases h
        cases huser
      · have hpresented : falsy (some raw) = false := by simp [falsy, hraw]
        simp only [resolvePrincipal, hpresented, Option.getD_some] at h
        cases hkey : TenantService.activeKey s raw with
        | none =>
            rw [hkey] at h
            cases h
        | some key =>
            rw [hkey] at h
            obtain ⟨hmem, hhash, hactive⟩ := TenantService.activeKey_eq_some.mp hkey
            cases hbound : key.userId with
            | none =>
                simp only [hbound] at h
                cases h
                cases huser
            | some bound =>
                simp only [hbound] at h
                cases h
                cases huser
                exact ⟨raw, rfl, hraw, key, hmem, hhash, hactive, hbound, rfl⟩

/-- A usable key with a user resolves. -/
theorem resolvePrincipal_key {settings : Settings} {key : ApiKey}
    {raw userId : String} (hraw : raw ≠ "") (hmem : key ∈ s.apiKeys.rows)
    (hhash : TenantService.hashApiKey raw = key.keyHash) (hactive : key.isActive)
    (huser : key.userId = some userId) :
    resolvePrincipal settings s (some raw) =
      .ok ⟨key.tenantId, some userId, permissionsForUser s userId, false⟩ := by
  have hpresented : falsy (some raw) = false := by simp [falsy, hraw]
  have hkey : TenantService.activeKey s raw = some key :=
    TenantService.activeKey_eq_some.mpr ⟨hmem, hhash.symm, hactive⟩
  simp [resolvePrincipal, hpresented, hkey, huser]

theorem bounded_iff_rows : Bounded s ↔ RowsBounded s := by
  constructor
  · intro h key hmem husable userId huser permission hgranted
    obtain ⟨hactive, raw, hraw, hhash⟩ := husable
    have hresolved : resolvePrincipal {} s (some raw) = _ :=
      resolvePrincipal_key hraw hmem hhash hactive huser
    have hperm := mem_permissionsForUser.mpr hgranted
    obtain ⟨_, hmember, hgrant⟩ := h _ _ _ _ _ hresolved rfl hperm
    exact ⟨hmember, hgrant⟩
  · intro h settings apiKey principal userId permission hresolved huser hperm
    obtain ⟨raw, hkey, hraw, key, hmem, hhash, hactive, hbound, hprincipal⟩ :=
      resolvePrincipal_user hresolved huser
    subst hprincipal
    have husable : Usable key := ⟨hactive, raw, hraw, hhash.symm⟩
    have hgranted := mem_permissionsForUser.mp hperm
    obtain ⟨hmember, hgrant⟩ := h key hmem husable userId hbound permission hgranted
    exact ⟨⟨raw, hkey, key, hmem, hhash, hactive, hbound, rfl⟩, hmember, hgrant⟩

/-- The operations that write the identity tables. -/
inductive Operation where
  | seedRbac (newId : Nat → String)
  | provisionUser (newId tenantId email : String) (displayName : Option String)
  | assignRole (newId userId roleName : String) (tenantId : Option String)
  | provisionApiKey (newId tenantId name rawKey : String) (userId : Option String)
  | deactivateUser (userId : String)
  | deactivateApiKey (keyId : String)

namespace Operation

def apply (s : Identity) : Operation → Except StoreError Identity
  | seedRbac newId => RbacService.seedRbac newId s
  | provisionUser newId tenantId email displayName =>
      (RbacService.provisionUser s newId tenantId email displayName).map Prod.fst
  | assignRole newId userId roleName tenantId =>
      (RbacService.assignRole s newId userId roleName tenantId).map Prod.fst
  | provisionApiKey newId tenantId name rawKey userId =>
      (TenantService.provisionApiKey s newId tenantId name rawKey userId).map Prod.fst
  | deactivateUser userId =>
      .ok { s with users := s.users.modify userId fun row =>
        { row with isActive := false } }
  | deactivateApiKey keyId =>
      .ok { s with apiKeys := s.apiKeys.modify keyId fun row =>
        { row with isActive := false } }

/-- An operation that raises is rolled back. -/
def run (s : Identity) (op : Operation) : Identity :=
  match op.apply s with
  | .ok s' => s'
  | .error _ => s

/-- What an operation must respect. A key goes to a user only for the tenant in
which the user is active and holds what it was given; a user with a key receives
a role only for the tenant of the key; a user with a key and a permission is not
deactivated. -/
def Keeps (s : Identity) : Operation → Prop
  | provisionApiKey _ tenantId _ rawKey (some userId) =>
      Presentable (TenantService.hashApiKey rawKey) →
      ∀ permission, Granted s userId permission →
        Within s (some tenantId) userId permission
  | assignRole _ userId roleName tenantId =>
      ∀ key ∈ s.apiKeys.rows, Usable key → key.userId = some userId →
      ∀ role ∈ systemRoles s roleName, ∀ permission,
        RoleGrants s role.id permission →
        ActiveMember s key.tenantId userId ∧
          (tenantId = none ∨ tenantId = key.tenantId ∨
            GrantedIn s key.tenantId userId permission)
  | deactivateUser userId =>
      ∀ key ∈ s.apiKeys.rows, Usable key → key.userId = some userId →
      ∀ permission, ¬ Granted s userId permission
  | _ => True

end Operation

def runOperations (s : Identity) (ops : List Operation) : Identity :=
  ops.foldl Operation.run s

/-- The catalogue is complete, or no role was ever assigned. -/
def Catalogued (s : Identity) : Prop :=
  Seeded s ∨ s.roles.rows = [] ∧ s.userRoles.rows = []

omit [Deployment] in
theorem within_mono {tenantId : Option String} {userId permission : String}
    (husers : s.users.rows ⊆ s'.users.rows)
    (hlinks : s.userRoles.rows ⊆ s'.userRoles.rows)
    (hroles : ∀ roleId, permissionsOfRole s' roleId = permissionsOfRole s roleId)
    (h : Within s tenantId userId permission) :
    Within s' tenantId userId permission := by
  obtain ⟨⟨user, huser, hmember⟩, link, hlink, hid, htenant, hgrant⟩ := h
  refine ⟨⟨user, husers huser, hmember⟩, link, hlinks hlink, hid, htenant, ?_⟩
  unfold RoleGrants
  rw [hroles]
  exact hgrant

theorem provisionUser_rows {newId tenantId email : String}
    {displayName : Option String}
    (h : (Operation.provisionUser newId tenantId email displayName).apply s = .ok s') :
    ∃ users : UserTable, s' = { s with users := users } ∧
      s.users.rows ⊆ users.rows := by
  obtain ⟨⟨s₁, user⟩, hop, rfl⟩ := map_eq_ok.mp h
  obtain ⟨users, hinsert, hdone⟩ := bind_eq_ok.mp hop
  cases hdone
  refine ⟨users, rfl, ?_⟩
  rw [Table.rows_insert (flushed_eq_ok.mp hinsert)]
  exact List.subset_append_left _ _

theorem assignRole_rows {newId userId roleName : String} {tenantId : Option String}
    (h : (Operation.assignRole newId userId roleName tenantId).apply s = .ok s') :
    ∃ role userRoles, systemRoles s roleName = [role] ∧
      s' = { s with userRoles := userRoles } ∧
      userRoles.rows = s.userRoles.rows ++ [⟨newId, tenantId, userId, role.id⟩] := by
  obtain ⟨⟨s₁, link⟩, hop, rfl⟩ := map_eq_ok.mp h
  obtain ⟨role, hrole, hrest⟩ := bind_eq_ok.mp hop
  obtain ⟨userRoles, hinsert, hdone⟩ := bind_eq_ok.mp hrest
  cases hdone
  exact ⟨role, userRoles, scalarOne_eq_ok.mp hrole, rfl,
    Table.rows_insert (flushed_eq_ok.mp hinsert)⟩

theorem provisionApiKey_rows {newId tenantId name rawKey : String}
    {userId : Option String}
    (h : (Operation.provisionApiKey newId tenantId name rawKey userId).apply s =
      .ok s') :
    ∃ apiKeys : ApiKeyTable, s' = { s with apiKeys := apiKeys } ∧
      apiKeys.rows = s.apiKeys.rows ++ [⟨newId, some tenantId, userId, name,
        TenantService.hashApiKey rawKey, true, none⟩] := by
  obtain ⟨⟨s₁, key⟩, hop, rfl⟩ := map_eq_ok.mp h
  obtain ⟨apiKeys, hinsert, hdone⟩ := bind_eq_ok.mp hop
  cases hdone
  exact ⟨apiKeys, rfl, Table.rows_insert (flushed_eq_ok.mp hinsert)⟩

theorem deactivateUser_rows {userId : String}
    (h : (Operation.deactivateUser userId).apply s = .ok s') :
    ∃ users : UserTable, s' = { s with users := users } ∧
      ∀ row, row ∈ users.rows ↔ ∃ row₀ ∈ s.users.rows,
        (if row₀.id = userId then { row₀ with isActive := false } else row₀) = row := by
  cases h
  exact ⟨_, rfl, fun _ => Table.mem_modify⟩

theorem rowsBounded_provisionUser {newId tenantId email : String}
    {displayName : Option String} (hbounded : RowsBounded s)
    (h : (Operation.provisionUser newId tenantId email displayName).apply s = .ok s') :
    RowsBounded s' := by
  obtain ⟨users, rfl, hsub⟩ := provisionUser_rows h
  intro key hmem husable userId huser permission hgranted
  have hwithin := hbounded key hmem husable userId huser permission hgranted
  exact within_mono hsub (List.Subset.refl _) (fun _ => rfl) hwithin

theorem rowsBounded_deactivateApiKey {keyId : String} (hbounded : RowsBounded s)
    (h : (Operation.deactivateApiKey keyId).apply s = .ok s') : RowsBounded s' := by
  cases h
  intro key hmem husable userId huser permission hgranted
  simp only [Table.mem_modify] at hmem
  obtain ⟨key₀, hmem₀, hkey⟩ := hmem
  split at hkey
  · subst hkey
    cases husable.1
  · subst hkey
    exact hbounded key₀ hmem₀ husable userId huser permission hgranted

/-- Before the first seed nobody holds a permission, and a later seed changes
nothing. -/
theorem rowsBounded_seedRbac {newId : Nat → String} (hcatalogue : Catalogued s)
    (hbounded : RowsBounded s)
    (h : (Operation.seedRbac newId).apply s = .ok s') : RowsBounded s' := by
  rcases hcatalogue with hseeded | ⟨_, hlinks⟩
  · have hsame := seedRbac_of_seeded newId hseeded
    cases hsame.symm.trans h
    exact hbounded
  · obtain ⟨_, _, huserRoles, _⟩ := seedRbac_spec h
    intro key _ _ userId _ permission hgranted
    obtain ⟨link, hlink, _⟩ := hgranted
    rw [huserRoles, hlinks] at hlink
    cases hlink

theorem rowsBounded_provisionApiKey {newId tenantId name rawKey : String}
    {userId : Option String} (hbounded : RowsBounded s)
    (h : (Operation.provisionApiKey newId tenantId name rawKey userId).apply s =
      .ok s') :
    RowsBounded s' ↔
      (Operation.provisionApiKey newId tenantId name rawKey userId).Keeps s := by
  obtain ⟨apiKeys, rfl, hrows⟩ := provisionApiKey_rows h
  constructor
  · intro hbounded'
    cases userId with
    | none => trivial
    | some userId =>
        intro hpresentable permission hgranted
        refine hbounded' ⟨newId, some tenantId, some userId, name,
          TenantService.hashApiKey rawKey, true, none⟩ ?_ ⟨rfl, hpresentable⟩
          userId rfl permission hgranted
        rw [hrows]
        exact List.mem_append_right _ (List.mem_singleton.mpr rfl)
  · intro hkeeps key hmem husable user huser permission hgranted
    rw [hrows, List.mem_append, List.mem_singleton] at hmem
    rcases hmem with hmem | rfl
    · exact hbounded key hmem husable user huser permission hgranted
    · change userId = some user at huser
      subst huser
      exact hkeeps husable.2 permission hgranted

theorem rowsBounded_assignRole {newId userId roleName : String}
    {tenantId : Option String} (hbounded : RowsBounded s)
    (h : (Operation.assignRole newId userId roleName tenantId).apply s = .ok s') :
    RowsBounded s' ↔
      (Operation.assignRole newId userId roleName tenantId).Keeps s := by
  obtain ⟨role, userRoles, hrole, rfl, hrows⟩ := assignRole_rows h
  have hnew : (⟨newId, tenantId, userId, role.id⟩ : UserRole) ∈ userRoles.rows := by
    rw [hrows]
    exact List.mem_append_right _ (List.mem_singleton.mpr rfl)
  have hold : s.userRoles.rows ⊆ userRoles.rows := by
    rw [hrows]
    exact List.subset_append_left _ _
  constructor
  · intro hbounded' key hmem husable huser role' hrole' permission hgrants
    rw [hrole, List.mem_singleton] at hrole'
    subst hrole'
    obtain ⟨hmember, link, hlink, hid, htenant, hgrant⟩ :=
      hbounded' key hmem husable userId huser permission ⟨_, hnew, rfl, hgrants⟩
    refine ⟨hmember, ?_⟩
    rw [hrows, List.mem_append, List.mem_singleton] at hlink
    rcases hlink with hlink | rfl
    · exact Or.inr (Or.inr ⟨link, hlink, hid, htenant, hgrant⟩)
    · rcases htenant with htenant | htenant
      · exact Or.inl htenant
      · exact Or.inr (Or.inl htenant)
  · intro hkeeps key hmem husable user huser permission hgranted
    obtain ⟨link, hlink, hid, hgrant⟩ := hgranted
    rw [hrows, List.mem_append, List.mem_singleton] at hlink
    rcases hlink with hlink | rfl
    · have hwithin := hbounded key hmem husable user huser permission
        ⟨link, hlink, hid, hgrant⟩
      exact within_mono (s := s) (List.Subset.refl _) hold (fun _ => rfl) hwithin
    · change userId = user at hid
      subst hid
      have hmem_role : role ∈ systemRoles s roleName := by
        rw [hrole]
        exact List.mem_singleton.mpr rfl
      obtain ⟨hmember, htenant⟩ :=
        hkeeps key hmem husable huser role hmem_role permission hgrant
      rcases htenant with hnone | hown | hheld
      · exact ⟨hmember, _, hnew, rfl, Or.inl hnone, hgrant⟩
      · exact ⟨hmember, _, hnew, rfl, Or.inr hown, hgrant⟩
      · exact within_mono (s := s) (List.Subset.refl _) hold (fun _ => rfl)
          ⟨hmember, hheld⟩

theorem rowsBounded_deactivateUser {userId : String} (hbounded : RowsBounded s)
    (h : (Operation.deactivateUser userId).apply s = .ok s') :
    RowsBounded s' ↔ (Operation.deactivateUser userId).Keeps s := by
  obtain ⟨users, rfl, hrows⟩ := deactivateUser_rows h
  constructor
  · intro hbounded' key hmem husable huser permission hgranted
    obtain ⟨⟨user, hmem_user, hid, hactive, _⟩, _⟩ :=
      hbounded' key hmem husable userId huser permission hgranted
    obtain ⟨user₀, _, hmodified⟩ := (hrows user).mp hmem_user
    split at hmodified
    · subst hmodified
      cases hactive
    · next hne =>
        subst hmodified
        exact hne hid
  · intro hkeeps key hmem husable user huser permission hgranted
    obtain ⟨⟨row, hrow, hid, hmember⟩, hgrant⟩ :=
      hbounded key hmem husable user huser permission hgranted
    refine ⟨⟨row, ?_, hid, hmember⟩, hgrant⟩
    apply (hrows row).mpr
    refine ⟨row, hrow, if_neg ?_⟩
    intro heq
    have hsame : user = userId := hid.symm.trans heq
    subst hsame
    exact hkeeps key hmem husable huser permission hgranted

theorem rowsBounded_step {op : Operation} (hcatalogue : Catalogued s)
    (hbounded : RowsBounded s) (h : op.apply s = .ok s') :
    RowsBounded s' ↔ op.Keeps s := by
  cases op with
  | seedRbac newId => exact iff_of_true (rowsBounded_seedRbac hcatalogue hbounded h) trivial
  | provisionUser => exact iff_of_true (rowsBounded_provisionUser hbounded h) trivial
  | assignRole => exact rowsBounded_assignRole hbounded h
  | provisionApiKey => exact rowsBounded_provisionApiKey hbounded h
  | deactivateUser => exact rowsBounded_deactivateUser hbounded h
  | deactivateApiKey => exact iff_of_true (rowsBounded_deactivateApiKey hbounded h) trivial

theorem Catalogued.step {op : Operation} (h : Catalogued s)
    (happly : op.apply s = .ok s') : Catalogued s' := by
  cases op with
  | seedRbac newId => exact Or.inl (seedRbac_spec happly).1
  | provisionUser =>
      obtain ⟨users, rfl, _⟩ := provisionUser_rows happly
      exact h.imp (fun hseeded => ⟨hseeded.permissions, hseeded.roles⟩) id
  | assignRole =>
      obtain ⟨role, userRoles, hrole, rfl, _⟩ := assignRole_rows happly
      rcases h with hseeded | ⟨hroles, _⟩
      · exact Or.inl ⟨hseeded.permissions, hseeded.roles⟩
      · simp [systemRoles, hroles] at hrole
  | provisionApiKey =>
      obtain ⟨apiKeys, rfl, _⟩ := provisionApiKey_rows happly
      exact h.imp (fun hseeded => ⟨hseeded.permissions, hseeded.roles⟩) id
  | deactivateUser =>
      cases happly
      exact h.imp (fun hseeded => ⟨hseeded.permissions, hseeded.roles⟩) id
  | deactivateApiKey =>
      cases happly
      exact h.imp (fun hseeded => ⟨hseeded.permissions, hseeded.roles⟩) id

/-- What holds of the empty tables and is kept by every operation that takes
effect holds after every run. -/
theorem run_invariant {P : Identity → Prop} (hempty : P {})
    (hstep : ∀ {s s' : Identity} {op : Operation}, P s → op.apply s = .ok s' → P s')
    (ops : List Operation) : P (runOperations {} ops) := by
  induction ops using List.reverseRecOn with
  | nil => exact hempty
  | append_singleton ops op ih =>
      rw [runOperations, List.foldl_concat]
      change P (op.run (runOperations {} ops))
      unfold Operation.run
      split
      · next hok => exact hstep ih hok
      · exact ih

theorem catalogued_run (ops : List Operation) :
    Catalogued (runOperations {} ops) :=
  run_invariant (Or.inr ⟨rfl, rfl⟩) Catalogued.step ops

/-- Every operation of the run that takes effect respects the rule. -/
def RunKeeps (ops : List Operation) : Prop :=
  ∀ done op, done ++ [op] <+: ops →
    (∃ s', op.apply (runOperations {} done) = .ok s') →
    op.Keeps (runOperations {} done)

/-- The permissions are bounded in every state of a provisioning run if and only
if each of its operations respects the rule in the state it finds. The run starts without
tenants, users and keys. -/
theorem bounded_iff_keeps (ops : List Operation) :
    (∀ done, done <+: ops → Bounded (runOperations {} done)) ↔ RunKeeps ops := by
  simp only [bounded_iff_rows]
  induction ops using List.reverseRecOn with
  | nil =>
      constructor
      · intro _ done op hearly
        simp at hearly
      · intro _ done hearly
        rw [List.prefix_nil.mp hearly]
        intro key hmem
        cases hmem
  | append_singleton ops op ih =>
      have hstep : ∀ s', op.apply (runOperations {} ops) = .ok s' →
          runOperations {} (ops ++ [op]) = s' := by
        intro s' hok
        rw [runOperations, List.foldl_concat]
        change op.run (runOperations {} ops) = s'
        rw [Operation.run, hok]
      constructor
      · intro hbounded done op' hearly hok
        have hearlier := ih.mp fun done hdone =>
          hbounded done (hdone.trans (List.prefix_append _ _))
        rcases List.prefix_concat_iff.mp hearly with heq | hearly
        · obtain ⟨rfl, hop⟩ := List.append_inj' heq rfl
          cases hop
          obtain ⟨s', hok⟩ := hok
          have hbefore := hbounded done (List.prefix_append _ _)
          have hafter := hbounded _ (List.prefix_refl _)
          rw [hstep s' hok] at hafter
          exact (rowsBounded_step (catalogued_run done) hbefore hok).mp hafter
        · exact hearlier done op' hearly hok
      · intro hkeeps done hdone
        have hearlier := ih.mpr fun done op hearly =>
          hkeeps done op (hearly.trans (List.prefix_append _ _))
        rcases List.prefix_concat_iff.mp hdone with rfl | hdone
        · have hbefore := hearlier ops (List.prefix_refl _)
          cases hok : op.apply (runOperations {} ops) with
          | error e =>
              rw [runOperations, List.foldl_concat]
              change RowsBounded (op.run (runOperations {} ops))
              rw [Operation.run, hok]
              exact hbefore
          | ok s' =>
              rw [hstep s' hok]
              apply (rowsBounded_step (catalogued_run ops) hbefore hok).mpr
              exact hkeeps ops op (List.prefix_refl _) ⟨s', hok⟩
        · exact hearlier done hdone

end Bound

section Deactivated

local instance deactivatedDeployment : Deployment := Deployment.sqlite

def rowId (n : Nat) : String := "row-" ++ toString n

/-- A user receives a role and a key, and leaves. -/
def deactivatedRun : List Operation := [
  .seedRbac rowId,
  .provisionUser "u1" "t1" "ana@t1.example" none,
  .assignRole "l1" "u1" "Viewer" (some "t1"),
  .provisionApiKey "k1" "t1" "console" "secret" (some "u1"),
  .deactivateUser "u1"]

/-- The key of a deactivated user still carries the user's permissions. -/
theorem deactivated_user_keeps_permissions :
    ¬ ∀ ops, Bounded (runOperations {} ops) := by
  intro hbounded
  have hresolved : resolvePrincipal {} (runOperations {} deactivatedRun)
      (some "secret") = .ok ⟨some "t1", some "u1", ["view_audit"], false⟩ := by
    decide +kernel
  obtain ⟨_, ⟨user, hmem, hid, hactive, _⟩, _⟩ :=
    hbounded deactivatedRun _ _ _ "u1" "view_audit" hresolved rfl (by simp)
  have hinactive : ∀ user ∈ (runOperations {} deactivatedRun).users.rows,
      user.id = "u1" → user.isActive = false := by
    decide +kernel
  rw [hinactive user hmem hid] at hactive
  cases hactive

end Deactivated

end RbacService

end ControlPlane
