import ControlPlane.Services.RbacService

/-!
The seed of the permission catalogue. A completed seed leaves every role of the
matrix with its permissions, and a seed over such tables changes nothing, which
is what lets the application run it at every start.
-/

namespace ControlPlane

open Lib

namespace RbacService

/-- One role of the matrix is in the tables with its permissions. -/
def RoleSeeded (s : Identity) (name : String) (permNames : List String) : Prop :=
  ∃ role, systemRoles s name = [role] ∧ ∀ permName ∈ permNames,
    ∃ perm ∈ s.permissions.rows, perm.name = permName ∧
      ∃ link ∈ s.rolePermissions.rows,
        link.roleId = role.id ∧ link.permissionId = perm.id

structure Seeded (s : Identity) : Prop where
  permissions : ∀ name ∈ permissionNames,
    ∃ perm ∈ s.permissions.rows, perm.name = name
  roles : ∀ entry ∈ rolePermissions, RoleSeeded s entry.1 entry.2

/-- The dictionary of the first loop names rows of the table. -/
def Indexes (s : Identity) (perms : List (String × Permission)) : Prop :=
  ∀ name perm, perms.lookup name = some perm →
    perm ∈ s.permissions.rows ∧ perm.name = name

theorem Indexes.nil (s : Identity) : Indexes s [] := by
  intro name perm h
  cases h

theorem Indexes.cons {s : Identity} {perms : List (String × Permission)}
    {perm : Permission} (h : Indexes s perms) (hmem : perm ∈ s.permissions.rows) :
    Indexes s ((perm.name, perm) :: perms) := by
  intro name perm' hlookup
  rw [List.lookup_cons] at hlookup
  split at hlookup
  · next hname =>
      cases hlookup
      exact ⟨hmem, (eq_of_beq hname).symm⟩
  · exact h name perm' hlookup

theorem isSome_lookup_of_mem {perms : List (String × Permission)} {name : String}
    (h : name ∈ perms.map Prod.fst) : ∃ perm, perms.lookup name = some perm := by
  induction perms with
  | nil => cases h
  | cons entry perms ih =>
      obtain ⟨key, perm⟩ := entry
      rw [List.lookup_cons]
      cases hkey : name == key with
      | true => exact ⟨perm, rfl⟩
      | false =>
          apply ih
          have hne : name ≠ key := by simpa using hkey
          simpa [hne] using h

section Seed

variable {newId : Nat → String}

/-- The seed of the permissions adds permission rows only. -/
theorem seedPermission_spec {name : String} {s s' : Seeding} {perm : Permission}
    (h : seedPermission newId name s = .ok (perm, s')) :
    perm.name = name ∧ perm ∈ s'.rows.permissions.rows ∧
      s.rows.permissions.rows ⊆ s'.rows.permissions.rows ∧
      s'.rows = { s.rows with permissions := s'.rows.permissions } := by
  unfold seedPermission at h
  cases hfind : s.rows.permissions.findUnique? name with
  | some row =>
      rw [hfind] at h
      cases h
      have hrow := (Table.findUnique?_eq_some _).mp hfind
      exact ⟨Option.some.inj hrow.2, hrow.1, List.Subset.refl _, rfl⟩
  | none =>
      rw [hfind] at h
      obtain ⟨permissions, hinsert, hrest⟩ := bind_eq_ok.mp h
      cases hrest
      have hrows := Table.rows_insert (flushed_eq_ok.mp hinsert)
      refine ⟨rfl, ?_, ?_, rfl⟩
      · rw [hrows]
        exact List.mem_append_right _ (List.mem_singleton.mpr rfl)
      · rw [hrows]
        exact List.subset_append_left _ _

theorem seedPermissions_spec {names : List String} {s s' : Seeding}
    {perms : List (String × Permission)}
    (h : seedPermissions newId names s = .ok (perms, s')) :
    Indexes s'.rows perms ∧ perms.map Prod.fst = names ∧
      s.rows.permissions.rows ⊆ s'.rows.permissions.rows ∧
      s'.rows = { s.rows with permissions := s'.rows.permissions } := by
  induction names generalizing s s' perms with
  | nil =>
      cases h
      exact ⟨Indexes.nil _, rfl, List.Subset.refl _, rfl⟩
  | cons name names ih =>
      obtain ⟨⟨perm, s₁⟩, hfirst, hrest⟩ := bind_eq_ok.mp h
      obtain ⟨⟨perms', s₂⟩, hloop, hdone⟩ := bind_eq_ok.mp hrest
      cases hdone
      obtain ⟨hname, hmem, hsub, hrows⟩ := seedPermission_spec hfirst
      obtain ⟨hindex, hkeys, hsub', hrows'⟩ := ih hloop
      refine ⟨?_, ?_, List.Subset.trans hsub hsub', ?_⟩
      · rw [← hname]
        exact hindex.cons (hsub' hmem)
      · rw [List.map_cons, hkeys]
      · rw [hrows', hrows]

theorem seedRole_spec {name : String} {s s' : Seeding} {role : Role}
    (h : seedRole newId name s = .ok (role, s')) :
    systemRoles s'.rows name = [role] ∧
      (∀ other, other ≠ name → systemRoles s'.rows other = systemRoles s.rows other) ∧
      s'.rows = { s.rows with roles := s'.rows.roles } := by
  obtain ⟨found, hfound, hrest⟩ := bind_eq_ok.mp h
  cases found with
  | some row =>
      cases hrest
      exact ⟨scalarOneOrNone_eq_some.mp hfound, fun _ _ => rfl, rfl⟩
  | none =>
      obtain ⟨roles, hinsert, hdone⟩ := bind_eq_ok.mp hrest
      cases hdone
      have hrows := Table.rows_insert (flushed_eq_ok.mp hinsert)
      have hnone := scalarOneOrNone_eq_none.mp hfound
      refine ⟨?_, ?_, rfl⟩
      · unfold systemRoles at hnone ⊢
        rw [hrows, List.filter_append, hnone]
        simp
      · intro other hother
        unfold systemRoles
        rw [hrows, List.filter_append]
        simp [hother.symm]

theorem seedLink_spec {roleId permissionId : String} {s s' : Seeding}
    (h : seedLink newId roleId permissionId s = .ok s') :
    (∃ link ∈ s'.rows.rolePermissions.rows,
      link.roleId = roleId ∧ link.permissionId = permissionId) ∧
      s.rows.rolePermissions.rows ⊆ s'.rows.rolePermissions.rows ∧
      s'.rows = { s.rows with rolePermissions := s'.rows.rolePermissions } := by
  unfold seedLink at h
  cases hfind : s.rows.rolePermissions.findUnique? (roleId, permissionId) with
  | some link =>
      rw [hfind] at h
      cases h
      obtain ⟨hmem, hcolumns⟩ := (Table.findUnique?_eq_some _).mp hfind
      obtain ⟨hrole, hperm⟩ := Prod.mk.inj (Option.some.inj hcolumns)
      exact ⟨⟨link, hmem, hrole, hperm⟩, List.Subset.refl _, rfl⟩
  | none =>
      rw [hfind] at h
      obtain ⟨links, hinsert, hdone⟩ := bind_eq_ok.mp h
      cases hdone
      have hrows := Table.rows_insert (flushed_eq_ok.mp hinsert)
      refine ⟨⟨⟨newId s.drawn, roleId, permissionId⟩, ?_, rfl, rfl⟩, ?_, rfl⟩
      · rw [hrows]
        exact List.mem_append_right _ (List.mem_singleton.mpr rfl)
      · rw [hrows]
        exact List.subset_append_left _ _

theorem seedLinks_spec {perms : List (String × Permission)} {roleId : String}
    {names : List String} {s s' : Seeding} (hindex : Indexes s.rows perms)
    (h : seedLinks newId perms roleId names s = .ok s') :
    (∀ name ∈ names, ∃ perm ∈ s'.rows.permissions.rows, perm.name = name ∧
      ∃ link ∈ s'.rows.rolePermissions.rows,
        link.roleId = roleId ∧ link.permissionId = perm.id) ∧
      s.rows.rolePermissions.rows ⊆ s'.rows.rolePermissions.rows ∧
      s'.rows = { s.rows with rolePermissions := s'.rows.rolePermissions } := by
  induction names generalizing s with
  | nil =>
      cases h
      exact ⟨fun _ hname => absurd hname List.not_mem_nil, List.Subset.refl _, rfl⟩
  | cons name names ih =>
      unfold seedLinks at h
      cases hlookup : perms.lookup name with
      | none =>
          rw [hlookup] at h
          cases h
      | some perm =>
          rw [hlookup] at h
          obtain ⟨s₁, hfirst, hrest⟩ := bind_eq_ok.mp h
          obtain ⟨⟨link, hlink, hcolumns⟩, hsub, hrows⟩ := seedLink_spec hfirst
          have hindex₁ : Indexes s₁.rows perms := by
            rw [hrows]
            exact hindex
          obtain ⟨hlater, hsub', hrows'⟩ := ih hindex₁ hrest
          refine ⟨?_, List.Subset.trans hsub hsub', ?_⟩
          · intro n hn
            rcases List.mem_cons.mp hn with rfl | hn
            · obtain ⟨hmem, hname⟩ := hindex n perm hlookup
              refine ⟨perm, ?_, hname, link, hsub' hlink, hcolumns⟩
              rw [hrows', hrows]
              exact hmem
            · exact hlater n hn
          · rw [hrows', hrows]

/-- The loop over the matrix: its roles are seeded, and no other system role
and none of the remaining tables is touched. -/
theorem seedRoles_spec {perms : List (String × Permission)}
    {matrix : List (String × List String)} {s s' : Seeding}
    (hindex : Indexes s.rows perms) (hnames : (matrix.map Prod.fst).Nodup)
    (h : seedRoles newId perms matrix s = .ok s') :
    (∀ entry ∈ matrix, RoleSeeded s'.rows entry.1 entry.2) ∧
      (∀ other, other ∉ matrix.map Prod.fst →
        systemRoles s'.rows other = systemRoles s.rows other) ∧
      s.rows.rolePermissions.rows ⊆ s'.rows.rolePermissions.rows ∧
      s'.rows = { s.rows with
        roles := s'.rows.roles
        rolePermissions := s'.rows.rolePermissions } := by
  induction matrix generalizing s with
  | nil =>
      cases h
      exact ⟨fun _ hentry => absurd hentry List.not_mem_nil, fun _ _ => rfl,
        List.Subset.refl _, rfl⟩
  | cons entry matrix ih =>
      obtain ⟨name, permNames⟩ := entry
      obtain ⟨⟨role, s₁⟩, hrole, hrest⟩ := bind_eq_ok.mp h
      obtain ⟨s₂, hlinks, hloop⟩ := bind_eq_ok.mp hrest
      obtain ⟨hfound, hothers, hrows₁⟩ := seedRole_spec hrole
      have hindex₁ : Indexes s₁.rows perms := by
        rw [hrows₁]
        exact hindex
      obtain ⟨hlinked, hsub₂, hrows₂⟩ := seedLinks_spec hindex₁ hlinks
      have hindex₂ : Indexes s₂.rows perms := by
        rw [hrows₂]
        exact hindex₁
      rw [List.map_cons, List.nodup_cons] at hnames
      obtain ⟨hseeded, hothers', hsub', hrows'⟩ := ih hindex₂ hnames.2 hloop
      have hroles : ∀ n, systemRoles s₂.rows n = systemRoles s₁.rows n := by
        intro n
        rw [hrows₂]
        rfl
      refine ⟨?_, ?_, ?_, ?_⟩
      · intro entry hentry
        rcases List.mem_cons.mp hentry with rfl | hentry
        · refine ⟨role, ?_, ?_⟩
          · rw [hothers' name hnames.1, hroles, hfound]
          · intro permName hpermName
            obtain ⟨perm, hperm, hname, link, hlink, hcolumns⟩ :=
              hlinked permName hpermName
            refine ⟨perm, ?_, hname, link, hsub' hlink, hcolumns⟩
            rw [hrows']
            exact hperm
        · exact hseeded entry hentry
      · intro other hother
        rw [List.map_cons, List.mem_cons, not_or] at hother
        rw [hothers' other hother.2, hroles, hothers other hother.1]
      · have hlinks₁ : s₁.rows.rolePermissions = s.rows.rolePermissions := by
          rw [hrows₁]
        rw [hlinks₁] at hsub₂
        exact List.Subset.trans hsub₂ hsub'
      · rw [hrows', hrows₂, hrows₁]

theorem rolePermissions_nodup : (rolePermissions.map Prod.fst).Nodup := by
  decide

/-- A completed seed leaves the whole catalogue behind and touches neither
users, nor assignments, nor keys. -/
theorem seedRbac_spec {s s' : Identity} (h : seedRbac newId s = .ok s') :
    Seeded s' ∧ s'.users = s.users ∧ s'.userRoles = s.userRoles ∧
      s'.apiKeys = s.apiKeys := by
  obtain ⟨⟨perms, s₁⟩, hperms, hrest⟩ := bind_eq_ok.mp h
  obtain ⟨s₂, hroles, hdone⟩ := bind_eq_ok.mp hrest
  cases hdone
  obtain ⟨hindex, hkeys, _, hrows₁⟩ := seedPermissions_spec hperms
  obtain ⟨hseeded, _, _, hrows₂⟩ :=
    seedRoles_spec hindex rolePermissions_nodup hroles
  refine ⟨⟨?_, hseeded⟩, ?_, ?_, ?_⟩
  · intro name hname
    rw [← hkeys] at hname
    obtain ⟨perm, hperm⟩ := isSome_lookup_of_mem hname
    rw [hrows₂]
    exact ⟨perm, hindex name perm hperm⟩
  all_goals rw [hrows₂, hrows₁]

end Seed

section Reseed

variable (newId : Nat → String)

theorem seedPermission_of_mem {name : String} {s : Seeding}
    (h : ∃ perm ∈ s.rows.permissions.rows, perm.name = name) :
    ∃ perm, seedPermission newId name s = .ok (perm, s) := by
  obtain ⟨perm, hmem, hname⟩ := h
  have hfind : s.rows.permissions.findUnique? name = some perm :=
    (Table.findUnique?_eq_some _).mpr ⟨hmem, congrArg some hname⟩
  exact ⟨perm, by rw [seedPermission, hfind]⟩

theorem seedPermissions_of_mem {names : List String} {s : Seeding}
    (h : ∀ name ∈ names, ∃ perm ∈ s.rows.permissions.rows, perm.name = name) :
    ∃ perms, seedPermissions newId names s = .ok (perms, s) := by
  induction names with
  | nil => exact ⟨[], rfl⟩
  | cons name names ih =>
      obtain ⟨hfirst, hrest⟩ := List.forall_mem_cons.mp h
      obtain ⟨perm, hperm⟩ := seedPermission_of_mem newId hfirst
      obtain ⟨perms, hperms⟩ := ih hrest
      refine ⟨(name, perm) :: perms, ?_⟩
      apply bind_eq_ok.mpr
      refine ⟨(perm, s), hperm, ?_⟩
      exact bind_eq_ok.mpr ⟨(perms, s), hperms, rfl⟩

/-- The dictionary finds the one permission row of that name. -/
theorem Indexes.lookup {s : Identity} {perms : List (String × Permission)}
    {perm : Permission} (h : Indexes s perms) (hmem : perm ∈ s.permissions.rows)
    (hkey : perm.name ∈ perms.map Prod.fst) :
    perms.lookup perm.name = some perm := by
  obtain ⟨found, hfound⟩ := isSome_lookup_of_mem hkey
  obtain ⟨hrow, hname⟩ := h _ _ hfound
  have heq : found = perm :=
    s.permissions.eq_of_uniq hrow hmem (congrArg some hname) rfl
  rw [hfound, heq]

theorem seedLinks_of_linked {perms : List (String × Permission)} {roleId : String}
    {names : List String} {s : Seeding} (hindex : Indexes s.rows perms)
    (hkeys : ∀ name ∈ names, name ∈ perms.map Prod.fst)
    (h : ∀ name ∈ names, ∃ perm ∈ s.rows.permissions.rows, perm.name = name ∧
      ∃ link ∈ s.rows.rolePermissions.rows,
        link.roleId = roleId ∧ link.permissionId = perm.id) :
    seedLinks newId perms roleId names s = .ok s := by
  induction names with
  | nil => rfl
  | cons name names ih =>
      obtain ⟨⟨perm, hperm, rfl, link, hlink, hrole, hpermission⟩, hrest⟩ :=
        List.forall_mem_cons.mp h
      obtain ⟨hkey, hkeys⟩ := List.forall_mem_cons.mp hkeys
      have hfind : s.rows.rolePermissions.findUnique? (roleId, perm.id) = some link := by
        apply (Table.findUnique?_eq_some _).mpr
        exact ⟨hlink, by rw [hrole, hpermission]⟩
      have hstep : seedLink newId roleId perm.id s = .ok s := by
        rw [seedLink, hfind]
      rw [seedLinks, hindex.lookup hperm hkey]
      exact bind_eq_ok.mpr ⟨s, hstep, ih hkeys hrest⟩

theorem seedRoles_of_seeded {perms : List (String × Permission)}
    {matrix : List (String × List String)} {s : Seeding}
    (hindex : Indexes s.rows perms)
    (hkeys : ∀ entry ∈ matrix, ∀ name ∈ entry.2, name ∈ perms.map Prod.fst)
    (h : ∀ entry ∈ matrix, RoleSeeded s.rows entry.1 entry.2) :
    seedRoles newId perms matrix s = .ok s := by
  induction matrix with
  | nil => rfl
  | cons entry matrix ih =>
      obtain ⟨name, permNames⟩ := entry
      obtain ⟨⟨role, hfound, hlinked⟩, hrest⟩ := List.forall_mem_cons.mp h
      obtain ⟨hkey, hkeys⟩ := List.forall_mem_cons.mp hkeys
      have hrole : seedRole newId name s = .ok (role, s) := by
        apply bind_eq_ok.mpr
        exact ⟨some role, scalarOneOrNone_eq_some.mpr hfound, rfl⟩
      have hlinks := seedLinks_of_linked newId hindex hkey hlinked
      apply bind_eq_ok.mpr
      refine ⟨(role, s), hrole, ?_⟩
      exact bind_eq_ok.mpr ⟨s, hlinks, ih hkeys hrest⟩

theorem rolePermissions_named :
    ∀ entry ∈ rolePermissions, ∀ name ∈ entry.2, name ∈ permissionNames := by
  decide

/-- The seed is idempotent. -/
theorem seedRbac_of_seeded {s : Identity} (h : Seeded s) :
    seedRbac newId s = .ok s := by
  obtain ⟨perms, hperms⟩ :=
    seedPermissions_of_mem newId (s := ⟨s, 0⟩) h.permissions
  obtain ⟨hindex, hkeys, _, _⟩ := seedPermissions_spec hperms
  have hroles := seedRoles_of_seeded newId (s := ⟨s, 0⟩) hindex
    (by rw [hkeys]; exact rolePermissions_named) h.roles
  apply bind_eq_ok.mpr
  refine ⟨(perms, ⟨s, 0⟩), hperms, ?_⟩
  exact bind_eq_ok.mpr ⟨⟨s, 0⟩, hroles, rfl⟩

end Reseed

end RbacService

end ControlPlane
