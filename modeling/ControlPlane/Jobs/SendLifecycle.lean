import ControlPlane.Jobs.Dossier

/-!
Complete operations one after the other, from an empty database, in steady surroundings.
Each of them moves at most one file, so every file is in one of its phases.
-/

namespace ControlPlane

open Lib JobService AuditService ApprovalService EmailService ChatOrchestrate Tasks Runner

/-- An id that is not empty, or an error that is none of the session. -/
def Usable : Except PyErr String → Prop
  | .ok id => id ≠ ""
  | .error e => e.poisons = false

instance : DecidablePred Usable
  | .ok id => inferInstanceAs (Decidable (id ≠ ""))
  | .error e => inferInstanceAs (Decidable (e.poisons = false))

/-- What the connector may answer. -/
def usual : (q : Call) → Reply q → Prop
  | .createDraft _ _ _, r => Usable r
  | .sendApprovedDraft _ _, r => Usable r
  | .readThread _, .error e => e.poisons = false
  | .readThread _, .ok _ => True
  | .select _, _ => True
  | .commit _, _ => True

instance : ∀ (q : Call) (r : Reply q), Decidable (usual q r)
  | .createDraft _ _ _, (r : Except PyErr String) => inferInstanceAs (Decidable (Usable r))
  | .sendApprovedDraft _ _, (r : Except PyErr String) => inferInstanceAs (Decidable (Usable r))
  | .readThread _, .error e => inferInstanceAs (Decidable (e.poisons = false))
  | .readThread _, .ok _ => isTrue trivial
  | .select _, _ => isTrue trivial
  | .commit _, _ => isTrue trivial

/-- The surroundings answer as usual, or better. -/
def Usual (heard : (q : Call) → Reply q → Prop) : Prop := ∀ q r, heard q r → usual q r

section

variable [Deployment] {heard : (q : Call) → Reply q → Prop}

/-- The store after complete operations that met a condition, with the calls of the
connector so far. -/
inductive Steps (heard : (q : Call) → Reply q → Prop)
    (meets : Option Request → Database → Prop) :
    List (Event Call Reply) → Database → Prop where
  | start : Steps heard meets [] {}
  | step {log trace : List (Event Call Reply)} {s s' : Database} {request : Option Request}
      {result : Except PyErr Outcome} (h : Steps heard meets log s) (hmeets : meets request s)
      (hrun : Prog.Runs (steady heard) (program request) s trace result s') :
      Steps heard meets (log ++ outward trace) s'

/-- Any operations. -/
abbrev SendHistory (heard : (q : Call) → Reply q → Prop) :=
  Steps heard fun _ _ => True

omit [Deployment] in
theorem Usual.sane (h : Usual heard) : Sane heard := by
  intro q r hheard e hraised
  have hr := h q r hheard
  cases q with
  | createDraft threadId subject body =>
      cases r with
      | ok id => cases hraised
      | error e' =>
          cases hraised
          exact hr
  | sendApprovedDraft approvalId draftId =>
      cases r with
      | ok id => cases hraised
      | error e' =>
          cases hraised
          exact hr
  | readThread threadId =>
      cases r with
      | ok data => cases hraised
      | error e' =>
          cases hraised
          exact hr
  | select query => cases hraised
  | commit tx => cases hraised

/-- Events that were appended one after the other. -/
inductive Recorded : AuditTable → Prop where
  | start : Recorded ({} : Database).auditEvents
  | appended {e : NewEvent} {before after : AuditTable} (h : Recorded before)
      (hevent : Appended e before after) : Recorded after

/-- The files of the store, and how the tables hang together. -/
structure Wired (log : List (Event Call Reply)) (s : Database) : Prop where
  files : ∀ id, Filed id (dossier log s id)
  jobs : ∀ job ∈ s.jobs.rows,
    (job.type = chatOrchestrateType ∧ job.id ≠ "" ∧ job.idempotencyKey = none) ∨
      job.type = emailSendApprovedType ∧ ∃ id, job.idempotencyKey = some (sendKey id)
  /-- The job behind a request exists. -/
  sources : ∀ row ∈ s.approvals.rows, ∀ id,
    (loads row.payloadJson).get? "job_id" = some (.str id) → (s.jobs.find? id).isSome
  /-- There are no events of jobs that do not exist. -/
  untold : ∀ id, s.jobs.find? id = none → trail "job" id s.auditEvents = []
  recorded : Recorded s.auditEvents

/-- Only one file is touched. -/
structure Touches (id : String) (log : List (Event Call Reply)) (s : Database)
    (log' : List (Event Call Reply)) (s' : Database) : Prop where
  approvals : ∀ k, k ≠ id → s'.approvals.find? k = s.approvals.find? k
  jobs : ∀ k, k ≠ id → s'.jobs.findUnique? (sendKey k) = s.jobs.findUnique? (sendKey k)
  deliveries : ∀ k, k ≠ id →
    s'.emailDeliveries.findUnique? k = s.emailDeliveries.findUnique? k
  trails : ∀ k, k ≠ id →
    trail "approval" k s'.auditEvents = trail "approval" k s.auditEvents
  jobTrails : ∀ k, k ≠ id → ∀ job, s.jobs.findUnique? (sendKey k) = some job →
    trail "job" job.id s'.auditEvents = trail "job" job.id s.auditEvents
  sends : ∀ k, k ≠ id → sends log' k = sends log k

omit [Deployment] in
theorem Touches.dossier {id k : String} {log log' : List (Event Call Reply)}
    {s s' : Database} (h : Touches id log s log' s') (hk : k ≠ id) :
    dossier log' s' k = dossier log s k := by
  have hjobTrail : (s.jobs.findUnique? (sendKey k)).elim []
      (fun job => trail "job" job.id s'.auditEvents) =
        (s.jobs.findUnique? (sendKey k)).elim []
          fun job => trail "job" job.id s.auditEvents := by
    cases hjob : s.jobs.findUnique? (sendKey k) with
    | none => rfl
    | some job => exact h.jobTrails k hk job hjob
  unfold ControlPlane.dossier
  rw [h.approvals k hk, h.jobs k hk, h.deliveries k hk, h.trails k hk, h.sends k hk,
    hjobTrail]

section

variable {id : String} {log log₁ log₂ : List (Event Call Reply)} {s s₁ s₂ : Database}

omit [Deployment] in
theorem Touches.trans (h : Touches id log s log₁ s₁) (h' : Touches id log₁ s₁ log₂ s₂) :
    Touches id log s log₂ s₂ where
  approvals k hk := (h'.approvals k hk).trans (h.approvals k hk)
  jobs k hk := (h'.jobs k hk).trans (h.jobs k hk)
  deliveries k hk := (h'.deliveries k hk).trans (h.deliveries k hk)
  trails k hk := (h'.trails k hk).trans (h.trails k hk)
  jobTrails k hk job hjob :=
    (h'.jobTrails k hk job ((h.jobs k hk).trans hjob)).trans (h.jobTrails k hk job hjob)
  sends k hk := (h'.sends k hk).trans (h.sends k hk)

omit [Deployment] in
theorem touches_approvals {row : ApprovalRequest} {approvals : ApprovalTable}
    (hputs : s.approvals.Puts approvals row) (hid : row.id = id) :
    Touches id log s log { s with approvals := approvals } where
  approvals k hk := hputs.other k (by rw [hid]; exact hk)
  jobs _ _ := rfl
  deliveries _ _ := rfl
  trails _ _ := rfl
  jobTrails _ _ _ _ := rfl
  sends _ _ := rfl

omit [Deployment] in
theorem touches_jobs {job : Job} {jobs : JobTable} (hputs : s.jobs.Puts jobs job)
    (hkey : job.idempotencyKey = some (sendKey id)) :
    Touches id log s log { s with jobs := jobs } where
  approvals _ _ := rfl
  jobs k hk := by
    apply hputs.findUnique?_of_ne
    rw [hkey]
    intro heq
    exact hk (sendKey_injective (Option.some.inj heq)).symm
  deliveries _ _ := rfl
  trails _ _ := rfl
  jobTrails _ _ _ _ := rfl
  sends _ _ := rfl

omit [Deployment] in
theorem touches_deliveries {row : EmailDeliveryRecord} {deliveries : DeliveryTable}
    (hputs : s.emailDeliveries.Puts deliveries row) (hid : row.approvalId = some id) :
    Touches id log s log { s with emailDeliveries := deliveries } where
  approvals _ _ := rfl
  jobs _ _ := rfl
  deliveries k hk := by
    apply hputs.findUnique?_of_ne
    rw [hid]
    intro heq
    exact hk (Option.some.inj heq).symm
  trails _ _ := rfl
  jobTrails _ _ _ _ := rfl
  sends _ _ := rfl

theorem trail_other {e : NewEvent} {before after : AuditTable} (h : Appended e before after)
    {kind id : String} (hother : ¬(e.resourceType = kind ∧ e.resourceId = id)) :
    trail kind id after = trail kind id before := by
  rw [trail_appended h, if_neg hother, List.append_nil]

theorem trail_self {e : NewEvent} {before after : AuditTable} (h : Appended e before after)
    {kind id : String} (hkind : e.resourceType = kind) (hid : e.resourceId = id) :
    trail kind id after = trail kind id before ++ [e.line] := by
  rw [trail_appended h, if_pos ⟨hkind, hid⟩]

/-- An event of the request. -/
theorem touches_event {e : NewEvent} {events : AuditTable}
    (h : Appended e s.auditEvents events) (hkind : e.resourceType = "approval")
    (hid : e.resourceId = id) : Touches id log s log { s with auditEvents := events } where
  approvals _ _ := rfl
  jobs _ _ := rfl
  deliveries _ _ := rfl
  trails k hk := trail_other h fun hmatch => hk (hmatch.2.symm.trans hid)
  jobTrails k hk job hjob := trail_other h (by simp [hkind])
  sends _ _ := rfl

/-- An event of the job that sends the request. -/
theorem touches_jobEvent {e : NewEvent} {events : AuditTable} {job : Job}
    (h : Appended e s.auditEvents events) (hkind : e.resourceType = "job")
    (hid : e.resourceId = job.id) (hjob : s.jobs.findUnique? (sendKey id) = some job) :
    Touches id log s log { s with auditEvents := events } where
  approvals _ _ := rfl
  jobs _ _ := rfl
  deliveries _ _ := rfl
  trails k hk := trail_other h (by simp [hkind])
  jobTrails k hk other hother := by
    apply trail_other h
    rintro ⟨_, hsame⟩
    obtain ⟨hmem, hkey⟩ := s.jobs.findUnique?_eq_some.mp hjob
    obtain ⟨hmem', hkey'⟩ := s.jobs.findUnique?_eq_some.mp hother
    have heq : other = job :=
      List.inj_on_of_nodup_map s.jobs.key_nodup hmem' hmem (hsame.symm.trans hid)
    rw [heq, hkey] at hkey'
    exact hk (sendKey_injective (Option.some.inj hkey')).symm
  sends _ _ := rfl

omit [Deployment] in
theorem touches_send {draftId : String} {reply : Except PyErr String} :
    Touches id log s (log ++ [sendEvent id draftId reply]) s where
  approvals _ _ := rfl
  jobs _ _ := rfl
  deliveries _ _ := rfl
  trails _ _ := rfl
  jobTrails _ _ _ _ := rfl
  sends k hk := by
    rw [sends_append, sends_sendEvent, if_neg fun h => hk h.symm, List.append_nil]

end

theorem Wired.files_move (id : String) {log log' : List (Event Call Reply)}
    {s s' : Database} (h : Wired log s) (htouches : Touches id log s log' s')
    (hmove : Move id (dossier log s id) (dossier log' s' id)) (k : String) :
    Filed k (dossier log' s' k) := by
  by_cases hk : k = id
  · rw [hk]
    exact (h.files id).move hmove
  · rw [htouches.dossier hk]
    exact h.files k

section

variable {log : List (Event Call Reply)} {s s' : Database}

omit [Deployment] in
theorem Filed.eq_absent {id : String} {d : Dossier} (h : Filed id d) (hnone : d.approval = none) :
    d = ⟨none, none, none, [], [], []⟩ := by
  cases h with
  | absent => rfl
  | undrafted => cases hnone
  | drafted => cases hnone
  | queued => cases hnone
  | sent => cases hnone

theorem wired_start : Wired [] {} where
  files _ := .absent
  jobs := by rintro job ⟨⟩
  sources := by rintro row ⟨⟩
  untold _ _ := rfl
  recorded := .start

/-- Calls that send nothing. -/
theorem Wired.logged (h : Wired log s) {calls : List (Event Call Reply)}
    (hcalls : ∀ id, sends calls id = []) : Wired (log ++ calls) s where
  files id := by
    have hsame : dossier (log ++ calls) s id = dossier log s id := by
      unfold dossier
      rw [sends_append, hcalls, List.append_nil]
    rw [hsame]
    exact h.files id
  jobs := h.jobs
  sources := h.sources
  untold := h.untold
  recorded := h.recorded

/-- The files do not hold mail threads. -/
theorem Wired.threads (h : Wired log s) (threads : ThreadTable) :
    Wired log { s with emailThreads := threads } where
  files := h.files
  jobs := h.jobs
  sources := h.sources
  untold := h.untold
  recorded := h.recorded

/-- A job for a message, new or written again. -/
theorem Wired.chatJob (h : Wired log s) {job : Job} {jobs : JobTable}
    (hputs : s.jobs.Puts jobs job) (htype : job.type = chatOrchestrateType) (hid : job.id ≠ "")
    (hkey : job.idempotencyKey = none) : Wired log { s with jobs := jobs } where
  files id := by
    have hsame : jobs.findUnique? (sendKey id) = s.jobs.findUnique? (sendKey id) :=
      hputs.findUnique?_of_ne (by simp [hkey])
    have hfile : dossier log { s with jobs := jobs } id = dossier log s id := by
      unfold dossier
      dsimp only
      rw [hsame]
    rw [hfile]
    exact h.files id
  jobs other hother := by
    rcases hputs.mem.mp hother with rfl | ⟨hold, _⟩
    · exact Or.inl ⟨htype, hid, hkey⟩
    · exact h.jobs other hold
  sources row hrow id hsource := hputs.find?_isSome (h.sources row hrow id hsource)
  untold id hnone := by
    apply h.untold
    by_contra hsome
    have hstill := hputs.find?_isSome (Option.isSome_iff_ne_none.mpr hsome)
    rw [hnone] at hstill
    cases hstill
  recorded := h.recorded

/-- The row of a new request, with or without a draft. -/
theorem Opened.filing {job : Job} {payload : ChatPayload} {row : ApprovalRequest}
    {events : AuditTable} (h : Opened job payload s row events) : Filing row.id row where
  id_eq := rfl
  id_ne := h.requested.id_ne
  kind_eq := h.requested.kind_eq
  unsent := by
    unfold Unsent
    rw [h.requested.payload_eq]
    exact Dict.get?_update_of_not_mem _ _ (by simp [gateFields])

theorem Opened.not_hasDraft {job : Job} {payload : ChatPayload} {row : ApprovalRequest}
    {events : AuditTable} (h : Opened job payload s row events) : ¬HasDraft row := by
  have hnone : (loads row.payloadJson).get? "gmail_draft_id" = none := by
    rw [h.requested.payload_eq]
    exact Dict.get?_update_of_not_mem _ _ (by simp [gateFields])
  rw [HasDraft, hnone]
  simp [Json.truthy]

theorem Opened.job_get {job : Job} {payload : ChatPayload} {row : ApprovalRequest}
    {events : AuditTable} (h : Opened job payload s row events) :
    (loads row.payloadJson).get? "job_id" = some (.str job.id) := by
  rw [h.requested.payload_eq]
  exact Dict.get?_update_of_not_mem _ _ (by simp [gateFields])

theorem drafted_merged {job : Job} {payload : ChatPayload} {row : ApprovalRequest}
    {events : AuditTable} (h : Opened job payload s row events) (hjob : job.id ≠ "")
    {draftId : String} (hdraft : draftId ≠ "") :
    Drafted (merged row (draftFields payload draftId)) draftId where
  draft_eq := by
    simp [merged, draftFields, loads, Dict.get?_set_of_ne]
  draft_ne := hdraft
  workflow_eq := by
    simp [merged, draftFields, loads]
  source := by
    refine ⟨job.id, hjob, ?_⟩
    exact (Dict.get?_update_of_not_mem _ _ (by simp [draftFields])).trans h.job_get

/-- A request whose draft was not asked for, or was refused. -/
theorem Wired.opened (h : Wired log s) {job : Job} {payload : ChatPayload}
    {row : ApprovalRequest} {approvals : ApprovalTable} {events : AuditTable}
    (hopened : Opened job payload s row events) (hputs : s.approvals.Puts approvals row)
    (hjob : (s.jobs.find? job.id).isSome) :
    Wired log { s with approvals := approvals, auditEvents := events } where
  files := by
    have htouches : Touches row.id log s log
        { s with approvals := approvals, auditEvents := events } :=
      (touches_approvals hputs rfl).trans (touches_event hopened.recorded rfl rfl)
    apply h.files_move row.id htouches
    have habsent := (h.files row.id).eq_absent hopened.requested.fresh
    have hfile : dossier log { s with approvals := approvals, auditEvents := events } row.id =
        ⟨some row, none, none, [(createdEvent jobGate job.tenantId job.id row.id).line],
          [], []⟩ := by
      unfold dossier at habsent ⊢
      rw [Dossier.mk.injEq] at habsent
      obtain ⟨_, hnojob, hnodelivery, hnotrail, _, hnosends⟩ := habsent
      have htrail : trail "approval" row.id events = trail "approval" row.id s.auditEvents ++
          [(createdEvent jobGate job.tenantId job.id row.id).line] :=
        trail_self hopened.recorded rfl rfl
      dsimp only
      rw [hputs.self, hnojob, hnodelivery, hnosends, htrail, hnotrail]
      rfl
    rw [habsent, hfile]
    exact .opened hopened.filing hopened.requested.status_eq hopened.not_hasDraft rfl
  jobs := h.jobs
  sources other hother id hsource := by
    rcases hputs.mem.mp hother with rfl | ⟨hold, _⟩
    · rw [hopened.job_get] at hsource
      cases hsource
      exact hjob
    · exact h.sources other hold id hsource
  untold id hnone := by
    have hother : trail "job" id events = trail "job" id s.auditEvents :=
      trail_other hopened.recorded (by simp [createdEvent])
    exact hother.trans (h.untold id hnone)
  recorded := h.recorded.appended hopened.recorded

/-- A request with its draft and its delivery. -/
theorem Wired.drafted (h : Wired log s) {job : Job} {payload : ChatPayload}
    {row : ApprovalRequest} {draftId : String} {delivery : EmailDeliveryRecord}
    {approvals : ApprovalTable} {events : AuditTable} {deliveries : DeliveryTable}
    (hopened : Opened job payload s row events)
    (hputs : s.approvals.Puts approvals (merged row (draftFields payload draftId)))
    (hdelivery : Upserted job.tenantId draftId row.id job.id .awaitingApproval
      s.emailDeliveries delivery) (hupsert : s.emailDeliveries.Puts deliveries delivery)
    (hjob : (s.jobs.find? job.id).isSome) (hid : job.id ≠ "") (hdraft : draftId ≠ "") :
    Wired log { s with
      approvals := approvals
      auditEvents := events
      emailDeliveries := deliveries } where
  files := by
    have htouches : Touches row.id log s log { s with
        approvals := approvals
        auditEvents := events
        emailDeliveries := deliveries } :=
      ((touches_approvals hputs rfl).trans (touches_event hopened.recorded rfl rfl)).trans
        (touches_deliveries hupsert hdelivery.approval_eq)
    apply h.files_move row.id htouches
    have habsent := (h.files row.id).eq_absent hopened.requested.fresh
    have hparts := habsent
    unfold dossier at hparts
    rw [Dossier.mk.injEq] at hparts
    obtain ⟨_, hnojob, hnodelivery, hnotrail, _, hnosends⟩ := hparts
    have hfile : dossier log { s with
        approvals := approvals
        auditEvents := events
        emailDeliveries := deliveries } row.id =
        ⟨some (merged row (draftFields payload draftId)), none, some delivery,
          [(createdEvent jobGate job.tenantId job.id row.id).line], [], []⟩ := by
      have hself : approvals.find? row.id = some (merged row (draftFields payload draftId)) :=
        hputs.self
      have htrail : trail "approval" row.id events = trail "approval" row.id s.auditEvents ++
          [(createdEvent jobGate job.tenantId job.id row.id).line] :=
        trail_self hopened.recorded rfl rfl
      unfold dossier
      dsimp only
      rw [hself, hnojob, hupsert.findUnique?_self hdelivery.approval_eq, hnosends, htrail,
        hnotrail]
      rfl
    have hfiling : Filing row.id (merged row (draftFields payload draftId)) := by
      refine ⟨⟨rfl, hopened.filing.id_ne, hopened.filing.kind_eq⟩, ?_⟩
      exact (Dict.get?_update_of_not_mem _ _ (by simp [draftFields])).trans
        hopened.filing.unsent
    rw [habsent, hfile]
    exact .drafted hfiling hopened.requested.status_eq (drafted_merged hopened hid hdraft)
      hdelivery.status_eq (hdelivery.new hnodelivery).1 rfl
  jobs := h.jobs
  sources other hother id hsource := by
    rcases hputs.mem.mp hother with rfl | ⟨hold, _⟩
    · have hsame : (loads (merged row (draftFields payload draftId)).payloadJson).get? "job_id" =
          some (.str job.id) :=
        (Dict.get?_update_of_not_mem _ _ (by simp [draftFields])).trans hopened.job_get
      rw [hsame] at hsource
      cases hsource
      exact hjob
    · exact h.sources other hold id hsource
  untold id hnone := by
    have hother : trail "job" id events = trail "job" id s.auditEvents :=
      trail_other hopened.recorded (by simp [createdEvent])
    exact hother.trans (h.untold id hnone)
  recorded := h.recorded.appended hopened.recorded

/-- What the service of a `chat.orchestrate` job leaves. -/
theorem Wired.executed (h : Wired log s) {job : Job} {calls : List (Event Call Reply)}
    {outcome : Except PyErr ChatOrchestrateResult} (hheard : ∀ e ∈ calls, usual e.call e.answer)
    (hjob : (s.jobs.find? job.id).isSome) (hid : job.id ≠ "")
    (hrun : Executed job s calls outcome s') : Wired (log ++ calls) s' := by
  cases hrun with
  | invalid => exact h.logged fun _ => rfl
  | orchestrated hpayload hrun =>
      cases hrun with
      | blocked => exact h.logged fun _ => rfl
      | cleared _ _ hasked =>
          exact (h.threads _).logged fun id => sends_prepares id hasked.prepares
      | gated _ hopened hputs =>
          exact (h.opened hopened hputs hjob).logged fun _ => rfl
      | undrafted _ hopened hputs =>
          exact (h.opened hopened hputs hjob).logged fun _ => rfl
      | @drafted _ _ draftId _ _ _ _ _ hopened hputs hdelivery hupsert =>
          have hdraft : draftId ≠ "" := hheard _ List.mem_cons_self
          exact (h.drafted hopened hputs hdelivery hupsert hjob hid hdraft).logged
            fun _ => rfl

omit [Deployment] in
/-- The parts of a file whose job is pending. -/
theorem Filed.pending {id : String} {d : Dossier} {job : Job} (h : Filed id d)
    (hjob : d.job = some job) (hpending : job.status = .pending) :
    ∃ row draftId delivery, d.approval = some row ∧ Filing id row ∧ Drafted row draftId ∧
      row.status = .approved ∧ SendJob row job ∧ d.delivery = some delivery := by
  cases h with
  | absent => cases hjob
  | undrafted => cases hjob
  | drafted => cases hjob
  | queued hfiling hdraft hstatus hsend =>
      cases hjob
      exact ⟨_, _, _, rfl, hfiling, hdraft, hstatus, hsend, rfl⟩
  | sent _ _ _ _ hsent =>
      cases hjob
      simp [hsent.status_eq] at hpending

/-- A job that sends is in the file of its request. -/
theorem Wired.exists_file (h : Wired log s) {job : Job} (hmem : job ∈ s.jobs.rows)
    (htype : job.type = emailSendApprovedType) :
    ∃ id, s.jobs.findUnique? (sendKey id) = some job := by
  rcases h.jobs job hmem with ⟨hchat, _⟩ | ⟨_, id, hkey⟩
  · rw [htype] at hchat
    exact absurd hchat (by decide)
  · exact ⟨id, s.jobs.findUnique?_eq_some.mpr ⟨hmem, hkey⟩⟩

theorem Wired.sendable (h : Wired log s) {row : ApprovalRequest} {draftId : String}
    (hfind : s.approvals.find? row.id = some row) (hrow : Listed row.id row)
    (hdraft : Drafted row draftId) : Sendable s row draftId where
  id_ne := hrow.id_ne
  kind_eq := hrow.kind_eq
  draft_eq := hdraft.draft_eq
  draft_ne := hdraft.draft_ne
  workflow_eq := hdraft.workflow_eq
  source := by
    obtain ⟨id, hid, hsource⟩ := hdraft.source
    exact ⟨id, hid, hsource, h.sources row (Table.mem_of_find? hfind) id hsource⟩

/-- The job of a request is written, and with it what else is in the file. -/
theorem Wired.written (h : Wired log s) {log' : List (Event Call Reply)} {job : Job}
    {id : String} (hputs : s.jobs.Puts s'.jobs job) (htype : job.type = emailSendApprovedType)
    (hkey : job.idempotencyKey = some (sendKey id))
    (hfiles : ∀ k, Filed k (dossier log' s' k))
    (hrows : ∀ row' ∈ s'.approvals.rows, ∃ row ∈ s.approvals.rows,
      (loads row'.payloadJson).get? "job_id" = (loads row.payloadJson).get? "job_id")
    (htrails : ∀ k, k ≠ job.id → trail "job" k s'.auditEvents = trail "job" k s.auditEvents)
    (hrecorded : Recorded s'.auditEvents) : Wired log' s' where
  files := hfiles
  jobs other hother := by
    rcases hputs.mem.mp hother with rfl | ⟨hold, _⟩
    · exact Or.inr ⟨htype, id, hkey⟩
    · exact h.jobs other hold
  sources row' hrow' source hsource := by
    obtain ⟨row, hrow, hsame⟩ := hrows row' hrow'
    exact hputs.find?_isSome (h.sources row hrow source (hsame.symm.trans hsource))
  untold k hnone := by
    have hne : k ≠ job.id := by
      rintro rfl
      rw [hputs.self] at hnone
      cases hnone
    rw [htrails k hne]
    apply h.untold
    rw [← hputs.other k hne]
    exact hnone
  recorded := hrecorded

omit [Deployment] in
/-- A row written again asks for the same job. -/
theorem rows_of_puts {approvals : ApprovalTable} {row row' : ApprovalRequest}
    (hfind : s.approvals.find? row.id = some row) (hputs : s.approvals.Puts approvals row')
    (hsame : SameRequest row row') :
    ∀ other ∈ approvals.rows, ∃ old ∈ s.approvals.rows,
      (loads other.payloadJson).get? "job_id" = (loads old.payloadJson).get? "job_id" := by
  intro other hother
  rcases hputs.mem.mp hother with rfl | ⟨hold, _⟩
  · exact ⟨row, Table.mem_of_find? hfind, hsame.data _ (by simp)⟩
  · exact ⟨other, hold, rfl⟩

omit [Deployment] in
/-- The row of the delivery is marked. -/
theorem puts_of_marked {deliveries deliveries' : DeliveryTable} {approvalId : String}
    {f : EmailDeliveryRecord → EmailDeliveryRecord} {row : EmailDeliveryRecord}
    (h : Marked deliveries deliveries' approvalId f)
    (hrow : deliveries.findUnique? approvalId = some row) :
    deliveries.Puts deliveries' (f row) := by
  unfold Marked at h
  rw [hrow] at h
  exact h

omit [Deployment] in
/-- The file of a request with a job. -/
theorem dossier_of_job {id : String} {row : ApprovalRequest} {job : Job}
    {delivery : EmailDeliveryRecord} (hrow : s.approvals.find? id = some row)
    (hjob : s.jobs.findUnique? (sendKey id) = some job)
    (hdelivery : s.emailDeliveries.findUnique? id = some delivery) :
    dossier log s id = ⟨some row, some job, some delivery, trail "approval" id s.auditEvents,
      trail "job" job.id s.auditEvents, sends log id⟩ := by
  unfold dossier
  rw [hrow, hjob, hdelivery]
  rfl

section

variable {job : Job} {row : ApprovalRequest} {draftId : String} {delivery : EmailDeliveryRecord}
  {approvals : ApprovalTable} {deliveries : DeliveryTable} {events : AuditTable}
  {jobs : JobTable}

omit [Deployment] in
/-- The answer joins the answers to the sends of its request. -/
theorem sends_answered (log : List (Event Call Reply)) (id draftId : String)
    (reply : Except PyErr String) :
    sends (log ++ [sendEvent id draftId reply]) id = sends log id ++ [reply] := by
  rw [sends_append, sends_sendEvent, if_pos rfl]

/-- A sent message moves the file of its request. -/
theorem Wired.sent (h : Wired log s) {messageId : String}
    (hrow : s.approvals.find? row.id = some row)
    (hjob : s.jobs.findUnique? (sendKey row.id) = some job)
    (hdelivery : s.emailDeliveries.findUnique? row.id = some delivery)
    (hsend : SendJob row job) (hpending : job.status = .pending) (hmessage : messageId ≠ "")
    (happrovals : s.approvals.Puts approvals (merged row (sentFields messageId)))
    (hdeliveries : s.emailDeliveries.Puts deliveries (sentDelivery job.id messageId delivery))
    (hevents : Appended (sentEvent job row.id messageId) s.auditEvents events)
    (hjobs : s.jobs.Puts jobs (succeededJob (claimed job)
      (sendResult (.str row.id) (loads row.payloadJson) messageId false))) :
    Wired (log ++ [sendEvent row.id draftId (.ok messageId)]) { s with
      approvals := approvals
      emailDeliveries := deliveries
      auditEvents := events
      jobs := jobs } := by
  have happroval : delivery.approvalId = some row.id :=
    (s.emailDeliveries.findUnique?_eq_some.mp hdelivery).2
  have hkey := hsend.key_eq
  have htouches : Touches row.id log s (log ++ [sendEvent row.id draftId (.ok messageId)])
      { s with
        approvals := approvals
        emailDeliveries := deliveries
        auditEvents := events
        jobs := jobs } := by
    refine Touches.trans (touches_approvals happrovals rfl) ?_
    refine Touches.trans (touches_deliveries hdeliveries happroval) ?_
    refine Touches.trans (touches_jobEvent hevents rfl rfl hjob) ?_
    exact Touches.trans (touches_jobs hjobs hkey) touches_send
  have hmove : Move row.id (dossier log s row.id)
      (dossier (log ++ [sendEvent row.id draftId (.ok messageId)]) { s with
        approvals := approvals
        emailDeliveries := deliveries
        auditEvents := events
        jobs := jobs } row.id) := by
    have hother : trail "approval" row.id events = trail "approval" row.id s.auditEvents :=
      trail_other hevents (by simp [sentEvent])
    have hevent : trail "job" (succeededJob (claimed job)
        (sendResult (.str row.id) (loads row.payloadJson) messageId false)).id events =
          trail "job" job.id s.auditEvents ++ [(sentEvent job row.id messageId).line] :=
      trail_self hevents rfl rfl
    rw [dossier_of_job hrow hjob hdelivery, dossier_of_job happrovals.self
      (hjobs.findUnique?_self hkey) (hdeliveries.findUnique?_self happroval), sends_answered]
    dsimp only
    rw [hother, hevent]
    exact .sent rfl rfl hpending hmessage
  refine h.written hjobs hsend.type_eq hkey (h.files_move row.id htouches hmove)
    (rows_of_puts hrow happrovals (sameRequest_merged row messageId)) ?_
    (h.recorded.appended hevents)
  intro k hk
  exact trail_other hevents fun hmatch => hk hmatch.2.symm

/-- A caught failure is recorded. -/
theorem Wired.refused (h : Wired log s) {e : PyErr} {message : String}
    (hrow : s.approvals.find? row.id = some row)
    (hjob : s.jobs.findUnique? (sendKey row.id) = some job)
    (hdelivery : s.emailDeliveries.findUnique? row.id = some delivery)
    (hsend : SendJob row job) (hpending : job.status = .pending)
    (hmessage : caughtMessage e = some message)
    (hjobs : s.jobs.Puts jobs (failedJob (claimed job) message))
    (hdeliveries : s.emailDeliveries.Puts deliveries (failedDelivery job.id message delivery))
    (hevents : Appended (failedEvent job row.id message) s.auditEvents events) :
    Wired (log ++ [sendEvent row.id draftId (.error e)]) { s with
      jobs := jobs
      emailDeliveries := deliveries
      auditEvents := events } := by
  have happroval : delivery.approvalId = some row.id :=
    (s.emailDeliveries.findUnique?_eq_some.mp hdelivery).2
  have hkey := hsend.key_eq
  have htouches : Touches row.id log s (log ++ [sendEvent row.id draftId (.error e)])
      { s with
        jobs := jobs
        emailDeliveries := deliveries
        auditEvents := events } := by
    refine Touches.trans (touches_deliveries hdeliveries happroval) ?_
    refine Touches.trans (touches_jobEvent hevents rfl rfl hjob) ?_
    exact Touches.trans (touches_jobs hjobs hkey) touches_send
  have hmove : Move row.id (dossier log s row.id)
      (dossier (log ++ [sendEvent row.id draftId (.error e)]) { s with
        jobs := jobs
        emailDeliveries := deliveries
        auditEvents := events } row.id) := by
    have hother : trail "approval" row.id events = trail "approval" row.id s.auditEvents :=
      trail_other hevents (by simp [failedEvent])
    have hevent : trail "job" (failedJob (claimed job) message).id events =
        trail "job" job.id s.auditEvents ++ [(failedEvent job row.id message).line] :=
      trail_self hevents rfl rfl
    have hsame : ({ s with
        jobs := jobs
        emailDeliveries := deliveries
        auditEvents := events } : Database).approvals.find? row.id = some row := hrow
    rw [dossier_of_job hrow hjob hdelivery, dossier_of_job hsame
      (hjobs.findUnique?_self hkey) (hdeliveries.findUnique?_self happroval), sends_answered]
    dsimp only
    rw [hother, hevent]
    exact .refused rfl rfl hpending hmessage
  refine h.written hjobs hsend.type_eq hkey (h.files_move row.id htouches hmove)
    (fun other hother => ⟨other, hother, rfl⟩) ?_ (h.recorded.appended hevents)
  intro k hk
  exact trail_other hevents fun hmatch => hk hmatch.2.symm

/-- Of an exception that leaves the handler there is no record but the job. -/
theorem Wired.escaped (h : Wired log s) {e : PyErr}
    (hrow : s.approvals.find? row.id = some row)
    (hjob : s.jobs.findUnique? (sendKey row.id) = some job)
    (hdelivery : s.emailDeliveries.findUnique? row.id = some delivery)
    (hsend : SendJob row job) (hpending : job.status = .pending)
    (hmessage : caughtMessage e = none)
    (hjobs : s.jobs.Puts jobs (failedJob (claimed job) e.str)) :
    Wired (log ++ [sendEvent row.id draftId (.error e)]) { s with jobs := jobs } := by
  have hkey := hsend.key_eq
  have htouches : Touches row.id log s (log ++ [sendEvent row.id draftId (.error e)])
      { s with jobs := jobs } :=
    Touches.trans (touches_jobs hjobs hkey) touches_send
  have hmove : Move row.id (dossier log s row.id)
      (dossier (log ++ [sendEvent row.id draftId (.error e)]) { s with jobs := jobs }
        row.id) := by
    have hsame : ({ s with jobs := jobs } : Database).approvals.find? row.id = some row := hrow
    rw [dossier_of_job hrow hjob hdelivery, dossier_of_job hsame
      (hjobs.findUnique?_self hkey) hdelivery, sends_answered]
    exact .escaped rfl hpending hmessage
  exact h.written hjobs hsend.type_eq hkey (h.files_move row.id htouches hmove)
    (fun other hother => ⟨other, hother, rfl⟩) (fun _ _ => rfl) h.recorded

/-- A processed send moves the file of its request. -/
theorem Wired.sendRun (h : Wired log s) {reply : Except PyErr String}
    (hrow : s.approvals.find? row.id = some row)
    (hjob : s.jobs.findUnique? (sendKey row.id) = some job)
    (hdelivery : s.emailDeliveries.findUnique? row.id = some delivery)
    (hsend : SendJob row job) (hpending : job.status = .pending)
    (hclaim : s.jobs.Puts jobs (claimed job)) (hreply : Usable reply)
    (hrun : SendRun (claimed job) row { s with jobs := jobs } reply s') :
    Wired (log ++ [sendEvent row.id draftId reply]) s' := by
  cases hrun with
  | sent hdelivered hsame hjobs =>
      cases hdelivered with
      | done happrovals hmarked hevents =>
          exact h.sent hrow hjob hdelivery hsend hpending hreply happrovals
            (puts_of_marked hmarked hdelivery) hevents (hclaim.overwrite hjobs rfl)
  | refused hmessage hjobs hmarked hevents =>
      exact h.refused hrow hjob hdelivery hsend hpending hmessage (hclaim.overwrite hjobs rfl)
        (puts_of_marked hmarked hdelivery) hevents
  | escaped hmessage hjobs =>
      exact h.escaped hrow hjob hdelivery hsend hpending hmessage (hclaim.overwrite hjobs rfl)

end

section

variable {trace : List (Event Call Reply)} {job : Job} {jobs : JobTable}

/-- A claimed job for a message is processed. -/
theorem Wired.processChat (h : Wired log s) (husual : Usual heard)
    {result : Except PyErr Unit} (hjob : s.jobs.find? job.id = some job)
    (htype : job.type = chatOrchestrateType) (hclaim : s.jobs.Puts jobs (claimed job))
    (hrun : Prog.Runs (steady heard) (processJob (claimed job)) { s with jobs := jobs } trace
      result s') : Wired (log ++ outward trace) s' := by
  obtain ⟨hid, hkey⟩ : job.id ≠ "" ∧ job.idempotencyKey = none := by
    rcases h.jobs job (Table.mem_of_find? hjob) with ⟨_, hid, hkey⟩ | ⟨hsend, _⟩
    · exact ⟨hid, hkey⟩
    · rw [htype] at hsend
      exact absurd hsend (by decide)
  have hclaimed : Wired log { s with jobs := jobs } := h.chatJob hclaim htype hid hkey
  have hkind : (claimed job).type = chatOrchestrateType := htype
  have hself : jobs.find? (claimed job).id = some (claimed job) := hclaim.self
  have hheard := steady_heard hrun
  obtain ⟨_, outcome, s₁, jobs', hexecuted, hsame, hputs, rfl⟩ :=
    steady_processJob_chat hkind hself husual.sane hrun
  have hstored : (jobs.find? (counted (claimed job)).id).isSome :=
    Option.isSome_of_eq_some hself
  have hdone : Wired (log ++ outward trace) s₁ :=
    hclaimed.executed (fun e he => husual _ _ (hheard e he)) hstored hid hexecuted
  rw [← hsame] at hputs
  apply hdone.chatJob hputs
  · cases outcome <;> exact htype
  · cases outcome <;> exact hid
  · cases outcome <;> exact hkey

/-- A claimed send is processed. -/
theorem Wired.processSend (h : Wired log s) (husual : Usual heard)
    {result : Except PyErr Unit} (hjob : s.jobs.find? job.id = some job)
    (htype : job.type = emailSendApprovedType) (hpending : job.status = .pending)
    (hclaim : s.jobs.Puts jobs (claimed job))
    (hrun : Prog.Runs (steady heard) (processJob (claimed job)) { s with jobs := jobs } trace
      result s') : Wired (log ++ outward trace) s' := by
  obtain ⟨id, hunique⟩ := h.exists_file (Table.mem_of_find? hjob) htype
  obtain ⟨row, draftId, delivery, hrow, hfiling, hdraft, hstatus, hsend, hdelivery⟩ :=
    (h.files id).pending hunique hpending
  obtain rfl := hfiling.id_eq
  have hsendable : Sendable { s with jobs := jobs } row draftId :=
    (h.sendable hrow hfiling.toListed hdraft).grown fun _ => hclaim.find?_isSome
  have hexec : Executable { s with jobs := jobs } (claimed job) row draftId :=
    ⟨hsendable, hrow, hstatus, htype, hsend.approval_eq, hsend.tenant_eq⟩
  have hself : jobs.find? (claimed job).id = some (claimed job) := hclaim.self
  have hheard := steady_heard hrun
  obtain ⟨_, reply, hout, hsent⟩ :=
    steady_processJob_send hself hexec hfiling.unsent husual.sane hrun
  rw [hout] at hheard ⊢
  have hreply : Usable reply := husual _ _ (hheard _ List.mem_cons_self)
  exact h.sendRun hrow hunique hdelivery hsend hpending hclaim hreply hsent

theorem Wired.poll (h : Wired log s) (husual : Usual heard) {result : Except PyErr Outcome}
    (hrun : Prog.Runs (steady heard) poll s trace result s') :
    Wired (log ++ outward trace) s' := by
  rcases steady_poll hrun with ⟨rfl, hquiet⟩ |
    ⟨job, jobs, rest, r, hjob, hpending, hclaim, hout, hprocess⟩
  · rw [hquiet, List.append_nil]
    exact h
  · rw [hout]
    rcases h.jobs job (Table.mem_of_find? hjob) with ⟨htype, _⟩ | ⟨htype, _⟩
    · exact h.processChat husual hjob htype hclaim hprocess
    · exact h.processSend husual hjob htype hpending hclaim hprocess

/-- A decision moves the file of its request. -/
theorem Wired.decided (h : Wired log s) {row : ApprovalRequest} {status : ApprovalStatus}
    {decision : Dict} {now : Moment} {e : NewEvent} (hrow : s.approvals.find? row.id = some row)
    (hkind : e.resourceType = "approval") (hid : e.resourceId = row.id)
    (hdone : DecidedAs (decided row status decision now) e s s')
    (hmove : ∀ d : Dossier, d.approval = some row → Move row.id d { d with
      approval := some (decided row status decision now)
      trail := d.trail ++ [e.line] }) : Wired log s' := by
  obtain ⟨approvals, events, hputs, hevent, rfl⟩ := hdone
  have hquiet : ∀ k, trail "job" k events = trail "job" k s.auditEvents := fun k =>
    trail_other hevent (by simp [hkind])
  have htouches : Touches row.id log s log
      { s with approvals := approvals, auditEvents := events } := by
    refine Touches.trans (touches_approvals hputs rfl) ?_
    exact touches_event hevent hkind hid
  have hfile : dossier log { s with approvals := approvals, auditEvents := events } row.id =
      { dossier log s row.id with
        approval := some (ApprovalService.decided row status decision now)
        trail := (dossier log s row.id).trail ++ [e.line] } := by
    have hself : approvals.find? row.id =
        some (ApprovalService.decided row status decision now) := hputs.self
    unfold dossier
    dsimp only
    rw [hself, trail_self hevent hkind hid]
    simp only [hquiet]
  refine ⟨h.files_move row.id htouches ?_, h.jobs, ?_, fun k hk => ?_,
    h.recorded.appended hevent⟩
  · rw [hfile]
    exact hmove _ hrow
  · intro other hother source hsource
    obtain ⟨old, hold, hsame⟩ := rows_of_puts hrow hputs sameRequest_decided other hother
    exact h.sources old hold source (hsame.symm.trans hsource)
  · exact (hquiet k).trans (h.untold k hk)

/-- The send of an approved request is queued. -/
theorem Wired.enqueued (h : Wired log s) {row : ApprovalRequest} {decision : Dict}
    {now : Moment} {e e' : NewEvent} {approvals : ApprovalTable} {events events' : AuditTable}
    (hrow : s.approvals.find? row.id = some row) (hstatus : row.status = .pending)
    (hdraft : HasDraft row)
    (hputs : s.approvals.Puts approvals
      (ApprovalService.decided row .approved decision now))
    (hjob : SendQueued (ApprovalService.decided row .approved decision now) s.jobs job)
    (hjobs : s.jobs.Puts jobs job) (hevent : Appended e s.auditEvents events)
    (hevent' : Appended e' events events') (hkind : e.resourceType = "approval")
    (hid : e.resourceId = row.id) (haction : e.action = AuditAction.approvalApproved)
    (hkind' : e'.resourceType = "approval") (hid' : e'.resourceId = row.id)
    (haction' : e'.action = AuditAction.sendJobEnqueued) :
    Wired log { s with approvals := approvals, jobs := jobs, auditEvents := events' } := by
  have hkey : job.idempotencyKey = some (sendKey row.id) := hjob.key_eq
  have hquiet : ∀ k, trail "job" k events' = trail "job" k s.auditEvents := fun k =>
    (trail_other hevent' (by simp [hkind'])).trans (trail_other hevent (by simp [hkind]))
  have hsend : SendJob row job := by
    refine ⟨hjob.type_eq, hkey, ?_, hjob.tenant_eq⟩
    rw [hjob.payload_eq]
    rfl
  have htouches : Touches row.id log s log
      { s with approvals := approvals, jobs := jobs, auditEvents := events' } := by
    refine Touches.trans (touches_approvals hputs rfl) ?_
    refine Touches.trans (touches_event hevent hkind hid) ?_
    refine Touches.trans (touches_event hevent' hkind' hid') ?_
    exact touches_jobs hjobs hkey
  have hfile : dossier log
      { s with approvals := approvals, jobs := jobs, auditEvents := events' } row.id =
        { dossier log s row.id with
          approval := some (ApprovalService.decided row .approved decision now)
          job := some job
          trail := (dossier log s row.id).trail ++ [e.line, e'.line]
          jobTrail := [] } := by
    have hself : approvals.find? row.id =
        some (ApprovalService.decided row .approved decision now) := hputs.self
    have htrail : trail "approval" row.id events' =
        trail "approval" row.id s.auditEvents ++ [e.line] ++ [e'.line] := by
      rw [trail_self hevent' hkind' hid', trail_self hevent hkind hid]
    have hnew : trail "job" job.id events' = [] :=
      (hquiet job.id).trans (h.untold job.id hjob.fresh)
    unfold dossier
    dsimp only
    rw [hself, hjobs.findUnique?_self hkey, htrail, List.append_assoc]
    dsimp only [Option.elim_some]
    rw [hnew]
    rfl
  refine h.written hjobs hjob.type_eq hkey (h.files_move row.id htouches ?_)
    (rows_of_puts hrow hputs sameRequest_decided) (fun k _ => hquiet k)
    ((h.recorded.appended hevent).appended hevent')
  rw [hfile]
  exact .enqueued hrow hstatus hdraft hsend hjob.status_eq hjob.attempts_eq haction haction'

omit [Deployment] in
/-- A pending request has no job yet. -/
theorem Filed.no_job {id : String} {d : Dossier} {row : ApprovalRequest} (h : Filed id d)
    (hrow : d.approval = some row) (hpending : row.status = .pending) : d.job = none := by
  cases h with
  | absent => rfl
  | undrafted => rfl
  | drafted => rfl
  | queued _ _ hstatus =>
      cases hrow
      simp [hstatus] at hpending
  | sent _ _ hstatus =>
      cases hrow
      simp [hstatus] at hpending

theorem Wired.approved (h : Wired log s) {id actor : String} {note : Option String}
    (hdone : Approved id actor note s s') : Wired log s' := by
  cases hdone with
  | refused => exact h
  | @kept row now _ hfind hstatus hdraft hdone =>
      obtain rfl := Table.key_of_find? hfind
      exact h.decided hfind rfl rfl hdone fun d hd => .approved hd hstatus hdraft rfl
  | @queued row now _ job jobs events hfind hstatus hdraft hdone hjob hputs hevents =>
      obtain rfl := Table.key_of_find? hfind
      obtain ⟨approvals, events₁, happrovals, happroved, rfl⟩ := hdone
      exact h.enqueued hfind hstatus hdraft happrovals hjob hputs happroved hevents rfl rfl rfl
        rfl rfl rfl

theorem Wired.rejected (h : Wired log s) {id actor reason : String}
    (hdone : Rejected id actor reason s s') : Wired log s' := by
  cases hdone with
  | refused => exact h
  | @done row now _ hfind hstatus hdone =>
      obtain rfl := Table.key_of_find? hfind
      exact h.decided hfind rfl rfl hdone fun d hd => .rejected hd hstatus rfl

theorem Wired.retried (h : Wired log s) (hjob : s.jobs.find? job.id = some job)
    (htype : job.type = emailSendApprovedType) (hstatus : job.status = .failed)
    (hputs : s.jobs.Puts jobs { job with status := .pending, lastError := none }) :
    Wired log { s with jobs := jobs } := by
  obtain ⟨id, hunique⟩ := h.exists_file (Table.mem_of_find? hjob) htype
  have hkey := (s.jobs.findUnique?_eq_some.mp hunique).2
  have hself := hputs.findUnique?_self hkey
  have hfile : dossier log { s with jobs := jobs } id =
      { dossier log s id with
        job := some { job with status := .pending, lastError := none } } := by
    unfold dossier
    dsimp only
    rw [hself, hunique]
    rfl
  refine h.written hputs htype hkey (h.files_move id (touches_jobs hputs hkey) ?_)
    (fun other hother => ⟨other, hother, rfl⟩) (fun _ _ => rfl) h.recorded
  rw [hfile]
  exact .retried hunique hstatus

theorem Wired.handleRequest (h : Wired log s) {req : Request} {trace : List (Event Call Reply)}
    {result : Except PyErr Outcome}
    (hrun : Prog.Runs (steady heard) (handleRequest req) s trace result s') : Wired log s' := by
  obtain ⟨_, hserve, _⟩ := Prog.runs_bind_pure hrun
  cases req with
  | chat body tenantId =>
      obtain ⟨_, hchat, _⟩ := Prog.runs_bind_pure hserve
      obtain ⟨job, jobs, hjob, hputs, rfl⟩ := steady_chat hchat
      exact h.chatJob hputs hjob.type_eq hjob.id_ne hjob.key_eq
  | approve approvalId actor note tenantId =>
      obtain ⟨_, happrove, _⟩ := Prog.runs_bind_pure hserve
      refine h.approved (steady_approveRequest (fun row hfind hpending => ?_) happrove)
      obtain rfl := Table.key_of_find? hfind
      exact (h.files row.id).no_job hfind hpending
  | reject approvalId actor reason tenantId =>
      obtain ⟨_, hreject, _⟩ := Prog.runs_bind_pure hserve
      exact h.rejected (steady_rejectRequest hreject)
  | retry jobId tenantId =>
      obtain ⟨_, hretry, _⟩ := Prog.runs_bind_pure hserve
      rcases steady_retryJob hretry with rfl | ⟨job, jobs, hfind, htype, hstatus, hputs, rfl⟩
      · exact h
      · obtain rfl := Table.key_of_find? hfind
        exact h.retried hfind htype hstatus hputs

theorem Wired.step (h : Wired log s) (husual : Usual heard) {request : Option Request}
    {trace : List (Event Call Reply)} {result : Except PyErr Outcome}
    (hrun : Prog.Runs (steady heard) (program request) s trace result s') :
    Wired (log ++ outward trace) s' := by
  cases request with
  | none => exact h.poll husual hrun
  | some req =>
      rw [handleRequest_quiet hrun, List.append_nil]
      exact h.handleRequest hrun

/-- Every file of a store that complete operations have made is in one of its phases. -/
theorem Steps.wired {meets : Option Request → Database → Prop} (husual : Usual heard)
    (h : Steps heard meets log s) : Wired log s := by
  induction h with
  | start => exact wired_start
  | step _ _ hrun ih => exact ih.step husual hrun

end

end

end

end ControlPlane
