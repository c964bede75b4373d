import ControlPlane.Jobs.SendFacts

/-!
The programs of the worker, from the claim of a job to its end, keep the guard on the sends.
What each part needs to know, and what is known when it ends, are facts that survive requests.
-/

namespace ControlPlane

open Lib JobService AuditService ApprovalService EmailPersistence EmailService ChatOrchestrate
  Tasks Runner RowFact

section

variable [Deployment] {adm : (q : Call) → Reply q → Database → Prop} {α β : Type}

/-- Without an approval the enrichment writes neither approvals nor jobs. -/
theorem enrichOrchestrateResult_elsewhere (job : Job) (payload : ChatPayload)
    (result : ChatOrchestrateResult) :
    Calls ElsewhereCall (enrichOrchestrateResult job payload result none) := by
  unfold enrichOrchestrateResult
  dsimp only
  split
  · exact calls_pure _
  · split
    · exact calls_pure _
    · split
      · exact (calls_createDraft (.createDraft _ _ _)).bind fun _ =>
          (calls_pure ()).bind fun _ => calls_pure _
      · exact calls_pure _
    · exact enrichCompleted_elsewhere _ _ _ _ _ _

variable {c raised : RowFact (Delivers adm)} {after : α → RowFact (Delivers adm)} {busy : Prop}

/-- The write of a loaded job. -/
theorem guarded_updateJob {delivers : Prop} {h : WorkLog} {s s' : Database} {r : DbReply}
    {job new row : Job} (hinv : SendsGuarded delivers h s) (hrow : Loaded job s.jobs row)
    (happly : (Transaction.updateJob job new).apply r s = some s')
    (happroval : (loads new.payloadJson).get? "approval_id" =
      (loads job.payloadJson).get? "approval_id")
    (hrunning : row.status = .running → (job.updated new row).status = .running ∨
      (settledFor job : RowFact delivers).Holds h s) :
    SendsGuarded delivers h s' ∧ s'.jobs.find? job.id = some (job.updated new row) ∧
      s'.approvals = s.approvals := by
  have hid : row.id = job.id := Table.key_of_find? hrow.find
  have hputs := Transaction.puts_updateJob hrow.find happly
  have happrovals := Transaction.approvals_of_apply happly (by simp [Transaction.target])
  have hpayload : (job.updated new row).payloadJson = new.payloadJson := by
    simp [Job.updated, hrow.payload_eq]
  have hold : s.jobs.find? (job.updated new row).id = some row := by
    rw [← hrow.find, ← hid]
    rfl
  refine ⟨hinv.rescheduled happrovals (SendsGuarded.reschedules_update hputs hold rfl rfl
    ?_ ?_), ?_, happrovals⟩
  · rw [hpayload, happroval, hrow.payload_eq]
  · intro hold
    refine (hrunning hold).imp_right fun hsettled id hkey hdelivers => ?_
    exact hsettled id (hrow.key_eq.symm.trans hkey) hdelivers
  · have hself := hputs.self
    rwa [show (job.updated new row).id = job.id from hid] at hself

/-- The status or the attempts of a job are written; its payload is not. -/
theorem leads_updateJob_bind {busy' : Prop} {job new : Job} {k : DbReply → Session α}
    (hpayload : new.payloadJson = job.payloadJson)
    (hstatus : busy' → busy ∧ new.status = job.status)
    (hk : ∀ r, Leads (owned busy' job) (k r) after raised) :
    Leads (owned busy job) ((commit (.updateJob job new)).bind k) after raised := by
  refine leads_commit_bind ?_
  rintro hist s s' r hinv ⟨⟨row, hrow, hrunning⟩, hsettled⟩ happly
  obtain ⟨hinv', hfind, happrovals⟩ :=
    guarded_updateJob hinv hrow happly (by rw [hpayload]) fun _ => Or.inr hsettled
  refine ⟨hinv', owned busy' job, ⟨⟨_, ⟨hfind, hrow.key_eq, hrow.type_eq, ?_⟩, ?_⟩, ?_⟩, hk r⟩
  · simp [Job.updated, hpayload, hrow.payload_eq]
  · intro hbusy
    obtain ⟨hwas, hsame⟩ := hstatus hbusy
    simp [Job.updated, hsame, hrunning hwas]
  · rw [happrovals]
    exact hsettled

/-- A claimed job may be loaded again at any time. -/
theorem leads_refreshJob_bind {job : Job} {k : Job → Session α}
    (hk : ∀ row : Job, row.id = job.id →
      (owned False row : RowFact (Delivers adm)).Implies (owned False job) →
      Leads (owned busy row) (k row) after raised) :
    Leads (owned busy job) ((refreshJob job.id).bind k) after raised := by
  unfold refreshJob getJobById
  rw [Prog.bind_eq, Prog.bind_assoc]
  refine leads_select_bind ?_
  rintro hist s r hinv ⟨⟨row, hrow, hrunning⟩, hsettled⟩
  have hid : row.id = job.id := Table.key_of_find? hrow.find
  have hread : ((s.job? (.str job.id)).filter fun job =>
      (none : Option String) = none ∨ job.tenantId = none) = some row := by
    rw [Database.job?_str, hrow.find]
    simp
  refine ⟨owned busy row, ⟨⟨row, Loaded.refl (hid ▸ hrow.find), hrunning⟩, ?_⟩, ?_⟩
  · intro id hkey
    exact hsettled id (hrow.key_eq.symm.trans hkey)
  · rw [hread]
    exact hk row hid (owned_of_loaded hrow)

theorem leads_markJobFailed (job : Job) (message : String) :
    Leads (owned busy job) (markJobFailed job message)
      (fun _ => (owned False job : RowFact (Delivers adm))) raised := by
  refine leads_updateJob_bind rfl ?_ fun _ => leads_pure (Implies.refl _)
  rintro ⟨⟩

theorem leads_markJobSucceeded (job : Job) (result : Dict) :
    Leads (owned busy job) (markJobSucceeded job result)
      (fun _ => (nothing : RowFact (Delivers adm))) raised := by
  unfold markJobSucceeded
  rw [Prog.bind_eq]
  refine leads_refreshJob_bind fun row _ _ => ?_
  refine leads_commit_bind ?_
  rintro hist s s' r hinv ⟨⟨current, hcurrent, _⟩, hsettled⟩ happly
  obtain ⟨hinv', _⟩ := guarded_updateJob hinv hcurrent happly
    (Dict.get?_set_of_ne _ _ (by decide)) fun _ => Or.inr hsettled
  exact ⟨hinv', nothing, trivial, leads_pure implies_nothing⟩

/-- What is known of a job survives a write of the approvals. -/
theorem owned_rewritten {delivers : Prop} {h : WorkLog} {s s' : Database} {job : Job}
    (hinv : SendsGuarded delivers h s)
    (hrows : SendsGuarded.Rewrites s.approvals s'.approvals) (hjobs : s'.jobs = s.jobs)
    (hown : (owned busy job : RowFact delivers).Holds h s) :
    (owned busy job : RowFact delivers).Holds h s' := by
  obtain ⟨⟨row, hrow, hrunning⟩, hsettled⟩ := hown
  refine ⟨⟨row, hjobs ▸ hrow, hrunning⟩, ?_⟩
  intro id hkey hdelivers
  refine (hsettled id hkey hdelivers).imp_right ?_
  rintro ⟨approval, hfind, hmessage⟩
  obtain ⟨_, draft, hcleared⟩ :=
    hinv.cleared row (Table.mem_of_find? hrow.find) id (hrow.key_eq.trans hkey)
  obtain ⟨approval', hfind', _, hkept⟩ := hrows.kept id approval hfind
  exact ⟨approval', hfind', (hkept (hcleared.hasDraft hfind)).2 hmessage⟩

/-- Fields are merged into a row that may have been decided since it was loaded. -/
theorem guarded_updateApproval {delivers : Prop} {h : WorkLog} {s s' : Database} {r : DbReply}
    {loaded new old : ApprovalRequest} (hinv : SendsGuarded delivers h s)
    (hfind : s.approvals.find? loaded.id = some old)
    (happly : (Transaction.updateApproval loaded new).apply r s = some s')
    (hstatus : new.status = loaded.status)
    (hpayload : HasDraft old → (loads (loaded.updated new old).payloadJson).get? "gmail_draft_id" =
      (loads old.payloadJson).get? "gmail_draft_id" ∧
        (NamesMessage old → NamesMessage (loaded.updated new old))) :
    SendsGuarded.Rewrites s.approvals s'.approvals ∧ s'.jobs = s.jobs ∧
      s'.approvals.find? loaded.id = some (loaded.updated new old) := by
  have hid : old.id = loaded.id := Table.key_of_find? hfind
  have hputs := Transaction.puts_updateApproval hfind happly
  have hold : s.approvals.find? (loaded.updated new old).id = some old := by
    rw [← hfind, ← hid]
    rfl
  have hself : s'.approvals.find? old.id = some (loaded.updated new old) := hputs.self
  refine ⟨hinv.rewrites_update hputs hold rfl (fun _ => ?_) hpayload,
    Transaction.jobs_of_apply happly (by simp [Transaction.target]), hid ▸ hself⟩
  simp [ApprovalRequest.updated, hstatus]

theorem leads_createRequest_bind {tenantId : Option String} {jobId : String} {payload : Dict}
    {job : Job} {k : ApprovalRequest → Session α}
    (hpayload : (Dict.update [("job_id", .str jobId)] payload).get? "gmail_draft_id" = none)
    (hraised : (owned busy job).Implies raised)
    (hk : ∀ approval, Leads ((owned busy job).and (undrafted approval.id)) (k approval) after
      raised) :
    Leads (owned busy job) ((createRequest jobGate tenantId jobId payload).bind k) after
      raised := by
  unfold createRequest
  simp only [Prog.bind_eq, Prog.bind_assoc]
  refine leads_commit_bind ?_
  intro hist s s' r hinv hown happly
  have hputs := Transaction.puts_insertApproval happly
  have hjobs := Transaction.jobs_of_apply happly (by simp [Transaction.target])
  have hrows := hinv.rewrites_insert (Transaction.find_insertApproval happly).1 hputs rfl
  refine ⟨hinv.rewritten hjobs hrows, (owned busy job).and (undrafted r.newId),
    ⟨owned_rewritten hinv hrows hjobs hown, _, hputs.self, ?_⟩, ?_⟩
  · unfold HasDraft
    change ¬Json.truthy ((Dict.update [("job_id", .str jobId)] payload).get?
      "gmail_draft_id") = true
    rw [hpayload]
    decide
  · refine leads_elsewhere_bind (record_elsewhere (by simp; decide) (by simp; decide) (by simp))
      (and_implies_left.trans hraised) fun _ => ?_
    unfold reload getRequest getRequestAt
    rw [Prog.bind_eq, Prog.bind_eq, Prog.bind_assoc, Prog.bind_assoc]
    refine leads_select_bind ?_
    rintro hist s r' _ ⟨hown, row, hfind, hdraft⟩
    have hread : ((s.approval? (.str r.newId)).filter fun row =>
        (none : Option String) = none ∨ row.tenantId = none) = some row := by
      rw [Database.approval?_str, hfind]
      simp
    have hid : row.id = r.newId := Table.key_of_find? hfind
    refine ⟨(owned busy job).and (undrafted row.id), ⟨hown, row, hid ▸ hfind, hdraft⟩, ?_⟩
    rw [hread]
    exact hk row

/-- The draft is merged into the row that was read before it was created. -/
theorem leads_draftForApproval {job source : Job} {approval : ApprovalRequest}
    {message hint : String} {artifacts : List ArtifactRef} {result : ChatOrchestrateResult} :
    Leads ((owned busy job).and (undrafted approval.id))
      (draftForApproval source message hint artifacts result (some approval))
      (fun _ => (owned busy job : RowFact (Delivers adm))) (owned busy job) := by
  unfold draftForApproval attachDraft mergeExecutionContext
  simp only [Prog.bind_eq, Prog.bind_assoc, Prog.pure_eq, Prog.pure_bind]
  refine leads_elsewhere_bind (calls_createDraft (.createDraft _ _ _)) and_implies_left
    fun draftId => leads_commit_bind ?_
  rintro hist s s' r hinv ⟨hown, old, hfind, hdraft⟩ happly
  obtain ⟨hrows, hjobs, _⟩ := guarded_updateApproval hinv hfind happly rfl
    fun h => absurd h hdraft
  refine ⟨hinv.rewritten hjobs hrows, owned busy job, owned_rewritten hinv hrows hjobs hown, ?_⟩
  exact leads_elsewhere_bind (upsertOutboundDelivery_elsewhere _ _ _ _ _ _) (Implies.refl _)
    fun _ => leads_pure (Implies.refl _)

theorem leads_enrichOrchestrateResult {job source : Job} {approval : ApprovalRequest}
    {payload : ChatPayload} {result : ChatOrchestrateResult} :
    Leads ((owned busy job).and (undrafted approval.id))
      (enrichOrchestrateResult source payload result (some approval))
      (fun _ => (owned busy job : RowFact (Delivers adm))) (owned busy job) := by
  unfold enrichOrchestrateResult
  dsimp only
  split
  · exact leads_pure and_implies_left
  · split
    · exact leads_pure and_implies_left
    · split
      · exact leads_draftForApproval
      · exact leads_pure and_implies_left
    · exact (leads_elsewhere (enrichCompleted_elsewhere _ _ _ _ _ _)).mono
        (fun _ => and_implies_left) and_implies_left

theorem leads_executeChatOrchestrate {job source : Job} :
    Leads (owned busy job) (executeChatOrchestrate source)
      (fun _ => (owned busy job : RowFact (Delivers adm))) (owned busy job) := by
  unfold executeChatOrchestrate
  refine leads_elsewhere_bind (calls_answered _) (Implies.refl _) fun payload => ?_
  unfold orchestrate
  dsimp only
  split
  · exact leads_elsewhere (enrichOrchestrateResult_elsewhere _ _ _)
  · split
    · rw [Prog.bind_eq]
      refine leads_createRequest_bind ?_ (Implies.refl _) fun _ => leads_enrichOrchestrateResult
      exact Dict.get?_update_of_not_mem _ _ (by simp)
    · exact leads_elsewhere (enrichOrchestrateResult_elsewhere _ _ _)

/-- A job that sends has the key of the approval that its payload names. -/
theorem sendKey_of_owned {delivers : Prop} {h : WorkLog} {s : Database} {job : Job} {id : String}
    (hinv : SendsGuarded delivers h s) (hown : (owned busy job : RowFact delivers).Holds h s)
    (htype : job.type = emailSendApprovedType)
    (happroval : (loads job.payloadJson).get? "approval_id" = some (.str id)) :
    job.idempotencyKey = some (sendKey id) := by
  obtain ⟨⟨row, hrow, _⟩, _⟩ := hown
  have hmem := Table.mem_of_find? hrow.find
  obtain ⟨id', hkey⟩ := hinv.keyed row hmem (hrow.type_eq.trans htype)
  obtain ⟨hpayload, _⟩ := hinv.cleared row hmem id' hkey
  rw [hrow.payload_eq, happroval] at hpayload
  cases hpayload
  exact hrow.key_eq.symm.trans hkey

/-- The provider is asked for the first time, or has only refused so far. -/
theorem leads_send_bind {job : Job} {approval : ApprovalRequest} {draft : Json}
    {k : String → Session α} (hkey : job.idempotencyKey = some (sendKey approval.id))
    (happroved : approval.status = .approved)
    (hdraft : (loads approval.payloadJson).get? "gmail_draft_id" = some draft)
    (hunsent : ¬NamesMessage approval) (hraised : (owned True job).Implies raised)
    (hk : ∀ messageId, (Delivers adm → messageId ≠ "") →
      Leads ((present True job).and (held approval)) (k messageId) after raised) :
    Leads ((owned True job).and (held approval))
      ((sendApprovedDraft approval.id draft).bind k) after raised := by
  refine Triple.act ?_
  rintro hist s (answer : Except PyErr String) hadm hinv ⟨⟨⟨row, hrow, hrunning⟩, hsettled⟩, hheld⟩
  have hfind := hheld happroved
  have hjob := Table.mem_of_find? hrow.find
  have hkeyed : row.idempotencyKey = some (sendKey approval.id) := hrow.key_eq.trans hkey
  have hcleared : Cleared hist s.approvals approval.id draft := by
    obtain ⟨_, draft', hcleared⟩ := hinv.cleared row hjob _ hkeyed
    obtain ⟨found, hfound, _, _, hget⟩ := hcleared.row
    rw [hfind] at hfound
    cases hfound
    rw [hdraft] at hget
    cases hget
    exact hcleared
  have hfirst : Delivers adm → messagesSent hist approval.id = 0 := by
    intro hdelivers
    rcases hsettled approval.id hkey hdelivers with hzero | ⟨found, hfound, hmessage⟩
    · exact hzero
    · rw [hfind] at hfound
      cases hfound
      exact absurd hmessage hunsent
  refine ⟨hinv.send hjob hkeyed (hrunning trivial) hcleared hfirst, ?_⟩
  cases answer with
  | ok messageId =>
      exact ⟨((present True job).and (held approval)).known, ⟨⟨row, hrow, hrunning⟩, hheld⟩,
        hk messageId fun hdelivers => hdelivers _ _ _ _ hadm⟩
  | error e =>
      refine ⟨(owned True job).known, ⟨⟨row, hrow, hrunning⟩, ?_⟩, leads_raise fun _ => hraised⟩
      intro id hid hdelivers
      rw [messagesSent_send, if_neg (by rintro ⟨_, ⟨⟩⟩), Nat.add_zero]
      exact hsettled id hid hdelivers

/-- Once the id of the message is stored, the job may stop running. -/
theorem leads_recordSendCompleted_bind {job : Job} {approval : ApprovalRequest}
    {messageId : String} {k : Unit → Session α}
    (hkey : job.idempotencyKey = some (sendKey approval.id))
    (happroved : approval.status = .approved) (hunsent : ¬NamesMessage approval)
    (hmessage : Delivers adm → messageId ≠ "")
    (hk : Leads (owned False job) (k ()) after raised) :
    Leads ((present True job).and (held approval))
      ((recordSendCompleted approval messageId).bind k) after raised := by
  unfold recordSendCompleted mergeExecutionContext
  simp only [Prog.bind_eq, Prog.bind_assoc, Prog.pure_eq, Prog.pure_bind]
  refine leads_commit_bind ?_
  rintro hist s s' r hinv ⟨⟨row, hrow, _⟩, hheld⟩ happly
  obtain ⟨hrows, hjobs, hstored⟩ := guarded_updateApproval hinv (hheld happroved) happly rfl
    fun _ => ⟨by simp [ApprovalRequest.updated, loads, Dict.get?_set_of_ne],
      fun hnamed => absurd hnamed hunsent⟩
  refine ⟨hinv.rewritten hjobs hrows, owned False job,
    ⟨⟨row, hjobs ▸ hrow, False.elim⟩, ?_⟩, hk⟩
  intro id hid hdelivers
  rw [hkey] at hid
  obtain rfl := sendKey_injective (Option.some.inj hid)
  refine Or.inr ⟨_, hstored, ?_⟩
  unfold NamesMessage
  simp [ApprovalRequest.updated, loads, Dict.get?_set_of_ne, Json.truthy, hmessage hdelivers]

theorem leads_sendAndRecord {job : Job} {approval : ApprovalRequest} {draft : Json}
    (hkey : job.idempotencyKey = some (sendKey approval.id))
    (happroved : approval.status = .approved)
    (hdraft : (loads approval.payloadJson).get? "gmail_draft_id" = some draft)
    (hunsent : ¬NamesMessage approval) :
    Leads ((owned True job).and (held approval)) (sendAndRecord job approval draft)
      (fun _ => (owned False job : RowFact (Delivers adm))) (owned False job) := by
  unfold sendAndRecord
  simp only [Prog.bind_eq]
  refine leads_send_bind hkey happroved hdraft hunsent (owned_mono False.elim)
    fun messageId hmessage => ?_
  refine leads_recordSendCompleted_bind hkey happroved hunsent hmessage ?_
  refine leads_elsewhere_bind (markDeliverySent_elsewhere _ _ _) (Implies.refl _) fun _ => ?_
  exact leads_elsewhere_bind (record_elsewhere (by simp; decide) (by simp; decide) (by simp))
    (Implies.refl _) fun _ => leads_pure (Implies.refl _)

theorem leads_executeSend {job : Job} {approvalId : Json} {approval : ApprovalRequest}
    (hkey : job.idempotencyKey = some (sendKey approval.id))
    (happroved : approval.status = .approved) :
    Leads ((owned True job).and (held approval)) (executeSend job approvalId approval)
      (fun _ => (owned False job : RowFact (Delivers adm))) (owned False job) := by
  have hkept : ((owned True job).and (held approval)).Implies
      (owned False job : RowFact (Delivers adm)) :=
    and_implies_left.trans (owned_mono False.elim)
  unfold executeSend
  dsimp only
  split
  · exact leads_raise fun _ => hkept
  · next hdraft =>
      split
      · exact leads_elsewhere_bind (markDeliverySent_elsewhere _ _ _) hkept
          fun _ => leads_pure hkept
      · next hunsent =>
          cases hget : (loads approval.payloadJson).get? "gmail_draft_id" with
          | none =>
              rw [hget] at hdraft
              exact absurd rfl hdraft
          | some draft =>
              exact (leads_sendAndRecord hkey happroved hget hunsent).bind
                fun _ => leads_pure (Implies.refl _)

/-- The checks before a send, and what has been checked once they have passed. -/
theorem leads_validateSend_bind {job : Job} {approval : ApprovalRequest} {k : Unit → Session α}
    (hraised : c.Implies raised)
    (hk : job.type = emailSendApprovedType →
      (loads job.payloadJson).get? "approval_id" = some (.str approval.id) →
        approval.status = .approved → Leads c (k ()) after raised) :
    Leads c ((validateSendExecutionInvariants job approval).bind k) after raised := by
  unfold validateSendExecutionInvariants
  split
  · exact leads_raise fun _ => hraised
  · next htype =>
      split
      · exact leads_raise fun _ => hraised
      · next happroval =>
          split
          · exact leads_raise fun _ => hraised
          · by_cases happroved : approval.status = .approved
            · exact leads_elsewhere_bind
                (validateSendEnqueueEligibility_reads (fun _ => .select _) approval)
                hraised fun _ => hk (not_not.mp htype) (not_not.mp happroval) happroved
            · unfold validateSendEnqueueEligibility
              rw [if_pos happroved]
              exact leads_raise fun _ => hraised

omit [Deployment] in
theorem find_of_approval? {s : Database} {id : Json} {row : ApprovalRequest}
    (h : s.approval? id = some row) : s.approvals.find? row.id = some row := by
  cases id with
  | str id => exact (Table.key_of_find? h).symm ▸ h
  | _ => cases h

theorem leads_runSendApprovedJob {job : Job} :
    Leads (owned True job) (runSendApprovedJob job)
      (fun _ => (owned False job : RowFact (Delivers adm))) (owned False job) := by
  have hkept : (owned True job).Implies (owned False job : RowFact (Delivers adm)) :=
    owned_mono False.elim
  unfold runSendApprovedJob
  dsimp only
  split
  · exact leads_raise fun _ => hkept
  · unfold getRequest getRequestAt
    rw [Prog.bind_eq, Prog.bind_eq, Prog.bind_assoc]
    refine leads_select_bind ?_
    intro hist s r hinv hown
    cases hread : (s.approval? (((loads job.payloadJson).get? "approval_id").getD .null)).filter
        fun row => (none : Option String) = none ∨ row.tenantId = none with
    | none =>
        exact ⟨owned True job, hown, leads_raise fun _ => hkept⟩
    | some approval =>
        have hfind := find_of_approval? (Option.filter_eq_some_iff.mp hread).1
        refine ⟨(owned True job).and (held approval), ⟨hown, fun _ => hfind⟩, ?_⟩
        refine leads_validateSend_bind (and_implies_left.trans hkept)
          fun htype happroval happroved => ?_
        refine leads_of_known (fun hist s hinv hc => ?_) fun hkey =>
          leads_executeSend hkey happroved
        exact sendKey_of_owned hinv hc.1 htype happroval

theorem leads_caught {p : Session β} {d : RowFact (Delivers adm)}
    (hp : Leads c p (fun _ => d) d) :
    Leads c (tryCatch (do
        let result ← p
        return Except.ok result)
      fun e => match caughtMessage e with
        | some message => return Except.error message
        | none => throw e) (fun _ => d) d := by
  refine Triple.handle (hp.bind fun _ => leads_pure (Implies.refl d))
    (fun _ => StableFact.Entails.refl _) fun e => ?_
  cases hmessage : caughtMessage e with
  | none => exact Triple.raise (StableFact.Entails.refl _)
  | some message =>
      refine Triple.pure fun hist s _ hd => hd ?_
      cases e with
      | db kind message => cases hmessage
      | pendingRollback => cases hmessage
      | _ => rfl

/-- The attempt is counted, the service runs, and the handler goes on with what it has caught. -/
theorem leads_attempt_bind {job : Job} {p : Job → Session β}
    {k : Job → Except String β → Session α}
    (hp : ∀ row, Leads (owned busy row) (p row)
      (fun _ => (owned False row : RowFact (Delivers adm))) (owned False row))
    (hk : ∀ row outcome, Leads (owned False row) (k row outcome) after (owned False row)) :
    Leads (owned busy job) ((countAttempt job).bind fun job => (tryCatch (do
        let result ← p job
        return Except.ok result)
      fun e => match caughtMessage e with
        | some message => return Except.error message
        | none => throw e).bind (k job)) after (owned False job) := by
  unfold countAttempt
  rw [Prog.bind_eq, Prog.bind_assoc]
  refine leads_updateJob_bind rfl (fun hbusy => ⟨hbusy, rfl⟩) fun _ => ?_
  refine leads_refreshJob_bind fun row _ hsame => ?_
  exact ((leads_caught (hp row)).bind (hk row)).mono (fun _ => Implies.refl _) hsame

theorem leads_handleChatOrchestrate (job : Job) :
    Leads (owned True job) (handleChatOrchestrate job)
      (fun _ => (nothing : RowFact (Delivers adm))) (owned False job) := by
  unfold handleChatOrchestrate
  simp only [Prog.bind_eq]
  refine leads_attempt_bind (fun row => ?_) fun row outcome => ?_
  · exact leads_executeChatOrchestrate.mono (fun _ => owned_mono False.elim)
      (owned_mono False.elim)
  · cases outcome with
    | error message =>
        exact (leads_markJobFailed row message).mono (fun _ => implies_nothing) (Implies.refl _)
    | ok result => exact leads_markJobSucceeded row result.dump

theorem leads_handleEmailSendApproved (job : Job) :
    Leads (owned True job) (handleEmailSendApproved job)
      (fun _ => (nothing : RowFact (Delivers adm))) (owned False job) := by
  unfold handleEmailSendApproved
  simp only [Prog.bind_eq]
  refine leads_attempt_bind (fun row => leads_runSendApprovedJob) fun row outcome => ?_
  cases outcome with
  | error message =>
      exact (leads_markJobFailed row message).bind fun _ =>
        (leads_elsewhere (auditSendJobFailed_elsewhere row message)).mono
          (fun _ => implies_nothing) (Implies.refl _)
  | ok result => exact leads_markJobSucceeded row result

/-- A job that no handler has closed may still be closed. -/
theorem leads_runTask (job : Job) :
    Leads (owned True job) (runTask job)
      (fun error => ((owned False job).when (error ≠ none) : RowFact (Delivers adm)))
      (owned False job) := by
  have hclosed : (nothing : RowFact (Delivers adm)).Implies
      ((owned False job).when ((none : Option String) ≠ none)) :=
    fun _ _ _ _ hne => absurd rfl hne
  unfold runTask
  split
  · exact (leads_handleChatOrchestrate job).bind fun _ => leads_pure hclosed
  · split
    · exact (leads_handleEmailSendApproved job).bind fun _ => leads_pure hclosed
    · exact leads_pure fun hist s hinv hown _ => owned_mono False.elim hist s hinv hown

theorem leads_recordException (job : Job) (e : PyErr) :
    Leads ((owned False job).when (e.poisons = false)) (recordException job e)
      (fun _ => (nothing : RowFact (Delivers adm))) nothing := by
  have hrefreshed : Leads (owned False job)
      ((refreshJob job.id).bind fun job => markJobFailed job e.str)
      (fun _ => (nothing : RowFact (Delivers adm))) nothing :=
    leads_refreshJob_bind fun row _ _ =>
      (leads_markJobFailed row e.str).mono (fun _ => implies_nothing) (Implies.refl _)
  cases hpoisons : e.poisons with
  | true =>
      cases e with
      | db kind message => exact leads_raise fun _ => implies_nothing
      | pendingRollback => exact leads_raise fun _ => implies_nothing
      | _ => cases hpoisons
  | false =>
      have hrecord : recordException job e =
          (refreshJob job.id).bind fun job => markJobFailed job e.str := by
        cases e with
        | db kind message => cases hpoisons
        | pendingRollback => cases hpoisons
        | _ => rfl
      rw [hrecord]
      exact hrefreshed.weaken fun _ _ _ hown => hown rfl

/-- What `process_job` finds when the task has ended. -/
def Unclosed : Except PyErr (Option String) → Prop
  | .error e => e.poisons = false
  | .ok error => error ≠ none

theorem leads_processJob (job : Job) :
    Leads (owned True job) (processJob job)
      (fun _ => (nothing : RowFact (Delivers adm))) nothing := by
  unfold processJob
  refine Leads.bind (d := fun outcome => (owned False job).when (Unclosed outcome)) ?_ ?_
  · refine Triple.handle ((leads_runTask job).bind fun error => leads_pure (Implies.refl _))
      (fun _ => StableFact.Entails.refl _) fun e => ?_
    exact leads_pure (Implies.refl _)
  · rintro (e | error)
    · exact leads_recordException job e
    · cases error with
      | none => exact leads_pure implies_nothing
      | some error =>
          refine Leads.weaken ?_ fun _ _ _ hown => hown (by rintro ⟨⟩)
          exact leads_refreshJob_bind fun row _ _ =>
            (leads_markJobFailed row error).mono (fun _ => implies_nothing) (Implies.refl _)

/-- A poll claims a waiting job and processes it. -/
theorem leads_poll : Leads nothing poll (fun _ => (nothing : RowFact (Delivers adm))) nothing := by
  rw [poll_eq]
  refine leads_select_bind ?_
  intro hist s r hinv _
  cases hnext : nextPending r s with
  | none => exact ⟨nothing, trivial, leads_pure implies_nothing⟩
  | some job =>
      obtain ⟨hmem, hpending⟩ := nextPending_pending hnext
      refine ⟨waiting job, ⟨job, Loaded.refl (s.jobs.find?_key hmem), hpending⟩,
        leads_commit_bind ?_⟩
      rintro hist s s' r hinv ⟨row, hrow, hidle⟩ happly
      obtain ⟨hinv', hfind, happrovals⟩ :=
        guarded_updateJob hinv hrow happly rfl fun hrunning => by simp [hidle] at hrunning
      refine ⟨hinv', owned True job, ⟨⟨_, ⟨hfind, hrow.key_eq, hrow.type_eq, ?_⟩, ?_⟩, ?_⟩, ?_⟩
      · simp [Job.updated, hrow.payload_eq]
      · intro _
        simp [Job.updated, changed, hpending]
      · intro id hkey hdelivers
        rw [happrovals]
        exact hinv.settled (Table.mem_of_find? hrow.find) (hrow.key_eq.trans hkey)
          (by simp [hidle]) hdelivers
      · exact leads_refreshJob_bind fun row _ _ =>
          (leads_processJob row).bind fun _ => leads_pure implies_nothing

end

end ControlPlane
