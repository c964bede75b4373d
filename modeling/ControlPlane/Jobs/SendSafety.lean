import ControlPlane.Jobs.SendRecords
import ControlPlane.Jobs.SendRules

/-!
A message goes out only for an approved row, with the draft that was there when the row was
approved, and at most once. The worker may crash between any two of its actions and start again,
requests may run between them, and any commit or call may fail.
-/

namespace ControlPlane

open Lib JobService AuditService ApprovalService EmailService Tasks Runner

section

variable [Deployment] {adm : (q : Call) → Reply q → Database → Prop}
  {P : Pool Unit Database Call Reply PyErr Outcome Request Outcome}

/-- The worker starts over an empty database. -/
def started : Pool Unit Database Call Reply PyErr Outcome Request Outcome where
  store := {}
  thread _ := poll
  history := []

theorem guarded_reach (hreach : (installation adm).Reach started P) :
    SendsGuarded (Delivers adm) P.history P.store := by
  have hpoll : Triple (.top : Known adm) poll fun _ => .top := by
    refine Triple.mono (Triple.weaken ?_ leads_poll) fun _ => StableFact.entails_top
    exact fun _ _ _ _ => trivial
  refine reach_owned (P := started) ?_ ?_ hpoll sendsGuarded_empty hreach
  · exact fun _ _ _ _ _ _ hinv hrun => hinv.request hrun
  · rintro p rfl
    exact hpoll

/-- Whenever the provider is asked to send, the row is approved, an approve request has met it
pending with this very draft, and no reject request succeeds in the whole history. The worker
may crash and start again at any of its calls, requests are served between any two of them, and
nothing is assumed of the answers of the surroundings. -/
theorem send_was_approved (hreach : (installation adm).Reach started P)
    {before after : WorkLog} {store : Database} {id : String} {draft : Json}
    {answer : Except PyErr String}
    (hsplit : P.history = before ++ .act () store ⟨.sendApprovedDraft id draft, answer⟩ :: after) :
    Endorsed before id draft ∧
      (∃ row, store.approvals.find? id = some row ∧ row.kind = jobGate ∧
        row.status = .approved ∧ (loads row.payloadJson).get? "gmail_draft_id" = some draft) ∧
      ¬Rejection P.history id := by
  have hguarded := guarded_reach hreach
  obtain ⟨hcleared, _, row, hfind, happroved⟩ := hguarded.sent _ _ _ _ _ _ hsplit
  refine ⟨hcleared.endorsed, ?_, fun hrejection => ?_⟩
  · exact hcleared.row
  · obtain ⟨row', hfind', hrejected⟩ := hguarded.rejected id hrejection
    rw [hfind] at hfind'
    cases hfind'
    rw [happroved] at hrejected
    cases hrejected

/-- If the provider names every message it sends, it is never asked again once it has sent the
message of an approval, whatever crashes, failures and retries follow. Until the row of the
approval holds the id of the message, the job of the send stays running, and no retry takes a
running job. -/
theorem message_sent_once (hdelivers : Delivers adm)
    (hreach : (installation adm).Reach started P) (id : String) :
    (∀ before store draft answer after,
      P.history = before ++ .act () store ⟨.sendApprovedDraft id draft, answer⟩ :: after →
        messagesSent before id = 0) ∧
      messagesSent P.history id ≤ 1 ∧
      (messagesSent P.history id = 1 → ∃ job ∈ P.store.jobs.rows,
        job.idempotencyKey = some (sendKey id) ∧
          (job.status = .running ∨ MessageStored P.store.approvals id)) := by
  have hguarded := guarded_reach hreach
  refine ⟨?_, ?_, fun hone => ?_⟩
  · intro before store draft answer after hsplit
    exact (hguarded.sent _ _ _ _ _ _ hsplit).2.1 hdelivers
  · by_cases hnone : messagesSent P.history id = 0
    · rw [hnone]
      exact Nat.zero_le 1
    · exact (hguarded.once hdelivers id hnone).1.le
  · exact (hguarded.once hdelivers id (by rw [hone]; exact Nat.one_ne_zero)).2

/-- The worker polls once more, without an interruption. -/
theorem polled_reach {s s' : Database} {trace : List (Event Call Reply)}
    {result : Except PyErr Outcome} (hreach : (installation adm).Reach started P)
    (hstore : P.store = s) (hrun : Prog.Runs adm poll s trace result s') :
    ∃ P', (installation adm).Reach started P' ∧ P'.store = s' ∧
      events P'.history = events P.history ++ trace := by
  have hspawned := hreach.step (.spawn (t := ()) (p := poll) rfl)
  obtain ⟨P', hreach', hstore', acts, hhistory, hevents⟩ :=
    reach_runs (S := installation adm) (P := { P with thread := Function.update P.thread () poll })
      (t := ()) hrun (Function.update_self () poll P.thread) hstore
  refine ⟨P', hspawned.trans hreach', hstore', ?_⟩
  rw [hhistory, events_append, hevents]

theorem served_reach {req : Request} {s s' : Database} {trace : List (Event Call Reply)}
    {result : Except PyErr Outcome} (hreach : (installation adm).Reach started P)
    (hstore : P.store = s) (hrun : Prog.Runs adm (handleRequest req) s trace result s') :
    ∃ P', (installation adm).Reach started P' ∧ P'.store = s' ∧
      events P'.history = events P.history := by
  subst hstore
  refine ⟨_, hreach.step (.request hrun), rfl, ?_⟩
  rw [events_append]
  exact List.append_nil _

omit [Deployment] in
/-- A message that was sent was sent by an action of the history. -/
theorem exists_send {h : WorkLog} {id : String} (hsent : messagesSent h id ≠ 0) :
    ∃ before store draft answer after,
      h = before ++ .act () store ⟨.sendApprovedDraft id draft, answer⟩ :: after := by
  obtain ⟨reply, hreply, _⟩ := List.countP_pos_iff.mp (Nat.pos_of_ne_zero hsent)
  obtain ⟨event, hevent, hsend⟩ := List.mem_filterMap.mp hreply
  obtain ⟨entry, hentry, hevents⟩ := List.mem_filterMap.mp hevent
  obtain ⟨before, after, hsplit⟩ := List.append_of_mem hentry
  cases entry with
  | request store req result => cases hevents
  | act t store event' =>
      cases hevents
      obtain ⟨call, answer⟩ := event
      cases call with
      | sendApprovedDraft approvalId draft =>
          simp only [sendReply] at hsend
          split at hsend
          · next hid =>
              cases hid
              exact ⟨before, store, draft, answer, after, hsplit⟩
          · cases hsend
      | _ => cases hsend

end

section Sample

local instance instSafetyDeployment : Deployment := instSendDeployment

theorem delivers_usual : Delivers (steady usual) :=
  fun _ _ _ _ hanswer => hanswer

/-- Asked, drafted, approved and sent. -/
theorem sent_reach : ∃ P, (installation (steady usual)).Reach started P ∧
    messagesSent P.history "row205" = 1 := by
  obtain ⟨hasked, hdrafted, happroved, hsent, _⟩ := operations_admitted
  have happroved : Prog.Runs (steady usual)
      (handleRequest (.approve "row205" "ops" none (some "t1"))) draftedMail _ _ approvedMail :=
    Prog.runs_of_admits happroved
  have hpolled : Prog.Runs (steady usual) poll askedMail _ _ draftedMail :=
    Prog.runs_of_admits hdrafted
  have hmailed : Prog.Runs (steady usual) poll approvedMail _ _ sentMail :=
    Prog.runs_of_admits hsent
  obtain ⟨P₁, hreach₁, hstore₁, hevents₁⟩ :=
    served_reach .refl rfl (Prog.runs_of_admits hasked)
  obtain ⟨P₂, hreach₂, hstore₂, hevents₂⟩ := polled_reach hreach₁ hstore₁ hpolled
  obtain ⟨P₃, hreach₃, hstore₃, hevents₃⟩ := served_reach hreach₂ hstore₂ happroved
  obtain ⟨P₄, hreach₄, _, hevents₄⟩ := polled_reach hreach₃ hstore₃ hmailed
  refine ⟨P₄, hreach₄, ?_⟩
  unfold messagesSent
  rw [hevents₄, hevents₃, hevents₂, hevents₁]
  decide +kernel

theorem sent_mail_was_approved : ∃ P before draft,
    (installation (steady usual)).Reach started P ∧ Endorsed before "row205" draft ∧
      ¬Rejection P.history "row205" := by
  obtain ⟨P, hreach, hsent⟩ := sent_reach
  obtain ⟨before, store, draft, answer, after, hsplit⟩ := exists_send (by rw [hsent]; decide)
  obtain ⟨hendorsed, _, hkept⟩ := send_was_approved hreach hsplit
  exact ⟨P, before, draft, hreach, hendorsed, hkept⟩

theorem sent_mail_stored : ∃ P, (installation (steady usual)).Reach started P ∧
    ∃ job ∈ P.store.jobs.rows, job.idempotencyKey = some (sendKey "row205") ∧
      (job.status = .running ∨ MessageStored P.store.approvals "row205") := by
  obtain ⟨P, hreach, hsent⟩ := sent_reach
  exact ⟨P, hreach, (message_sent_once delivers_usual hreach "row205").2.2 hsent⟩

end Sample

end ControlPlane
