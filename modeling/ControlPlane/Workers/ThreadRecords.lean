import ControlPlane.Services.Reads
import ControlPlane.System.Processes

/-!
Interleaved calls of `upsert_thread_record`. Each call reads the row of its tenant and
thread and commits later. The UNIQUE constraint refuses a second row only for a tenant, and
an UPDATE sets a column only if the session changed the value it had read.
-/

namespace ControlPlane

open Lib

namespace EmailPersistence

/-- The columns that a call writes, each only if it is given. -/
structure ThreadFields where
  snippet : Option String := none
  intent : Option String := none
  sourceJobId : Option String := none
  extra : Option Dict := none
  deriving DecidableEq

/-- The last values written that are not `None`. -/
def ThreadFields.over (new old : ThreadFields) : ThreadFields where
  snippet := new.snippet <|> old.snippet
  intent := new.intent <|> old.intent
  sourceJobId := new.sourceJobId <|> old.sourceJobId
  extra := new.extra <|> old.extra

theorem ThreadFields.over_empty (f : ThreadFields) : f.over {} = f := by
  cases f
  simp [ThreadFields.over]

def threadFields (row : EmailThreadRecord) : ThreadFields where
  snippet := row.lastSnippet
  intent := row.lastIntent
  sourceJobId := row.sourceJobId
  extra := row.extraJson

/-- The arguments of `upsert_thread_record`. -/
structure ThreadCall where
  tenantId : Option String
  externalThreadId : String
  sourceJobId : Option String := none
  snippet : Option String := none
  intent : Option String := none
  extra : Option Dict := none

def ThreadCall.fields (c : ThreadCall) : ThreadFields where
  snippet := c.snippet
  intent := c.intent
  sourceJobId := c.sourceJobId
  extra := c.extra.filter fun e => !e.isEmpty

def ThreadCall.About (c : ThreadCall) (tenantId : Option String) (externalThreadId : String) :
    Prop :=
  c.tenantId = tenantId ∧ c.externalThreadId = externalThreadId

instance (c : ThreadCall) (tenantId : Option String) (externalThreadId : String) :
    Decidable (c.About tenantId externalThreadId) :=
  inferInstanceAs (Decidable (_ ∧ _))

/-- The fields of a row, if there is one, after these calls. -/
def latest (tenantId : Option String) (externalThreadId : String)
    (old : Option ThreadFields) (calls : List ThreadCall) : Option ThreadFields :=
  calls.foldl (fun old c =>
    if c.About tenantId externalThreadId then some (c.fields.over (old.getD {})) else old) old

theorem latest_append (tenantId : Option String) (externalThreadId : String)
    (old : Option ThreadFields) (calls : List ThreadCall) (c : ThreadCall) :
    latest tenantId externalThreadId old (calls ++ [c]) =
      if c.About tenantId externalThreadId then
        some (c.fields.over ((latest tenantId externalThreadId old calls).getD {}))
      else latest tenantId externalThreadId old calls := by
  unfold latest
  rw [List.foldl_append, List.foldl_cons, List.foldl_nil]

/-- A value that is given, but does not change what the session has read, is in the column
only if nobody else has changed that. -/
def Current {α : Type} (value loaded current : Option α) : Prop :=
  value ≠ none → value = loaded → current = loaded

theorem changed_eq_iff {α : Type} [DecidableEq (Option α)] (value loaded current : Option α) :
    changed loaded (value <|> loaded) current = (value <|> current) ↔
      Current value loaded current := by
  unfold Current changed
  cases value with
  | none => simp
  | some v =>
      by_cases hsame : some v = loaded
      · simp [hsame, eq_comm]
        grind
      · simp [hsame]

structure ThreadFields.Current (value loaded current : ThreadFields) : Prop where
  snippet : EmailPersistence.Current value.snippet loaded.snippet current.snippet
  intent : EmailPersistence.Current value.intent loaded.intent current.intent
  sourceJobId :
    EmailPersistence.Current value.sourceJobId loaded.sourceJobId current.sourceJobId
  extra : EmailPersistence.Current value.extra loaded.extra current.extra

instance {α : Type} [DecidableEq α] (value loaded current : Option α) :
    Decidable (Current value loaded current) :=
  inferInstanceAs (Decidable (_ → _ → _))

instance (value loaded current : ThreadFields) :
    Decidable (value.Current loaded current) :=
  decidable_of_iff
    (Current value.snippet loaded.snippet current.snippet ∧
      Current value.intent loaded.intent current.intent ∧
      Current value.sourceJobId loaded.sourceJobId current.sourceJobId ∧
      Current value.extra loaded.extra current.extra)
    ⟨fun ⟨hsnippet, hintent, hsource, hextra⟩ => ⟨hsnippet, hintent, hsource, hextra⟩,
      fun h => ⟨h.snippet, h.intent, h.sourceJobId, h.extra⟩⟩

/-- The row as a call wants it. -/
def ThreadCall.wanted (c : ThreadCall) (row : EmailThreadRecord) : EmailThreadRecord :=
  { row with
    lastSnippet := c.fields.snippet <|> row.lastSnippet
    lastIntent := c.fields.intent <|> row.lastIntent
    sourceJobId := c.fields.sourceJobId <|> row.sourceJobId
    extraJson := c.fields.extra <|> row.extraJson }

theorem fields_updated_iff (c : ThreadCall) (loaded current : EmailThreadRecord) :
    threadFields (loaded.updated (c.wanted loaded) current) =
        c.fields.over (threadFields current) ↔
      c.fields.Current (threadFields loaded) (threadFields current) := by
  simp only [threadFields, EmailThreadRecord.updated, ThreadCall.wanted, ThreadFields.over,
    ThreadFields.mk.injEq, changed_eq_iff]
  constructor
  · rintro ⟨hsnippet, hintent, hsource, hextra⟩
    exact ⟨hsnippet, hintent, hsource, hextra⟩
  · rintro ⟨hsnippet, hintent, hsource, hextra⟩
    exact ⟨hsnippet, hintent, hsource, hextra⟩

/-- The row that a call inserts. -/
def ThreadCall.row (c : ThreadCall) : EmailThreadRecord where
  id := ""
  tenantId := c.tenantId
  externalThreadId := c.externalThreadId
  lastSnippet := c.fields.snippet
  lastIntent := c.fields.intent
  sourceJobId := c.fields.sourceJobId
  extraJson := c.fields.extra

section

variable [Deployment] {s s' : Database} {r : DbReply} {tenantId : Option String}
  {externalThreadId : String}

theorem threadRows_insert {row : EmailThreadRecord}
    (h : (Transaction.insertThread row).apply r s = some s') :
    threadRows tenantId externalThreadId s' = threadRows tenantId externalThreadId s ++
      if row.tenantId = tenantId ∧ row.externalThreadId = externalThreadId then
        [{ row with id := r.newId }] else [] := by
  obtain ⟨threads, hinsert, rfl⟩ := Option.map_eq_some_iff.mp h
  unfold threadRows
  dsimp only
  rw [Table.rows_insert hinsert, List.filter_append]
  congr 1
  by_cases hkey : row.tenantId = tenantId ∧ row.externalThreadId = externalThreadId
  · simp [hkey]
  · rw [if_neg hkey]
    simp only [List.filter_eq_nil_iff, List.mem_singleton, forall_eq]
    simpa [and_comm] using hkey

theorem threadRows_update {loaded new : EmailThreadRecord}
    (h : (Transaction.updateThread loaded new).apply r s = some s') :
    threadRows tenantId externalThreadId s' =
      (threadRows tenantId externalThreadId s).map fun row =>
        if row.id = loaded.id then loaded.updated new row else row := by
  cases h
  unfold threadRows Table.modify
  dsimp only
  rw [List.filter_map]
  congr 1
  refine List.filter_congr fun row _ => ?_
  simp only [Function.comp]
  split <;> rfl

/-- The constraint refuses a second row for a tenant. -/
theorem threadRows_of_insert {row : EmailThreadRecord} {tenant : String}
    (htenant : row.tenantId = some tenant)
    (h : (Transaction.insertThread row).apply r s = some s') :
    threadRows (some tenant) row.externalThreadId s = [] := by
  obtain ⟨threads, hinsert, rfl⟩ := Option.map_eq_some_iff.mp h
  unfold threadRows
  rw [List.filter_eq_nil_iff]
  intro other hother hkey
  simp only [Bool.and_eq_true, decide_eq_true_eq] at hkey
  have huniq : ({ row with id := r.newId } : EmailThreadRecord).tenantExt =
      some (tenant, row.externalThreadId) := by
    simp [EmailThreadRecord.tenantExt, htenant]
  refine Table.uniq_fresh_of_insert hinsert huniq (List.mem_filterMap.mpr ⟨other, hother, ?_⟩)
  simp [EmailThreadRecord.tenantExt, hkey]

omit [Deployment] in
theorem find_of_threadRows {row : EmailThreadRecord}
    (h : row ∈ threadRows tenantId externalThreadId s) :
    s.emailThreads.find? row.id = some row ∧ row.tenantId = tenantId ∧
      row.externalThreadId = externalThreadId := by
  obtain ⟨hmem, hkey⟩ := List.mem_filter.mp h
  simp only [Bool.and_eq_true, decide_eq_true_eq] at hkey
  exact ⟨s.emailThreads.find?_key hmem, hkey.2, hkey.1⟩

omit [Deployment] in
theorem mem_threadRows {row : EmailThreadRecord} {id : String}
    (h : s.emailThreads.find? id = some row) :
    row ∈ threadRows row.tenantId row.externalThreadId s :=
  List.mem_filter.mpr ⟨Table.mem_of_find? h, by simp⟩

end

section

variable [Deployment] {τ : Type} (call : τ → ThreadCall)

def ThreadCall.program (c : ThreadCall) : Session Unit :=
  upsertThreadRecord c.tenantId c.externalThreadId c.sourceJobId c.snippet c.intent c.extra

/-- Any number of calls, each in a thread of its own, in any interleaving. -/
def upserts : System τ Database Call Reply PyErr Unit Empty Empty where
  adm _ _ _ := True
  spawn t p := p = (call t).program
  body req := nomatch req

/-- The call that a step has committed. -/
def stored : Entry τ Database Call Reply PyErr Empty Empty → Option ThreadCall
  | .act t s e => (e.call.committed e.answer s).map fun _ => call t
  | .request _ req _ => nomatch req

def before : Entry τ Database Call Reply PyErr Empty Empty → Database
  | .act _ s _ => s
  | .request _ req _ => nomatch req

/-- Every tenant and thread has at most one row, and its fields are the last ones that
were written since `base`. -/
def OneRecord (base : Database) (h : List (Entry τ Database Call Reply PyErr Empty Empty))
    (s : Database) : Prop :=
  ∀ tenantId externalThreadId, ∃ row : Option EmailThreadRecord,
    threadRows tenantId externalThreadId s = row.toList ∧
      row.map threadFields = latest tenantId externalThreadId
        ((threadRows tenantId externalThreadId base).head?.map threadFields)
        (h.filterMap (stored call))

/-- The law holds in every state of a run. -/
def Throughout (base : Database)
    (h : List (Entry τ Database Call Reply PyErr Empty Empty)) (s : Database) : Prop :=
  OneRecord call base h s ∧
    ∀ first e, first ++ [e] <+: h → OneRecord call base first (before e)

/-- What a commit relies on: a row without a tenant is inserted where there is none, and a
column that an update sets to what it has read still has that value. -/
def Fits (c : ThreadCall) (s : Database) : Transaction → Prop
  | .insertThread _ => c.tenantId = none → threadRows none c.externalThreadId s = []
  | .updateThread loaded _ => ∀ current ∈ s.emailThreads.find? loaded.id,
      c.fields.Current (threadFields loaded) (threadFields current)
  | _ => True

instance (c : ThreadCall) (s : Database) : (tx : Transaction) → Decidable (Fits c s tx)
  | .insertThread _ => inferInstanceAs
      (Decidable (c.tenantId = none → threadRows none c.externalThreadId s = []))
  | .updateThread loaded _ => inferInstanceAs
      (Decidable (∀ current ∈ s.emailThreads.find? loaded.id,
        c.fields.Current (threadFields loaded) (threadFields current)))
  | .insertAudit _ | .insertJob _ | .updateJob _ _ | .insertApproval _
  | .updateApproval _ _ | .insertDelivery _ | .updateDelivery _ _ =>
      inferInstanceAs (Decidable True)

def Fresh : Entry τ Database Call Reply PyErr Empty Empty → Prop
  | .act t s e => ∀ tx ∈ e.call.committed e.answer s, Fits (call t) s tx
  | .request _ req _ => nomatch req

instance (e : Entry τ Database Call Reply PyErr Empty Empty) : Decidable (Fresh call e) :=
  match e with
  | .act t s e => inferInstanceAs
      (Decidable (∀ tx ∈ e.call.committed e.answer s, Fits (call t) s tx))
  | .request _ req _ => nomatch req

variable {call} {base s s' : Database} {t : τ}
  {h : List (Entry τ Database Call Reply PyErr Empty Empty)}

theorem throughout_append {e : Event Call Reply} :
    Throughout call base (h ++ [.act t s e]) s' ↔
      Throughout call base h s ∧ OneRecord call base (h ++ [.act t s e]) s' := by
  unfold Throughout
  simp only [List.prefix_concat_iff, List.append_singleton_inj]
  constructor
  · rintro ⟨hlast, hearlier⟩
    exact ⟨⟨hearlier h _ (Or.inl ⟨rfl, rfl⟩), fun first e hprefix =>
      hearlier first e (Or.inr hprefix)⟩, hlast⟩
  · rintro ⟨⟨hnow, hearlier⟩, hlast⟩
    refine ⟨hlast, ?_⟩
    rintro first e' (⟨rfl, rfl⟩ | hprefix)
    · exact hnow
    · exact hearlier first e' hprefix

/-- A step that commits nothing keeps the law, and breaks it no more than before. -/
theorem oneRecord_uncommitted {e : Event Call Reply}
    (hnone : e.call.committed e.answer s = none) :
    OneRecord call base (h ++ [.act t s e]) s ↔ OneRecord call base h s := by
  have hstored : (h ++ [Entry.act t s e]).filterMap (stored call) = h.filterMap (stored call) := by
    rw [List.filterMap_append]
    simp [stored, hnone]
  unfold OneRecord
  rw [hstored]

theorem oneRecord_committed {e : Event Call Reply} {tx : Transaction}
    (hcommitted : e.call.committed e.answer s = some tx) :
    OneRecord call base (h ++ [.act t s e]) s' ↔
      ∀ tenantId externalThreadId, ∃ row : Option EmailThreadRecord,
        threadRows tenantId externalThreadId s' = row.toList ∧
        let old := latest tenantId externalThreadId
          ((threadRows tenantId externalThreadId base).head?.map threadFields)
          (h.filterMap (stored call))
        row.map threadFields = if (call t).About tenantId externalThreadId then
          some ((call t).fields.over (old.getD {})) else old := by
  have hstored : (h ++ [Entry.act t s e]).filterMap (stored call) =
      h.filterMap (stored call) ++ [call t] := by
    rw [List.filterMap_append]
    simp [stored, hcommitted]
  unfold OneRecord
  simp only [hstored, latest_append]

/-- An insertion keeps the law exactly if it finds no row, which the constraint ensures for
a tenant. -/
theorem oneRecord_insert_iff {r : DbReply} (hone : OneRecord call base h s)
    (hrun : (Transaction.insertThread (call t).row).run r s = .ok s') :
    OneRecord call base (h ++ [.act t s ⟨.commit (.insertThread (call t).row), r⟩]) s' ↔
      Fits (call t) s (.insertThread (call t).row) := by
  have happly := (Transaction.run_eq_ok.mp hrun).2
  rw [oneRecord_committed (Call.committed_of_run hrun)]
  constructor
  · intro hafter hnone
    obtain ⟨row, hrows, _⟩ := hafter none (call t).externalThreadId
    rw [threadRows_insert happly, if_pos ⟨hnone, rfl⟩] at hrows
    have hlength := congrArg List.length hrows
    rw [List.length_append, List.length_singleton] at hlength
    have hle : row.toList.length ≤ 1 := by cases row <;> simp
    exact List.length_eq_zero_iff.mp (by omega)
  · intro hfits tenantId externalThreadId
    obtain ⟨row, hrows, hfields⟩ := hone tenantId externalThreadId
    dsimp only
    rw [threadRows_insert happly, hrows]
    by_cases habout : (call t).About tenantId externalThreadId
    · obtain ⟨rfl, rfl⟩ := habout
      have hempty : threadRows (call t).tenantId (call t).externalThreadId s = [] := by
        cases htenant : (call t).tenantId with
        | none => exact hfits htenant
        | some tenant => exact threadRows_of_insert htenant happly
      obtain rfl : row = none := by
        cases row with
        | none => rfl
        | some row =>
            rw [hempty] at hrows
            cases hrows
      refine ⟨some { (call t).row with id := r.newId }, ?_, ?_⟩
      · rw [if_pos ⟨rfl, rfl⟩]
        rfl
      · rw [if_pos ⟨rfl, rfl⟩, ← hfields, Option.map_none, Option.getD_none,
          ThreadFields.over_empty]
        rfl
    · refine ⟨row, ?_, ?_⟩
      · have hother : ¬((call t).row.tenantId = tenantId ∧
          (call t).row.externalThreadId = externalThreadId) := habout
        rw [if_neg hother, List.append_nil]
      · rw [if_neg habout, hfields]

/-- The row that a call has read is still there. -/
def Held (c : ThreadCall) (loaded : EmailThreadRecord) (s : Database) : Prop :=
  ∃ current, s.emailThreads.find? loaded.id = some current ∧
    c.About current.tenantId current.externalThreadId

/-- An update keeps the law exactly if the columns it does not change are still as it has
read them. -/
theorem oneRecord_update_iff {r : DbReply} {loaded : EmailThreadRecord}
    (hone : OneRecord call base h s) (hheld : Held (call t) loaded s)
    (hrun : (Transaction.updateThread loaded ((call t).wanted loaded)).run r s = .ok s') :
    OneRecord call base
        (h ++ [.act t s ⟨.commit (.updateThread loaded ((call t).wanted loaded)), r⟩]) s' ↔
      Fits (call t) s (.updateThread loaded ((call t).wanted loaded)) := by
  have happly := (Transaction.run_eq_ok.mp hrun).2
  obtain ⟨current, hfind, habout⟩ := hheld
  have hmem := mem_threadRows hfind
  have hid := Table.key_of_find? hfind
  have hnow : threadRows current.tenantId current.externalThreadId s = [current] ∧
      some (threadFields current) = latest current.tenantId current.externalThreadId
        ((threadRows current.tenantId current.externalThreadId base).head?.map threadFields)
        (h.filterMap (stored call)) := by
    obtain ⟨row, hrows, hfields⟩ := hone current.tenantId current.externalThreadId
    rw [hrows, Option.mem_toList] at hmem
    rw [hrows, ← hfields, hmem]
    exact ⟨rfl, rfl⟩
  have hafterRows : threadRows current.tenantId current.externalThreadId s' =
      [loaded.updated ((call t).wanted loaded) current] := by
    rw [threadRows_update happly, hnow.1, List.map_singleton, if_pos hid]
  rw [oneRecord_committed (Call.committed_of_run hrun)]
  constructor
  · intro hafter current' hfind'
    obtain rfl : current = current' := Option.some.inj (hfind.symm.trans hfind')
    obtain ⟨row, hrows, hfields⟩ := hafter current.tenantId current.externalThreadId
    dsimp only at hfields
    rw [if_pos habout, ← hnow.2, Option.getD_some] at hfields
    rw [hafterRows] at hrows
    cases row with
    | none => cases hrows
    | some row =>
        obtain rfl := List.singleton_injective hrows
        exact (fields_updated_iff _ _ _).mp (Option.some.inj hfields)
  · intro hfits tenantId externalThreadId
    obtain ⟨row, hrows, hfields⟩ := hone tenantId externalThreadId
    dsimp only
    by_cases hkey : (call t).About tenantId externalThreadId
    · obtain ⟨rfl, rfl⟩ : current.tenantId = tenantId ∧
          current.externalThreadId = externalThreadId :=
        ⟨habout.1.symm.trans hkey.1, habout.2.symm.trans hkey.2⟩
      refine ⟨some (loaded.updated ((call t).wanted loaded) current), hafterRows, ?_⟩
      rw [if_pos hkey, ← hnow.2, Option.map_some, Option.getD_some,
        (fields_updated_iff _ _ _).mpr (hfits current hfind)]
    · refine ⟨row, ?_, ?_⟩
      · have hother : ∀ other ∈ threadRows tenantId externalThreadId s,
            other.id ≠ loaded.id := by
          intro other hother hsame
          obtain ⟨hfound, htenant, hthread⟩ := find_of_threadRows hother
          rw [hsame, hfind] at hfound
          obtain rfl := Option.some.inj hfound
          exact hkey ⟨habout.1.trans htenant, habout.2.trans hthread⟩
        rw [threadRows_update happly, ← hrows]
        exact (List.map_congr_left fun other hmem => if_neg (hother other hmem)).trans
          (List.map_id' _)
      · rw [if_neg hkey, hfields]

/-- What a call knows between its steps: the row it has read, or that there were several. -/
inductive Knows where
  | nothing
  | loaded (row : EmailThreadRecord)
  | several

variable (call base)

def Knows.Holds (t : τ) (c : Knows)
    (h : List (Entry τ Database Call Reply PyErr Empty Empty)) (s : Database) : Prop :=
  match c with
  | .nothing => True
  | .loaded row => Held (call t) row s
  | .several => ¬∀ e ∈ h, Fresh call e

def upsertLogic : Logic τ Database Call Reply PyErr Unit Empty Empty Knows where
  inv h s := Throughout call base h s ↔ ∀ e ∈ h, Fresh call e
  holds := Knows.Holds call
  compat _ _ := True
  idle := .nothing
  post _ result c := result = .error multipleRows → c = .several

variable {call base}

theorem held_insert {c : ThreadCall} {loaded row : EmailThreadRecord} {r : DbReply}
    (h : (Transaction.insertThread row).apply r s = some s') (hheld : Held c loaded s) :
    Held c loaded s' := by
  obtain ⟨current, hfind, habout⟩ := hheld
  obtain ⟨threads, hinsert, rfl⟩ := Option.map_eq_some_iff.mp h
  exact ⟨current, Table.find?_insert_of_some hinsert hfind, habout⟩

theorem held_update {c : ThreadCall} {loaded other new : EmailThreadRecord} {r : DbReply}
    (h : (Transaction.updateThread other new).apply r s = some s') (hheld : Held c loaded s) :
    Held c loaded s' := by
  obtain ⟨current, hfind, habout⟩ := hheld
  obtain rfl := Option.some.inj h
  have hafter := @Table.find?_modify _ _ _ _ _ _ s.emailThreads other.id (other.updated new)
    (fun _ => rfl) (fun _ => rfl) loaded.id
  rw [hfind, Option.map_some] at hafter
  refine ⟨_, hafter, ?_⟩
  split <;> exact habout

/-- A step keeps the equivalence if it keeps the law exactly when it is fresh. -/
theorem moves_of_iff {e : Event Call Reply} {c c' : Knows}
    (hinv : (upsertLogic call base).inv h s)
    (hstep : OneRecord call base h s →
      (OneRecord call base (h ++ [.act t s e]) s' ↔ Fresh call (.act t s e)))
    (hholds : Knows.Holds call t c' (h ++ [.act t s e]) s')
    (hheld : ∀ d row, Held d row s → Held d row s') :
    (upsertLogic call base).Moves t c h s (.act t s e) s' c' where
  inv := by
    have hbefore : Throughout call base h s ↔ ∀ e ∈ h, Fresh call e := hinv
    show Throughout call base (h ++ [.act t s e]) s' ↔ _
    rw [throughout_append, List.forall_mem_append, List.forall_mem_singleton, ← hbefore]
    exact and_congr_right fun hthroughout => hstep hthroughout.1
  holds := hholds
  others u _ d _ hd := by
    refine ⟨trivial, ?_⟩
    cases d with
    | nothing => trivial
    | loaded row => exact hheld _ row hd
    | several =>
        intro hfresh
        exact hd fun e he => hfresh e (List.mem_append_left _ he)

theorem fresh_of_none {e : Event Call Reply} (hnone : e.call.committed e.answer s = none) :
    Fresh call (.act t s e) := by
  intro tx htx
  rw [hnone] at htx
  exact nomatch htx

theorem fresh_iff_fits {e : Event Call Reply} {tx : Transaction}
    (hcommitted : e.call.committed e.answer s = some tx) :
    Fresh call (.act t s e) ↔ Fits (call t) s tx := by
  simp [Fresh, hcommitted]

/-- A step that commits nothing. -/
theorem moves_uncommitted {e : Event Call Reply} {c c' : Knows}
    (hinv : (upsertLogic call base).inv h s) (hnone : e.call.committed e.answer s = none)
    (hholds : Knows.Holds call t c' (h ++ [.act t s e]) s) :
    (upsertLogic call base).Moves t c h s (.act t s e) s c' :=
  moves_of_iff hinv
    (fun hone => iff_of_true ((oneRecord_uncommitted hnone).mpr hone) (fresh_of_none hnone))
    hholds fun _ _ hd => hd

theorem run_ne_multipleRows {tx : Transaction} {r : DbReply} {e : PyErr}
    (h : tx.run r s = .error e) : e ≠ multipleRows := by
  unfold Transaction.run at h
  rintro rfl
  repeat' split at h
  all_goals cases h

theorem insert_safe {post : Except PyErr Unit → Knows → Prop}
    (hok : post (.ok ()) .nothing) (herror : ∀ e, e ≠ multipleRows → post (.error e) .nothing) :
    (upsertLogic call base).Safe (upserts call) t
      ((commit (.insertThread (call t).row)).bind fun _ => .pure ()) post .nothing := by
  refine Logic.Safe.bind (safe_commit ?_ ?_)
  · intro h s s' r _ hinv _ hrun
    refine ⟨.nothing, moves_of_iff hinv (fun hone => ?_) trivial ?_, hok⟩
    · rw [oneRecord_insert_iff hone hrun, fresh_iff_fits (Call.committed_of_run hrun)]
    · exact fun _ _ hd => held_insert (Transaction.run_eq_ok.mp hrun).2 hd
  · intro h s e r _ hinv _ hrun
    refine ⟨.nothing, moves_uncommitted hinv (by simp [Call.committed, hrun]) trivial,
      herror e (run_ne_multipleRows hrun)⟩

theorem update_safe {post : Except PyErr Unit → Knows → Prop} {loaded : EmailThreadRecord}
    (hok : post (.ok ()) (.loaded loaded))
    (herror : ∀ e, e ≠ multipleRows → post (.error e) (.loaded loaded)) :
    (upsertLogic call base).Safe (upserts call) t
      ((commit (.updateThread loaded ((call t).wanted loaded))).bind fun _ => .pure ()) post
      (.loaded loaded) := by
  refine Logic.Safe.bind (safe_commit ?_ ?_)
  · intro h s s' r _ hinv hheld hrun
    have hkept : ∀ d row, Held d row s → Held d row s' := fun _ _ hd =>
      held_update (Transaction.run_eq_ok.mp hrun).2 hd
    refine ⟨.loaded loaded, moves_of_iff hinv (fun hone => ?_) (hkept _ _ hheld) hkept, hok⟩
    rw [oneRecord_update_iff hone hheld hrun, fresh_iff_fits (Call.committed_of_run hrun)]
  · intro h s e r _ hinv hheld hrun
    refine ⟨.loaded loaded, moves_uncommitted hinv (by simp [Call.committed, hrun]) hheld,
      herror e (run_ne_multipleRows hrun)⟩

theorem program_safe : (upsertLogic call base).Safe (upserts call) t (call t).program
    ((upsertLogic call base).post t) .nothing := by
  unfold ThreadCall.program upsertThreadRecord
  refine Logic.Safe.bind ?_
  unfold selectThread
  refine Logic.Safe.bind (safe_select ?_)
  intro h s r _ hinv _
  have hquiet : (Call.select (.thread (call t).tenantId (call t).externalThreadId)).committed
      r s = none := rfl
  rcases hrows : threadRows (call t).tenantId (call t).externalThreadId s with
    _ | ⟨row, _ | ⟨other, rest⟩⟩
  · refine ⟨.nothing, moves_uncommitted hinv hquiet trivial, ?_⟩
    exact insert_safe (fun h => by cases h) fun e he h => absurd (Except.error.inj h) he
  · have hmem : row ∈ threadRows (call t).tenantId (call t).externalThreadId s := by
      rw [hrows]
      exact List.mem_singleton_self row
    obtain ⟨hfind, htenant, hthread⟩ := find_of_threadRows hmem
    refine ⟨.loaded row, moves_uncommitted hinv hquiet
      ⟨row, hfind, htenant.symm, hthread.symm⟩, ?_⟩
    exact update_safe (fun h => by cases h) fun e he h => absurd (Except.error.inj h) he
  · refine ⟨.several, moves_uncommitted hinv hquiet ?_, fun _ => rfl⟩
    -- One row at most, as long as all steps were fresh.
    intro hfresh
    have hthroughout : Throughout call base h s :=
      hinv.mpr fun e he => hfresh e (List.mem_append_left _ he)
    obtain ⟨found, hfound, _⟩ := hthroughout.1 (call t).tenantId (call t).externalThreadId
    rw [hrows] at hfound
    cases found <;> cases hfound

theorem upsertLogic_sound : (upsertLogic call base).Sound (upserts call) where
  symm _ _ _ := trivial
  idle_compat _ := trivial
  idle_holds _ _ _ _ := trivial
  spawn t p hp := by
    obtain rfl : p = (call t).program := hp
    exact program_safe
  request _ _ req := nomatch req

theorem getThreadSummary_ok {tenantId : Option String} {externalThreadId : String}
    (hone : OneRecord call base h s) :
    ∃ summary, getThreadSummary s tenantId externalThreadId = .ok summary := by
  obtain ⟨row, hrows, _⟩ := hone tenantId externalThreadId
  have hthread : scalarOneOrNone (threadRows tenantId externalThreadId s) = .ok row := by
    rw [hrows]
    cases row <;> rfl
  unfold getThreadSummary
  unfold threadRows at hthread
  rw [hthread]
  exact ⟨_, rfl⟩

/-- The calls before their first steps. -/
def waiting (call : τ → ThreadCall) (base : Database) :
    Pool τ Database Call Reply PyErr Unit Empty Empty where
  store := base
  thread t := (call t).program
  history := []

/-- Any number of calls in any interleaving, from a store with at most one row for each
tenant and thread: the law holds in every state exactly if every commit finds what it relies
on, and then no call and no summary meets several rows. -/
theorem one_thread_record_iff [DecidableEq τ]
    (hbase : ∀ tenantId externalThreadId,
      (threadRows tenantId externalThreadId base).length ≤ 1)
    {P : Pool τ Database Call Reply PyErr Unit Empty Empty}
    (hreach : (upserts call).Reach (waiting call base) P) :
    (Throughout call base P.history P.store ↔ ∀ e ∈ P.history, Fresh call e) ∧
    ((∀ e ∈ P.history, Fresh call e) →
      (∀ tenantId externalThreadId, ∃ summary,
        getThreadSummary P.store tenantId externalThreadId = .ok summary) ∧
      ∀ t, P.thread t ≠ .raise multipleRows) := by
  have hstart : OneRecord call base [] base := by
    intro tenantId externalThreadId
    have hlength := hbase tenantId externalThreadId
    refine ⟨(threadRows tenantId externalThreadId base).head?, ?_, rfl⟩
    rcases hrows : threadRows tenantId externalThreadId base with _ | ⟨row, _ | ⟨other, rest⟩⟩
    · rfl
    · rfl
    · rw [hrows] at hlength
      simp at hlength
  have hinv : (upsertLogic call base).inv [] base := by
    refine iff_of_true ⟨hstart, fun first e hprefix => ?_⟩ (by simp)
    simp at hprefix
  obtain ⟨hiff, claim, _, hclaim⟩ := Logic.reach_good upsertLogic_sound
    (P := waiting call base) hinv (fun t => program_safe) hreach
  have hlaw : Throughout call base P.history P.store ↔ ∀ e ∈ P.history, Fresh call e := hiff
  refine ⟨hlaw, fun hfresh => ⟨?_, fun t hraised => ?_⟩⟩
  · intro tenantId externalThreadId
    exact getThreadSummary_ok (hlaw.mpr hfresh).1
  · obtain ⟨hholds, hsafe⟩ := hclaim t
    rw [hraised] at hsafe
    have hseveral : claim t = .several := hsafe rfl
    rw [hseveral] at hholds
    exact hholds hfresh

end

section Sample

local instance instThreadsDeployment : Deployment := .sqlite

/-- The calls take turns as listed; the answers name new rows. -/
def upsertTurns (order : List Bool) :
    List (System.Move Bool Database Call Reply PyErr Unit Empty) :=
  order.zipIdx.map fun turn => .act turn.1 (quiet unset.moment s!"row{turn.2}")

def upsertPool (call : Bool → ThreadCall) (base : Database) (order : List Bool) :
    Pool Bool Database Call Reply PyErr Unit Empty Empty :=
  (upserts call).play (waiting call base) (upsertTurns order)

theorem upsertPool_reach (call : Bool → ThreadCall) (base : Database) (order : List Bool) :
    (upserts call).Reach (waiting call base) (upsertPool call base order) := by
  apply System.reach_play
  intro P m hm
  obtain ⟨turn, _, rfl⟩ := List.mem_map.mp hm
  intro _ _ _ _
  trivial

def classified (_ : Bool) : ThreadCall where
  tenantId := none
  externalThreadId := "session:s1"
  intent := some "draft_reply"

/-- Two calls without a tenant, one after the other. -/
theorem one_by_one_one_record :
    (∃ summary, getThreadSummary (upsertPool classified {} [false, false, true, true]).store
      none "session:s1" = .ok summary) ∧
    Throughout classified {} (upsertPool classified {} [false, false, true, true]).history
      (upsertPool classified {} [false, false, true, true]).store := by
  have hempty : ∀ tenantId externalThreadId,
      (threadRows tenantId externalThreadId {}).length ≤ 1 := fun _ _ => Nat.zero_le 1
  obtain ⟨hlaw, hsafe⟩ := one_thread_record_iff hempty
    (upsertPool_reach classified {} [false, false, true, true])
  have hfresh : ∀ e ∈ (upsertPool classified {} [false, false, true, true]).history,
      Fresh classified e := by
    decide
  exact ⟨(hsafe hfresh).1 none "session:s1", hlaw.mpr hfresh⟩

def previewed (second : Bool) : ThreadCall where
  tenantId := some "t1"
  externalThreadId := "thread-1"
  snippet := some (if second then "Re: hello" else "hello")

def previewedStore : Database where
  emailThreads := .single { (previewed false).row with id := "row" }

/-- Two calls without a tenant that both read first leave two rows, which no later call can
read. For a tenant, a call that writes the snippet it has read does not write it over that
of another call. -/
theorem thread_record_not_kept :
    (∃ P, (upserts classified).Reach (waiting classified {}) P ∧
      (threadRows none "session:s1" P.store).length = 2 ∧
      getThreadSummary P.store none "session:s1" = .error .multipleResultsFound) ∧
    ∃ P, (upserts previewed).Reach (waiting previewed previewedStore) P ∧
      (P.history.filterMap (stored previewed)).map ThreadCall.snippet =
        [some "Re: hello", some "hello"] ∧
      (threadRows (some "t1") "thread-1" P.store).map EmailThreadRecord.lastSnippet =
        [some "Re: hello"] := by
  constructor
  · refine ⟨_, upsertPool_reach classified {} [false, true, false, true], ?_, ?_⟩
    · decide
    · decide
  · refine ⟨_, upsertPool_reach previewed previewedStore [false, true, true, false], ?_, ?_⟩
    · decide
    · decide

end Sample

end EmailPersistence

end ControlPlane
