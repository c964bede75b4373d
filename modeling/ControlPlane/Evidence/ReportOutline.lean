import ControlPlane.Evidence.PacketLifecycle
import ControlPlane.Services.Reports

/-!
The outline of the Markdown reports. Data that is put into a line keeps its line breaks,
so a value can add headings and bullets of its own; without such a value the headings and
the number of bullets are those of the template.
-/

namespace ControlPlane

open Lib Text

namespace Reports

theorem lines_cons {line : Text} {rest : List Text} (h : rest ≠ []) :
    EvidencePackets.lines (line :: rest) = line ++ 10 :: EvidencePackets.lines rest := by
  cases rest with
  | nil => exact absurd rfl h
  | cons next rest =>
      unfold EvidencePackets.lines
      rw [List.intercalate_cons_cons, List.append_assoc, List.singleton_append]

theorem lines_append {front rest : List Text} (hfront : front ≠ []) (hrest : rest ≠ []) :
    EvidencePackets.lines (front ++ rest) =
      EvidencePackets.lines front ++ 10 :: EvidencePackets.lines rest := by
  induction front with
  | nil => exact absurd rfl hfront
  | cons line tail ih =>
      cases tail with
      | nil =>
          rw [List.singleton_append, lines_cons hrest]
          simp [EvidencePackets.lines]
      | cons next tail =>
          rw [List.cons_append, lines_cons (by simp), ih (List.cons_ne_nil _ _),
            lines_cons (List.cons_ne_nil _ _), List.append_assoc, List.cons_append]

theorem lines_congr (front : List Text) {rest rest' : List Text} (hrest : rest ≠ [])
    (hrest' : rest' ≠ [])
    (h : EvidencePackets.lines rest = EvidencePackets.lines rest') :
    EvidencePackets.lines (front ++ rest) = EvidencePackets.lines (front ++ rest') := by
  by_cases hfront : front = []
  · rw [hfront, List.nil_append, List.nil_append, h]
  · rw [lines_append hfront hrest, lines_append hfront hrest', h]

theorem bulletLines_ne_nil (rows : List Line) : bulletLines rows ≠ [] := by
  unfold bulletLines
  split
  · exact List.cons_ne_nil _ _
  next h => simpa using h

theorem bullets_eq (rows : List Line) :
    EvidencePackets.bullets (rows.map Markup.lineText) = text (bulletLines rows) := by
  unfold EvidencePackets.bullets text bulletLines
  rw [List.isEmpty_map]
  cases rows.isEmpty with
  | true => rfl
  | false =>
      simp only [Bool.false_eq_true, if_false, List.map_map]
      rfl

variable [Python]

theorem mapM_lineText {rows : List PyValue} {row : PyValue → Except PyErr Line} :
    rows.mapM (fun a => (row a).map Markup.lineText) =
      (rows.mapM row).map (List.map Markup.lineText) := by
  induction rows with
  | nil => rfl
  | cons a rest ih =>
      rw [List.mapM_cons, List.mapM_cons, ih]
      cases row a with
      | error e => rfl
      | ok line =>
          cases rest.mapM row with
          | error e => rfl
          | ok ls => rfl

theorem mdRows_eq {rows : PyValue} {row : PyValue → Except PyErr Line}
    {line : PyValue → Except PyErr Text} (h : ∀ a, line a = (row a).map Markup.lineText) :
    EvidencePackets.mdRows rows line = (rowLines rows row).map text := by
  obtain rfl : line = fun a => (row a).map Markup.lineText := funext h
  unfold EvidencePackets.mdRows rowLines
  cases EvidencePackets.iterate rows with
  | error e => rfl
  | ok items =>
      simp only [bind, Except.bind]
      rw [mapM_lineText]
      cases items.mapM row with
      | error e => rfl
      | ok ls => exact congrArg Except.ok (bullets_eq ls)

theorem mdList_eq (v : PyValue) : EvidencePackets.mdList v = (listLines v).map text := by
  unfold EvidencePackets.mdList listLines
  split
  · cases EvidencePackets.iterate v with
    | error e => rfl
    | ok items =>
        have hrows := bullets_eq (items.map fun item => [.data (Python.str item)])
        rw [List.map_map] at hrows
        have htexts : items.map (Markup.lineText ∘ fun item =>
            ([.data (Python.str item)] : Line)) = items.map Python.str :=
          List.map_congr_left fun item _ => by simp [Markup.lineText, Markup.Piece.text]
        rw [htexts] at hrows
        exact congrArg Except.ok hrows
  · exact congrArg Except.ok (bullets_eq [])

end Reports

namespace EvidencePackets

open Reports

variable [Python]

section Laws

omit [Python]

variable {α β γ : Type} {x : Except PyErr α}

theorem map_bind_ok {f : α → Except PyErr β} {g : β → γ} :
    (x >>= f).map g = x >>= fun a => (f a).map g := by
  cases x <;> rfl

theorem bind_map_ok {g : α → β} {f : β → Except PyErr γ} :
    (x.map g) >>= f = x >>= fun a => f (g a) := by
  cases x <;> rfl

theorem map_pure_ok {a : α} {g : α → β} :
    (pure a : Except PyErr α).map g = pure (g a) := rfl

theorem exists_of_map_ok {g : α → β} {b : β} (h : x.map g = .ok b) :
    ∃ a, x = .ok a ∧ g a = b := by
  cases x with
  | error e => cases h
  | ok a => exact ⟨a, rfl, Except.ok.inj h⟩

@[simp] theorem lineText_data (t : Text) (rest : Line) :
    Markup.lineText (.data t :: rest) = t ++ Markup.lineText rest := rfl

@[simp] theorem lineText_lit (s : String) (h : 10 ∉ ofString s) (rest : Line) :
    Markup.lineText (lit s h :: rest) = ofString s ++ Markup.lineText rest := rfl

@[simp] theorem lineText_nil : Markup.lineText ([] : Line) = [] := rfl

@[simp] theorem lineText_append (front rest : Line) :
    Markup.lineText (front ++ rest) = Markup.lineText front ++ Markup.lineText rest :=
  List.flatMap_append

end Laws

theorem governedActionLine_eq (a : PyValue) :
    governedActionLine a = (governedActionPieces a).map Markup.lineText := by
  simp only [governedActionLine, governedActionPieces, Reports.shown, map_bind_ok, bind_map_ok,
    map_pure_ok, lineText_data, lineText_lit, lineText_nil, List.append_nil, List.append_assoc]

theorem approvalLine_eq (a : PyValue) :
    approvalLine a = (approvalPieces a).map Markup.lineText := by
  simp only [approvalLine, approvalPieces, Reports.shown, map_bind_ok, bind_map_ok, map_pure_ok,
    lineText_data, lineText_lit, lineText_nil, List.append_nil, List.append_assoc]

theorem expiresText_eq (o : PyValue) :
    expiresText o = (expiresPieces o).map Markup.lineText := by
  unfold expiresText expiresPieces
  rw [map_bind_ok]
  refine bind_congr fun expiration => ?_
  split
  · cases expiration with
    | str s => simp [map_pure_ok]
    | _ => rfl
  · rfl

theorem overrideLine_eq (o : PyValue) :
    overrideLine o = (overridePieces o).map Markup.lineText := by
  simp only [overrideLine, overridePieces, Reports.shown, map_bind_ok, bind_map_ok, map_pure_ok,
    expiresText_eq, lineText_data, lineText_lit, lineText_nil, lineText_append, List.append_nil,
    List.append_assoc]

theorem policyLine_eq (p : PyValue) :
    policyLine p = (policyPieces p).map Markup.lineText := by
  simp only [policyLine, policyPieces, Reports.shown, map_bind_ok, bind_map_ok, map_pure_ok,
    lineText_data, lineText_lit, lineText_nil, List.append_nil, List.append_assoc]

theorem executionLine_eq (e : PyValue) :
    executionLine e = (executionPieces e).map Markup.lineText := by
  simp only [executionLine, executionPieces, Reports.shown, map_bind_ok, bind_map_ok, map_pure_ok,
    lineText_data, lineText_lit, lineText_nil, List.append_nil, List.append_assoc]

theorem auditLine_eq (e : PyValue) :
    auditLine e = (auditPieces e).map Markup.lineText := by
  simp only [auditLine, auditPieces, Reports.shown, map_bind_ok, bind_map_ok, map_pure_ok,
    lineText_data, lineText_lit, lineText_nil, List.append_nil, List.append_assoc]

theorem controlLine_eq (c : PyValue) :
    controlLine c = (controlPieces c).map Markup.lineText := by
  simp only [controlLine, controlPieces, Reports.shown, map_bind_ok, bind_map_ok, map_pure_ok,
    lineText_data, lineText_lit, lineText_nil, List.append_nil, List.append_assoc]

theorem artifactLine_eq (a : PyValue) :
    artifactLine a = (artifactPieces a).map Markup.lineText := by
  simp only [artifactLine, artifactPieces, Reports.shown, map_bind_ok, bind_map_ok, map_pure_ok,
    lineText_data, lineText_lit, lineText_nil, List.append_nil, List.append_assoc]

theorem workflowLines_eq (packet : PyDict) :
    workflowLines packet = (workflowPieces packet).map (List.map Markup.lineText) := by
  unfold workflowLines workflowPieces
  cases Value.lookup packet (ofString "workflow") with
  | none => rfl
  | some workflow =>
      dsimp only
      split
      · simp only [Reports.shown, map_bind_ok, bind_map_ok, map_pure_ok, List.map_cons,
          List.map_nil, lineText_data, lineText_lit, lineText_nil, List.append_nil,
          List.append_assoc]
      · rfl

theorem reasonLine_eq (v : PyValue) :
    reasonLine v = (reasonPieces v).map Markup.lineText := by
  unfold reasonLine reasonPieces
  rw [map_bind_ok]
  refine bind_congr fun reason => ?_
  split
  · simp [map_pure_ok]
  · rfl

theorem bind_rowLines_congr {α : Type} {rows : PyValue} {row : PyValue → Except PyErr Line}
    {f g : List Line → Except PyErr α} (h : ∀ ls, ls ≠ [] → f ls = g ls) :
    (rowLines rows row >>= f) = rowLines rows row >>= g := by
  unfold rowLines
  rw [bind_assoc, bind_assoc]
  refine bind_congr fun items => ?_
  rw [bind_assoc, bind_assoc]
  exact bind_congr fun ls => h _ (bulletLines_ne_nil ls)

theorem bind_listLines_congr {α : Type} {v : PyValue} {f g : List Line → Except PyErr α}
    (h : ∀ ls, ls ≠ [] → f ls = g ls) : (listLines v >>= f) = listLines v >>= g := by
  unfold listLines
  split
  · rw [bind_assoc, bind_assoc]
    exact bind_congr fun items => h _ (bulletLines_ne_nil _)
  · exact h _ (bulletLines_ne_nil _)

/-- `renderMarkdown` joins the lines of the report. -/
theorem renderMarkdown_eq (packet : PyDict) :
    renderMarkdown packet = (report packet).map text := by
  unfold renderMarkdown report
  simp only [mdRows_eq governedActionLine_eq, mdRows_eq approvalLine_eq,
    mdRows_eq overrideLine_eq, mdRows_eq policyLine_eq, mdRows_eq executionLine_eq,
    mdRows_eq auditLine_eq, mdRows_eq controlLine_eq, mdRows_eq artifactLine_eq, mdList_eq,
    workflowLines_eq, reasonLine_eq, Reports.shown, map_bind_ok, bind_map_ok, map_pure_ok]
  repeat first
    | refine bind_rowLines_congr fun _ _ => ?_
    | refine bind_listLines_congr fun _ _ => ?_
    | refine bind_congr fun _ => ?_
  refine congrArg pure ?_
  simp only [text, List.map_append, List.map_cons, List.map_nil, lineText_data, lineText_lit,
    lineText_nil, List.append_nil, List.append_assoc, List.cons_append, List.nil_append]
  -- the line for the workflow may be missing, all other groups have lines
  refine lines_congr (_ :: _ :: _ :: _ :: _ :: _ :: _ :: _ :: _ :: _)
    (List.cons_ne_nil _ _) (List.cons_ne_nil _ _) ?_
  simp [lines_cons, lines_append, *]

end EvidencePackets

namespace Reports

def outlineOf (report : List Line) : Nat × List (Text × Nat) :=
  markdown.outline (Markup.skeleton report)

theorem outlineOf_nil : outlineOf [] = (0, []) := rfl

theorem outlineOf_blank (rest : List Line) : outlineOf ([] :: rest) = outlineOf rest := rfl

theorem outlineOf_data (t : Text) (line : Line) (rest : List Line) :
    outlineOf ((.data t :: line) :: rest) = outlineOf rest := rfl

theorem skeleton_cons {line : Line} (h : Markup.Genuine line = true) (rest : List Line) :
    Markup.skeleton (line :: rest) =
      markdown.firstLine (Markup.lineText line) :: Markup.skeleton rest := by
  unfold Markup.skeleton
  rw [List.filter_cons_of_pos h, List.map_cons]

/-- Whatever follows the text on its line, the line is neither heading nor bullet. -/
def staysPlain : Text → Bool
  | [] => false
  | [c] => c != 35 && c != 45
  | c :: d :: _ => c != 35 && (c != 45 || d != 32)

theorem marked_of_staysPlain {start : Text} (h : staysPlain start = true) (t : Text) :
    markdown.marked (start ++ t) = false := by
  unfold Markup.marked
  rcases start with _ | ⟨c, _ | ⟨d, rest⟩⟩
  · cases h
  · simp [staysPlain] at h
    simp [markdown, isHeading, isBullet, List.isPrefixOf, Ne.symm h.1, Ne.symm h.2]
  · simp [staysPlain] at h
    simp [markdown, isHeading, isBullet, List.isPrefixOf, Ne.symm h.1]
    rintro rfl
    simpa [eq_comm] using h.2

theorem isHeading_append {start : Text} (h : isHeading start = true) (t : Text) :
    isHeading (start ++ t) = true := by
  unfold isHeading at h ⊢
  rw [List.isPrefixOf_iff_prefix] at h ⊢
  exact h.trans (List.prefix_append start t)

theorem isBullet_append {start : Text} (h : isBullet start = true) (t : Text) :
    isHeading (start ++ t) = false ∧ isBullet (start ++ t) = true := by
  unfold isBullet at h
  rw [List.isPrefixOf_iff_prefix] at h
  obtain ⟨rest, rfl⟩ := h
  exact ⟨rfl, by simp [isBullet, List.isPrefixOf]⟩

section

variable {s : String} {h : 10 ∉ ofString s} {line : Line} {rest : List Line}

theorem outlineOf_plain (hplain : staysPlain (ofString s) = true) :
    outlineOf ((lit s h :: line) :: rest) = outlineOf rest := by
  unfold outlineOf
  rw [skeleton_cons rfl, Markup.outline_plain]
  · rw [Markup.marked_firstLine]
    exact marked_of_staysPlain hplain (Markup.lineText line)

theorem outlineOf_heading (hheading : isHeading (ofString s) = true) :
    outlineOf ((lit s h :: line) :: rest) =
      (0, (markdown.firstLine (ofString s ++ Markup.lineText line), (outlineOf rest).1) ::
        (outlineOf rest).2) := by
  unfold outlineOf
  rw [skeleton_cons rfl, Markup.outline_heading]
  · rfl
  · rw [Markup.heading_firstLine]
    exact isHeading_append hheading (Markup.lineText line)

theorem outlineOf_title {t : Text} (hheading : isHeading (ofString s) = true) :
    outlineOf ([lit s h, .data t] :: rest) =
      (0, (markdown.firstLine (ofString s ++ t), (outlineOf rest).1) :: (outlineOf rest).2) := by
  have htext : Markup.lineText [(.data t : Piece)] = t := List.append_nil t
  rw [outlineOf_heading hheading, htext]

/-- A section line of the template is its own heading. -/
theorem outlineOf_section (hheading : isHeading (ofString s) = true) :
    outlineOf ([lit s h] :: rest) =
      (0, (ofString s, (outlineOf rest).1) :: (outlineOf rest).2) := by
  have htext : Markup.lineText ([] : Line) = [] := rfl
  rw [outlineOf_heading hheading, htext, List.append_nil, Markup.firstLine,
    Markup.lines_single _ h, List.headD_cons]

end

/-- The line is a bullet whatever its data is. -/
def BulletLine (line : Line) : Prop :=
  Markup.Genuine line = true ∧ isHeading (Markup.lineText line) = false ∧
    isBullet (Markup.lineText line) = true

theorem bulletLine_lit {s : String} {h : 10 ∉ ofString s} {line : Line}
    (hbullet : isBullet (ofString s) = true) : BulletLine (lit s h :: line) :=
  ⟨rfl, isBullet_append hbullet (Markup.lineText line)⟩

theorem outlineOf_rows {ls rest : List Line} (hbullets : ∀ l ∈ ls, BulletLine l) :
    outlineOf (ls ++ rest) = ((outlineOf rest).1 + ls.length, (outlineOf rest).2) := by
  have hskeleton : Markup.skeleton (ls ++ rest) =
      ls.map (fun l => markdown.firstLine (Markup.lineText l)) ++ Markup.skeleton rest := by
    unfold Markup.skeleton
    rw [List.filter_append, List.map_append, List.filter_eq_self.mpr fun l hl => (hbullets l hl).1]
  unfold outlineOf
  rw [hskeleton, Markup.outline_bullets, List.length_map]
  intro text htext
  obtain ⟨l, hl, rfl⟩ := List.mem_map.mp htext
  rw [Markup.heading_firstLine, Markup.bullet_firstLine]
  exact (hbullets l hl).2

theorem outlineOf_bullet {line : Line} {rest : List Line} (h : BulletLine line) :
    outlineOf (line :: rest) = ((outlineOf rest).1 + 1, (outlineOf rest).2) := by
  have hline : ∀ l ∈ [line], BulletLine l := by simpa using h
  exact outlineOf_rows hline

theorem outlineOf_item {s : String} {h : 10 ∉ ofString s} {line : Line} {rest : List Line}
    (hbullet : isBullet (ofString s) = true) :
    outlineOf ((lit s h :: line) :: rest) = ((outlineOf rest).1 + 1, (outlineOf rest).2) :=
  outlineOf_bullet (bulletLine_lit hbullet)

theorem bulletLines_spec (rows : List Line) :
    (∀ l ∈ bulletLines rows, BulletLine l) ∧
      (bulletLines rows).length = max 1 rows.length := by
  unfold bulletLines
  cases rows with
  | nil =>
      refine ⟨fun l hl => ?_, rfl⟩
      rw [List.mem_singleton.mp hl]
      exact bulletLine_lit rfl
  | cons row rest =>
      refine ⟨fun l hl => ?_, ?_⟩
      · obtain ⟨r, _, rfl⟩ := List.mem_map.mp hl
        exact bulletLine_lit rfl
      · simp

variable [Python]

/-- The items a loop over the value would see. -/
def itemsOf (v : PyValue) : List PyValue := ((EvidencePackets.iterate v).toOption).getD []

omit [Python] in
theorem bind_ok_iff {α β : Type} {x : Except PyErr α} {f : α → Except PyErr β} {b : β} :
    (x >>= f) = .ok b ↔ ∃ a, x = .ok a ∧ f a = .ok b := by
  cases x with
  | error e => simp [bind, Except.bind]
  | ok a => simp [bind, Except.bind]

omit [Python] in
theorem of_bind_ok {α β : Type} {x : Except PyErr α} {f : α → Except PyErr β} {P : β → Prop}
    (h : ∀ a, x = .ok a → ∀ b, f a = .ok b → P b) : ∀ b, (x >>= f) = .ok b → P b := by
  intro b hb
  obtain ⟨a, ha, hb⟩ := bind_ok_iff.mp hb
  exact h a ha b hb

theorem mapM_length {rows : List PyValue} {row : PyValue → Except PyErr Line} {ls : List Line}
    (h : rows.mapM row = .ok ls) : ls.length = rows.length := by
  induction rows generalizing ls with
  | nil =>
      cases h
      rfl
  | cons a rest ih =>
      rw [List.mapM_cons, bind_ok_iff] at h
      obtain ⟨line, _, h⟩ := h
      obtain ⟨tail, htail, h⟩ := bind_ok_iff.mp h
      cases h
      rw [List.length_cons, List.length_cons, ih htail]

theorem rowLines_spec {v : PyValue} {row : PyValue → Except PyErr Line} {ls : List Line}
    (h : rowLines v row = .ok ls) :
    (∀ l ∈ ls, BulletLine l) ∧ ls.length = max 1 (itemsOf v).length := by
  obtain ⟨items, hitems, h⟩ := bind_ok_iff.mp h
  obtain ⟨rows, hrows, h⟩ := bind_ok_iff.mp h
  cases h
  obtain ⟨hbullets, hlength⟩ := bulletLines_spec rows
  refine ⟨hbullets, ?_⟩
  rw [hlength, mapM_length hrows, itemsOf, hitems]
  rfl

theorem itemsOf_falsy {v : PyValue} (h : Python.truthy v = false) : itemsOf v = [] := by
  cases v with
  | null => rfl
  | bool b => rfl
  | int n => rfl
  | float x => rfl
  | str s =>
      have hnil : s = [] := by simpa [Python.truthy] using h
      rw [hnil]
      rfl
  | list items =>
      have hnil : items = [] := by simpa [Python.truthy] using h
      rw [hnil]
      rfl
  | dict fields =>
      have hnil : fields = [] := by simpa [Python.truthy] using h
      rw [hnil]
      rfl

theorem listLines_spec {v : PyValue} {ls : List Line} (h : listLines v = .ok ls) :
    (∀ l ∈ ls, BulletLine l) ∧ ls.length = max 1 (itemsOf v).length := by
  unfold listLines at h
  split at h
  · obtain ⟨items, hitems, h⟩ := bind_ok_iff.mp h
    cases h
    obtain ⟨hbullets, hlength⟩ := bulletLines_spec
      (items.map fun item => ([.data (Python.str item)] : Line))
    refine ⟨hbullets, ?_⟩
    rw [hlength, List.length_map, itemsOf, hitems]
    rfl
  next hfalsy =>
      cases h
      obtain ⟨hbullets, hlength⟩ := bulletLines_spec []
      refine ⟨hbullets, ?_⟩
      rw [hlength, itemsOf_falsy (by simpa using hfalsy)]
      rfl

theorem shown_spec {v : PyValue} {key : String} {piece : Piece}
    (h : Reports.shown v key = .ok piece) :
    ∃ t, EvidencePackets.shown v key = .ok t ∧ piece = .data t := by
  unfold Reports.shown at h
  cases hshown : EvidencePackets.shown v key with
  | error e =>
      rw [hshown] at h
      cases h
  | ok t =>
      rw [hshown] at h
      cases h
      exact ⟨t, rfl, rfl⟩

/-- The text has the heading, and under it the one line that stands for no items. -/
def NoneUnder (heading : String) (markup : Text) : Prop :=
  [ofString heading, ofString "- (none)"] <:+: markdown.lines markup

section

omit [Python]

variable {s : String} {hs : 10 ∉ ofString s} {front group body : List Line}

theorem body_first (hlast : group.getLast? = some [lit s hs]) :
    [lit s hs] :: body <:+: group ++ body := by
  obtain ⟨init, rfl⟩ := List.getLast?_eq_some_iff.mp hlast
  exact ⟨init, [], by simp⟩

theorem body_last (hlast : group.getLast? = some [lit s hs]) :
    [lit s hs] :: body <:+: front ++ group ++ body := by
  rw [List.append_assoc]
  exact List.infix_append_of_infix_right (body_first hlast)

end

omit [Python] in
theorem lines_text {ls : List Line} (h : ls ≠ []) :
    markdown.lines (text ls) = (ls.map Markup.lineText).flatMap markdown.lines :=
  markdown.lines_join (by simpa using h)

omit [Python] in
/-- Lines of the report without line breaks are lines of the text. -/
theorem infix_lines {group ls : List Line} (hsingle : ∀ line ∈ group, 10 ∉ Markup.lineText line)
    (hne : ls ≠ []) (h : group <:+: ls) :
    group.map Markup.lineText <:+: markdown.lines (text ls) := by
  have hgroup : (group.map Markup.lineText).flatMap markdown.lines =
      group.map Markup.lineText := by
    rw [List.flatMap_map, List.map_eq_flatMap]
    exact List.flatMap_congr fun line hline => markdown.lines_single (hsingle line hline)
  obtain ⟨front, rest, rfl⟩ := h
  rw [lines_text hne, List.map_append, List.map_append, List.flatMap_append,
    List.flatMap_append, hgroup]
  exact ⟨_, _, rfl⟩

omit [Python] in
theorem noneUnder_of_infix {s : String} (hs : 10 ∉ ofString s) {ls body : List Line}
    (hbody : body = [[lit "- (none)"]]) (h : [lit s hs] :: body <:+: ls) :
    NoneUnder s (text ls) := by
  subst hbody
  have hlines := infix_lines ?_ ?_ h
  · simpa [NoneUnder] using hlines
  · simpa using ⟨hs, by decide⟩
  · rintro rfl
    exact absurd h (by simp)

/-- `v[key]`, with the empty list for what is missing. -/
def field (v : PyValue) (key : String) : PyValue :=
  match v with
  | .dict fields => (Value.lookup fields (ofString key)).getD (.list [])
  | _ => .list []

/-- The bullets of a section: one for each item under the key, or one for none. -/
def bulletsOf (v : PyValue) (key : String) : Nat := max 1 (itemsOf (field v key)).length

theorem item_field {v w : PyValue} {key : String} (h : EvidencePackets.item v key = .ok w) :
    field v key = w := by
  cases v with
  | dict fields =>
      unfold EvidencePackets.item at h
      unfold field
      cases hlookup : Value.lookup fields (ofString key) with
      | none =>
          simp only [hlookup] at h
          cases h
      | some w' =>
          simp only [hlookup] at h
          cases h
          dsimp only
          rw [hlookup, Option.getD_some]
  | _ => cases h

/-- No rows are written as `- (none)`. -/
theorem rowLines_none {v w : PyValue} {key : String} {row : PyValue → Except PyErr Line}
    {ls : List Line} (hfield : field v key = w) (h : rowLines w row = .ok ls)
    (hnone : itemsOf (field v key) = []) : ls = [[lit "- (none)"]] := by
  obtain ⟨items, hitems, h⟩ := bind_ok_iff.mp h
  rw [hfield, itemsOf, hitems] at hnone
  obtain rfl : items = [] := hnone
  exact (Except.ok.inj h).symm

theorem listLines_none {v w : PyValue} {key : String} {ls : List Line}
    (hfield : field v key = w) (h : listLines w = .ok ls)
    (hnone : itemsOf (field v key) = []) : ls = [[lit "- (none)"]] := by
  unfold listLines at h
  split at h
  · obtain ⟨items, hitems, h⟩ := bind_ok_iff.mp h
    rw [hfield, itemsOf, hitems] at hnone
    obtain rfl : items = [] := hnone
    exact (Except.ok.inj h).symm
  · exact (Except.ok.inj h).symm

theorem rowLines_bulletsOf {v w : PyValue} {key : String} {row : PyValue → Except PyErr Line}
    {ls : List Line} (hfield : field v key = w) (h : rowLines w row = .ok ls)
    (rest : List Line) :
    outlineOf (ls ++ rest) = ((outlineOf rest).1 + bulletsOf v key, (outlineOf rest).2) := by
  obtain ⟨hbullets, hlength⟩ := rowLines_spec h
  rw [outlineOf_rows hbullets, hlength, bulletsOf, hfield]

theorem listLines_bulletsOf {v w : PyValue} {key : String} {ls : List Line}
    (hfield : field v key = w) (h : listLines w = .ok ls) (rest : List Line) :
    outlineOf (ls ++ rest) = ((outlineOf rest).1 + bulletsOf v key, (outlineOf rest).2) := by
  obtain ⟨hbullets, hlength⟩ := listLines_spec h
  rw [outlineOf_rows hbullets, hlength, bulletsOf, hfield]

end Reports

namespace EvidencePackets

open Reports

variable [Python]

/-- What the outline of a packet should be: the title, the sections in their order, and in
each section one bullet for each item, or the bullet `- (none)` if there is no item
(`none_under_empty_sections`). -/
def packetOutline (packet : PyDict) (packetType : Text) : Nat × List (Text × Nat) :=
  (0, [(markdown.firstLine (ofString "# Evidence Packet — " ++ packetType), 0),
    (ofString "## Executive summary", 0),
    (ofString "## Audit chain verification", 3),
    (ofString "## Governed actions", bulletsOf (.dict packet) "governed_actions"),
    (ofString "## Approvals", bulletsOf (.dict packet) "approvals"),
    (ofString "## Human overrides", bulletsOf (.dict packet) "overrides"),
    (ofString "## Policy decisions", bulletsOf (.dict packet) "policy_decisions"),
    (ofString "## Execution history", bulletsOf (.dict packet) "execution_history"),
    (ofString "## Audit events", bulletsOf (.dict packet) "audit_events"),
    (ofString "## Mapped controls", bulletsOf (.dict packet) "mapped_controls"),
    (ofString "## Mapped regulations", bulletsOf (.dict packet) "mapped_regulations"),
    (ofString "## Evidence artifacts", bulletsOf (.dict packet) "evidence_artifacts"),
    (ofString "## Evidence gaps", bulletsOf (.dict packet) "evidence_gaps")])

/-- The sections of a packet with the values whose items they list. -/
def packetSections (packet : PyDict) : List (String × PyValue) :=
  [("## Governed actions", "governed_actions"), ("## Approvals", "approvals"),
    ("## Human overrides", "overrides"), ("## Policy decisions", "policy_decisions"),
    ("## Execution history", "execution_history"), ("## Audit events", "audit_events"),
    ("## Mapped controls", "mapped_controls"), ("## Mapped regulations", "mapped_regulations"),
    ("## Evidence artifacts", "evidence_artifacts"), ("## Evidence gaps", "evidence_gaps")].map
    fun s => (s.1, field (.dict packet) s.2)

theorem workflowPieces_spec {packet : PyDict} {ls : List Line}
    (h : workflowPieces packet = .ok ls) (rest : List Line) :
    outlineOf (ls ++ rest) = outlineOf rest := by
  unfold workflowPieces at h
  split at h
  · cases h
    rfl
  · split at h
    · obtain ⟨name, _, h⟩ := bind_ok_iff.mp h
      obtain ⟨id, _, h⟩ := bind_ok_iff.mp h
      cases h
      exact outlineOf_plain rfl
    · cases h
      rfl

theorem reasonPieces_spec {v : PyValue} {line : Line} (h : reasonPieces v = .ok line) :
    BulletLine line := by
  obtain ⟨reason, _, h⟩ := bind_ok_iff.mp h
  split at h
  · cases h
    exact bulletLine_lit rfl
  · cases h
    exact bulletLine_lit rfl

theorem report_outline {packet : PyDict} : ∀ ls, report packet = .ok ls →
    ∃ packetType, EvidencePackets.shown (.dict packet) "packet_type" = .ok packetType ∧
      outlineOf ls = packetOutline packet packetType ∧
      ∀ s ∈ packetSections packet, itemsOf s.2 = [] → NoneUnder s.1 (text ls) := by
  unfold report
  refine of_bind_ok fun v _ => of_bind_ok fun title htitle => of_bind_ok fun generatedAt _ =>
    of_bind_ok fun summary _ => of_bind_ok fun tenantId _ => of_bind_ok fun scopeId _ =>
    of_bind_ok fun workflow hworkflow => of_bind_ok fun scope _ => of_bind_ok fun status _ =>
    of_bind_ok fun verified _ => of_bind_ok fun total _ => of_bind_ok fun reason hreason => ?_
  refine of_bind_ok fun actions hactions => of_bind_ok fun actionLines hactionLines =>
    of_bind_ok fun approvals happrovals => of_bind_ok fun approvalLines happrovalLines =>
    of_bind_ok fun overrideLines hoverrideLines =>
    of_bind_ok fun policies hpolicies => of_bind_ok fun policyLines hpolicyLines =>
    of_bind_ok fun executions hexecutions => of_bind_ok fun executionLines hexecutionLines =>
    of_bind_ok fun events hevents => of_bind_ok fun eventLines heventLines =>
    of_bind_ok fun controls hcontrols => of_bind_ok fun controlLines hcontrolLines =>
    of_bind_ok fun regulations hregulations => of_bind_ok fun regulationLines hregulationLines =>
    of_bind_ok fun artifacts hartifacts => of_bind_ok fun artifactLines hartifactLines =>
    of_bind_ok fun gaps hgaps => of_bind_ok fun gapLines hgapLines =>
    of_bind_ok fun disclaimer _ => of_bind_ok fun summaryLine hsummary => ?_
  obtain ⟨packetType, htype, rfl⟩ := shown_spec htitle
  obtain ⟨summaryText, _, rfl⟩ := exists_of_map_ok hsummary
  intro ls hls
  obtain rfl := Except.ok.inj hls
  have hoverrides : field (.dict packet) "overrides" =
      (Value.lookup packet (ofString "overrides")).getD (.list []) := rfl
  refine ⟨packetType, htype, ?_, ?_⟩
  · simp only [List.append_assoc, List.cons_append, List.nil_append]
    simp (disch := decide) only [outlineOf_title, outlineOf_section, outlineOf_item,
      outlineOf_plain,
      outlineOf_blank, outlineOf_data, outlineOf_nil, workflowPieces_spec hworkflow,
      outlineOf_bullet (reasonPieces_spec hreason),
      rowLines_bulletsOf (item_field hactions) hactionLines,
      rowLines_bulletsOf (item_field happrovals) happrovalLines,
      rowLines_bulletsOf hoverrides hoverrideLines,
      rowLines_bulletsOf (item_field hpolicies) hpolicyLines,
      rowLines_bulletsOf (item_field hexecutions) hexecutionLines,
      rowLines_bulletsOf (item_field hevents) heventLines,
      rowLines_bulletsOf (item_field hcontrols) hcontrolLines,
      listLines_bulletsOf (item_field hregulations) hregulationLines,
      rowLines_bulletsOf (item_field hartifacts) hartifactLines,
      listLines_bulletsOf (item_field hgaps) hgapLines]
    simp only [Nat.zero_add]
    rfl
  · simp only [packetSections, List.map_cons, List.map_nil, List.forall_mem_cons]
    refine ⟨fun h => noneUnder_of_infix (by decide)
      (rowLines_none (item_field hactions) hactionLines h) ?_,
      fun h => noneUnder_of_infix (by decide)
        (rowLines_none (item_field happrovals) happrovalLines h) ?_,
      fun h => noneUnder_of_infix (by decide) (rowLines_none hoverrides hoverrideLines h) ?_,
      fun h => noneUnder_of_infix (by decide)
        (rowLines_none (item_field hpolicies) hpolicyLines h) ?_,
      fun h => noneUnder_of_infix (by decide)
        (rowLines_none (item_field hexecutions) hexecutionLines h) ?_,
      fun h => noneUnder_of_infix (by decide) (rowLines_none (item_field hevents) heventLines h) ?_,
      fun h => noneUnder_of_infix (by decide)
        (rowLines_none (item_field hcontrols) hcontrolLines h) ?_,
      fun h => noneUnder_of_infix (by decide)
        (listLines_none (item_field hregulations) hregulationLines h) ?_,
      fun h => noneUnder_of_infix (by decide)
        (rowLines_none (item_field hartifacts) hartifactLines h) ?_,
      fun h => noneUnder_of_infix (by decide) (listLines_none (item_field hgaps) hgapLines h) ?_,
      fun _ h => by cases h⟩
    all_goals
      -- the groups after the section are dropped one by one
      repeat first
        | with_reducible refine body_last ?_
        | with_reducible apply List.infix_append_of_infix_left
      rfl

end EvidencePackets

namespace IncidentReplay

open EvidencePackets (item)
open Reports

variable [Python]

/-- What the outline of a replay should be. -/
def replayOutline (replay : PyDict) (actionType : Text) : Nat × List (Text × Nat) :=
  let r := Value.dict replay
  (0, [(markdown.firstLine (ofString "# Incident Replay — " ++ actionType), 0),
    (ofString "## Original request", bulletsOf r "original_request"),
    (ofString "## Model / vendor / tool", 1),
    (ofString "## Policy", 2),
    (ofString "## Risk classification", bulletsOf (field r "risk") "reasons" + 1),
    (ofString "## Approvals", bulletsOf r "approvals"),
    (ofString "## Human overrides", bulletsOf r "overrides"),
    (ofString "## Data touched", bulletsOf r "data_touched"),
    (ofString "## Outputs", 1 + bulletsOf (field r "outputs") "evidence_artifacts"),
    (ofString "## Audit timeline", bulletsOf r "audit_timeline"),
    (ofString "## Audit chain verification", 1),
    (ofString "## Evidence gaps", bulletsOf r "evidence_gaps")])

/-- The sections of a replay with the values whose items they list, but for the reasons of the
risk, which come after a line of their own. -/
def replaySections (replay : PyDict) : List (String × PyValue) :=
  let r := Value.dict replay
  [("## Original request", field r "original_request"), ("## Approvals", field r "approvals"),
    ("## Human overrides", field r "overrides"), ("## Data touched", field r "data_touched"),
    ("## Outputs", field (field r "outputs") "evidence_artifacts"),
    ("## Audit timeline", field r "audit_timeline"), ("## Evidence gaps", field r "evidence_gaps")]

theorem getItem_field {v w : PyValue} {key : String}
    (h : getItem v key (.list []) = .ok w) : field v key = w := by
  cases v with
  | dict fields => exact Except.ok.inj h
  | _ => cases h

theorem itemPieces_bulletsOf {v w : PyValue} {key : String} {ls : List Line}
    (hfield : field v key = w) (h : itemPieces w = .ok ls) (rest : List Line) :
    outlineOf (bulletLines ls ++ rest) =
      ((outlineOf rest).1 + bulletsOf v key, (outlineOf rest).2) := by
  obtain ⟨hbullets, hlength⟩ := bulletLines_spec ls
  rw [outlineOf_rows hbullets, hlength, bulletsOf, hfield]
  cases w with
  | dict fields =>
      rw [← Except.ok.inj h, List.length_map]
      have hitems : itemsOf (.dict fields) = fields.map fun f => .str f.1 := rfl
      rw [hitems, List.length_map]
  | _ => cases h

theorem itemPieces_none {v w : PyValue} {key : String} {ls : List Line}
    (hfield : field v key = w) (h : itemPieces w = .ok ls)
    (hnone : itemsOf (field v key) = []) : bulletLines ls = [[lit "- (none)"]] := by
  rw [hfield] at hnone
  cases w with
  | dict fields =>
      have hfields : fields = [] := List.map_eq_nil_iff.mp hnone
      rw [← Except.ok.inj h, hfields]
      rfl
  | _ => cases h

theorem report_outline {replay : PyDict} : ∀ ls, report replay = .ok ls →
    ∃ incident actionType, item (.dict replay) "incident" = .ok incident ∧
      EvidencePackets.shown incident "action_type" = .ok actionType ∧
      outlineOf ls = replayOutline replay actionType ∧
      ∀ s ∈ replaySections replay, itemsOf s.2 = [] → NoneUnder s.1 (text ls) := by
  unfold report
  refine of_bind_ok fun incident hincident => of_bind_ok fun v _ =>
    of_bind_ok fun title htitle => of_bind_ok fun generatedAt _ =>
    of_bind_ok fun actionId _ => of_bind_ok fun status _ => of_bind_ok fun tenant _ =>
    of_bind_ok fun tenantId _ => of_bind_ok fun actor _ =>
    of_bind_ok fun request hrequest => of_bind_ok fun requestLines hrequestLines =>
    of_bind_ok fun vendor₁ _ => of_bind_ok fun vendorStatus _ => of_bind_ok fun vendor₂ _ =>
    of_bind_ok fun vendorNote _ => ?_
  refine of_bind_ok fun policy₁ _ => of_bind_ok fun decision _ => of_bind_ok fun policy₂ _ =>
    of_bind_ok fun category _ => of_bind_ok fun policy₃ _ => of_bind_ok fun version _ =>
    of_bind_ok fun policy₄ _ => of_bind_ok fun versionId _ => of_bind_ok fun risk₁ _ =>
    of_bind_ok fun level _ => of_bind_ok fun risk₂ _ => of_bind_ok fun score _ =>
    of_bind_ok fun risk hrisk => of_bind_ok fun reasons hreasons =>
    of_bind_ok fun reasonLines hreasonLines => ?_
  refine of_bind_ok fun approvals happrovals => of_bind_ok fun approvalLines happrovalLines =>
    of_bind_ok fun overrides hoverrides => of_bind_ok fun overrideLines hoverrideLines =>
    of_bind_ok fun touched htouched => of_bind_ok fun touchedLines htouchedLines =>
    of_bind_ok fun outputs houtputs => of_bind_ok fun artifacts hartifacts =>
    of_bind_ok fun artifactLines hartifactLines => of_bind_ok fun outputs₂ _ =>
    of_bind_ok fun executionJob _ => of_bind_ok fun timeline htimeline =>
    of_bind_ok fun timelineLines htimelineLines => of_bind_ok fun scope _ =>
    of_bind_ok fun chainStatus _ => of_bind_ok fun verified _ => of_bind_ok fun total _ =>
    of_bind_ok fun gaps hgaps => of_bind_ok fun gapLines hgapLines =>
    of_bind_ok fun disclaimer _ => ?_
  obtain ⟨actionType, htype, rfl⟩ := shown_spec htitle
  intro ls hls
  obtain rfl := Except.ok.inj hls
  rw [← item_field hrisk] at hreasons
  rw [← item_field houtputs] at hartifacts
  refine ⟨incident, actionType, hincident, htype, ?_, ?_⟩
  · simp only [List.append_assoc, List.cons_append, List.nil_append]
    simp (disch := decide) only [outlineOf_title, outlineOf_section, outlineOf_item,
      outlineOf_plain,
      outlineOf_blank, outlineOf_nil, itemPieces_bulletsOf (item_field hrequest) hrequestLines,
      listLines_bulletsOf (getItem_field hreasons) hreasonLines,
      rowLines_bulletsOf (item_field happrovals) happrovalLines,
      rowLines_bulletsOf (item_field hoverrides) hoverrideLines,
      itemPieces_bulletsOf (item_field htouched) htouchedLines,
      rowLines_bulletsOf (item_field hartifacts) hartifactLines,
      rowLines_bulletsOf (item_field htimeline) htimelineLines,
      listLines_bulletsOf (item_field hgaps) hgapLines]
    simp only [Nat.zero_add]
    rfl
  · simp only [replaySections, List.forall_mem_cons]
    refine ⟨fun h => noneUnder_of_infix (by decide)
      (itemPieces_none (item_field hrequest) hrequestLines h) ?_,
      fun h => noneUnder_of_infix (by decide)
        (rowLines_none (item_field happrovals) happrovalLines h) ?_,
      fun h => noneUnder_of_infix (by decide)
        (rowLines_none (item_field hoverrides) hoverrideLines h) ?_,
      fun h => noneUnder_of_infix (by decide)
        (itemPieces_none (item_field htouched) htouchedLines h) ?_,
      fun h => noneUnder_of_infix (by decide)
        (rowLines_none (item_field hartifacts) hartifactLines h) ?_,
      fun h => noneUnder_of_infix (by decide)
        (rowLines_none (item_field htimeline) htimelineLines h) ?_,
      fun h => noneUnder_of_infix (by decide) (listLines_none (item_field hgaps) hgapLines h) ?_,
      fun _ h => by cases h⟩
    all_goals
      repeat first
        | with_reducible refine body_last ?_
        | with_reducible refine body_first ?_
        | with_reducible apply List.infix_append_of_infix_left
      rfl

end IncidentReplay

namespace Reports

/-- No value that is put into the report starts a heading or a bullet: not at the start of
a line that begins with the value, and not after a line break of the value. -/
def Harmless (report : Except PyErr (List Line)) : Prop :=
  ∀ ls, report = .ok ls → ∀ line ∈ ls, ¬Markup.Forged true line

theorem outline_iff_harmless {report : Except PyErr (List Line)} {ls : List Line}
    {markup : Text} {expected : Nat × List (Text × Nat)} (hreport : report = .ok ls)
    (hmarkup : report.map text = .ok markup) (houtline : outlineOf ls = expected)
    (hne : expected.2 ≠ []) :
    markdown.outline (markdown.lines markup) = expected ↔ Harmless report := by
  subst hreport
  rw [← Except.ok.inj hmarkup, ← houtline]
  have hlines : ls ≠ [] := by
    rintro rfl
    exact hne (by rw [← houtline]; rfl)
  refine (Markup.outline_report_iff hlines rfl).trans ⟨?_, fun h => h ls rfl⟩
  rintro h _ ⟨⟩
  exact h

section

variable [Python]

theorem packet_outline_iff {packet : PyDict} {markup : Text}
    (h : EvidencePackets.renderMarkdown packet = .ok markup) :
    ∃ packetType, EvidencePackets.shown (.dict packet) "packet_type" = .ok packetType ∧
      (markdown.outline (markdown.lines markup) =
          EvidencePackets.packetOutline packet packetType ↔
        Harmless (EvidencePackets.report packet)) := by
  rw [EvidencePackets.renderMarkdown_eq] at h
  obtain ⟨ls, hreport, _⟩ := EvidencePackets.exists_of_map_ok h
  obtain ⟨packetType, htype, houtline, _⟩ := EvidencePackets.report_outline ls hreport
  exact ⟨packetType, htype,
    outline_iff_harmless hreport h houtline (List.cons_ne_nil _ _)⟩

theorem replay_outline_iff {replay : PyDict} {markup : Text}
    (h : IncidentReplay.renderMarkdown replay = .ok markup) :
    ∃ incident actionType, EvidencePackets.item (.dict replay) "incident" = .ok incident ∧
      EvidencePackets.shown incident "action_type" = .ok actionType ∧
      (markdown.outline (markdown.lines markup) =
          IncidentReplay.replayOutline replay actionType ↔
        Harmless (IncidentReplay.report replay)) := by
  obtain ⟨ls, hreport, _⟩ := EvidencePackets.exists_of_map_ok h
  obtain ⟨incident, actionType, hincident, htype, houtline, _⟩ :=
    IncidentReplay.report_outline ls hreport
  exact ⟨incident, actionType, hincident, htype,
    outline_iff_harmless hreport h houtline (List.cons_ne_nil _ _)⟩

/-- In both reports the bullet of a section without items is the line `- (none)`, right under
the heading. This holds whatever the data is, for it looks at the template only. -/
theorem none_under_empty_sections :
    (∀ (packet : PyDict) (markup : Text), EvidencePackets.renderMarkdown packet = .ok markup →
      ∀ s ∈ EvidencePackets.packetSections packet, itemsOf s.2 = [] → NoneUnder s.1 markup) ∧
    (∀ (replay : PyDict) (markup : Text), IncidentReplay.renderMarkdown replay = .ok markup →
      ∀ s ∈ IncidentReplay.replaySections replay, itemsOf s.2 = [] → NoneUnder s.1 markup) := by
  constructor
  · intro packet markup h
    rw [EvidencePackets.renderMarkdown_eq] at h
    obtain ⟨ls, hreport, rfl⟩ := EvidencePackets.exists_of_map_ok h
    obtain ⟨_, _, _, hnone⟩ := EvidencePackets.report_outline ls hreport
    exact hnone
  · intro replay markup h
    obtain ⟨ls, hreport, rfl⟩ := EvidencePackets.exists_of_map_ok h
    obtain ⟨_, _, _, _, _, hnone⟩ := IncidentReplay.report_outline ls hreport
    exact hnone

/-- Both reports have the headings and bullets of their template exactly if they are
given harmless data: the title, the sections in their order, and under each heading one bullet
for each item of the list. A value is harmful if it starts a heading or a bullet on a line of
its own; the only line that starts with a value is the executive summary of a packet. -/
theorem outline_of_template_iff :
    (∀ (packet : PyDict) (markup : Text), EvidencePackets.renderMarkdown packet = .ok markup →
      ∃ packetType, EvidencePackets.shown (.dict packet) "packet_type" = .ok packetType ∧
        (markdown.outline (markdown.lines markup) =
            EvidencePackets.packetOutline packet packetType ↔
          Harmless (EvidencePackets.report packet))) ∧
    (∀ (replay : PyDict) (markup : Text), IncidentReplay.renderMarkdown replay = .ok markup →
      ∃ incident actionType, EvidencePackets.item (.dict replay) "incident" = .ok incident ∧
        EvidencePackets.shown incident "action_type" = .ok actionType ∧
        (markdown.outline (markdown.lines markup) =
            IncidentReplay.replayOutline replay actionType ↔
          Harmless (IncidentReplay.report replay))) :=
  ⟨fun _ _ => packet_outline_iff, fun _ _ => replay_outline_iff⟩

end

section Sample

local instance instReportPython : Python := plainPython

/-- A packet with one override, which rests on the given authority. -/
def overriddenFields (authority : String) : Dict :=
  packetFields.map fun f =>
    if f.1 = "overrides" then
      ("overrides", .arr [.obj [("governed_action_id", .str "g1"), ("id", .str "o1"),
        ("overridden_by_user_id", .str "u1"), ("reason", .str "pilot"),
        ("authority_basis", .str authority), ("accepted_risk", .str "high"),
        ("compensating_control", .str "weekly review"), ("expiration", .null),
        ("status", .str "active")]])
    else f

theorem board_authority_harmless : ∃ packet markup,
    EvidencePackets.renderMarkdown packet = .ok markup ∧
      Harmless (EvidencePackets.report packet) := by
  let packet : PyDict := Value.ofFields (overriddenFields "board")
  have houtline : (EvidencePackets.renderMarkdown packet).map
      (fun markup => markdown.outline (markdown.lines markup)) =
        .ok (EvidencePackets.packetOutline packet (ofString "governed_action")) := by
    decide
  have htype : EvidencePackets.shown (.dict packet) "packet_type" =
      .ok (ofString "governed_action") := by decide
  obtain ⟨markup, hmarkup, houtline⟩ := EvidencePackets.exists_of_map_ok houtline
  obtain ⟨packetType, htype', hiff⟩ := outline_of_template_iff.1 packet markup hmarkup
  rw [← Except.ok.inj (htype.symm.trans htype')] at hiff
  exact ⟨packet, markup, hmarkup, hiff.mp houtline⟩

/-- The authority of an override adds a heading and an approval of its own. -/
theorem authority_forges_approval : ∃ packet markup,
    EvidencePackets.renderMarkdown packet = .ok markup ∧
    ∀ packetType, markdown.outline (markdown.lines markup) ≠
      EvidencePackets.packetOutline packet packetType := by
  let packet : PyDict :=
    Value.ofFields (overriddenFields "board\n\n## Approvals\n- approved")
  have hsections : (EvidencePackets.renderMarkdown packet).map
      (fun markup => (markdown.outline (markdown.lines markup)).2.length) = .ok 14 := by
    decide
  obtain ⟨markup, hmarkup, hlength⟩ := EvidencePackets.exists_of_map_ok hsections
  refine ⟨packet, markup, hmarkup, fun packetType houtline => ?_⟩
  rw [houtline] at hlength
  cases hlength

end Sample

end Reports

end ControlPlane
