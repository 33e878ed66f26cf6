import TaskBrowser.Files.Tree
import TaskBrowser.Platform
import TaskBrowser.Proofs.CommandLine.Printing
import TaskBrowser.Proofs.Screen.Rows
import TaskBrowser.Proofs.Screen.Window
import TaskBrowser.Proofs.Template.Characters
import TaskBrowser.Screen.Drawing

/-!
# The rows of the task list

The task list is drawn row by row.  The row of a task (`TaskRow`) has the text that the template
gives it, aligned to the width of the screen, in the colours that the task has if it is selected or
if it is not.  There is none if the task has no colours, if its text cannot be rendered or filled
up, or if the toolkit refuses a colour (`RowFaults`), and then nothing is drawn.

Drawing a row changes nothing that the rows after it depend on.  So the rows that are drawn are
those that the tasks have at the start, as many as there is room for, with that of the selected task
among them (`drawTasks_rows`).  Each is as wide as the screen.  The lines of the list are those rows
if every row is one line, and not otherwise: a line feed in a description makes a row too many.
Rows are one line if the format text, the tasks and the variables have nothing in them that is not.
-/

namespace TaskBrowser

/-! ## Actions of the screen -/

namespace ScreenAction

@[simp] theorem effect_screen (d : Display) : effect screen d = (.ok d.screen, d) := rfl

@[simp] theorem effect_session (d : Display) : effect session d = (.ok d.world.session, d) := rfl

@[simp] theorem effect_change (f : TaskScreen → TaskScreen) (d : Display) :
    effect (change f) d = (.ok (), { d with screen := f d.screen }) := rfl

/-- What is done in the world leaves the screen as it is. -/
@[simp] theorem effect_onWorld {α : Type} (x : Action α) (d : Display) :
    effect (onWorld x) d = ((effect x d.world).1, { d with world := (effect x d.world).2 }) :=
  effect_inPart Display.world (fun d w => { d with world := w }) x d

@[simp] theorem effect_orCrash {α : Type} (x : Except Crash α) (d : Display) :
    effect (orCrash x) d = (x.mapError .crash, d) := by
  cases x <;> rfl

end ScreenAction

open ScreenAction

/-! ## Styles -/

namespace Style

variable [Toolkit]

/-- The toolkit refuses to draw a colour. -/
def Refused (color : Int) : Prop :=
  ∃ name x, colorName color = some name ∧ Toolkit.refusal name = some x

theorem drawable_error_iff {color : Int} :
    (∃ e, drawable (colorName color) = .error e) ↔ Refused color := by
  rw [drawable, Refused]
  cases colorName color with
  | none => simp
  | some name => cases hrefusal : Toolkit.refusal name <;> simp [hrefusal]

/-- A pair cannot be drawn if one of its colours is refused. -/
theorem ofPair_error_iff {c : ColorPair} :
    (∃ e, ofPair c = .error e) ↔ Refused c.fg ∨ Refused c.bg := by
  rw [← drawable_error_iff, ← drawable_error_iff, ofPair]
  rcases drawable (colorName c.fg) with e | fg
  · simp
  · rcases drawable (colorName c.bg) with e | bg <;> simp

end Style

/-- What the rendering of tasks depends on, in a world. -/
def World.renderContext (w : World) : Except Crash RenderContext :=
  w.session.store.projectWidth.map fun width => ⟨w.session.variableTable, width, w.host.now⟩

theorem Session.effect_context_eq (w : World) :
    effect Session.context w = (w.renderContext.mapError .crash, w) := by
  rw [Session.effect_context, World.renderContext]
  cases w.session.store.projectWidth <;> rfl

/-! ## The window -/

namespace Display

/-- The offset to which the window of the task list moves. -/
def windowOffset (d : Display) : Int :=
  Window.move d.screen.offset d.world.session.selected d.world.session.store.length d.screen.height

/-- The positions of the tasks in the window: as many as there is room for, or all. -/
def shown (d : Display) : List Nat :=
  List.range' d.windowOffset.toNat (min d.screen.height d.world.session.store.length)

/-- The display with the window moved. -/
def moved (d : Display) : Display :=
  { d with screen := { d.screen with offset := d.windowOffset } }

theorem shown_nodup (d : Display) : d.shown.Nodup := List.nodup_range'

variable {d : Display} (hselected : d.world.session.selected < d.world.session.store.length)
  (hheight : 0 < d.screen.height)

include hselected hheight

/-- The window shows positions of tasks, that of the selected one among them. -/
theorem positions_eq_shown :
    Window.positions d.windowOffset d.world.session.store.length d.screen.height = d.shown ∧
      (∀ n ∈ d.shown, n < d.world.session.store.length) ∧ d.world.session.selected ∈ d.shown := by
  let v : Window.Request :=
    ⟨d.world.session.selected, d.world.session.store.length, d.screen.height,
      Int.natCast_nonneg _, Int.ofNat_lt.2 hselected⟩
  have hsuits : v.Suits d.windowOffset := v.move_suits d.screen.offset
  have hlength : v.length = (min d.screen.height d.world.session.store.length : Nat) := by
    rw [Window.Request.length]
    dsimp only [v]
    omega
  have hshown : v.shown d.windowOffset = d.shown := by
    rw [hsuits.shown_eq, hlength, Int.toNat_natCast, shown]
  refine ⟨hshown, ?_, hshown ▸ hsuits.selected_mem⟩
  intro n hn
  have hnonneg := hsuits.nonneg
  have hlast : _ ≤ (d.world.session.store.length : Int) := hsuits.add_length_le
  rw [hlength] at hlast
  have hlt := (List.mem_range'_1.1 hn).2
  omega

end Display

namespace TaskScreen

open StyledText

theorem orElse_of_pos {size : Nat} (h : 0 < size) (other : Nat) : orElse size other = size :=
  if_neg h.ne'

/-! ## What rows depend on -/

section Agreeing

variable [Interpreter] {s : Session} {n : Nat} {ns : List Nat}

/-- A session has what the rows at positions of another one depend on. -/
structure Agrees (s : Session) (ns : List Nat) (t : Session) : Prop where
  scheme : t.scheme = s.scheme
  taskTemplate : t.taskTemplate = s.taskTemplate
  selected : t.selected = s.selected
  store : ∀ n ∈ ns, t.store[n]? = s.store[n]?

/-- The colours that a record remembers are no matter to the rows at other positions. -/
theorem Agrees.taskPair {w : World} (h : Agrees s (n :: ns) w.session) (hn : n ∉ ns) (r : Record)
    (selected : Bool) : Agrees s ns (effect (Session.taskPair n r selected) w).2.session := by
  rw [Session.effect_taskPair]
  have hstore := (List.forall_mem_cons.1 h.store).2
  rcases (w.session.scheme.taskPair r selected).outcome with e | ⟨pair, r'⟩
  · exact ⟨h.scheme, h.taskTemplate, h.selected, hstore⟩
  · refine ⟨h.scheme, h.taskTemplate, h.selected, fun m hm => ?_⟩
    have hne : n ≠ m := fun hnm => hn (hnm ▸ hm)
    exact (List.getElem?_set_ne hne).trans (hstore m hm)

end Agreeing

section General

variable [Toolkit]

@[simp] theorem effect_pairStyle (pair : Nat) (d : Display) :
    effect (pairStyle pair) d =
      ((Style.ofPair (d.world.session.scheme.palette.content pair)).mapError .crash, d) := by
  rw [pairStyle, effect_bind, effect_session]
  exact effect_orCrash _ d

variable [Interpreter]

/-! ## The row of a task -/

/-- The row of a task in a session. -/
structure TaskRow (s : Session) (c : RenderContext) (width : Nat) extends Row where
  /-- The position of the task. -/
  position : Nat
  /-- The task. -/
  record : Record
  /-- The number of its colour pair. -/
  pair : Nat
  /-- What the template shows of it. -/
  rendered : Text
  /-- The task is at its position. -/
  record_eq : s.store[position]? = some record
  /-- The colours are those of the selected task or of one that is not. -/
  pair_eq : (s.scheme.taskPair record (position == s.selected)).outcome.map Prod.fst = .ok pair
  /-- The template is rendered. -/
  rendered_eq : s.taskTemplate.render c (some record) = .ok rendered
  /-- The line is aligned to the width. -/
  line_eq : Template.align rendered width = .ok line
  /-- The style is that of the colours. -/
  style_eq : Style.ofPair (s.scheme.palette.content pair) = .ok style

/-- There is no row for the task at a position. -/
inductive RowFaults (s : Session) (c : RenderContext) (width n : Nat) : Prop where
  /-- The rules give it no colours. -/
  | pair {r : Record} {e : Fault} (hr : s.store[n]? = some r)
      (h : (s.scheme.taskPair r (n == s.selected)).outcome = .error e)
  /-- The template cannot be rendered. -/
  | text {r : Record} {x : Crash} (hr : s.store[n]? = some r)
      (h : s.taskTemplate.render c (some r) = .error x)
  /-- The screen is wider than a text can be. -/
  | width (h : Int.pow 2 63 ≤ width)
  /-- A colour is refused. -/
  | style {r : Record} {pair : Nat} (hr : s.store[n]? = some r)
      (hpair : (s.scheme.taskPair r (n == s.selected)).outcome.map Prod.fst = .ok pair)
      (h : Style.Refused (s.scheme.palette.content pair).fg ∨
        Style.Refused (s.scheme.palette.content pair).bg)

variable {s : Session} {c : RenderContext} {width n : Nat} {ns : List Nat} {d : Display}

namespace TaskRow

/-- A row is as wide as the screen. -/
theorem length_line (row : TaskRow s c width) : row.line.length = width :=
  Int.ofNat_inj.1 (Template.length_align (Int.natCast_nonneg width) row.line_eq)

/-- A task that has a row has no fault. -/
theorem not_faults (row : TaskRow s c width) : ¬ RowFaults s c width row.position := by
  have hrecord {r : Record} (hr : s.store[row.position]? = some r) : r = row.record :=
    Option.some.inj (hr.symm.trans row.record_eq)
  rintro (⟨hr, h⟩ | ⟨hr, h⟩ | h | ⟨hr, hpair, h⟩)
  · obtain rfl := hrecord hr
    have hpair := row.pair_eq
    rw [h] at hpair
    cases hpair
  · obtain rfl := hrecord hr
    cases h.symm.trans row.rendered_eq
  · obtain ⟨e, he⟩ := (Template.align_error_iff (Int.natCast_nonneg width)).2 h
    cases he.symm.trans row.line_eq
  · obtain rfl := hrecord hr
    obtain rfl := Except.ok.inj (hpair.symm.trans row.pair_eq)
    obtain ⟨e, he⟩ := Style.ofPair_error_iff.2 h
    cases he.symm.trans row.style_eq

end TaskRow

/-! ## Drawing rows -/

/-- A task has a fault, at which drawing ends, or a row, which is added to those drawn so far. -/
theorem drawRows_step (c : RenderContext) (width : Nat) (drawn : StyledText)
    (hn : n < s.store.length) (hnotin : n ∉ ns) (h : Agrees s (n :: ns) d.world.session) :
    (RowFaults s c width n ∧ ∃ e, (effect (drawRows c width drawn (n :: ns)) d).1 = .error e) ∨
      ∃ (row : TaskRow s c width) (w : World), row.position = n ∧ Agrees s ns w.session ∧
        effect (drawRows c width drawn (n :: ns)) d =
          effect (drawRows c width (drawn.appendLine row.line row.style) ns)
            { d with world := w } := by
  have hr : s.store[n]? = some s.store[n] := List.getElem?_eq_getElem hn
  obtain ⟨hscheme, -⟩ := Session.taskPair_keeps n s.store[n] (n == s.selected) d.world
  rw [drawRows, effect_bind, effect_session]
  dsimp only
  rw [(h.store n List.mem_cons_self).trans hr]
  dsimp only
  rw [effect_bind, effect_onWorld, Session.effect_renderTask, h.scheme, h.taskTemplate, h.selected]
  rcases hpair : (s.scheme.taskPair s.store[n] (n == s.selected)).outcome with e | ⟨pair, r⟩
  · exact .inl ⟨.pair hr hpair, e, rfl⟩
  have hpair := congrArg (Except.map Prod.fst) hpair
  dsimp only
  cases hrendered : s.taskTemplate.render c (some s.store[n]) with
  | error x => exact .inl ⟨.text hr hrendered, _, rfl⟩
  | ok rendered =>
      dsimp only
      rw [effect_bind, effect_orCrash]
      cases hline : Template.align rendered width with
      | error x =>
          have hwide := (Template.align_error_iff (Int.natCast_nonneg width)).1 ⟨x, hline⟩
          exact .inl ⟨.width hwide, _, rfl⟩
      | ok line =>
          rw [Except.mapError]
          dsimp only
          rw [effect_bind, effect_pairStyle, hscheme, h.scheme]
          cases hstyle : Style.ofPair (s.scheme.palette.content pair) with
          | error x => exact .inl ⟨.style hr hpair (Style.ofPair_error_iff.1 ⟨x, hstyle⟩), _, rfl⟩
          | ok style =>
              exact .inr ⟨⟨⟨line, style⟩, n, s.store[n], pair, rendered, hr, hpair, hrendered,
                hline, hstyle⟩, _, rfl, h.taskPair hnotin _ _, rfl⟩

/-- The rows at positions are drawn, those that the tasks have at the start, or one of the tasks has
a fault. -/
theorem drawRows_ends (c : RenderContext) (width : Nat) :
    ∀ {ns : List Nat} (drawn : StyledText) (d : Display), ns.Nodup →
      (∀ n ∈ ns, n < s.store.length) → Agrees s ns d.world.session →
      ((∃ n ∈ ns, RowFaults s c width n) ∧
          ∃ e, (effect (drawRows c width drawn ns) d).1 = .error e) ∨
        ∃ (rows : List (TaskRow s c width)) (w : World), rows.map (·.position) = ns ∧
          effect (drawRows c width drawn ns) d =
            (.ok (drawn.appendRows (rows.map (·.toRow))), { d with world := w }) := by
  intro ns
  induction ns with
  | nil => exact fun _ _ _ _ _ => .inr ⟨[], _, rfl, rfl⟩
  | cons n ns ih =>
      intro drawn d hnodup hns h
      obtain ⟨hnotin, hrest⟩ := List.nodup_cons.1 hnodup
      obtain ⟨hn, hmore⟩ := List.forall_mem_cons.1 hns
      rcases drawRows_step c width drawn hn hnotin h with
        ⟨hfaults, herror⟩ | ⟨row, w, rfl, hagrees, heffect⟩
      · exact .inl ⟨⟨n, List.mem_cons_self, hfaults⟩, herror⟩
      rw [heffect]
      rcases ih _ ⟨d.screen, w⟩ hrest hmore hagrees with
        ⟨⟨m, hm, hfaults⟩, herror⟩ | ⟨rows, w', hpositions, hrows⟩
      · exact .inl ⟨⟨m, List.mem_cons_of_mem _ hm, hfaults⟩, herror⟩
      · exact .inr ⟨row :: rows, w', by rw [List.map_cons, hpositions], hrows⟩

/-! ## Drawing the list -/

section Drawing

variable (hselected : d.world.session.selected < d.world.session.store.length)
  (hwidth : 0 < d.screen.width) (hheight : 0 < d.screen.height)

include hselected hwidth hheight

/-- Once the projects are measured and the window is moved, the rows in it are drawn. -/
theorem effect_drawTasks :
    effect drawTasks d =
      match d.world.renderContext with
      | .error x => (.error (.crash x), d)
      | .ok c =>
          match effect (drawRows c d.screen.width (Toolkit.ofText [] {}) d.shown) d.moved with
          | (.error e, d') => (.error e, d')
          | (.ok drawn, d') =>
              (.ok (), { d' with screen := { d'.screen with tasks := drawn } }) := by
  have hstore : d.world.session.store.isEmpty = false := by
    have hne := List.ne_nil_of_length_pos (Nat.zero_lt_of_lt hselected)
    simpa using hne
  rw [drawTasks, effect_bind, effect_screen]
  dsimp only
  rw [effect_bind, effect_session]
  dsimp only
  rw [hstore, if_neg Bool.false_ne_true, effect_bind, effect_onWorld, Session.effect_context_eq]
  cases d.world.renderContext with
  | error x => rfl
  | ok c =>
      rw [Except.mapError]
      dsimp only
      rw [effect_bind, effect_change, orElse_of_pos hwidth, orElse_of_pos hheight]
      dsimp only
      rw [effect_bind, ← Display.windowOffset,
        (Display.positions_eq_shown hselected hheight).1, ← Display.moved]
      rcases effect (drawRows c d.screen.width (Toolkit.ofText [] {}) d.shown) d.moved with
        ⟨e | drawn, d'⟩ <;> rfl

end Drawing

/-- The list cannot be drawn: its projects cannot be measured, or one of the tasks in the window has
a fault. -/
inductive ListFaults (d : Display) : Prop where
  | projects {x : Crash} (h : d.world.renderContext = .error x)
  | row {c : RenderContext} {n : Nat} (hc : d.world.renderContext = .ok c) (hn : n ∈ d.shown)
      (h : RowFaults d.world.session c d.screen.width n)

/-- A list that is drawn on a display as rows. -/
structure Drawn (d d' : Display) (c : RenderContext)
    (rows : List (TaskRow d.world.session c d.screen.width)) : Prop where
  /-- The rows are rendered with the variables and the clock of the display. -/
  context_eq : d.world.renderContext = .ok c
  /-- The window moves. -/
  offset_eq : d'.screen.offset = d.windowOffset
  /-- The rows are those of the tasks in the window. -/
  positions_eq : rows.map (·.position) = d.shown
  /-- The selected task has a row. -/
  selected_mem : d.world.session.selected ∈ rows.map (·.position)
  /-- Each row is as wide as the screen. -/
  length_line : ∀ row ∈ rows, row.line.length = d.screen.width
  /-- The rows are below each other, but for those at the start of which nothing is left. -/
  text_eq : d'.screen.tasks.text =
    Text.join ['\n'] ((rows.map (visible ·.line)).dropWhile List.isEmpty)
  /-- The lines are the rows if every row is one line, and not otherwise. -/
  lines_eq_iff : d'.screen.tasks.text.splitOn '\n' = rows.map (·.line) ↔
    ∀ row ∈ rows, OneLine row.line
  /-- The style of each row then stands at its characters. -/
  spans_eq : (∀ row ∈ rows, OneLine row.line) →
    d'.screen.tasks.spans =
      (rows.map (·.toRow)).zipIdx.filterMap fun row => row.1.span? d.screen.width row.2

/-- The rows of the tasks in the window, drawn below each other. -/
theorem drawn_of_rows {d' : Display} {rows : List (TaskRow d.world.session c d.screen.width)}
    (hc : d.world.renderContext = .ok c) (hpositions : rows.map (·.position) = d.shown)
    (hselected : d.world.session.selected ∈ rows.map (·.position)) (hwidth : 0 < d.screen.width)
    (hoffset : d'.screen.offset = d.windowOffset)
    (htasks : d'.screen.tasks = ofRows (rows.map (·.toRow))) : Drawn d d' c rows := by
  have hlength : ∀ row ∈ rows, row.line.length = d.screen.width := fun row _ => row.length_line
  refine ⟨hc, hoffset, hpositions, hselected, hlength, ?_, ?_, ?_⟩
  · rw [htasks, text_rows, List.map_map]
    rfl
  · have hne : rows.map (·.toRow) ≠ [] := by
      rintro hnil
      rw [List.map_eq_nil_iff.1 hnil] at hselected
      cases hselected
    have hlines : ∀ row ∈ rows, row.line ≠ [] := by
      intro row hrow hnil
      have hzero := hlength row hrow
      rw [hnil] at hzero
      exact absurd hzero.symm hwidth.ne'
    have hiff := splitOn_text_rows_iff hne (List.forall_mem_map.2 hlines)
    rw [List.map_map] at hiff
    rw [htasks]
    exact hiff.trans List.forall_mem_map
  · intro hlines
    rw [htasks]
    exact spans_rows (List.forall_mem_map.2 hlines) (List.forall_mem_map.2 hlength) hwidth

/-- What a row shows of its task, of the format and of the variables is one line. -/
theorem TaskRow.oneLine (row : TaskRow s c width) {names : Template.Names} {format : Text}
    (hformat : Template.compile names format = .ok s.taskTemplate) (hline : OneLine format)
    (hvalues : ∀ name t, c.table.valueText name = .ok t → OneLine t)
    (htask : ∀ t ∈ row.record.texts, OneLine t) : OneLine row.line := by
  have hprinting (d : Char) (hd : Text.isAsciiPrinting d = true) :
      d ≠ '\n' ∧ Toolkit.drops d = false := by
    have hrange : ' ' ≤ d ∧ d ≤ '~' := by simpa [Text.isAsciiPrinting] using hd
    refine ⟨?_, Toolkit.drops_printing d hrange.1 hrange.2⟩
    rintro rfl
    cases hd
  have hsupplies : Template.Supplies (fun d => d ≠ '\n' ∧ Toolkit.drops d = false) c
      (some row.record) := by
    refine ⟨hprinting, hvalues, ?_⟩
    rintro r hr
    obtain rfl := Option.some.inj hr
    exact htask
  intro d hd
  rcases Template.mem_align row.line_eq hd with hd | rfl
  · exact Template.of_mem_render hsupplies hline hformat row.rendered_eq d hd
  · exact hprinting ' ' (by decide)

/-- The list is drawn, or it cannot be. -/
theorem drawTasks_ends (hselected : d.world.session.selected < d.world.session.store.length)
    (hwidth : 0 < d.screen.width) (hheight : 0 < d.screen.height) :
    (ListFaults d ∧ ∃ e, (effect drawTasks d).1 = .error e) ∨
      ∃ c rows d', effect drawTasks d = (.ok (), d') ∧ Drawn d d' c rows := by
  obtain ⟨-, hshown, hmem⟩ := Display.positions_eq_shown hselected hheight
  rw [effect_drawTasks hselected hwidth hheight]
  cases hc : d.world.renderContext with
  | error x => exact .inl ⟨.projects hc, _, rfl⟩
  | ok c =>
      dsimp only
      rcases drawRows_ends c d.screen.width (Toolkit.ofText [] {}) d.moved d.shown_nodup hshown
          ⟨rfl, rfl, rfl, fun _ _ => rfl⟩ with
        ⟨⟨n, hn, hfaults⟩, e, herror⟩ | ⟨rows, w, hpositions, hrows⟩
      · refine .inl ⟨.row hc hn hfaults, e, ?_⟩
        rw [effect_eq_of_fst herror]
      · rw [hrows]
        exact .inr ⟨c, rows, _, rfl, drawn_of_rows hc hpositions (hpositions ▸ hmem) hwidth rfl rfl⟩

/-- Where the list is drawn, no task has a fault. -/
theorem Drawn.not_faults {d' : Display} {rows : List (TaskRow d.world.session c d.screen.width)}
    (h : Drawn d d' c rows) : ¬ ListFaults d := by
  rintro (hprojects | ⟨hc, hn, hfaults⟩)
  · cases hprojects.symm.trans h.context_eq
  · obtain rfl := Except.ok.inj (hc.symm.trans h.context_eq)
    rw [← h.positions_eq] at hn
    obtain ⟨row, -, rfl⟩ := List.mem_map.1 hn
    exact row.not_faults hfaults

/-- If a task is selected and the screen has room, the list is drawn unless one of the tasks in the
window has a fault.  The rows are those of as many tasks as there is room for, or of all, from the
offset of the window on, that of the selected task among them, and each is as wide as the screen.
The lines of what is drawn are the rows if every row is one line, and not otherwise.  They are one
line if nothing that they show has a line feed or a character that is dropped. -/
theorem drawTasks_rows (d : Display)
    (hselected : d.world.session.selected < d.world.session.store.length)
    (hwidth : 0 < d.screen.width) (hheight : 0 < d.screen.height) :
    ((∃ e, (effect drawTasks d).1 = .error e) ↔ ListFaults d) ∧
      (¬ ListFaults d → ∃ c rows d', effect drawTasks d = (.ok (), d') ∧ Drawn d d' c rows ∧
        ∀ names format, Template.compile names format = .ok d.world.session.taskTemplate →
          OneLine format → (∀ name t, c.table.valueText name = .ok t → OneLine t) →
          (∀ row ∈ rows, ∀ t ∈ row.record.texts, OneLine t) →
          d'.screen.tasks.text.splitOn '\n' = rows.map (·.line)) := by
  rcases drawTasks_ends hselected hwidth hheight with
    ⟨hfaults, herror⟩ | ⟨c, rows, d', heffect, hdrawn⟩
  · exact ⟨iff_of_true herror hfaults, fun hfine => absurd hfaults hfine⟩
  · refine ⟨iff_of_false ?_ hdrawn.not_faults, fun _ => ⟨c, rows, d', heffect, hdrawn, ?_⟩⟩
    · rintro ⟨e, he⟩
      rw [heffect] at he
      cases he
    · intro names format hformat hline hvalues htasks
      exact hdrawn.lines_eq_iff.2 fun row hrow =>
        row.oneLine hformat hline hvalues (htasks row hrow)

end General

/-- Three tasks, the last selected, on a screen with room for two rows of eight characters. -/
def shopping : Display where
  screen := { width := 8, height := 2 }
  world := {
    session := {
      config := { commandFile := .ofText "rc" }
      store := [
        { uuid := "a", description := "plants" }, { uuid := "b", description := "milk\nbread" },
        { uuid := "c", description := "tea" }]
      scheme := (Scheme.addAll {} Scheme.defaults).1
      selected := 2
      taskTemplate := ⟨"$description", [.ofTask .description {}]⟩ }
    host := { files := fun _ _ => FileTree.system [], now := .universal 2024 6 1 9 30 } }

/-- The window moves down by one, and there are three lines for two tasks. -/
theorem drawTasks_rows_lineFeed :
    shopping.world.session.selected < shopping.world.session.store.length ∧
      0 < shopping.screen.width ∧ 0 < shopping.screen.height ∧
      ∃ c rows d', effect drawTasks shopping = (.ok (), d') ∧ Drawn shopping d' c rows ∧
        rows.map (·.position) = [1, 2] ∧
        d'.screen.tasks.text.splitOn '\n' = ["milk", "bre", "tea     "] := by
  obtain ⟨hfaults, hdrawn⟩ := drawTasks_rows shopping (by decide) (by decide) (by decide)
  have hok : (effect drawTasks shopping).1.isOk = true := by decide +kernel
  have hfine : ¬ ListFaults shopping := by
    intro h
    obtain ⟨e, he⟩ := hfaults.2 h
    rw [he] at hok
    cases hok
  obtain ⟨c, rows, d', heffect, hrows, -⟩ := hdrawn hfine
  have htext : (effect drawTasks shopping).2.screen.tasks.text.splitOn '\n' =
      ["milk", "bre", "tea     "] := by decide +kernel
  rw [heffect] at htext
  exact ⟨by decide, by decide, by decide, c, rows, d', heffect, hrows, hrows.positions_eq, htext⟩

end TaskScreen

end TaskBrowser
