import TaskBrowser.Files.Tree
import TaskBrowser.Platform
import TaskBrowser.Proofs.Session.Operations
import TaskBrowser.Proofs.Session.Setting
import TaskBrowser.Proofs.Template.Slots

/-!
# Lines that line up

A project without a width of its own is as wide as the longest project of the list, which no project
exceeds (`Store.projectWidth_spec`).  So it is never cut, and takes the same room in every line.  A
template all of whose fields do so has lines of one length (`Session.tasks_lineUp`).

Lines can only be rendered below the length that a text can have, which no text reaches
(`World.Holdable`).
-/

namespace TaskBrowser

/-- The number of characters that no text reaches. -/
def Text.limit : Int := Int.pow 2 63

/-! ## The longest project -/

namespace Template

theorem exists_text_of_hasNamedProject {r : Record} (h : r.hasNamedProject = true) :
    ∃ t, projectText? r.project = some t := by
  rw [Record.hasNamedProject] at h
  rcases hproject : r.project with _ | (t | v)
  · exact ⟨[], rfl⟩
  · exact ⟨t, rfl⟩
  · rw [hproject] at h
    cases h

end Template

open Template

namespace Store

/-- A project with a text counts with the text's length. -/
theorem projectWidth_cons {r : Record} {t : Text} (h : projectText? r.project = some t)
    (s : Store) : projectWidth (r :: s) = (projectWidth s).map (max t.length) := by
  rw [projectWidth]
  rcases hproject : r.project with _ | (u | v)
  · rw [hproject] at h
    cases h
    rfl
  · rw [hproject] at h
    cases h
    cases t <;> rfl
  · rw [hproject, projectText?] at h
    split at h
    next => cases h
    next hv =>
      cases h
      have hnone : (Project.raw v).value.holds = false := Bool.eq_false_iff.2 hv
      simp only [hnone]
      rfl

/-- The width of projects is the greatest of their lengths. -/
theorem projectWidth_spec {s : Store} (h : ∀ r ∈ s, r.hasNamedProject = true) :
    ∃ n, s.projectWidth = .ok n ∧
      (∀ r ∈ s, ∃ t, projectText? r.project = some t ∧ t.length ≤ n) ∧
      (n = 0 ∨ ∃ r ∈ s, ∃ t, projectText? r.project = some t ∧ t.length = n) := by
  induction s with
  | nil => exact ⟨0, rfl, nofun, .inl rfl⟩
  | cons r s ih =>
      obtain ⟨hr, hs⟩ := List.forall_mem_cons.1 h
      obtain ⟨t, ht⟩ := exists_text_of_hasNamedProject hr
      obtain ⟨n, hn, hle, hmax⟩ := ih hs
      refine ⟨max t.length n, by rw [projectWidth_cons ht, hn]; rfl, ?_, ?_⟩
      · refine List.forall_mem_cons.2 ⟨⟨t, ht, le_max_left _ _⟩, ?_⟩
        intro r' hr'
        obtain ⟨t', ht', hle'⟩ := hle r' hr'
        exact ⟨t', ht', hle'.trans (le_max_right _ _)⟩
      · rcases le_total n t.length with hshorter | hlonger
        · exact .inr ⟨r, List.mem_cons_self, t, ht, (max_eq_left hshorter).symm⟩
        · rw [max_eq_right hlonger]
          refine hmax.imp_right ?_
          rintro ⟨r', hr', hlongest⟩
          exact ⟨r', List.mem_cons_of_mem r hr', hlongest⟩

end Store

/-! ## Texts that every line shows -/

/-- The texts that a session can put in lines are shorter than the limit, as all texts are. -/
structure World.Holdable (w : World) : Prop where
  /-- The projects. -/
  projects : ∀ r ∈ w.session.store, ∀ t, projectText? r.project = some t →
    (t.length : Int) < Text.limit
  /-- The values of variables. -/
  values : ∀ v ∈ w.session.variableTable, ∀ t, v.valueText = .ok t → (t.length : Int) < Text.limit
  /-- The date. -/
  date : ((Moment.shortDate w.host.now.date).length : Int) < Text.limit
  /-- The time. -/
  time : (w.host.now.time.length : Int) < Text.limit

/-- Every name has a value in a session, if only the empty text. -/
theorem Session.exists_valueText {w : World} (h : w.Holdable) (name : Text) :
    ∃ t, w.session.variableTable.valueText name = .ok t ∧ (t.length : Int) < Text.limit := by
  rw [VariableTable.valueText, Session.variableTable_find?]
  cases hfind : variableEntries.find? (·.name == name) with
  | none => exact ⟨[], rfl, by decide⟩
  | some e =>
      have he := List.mem_of_find?_eq_some hfind
      obtain ⟨t, ht⟩ := Session.valueText_of_mem he w.session
      exact ⟨t, ht, h.values _ (List.mem_map_of_mem he) t ht⟩

/-! ## Fields -/

/-- The due date is none or one that a clock can show. -/
def Record.HasShownDue (r : Record) (now : Clock) : Prop :=
  r.due = 0 ∨ ∃ d, Moment.date now.offset r.due = .ok d

/-- A field that takes the same room for every task: a literal, the date, the time or a variable in
any slot, a project in a slot of no negative width, and another attribute in a slot with a width. -/
def Field.IsColumn : Field → Prop
  | .literal _ => True
  | .date slot => slot.width < Text.limit
  | .time slot => slot.width < Text.limit
  | .named _ _ slot => slot.width < Text.limit
  | .ofTask a slot => slot.width < Text.limit ∧ (1 ≤ slot.width ∨ a = .project ∧ slot.width = 0)
  | .conditional _ _ _ _ => False

instance (f : Field) : Decidable f.IsColumn :=
  match f with
  | .literal _ => .isTrue trivial
  | .date slot => inferInstanceAs (Decidable (slot.width < Text.limit))
  | .time slot => inferInstanceAs (Decidable (slot.width < Text.limit))
  | .named _ _ slot => inferInstanceAs (Decidable (slot.width < Text.limit))
  | .ofTask _ _ => inferInstanceAs (Decidable (_ ∧ (_ ∨ _ ∧ _)))
  | .conditional _ _ _ _ => .isFalse id

namespace Template

variable {context : RenderContext} {slot : Slot} {t : Text}

theorem fit_of_lt {right : Bool} {width : Int} (hwidth : 0 ≤ width) (hlimit : width < Text.limit) :
    fit right width t = .ok (Text.filled right width.toNat t) := by
  rw [fit_eq hwidth]
  exact if_pos hlimit

theorem inSlot_of_pos (hwidth : 0 < slot.width) (hlimit : slot.width < Text.limit) :
    inSlot slot t = .ok (Text.filled slot.right slot.width.toNat t) := by
  rw [inSlot, if_pos hwidth, fit_of_lt hwidth.le hlimit]

/-- A text that there can be is put in any slot that there can be. -/
theorem exists_inSlot (hlimit : slot.width < Text.limit) (ht : (t.length : Int) < Text.limit) :
    ∃ u, inSlot slot t = .ok u := by
  by_cases hwidth : 0 < slot.width
  · exact ⟨_, inSlot_of_pos hwidth hlimit⟩
  · rw [inSlot, if_neg hwidth]
    exact ⟨_, fit_of_lt (Int.natCast_nonneg _) ht⟩

/-- A project without a width of its own is shown as a whole. -/
theorem renderField_project {n : Nat} {r : Record} {p : Text} {right : Bool}
    (hcontext : context.projectWidth = n) (hlimit : (n : Int) < Text.limit)
    (hp : projectText? r.project = some p) (hle : p.length ≤ n) :
    renderField context (some r) (.ofTask .project ⟨0, right⟩) =
      .ok (if right then List.replicate (n - p.length) ' ' ++ p
        else p ++ List.replicate (n - p.length) ' ') := by
  rw [renderField, Option.bind_some, projectText_of_text hp, if_pos rfl, hcontext,
    fit_of_lt (Int.natCast_nonneg n) hlimit, Int.toNat_natCast, Text.filled_of_length_le hle]

theorem exists_attributeText (a : Attribute) {r : Record} (hdue : r.HasShownDue context.now) :
    ∃ t, attributeText context a r = .ok t := by
  cases a with
  | due =>
      rw [attributeText]
      split
      next => exact ⟨_, rfl⟩
      next hset =>
        obtain ⟨d, hd⟩ := hdue.resolve_left hset
        rw [Moment.shown, if_neg hset, hd]
        exact ⟨_, rfl⟩
  | _ => exact ⟨_, rfl⟩

/-- An attribute in a slot with a width takes the width. -/
theorem renderField_wide {a : Attribute} {r : Record} {p : Text} (hwidth : 0 < slot.width)
    (hlimit : slot.width < Text.limit) (hp : projectText? r.project = some p)
    (hdue : r.HasShownDue context.now) :
    ∃ u, renderField context (some r) (.ofTask a slot) = .ok u ∧ u.length = slot.width.toNat := by
  by_cases ha : a = .project
  · subst ha
    rw [renderField, Option.bind_some, projectText_of_text hp, if_neg hwidth.ne',
      inSlot_of_pos hwidth hlimit]
    exact ⟨_, rfl, Text.length_filled⟩
  · obtain ⟨t, ht⟩ : ∃ t, attributeText context a r = .ok t := exists_attributeText a hdue
    exact ⟨_, (renderField_ofTask_eq_ok ha).2 ⟨t, ht, inSlot_of_pos hwidth hlimit⟩,
      Text.length_filled⟩

end Template

/-! ## Lines -/

namespace Store

/-- The tasks whose due dates a clock can show have texts of one length. -/
def OneLength (s : Store) (now : Clock) (text : Record → Except Crash Text) : Prop :=
  ∃ k, ∀ r ∈ s, r.HasShownDue now → ∃ u, text r = .ok u ∧ u.length = k

variable {s : Store} {now : Clock} {text more both : Record → Except Crash Text}

theorem OneLength.const {u : Text} (h : ∀ r, text r = .ok u) : s.OneLength now text :=
  ⟨u.length, fun r _ _ => ⟨u, h r, rfl⟩⟩

/-- Texts of one length before texts of one length make texts of one length. -/
theorem OneLength.append (h : s.OneLength now text) (hmore : s.OneLength now more)
    (hboth : ∀ r u v, text r = .ok u → more r = .ok v → both r = .ok (u ++ v)) :
    s.OneLength now both := by
  obtain ⟨k, hk⟩ := h
  obtain ⟨l, hl⟩ := hmore
  refine ⟨k + l, fun r hr hdue => ?_⟩
  obtain ⟨u, hu, rfl⟩ := hk r hr hdue
  obtain ⟨v, hv, rfl⟩ := hl r hr hdue
  exact ⟨u ++ v, hboth r u v hu hv, List.length_append⟩

end Store

namespace Session

variable {w : World} {n : Nat}

section

variable (hheld : w.Holdable) (hlimit : (n : Int) < Text.limit)
  (hle : ∀ r ∈ w.session.store, ∃ t, projectText? r.project = some t ∧ t.length ≤ n)

include hheld hlimit hle

/-- A column takes the same room for every task. -/
theorem oneLength_column {f : Field} (hf : f.IsColumn) :
    w.session.store.OneLength w.host.now fun r =>
      renderField ⟨w.session.variableTable, n, w.host.now⟩ (some r) f := by
  cases f with
  | literal t => exact .const fun r => by rw [renderField]
  | date slot =>
      obtain ⟨u, hu⟩ := exists_inSlot hf hheld.date
      exact .const fun r => by rw [renderField, hu]
  | time slot =>
      obtain ⟨u, hu⟩ := exists_inSlot hf hheld.time
      exact .const fun r => by rw [renderField, hu]
  | named name kind slot =>
      obtain ⟨t, ht, hshort⟩ := exists_valueText hheld name
      obtain ⟨u, hu⟩ := exists_inSlot hf hshort
      exact .const fun r => renderField_named_eq_ok.2 ⟨t, ht, hu⟩
  | ofTask a slot =>
      obtain ⟨hslot, hwide | ⟨rfl, hzero⟩⟩ := hf
      · refine ⟨slot.width.toNat, fun r hr hdue => ?_⟩
        obtain ⟨p, hp, -⟩ := hle r hr
        exact renderField_wide hwide hslot hp hdue
      · refine ⟨n, fun r hr _ => ?_⟩
        obtain ⟨p, hp, hpn⟩ := hle r hr
        obtain ⟨width, right⟩ := slot
        obtain rfl : width = 0 := hzero
        -- nothing is cut off, since no project is longer than the longest one
        refine ⟨_, renderField_project rfl hlimit hp hpn, ?_⟩
        split <;> rw [List.length_append, List.length_replicate] <;> omega
  | conditional cs ps ns slot => exact absurd hf id

/-- Columns next to each other take the same room for every task. -/
theorem oneLength_columns {fs : List Field} (hfs : ∀ f ∈ fs, f.IsColumn) :
    w.session.store.OneLength w.host.now fun r =>
      renderFields ⟨w.session.variableTable, n, w.host.now⟩ (some r) fs := by
  induction fs with
  | nil => exact .const fun r => by rw [renderFields]
  | cons f fs ih =>
      obtain ⟨hf, hmore⟩ := List.forall_mem_cons.1 hfs
      refine (oneLength_column hheld hlimit hle hf).append (ih hmore) ?_
      intro r u v hu hv
      exact renderFields_cons_eq_ok.2 ⟨u, v, hu, hv, rfl⟩

end

/-- In a session whose projects are texts, a project without a width of its own is shown as a whole,
with as many spaces on one side as it is shorter than the longest one.  The lines of a template that
is made of columns have the same length for all tasks whose due dates can be shown. -/
theorem tasks_lineUp (w : World) (hnamed : ∀ r ∈ w.session.store, r.hasNamedProject = true)
    (hheld : w.Holdable) :
    ∃ n : Nat, w.session.store.projectWidth = .ok n ∧
      let c : RenderContext := ⟨w.session.variableTable, n, w.host.now⟩
      effect context w = (.ok c, w) ∧
        (∀ r ∈ w.session.store, ∃ p room, projectText? r.project = some p ∧ p.length + room = n ∧
          ∀ right, renderField c (some r) (.ofTask .project ⟨0, right⟩) =
            .ok (if right then List.replicate room ' ' ++ p else p ++ List.replicate room ' ')) ∧
        ∀ template : Template, (∀ f ∈ template.fields, f.IsColumn) →
          ∃ length, ∀ r ∈ w.session.store, r.HasShownDue w.host.now →
            ∃ line, template.render c (some r) = .ok line ∧ line.length = length := by
  obtain ⟨n, hn, hle, hmax⟩ := Store.projectWidth_spec hnamed
  have hlimit : (n : Int) < Text.limit := by
    rcases hmax with rfl | ⟨r, hr, p, hp, rfl⟩
    · decide
    · exact hheld.projects r hr p hp
  refine ⟨n, hn, ?_, ?_, ?_⟩
  · rw [effect_context, hn]
  · intro r hr
    obtain ⟨p, hp, hpn⟩ := hle r hr
    exact ⟨p, n - p.length, hp, Nat.add_sub_cancel' hpn,
      fun right => renderField_project rfl hlimit hp hpn⟩
  · intro template hcolumns
    exact oneLength_columns hheld hlimit hle hcolumns

/-- A session with a task in a project and one in none. -/
def twoTasks : World :=
  let w := (Session.create { commandFile := .ofText "rc" }
    { files := fun _ _ => FileTree.system [], now := .universal 2024 6 1 9 30 }).2
  { w with session := { w.session with store :=
      [{ uuid := "a", description := "Water plants", project := some (.name "home") },
        { uuid := "b", description := "Write", due := 1718450000 }] } }

/-- The project, the start of the description and the due date, each in a column of its own. -/
def columns : Template :=
  ⟨" $project $5description $-7due",
    [.literal " ", .ofTask .project {}, .literal " ", .ofTask .description ⟨5, false⟩, .literal " ",
      .ofTask .due ⟨7, true⟩]⟩

/-- The lines of two tasks that differ in every column have the same length. -/
theorem tasks_lineUp_twoTasks :
    Template.compile variableNames columns.source = .ok columns ∧
      ∃ length, ∀ r ∈ twoTasks.session.store,
        ∃ line, columns.render ⟨twoTasks.session.variableTable, 4, twoTasks.host.now⟩ (some r) =
          .ok line ∧ line.length = length := by
  have hnamed : ∀ r ∈ twoTasks.session.store, r.hasNamedProject = true := by decide
  have hprojects : ∀ r ∈ twoTasks.session.store,
      (projectText? r.project).all (fun t => decide ((t.length : Int) < Text.limit)) = true := by
    decide
  have hvalues : ∀ v ∈ twoTasks.session.variableTable,
      v.valueText.toOption.all (fun t => decide ((t.length : Int) < Text.limit)) = true := by
    decide +kernel
  have hheld : twoTasks.Holdable := by
    refine ⟨?_, ?_, by decide, by decide⟩
    · intro r hr t ht
      exact of_decide_eq_true ((Option.all_eq_true _ _).1 (hprojects r hr) t ht)
    · intro v hv t ht
      have ht : v.valueText.toOption = some t := by rw [ht]; rfl
      exact of_decide_eq_true ((Option.all_eq_true _ _).1 (hvalues v hv) t ht)
  have hdue : ∀ r ∈ twoTasks.session.store, r.HasShownDue twoTasks.host.now := by
    refine List.forall_mem_cons.2 ⟨.inl rfl, List.forall_mem_singleton.2 (.inr ⟨⟨2024, 6, 15⟩, ?_⟩)⟩
    decide +kernel
  obtain ⟨n, hn, -, -, hlines⟩ := tasks_lineUp twoTasks hnamed hheld
  obtain rfl : 4 = n := by
    have hfour : twoTasks.session.store.projectWidth.toOption = some 4 := by decide
    rw [hn] at hfour
    exact (Option.some.inj hfour).symm
  obtain ⟨length, hlength⟩ := hlines columns (by decide)
  exact ⟨rfl, length, fun r hr => hlength r hr (hdue r hr)⟩

end Session

end TaskBrowser
