import TaskBrowser.Proofs.Template.Aligning

/-!
# The segments of a line

A line has one segment for each field of its template, in their order.  The segment of a literal is
its text.  Every other field has a text of its own, which is cut and filled up to the width of the
field's slot if it has one, and is the segment as it is if not.  The text of a conditional is that
of one of its two lists of fields, whose segments are told in the same way
(`Template.Segment`, `Template.Natural`, `Template.Segments`).

What is rendered is exactly that (`Template.renderFields_segments`).
-/

namespace TaskBrowser

/-- The slot of a field; a literal has none. -/
def Field.slot? : Field → Option Slot
  | .literal _ => none
  | .date slot => some slot
  | .time slot => some slot
  | .ofTask _ slot => some slot
  | .named _ _ slot => some slot
  | .conditional _ _ _ slot => some slot

namespace Template

/-! ## What a line consists of -/

/-- The text of a condition counts as true. -/
def IsTrue (t : Text) : Prop :=
  t ≠ [] ∧ ¬ ("0" : Text) <+: t ∧ ¬ (" " : Text) <+: t ∧ ¬ ("(null)" : Text) <+: t

theorem holds_iff {t : Text} : holds t = true ↔ IsTrue t := by
  cases t with
  | nil => exact iff_of_false (by decide) fun h => h.1 rfl
  | cons c t =>
      have hzero : ("0" : Text) <+: c :: t ↔ c = '0' := by
        simp [List.cons_prefix_cons, eq_comm]
      have hspace : (" " : Text) <+: c :: t ↔ c = ' ' := by
        simp [List.cons_prefix_cons, eq_comm]
      rw [IsTrue, hzero, hspace]
      simp only [holds, Text.startsWith, List.isEmpty_cons, List.head?_cons, Bool.and_eq_true,
        Bool.not_eq_true', bne_iff_ne, ne_eq, Option.some.injEq, reduceCtorEq, not_false_eq_true,
        ← List.isPrefixOf_iff_prefix, Bool.not_eq_true, true_and]
      tauto

/-- The text of a project, if it has one: no project has the empty text, and so has a value in its
place that counts as none. -/
def projectText? : Option Project → Option Text
  | none => some []
  | some (.name t) => some t
  | some (.raw v) => if v.holds then none else some []

section

variable (context : RenderContext) (record : Option Record)

mutual

/-- The text of a field that is no literal, before it is put in a slot. -/
inductive Natural : Field → Text → Prop where
  | date {slot : Slot} : Natural (.date slot) (Moment.shortDate context.now.date)
  | time {slot : Slot} : Natural (.time slot) context.now.time
  | named {name t : Text} {kind : VariableKind} {slot : Slot}
      (h : context.table.valueText name = .ok t) : Natural (.named name kind slot) t
  | project {t : Text} {slot : Slot} (h : projectText? (record.bind Record.project) = some t) :
      Natural (.ofTask .project slot) t
  | ofTask {a : Attribute} {r : Record} {t : Text} {slot : Slot} (ha : a ≠ .project)
      (hr : record = some r) (h : attributeText context a r = .ok t) : Natural (.ofTask a slot) t
  | ofNone {a : Attribute} {slot : Slot} (ha : a ≠ .project) (hr : record = none) :
      Natural (.ofTask a slot) []
  | positive {cs ps ns : List Field} {slot : Slot} {conditions us : List Text}
      (hcs : Segments cs conditions) (htrue : IsTrue conditions.flatten) (hps : Segments ps us) :
      Natural (.conditional cs ps ns slot) us.flatten
  | negative {cs ps ns : List Field} {slot : Slot} {conditions us : List Text}
      (hcs : Segments cs conditions) (hfalse : ¬ IsTrue conditions.flatten)
      (hns : Segments ns us) : Natural (.conditional cs ps ns slot) us.flatten

/-- What a field contributes to a line. -/
inductive Segment : Field → Text → Prop where
  | literal {t : Text} : Segment (.literal t) t
  | wide {f : Field} {slot : Slot} {t : Text} (hslot : f.slot? = some slot)
      (hwidth : 0 < slot.width) (ht : Natural f t) :
      Segment f (Text.filled slot.right slot.width.toNat t)
  | project {slot : Slot} {t : Text} (hwidth : slot.width = 0)
      (ht : Natural (.ofTask .project slot) t) :
      Segment (.ofTask .project slot) (Text.filled slot.right context.projectWidth.toNat t)
  | natural {f : Field} {slot : Slot} {t : Text} (hslot : f.slot? = some slot)
      (hwidth : slot.width ≤ 0) (hproject : slot.width = 0 → f ≠ .ofTask .project slot)
      (ht : Natural f t) : Segment f t

/-- What fields contribute to a line, each in its turn. -/
inductive Segments : List Field → List Text → Prop where
  | nil : Segments [] []
  | cons {f : Field} {fs : List Field} {u : Text} {us : List Text} (h : Segment f u)
      (hmore : Segments fs us) : Segments (f :: fs) (u :: us)

end

end

variable {context : RenderContext} {record : Option Record} {f : Field} {fs : List Field}
  {slot : Slot} {t u : Text}

/-! ## Slots -/

/-- A slot of no width leaves a text as it is. -/
theorem eq_of_inSlot (hwidth : slot.width ≤ 0) (h : inSlot slot t = .ok u) : u = t := by
  rw [inSlot, if_neg (not_lt.2 hwidth)] at h
  rw [eq_filled_of_fit (Int.natCast_nonneg _) h, Int.toNat_natCast, Text.filled_length]

theorem eq_filled_of_inSlot (hwidth : 0 < slot.width) (h : inSlot slot t = .ok u) :
    u = Text.filled slot.right slot.width.toNat t := by
  rw [inSlot, if_pos hwidth] at h
  exact eq_filled_of_fit hwidth.le h

/-- A field whose text is put in its slot has the outcome as its only segment. -/
theorem segment_iff_of_inSlot (hslot : f.slot? = some slot)
    (hproject : slot.width = 0 → f ≠ .ofTask .project slot)
    (hnatural : ∀ v, Natural context record f v ↔ v = t) (h : inSlot slot t = .ok u) (v : Text) :
    Segment context record f v ↔ v = u := by
  constructor
  · intro hv
    cases hv with
    | literal => cases hslot
    | wide hslot' hwidth ht =>
        cases hslot.symm.trans hslot'
        obtain rfl := (hnatural _).1 ht
        rw [eq_filled_of_inSlot hwidth h]
    | project hwidth ht =>
        cases hslot
        exact absurd rfl (hproject hwidth)
    | natural hslot' hwidth _ ht =>
        cases hslot.symm.trans hslot'
        obtain rfl := (hnatural _).1 ht
        rw [eq_of_inSlot hwidth h]
  · rintro rfl
    have ht := (hnatural t).2 rfl
    by_cases hwidth : 0 < slot.width
    · rw [eq_filled_of_inSlot hwidth h]
      exact .wide hslot hwidth ht
    · rw [eq_of_inSlot (not_lt.1 hwidth) h]
      exact .natural hslot (not_lt.1 hwidth) hproject ht

/-! ## Projects -/

theorem natural_project_iff (v : Text) :
    Natural context record (.ofTask .project slot) v ↔
      projectText? (record.bind Record.project) = some v := by
  constructor
  · intro h
    cases h with
    | project h => exact h
    | ofTask ha => exact absurd rfl ha
    | ofNone ha => exact absurd rfl ha
  · exact .project

/-- A project with a text is put in its slot, or in one of the width of the longest project. -/
theorem projectText_of_text {p : Option Project} (h : projectText? p = some t) :
    projectText context slot p =
      if slot.width = 0 then fit slot.right context.projectWidth t else inSlot slot t := by
  rcases p with _ | (t | v)
  · cases h
    rfl
  · cases h
    rfl
  · rw [projectText?] at h
    split at h
    next => cases h
    next hv =>
      cases h
      rw [projectText]
      dsimp only
      rw [if_neg hv]

/-- Only a project with a text can be put in a slot. -/
theorem exists_text_of_projectText {p : Option Project} (h : projectText context slot p = .ok u) :
    ∃ t, projectText? p = some t := by
  rcases p with _ | (t | v)
  · exact ⟨[], rfl⟩
  · exact ⟨t, rfl⟩
  · rw [projectText] at h
    dsimp only at h
    split at h
    next => cases h
    next hv => exact ⟨[], if_neg hv⟩

theorem segment_project_iff (hcontext : 0 ≤ context.projectWidth)
    (h : projectText context slot (record.bind Record.project) = .ok u) (v : Text) :
    Segment context record (.ofTask .project slot) v ↔ v = u := by
  obtain ⟨t, ht⟩ := exists_text_of_projectText h
  rw [projectText_of_text ht] at h
  have hnatural (v : Text) : Natural context record (.ofTask .project slot) v ↔ v = t := by
    rw [natural_project_iff, ht, Option.some.injEq, eq_comm]
  by_cases hwidth : slot.width = 0
  · rw [if_pos hwidth] at h
    rw [eq_filled_of_fit hcontext h]
    constructor
    · intro hv
      cases hv with
      | wide hslot hpositive =>
          cases hslot
          omega
      | project _ ht =>
          obtain rfl := (hnatural _).1 ht
          rfl
      | natural hslot _ hproject =>
          cases hslot
          exact absurd rfl (hproject hwidth)
    · rintro rfl
      exact .project hwidth ((hnatural t).2 rfl)
  · rw [if_neg hwidth] at h
    exact segment_iff_of_inSlot rfl (fun hzero => absurd hzero hwidth) hnatural h v

/-! ## Other attributes -/

section

variable {a : Attribute} (ha : a ≠ .project)

include ha

theorem natural_ofTask_iff {r : Record} (ht : attributeText context a r = .ok t) (v : Text) :
    Natural context (some r) (.ofTask a slot) v ↔ v = t := by
  constructor
  · intro hv
    cases hv with
    | project => exact absurd rfl ha
    | ofTask _ hr hv =>
        cases hr
        exact Except.ok.inj (hv.symm.trans ht)
    | ofNone _ hr => cases hr
  · rintro rfl
    exact .ofTask ha rfl ht

theorem natural_ofNone_iff (v : Text) : Natural context none (.ofTask a slot) v ↔ v = [] := by
  constructor
  · intro hv
    cases hv with
    | project => exact absurd rfl ha
    | ofTask _ hr => cases hr
    | ofNone => rfl
  · rintro rfl
    exact .ofNone ha rfl

end

/-! ## Conditionals -/

section

variable {cs ps ns : List Field} {conditions us : List Text}
  (hcs : ∀ vs, Segments context record cs vs ↔ vs = conditions)

include hcs

theorem natural_positive_iff (htrue : IsTrue conditions.flatten)
    (hps : ∀ vs, Segments context record ps vs ↔ vs = us) (v : Text) :
    Natural context record (.conditional cs ps ns slot) v ↔ v = us.flatten := by
  constructor
  · intro hv
    cases hv with
    | positive _ _ hv => rw [(hps _).1 hv]
    | negative hcondition hfalse =>
        obtain rfl := (hcs _).1 hcondition
        exact absurd htrue hfalse
  · rintro rfl
    exact .positive ((hcs _).2 rfl) htrue ((hps _).2 rfl)

theorem natural_negative_iff (hfalse : ¬ IsTrue conditions.flatten)
    (hns : ∀ vs, Segments context record ns vs ↔ vs = us) (v : Text) :
    Natural context record (.conditional cs ps ns slot) v ↔ v = us.flatten := by
  constructor
  · intro hv
    cases hv with
    | positive hcondition htrue =>
        obtain rfl := (hcs _).1 hcondition
        exact absurd htrue hfalse
    | negative _ _ hv => rw [(hns _).1 hv]
  · rintro rfl
    exact .negative ((hcs _).2 rfl) hfalse ((hns _).2 rfl)

end

/-! ## Lines -/

mutual

/-- What a field is rendered as is its only segment. -/
theorem segment_iff (hcontext : 0 ≤ context.projectWidth) :
    ∀ {f : Field} {t : Text}, renderField context record f = .ok t →
      ∀ v, Segment context record f v ↔ v = t
  | .literal u, t, h => by
      rw [renderField] at h
      obtain rfl := Except.ok.inj h
      intro v
      constructor
      · intro hv
        cases hv with
        | literal => rfl
        | wide hslot => cases hslot
        | natural hslot => cases hslot
      · rintro rfl
        exact .literal
  | .date slot, t, h => by
      rw [renderField] at h
      refine segment_iff_of_inSlot rfl (fun _ => nofun) (fun v => ⟨?_, ?_⟩) h
      · rintro ⟨⟩
        rfl
      · rintro rfl
        exact .date
  | .time slot, t, h => by
      rw [renderField] at h
      refine segment_iff_of_inSlot rfl (fun _ => nofun) (fun v => ⟨?_, ?_⟩) h
      · rintro ⟨⟩
        rfl
      · rintro rfl
        exact .time
  | .named name kind slot, t, h => by
      obtain ⟨u, hvalue, h⟩ := renderField_named_eq_ok.1 h
      refine segment_iff_of_inSlot rfl (fun _ => nofun) (fun v => ⟨?_, ?_⟩) h
      · intro hv
        cases hv with
        | named hv => exact Except.ok.inj (hv.symm.trans hvalue)
      · rintro rfl
        exact .named hvalue
  | .ofTask a slot, t, h => by
      -- only a project without a width has a slot that is not its own
      by_cases ha : a = .project
      · subst ha
        rw [renderField] at h
        exact segment_project_iff hcontext h
      have hfield : slot.width = 0 → Field.ofTask a slot ≠ .ofTask .project slot :=
        fun _ heq => ha (Field.ofTask.inj heq).1
      rcases hr : record with _ | r
      · rw [hr, renderField.eq_6 _ _ _ ha] at h
        exact segment_iff_of_inSlot rfl hfield (natural_ofNone_iff ha) h
      · rw [hr] at h
        obtain ⟨u, hattribute, h⟩ := (renderField_ofTask_eq_ok ha).1 h
        exact segment_iff_of_inSlot rfl hfield (natural_ofTask_iff ha hattribute) h
  | .conditional condition positive negative slot, t, h => by
      obtain ⟨c, u, hcondition, hu, h⟩ := renderField_conditional_eq_ok.1 h
      obtain ⟨conditions, rfl, hconditions⟩ := segments_iff hcontext hcondition
      -- the condition has one text only, so that only one of the two parts can be shown
      refine segment_iff_of_inSlot rfl (fun _ => nofun) ?_ h
      by_cases htrue : holds conditions.flatten = true
      · rw [if_pos htrue] at hu
        obtain ⟨us, rfl, hus⟩ := segments_iff hcontext hu
        exact natural_positive_iff hconditions (holds_iff.1 htrue) hus
      · rw [if_neg htrue] at hu
        obtain ⟨us, rfl, hus⟩ := segments_iff hcontext hu
        exact natural_negative_iff hconditions (mt holds_iff.2 htrue) hus

/-- What fields are rendered as is made of their segments, of which there are no others. -/
theorem segments_iff (hcontext : 0 ≤ context.projectWidth) :
    ∀ {fs : List Field} {t : Text}, renderFields context record fs = .ok t →
      ∃ us : List Text, t = us.flatten ∧ ∀ vs, Segments context record fs vs ↔ vs = us
  | [], t, h => by
      rw [renderFields] at h
      obtain rfl := Except.ok.inj h
      refine ⟨[], rfl, fun vs => ⟨?_, ?_⟩⟩
      · rintro ⟨⟩
        rfl
      · rintro rfl
        exact .nil
  | f :: fs, t, h => by
      obtain ⟨u, v, hfield, hmore, rfl⟩ := renderFields_cons_eq_ok.1 h
      have hu := segment_iff hcontext hfield
      obtain ⟨us, rfl, hus⟩ := segments_iff hcontext hmore
      refine ⟨u :: us, rfl, fun vs => ⟨?_, ?_⟩⟩
      · intro hvs
        cases hvs with
        | cons hv hvs => rw [(hu _).1 hv, (hus _).1 hvs]
      · rintro rfl
        exact .cons ((hu u).2 rfl) ((hus us).2 rfl)

end

/-- A segment has the width of its field's slot. -/
theorem Segment.length_eq (h : Segment context record f u) (hslot : f.slot? = some slot)
    (hwidth : 0 < slot.width) : (u.length : Int) = slot.width := by
  cases h with
  | literal => cases hslot
  | wide hslot' _ _ =>
      cases hslot.symm.trans hslot'
      rw [Text.length_filled, Int.toNat_of_nonneg hwidth.le]
  | project hzero =>
      cases hslot
      omega
  | natural hslot' hnone =>
      cases hslot.symm.trans hslot'
      omega

theorem Segments.lengths {us : List Text} (h : Segments context record fs us) :
    List.Forall₂ (fun f u => ∀ slot, f.slot? = some slot → 0 < slot.width →
      (u.length : Int) = slot.width) fs us := by
  induction fs generalizing us with
  | nil =>
      cases h
      exact .nil
  | cons f fs ih =>
      cases h with
      | cons hu hmore => exact .cons (fun _ => hu.length_eq) (ih hmore)

/-- What fields are rendered as is made of one segment for each of them, and of no other segments
than these.  The segment of a field with a width has that width. -/
theorem renderFields_segments (hcontext : 0 ≤ context.projectWidth)
    (h : renderFields context record fs = .ok t) :
    ∃ us : List Text, t = us.flatten ∧ (∀ vs, Segments context record fs vs ↔ vs = us) ∧
      List.Forall₂ (fun f u => ∀ slot, f.slot? = some slot → 0 < slot.width →
        (u.length : Int) = slot.width) fs us := by
  obtain ⟨us, ht, hus⟩ := segments_iff hcontext h
  exact ⟨us, ht, hus, ((hus us).2 rfl).lengths⟩

/-- A conditional whose condition is a conditional: its slot puts a space before a text that counts
as true without it. -/
def nested : List Field :=
  [.conditional [.conditional [.ofTask .priority {}] [.literal "x"] [] ⟨2, true⟩]
      [.literal "yes"] [.ofTask .project {}, .literal "!"] ⟨4, true⟩,
    .ofTask .project {}]

/-- The negative part is shown, and cut to the width of its slot. -/
theorem renderFields_segments_nested :
    let context : RenderContext := ⟨[], 5, .universal 2024 6 1 9 30⟩
    let r : Record :=
      { uuid := "a", description := "b", project := some (.name "ab"), priority := some "H" }
    0 ≤ context.projectWidth ∧
      renderFields context (some r) nested = .ok "ab  ab   " ∧
      Segments context (some r) nested ["ab  ", "ab   "] := by
  dsimp only
  have hrendered : renderFields ⟨[], 5, .universal 2024 6 1 9 30⟩
      (some { uuid := "a", description := "b", project := some (.name "ab"), priority := some "H" })
      nested = .ok "ab  ab   " := rfl
  obtain ⟨us, ht, hus, hlengths⟩ := renderFields_segments (by decide) hrendered
  refine ⟨by decide, hrendered, (hus _).2 ?_⟩
  obtain ⟨u, more, hu, hmore, rfl⟩ := List.forall₂_cons_left_iff.1 hlengths
  obtain ⟨v, rest, -, hrest, rfl⟩ := List.forall₂_cons_left_iff.1 hmore
  obtain rfl := List.forall₂_nil_left_iff.1 hrest
  have hfour : (u.length : Int) = 4 := hu ⟨4, true⟩ rfl (by decide)
  have hsplit : ("ab  " : Text) ++ ("ab   " : Text) = u ++ v := by
    rw [List.flatten_cons, List.flatten_cons, List.flatten_nil, List.append_nil] at ht
    exact ht
  have hlength : ("ab  " : Text).length = u.length := Int.ofNat.inj hfour.symm
  obtain ⟨rfl, rfl⟩ := List.append_inj hsplit hlength
  rfl

end Template

end TaskBrowser
