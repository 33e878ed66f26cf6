import TaskBrowser.Proofs.Template.Aligning
import TaskBrowser.Proofs.Template.Width
import TaskBrowser.Proofs.Text.Decimal

/-!
# The characters of a line

A line is made of literal text, of the texts of its task, of the values of variables, and of
numbers, dates and spaces.  Numbers and dates have no other characters than those of ASCII from the
space to the tilde.  So a kind of character that these belong to, and that literal text, task and
variables have no others than, is the kind of every character of the line (`of_mem_render`).

Literal text is found in the format text (`of_mem_compileFrom`), however the marks in it are read.
-/

namespace TaskBrowser

namespace Text

/-! ## Numbers and dates -/

/-- Whether a character is one of those from the space to the tilde. -/
def isAsciiPrinting (c : Char) : Bool := ' ' ≤ c && c ≤ '~'

theorem isAsciiPrinting_digitChar (n : Nat) : isAsciiPrinting (digitChar n) = true := by
  have h : ∀ k < 10, isAsciiPrinting (Char.ofNat ('0'.toNat + k)) = true := by decide
  exact h (n % 10) (Nat.mod_lt n (by decide))

theorem all_digitsUpTo {acc : Text} (hacc : acc.all isAsciiPrinting = true) (bound n : Nat) :
    (digitsUpTo bound n acc).all isAsciiPrinting = true := by
  induction bound generalizing n acc with
  | zero => exact hacc
  | succ bound ih =>
      have hcons : (digitChar n :: acc).all isAsciiPrinting = true := by
        rw [List.all_cons, isAsciiPrinting_digitChar, hacc]
        rfl
      rw [digitsUpTo]
      split
      · exact hcons
      · exact ih hcons _

@[simp] theorem all_ofNat (n : Nat) : (ofNat n).all isAsciiPrinting = true :=
  all_digitsUpTo rfl _ n

@[simp] theorem all_ofInt (n : Int) : (ofInt n).all isAsciiPrinting = true := by
  cases n with
  | ofNat n => exact all_ofNat n
  | negSucc n =>
      rw [ofInt, List.all_cons, all_ofNat]
      decide

@[simp] theorem all_zeroFilled (w n : Nat) : (zeroFilled w n).all isAsciiPrinting = true := by
  rw [zeroFilled, List.all_append, all_ofNat, Bool.and_true, List.all_replicate]
  split
  · rfl
  · decide

end Text

open Text

@[simp] theorem Date.all_monthName (m : Nat) : (monthName m).all isAsciiPrinting = true := by
  have hnames : (monthNames.all fun t => t.all isAsciiPrinting) = true := by decide
  rw [monthName, List.getD_eq_getElem?_getD]
  cases h : monthNames[m - 1]? with
  | none => rfl
  | some t => exact List.all_eq_true.1 hnames t (List.mem_of_getElem? h)

namespace Moment

@[simp] theorem all_shortDate (d : Date) : (shortDate d).all isAsciiPrinting = true := by
  have hspace : (" " : Text).all isAsciiPrinting = true := by decide
  simp only [shortDate, List.all_append, Date.all_monthName, hspace, all_zeroFilled, Bool.and_self]

theorem all_fullDate (d : Date) : (fullDate d).all isAsciiPrinting = true := by
  have hdash : ("-" : Text).all isAsciiPrinting = true := by decide
  simp only [fullDate, List.all_append, all_ofInt, hdash, all_zeroFilled, Bool.and_self]

theorem all_shown {t : Int} {now : Clock} {u : Text} (h : shown t now = .ok u) :
    u.all isAsciiPrinting = true := by
  rw [shown] at h
  split at h
  · obtain rfl := Except.ok.inj h
    exact all_shortDate now.date
  · cases hdate : date now.offset t with
    | error e => rw [hdate] at h; cases h
    | ok d =>
        rw [hdate] at h
        obtain rfl := Except.ok.inj h
        rw [dateIn]
        split
        · exact all_shortDate d
        · exact all_fullDate d

end Moment

theorem Clock.all_time (c : Clock) : c.time.all isAsciiPrinting = true := by
  have hcolon : (":" : Text).all isAsciiPrinting = true := by decide
  simp only [time, List.all_append, hcolon, all_zeroFilled, Bool.and_self]

/-! ## Tasks, variables and literal text -/

/-- The name of a project that has one. -/
def Project.name? : Project → Option Text
  | .name t => some t
  | .raw _ => none

/-- The texts of a task that a line can show. -/
def Record.texts (r : Record) : List Text :=
  r.uuid :: r.description :: (r.priority.toList ++ (r.project.bind Project.name?).toList)

namespace Field

mutual

/-- The literal text that a field can show.  A condition is not shown. -/
def literalText : Field → Text
  | .literal t => t
  | .conditional _ p n _ => literalTexts p ++ literalTexts n
  | _ => []

/-- The literal text that fields can show. -/
def literalTexts : List Field → Text
  | [] => []
  | f :: fs => literalText f ++ literalTexts fs

end

@[simp] theorem literalTexts_append (fs gs : List Field) :
    literalTexts (fs ++ gs) = literalTexts fs ++ literalTexts gs := by
  induction fs with
  | nil => rfl
  | cons f fs ih => rw [List.cons_append, literalTexts, literalTexts, ih, List.append_assoc]

end Field

namespace Template

/-- What a line shows besides literal text has only characters of one kind. -/
structure Supplies (P : Char → Prop) (context : RenderContext) (record : Option Record) : Prop where
  /-- Numbers, dates and spaces. -/
  printing : ∀ c, isAsciiPrinting c = true → P c
  /-- The values of variables. -/
  values : ∀ name t, context.table.valueText name = .ok t → ∀ c ∈ t, P c
  /-- The texts of the task. -/
  task : ∀ r, record = some r → ∀ t ∈ r.texts, ∀ c ∈ t, P c

variable {P : Char → Prop} {context : RenderContext} {record : Option Record} {t u : Text}

namespace Supplies

theorem of_all (h : Supplies P context record) (ht : t.all isAsciiPrinting = true) :
    ∀ c ∈ t, P c :=
  fun c hc => h.printing c (List.all_eq_true.1 ht c hc)

/-- A text in a slot has its own characters and spaces. -/
theorem fit (h : Supplies P context record) {right : Bool} {width : Int} (ht : ∀ c ∈ t, P c)
    (hu : fit right width t = .ok u) : ∀ c ∈ u, P c := by
  intro c hc
  rcases mem_fit hu hc with hc | rfl
  · exact ht c hc
  · exact h.printing ' ' (by decide)

theorem inSlot (h : Supplies P context record) {slot : Slot} (ht : ∀ c ∈ t, P c)
    (hu : inSlot slot t = .ok u) : ∀ c ∈ u, P c := h.fit ht hu

theorem projectText (h : Supplies P context record) {slot : Slot}
    (hu : projectText context slot (record.bind Record.project) = .ok u) : ∀ c ∈ u, P c := by
  have hput {t : Text} (ht : ∀ c ∈ t, P c)
      (hu : (if slot.width = 0 then Template.fit slot.right context.projectWidth t
        else Template.inSlot slot t) = .ok u) : ∀ c ∈ u, P c := by
    split at hu
    · exact h.fit ht hu
    · exact h.inSlot ht hu
  cases hproject : record.bind Record.project with
  | none =>
      rw [hproject] at hu
      exact hput (List.forall_mem_nil P) hu
  | some p =>
      rw [hproject] at hu
      cases p with
      | name t =>
          obtain ⟨r, hr, hp⟩ := Option.bind_eq_some_iff.1 hproject
          refine hput (h.task r hr t ?_) hu
          simp [Record.texts, hp, Project.name?]
      | raw v =>
          rw [Template.projectText] at hu
          dsimp only at hu
          split at hu
          · cases hu
          · exact hput (List.forall_mem_nil P) hu

theorem attributeText (h : Supplies P context record) {a : Attribute} {r : Record}
    (hr : record = some r) (ht : attributeText context a r = .ok t) : ∀ c ∈ t, P c := by
  cases a with
  | description =>
      obtain rfl := Except.ok.inj ht
      exact h.task r hr _ (by simp [Record.texts])
  | due =>
      rw [Template.attributeText] at ht
      split at ht
      · obtain rfl := Except.ok.inj ht
        exact h.of_all (by decide)
      · exact h.of_all (Moment.all_shown ht)
  | priority =>
      obtain rfl := Except.ok.inj ht
      cases hpriority : r.priority with
      | none => exact nofun
      | some t => exact h.task r hr t (by simp [Record.texts, hpriority])
  | uuid =>
      obtain rfl := Except.ok.inj ht
      exact h.task r hr _ (by simp [Record.texts])
  | index =>
      obtain rfl := Except.ok.inj ht
      exact h.of_all (all_ofInt r.index)
  | project =>
      obtain rfl := Except.ok.inj ht
      exact nofun

end Supplies

/-! ## Lines -/

mutual

/-- Every character of a field is of the kind that its literal text and all else that it shows are
of. -/
theorem of_mem_renderField (h : Supplies P context record) :
    ∀ {f : Field} {t : Text}, (∀ c ∈ f.literalText, P c) →
      renderField context record f = .ok t → ∀ c ∈ t, P c
  | .literal u, t, hf, ht => by
      rw [renderField] at ht
      obtain rfl := Except.ok.inj ht
      exact hf
  | .date slot, t, _, ht => by
      rw [renderField] at ht
      exact h.inSlot (h.of_all (Moment.all_shortDate _)) ht
  | .time slot, t, _, ht => by
      rw [renderField] at ht
      exact h.inSlot (h.of_all (Clock.all_time _)) ht
  | .named name kind slot, t, _, ht => by
      obtain ⟨u, hvalue, ht⟩ := renderField_named_eq_ok.1 ht
      exact h.inSlot (h.values name u hvalue) ht
  | .ofTask a slot, t, _, ht => by
      by_cases hproject : a = .project
      · subst hproject
        rw [renderField] at ht
        exact h.projectText ht
      · rcases hr : record with _ | r
        · rw [hr, renderField.eq_6 _ _ _ hproject] at ht
          exact h.inSlot (List.forall_mem_nil P) ht
        · rw [hr] at ht
          obtain ⟨u, hattribute, ht⟩ := (renderField_ofTask_eq_ok hproject).1 ht
          exact h.inSlot (h.attributeText hr hattribute) ht
  | .conditional condition positive negative slot, t, hf, ht => by
      rw [Field.literalText, List.forall_mem_append] at hf
      obtain ⟨c, u, -, hu, ht⟩ := renderField_conditional_eq_ok.1 ht
      refine h.inSlot ?_ ht
      split at hu
      · exact of_mem_renderFields h hf.1 hu
      · exact of_mem_renderFields h hf.2 hu

theorem of_mem_renderFields (h : Supplies P context record) :
    ∀ {fs : List Field} {t : Text}, (∀ c ∈ Field.literalTexts fs, P c) →
      renderFields context record fs = .ok t → ∀ c ∈ t, P c
  | [], t, _, ht => by
      rw [renderFields] at ht
      obtain rfl := Except.ok.inj ht
      exact nofun
  | f :: fs, t, hfs, ht => by
      rw [Field.literalTexts, List.forall_mem_append] at hfs
      obtain ⟨u, v, hfield, hmore, rfl⟩ := renderFields_cons_eq_ok.1 ht
      exact List.forall_mem_append.2
        ⟨of_mem_renderField h hfs.1 hfield, of_mem_renderFields h hfs.2 hmore⟩

end

/-! ## Format texts -/

section Results

variable {α β ε : Type} {x : Except ε α}

theorem map_eq_ok_iff {g : α → β} {b : β} : x.map g = .ok b ↔ ∃ a, x = .ok a ∧ g a = b := by
  cases x <;> simp [Except.map]

theorem bind_eq_ok_iff {f : α → Except ε β} {b : β} :
    x >>= f = .ok b ↔ ∃ a, x = .ok a ∧ f a = .ok b := by
  cases x <;> simp [bind, Except.bind]

end Results

variable {names : Names} {measure : Nat}

theorem literalTexts_flush (buffer : Text) :
    Field.literalTexts (flush buffer) = buffer.reverse := by
  rw [flush]
  split
  next h => rw [List.isEmpty_iff.1 h]; rfl
  next => rw [Field.literalTexts, Field.literalTexts, Field.literalText, List.append_nil]

theorem literalText_word (w : Word) (slot : Slot) : Field.literalText (w.field slot) = [] := by
  cases w <;> rfl

/-- The literal text of fields is found in the text that they are compiled from. -/
theorem of_mem_compileFrom :
    ∀ {buffer t : Text} {fs : List Field}, (∀ c ∈ buffer, P c) → (∀ c ∈ t, P c) →
      compileFrom names measure buffer t = .ok fs → ∀ c ∈ Field.literalTexts fs, P c := by
  have hflush {buffer : Text} (h : ∀ c ∈ buffer, P c) :
      ∀ c ∈ Field.literalTexts (flush buffer), P c := by
    rw [literalTexts_flush]
    exact fun c hc => h c (List.mem_reverse.1 hc)
  induction measure with
  | zero =>
      intro buffer t fs hbuffer _ h
      obtain rfl := Except.ok.inj h
      exact hflush hbuffer
  | succ measure ih =>
      intro buffer t fs hbuffer hall h
      cases t with
      | nil =>
          rw [compileFrom_nil] at h
          obtain rfl := Except.ok.inj h
          exact hflush hbuffer
      | cons d t =>
          obtain ⟨hd, ht⟩ := List.forall_mem_cons.1 hall
          by_cases hq : d = '?'
          · subst hq
            rw [compileFrom, if_pos rfl] at h
            split at h
            next =>
              obtain ⟨gs, hgs, rfl⟩ := map_eq_ok_iff.1 h
              rw [Field.literalTexts_append]
              exact List.forall_mem_append.2
                ⟨hflush hbuffer, ih (List.forall_mem_singleton.2 hd) ht hgs⟩
            next condition positive negative rest hparts =>
              obtain ⟨rfl, -⟩ := conditional?_eq_some_iff.1 hparts
              simp only [List.forall_mem_append, List.forall_mem_cons] at ht
              obtain ⟨-, -, hpositive, -, hnegative, -, hrest⟩ := ht
              obtain ⟨cs, -, h⟩ := bind_eq_ok_iff.1 h
              obtain ⟨ps, hps, h⟩ := bind_eq_ok_iff.1 h
              obtain ⟨ns, hns, h⟩ := bind_eq_ok_iff.1 h
              obtain ⟨gs, hgs, h⟩ := bind_eq_ok_iff.1 h
              obtain rfl := Except.ok.inj h
              have hnil := List.forall_mem_nil P
              simp only [Field.literalTexts_append, Field.literalTexts, Field.literalText,
                List.forall_mem_append]
              exact ⟨hflush hbuffer, ⟨ih hnil hpositive hps, ih hnil hnegative hns⟩,
                ih hnil hrest hgs⟩
          by_cases hdollar : d = '$'
          · subst hdollar
            cases hslot : readSlot t with
            | error e =>
                rw [compileFrom, if_neg hq, if_pos rfl, hslot] at h
                cases h
            | ok found =>
                obtain ⟨slot, rest⟩ := found
                have hrest : ∀ c ∈ rest, P c := fun c hc =>
                  ht c ((readSlot_suffix hslot).subset hc)
                rw [compileFrom_field hslot] at h
                split at h
                next w more hw =>
                  obtain ⟨gs, hgs, rfl⟩ := map_eq_ok_iff.1 h
                  obtain ⟨-, rfl⟩ := firstWord_eq_some hw
                  rw [Field.literalTexts_append, Field.literalTexts, literalText_word,
                    List.nil_append]
                  exact List.forall_mem_append.2 ⟨hflush hbuffer,
                    ih (List.forall_mem_nil P) (List.forall_mem_append.1 hrest).2 hgs⟩
                next =>
                  obtain ⟨gs, hgs, rfl⟩ := map_eq_ok_iff.1 h
                  rw [Field.literalTexts_append]
                  refine List.forall_mem_append.2 ⟨hflush hbuffer, ih ?_ ?_ hgs⟩
                  · refine List.forall_mem_append.2 ⟨?_, List.forall_mem_singleton.2 hd⟩
                    exact fun c hc => hrest c (List.mem_of_mem_take hc)
                  · exact fun c hc => hrest c (List.mem_of_mem_drop hc)
          · rw [compileFrom_plain hq hdollar] at h
            exact ih (List.forall_mem_cons.2 ⟨hd, hbuffer⟩) ht h

/-- Every character of a line is of the kind that its format text and what it shows are of. -/
theorem of_mem_render (h : Supplies P context record) {source : Text} (hsource : ∀ c ∈ source, P c)
    {template : Template} (htemplate : compile names source = .ok template)
    (ht : template.render context record = .ok t) : ∀ c ∈ t, P c := by
  obtain ⟨fs, hfs, rfl⟩ := map_eq_ok_iff.1 htemplate
  exact of_mem_renderFields h (of_mem_compileFrom (List.forall_mem_nil P) hsource hfs) ht

end Template

end TaskBrowser
