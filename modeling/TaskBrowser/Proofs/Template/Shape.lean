import TaskBrowser.Proofs.Template.Characters
import TaskBrowser.Proofs.Variable

/-!
# The shape of compiled templates

A compiled template holds no empty literal and no negative width, and it names only variables that
the table has, with their kinds.  Its conditionals have no slot of their own; they have a condition
and something to show; and there are no conditionals inside of them, since a question mark would end
the part that it stands in (`Field.IsShaped`).

So a template is rendered in two levels: the parts of its conditionals are rendered while the
template is, and nothing is rendered inside of those (`Template.renderWithin`).

What the compiler does with a text is a relation here (`Template.Scan`), with a case for each thing
that it may find, and the properties are inductions over that relation.
-/

namespace TaskBrowser

namespace Field

/-- A field that is no conditional, as it is compiled with a table of variables. -/
inductive IsSimple (table : VariableTable) : Field → Prop
  /-- There are no empty literals. -/
  | literal {t : Text} (ht : t ≠ []) : IsSimple table (.literal t)
  | date {slot : Slot} (hwidth : 0 ≤ slot.width) : IsSimple table (.date slot)
  | time {slot : Slot} (hwidth : 0 ≤ slot.width) : IsSimple table (.time slot)
  | ofTask {a : Attribute} {slot : Slot} (hwidth : 0 ≤ slot.width) :
      IsSimple table (.ofTask a slot)
  /-- A variable is one of the table and has the kind that it has there. -/
  | named {name : Text} {slot : Slot} {v : Variable} (hv : table.find? name = some v)
      (hwidth : 0 ≤ slot.width) : IsSimple table (.named name v.kind slot)

/-- A field as it is compiled with a table of variables. -/
inductive IsShaped (table : VariableTable) : Field → Prop
  | simple {f : Field} (h : IsSimple table f) : IsShaped table f
  /-- A conditional asks and shows something, has no slot, and holds no conditional. -/
  | conditional {cs ps ns : List Field} (hasks : cs ≠ []) (hshows : ps ≠ [] ∨ ns ≠ [])
      (hcs : ∀ f ∈ cs, IsSimple table f) (hps : ∀ f ∈ ps, IsSimple table f)
      (hns : ∀ f ∈ ns, IsSimple table f) : IsShaped table (.conditional cs ps ns {})

end Field

namespace Template

/-! ## What the compiler does -/

/-- The compiler, which has read a literal so far, reads a text to its end and gives fields. -/
inductive Scan (names : Names) : (buffer t : Text) → List Field → Prop
  | stop {buffer : Text} : Scan names buffer [] (flush buffer)
  | plain {buffer t : Text} {c : Char} {fs : List Field} (hq : c ≠ '?') (hd : c ≠ '$')
      (h : Scan names (c :: buffer) t fs) : Scan names buffer (c :: t) fs
  | question {buffer t : Text} {fs : List Field} (hparts : conditional? t = none)
      (h : Scan names ['?'] t fs) : Scan names buffer ('?' :: t) (flush buffer ++ fs)
  | conditional {buffer c p n rest : Text} {cs ps ns fs : List Field} (hparts : AreParts c p n)
      (hcs : Scan names [] c cs) (hps : Scan names [] p ps) (hns : Scan names [] n ns)
      (h : Scan names [] rest fs) :
      Scan names buffer ('?' :: (c ++ '?' :: (p ++ '?' :: (n ++ '?' :: rest))))
        (flush buffer ++ .conditional cs ps ns {} :: fs)
  | word {buffer t u rest : Text} {slot : Slot} {w : Word} {fs : List Field}
      (hslot : readSlot t = .ok (slot, u)) (hw : firstWord (words names) u = some (w, rest))
      (h : Scan names [] rest fs) :
      Scan names buffer ('$' :: t) (flush buffer ++ w.field slot :: fs)
  | noWord {buffer t u : Text} {slot : Slot} {fs : List Field}
      (hslot : readSlot t = .ok (slot, u)) (hw : firstWord (words names) u = none)
      (h : Scan names (u.take 1 ++ ['$']) (u.drop 1) fs) :
      Scan names buffer ('$' :: t) (flush buffer ++ fs)

variable {names : Names} {buffer t : Text} {fs : List Field}

/-- The fields of a text that compiles are those that the compiler reads in it. -/
theorem scan_of_compileFrom (measure : Nat) :
    ∀ {buffer t : Text} {fs : List Field}, t.length < measure →
      compileFrom names measure buffer t = .ok fs → Scan names buffer t fs := by
  induction measure with
  | zero => exact fun hlength => absurd hlength (Nat.not_lt_zero _)
  | succ measure ih =>
      intro buffer t fs hlength h
      cases t with
      | nil =>
          rw [compileFrom_nil] at h
          obtain rfl := Except.ok.inj h
          exact .stop
      | cons c t =>
          rw [List.length_cons] at hlength
          by_cases hq : c = '?'
          · subst hq
            rw [compileFrom, if_pos rfl] at h
            split at h
            next hnone =>
              obtain ⟨gs, hgs, rfl⟩ := map_eq_ok_iff.1 h
              exact .question hnone (ih (by omega) hgs)
            next condition positive negative rest hsome =>
              obtain ⟨rfl, hparts⟩ := conditional?_eq_some_iff.1 hsome
              simp only [List.length_append, List.length_cons] at hlength
              obtain ⟨cs, hcs, h⟩ := bind_eq_ok_iff.1 h
              obtain ⟨ps, hps, h⟩ := bind_eq_ok_iff.1 h
              obtain ⟨ns, hns, h⟩ := bind_eq_ok_iff.1 h
              obtain ⟨gs, hgs, h⟩ := bind_eq_ok_iff.1 h
              obtain rfl := Except.ok.inj h
              exact .conditional hparts (ih (by omega) hcs) (ih (by omega) hps)
                (ih (by omega) hns) (ih (by omega) hgs)
          by_cases hdollar : c = '$'
          · subst hdollar
            cases hslot : readSlot t with
            | error e =>
                rw [compileFrom, if_neg hq, if_pos rfl, hslot] at h
                cases h
            | ok found =>
                obtain ⟨slot, u⟩ := found
                have hrest := (readSlot_suffix hslot).length_le
                rw [compileFrom_field hslot] at h
                split at h
                next w more hw =>
                  obtain ⟨gs, hgs, rfl⟩ := map_eq_ok_iff.1 h
                  have hword := congrArg List.length (firstWord_eq_some hw).2
                  rw [List.length_append] at hword
                  exact .word hslot hw (ih (by omega) hgs)
                next hw =>
                  obtain ⟨gs, hgs, rfl⟩ := map_eq_ok_iff.1 h
                  exact .noWord hslot hw (ih (by rw [List.length_drop]; omega) hgs)
          · rw [compileFrom_plain hq hdollar] at h
            exact .plain hq hdollar (ih (by omega) h)

/-! ## The shape of what is compiled -/

theorem flush_ne_nil (h : buffer ≠ []) : flush buffer ≠ [] := by
  rw [flush, if_neg (by simpa using h)]
  exact List.cons_ne_nil _ _

/-- A text that is not empty has fields. -/
theorem Scan.ne_nil (h : Scan names buffer t fs) (hsome : buffer ≠ [] ∨ t ≠ []) : fs ≠ [] := by
  induction h with
  | stop => exact flush_ne_nil (hsome.resolve_right (not_not_intro rfl))
  | plain _ _ _ ih => exact ih (.inl (List.cons_ne_nil _ _))
  | question _ _ ih =>
      exact List.append_ne_nil_of_right_ne_nil _ (ih (.inl (List.cons_ne_nil _ _)))
  | conditional => exact List.append_ne_nil_of_right_ne_nil _ (List.cons_ne_nil _ _)
  | word => exact List.append_ne_nil_of_right_ne_nil _ (List.cons_ne_nil _ _)
  | noWord _ _ _ ih =>
      exact List.append_ne_nil_of_right_ne_nil _ (ih (.inl (by simp)))

/-- No width that is read is negative. -/
theorem width_of_readSlot {slot : Slot} {rest : Text} (h : readSlot t = .ok (slot, rest)) :
    0 ≤ slot.width := by
  obtain ⟨⟨width, rest⟩, -, heq⟩ := map_eq_ok_iff.1 h
  cases heq
  exact Int.natCast_nonneg width

variable {table : VariableTable}

theorem flush_simple (table : VariableTable) (buffer : Text) :
    ∀ f ∈ flush buffer, f.IsSimple table := by
  rw [flush]
  split
  next => exact List.forall_mem_nil _
  next h =>
    rw [List.forall_mem_singleton]
    exact .literal (by simpa using h)

/-- A word that is tried makes a field of the table. -/
theorem word_simple (htable : table.Distinct) {w : Word} (hw : w ∈ words table.names) {slot : Slot}
    (hwidth : 0 ≤ slot.width) : (w.field slot).IsSimple table := by
  rcases mem_words.1 hw with rfl | rfl | ⟨a, rfl⟩ | ⟨name, kind, rfl, -, hm⟩
  · exact .date hwidth
  · exact .time hwidth
  · exact .ofTask hwidth
  · obtain ⟨v, hv, heq⟩ := List.mem_map.1 hm
    obtain ⟨rfl, rfl⟩ := Prod.mk.inj heq
    exact .named (htable.find?_eq_some_iff.2 ⟨hv, rfl⟩) hwidth

/-- A text without question marks has no conditionals. -/
theorem Scan.simple (htable : table.Distinct) (h : Scan table.names buffer t fs) (ht : '?' ∉ t) :
    ∀ f ∈ fs, f.IsSimple table := by
  induction h with
  | stop => exact flush_simple table _
  | plain _ _ _ ih => exact ih (List.not_mem_of_not_mem_cons ht)
  | question => exact absurd List.mem_cons_self ht
  | conditional => exact absurd List.mem_cons_self ht
  | word hslot hw _ ih =>
      obtain ⟨hmem, rfl⟩ := firstWord_eq_some hw
      rw [List.forall_mem_append, List.forall_mem_cons]
      refine ⟨flush_simple table _, word_simple htable hmem (width_of_readSlot hslot), ih ?_⟩
      intro hmark
      exact ht (.tail _ ((readSlot_suffix hslot).subset (List.mem_append_right _ hmark)))
  | noWord hslot _ _ ih =>
      rw [List.forall_mem_append]
      refine ⟨flush_simple table _, ih ?_⟩
      intro hmark
      exact ht (.tail _ ((readSlot_suffix hslot).subset (List.mem_of_mem_drop hmark)))

/-- The parts of a conditional hold no question mark, so there are no conditionals in them. -/
theorem Scan.shaped (htable : table.Distinct) (h : Scan table.names buffer t fs) :
    ∀ f ∈ fs, f.IsShaped table := by
  have hflush (buffer : Text) : ∀ f ∈ flush buffer, f.IsShaped table :=
    fun f hf => .simple (flush_simple table buffer f hf)
  induction h with
  | stop => exact hflush _
  | plain _ _ _ ih => exact ih
  | question _ _ ih => exact List.forall_mem_append.2 ⟨hflush _, ih⟩
  | conditional hparts hcs hps hns _ _ _ _ ih =>
      rw [List.forall_mem_append, List.forall_mem_cons]
      exact ⟨hflush _, .conditional (hcs.ne_nil (.inr hparts.asks))
        (hparts.shows.imp (fun h => hps.ne_nil (.inr h)) fun h => hns.ne_nil (.inr h))
        (hcs.simple htable hparts.condition) (hps.simple htable hparts.positive)
        (hns.simple htable hparts.negative), ih⟩
  | word hslot hw _ ih =>
      rw [List.forall_mem_append, List.forall_mem_cons]
      exact ⟨hflush _, .simple (word_simple htable (firstWord_eq_some hw).1
        (width_of_readSlot hslot)), ih⟩
  | noWord _ _ _ ih => exact List.forall_mem_append.2 ⟨hflush _, ih⟩

/-! ## Rendering in levels -/

section Levels

variable (context : RenderContext) (record : Option Record)

/-- The text of a field, given how fields inside of it are rendered, if they can be. -/
def renderFieldBy (inner : List Field → Option (Except Crash Text)) :
    Field → Option (Except Crash Text)
  | .conditional condition positive negative slot =>
      match inner condition with
      | none => none
      | some (.error c) => some (.error c)
      | some (.ok t) =>
          (inner (if holds t then positive else negative)).map fun shown =>
            shown.bind (inSlot slot)
  | f => some (renderField context record f)

/-- The text of fields, one after another, given how each is rendered, if it can be. -/
def renderEach (one : Field → Option (Except Crash Text)) :
    List Field → Option (Except Crash Text)
  | [] => some (.ok [])
  | f :: fs =>
      match one f with
      | none => none
      | some (.error c) => some (.error c)
      | some (.ok t) => (renderEach one fs).map fun more => more.map (t ++ ·)

/-- The text of fields, if it takes no more than so many levels of fields inside of fields. -/
def renderWithin : (levels : Nat) → List Field → Option (Except Crash Text)
  | 0, _ => none
  | levels + 1, fs => renderEach (renderFieldBy context record (renderWithin levels)) fs

variable {context record}

/-- Fields are rendered as far as each of them is. -/
theorem renderEach_eq {one : Field → Option (Except Crash Text)}
    (h : ∀ f ∈ fs, one f = some (renderField context record f)) :
    renderEach one fs = some (renderFields context record fs) := by
  induction fs with
  | nil => rfl
  | cons f fs ih =>
      rw [List.forall_mem_cons] at h
      rw [renderEach, h.1, renderFields]
      cases renderField context record f with
      | error c => rfl
      | ok t =>
          dsimp only
          rw [ih h.2]
          cases renderFields context record fs <;> rfl

theorem renderFieldBy_simple {inner : List Field → Option (Except Crash Text)} {f : Field}
    (h : f.IsSimple table) :
    renderFieldBy context record inner f = some (renderField context record f) := by
  cases h <;> rfl

/-- Fields without conditionals are rendered in one level. -/
theorem renderWithin_simple (levels : Nat) (h : ∀ f ∈ fs, f.IsSimple table) :
    renderWithin context record (levels + 1) fs = some (renderFields context record fs) :=
  renderEach_eq fun f hf => renderFieldBy_simple (h f hf)

/-- A conditional takes the level below it for its condition and for the part that it shows. -/
theorem renderFieldBy_conditional {inner : List Field → Option (Except Crash Text)}
    {cs ps ns : List Field} {slot : Slot}
    (hcs : inner cs = some (renderFields context record cs))
    (hps : inner ps = some (renderFields context record ps))
    (hns : inner ns = some (renderFields context record ns)) :
    renderFieldBy context record inner (.conditional cs ps ns slot) =
      some (renderField context record (.conditional cs ps ns slot)) := by
  rw [renderFieldBy, hcs, renderField]
  cases renderFields context record cs with
  | error c => rfl
  | ok t =>
      dsimp only
      cases holds t with
      | true =>
          rw [if_pos rfl, if_pos rfl, hps]
          cases renderFields context record ps <;> rfl
      | false =>
          rw [if_neg Bool.false_ne_true, if_neg Bool.false_ne_true, hns]
          cases renderFields context record ns <;> rfl

/-- Fields of a compiled template are rendered in two levels. -/
theorem renderWithin_shaped (h : ∀ f ∈ fs, f.IsShaped table) :
    renderWithin context record 2 fs = some (renderFields context record fs) := by
  refine renderEach_eq fun f hf => ?_
  cases h f hf with
  | simple hsimple => exact renderFieldBy_simple hsimple
  | conditional _ _ hcs hps hns =>
      exact renderFieldBy_conditional (renderWithin_simple 0 hcs) (renderWithin_simple 0 hps)
        (renderWithin_simple 0 hns)

end Levels

/-- A template that compiles with variables that are registered has the shape of compiled templates:
no literal is empty, no width is negative, variables are those of the table with their kinds, and
conditionals have no slot, ask and show something, and hold no conditionals.  It is rendered in two
levels, for every task and in every context. -/
theorem compile_shaped (vs : List Variable) {source : Text} {template : Template}
    (h : compile (VariableTable.ofList vs).names source = .ok template) :
    (∀ f ∈ template.fields, f.IsShaped (VariableTable.ofList vs)) ∧
      ∀ context record, renderWithin context record 2 template.fields =
        some (template.render context record) := by
  obtain ⟨fs, hfs, rfl⟩ := map_eq_ok_iff.1 h
  have hscan := scan_of_compileFrom (source.length + 1) (Nat.lt_succ_self _) hfs
  have hshaped := hscan.shaped (VariableTable.ofList_distinct vs)
  exact ⟨hshaped, fun _ _ => renderWithin_shaped hshaped⟩

/-- A variable that is registered again, with another kind. -/
def registeredTwice : VariableTable :=
  .ofList [⟨"who", .text, .text "x", .always, true⟩, ⟨"who", .int, .int 7, .always, true⟩]

/-- The variable has its last kind, and a conditional takes the second level. -/
theorem compile_shaped_twoLevels :
    ∃ template, compile registeredTwice.names "?$-3who?late??" = .ok template ∧
      (∀ f ∈ template.fields, f.IsShaped registeredTwice) ∧
      ∀ context record,
        renderWithin context record 2 template.fields = some (template.render context record) ∧
          renderWithin context record 1 template.fields = none := by
  have h : compile registeredTwice.names "?$-3who?late??" =
      .ok ⟨"?$-3who?late??",
        [.conditional [.named "who" .int ⟨3, true⟩] [.literal "late"] [] {}]⟩ := rfl
  obtain ⟨hshaped, hlevels⟩ := compile_shaped _ h
  exact ⟨_, h, hshaped, fun context record => ⟨hlevels context record, rfl⟩⟩

end Template

end TaskBrowser
