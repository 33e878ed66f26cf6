import TaskBrowser.Proofs.Template.Written
import TaskBrowser.Session.State

/-!
# Compiling undoes writing

Fields that are written with their slots are read back as the same fields (`compile_written`), if
the table of variables is `Legible` and the fields are `Canonical`.

*Legible.*  No name of a variable is the start of another one or of a built-in word, nor the other
way round, so a word ends where it was written to end.  A name holds no question mark, which would
end a part of a conditional, and does not start with a dash or a digit, which would be taken for
part of a slot.  The variables of a session are such (`Session.variableTable_legible`).

*Canonical.*  A literal is a whole run of characters that start no field: it is not empty, holds
neither `$` nor `?`, and no literal follows it.  A conditional has a condition and something to
show, holds no conditional, and has no slot of its own.

The fields of a line and those of a part of a conditional are read by the same argument, which
`compileFrom_written` states for any kind of field that is a run of plain characters or that the
scanner reads back wherever it stands (`ReadsBack`).
-/

namespace TaskBrowser

namespace Field

/-- Whether a field is a literal. -/
def isLiteral : Field → Bool
  | .literal _ => true
  | _ => false

/-- A field other than a conditional that can be written: a literal is a run of characters that
start no field, and a variable is one of those named. -/
def IsPlain (names : Template.Names) : Field → Prop
  | .literal t => t ≠ [] ∧ '$' ∉ t ∧ '?' ∉ t
  | .date s | .time s | .ofTask _ s => 0 ≤ s.width
  | .named name kind s => (name, kind) ∈ names ∧ 0 ≤ s.width
  | .conditional .. => False

/-- A list of fields of a kind of which no two literals follow each other. -/
structure IsRun (kind : Field → Prop) (fs : List Field) : Prop where
  /-- Each field is of the kind. -/
  each : ∀ f ∈ fs, kind f
  /-- No two literals follow each other. -/
  apart : fs.IsChain fun f g => ¬ (f.isLiteral ∧ g.isLiteral)

/-- A conditional that can be written: it asks and shows something, its parts are runs of plain
fields, and it has no slot. -/
inductive IsChoice (names : Template.Names) : Field → Prop
  | intro {c p n : List Field} :
    IsRun (IsPlain names) c →
    IsRun (IsPlain names) p →
    IsRun (IsPlain names) n →
    c ≠ [] →
    p ≠ [] ∨ n ≠ [] →
    IsChoice names (.conditional c p n {})

/-- The fields that can be written so that they are read back. -/
def Canonical (names : Template.Names) (fs : List Field) : Prop :=
  IsRun (fun f => IsPlain names f ∨ IsChoice names f) fs

end Field

/-- The words that every table has. -/
def Template.builtinWords : List Text := (Template.words []).map Template.Word.text

/-- A table whose names can be told from each other, from the built-in words, and from what may
stand around them in a format text. -/
structure VariableTable.Legible (table : VariableTable) : Prop where
  /-- There are no empty names. -/
  nonempty : ∀ v ∈ table, v.name ≠ []
  /-- No name ends a part of a conditional. -/
  noQuestion : ∀ v ∈ table, '?' ∉ v.name
  /-- No name starts like a slot. -/
  starts : ∀ v ∈ table, Template.StartsWord v.name
  /-- None of the words is the start of another. -/
  apart : (Template.builtinWords ++ table.map (·.name)).Pairwise
    fun a b => ¬ a <+: b ∧ ¬ b <+: a

namespace Template

/-! ## The words of a legible table -/

/-- A word that can stand in a field: it is not empty, does not start like a slot, and ends no
part of a conditional. -/
structure Word.Stands (w : Word) : Prop where
  /-- There is a word. -/
  nonempty : w.text ≠ []
  /-- It is not read as part of a slot. -/
  starts : StartsWord w.text
  /-- It is not cut by the end of a part. -/
  noQuestion : '?' ∉ w.text

/-- What starts like a word does so whatever follows. -/
theorem Word.Stands.append {w : Word} (h : w.Stands) (t : Text) : StartsWord (w.text ++ t) := by
  intro c hc
  refine h.starts c ?_
  have hne := h.nonempty
  cases hw : w.text with
  | nil => exact absurd hw hne
  | cons d u => simpa [hw] using hc

theorem builtin_stands : ∀ w ∈ words [], w.Stands := by
  have h : ∀ w ∈ words [], w.text ≠ [] ∧ StartsWord w.text ∧ '?' ∉ w.text := by decide
  intro w hw
  obtain ⟨h₁, h₂, h₃⟩ := h w hw
  exact ⟨h₁, h₂, h₃⟩

variable {table : VariableTable}

/-- The names of a table are those of its variables, with their kinds. -/
theorem mem_names {name : Text} {kind : VariableKind} :
    (name, kind) ∈ table.names ↔ ∃ v ∈ table, v.name = name ∧ v.kind = kind := by
  simp [VariableTable.names]

theorem words_map_text (ht : table.Legible) :
    (words table.names).map Word.text = builtinWords ++ table.map (·.name) := by
  have hnonempty : ∀ n ∈ table.names, n.1 ≠ [] := by
    rintro ⟨name, kind⟩ hn
    obtain ⟨v, hv, rfl, rfl⟩ := mem_names.1 hn
    exact ht.nonempty v hv
  rw [words, List.filter_eq_self.2 fun n hn => by simpa using hnonempty n hn]
  simp [builtinWords, words, VariableTable.names, Word.text]

/-- None of the words of a legible table is the start of another. -/
theorem words_apart (ht : table.Legible) : (words table.names).Pairwise Word.Apart := by
  have h := ht.apart
  rwa [← words_map_text ht, List.pairwise_map] at h

theorem word_stands (ht : table.Legible) {w : Word} (hw : w ∈ words table.names) : w.Stands := by
  rcases mem_words.1 hw with rfl | rfl | ⟨a, rfl⟩ | ⟨name, kind, rfl, -, hm⟩
  · exact builtin_stands _ (mem_words.2 (.inl rfl))
  · exact builtin_stands _ (mem_words.2 (.inr (.inl rfl)))
  · exact builtin_stands _ (mem_words.2 (.inr (.inr (.inl ⟨a, rfl⟩))))
  · obtain ⟨v, hv, rfl, rfl⟩ := mem_names.1 hm
    exact ⟨ht.nonempty v hv, ht.starts v hv, ht.noQuestion v hv⟩

/-- A plain field is a literal or a word that the table knows, in a slot. -/
theorem isPlain_cases (ht : table.Legible) {f : Field} (h : f.IsPlain table.names) :
    (∃ t, f = .literal t ∧ t ≠ [] ∧ '$' ∉ t ∧ '?' ∉ t) ∨
      ∃ w ∈ words table.names, ∃ s : Slot, 0 ≤ s.width ∧ f = w.field s := by
  cases f with
  | literal t => exact .inl ⟨t, rfl, h⟩
  | date s => exact .inr ⟨.date, mem_words.2 (.inl rfl), s, h, rfl⟩
  | time s => exact .inr ⟨.time, mem_words.2 (.inr (.inl rfl)), s, h, rfl⟩
  | ofTask a s => exact .inr ⟨.ofTask a, mem_words.2 (.inr (.inr (.inl ⟨a, rfl⟩))), s, h, rfl⟩
  | named name kind s =>
      obtain ⟨hm, hs⟩ := h
      obtain ⟨v, hv, rfl, rfl⟩ := mem_names.1 hm
      exact .inr ⟨.named v.name v.kind,
        mem_words.2 (.inr (.inr (.inr ⟨_, _, rfl, ht.nonempty v hv, hm⟩))), s, hs, rfl⟩
  | conditional => exact h.elim

/-! ## What is written -/

theorem question_notMem_slot (s : Slot) : '?' ∉ s.text := by
  rw [Slot.text, List.mem_append]
  rintro (h | h)
  · split at h <;> simp at h
  · exact absurd (mem_widthText h) (by decide)

/-- Plain fields are written as some text, which holds no question mark. -/
theorem written_isPlain (ht : table.Legible) {f : Field} (h : f.IsPlain table.names) :
    f.written Slot.text ≠ [] ∧ '?' ∉ f.written Slot.text := by
  rcases isPlain_cases ht h with ⟨t, rfl, hne, -, hq⟩ | ⟨w, hw, s, -, rfl⟩
  · exact ⟨hne, hq⟩
  · rw [Field.written_word]
    refine ⟨List.cons_ne_nil _ _, ?_⟩
    simp [question_notMem_slot s, (word_stands ht hw).noQuestion]

theorem question_notMem_writtenAll (ht : table.Legible) {fs : List Field}
    (h : ∀ f ∈ fs, f.IsPlain table.names) : '?' ∉ Field.writtenAll Slot.text fs := by
  induction fs with
  | nil => exact List.not_mem_nil
  | cons f fs ih =>
      rw [List.forall_mem_cons] at h
      rw [Field.writtenAll_cons, List.mem_append, not_or]
      exact ⟨(written_isPlain ht h.1).2, ih h.2⟩

theorem writtenAll_ne_nil (ht : table.Legible) {fs : List Field}
    (h : ∀ f ∈ fs, f.IsPlain table.names) (hne : fs ≠ []) : Field.writtenAll Slot.text fs ≠ [] := by
  cases fs with
  | nil => exact absurd rfl hne
  | cons f fs =>
      rw [Field.writtenAll_cons]
      exact List.append_ne_nil_of_left_ne_nil (written_isPlain ht (h f (.head _))).1 _

/-! ## Reading back -/

/-- Wherever a field stands, the scanner ends the literal it is reading, adds the field and goes
on with what follows. -/
def ReadsBack (names : Names) (f : Field) : Prop :=
  ∀ measure buffer rest more, (f.written Slot.text ++ rest).length < measure →
    (∀ m, rest.length < m → compileFrom names m [] rest = .ok more) →
    compileFrom names measure buffer (f.written Slot.text ++ rest) =
      .ok (flush buffer ++ f :: more)

/-- A run of characters that start no field goes on with the literal. -/
theorem compileFrom_run {names : Names} {t : Text} (hd : '$' ∉ t) (hq : '?' ∉ t) :
    ∀ measure buffer rest, t.length ≤ measure →
      compileFrom names measure buffer (t ++ rest) =
        compileFrom names (measure - t.length) (t.reverse ++ buffer) rest := by
  induction t with
  | nil => intro measure buffer rest _; rfl
  | cons c t ih =>
      intro measure buffer rest hlen
      simp only [List.mem_cons, not_or] at hd hq
      cases measure with
      | zero => simp at hlen
      | succ measure =>
          rw [List.cons_append, compileFrom_plain (Ne.symm hq.1) (Ne.symm hd.1),
            ih hd.2 hq.2 measure _ _ (by simpa using hlen)]
          simp

/-- Fields of which each is a run of characters or reads back are read back together. -/
theorem compileFrom_written {names : Names} {kind : Field → Prop}
    (hkind : ∀ f, kind f → (∃ t, f = .literal t ∧ t ≠ [] ∧ '$' ∉ t ∧ '?' ∉ t) ∨
      f.isLiteral = false ∧ ReadsBack names f)
    {fs : List Field} (h : Field.IsRun kind fs) :
    ∀ measure buffer, (Field.writtenAll Slot.text fs).length < measure →
      (buffer = [] ∨ ∀ f ∈ fs.head?, f.isLiteral = false) →
      compileFrom names measure buffer (Field.writtenAll Slot.text fs) =
        .ok (flush buffer ++ fs) := by
  induction fs with
  | nil =>
      intro measure buffer _ _
      rw [List.append_nil]
      exact compileFrom_nil names measure buffer
  | cons f fs ih =>
      intro measure buffer hlen hbuffer
      obtain ⟨heach, hapart⟩ := h
      rw [List.forall_mem_cons] at heach
      have ih := ih ⟨heach.2, hapart.tail⟩
      rw [Field.writtenAll_cons] at hlen ⊢
      rcases hkind f heach.1 with ⟨t, rfl, hne, hd, hq⟩ | ⟨hf, hread⟩
      · obtain rfl : buffer = [] := by simpa [Field.isLiteral] using hbuffer
        -- the literal is what the scanner has read when the next field starts
        have hnext : ∀ f ∈ fs.head?, f.isLiteral = false := by
          intro g hg
          cases fs with
          | nil => cases hg
          | cons g' fs =>
              obtain rfl : g' = g := by simpa using hg
              simpa [Field.isLiteral] using (List.isChain_cons_cons.1 hapart).1
        simp only [Field.written, List.length_append] at hlen ⊢
        rw [compileFrom_run hd hq _ _ _ (by omega), ih _ _ (by omega) (.inr hnext)]
        simp [flush, hne]
      · exact hread measure buffer _ fs hlen fun m hm => ih m [] hm (.inl rfl)

/-- A word in a slot reads back. -/
theorem readsBack_word (ht : table.Legible) {w : Word} (hw : w ∈ words table.names) {s : Slot}
    (hs : 0 ≤ s.width) : ReadsBack table.names (w.field s) := by
  intro measure buffer rest more hlen hmore
  have hpos : 0 < w.text.length := List.length_pos_iff.2 (word_stands ht hw).nonempty
  rw [Field.written_word] at hlen ⊢
  cases measure with
  | zero => exact absurd hlen (Nat.not_lt_zero _)
  | succ measure =>
      simp only [List.cons_append, List.append_assoc, List.length_cons,
        List.length_append] at hlen ⊢
      exact compileFrom_word (readSlot_text hs ((word_stands ht hw).append rest))
        (firstWord_append (words_apart ht) hw rest) (hmore measure (by omega))

/-- A plain field is a run of characters or reads back. -/
theorem isPlain_reads (ht : table.Legible) (f : Field) (h : f.IsPlain table.names) :
    (∃ t, f = .literal t ∧ t ≠ [] ∧ '$' ∉ t ∧ '?' ∉ t) ∨
      f.isLiteral = false ∧ ReadsBack table.names f := by
  rcases isPlain_cases ht h with ht' | ⟨w, hw, s, hs, rfl⟩
  · exact .inl ht'
  · exact .inr ⟨by cases w <;> rfl, readsBack_word ht hw hs⟩

/-- A conditional reads back. -/
theorem readsBack_choice (ht : table.Legible) {f : Field} (h : f.IsChoice table.names) :
    ReadsBack table.names f := by
  have hread : ∀ {fs : List Field}, Field.IsRun (Field.IsPlain table.names) fs →
      ∀ m, (Field.writtenAll Slot.text fs).length < m →
        compileFrom table.names m [] (Field.writtenAll Slot.text fs) = .ok fs :=
    fun hfs m hm => compileFrom_written (isPlain_reads ht) hfs m [] hm (.inl rfl)
  cases h with
  | @intro c p n hc hp hn hasks hshows =>
      intro measure buffer rest more hlen hmore
      have hparts : AreParts (Field.writtenAll Slot.text c) (Field.writtenAll Slot.text p)
          (Field.writtenAll Slot.text n) :=
        ⟨question_notMem_writtenAll ht hc.each, question_notMem_writtenAll ht hp.each,
          question_notMem_writtenAll ht hn.each, writtenAll_ne_nil ht hc.each hasks,
          hshows.imp (writtenAll_ne_nil ht hp.each) (writtenAll_ne_nil ht hn.each)⟩
      cases measure with
      | zero => exact absurd hlen (Nat.not_lt_zero _)
      | succ measure =>
          simp only [Field.written, List.cons_append, List.append_assoc, List.length_cons,
            List.length_append, List.nil_append] at hlen ⊢
          exact compileFrom_conditional (conditional?_eq_some_iff.2 ⟨rfl, hparts⟩)
            (hread hc measure (by omega)) (hread hp measure (by omega))
            (hread hn measure (by omega)) (hmore measure (by omega))

end Template

/-- The names of a session's variables are legible. -/
theorem Session.variableTable_legible (s : Session) : s.variableTable.Legible := by
  have hname : ∀ {p : Text → Prop}, (∀ e ∈ variableEntries, p e.name) →
      ∀ v ∈ s.variableTable, p v.name := by
    intro p h v hv
    obtain ⟨e, he, rfl⟩ := List.mem_map.1 hv
    exact h e he
  have hnames : s.variableTable.map (·.name) = variableEntries.map (·.name) := by
    simp [Session.variableTable]
  refine ⟨hname (p := (· ≠ [])) (by decide), hname (p := ('?' ∉ ·)) (by decide),
    hname (by decide), ?_⟩
  rw [hnames]
  decide

namespace Template

/-- Compiling undoes writing: canonical fields that are written with their slots are read back, for
every legible table, of which the variables of a session are one. -/
theorem compile_written :
    (∀ (table : VariableTable) (fs : List Field), table.Legible →
      Field.Canonical table.names fs →
      compile table.names (Field.writtenAll Slot.text fs) =
        .ok ⟨Field.writtenAll Slot.text fs, fs⟩) ∧
    ∀ s : Session, s.variableTable.Legible := by
  refine ⟨fun table fs ht hfs => ?_, Session.variableTable_legible⟩
  have hkind : ∀ f, f.IsPlain table.names ∨ f.IsChoice table.names →
      (∃ t, f = .literal t ∧ t ≠ [] ∧ '$' ∉ t ∧ '?' ∉ t) ∨
        f.isLiteral = false ∧ ReadsBack table.names f := by
    rintro f (h | h)
    · exact isPlain_reads ht f h
    · exact .inr ⟨by cases h; rfl, readsBack_choice ht h⟩
  have hread := compileFrom_written hkind hfs _ [] (Nat.lt_succ_self _) (.inl rfl)
  rw [compile, compileFields, hread]
  rfl

/-- Slots of either side, a conditional without a negative part, and a name that holds a `$`. -/
theorem compile_written_line :
    VariableTable.Legible [⟨"a$b", .char, .null, .always, true⟩] ∧
      Field.Canonical (VariableTable.names [⟨"a$b", .char, .null, .always, true⟩])
        [.ofTask .project ⟨0, true⟩, .literal "12-", .named "a$b" .char ⟨7, false⟩,
          .conditional [.ofTask .due {}] [.date ⟨30, true⟩, .literal "date"] [] {}] ∧
      compile (VariableTable.names [⟨"a$b", .char, .null, .always, true⟩])
          "$-project12-$7a$b?$due?$-30datedate??" =
        .ok ⟨"$-project12-$7a$b?$due?$-30datedate??",
          [.ofTask .project ⟨0, true⟩, .literal "12-", .named "a$b" .char ⟨7, false⟩,
            .conditional [.ofTask .due {}] [.date ⟨30, true⟩, .literal "date"] [] {}]⟩ := by
  have ht : VariableTable.Legible [⟨"a$b", .char, .null, .always, true⟩] :=
    ⟨by decide, by decide, by decide, by decide⟩
  have hfs : Field.Canonical (VariableTable.names [⟨"a$b", .char, .null, .always, true⟩])
      [.ofTask .project ⟨0, true⟩, .literal "12-", .named "a$b" .char ⟨7, false⟩,
        .conditional [.ofTask .due {}] [.date ⟨30, true⟩, .literal "date"] [] {}] := by
    have hdue : Field.IsRun (Field.IsPlain (VariableTable.names
        [⟨"a$b", .char, .null, .always, true⟩])) [.ofTask .due {}] :=
      ⟨by simp [Field.IsPlain], by decide⟩
    have hdate : Field.IsRun (Field.IsPlain (VariableTable.names
        [⟨"a$b", .char, .null, .always, true⟩])) [.date ⟨30, true⟩, .literal "date"] :=
      ⟨by simp [Field.IsPlain], by decide⟩
    refine ⟨?_, by decide⟩
    simp only [List.forall_mem_cons]
    refine ⟨.inl (by simp [Field.IsPlain]), .inl (by simp [Field.IsPlain]),
      .inl (by simp [Field.IsPlain, VariableTable.names]),
      .inr (.intro hdue hdate ⟨by simp, .nil⟩ (by simp) (.inl (by simp))), by simp⟩
  exact ⟨ht, hfs, compile_written.1 _ _ ht hfs⟩

end Template

end TaskBrowser
