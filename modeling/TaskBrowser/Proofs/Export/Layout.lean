import TaskBrowser.Export
import TaskBrowser.Proofs.Command.Line
import TaskBrowser.Proofs.Json.Reading
import TaskBrowser.Proofs.Text.Lines

/-!
# The two layouts of an export

The task program writes the objects of an export as one list, or one object a line with a comma
after it.  The two layouts are read on different ways: the list as one value, and the lines each by
itself, after the whole was found to be no value.

Both ways give the same records, or end in the same crash, if no object is broken across lines
(`Export.records_layouts`).  A text ends a line at more characters than a line feed, and three of
these may stand in the texts of an object as they are: so an object is broken if one of them does.
If there is one object only and no comma after it, it is read as one value, broken or not.
-/

namespace TaskBrowser

namespace Export

open Json

/-! ## Objects -/

/-- The members of an object that is all of a text, or the number of digits of a number that has
too many. -/
def objectOf? : Except ReadFault (Json × Text) → Option (Except Nat (List (Text × Json)))
  | .ok (.object ms, []) => some (.ok ms)
  | .error (.tooManyDigits n) => some (.error n)
  | _ => none

/-- An object that is written as a text.  It is read with one level of nesting less than a text may
have, since the list around it takes one. -/
structure Exported (depth : Nat) where
  /-- What stands between the braces. -/
  inner : Text
  reads : (objectOf? (readValue (2 * inner.length + 6) depth
    ('\x7b' :: inner ++ ['\x7d']))).isSome = true

variable {depth : Nat}

namespace Exported

/-- The text of the object. -/
def text (o : Exported depth) : Text := '\x7b' :: o.inner ++ ['\x7d']

/-- The members, or the number of digits of a number among them that has too many. -/
def members (o : Exported depth) : Except Nat (List (Text × Json)) :=
  (objectOf? (readValue (2 * o.inner.length + 6) depth o.text)).get o.reads

/-- What comes of reading the object, with a text after it. -/
def outcome (o : Exported depth) (rest : Text) : Except ReadFault (Json × Text) :=
  match o.members with
  | .ok ms => .ok (.object ms, rest)
  | .error n => .error (.tooManyDigits n)

/-- No line ends in the object. -/
def Unbroken (o : Exported depth) : Prop := ∀ c ∈ o.inner, Text.endsLine c = false

theorem objectOf?_eq_some {r : Except ReadFault (Json × Text)}
    {m : Except Nat (List (Text × Json))} :
    objectOf? r = some m →
      r = match m with
        | .ok ms => .ok (.object ms, [])
        | .error n => .error (.tooManyDigits n) := by
  intro h
  rw [objectOf?.eq_def] at h
  split at h <;> cases h <;> rfl

theorem readValue_members (o : Exported depth) :
    readValue (2 * o.inner.length + 6) depth o.text = o.outcome [] := by
  have hmembers : objectOf? (readValue (2 * o.inner.length + 6) depth o.text) =
      some o.members := (Option.some_get o.reads).symm
  exact objectOf?_eq_some hmembers

/-- The object is read wherever its text stands. -/
theorem readValue_text (o : Exported depth) {u : Text} (hu : Stops u) {measure more : Nat}
    (hmeasure : 2 * o.inner.length + 6 ≤ measure) (hmore : depth ≤ more) :
    readValue measure more (o.text ++ u) = o.outcome u := by
  have hread := o.readValue_members
  rw [readValue_append hu hmeasure hmore, hread, outcome, outcome]
  · cases o.members <;> rfl
  · rw [hread, outcome]
    cases o.members <;> trivial

/-- The object alone is a whole text, but not with more than blanks after it. -/
theorem read_text (o : Exported depth) {u : Text} (hu : Stops u) :
    Json.read (depth + 1) (o.text ++ u) =
      match o.members with
      | .ok ms => if (skipGaps u).isEmpty then .ok (.object ms) else .error .malformed
      | .error n => .error (.tooManyDigits n) := by
  have hopen : skipGaps (o.text ++ u) = o.text ++ u := rfl
  have hread : readValue (2 * (o.text ++ u).length + 2) (depth + 1) (o.text ++ u) = o.outcome u :=
    o.readValue_text hu (by simp [text]; omega) (Nat.le_succ depth)
  rw [Json.read, hopen, hread, outcome]
  cases o.members <;> rfl

end Exported

/-- The members of objects, or the digits of the first number that has too many. -/
def membersOf (os : List (Exported depth)) : Except Nat (List (List (Text × Json))) :=
  os.mapM (·.members)

theorem membersOf_cons (o : Exported depth) (os : List (Exported depth)) :
    membersOf (o :: os) =
      match o.members with
      | .ok ms => (membersOf os).map (ms :: ·)
      | .error n => .error n := by
  rw [membersOf, List.mapM_cons, membersOf]
  cases o.members with
  | error n => rfl
  | ok ms => cases os.mapM (·.members) <;> rfl

/-- What comes of an export of objects. -/
def found (os : List (Exported depth)) : Except Fault (List (List (Text × Json))) :=
  (membersOf os).mapError fun n => .crash (.tooManyDigits n)

/-! ## The list -/

/-- An object in a list, with the blanks around it. -/
structure Item (depth : Nat) where
  /-- The object. -/
  object : Exported depth
  /-- The blanks before it. -/
  before : Text
  /-- The blanks after it. -/
  after : Text
  before_gaps : ∀ c ∈ before, isGap c = true
  after_gaps : ∀ c ∈ after, isGap c = true

/-- The text of an item. -/
def Item.text (i : Item depth) : Text := i.before ++ (i.object.text ++ i.after)

/-- A list of objects. -/
def listLayout (items : List (Item depth)) : Text :=
  '[' :: (Text.join [','] (items.map Item.text) ++ [']'])

theorem skipGaps_item (i : Item depth) (rest : Text) :
    skipGaps (i.text ++ rest) = i.object.text ++ (i.after ++ rest) := by
  rw [Item.text, List.append_assoc, skipGaps_gaps_append i.before_gaps, List.append_assoc]
  rfl

/-- What comes after an item is the end of the list or another item. -/
theorem readItems_object (o : Exported depth) (vs : List Json) {u rest : Text} {c : Char}
    {measure : Nat}
    (hu : Stops u) (hc : skipGaps u = c :: rest) (hmeasure : 2 * o.inner.length + 6 ≤ measure) :
    readItems (measure + 1) depth vs (o.text ++ u) =
      match o.members with
      | .ok ms =>
          if c = ']' then .ok (.list (vs ++ [.object ms]), rest)
          else if c = ',' then
            readItems measure depth (vs ++ [.object ms]) (skipGaps rest)
          else .error .malformed
      | .error n => .error (.tooManyDigits n) := by
  have hread := o.readValue_text hu hmeasure le_rfl
  rw [Exported.outcome] at hread
  cases hmembers : o.members with
  | ok ms =>
      rw [hmembers] at hread
      exact readItems_of_value _ _ vs hread hc
  | error n =>
      rw [hmembers] at hread
      rw [readItems, hread]

theorem Item.stops_after (i : Item depth) {c : Char} (hc : c = ',' ∨ c = ']') (rest : Text) :
    Stops (i.after ++ c :: rest) ∧ skipGaps (i.after ++ c :: rest) = c :: rest := by
  have hgap : isGap c = false := by rcases hc with rfl | rfl <;> decide
  constructor
  · exact .gaps i.after_gaps (.cons rest (.inr (hc.imp_right .inl)))
  · rw [skipGaps_gaps_append i.after_gaps, skipGaps, List.dropWhile_cons, hgap,
      if_neg Bool.false_ne_true]

/-- The items of a list are read one after another, up to its end. -/
theorem readItems_join (i : Item depth) (is : List (Item depth)) :
    ∀ (measure : Nat) (vs : List Json),
      2 * (Text.join [','] ((i :: is).map Item.text) ++ [']']).length + 1 ≤ measure →
      readItems measure depth vs
          (skipGaps (Text.join [','] ((i :: is).map Item.text) ++ [']'])) =
        match membersOf ((i :: is).map (·.object)) with
        | .ok mss => .ok (.list (vs ++ mss.map .object), [])
        | .error n => .error (.tooManyDigits n) := by
  induction is generalizing i with
  | nil =>
      intro measure vs hmeasure
      obtain ⟨measure, rfl⟩ : ∃ k, measure = k + 1 := ⟨measure - 1, by omega⟩
      have hsmall : 2 * i.object.inner.length + 6 ≤ measure := by
        simp [Text.join, Item.text, Exported.text] at hmeasure
        omega
      obtain ⟨hstops, hend⟩ := i.stops_after (.inr rfl) []
      rw [List.map_singleton, Text.join, skipGaps_item,
        readItems_object i.object vs hstops hend hsmall, List.map_singleton, membersOf_cons]
      cases i.object.members with
      | error n => rfl
      | ok ms => rfl
  | cons j is ih =>
      intro measure vs hmeasure
      obtain ⟨measure, rfl⟩ : ∃ k, measure = k + 1 := ⟨measure - 1, by omega⟩
      have hmore := ih j measure
      rw [List.map_cons, List.map_cons, Text.join, ← List.map_cons, List.append_assoc,
        List.append_assoc, List.singleton_append] at hmeasure ⊢
      generalize Text.join [','] ((j :: is).map Item.text) ++ [']'] = more at hmore hmeasure ⊢
      have hsmall : 2 * i.object.inner.length + 6 ≤ measure := by
        simp [Item.text, Exported.text] at hmeasure
        omega
      have hrest : 2 * more.length + 1 ≤ measure := by
        simp [Item.text, Exported.text] at hmeasure
        omega
      obtain ⟨hstops, hcomma⟩ := i.stops_after (.inl rfl) more
      rw [skipGaps_item, readItems_object i.object vs hstops hcomma hsmall, List.map_cons,
        membersOf_cons]
      cases i.object.members with
      | error n => rfl
      | ok ms =>
          dsimp only
          rw [if_neg (by decide), if_pos rfl, hmore _ hrest]
          cases membersOf ((j :: is).map (·.object)) with
          | error n => rfl
          | ok mss => simp [Except.map]

/-- A list of objects is read as the list of what they are read as. -/
theorem read_listLayout (items : List (Item depth)) :
    Json.read (depth + 1) (listLayout items) =
      match membersOf (items.map (·.object)) with
      | .ok mss => .ok (.list (mss.map .object))
      | .error n => .error (.tooManyDigits n) := by
  cases items with
  | nil => rfl
  | cons i is =>
      have hitems := readItems_join i is (2 * (listLayout (i :: is)).length + 1) []
        (by simp [listLayout])
      have hhead : ∃ t, skipGaps (Text.join [','] ((i :: is).map Item.text) ++ [']']) =
          '\x7b' :: t := by
        cases is with
        | nil => exact ⟨_, skipGaps_item i _⟩
        | cons j is =>
            rw [List.map_cons, List.map_cons, Text.join, List.append_assoc, List.append_assoc]
            exact ⟨_, skipGaps_item i _⟩
      obtain ⟨t, ht⟩ := hhead
      have hopen : skipGaps (listLayout (i :: is)) = listLayout (i :: is) := rfl
      have hread : readValue (2 * (listLayout (i :: is)).length + 2) (depth + 1)
          (listLayout (i :: is)) = _ := readValue_list _ depth ht
      rw [if_neg (by decide), ← ht, hitems] at hread
      rw [Json.read, hopen, hread]
      cases membersOf ((i :: is).map (·.object)) with
      | error n => rfl
      | ok mss => rfl

theorem outcome_read? (t : Text) :
    (read? (depth + 1) t).outcome =
      match Json.read (depth + 1) t with
      | .ok v => .ok (some v)
      | .error e =>
          match readCrash? e with
          | some c => .error (.crash c)
          | none => .ok none := by
  rw [read?]
  cases Json.read (depth + 1) t with
  | ok v => rfl
  | error e =>
      dsimp only
      cases readCrash? e <;> rfl

/-- A text that is not blank is read as a whole first. -/
theorem outcome_objects {t u : Text} (hu : Text.trim t = u) (hne : u ≠ []) :
    (objects (depth + 1) t).outcome =
      match Json.read (depth + 1) u with
      | .ok (.list items) => .ok (objectsOf items)
      | .ok (.object ms) => .ok [ms]
      | .error (.tooManyDigits n) => .error (.crash (.tooManyDigits n))
      | .error .listTooDeep => .error (.crash .listTooDeep)
      | .error .objectTooDeep => .error (.crash .objectTooDeep)
      | _ => (lineObjects (depth + 1) (Text.lines u)).outcome := by
  have hempty : u.isEmpty = false := by
    cases u with
    | nil => exact absurd rfl hne
    | cons c u => rfl
  rw [objects]
  simp only [hu]
  rw [hempty, if_neg Bool.false_ne_true, Attempt.outcome_bind, outcome_read?]
  rcases Json.read (depth + 1) u with (_ | _ | _ | _) | (_ | _ | _ | _ | _ | _ | _) <;> rfl

theorem objectsOf_map_object (mss : List (List (Text × Json))) :
    objectsOf (mss.map .object) = mss := by
  induction mss with
  | nil => rfl
  | cons ms mss ih => rw [List.map_cons, objectsOf, ih]

/-- The objects of a list are those that were written. -/
theorem objects_listLayout (items : List (Item depth)) :
    (objects (depth + 1) (listLayout items)).outcome = found (items.map (·.object)) := by
  have htrim : Text.trim (listLayout items) = listLayout items :=
    Text.trim_append_char (c := '[') (d := ']') (by decide) (by decide) _
  rw [outcome_objects htrim nofun, read_listLayout, found]
  cases membersOf (items.map (·.object)) with
  | error n => rfl
  | ok mss =>
      dsimp only
      rw [objectsOf_map_object]
      rfl

/-! ## The lines -/

/-- An object on a line of its own, with the blanks around it and perhaps a comma after it. -/
structure Line (depth : Nat) where
  /-- The object. -/
  object : Exported depth
  /-- The blanks before it. -/
  before : Text
  /-- The blanks after it. -/
  after : Text
  /-- Whether there is a comma after that. -/
  comma : Bool
  before_flat : ∀ c ∈ before, c = ' ' ∨ c = '\t'
  after_flat : ∀ c ∈ after, c = ' ' ∨ c = '\t'

namespace Line

/-- What stands after the object. -/
def tail (l : Line depth) : Text := l.after ++ if l.comma then [','] else []

/-- The text of a line. -/
def text (l : Line depth) : Text := l.before ++ (l.object.text ++ l.tail)

/-- The line without the blanks before the object. -/
def flushLeft (l : Line depth) : Line depth := { l with before := [], before_flat := nofun }

/-- The line without the blanks at its end. -/
def flushRight (l : Line depth) : Line depth :=
  if l.comma then l else { l with after := [], after_flat := nofun }

end Line

/-- Objects line by line. -/
def lineLayout (ls : List (Line depth)) : Text := Text.join ['\n'] (ls.map Line.text)

/-- Lines without the blanks at the end of the last one. -/
def flushLast : List (Line depth) → List (Line depth)
  | [] => []
  | [l] => [l.flushRight]
  | l :: m :: ls => l :: flushLast (m :: ls)

theorem lineLayout_cons (l : Line depth) {ls : List (Line depth)} (hls : ls ≠ []) :
    lineLayout (l :: ls) = l.text ++ '\n' :: lineLayout ls := by
  cases ls with
  | nil => exact absurd rfl hls
  | cons m ls =>
      rw [lineLayout, List.map_cons, List.map_cons, Text.join, List.append_assoc]
      rfl

theorem lineLayout_ne_nil {ls : List (Line depth)} (hls : ls ≠ []) : lineLayout ls ≠ [] := by
  cases ls with
  | nil => exact absurd rfl hls
  | cons l ls =>
      by_cases hmore : ls = []
      · subst hmore
        simp [lineLayout, Text.join, Line.text, Exported.text]
      · simp [lineLayout_cons l hmore]

/-! ### Trimming -/

theorem isBlank_of_flat {t : Text} (h : ∀ c ∈ t, c = ' ' ∨ c = '\t') :
    ∀ c ∈ t, Text.isBlank c = true := by
  intro c hc
  rcases h c hc with rfl | rfl <;> decide

theorem isGap_of_flat {t : Text} (h : ∀ c ∈ t, c = ' ' ∨ c = '\t') : ∀ c ∈ t, isGap c = true := by
  intro c hc
  rcases h c hc with rfl | rfl <;> decide

theorem trimLeft_line (l : Line depth) (rest : Text) :
    Text.trimLeft (l.text ++ rest) = l.flushLeft.text ++ rest := by
  rw [Line.text, List.append_assoc, Text.trimLeft,
    List.dropWhile_append_of_pos (isBlank_of_flat l.before_flat)]
  rfl

/-- A line ends with its comma, or with the brace of the object and blanks. -/
theorem trimRight_line (l : Line depth) : Text.trimRight l.text = l.flushRight.text := by
  have hclose : Text.isBlank '\x7d' = false := by decide
  have hcomma : Text.isBlank ',' = false := by decide
  rw [Line.flushRight]
  cases hl : l.comma with
  | true =>
      have htext : l.text = l.before ++ (l.object.text ++ l.after) ++ [','] := by
        simp [Line.text, Line.tail, hl]
      rw [if_pos rfl, htext, Text.trimRight_append_char hcomma]
  | false =>
      have htext : l.text = l.before ++ '\x7b' :: l.object.inner ++ ['\x7d'] ++ l.after := by
        simp [Line.text, Line.tail, Exported.text, hl]
      rw [if_neg Bool.false_ne_true, htext, Text.trimRight,
        Text.dropRightWhile_append_of_pos (isBlank_of_flat l.after_flat),
        Text.dropRightWhile_append_char hclose]
      simp [Line.text, Line.tail, Exported.text]

theorem flushLast_ne_nil (l : Line depth) (ls : List (Line depth)) : flushLast (l :: ls) ≠ [] := by
  cases ls with
  | nil => nofun
  | cons m ls => nofun

theorem trimRight_lineLayout (l : Line depth) (ls : List (Line depth)) :
    Text.trimRight (lineLayout (l :: ls)) = lineLayout (flushLast (l :: ls)) := by
  induction ls generalizing l with
  | nil => exact trimRight_line l
  | cons m ls ih =>
      have hlast := flushLast_ne_nil m ls
      have hkept : Text.trimRight ('\n' :: lineLayout (m :: ls)) =
          '\n' :: lineLayout (flushLast (m :: ls)) := by
        rw [← ih m]
        have hne : Text.trimRight (lineLayout (m :: ls)) ≠ [] := by
          rw [ih m]
          exact lineLayout_ne_nil hlast
        exact Text.trimRight_append hne ['\n']
      rw [flushLast, lineLayout_cons l (List.cons_ne_nil m ls), lineLayout_cons l hlast,
        Text.trimRight_append (by rw [hkept]; nofun), hkept]

theorem trimLeft_lineLayout (l : Line depth) (ls : List (Line depth)) :
    Text.trimLeft (lineLayout (l :: ls)) = lineLayout (l.flushLeft :: ls) := by
  by_cases hls : ls = []
  · subst hls
    have htrim := trimLeft_line l []
    rwa [List.append_nil, List.append_nil] at htrim
  · rw [lineLayout_cons l hls, lineLayout_cons l.flushLeft hls, trimLeft_line]

/-- Trimming leaves the objects, and the commas after them. -/
theorem flushLast_map (ls : List (Line depth)) :
    (flushLast ls).map (fun l => (l.object, l.comma)) = ls.map fun l => (l.object, l.comma) := by
  induction ls with
  | nil => rfl
  | cons l ls ih =>
      cases ls with
      | nil =>
          rw [flushLast, Line.flushRight]
          split <;> rfl
      | cons m ls =>
          rw [flushLast, List.map_cons, ih]
          rfl

theorem head_flushLast (l : Line depth) (ls : List (Line depth)) :
    ∃ m ms, flushLast (l :: ls) = m :: ms ∧ m.before = l.before := by
  cases ls with
  | nil =>
      refine ⟨l.flushRight, [], rfl, ?_⟩
      rw [Line.flushRight]
      split <;> rfl
  | cons m ls => exact ⟨l, flushLast (m :: ls), rfl, rfl⟩

/-- Lines that are trimmed are lines, and the first one starts with its object. -/
theorem trim_lineLayout (l : Line depth) (ls : List (Line depth)) :
    ∃ m ms, Text.trim (lineLayout (l :: ls)) = lineLayout (m :: ms) ∧ m.before = [] ∧
      (m :: ms).map (fun l => (l.object, l.comma)) =
        (l :: ls).map fun l => (l.object, l.comma) := by
  obtain ⟨m, ms, hms, hbefore⟩ := head_flushLast l.flushLeft ls
  have hkept := flushLast_map (l.flushLeft :: ls)
  rw [hms] at hkept
  refine ⟨m, ms, ?_, hbefore, hkept⟩
  rw [Text.trim, trimLeft_lineLayout, trimRight_lineLayout, hms]

/-! ### Reading -/

/-- After its object a line has a comma or only blanks. -/
theorem Line.stops_tail (l : Line depth) {more : Text} (hmore : Stops more) :
    Stops (l.tail ++ more) ∧
      (skipGaps (l.tail ++ more)).isEmpty = (!l.comma && (skipGaps more).isEmpty) := by
  have hgaps := isGap_of_flat l.after_flat
  rw [Line.tail, List.append_assoc, skipGaps_gaps_append hgaps]
  cases l.comma with
  | true => exact ⟨.gaps hgaps (.cons _ (.inr (.inl rfl))), rfl⟩
  | false => exact ⟨.gaps hgaps hmore, rfl⟩

theorem skipGaps_lineLayout (l : Line depth) (ls : List (Line depth)) :
    skipGaps (lineLayout (l :: ls)) ≠ [] := by
  have hline (rest : Text) : skipGaps (l.text ++ rest) ≠ [] := by
    rw [Line.text, List.append_assoc, skipGaps_gaps_append (isGap_of_flat l.before_flat)]
    nofun
  by_cases hls : ls = []
  · subst hls
    have h := hline []
    rwa [List.append_nil] at h
  · rw [lineLayout_cons l hls]
    exact hline _

/-- The lines are no whole text unless there is one without a comma. -/
theorem read_lineLayout {l : Line depth} (hl : l.before = []) (ls : List (Line depth)) :
    Json.read (depth + 1) (lineLayout (l :: ls)) =
      match l.object.members with
      | .ok ms => if ls.isEmpty && !l.comma then .ok (.object ms) else .error .malformed
      | .error n => .error (.tooManyDigits n) := by
  have hafter : ∃ more, lineLayout (l :: ls) = l.object.text ++ (l.tail ++ more) ∧ Stops more ∧
      (skipGaps more).isEmpty = ls.isEmpty := by
    by_cases hls : ls = []
    · subst hls
      exact ⟨[], by simp [lineLayout, Text.join, Line.text, hl], .nil, rfl⟩
    · refine ⟨'\n' :: lineLayout ls, ?_, .cons _ (.inl rfl), ?_⟩
      · simp [lineLayout_cons l hls, Line.text, hl]
      · cases ls with
        | nil => exact absurd rfl hls
        | cons m ls =>
            have hmore : skipGaps ('\n' :: lineLayout (m :: ls)) =
              skipGaps (lineLayout (m :: ls)) :=
              rfl
            rw [hmore]
            simpa using skipGaps_lineLayout m ls
  obtain ⟨more, htext, hmore, hempty⟩ := hafter
  obtain ⟨hstops, hend⟩ := l.stops_tail hmore
  rw [htext, l.object.read_text hstops, hend, hempty, Bool.and_comm]

/-- A line keeps its object, and perhaps blanks after it. -/
theorem trimLine_text (l : Line depth) :
    ∃ gaps, trimLine l.text = l.object.text ++ gaps ∧ ∀ c ∈ gaps, isGap c = true := by
  have htrim : Text.trim l.text = l.flushLeft.flushRight.text := by
    have hleft := trimLeft_line l []
    rw [List.append_nil, List.append_nil] at hleft
    rw [Text.trim, hleft, trimRight_line]
  rw [trimLine, htrim, Line.flushRight]
  cases hl : l.comma with
  | false =>
      refine ⟨[], ?_, nofun⟩
      have htext : l.flushLeft.comma = false := hl
      rw [htext, if_neg Bool.false_ne_true, List.append_nil]
      have hkeep := Text.dropRightWhile_append_char (p := (· == ',')) (c := '\x7d') (by decide)
        ('\x7b' :: l.object.inner)
      simpa [Line.text, Line.tail, Line.flushLeft, hl, Exported.text] using hkeep
  | true =>
      have htext : l.flushLeft.text = l.object.text ++ l.after ++ [','] := by
        simp [Line.text, Line.tail, Line.flushLeft, hl]
      have hcomma : l.flushLeft.comma = true := hl
      refine ⟨l.after, ?_, isGap_of_flat l.after_flat⟩
      rw [hcomma, if_pos rfl, htext, Text.dropRightWhile_append_of_pos (by simp)]
      rcases List.eq_nil_or_concat' l.after with hnil | ⟨g, c, hg⟩
      · rw [hnil, List.append_nil]
        exact Text.dropRightWhile_append_char (by decide) ('\x7b' :: l.object.inner)
      · have hc : (c == ',') = false := by
          rcases l.after_flat c (by simp [hg]) with rfl | rfl <;> decide
        rw [hg, ← List.append_assoc]
        exact Text.dropRightWhile_append_char (p := (· == ',')) hc _

/-- The objects of the lines are those that were written. -/
theorem lineObjects_text (ls : List (Line depth)) :
    (lineObjects (depth + 1) (ls.map Line.text)).outcome = found (ls.map (·.object)) := by
  induction ls with
  | nil => rfl
  | cons l ls ih =>
      obtain ⟨gaps, hline, hgaps⟩ := trimLine_text l
      have hstops : Stops gaps := by
        have h := Stops.gaps hgaps .nil
        rwa [List.append_nil] at h
      have hempty : skipGaps gaps = [] := by
        have h := skipGaps_gaps_append hgaps []
        rwa [List.append_nil] at h
      have hopen : ((l.object.text ++ gaps).head? != some '\x7b') = false := rfl
      rw [List.map_cons, lineObjects]
      simp only [hline]
      rw [hopen, if_neg Bool.false_ne_true, Attempt.outcome_bind, outcome_read?,
        l.object.read_text hstops, hempty, List.map_cons, found, membersOf_cons]
      cases l.object.members with
      | error n => rfl
      | ok ms =>
          rw [found] at ih
          dsimp only [List.isEmpty_nil]
          rw [if_pos rfl]
          simp only [Except.bind, Attempt.outcome_bind, ih]
          cases membersOf (ls.map (·.object)) <;> rfl

/-- A line in whose object no line ends is a line of the text. -/
theorem lines_lineLayout {ls : List (Line depth)} (h : ∀ l ∈ ls, l.object.Unbroken) :
    Text.lines (lineLayout ls) = ls.map Line.text := by
  have hflat {t : Text} (ht : ∀ c ∈ t, c = ' ' ∨ c = '\t') : ∀ c ∈ t, Text.endsLine c = false := by
    intro c hc
    rcases ht c hc with rfl | rfl <;> decide
  refine Text.lines_join fun t ht => ?_
  obtain ⟨l, hl, rfl⟩ := List.mem_map.1 ht
  refine ⟨by simp [Line.text, Exported.text], ?_⟩
  intro c hc
  simp only [Line.text, Line.tail, Exported.text, List.mem_append, List.mem_cons, List.not_mem_nil,
    or_false] at hc
  rcases hc with hbefore | ((rfl | hinner) | rfl) | hafter | hcomma
  · exact hflat l.before_flat c hbefore
  · decide
  · exact h l hl c hinner
  · decide
  · exact hflat l.after_flat c hafter
  · split at hcomma
    · obtain rfl : c = ',' := by simpa using hcomma
      decide
    · cases hcomma

/-- The objects of lines are those that were written, if no line ends in an object, or there is one
object and no comma after it. -/
theorem objects_lineLayout {ls : List (Line depth)}
    (h : (∀ l ∈ ls, l.object.Unbroken) ∨ ∃ l, ls = [l] ∧ l.comma = false) :
    (objects (depth + 1) (lineLayout ls)).outcome = found (ls.map (·.object)) := by
  cases ls with
  | nil => rfl
  | cons l ls =>
      obtain ⟨m, ms, htrim, hbefore, hkept⟩ := trim_lineLayout l ls
      have hobjects : (l :: ls).map (·.object) = (m :: ms).map (·.object) := by
        simpa [Function.comp_def] using (congrArg (List.map Prod.fst) hkept).symm
      rw [outcome_objects htrim (lineLayout_ne_nil (List.cons_ne_nil m ms)),
        read_lineLayout hbefore, hobjects, found, List.map_cons, membersOf_cons]
      cases hmembers : m.object.members with
      | error n => rfl
      | ok members =>
          dsimp only
          by_cases hsingle : (ms.isEmpty && !m.comma) = true
          · obtain ⟨hempty, -⟩ := Bool.and_eq_true_iff.1 hsingle
            obtain rfl : ms = [] := List.isEmpty_iff.1 hempty
            rw [if_pos hsingle]
            rfl
          · rw [if_neg hsingle]
            have hunbroken : ∀ k ∈ m :: ms, k.object.Unbroken := by
              rcases h with h | ⟨k, hk, hcomma⟩
              · intro k hk
                have hk' : k.object ∈ (l :: ls).map (·.object) := by
                  rw [hobjects]
                  exact List.mem_map_of_mem hk
                obtain ⟨k', hk', heq⟩ := List.mem_map.1 hk'
                rw [← heq]
                exact h k' hk'
              · -- one line without a comma is a whole text
                cases hk
                obtain ⟨hhead, hrest⟩ := List.cons.inj hkept
                obtain rfl : ms = [] := List.map_eq_nil_iff.1 hrest
                have hm : m.comma = false := (congrArg Prod.snd hhead).trans hcomma
                exact absurd (by simp [hm]) hsingle
            dsimp only
            rw [lines_lineLayout hunbroken, lineObjects_text, found, List.map_cons, membersOf_cons,
              hmembers]

/-! ## The records -/

/-- The same objects in a list and line by line give the same records, or the same crash, whatever
blanks stand around the objects and wherever there are commas after the lines. -/
theorem records_layouts {items : List (Item depth)} {ls : List (Line depth)}
    (hsame : ls.map (·.object) = items.map (·.object))
    (h : (∀ l ∈ ls, l.object.Unbroken) ∨ ∃ l, ls = [l] ∧ l.comma = false) :
    (records (depth + 1) (lineLayout ls)).outcome =
      (records (depth + 1) (listLayout items)).outcome := by
  rw [records, records, Attempt.outcome_bind, Attempt.outcome_bind, objects_lineLayout h,
    objects_listLayout, hsame]

/-- A task with a comma in its description. -/
def milk : Exported 1 where
  inner := "\"uuid\":\"a\",\"description\":\"milk, eggs\""
  reads := by decide +kernel

/-- A task with a line separator in its description, as it is. -/
def broken : Exported 1 where
  inner := "\"uuid\":\"b\",\"description\":\"x\u2028y\""
  reads := by decide +kernel

/-- The object on a line of its own with a comma after it. -/
def Exported.line (o : Exported depth) : Line depth := ⟨o, [], [' '], true, nofun, by simp⟩

/-- The object as an item of a list. -/
def Exported.item (o : Exported depth) : Item depth := ⟨o, ['\n'], [], by simp [isGap], nofun⟩

theorem records_layouts_twice :
    (records 2 (lineLayout [milk.line, milk.line])).outcome =
      (records 2 (listLayout [milk.item, milk.item])).outcome := by
  refine records_layouts rfl (.inl ?_)
  have hmilk : milk.inner.all (!Text.endsLine ·) = true := by decide +kernel
  intro l hl c hc
  obtain rfl : l = milk.line := by simpa using hl
  simpa using List.all_eq_true.1 hmilk c hc

/-- Line by line a broken object is lost, and in a list it is not. -/
example :
    ((records 2 (lineLayout [broken.line, milk.line])).outcome.toOption.map (·.map Record.uuid) =
        some [("a" : Text)]) ∧
      (records 2 (listLayout [broken.item, milk.item])).outcome.toOption.map (·.map Record.uuid) =
        some [("b" : Text), ("a" : Text)] := by
  decide +kernel

end Export

end TaskBrowser
