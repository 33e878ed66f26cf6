import TaskBrowser.Files.Tree
import TaskBrowser.Platform
import TaskBrowser.Proofs.Effect

/-!
# Searching for the next match

The next match is the first one in the order in which the positions come after the selection and
then from the top on down to it (`cycleFrom`).  That order starts anew at the match that was found:
what was before it has moved to the end (`cycleFrom_of_append`).  So searching again goes on where
the search before has stopped, and the matches that are found one after another are the matches of
the first order (`searches_eq`).  When the selected task matches, it is the last of them.
-/

namespace TaskBrowser

namespace Session

/-! ## Positions in a cycle -/

/-- The positions of a list after one of them and then from the top on down to it. -/
def cycleFrom (count position : Nat) : List Nat :=
  List.range' (position + 1) (count - (position + 1)) ++ List.range (position + 1)

theorem cycleFrom_eq_rotate {count position : Nat} (h : position < count) :
    cycleFrom count position = (List.range count).rotate (position + 1) := by
  obtain ⟨more, rfl⟩ := Nat.exists_eq_add_of_lt h
  have hrange : List.range (position + more + 1) =
      List.range (position + 1) ++ List.range' (position + 1) more := by
    have happend := List.range'_append_1 (s := 0) (m := position + 1) (n := more)
    rw [Nat.zero_add, ← List.range_eq_range'] at happend
    rw [happend, List.range_eq_range', Nat.add_right_comm]
  have hmore : position + more + 1 - (position + 1) = more := by omega
  have hrotate := List.rotate_append_length_eq (List.range (position + 1))
    (List.range' (position + 1) more)
  rw [List.length_range] at hrotate
  rw [cycleFrom, hmore, hrange, hrotate]

/-- A selection beyond the end counts on from the top. -/
theorem searchOrder_eq {count : Nat} (hcount : 0 < count) (selected : Nat) :
    searchOrder count selected = cycleFrom count (selected % count) := by
  have hrotate : searchOrder count selected = (List.range count).rotate (selected + 1) := by
    refine List.ext_getElem (by simp [searchOrder]) fun k _ _ => ?_
    simp only [searchOrder, List.getElem_map, List.getElem_range, List.getElem_rotate,
      List.length_range]
    congr 1
    omega
  rw [hrotate, cycleFrom_eq_rotate (Nat.mod_lt selected hcount), ← List.rotate_mod,
    ← List.rotate_mod (List.range count) (selected % count + 1), List.length_range,
    Nat.mod_add_mod]

theorem cycleFrom_perm {count position : Nat} (h : position < count) :
    (cycleFrom count position).Perm (List.range count) := by
  rw [cycleFrom_eq_rotate h]
  exact List.rotate_perm _ _

/-- From a position on, those before it come at the end. -/
theorem cycleFrom_of_append {count position next : Nat} {before after : List Nat}
    (h : position < count) (happend : cycleFrom count position = before ++ next :: after) :
    next < count ∧ cycleFrom count next = after ++ (before ++ [next]) := by
  have hnext : next < count := by
    rw [← List.mem_range, ← (cycleFrom_perm h).mem_iff, happend]
    exact List.mem_append_right before List.mem_cons_self
  rw [cycleFrom_eq_rotate h] at happend
  have hplace : next = (before.length + (position + 1)) % count := by
    have hget : ((List.range count).rotate (position + 1))[before.length]? = some next := by
      rw [happend]
      simp
    rw [List.getElem?_eq_some_iff] at hget
    obtain ⟨hlt, hget⟩ := hget
    rw [List.getElem_rotate, List.getElem_range, List.length_range] at hget
    exact hget.symm
  refine ⟨hnext, ?_⟩
  calc
    cycleFrom count next = (List.range count).rotate (position + 1 + (before.length + 1)) := by
      rw [cycleFrom_eq_rotate hnext, ← List.rotate_mod,
        ← List.rotate_mod (List.range count) (position + 1 + (before.length + 1)),
        List.length_range, hplace, Nat.mod_add_mod]
      congr 2
      omega
    _ = ((before ++ [next]) ++ after).rotate (before ++ [next]).length := by
      rw [← List.rotate_rotate, happend]
      simp
    _ = after ++ (before ++ [next]) := List.rotate_append_length_eq _ _

/-! ## One search -/

/-- The session after a search that has found a match, or none. -/
def afterSearch (s : Session) (pattern : Text) : Option Nat → Session
  | none => { s with message := some ("no matches: " ++ pattern), messageIsError := true }
  | some n =>
      if n < s.selected then
        { s with selected := n, message := some "search wrapped to top", messageIsError := false }
      else { s with selected := n }

theorem afterSearch_store (s : Session) (pattern : Text) (found : Option Nat) :
    (s.afterSearch pattern found).store = s.store := by
  rcases found with _ | n
  · rfl
  · rw [afterSearch]
    split <;> rfl

theorem afterSearch_search (s : Session) (pattern : Text) (found : Option Nat) :
    (s.afterSearch pattern found).search = s.search := by
  rcases found with _ | n
  · rfl
  · rw [afterSearch]
    split <;> rfl

theorem afterSearch_selected (s : Session) (pattern : Text) (n : Nat) :
    (s.afterSearch pattern (some n)).selected = n := by
  rw [afterSearch]
  split <;> rfl

variable [Interpreter]

/-- Whether a task matches a pattern. -/
def isMatch (pattern : Text) (r : Record) : Bool := (taskMatch r pattern).toOption == some true

/-- Whether the task at a position matches a pattern. -/
def matchesAt (store : Store) (pattern : Text) (position : Nat) : Bool :=
  store[position]?.any (isMatch pattern)

/-- Trying a pattern on the tasks does not crash. -/
def Searchable (store : Store) (pattern : Text) : Prop :=
  ∀ r ∈ store, ∃ b, taskMatch r pattern = .ok b

instance (store : Store) (pattern : Text) : Decidable (Searchable store pattern) :=
  inferInstanceAs (Decidable (∀ r ∈ store, ∃ b, taskMatch r pattern = .ok b))

variable {store : Store} {pattern : Text} {w : World}

theorem isMatch_iff {r : Record} : isMatch pattern r = true ↔ taskMatch r pattern = .ok true := by
  rw [isMatch]
  cases taskMatch r pattern with
  | error c => simp [Except.toOption]
  | ok b => simp [Except.toOption]

theorem matchesAt_iff {position : Nat} :
    matchesAt store pattern position = true ↔
      ∃ r, store[position]? = some r ∧ taskMatch r pattern = .ok true := by
  simp only [matchesAt, Option.any_eq_true, isMatch_iff]

theorem lt_of_matchesAt {position : Nat} (h : matchesAt store pattern position = true) :
    position < store.length := by
  obtain ⟨r, hr, -⟩ := matchesAt_iff.1 h
  exact (List.getElem?_eq_some_iff.1 hr).1

/-- Some task matches if one matches at a position of a cycle. -/
theorem exists_match_iff {position : Nat} (h : position < store.length) :
    (∃ n ∈ cycleFrom store.length position, matchesAt store pattern n = true) ↔
      ∃ r ∈ store, taskMatch r pattern = .ok true := by
  constructor
  · rintro ⟨n, -, hn⟩
    obtain ⟨r, hr, hmatch⟩ := matchesAt_iff.1 hn
    exact ⟨r, List.mem_of_getElem? hr, hmatch⟩
  · rintro ⟨r, hr, hmatch⟩
    obtain ⟨n, hn⟩ := List.getElem?_of_mem hr
    have hmatches : matchesAt store pattern n = true := matchesAt_iff.2 ⟨r, hn, hmatch⟩
    refine ⟨n, ?_, hmatches⟩
    rw [(cycleFrom_perm h).mem_iff, List.mem_range]
    exact lt_of_matchesAt hmatches

/-- As many positions of a cycle match as tasks do. -/
theorem countP_cycleFrom {position : Nat} (h : position < store.length) :
    (cycleFrom store.length position).countP (matchesAt store pattern) =
      store.countP (isMatch pattern) := by
  have hrange (p : Record → Bool) (rs : List Record) :
      (List.range rs.length).countP (fun n => rs[n]?.any p) = rs.countP p := by
    induction rs with
    | nil => rfl
    | cons r rs ih =>
        rw [List.length_cons, List.range_succ_eq_map, List.countP_cons, List.countP_map,
          List.countP_cons, ← ih]
        rfl
  rw [(cycleFrom_perm h).countP_eq]
  exact hrange (isMatch pattern) store

theorem firstMatch_eq {s : Session} (h : Searchable s.store pattern) (ns : List Nat) :
    s.firstMatch pattern ns = .ok (ns.find? (matchesAt s.store pattern)) := by
  induction ns with
  | nil => rfl
  | cons n ns ih =>
      rw [firstMatch, List.find?_cons, matchesAt]
      cases hr : s.store[n]? with
      | none => exact ih
      | some r =>
          obtain ⟨b, hb⟩ := h r (List.mem_of_getElem? hr)
          cases b with
          | true => simp [isMatch, hb, Except.toOption]
          | false => simp [isMatch, hb, Except.toOption, ih]

/-- A search selects the first match of the cycle, and tells whether there is one. -/
theorem searchNext_finds (hsearch : w.session.search = some pattern) (hpattern : pattern ≠ [])
    (hstore : w.session.store ≠ []) (hsearchable : Searchable w.session.store pattern)
    {found : Option Nat}
    (hfound : (cycleFrom w.session.store.length
      (w.session.selected % w.session.store.length)).find? (matchesAt w.session.store pattern) =
        found) :
    (effect searchNext w).1 = .ok found.isSome ∧
      (effect searchNext w).2.session = w.session.afterSearch pattern found := by
  have hfirst := firstMatch_eq hsearchable
    (searchOrder w.session.store.length w.session.selected)
  rw [searchOrder_eq (List.length_pos_iff.2 hstore), hfound] at hfirst
  rw [searchNext, effect_bind, Action.effect_session]
  dsimp only
  split
  next c t r rs hsearch' hstore' =>
    obtain rfl : pattern = c :: t := Option.some.inj (hsearch.symm.trans hsearch')
    rw [effect_bind, Action.effect_orCrash, searchOrder_eq (List.length_pos_iff.2 hstore), hfirst]
    cases found with
    | none => exact ⟨rfl, rfl⟩
    | some n =>
        by_cases hwrapped : n < w.session.selected
        · simp only [Except.mapError, if_pos hwrapped, afterSearch]
          exact ⟨rfl, rfl⟩
        · simp only [Except.mapError, if_neg hwrapped, afterSearch]
          exact ⟨rfl, rfl⟩
  next hnone =>
    obtain ⟨c, t, rfl⟩ := List.exists_cons_of_ne_nil hpattern
    obtain ⟨r, rs, hcons⟩ := List.exists_cons_of_ne_nil hstore
    exact absurd hcons (hnone c t r rs hsearch)

/-- A search goes on to the next match ahead in the cycle, which starts anew behind it. -/
theorem searchNext_ahead {before after behind : List Nat} {next : Nat}
    (hsearch : w.session.search = some pattern) (hpattern : pattern ≠ [])
    (hsearchable : Searchable w.session.store pattern)
    (hselected : w.session.selected < w.session.store.length)
    (hcycle : cycleFrom w.session.store.length w.session.selected =
      before ++ next :: (after ++ behind))
    (hbefore : ∀ k ∈ before, (!matchesAt w.session.store pattern k) = true)
    (hmatch : matchesAt w.session.store pattern next = true) :
    (effect searchNext w).1 = .ok true ∧
      (effect searchNext w).2.session.search = some pattern ∧
      (effect searchNext w).2.session.store = w.session.store ∧
      (effect searchNext w).2.session.selected = next ∧
      next < w.session.store.length ∧
      cycleFrom w.session.store.length next = after ++ (behind ++ (before ++ [next])) := by
  have hstore : w.session.store ≠ [] := by
    intro hnil
    rw [hnil] at hselected
    cases hselected
  have hfound : (cycleFrom w.session.store.length
      (w.session.selected % w.session.store.length)).find?
        (matchesAt w.session.store pattern) = some next := by
    rw [Nat.mod_eq_of_lt hselected, hcycle]
    exact List.find?_eq_some_iff_append.2 ⟨hmatch, before, after ++ behind, rfl, hbefore⟩
  obtain ⟨hreturns, hsession⟩ := searchNext_finds hsearch hpattern hstore hsearchable hfound
  obtain ⟨hnext, hanew⟩ := cycleFrom_of_append hselected hcycle
  rw [List.append_assoc] at hanew
  refine ⟨hreturns, ?_, ?_, ?_, hnext, hanew⟩
  · rw [hsession, afterSearch_search, hsearch]
  · rw [hsession, afterSearch_store]
  · rw [hsession, afterSearch_selected]

/-! ## One search after another -/

/-- How searches one after another end, each with what is selected after it. -/
def searches : Nat → World → List (Except Fault Bool × Nat)
  | 0, _ => []
  | n + 1, w =>
      ((effect searchNext w).1, (effect searchNext w).2.session.selected) ::
        searches n (effect searchNext w).2

/-- Searches one after another find the matches of a part of the cycle in their order. -/
theorem searches_eq (n : Nat) {ahead behind : List Nat} :
    ∀ {w : World}, w.session.search = some pattern → pattern ≠ [] →
      Searchable w.session.store pattern → w.session.selected < w.session.store.length →
      cycleFrom w.session.store.length w.session.selected = ahead ++ behind →
      ahead.countP (matchesAt w.session.store pattern) = n →
      searches n w =
        (ahead.filter (matchesAt w.session.store pattern)).map fun k => (.ok true, k) := by
  induction n generalizing ahead behind with
  | zero =>
      intro w _ _ _ _ _ hcount
      rw [List.countP_eq_length_filter] at hcount
      rw [List.eq_nil_of_length_eq_zero hcount]
      rfl
  | succ n ih =>
      intro w hsearch hpattern hsearchable hselected hcycle hcount
      obtain ⟨next, hnext⟩ : ∃ next,
        ahead.find? (matchesAt w.session.store pattern) = some next := by
        rw [← Option.isSome_iff_exists, List.find?_isSome, ← List.countP_pos_iff]
        omega
      obtain ⟨hmatch, before, after, rfl, hbefore⟩ := List.find?_eq_some_iff_append.1 hnext
      rw [List.append_assoc, List.cons_append] at hcycle
      obtain ⟨hreturns, hsearch', hstore, hselected', hlt, hanew⟩ :=
        searchNext_ahead hsearch hpattern hsearchable hselected hcycle hbefore hmatch
      have hnone : before.filter (matchesAt w.session.store pattern) = [] :=
        List.filter_eq_nil_iff.2 fun k hk => by simpa using hbefore k hk
      rw [List.countP_eq_length_filter, List.filter_append, hnone, List.nil_append,
        List.filter_cons_of_pos hmatch, List.length_cons, ← List.countP_eq_length_filter] at hcount
      have hrest := ih hsearch' hpattern (hstore ▸ hsearchable)
        (hstore ▸ hselected' ▸ hlt) (hstore ▸ hselected' ▸ hanew)
        (hstore ▸ Nat.succ.inj hcount)
      rw [searches, hreturns, hselected', hrest, hstore, List.filter_append, hnone,
        List.nil_append, List.filter_cons_of_pos hmatch]
      rfl

/-- A search for the next match tells whether some task matches, and changes nothing but the
selection and the message: it selects the first match in the order of the positions after the
selection and then from the top on down to it, with a notice exactly if that is above the selection,
or leaves the selection and tells that nothing matches.  So if the selected task matches, as many
searches as there are matches find each of them once, the selected one at last. -/
theorem searchNext_cycles (hsearch : w.session.search = some pattern) (hpattern : pattern ≠ [])
    (hstore : w.session.store ≠ []) (hsearchable : Searchable w.session.store pattern) :
    (∃ found, (effect searchNext w).1 = .ok found ∧
      (found = true ↔ ∃ r ∈ w.session.store, taskMatch r pattern = .ok true)) ∧
      (match (cycleFrom w.session.store.length
          (w.session.selected % w.session.store.length)).find?
            (matchesAt w.session.store pattern) with
        | some n => (effect searchNext w).1 = .ok true ∧
            (effect searchNext w).2.session = { w.session with
              selected := n
              message := if n < w.session.selected then some "search wrapped to top"
                else w.session.message
              messageIsError := !decide (n < w.session.selected) && w.session.messageIsError }
        | none => (effect searchNext w).1 = .ok false ∧
            (effect searchNext w).2.session = { w.session with
              message := some ("no matches: " ++ pattern)
              messageIsError := true }) ∧
      ((∃ r, w.session.selectedRecord = some r ∧ taskMatch r pattern = .ok true) →
        ∃ visited : List Nat,
          searches (w.session.store.countP (isMatch pattern)) w =
              visited.map (fun n => (.ok true, n)) ∧
            visited.Nodup ∧
            (∀ n, n ∈ visited ↔
              ∃ r, w.session.store[n]? = some r ∧ taskMatch r pattern = .ok true) ∧
            visited.getLast? = some w.session.selected) := by
  have hlength : 0 < w.session.store.length := List.length_pos_iff.2 hstore
  have hposition := Nat.mod_lt w.session.selected hlength
  refine ⟨?_, ?_, ?_⟩
  · obtain ⟨hreturns, -⟩ := searchNext_finds hsearch hpattern hstore hsearchable rfl
    refine ⟨_, hreturns, ?_⟩
    rw [List.find?_isSome, exists_match_iff hposition]
  · cases hfound : (cycleFrom w.session.store.length
        (w.session.selected % w.session.store.length)).find?
          (matchesAt w.session.store pattern) with
    | none => exact searchNext_finds hsearch hpattern hstore hsearchable hfound
    | some n =>
        obtain ⟨hreturns, hsession⟩ := searchNext_finds hsearch hpattern hstore hsearchable hfound
        refine ⟨hreturns, hsession.trans ?_⟩
        by_cases hwrapped : n < w.session.selected
        · simp [afterSearch, hwrapped]
        · simp [afterSearch, hwrapped]
  · intro hmatch
    have hselected : w.session.selected < w.session.store.length :=
      lt_of_matchesAt (matchesAt_iff.2 hmatch)
    have hall := searches_eq _ hsearch hpattern hsearchable hselected (List.append_nil _).symm
      (countP_cycleFrom hselected)
    refine ⟨_, hall, ?_, ?_, ?_⟩
    · exact ((cycleFrom_perm hselected).nodup_iff.2 List.nodup_range).filter _
    · intro n
      rw [List.mem_filter, matchesAt_iff, (cycleFrom_perm hselected).mem_iff, List.mem_range]
      refine and_iff_right_of_imp ?_
      rintro ⟨r, hr, -⟩
      exact (List.getElem?_eq_some_iff.1 hr).1
    · rw [cycleFrom, List.range_succ, ← List.append_assoc, List.filter_append,
        List.filter_cons_of_pos (matchesAt_iff.2 hmatch)]
      exact List.getLast?_concat

end Session

namespace Session

/-- Four tasks of which all but the first match, the third one selected. -/
def household : World where
  session := { bare { commandFile := .ofText "rc" } with
    store := [
      { uuid := "a", description := "roof" }, { uuid := "b", description := "Cat" },
      { uuid := "c", description := "tax" },
      { uuid := "d", description := "rug", tags := ["Attic"] }]
    search := some "at|ax"
    selected := 2 }
  host := {
    files := fun _ _ => FileTree.system []
    now := .universal 2024 6 1 9 30
    answers := [] }

/-- Three searches select the last task, the second one, and the third one again. -/
theorem searchNext_cycles_household :
    Searchable household.session.store "at|ax" ∧
      (∃ visited : List Nat, searches 3 household = visited.map (fun n => (.ok true, n)) ∧
        visited.Nodup ∧ visited.getLast? = some 2) ∧
      (searches 3 household).map Prod.snd = [3, 1, 2] := by
  have hsearchable : Searchable household.session.store "at|ax" := by decide +kernel
  have hselected : ∃ r, household.session.selectedRecord = some r ∧
      taskMatch r "at|ax" = .ok true := ⟨_, rfl, by decide +kernel⟩
  have hcount : household.session.store.countP (isMatch "at|ax") = 3 := by decide +kernel
  obtain ⟨-, -, hcycle⟩ := searchNext_cycles (w := household) rfl (by decide) (by decide)
    hsearchable
  obtain ⟨visited, hall, hnodup, -, hlast⟩ := hcycle hselected
  rw [hcount] at hall
  exact ⟨hsearchable, ⟨visited, hall, hnodup, hlast⟩, by decide +kernel⟩

end Session

end TaskBrowser
