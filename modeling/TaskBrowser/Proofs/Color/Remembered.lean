import TaskBrowser.Files.Tree
import TaskBrowser.Platform
import TaskBrowser.Proofs.Record.Order
import TaskBrowser.Proofs.Session.Reachable

/-!
# The colour pairs that records remember

A record remembers the colour pairs that were found for it, and the rules may change later.  The
pair of a task is nevertheless always the one that the current rules give it: the pair of the last
rule for tasks that holds for it (`Scheme.ruledPair`), or the terminal's own if none does.

The invariant is that every record `Remembers` what the rules would give it.  Records that are
loaded remember nothing, changing the rules makes all records forget, and a record that is moved to
another place keeps what it remembers.
-/

namespace TaskBrowser

/-! ## Forgetting -/

theorem Record.forgetPairs_withPair (r : Record) (selected : Bool) (pair : Nat) :
    (r.withPair selected pair).forgetPairs = r.forgetPairs := by
  cases selected <;> rfl

namespace Session

/-- All records forget their pairs when a rule is added. -/
theorem addRule_fresh {b b' : Board} {object : ColorObject} {predicate : Option Text}
    {c : ColorPair} {n : Nat} (h : b.addRule object predicate c = .ok (n, b')) :
    ∀ r ∈ b'.store, r.IsFresh := by
  rw [Board.addRule] at h
  split at h
  · cases h
  · cases h
    intro r hr
    obtain ⟨r', _, rfl⟩ := List.mem_map.1 hr
    exact r'.forgetPairs_isFresh

/-- All records forget their pairs when a rule is taken away. -/
theorem removeRule_fresh (b : Board) (object : ColorObject) (predicate : Option Text) :
    (b.removeRule object predicate).2 = b ∨
      ∀ r ∈ (b.removeRule object predicate).2.store, r.IsFresh := by
  rw [Board.removeRule]
  cases b.scheme.remove? object predicate with
  | none => exact .inl rfl
  | some scheme =>
      right
      intro r hr
      obtain ⟨r', _, rfl⟩ := List.mem_map.1 hr
      exact r'.forgetPairs_isFresh

end Session

section General

variable [Interpreter]

/-! ## What the rules give -/

namespace Scheme

/-- The rules for tasks that hold for a task, in order. -/
def ruling (s : Scheme) (r : Record) (selected : Bool) : Except Fault (List ColorRule) :=
  (s.rulesFor .task).filterM fun rule => (Predicate.holds rule.predicate (some r) selected).outcome

/-- The pair of the last rule for tasks that holds for a task. -/
def ruledPair (s : Scheme) (r : Record) (selected : Bool) : Except Fault Nat :=
  (s.ruling r selected).map fun rules =>
    (rules.getLast?.map ColorRule.pair).getD Palette.terminalPair

/-- The pair found last is that of the rule that was last found to hold. -/
theorem lastPair_outcome (record : Option Record) (selected : Bool) (none : Nat)
    (rules : List ColorRule) :
    ∀ (held : List ColorRule),
      (lastPair record selected ((held.head?.map ColorRule.pair).getD none) rules).outcome =
        (rules.filterAuxM (fun rule => (Predicate.holds rule.predicate record selected).outcome)
          held).map fun held => (held.head?.map ColorRule.pair).getD none := by
  induction rules with
  | nil => intro held; rfl
  | cons rule rules ih =>
      intro held
      rw [lastPair, Attempt.outcome_bind, List.filterAuxM]
      cases (Predicate.holds rule.predicate record selected).outcome with
      | error e => rfl
      | ok b =>
          cases b with
          | true => exact ih (rule :: held)
          | false => exact ih held

/-- What is found without looking at what is remembered is what the rules give. -/
theorem freshPair_outcome (s : Scheme) (r : Record) (selected : Bool) :
    (s.freshPair (some r) selected).outcome = s.ruledPair r selected := by
  have hlast := lastPair_outcome (some r) selected Palette.terminalPair (s.rulesFor .task) []
  rw [freshPair, ruledPair, ruling, List.filterM]
  refine hlast.trans ?_
  cases (s.rulesFor .task).filterAuxM
      (fun rule => (Predicate.holds rule.predicate (some r) selected).outcome) [] with
  | error e => rfl
  | ok held => simp [Except.map, bind, Except.bind, pure, Except.pure]

end Scheme

/-! ## What is remembered does not count -/

namespace Predicate

theorem answer_forgetPairs (r : Record) (selected : Bool) (q : Question) :
    answer (some r.forgetPairs) selected q = answer (some r) selected q := by
  cases q with
  | selected => rfl
  | started => rfl
  | isLike subject pattern => cases subject <;> rfl

theorem allHold_forgetPairs (r : Record) (selected : Bool) (cs : List Clause) :
    allHold (some r.forgetPairs) selected cs = allHold (some r) selected cs := by
  induction cs with
  | nil => rfl
  | cons c cs ih => rw [allHold, allHold, answer_forgetPairs, ih]

/-- Whether a predicate holds for a task has nothing to do with the pairs it remembers. -/
theorem holds_forgetPairs (rule : Option Text) (r : Record) (selected : Bool) :
    holds rule (some r.forgetPairs) selected = holds rule (some r) selected := by
  rw [holds.eq_def, holds.eq_def]
  split
  · rfl
  · rfl
  · split
    · rfl
    · exact allHold_forgetPairs r selected _

end Predicate

theorem Scheme.ruledPair_forgetPairs (s : Scheme) (r : Record) (selected : Bool) :
    s.ruledPair r.forgetPairs selected = s.ruledPair r selected := by
  simp only [ruledPair, ruling, Predicate.holds_forgetPairs]

/-- Remembering a pair changes nothing about what the rules give. -/
theorem Scheme.ruledPair_withPair (s : Scheme) (r : Record) (selected now : Bool) (pair : Nat) :
    s.ruledPair (r.withPair now pair) selected = s.ruledPair r selected := by
  rw [← ruledPair_forgetPairs, Record.forgetPairs_withPair, ruledPair_forgetPairs]

/-! ## Remembering rightly -/

/-- The pairs that the record remembers are those that the rules give it. -/
def Record.Remembers (s : Scheme) (r : Record) : Prop :=
  ∀ selected pair, r.pair selected = some pair → s.ruledPair r selected = .ok pair

theorem Record.IsFresh.remembers {r : Record} (h : r.IsFresh) (s : Scheme) : r.Remembers s := by
  intro selected pair hpair
  rw [h selected] at hpair
  cases hpair

namespace Scheme

variable {s : Scheme} {r : Record}

/-- A task that remembers rightly gets the pair that the rules give it. -/
theorem taskPair_outcome (h : r.Remembers s) (selected : Bool) :
    (s.taskPair r selected).outcome.map Prod.fst = s.ruledPair r selected := by
  rw [taskPair]
  cases hpair : r.pair selected with
  | some pair => exact (h selected pair hpair).symm
  | none =>
      dsimp only
      split
      next hnone =>
        rw [ruledPair, ruling, List.isEmpty_iff.1 hnone]
        rfl
      next =>
        rw [Attempt.outcome_bind, freshPair_outcome]
        cases s.ruledPair r selected <;> rfl

/-- Finding the pair of a task changes nothing else about it. -/
theorem taskPair_forgetPairs {selected : Bool} {pair : Nat} {r' : Record}
    (hr : (s.taskPair r selected).outcome = .ok (pair, r')) : r'.forgetPairs = r.forgetPairs := by
  rw [taskPair] at hr
  split at hr
  · cases hr
    rfl
  · split at hr
    · cases hr
      rfl
    · obtain ⟨found, -, hr⟩ := Attempt.outcome_bind_eq_ok.1 hr
      cases hr
      exact r.forgetPairs_withPair selected pair

/-- The record that remembers the pair just found remembers rightly if it did before. -/
theorem taskPair_remembers (h : r.Remembers s) {selected : Bool} {pair : Nat} {r' : Record}
    (hr : (s.taskPair r selected).outcome = .ok (pair, r')) : r'.Remembers s := by
  rw [taskPair] at hr
  cases hpair : r.pair selected with
  | some found =>
      rw [hpair] at hr
      cases hr
      exact h
  | none =>
      rw [hpair] at hr
      dsimp only at hr
      split at hr
      · cases hr
        exact h
      · obtain ⟨found, hfound, hr⟩ := Attempt.outcome_bind_eq_ok.1 hr
        cases hr
        rw [freshPair_outcome] at hfound
        intro now known hknown
        rw [ruledPair_withPair]
        by_cases hnow : now = selected
        · subst hnow
          obtain rfl : pair = known := by
            cases now <;> exact Option.some.inj hknown
          exact hfound
        · refine h now known ?_
          cases now <;> cases selected <;> first | exact hknown | exact absurd rfl hnow

end Scheme

/-! ## All records remember rightly -/

namespace Session

/-- All records remember the pairs that the rules give them. -/
def Remembers (s : Session) : Prop := ∀ r ∈ s.store, r.Remembers s.scheme

variable {s t : Session}

/-- The records are among those that were there before, or they remember nothing. -/
theorem Remembers.of_mem (h : s.Remembers) (hscheme : t.scheme = s.scheme)
    (hstore : ∀ r ∈ t.store, r ∈ s.store ∨ r.IsFresh) : t.Remembers := by
  intro r hr
  rw [hscheme]
  rcases hstore r hr with hmem | hfresh
  · exact h r hmem
  · exact hfresh.remembers s.scheme

theorem Remembers.of_fresh (h : ∀ r ∈ t.store, r.IsFresh) : t.Remembers :=
  fun r hr => (h r hr).remembers t.scheme

theorem Remembers.settled (h : s.Remembers) {current : Option Record}
    (ht : s.settled current = .ok t) : t.Remembers := by
  obtain ⟨sorted, n, hsorted, rfl⟩ := settled_eq_ok ht
  intro r hr
  exact h r ((sortRecords_perm hsorted).mem_iff.1 hr)

/-- Whatever the mode and the position, the records and the rules are the same. -/
theorem Remembers.withMode (h : s.Remembers) (mode : Option Text) :
    (s.withMode mode).Remembers := by
  rcases mode with _ | _ | ⟨c, t⟩ <;> exact h

theorem Remembers.selectUuid (h : s.Remembers) (uuid : Text) : (s.selectUuid uuid).Remembers := by
  rw [Session.selectUuid]
  cases s.store.position? uuid <;> exact h

theorem Remembers.replace (h : s.Remembers) {kept : Option Record} (uuid : Text)
    (hfresh : ∀ r, kept = some r → r.IsFresh) :
    Session.Remembers { s with store := s.store.replace uuid kept } := by
  refine h.of_mem rfl ?_
  intro r hr
  rcases Store.mem_replace hr with hmem | hkept
  · exact .inl hmem
  · exact .inr (hfresh r hkept)

variable [Validator]

/-- Every step preserves what records remember. -/
theorem Change.remembers {may : Entry → Prop} (hchange : Change may s t) (h : s.Remembers) :
    t.Remembers := by
  cases hchange with
  | notified message isError => exact h
  | versioned version => exact h
  | moved position => exact h
  | movedTo uuid => exact h.selectUuid uuid
  | found hn => exact h
  | searching text => exact h
  | filtered filter => exact h
  | loaded hfresh hsettled => exact (Remembers.of_fresh hfresh).settled hsettled
  | sorted mode hsettled => exact (h.withMode mode).settled hsettled
  | refreshed uuid hfresh hu hsettled =>
      subst hu
      exact (h.replace uuid hfresh).settled hsettled
  | assigned he hsource hmay hplain hset => exact h
  | reformatted he hsource hmay hformat hset hts => exact h
  | levelled level => exact h
  | ruled hrule => exact .of_fresh (addRule_fresh hrule)
  | unruled object predicate =>
      rcases removeRule_fresh s.board object predicate with hsame | hfresh
      · rw [hsame]
        exact h
      · exact .of_fresh hfresh
  | colored hr hpair =>
      intro r hmem
      rcases List.mem_or_eq_of_mem_set hmem with hmem | rfl
      · exact h r hmem
      · exact Scheme.taskPair_remembers (h _ (List.mem_of_getElem? hr)) hpair

/-- So does a step that a crash leaves half done. -/
theorem Cut.remembers (hcut : Cut s t) (h : s.Remembers) : t.Remembers := by
  cases hcut with
  | loaded hfresh => exact .of_fresh hfresh
  | sorted mode => exact h.withMode mode
  | refreshed uuid hfresh => exact h.replace uuid hfresh
  | reformatted hformat hset ts => exact h

theorem Reachable.remembers {ends : Except Fault Unit → Prop} (hs : Reachable ends s) :
    s.Remembers := by
  refine hs.invariant ?_ (fun _ _ => Change.remembers) (fun _ _ _ => Cut.remembers)
  intro c h w hw r hr
  rw [create_store hw] at hr
  cases hr

/-- In every reachable session, whatever operations led to it and however they ended, every task
gets the pair that the current rules give it, and so do the pairs that its record remembers. -/
theorem reachable_taskPair {ends : Except Fault Unit → Prop} (hs : Reachable ends s) {r : Record}
    (hr : r ∈ s.store) (selected : Bool) :
    (s.scheme.taskPair r selected).outcome.map Prod.fst = s.scheme.ruledPair r selected ∧
      ∀ pair, r.pair selected = some pair → s.scheme.ruledPair r selected = .ok pair :=
  ⟨Scheme.taskPair_outcome (hs.remembers r hr) selected, hs.remembers r hr selected⟩

end Session

end General

namespace Session

/-- A host whose task program has one task. -/
def oneTaskHost : Host where
  files := fun _ _ => FileTree.system []
  now := .universal 2024 6 1 9 30
  answers := [.ended "\x7b\"uuid\":\"a\",\"description\":\"b\"\x7d" "" 0]

/-- A new session on the host of one task. -/
def oneTask : World := (create { commandFile := .ofText "rc" } oneTaskHost).2

/-- The task is loaded and drawn, the rule for the selected task gets other colours, and the task
is drawn again. -/
def oneTaskRecolored : World :=
  runAll [.reload, .renderAll, .command "color task red black ~s" false, .renderAll] oneTask

/-- The task that is drawn again has the pair of the new colours. -/
theorem reachable_taskPair_recolored :
    ∃ r, Reachable (fun _ => True) oneTaskRecolored.session ∧ r ∈ oneTaskRecolored.session.store ∧
      r.pair true = some 5 ∧
      (oneTaskRecolored.session.scheme.taskPair r true).outcome.map Prod.fst = .ok 5 := by
  have hnew : create { commandFile := .ofText "rc" } oneTaskHost = (.ok (), oneTask) :=
    Prod.ext (by rfl) rfl
  have hs : Reachable (fun _ => True) oneTaskRecolored.session := .runAll _ (.created hnew)
  obtain ⟨r, hr, hpair⟩ : ∃ r,
      oneTaskRecolored.session.store[0]? = some r ∧ r.pair true = some 5 := by
    rw [← Option.map_eq_some_iff]
    decide +kernel
  have hmem := List.mem_of_getElem? hr
  obtain ⟨hresolved, hremembered⟩ := reachable_taskPair hs hmem true
  exact ⟨r, hs, hmem, hpair, hresolved.trans (hremembered 5 hpair)⟩

end Session

end TaskBrowser
