import TaskBrowser.Platform
import TaskBrowser.Proofs.Color.Grammar

/-!
# Parts of a task that are not set

A clause with a pattern asks about a part of a task that may not be set.  A project or tags that are
not set reach the matcher as nothing, which no pattern matches, so the clause is answered without
looking at its pattern.  A priority that is not set reaches it as the empty text instead, and there
are patterns that match the empty text (`FindsNothing`).

`unset_rules` says what that comes to.  A predicate with a clause on a part that is not set is
false, whatever its other clauses say, unless the part is the priority and the pattern matches the
empty text.  In that case the clause is always true, and the predicate is what the other clauses
make it.
-/

namespace TaskBrowser

/-- A part of the task is not set.  The description always is. -/
def Record.Unset (r : Record) : Subject → Prop
  | .project => r.project = none
  | .description => False
  | .tags => r.tags = []
  | .priority => r.priority = none

namespace Predicate

variable {r : Record} {s : Subject} {pattern : Text} {selected : Bool} {cs : List Clause}

/-- Only a priority that is not set is matched with anything, and that with the empty text. -/
theorem subjectOf_unset (h : r.Unset s) :
    subjectOf r s = if s = .priority then some (.text []) else none := by
  cases s with
  | project => rw [subjectOf, show r.project = none from h]; rfl
  | description => exact h.elim
  | tags => rw [subjectOf, Record.tagsText, show r.tags = [] from h]; rfl
  | priority => rw [subjectOf, show r.priority = none from h]; rfl

section General

variable [Interpreter]

/-- A pattern for the priority that matches the empty text. -/
def FindsNothing (s : Subject) (pattern : Text) : Prop :=
  s = .priority ∧ ∃ p, Interpreter.compile pattern = .ok p ∧ p [] = true

/-! ## One clause -/

/-- A project or tags that are not set match no pattern, not even one that cannot be used. -/
theorem answer_unset (h : r.Unset s) (hs : s ≠ .priority) :
    (answer (some r) selected (.isLike s pattern)).outcome = .ok false := by
  rw [answer, subjectOf_unset h, if_neg hs]
  rfl

/-- A part that is not set matches a pattern if it is a priority and the pattern matches the empty
text. -/
theorem answer_unset_eq_true_iff (h : r.Unset s) :
    (answer (some r) selected (.isLike s pattern)).outcome = .ok true ↔
      FindsNothing s pattern := by
  by_cases hs : s = .priority
  · rw [answer, subjectOf_unset h, if_pos hs, isLike, FindsNothing, and_iff_right hs]
    cases Interpreter.compile pattern with
    | error e =>
        refine iff_of_false ?_ (by simp)
        cases e <;> nofun
    | ok p => simp [search, Except.mapError]
  · rw [answer_unset h hs]
    exact iff_of_false (by simp) fun hfinds => hs hfinds.1

/-! ## Several clauses -/

/-- If every clause is answered, so are all of them. -/
theorem exists_allHold (h : ∀ c ∈ cs, ∃ b, (answer (some r) selected c.question).outcome = .ok b) :
    ∃ b, (allHold (some r) selected cs).outcome = .ok b := by
  induction cs with
  | nil => exact ⟨true, rfl⟩
  | cons c cs ih =>
      obtain ⟨⟨b, hb⟩, hcs⟩ := List.forall_mem_cons.1 h
      rw [allHold, Attempt.outcome_bind, hb]
      by_cases hc : b = c.inverted
      · exact ⟨false, by simp [Except.bind, hc]⟩
      · obtain ⟨all, hall⟩ := ih hcs
        exact ⟨all, by simp [Except.bind, hc, hall]⟩

/-- A clause that holds may as well be left out. -/
theorem allHold_filter {c : Clause}
    (hc : (answer (some r) selected c.question).outcome = .ok (!c.inverted)) :
    (allHold (some r) selected (cs.filter (· ≠ c))).outcome =
      (allHold (some r) selected cs).outcome := by
  induction cs with
  | nil => rfl
  | cons d cs ih =>
      rw [allHold, Attempt.outcome_bind]
      by_cases hd : d = c
      · subst hd
        simpa [hc, Except.bind] using ih
      · rw [List.filter_cons_of_pos (by simpa using hd), allHold, Attempt.outcome_bind]
        cases (answer (some r) selected d.question).outcome with
        | error e => rfl
        | ok b =>
            by_cases hb : b = d.inverted
            · simp [Except.bind, hb]
            · simpa [Except.bind, hb] using ih

/-- A part of a task is not set.  A clause that asks whether it matches a pattern is answered with
no, unless the part is the priority and the pattern matches the empty text; about the project and
the tags it is so answered with any pattern.  A predicate in which such a clause stands without
being turned around is false, whatever its other clauses ask, as long as they are answered.  If it
asks about the priority with a pattern that matches the empty text, the predicate is what it is
without the clause. -/
theorem unset_rules (h : r.Unset s) (pattern : Text) (selected : Bool) :
    (∀ b, (answer (some r) selected (.isLike s pattern)).outcome = .ok b →
        (b = true ↔ FindsNothing s pattern)) ∧
      (s ≠ .priority → ∀ inverted,
        (allHold (some r) selected [⟨.isLike s pattern, inverted⟩]).outcome = .ok inverted) ∧
      ∀ t cs, Clause.read t = .ok cs → ⟨.isLike s pattern, false⟩ ∈ cs →
        (¬FindsNothing s pattern →
          (∀ c ∈ cs, ∃ b, (answer (some r) selected c.question).outcome = .ok b) →
          (holds (some t) (some r) selected).outcome = .ok false) ∧
        (FindsNothing s pattern →
          (holds (some t) (some r) selected).outcome =
            (allHold (some r) selected (cs.filter (· ≠ ⟨.isLike s pattern, false⟩))).outcome) := by
  refine ⟨?_, ?_, ?_⟩
  · intro b hb
    have htrue : (answer (some r) selected (.isLike s pattern)).outcome = .ok true ↔
        FindsNothing s pattern := answer_unset_eq_true_iff h
    rwa [hb, Except.ok.injEq] at htrue
  · intro hs inverted
    rw [allHold, Attempt.outcome_bind, answer_unset h hs]
    cases inverted <;> rfl
  · intro t cs hread hmem
    rw [holds_of_read hread]
    constructor
    · intro hfinds hanswered
      obtain ⟨b, hb⟩ := exists_allHold hanswered
      cases b with
      | false => exact hb
      | true =>
          have hclause := allHold_eq_true_iff.1 hb _ hmem
          exact absurd ((answer_unset_eq_true_iff h).1 hclause) hfinds
    · intro hfinds
      exact (allHold_filter ((answer_unset_eq_true_iff h).2 hfinds)).symm

end General

/-- Of a selected task with neither project nor priority, a pattern that matches every text does not
match the project, but it does match the priority. -/
theorem unset_rules_anyText :
    let r : Record := { uuid := "a", description := "x" }
    r.Unset .project ∧ (holds (some "~p '.*' ~s") (some r) true).outcome = .ok false ∧
      r.Unset .priority ∧ (holds (some "~r '.*' ~s") (some r) true).outcome = .ok true := by
  intro r
  have hproject : r.Unset .project := rfl
  have hpriority : r.Unset .priority := rfl
  refine ⟨hproject, ?_, hpriority, ?_⟩
  · obtain ⟨-, -, hrules⟩ := unset_rules hproject ".*" true
    have hread : Clause.read "~p '.*' ~s" =
        .ok [⟨.isLike .project ".*", false⟩, ⟨.selected, false⟩] := by decide +kernel
    refine (hrules _ _ hread List.mem_cons_self).1 (fun hfinds => nomatch hfinds.1) ?_
    intro c hc
    obtain rfl | rfl : c = ⟨.isLike .project ".*", false⟩ ∨ c = ⟨.selected, false⟩ := by
      simpa using hc
    · exact ⟨false, rfl⟩
    · exact ⟨true, rfl⟩
  · obtain ⟨-, -, hrules⟩ := unset_rules hpriority ".*" true
    have hread : Clause.read "~r '.*' ~s" =
        .ok [⟨.isLike .priority ".*", false⟩, ⟨.selected, false⟩] := by decide +kernel
    have hfinds : FindsNothing .priority ".*" := ⟨rfl, _, rfl, by decide +kernel⟩
    rw [(hrules _ _ hread List.mem_cons_self).2 hfinds]
    rfl

end Predicate

end TaskBrowser
