import Mathlib
import TaskBrowser.Text.Basic

/-!
# Texts with a separator

A text is split where a separator stands for the first time (`Text.FirstAt`).  The parts are found
exactly there (`Text.splitAt?_eq_some_iff`), and there are none exactly if the separator does not
stand in the text at all (`Text.splitAt?_eq_none_iff`).
-/

namespace TaskBrowser

namespace Text

/-- A separator stands in a text after `before` and before `after`, and nowhere earlier. -/
structure FirstAt (sep t before after : Text) : Prop where
  /-- The separator stands between the parts. -/
  parts : t = before ++ sep ++ after
  /-- What comes before the separator anywhere in the text is not shorter. -/
  first : ∀ u v, t = u ++ sep ++ v → before.length ≤ u.length

variable {sep t before after before' after' : Text}

theorem dropLead?_append (p t : Text) : dropLead? p (p ++ t) = some t := by
  induction p with
  | nil => cases t <;> rfl
  | cons a p ih => simpa [dropLead?] using ih

/-- A separator stands for the first time in one place only. -/
theorem FirstAt.unique (h : FirstAt sep t before after) (h' : FirstAt sep t before' after') :
    before = before' ∧ after = after' := by
  have hlength : before.length = before'.length :=
    le_antisymm (h.first before' after' h'.parts) (h'.first before after h.parts)
  have hsame : before ++ (sep ++ after) = before' ++ (sep ++ after') := by
    rw [← List.append_assoc, ← List.append_assoc, ← h.parts, ← h'.parts]
  obtain ⟨hbefore, hrest⟩ := List.append_inj hsame hlength
  exact ⟨hbefore, List.append_cancel_left hrest⟩

/-- The parts that are found are those at the first separator. -/
theorem firstAt_of_splitAt? (h : splitAt? sep t = some (before, after)) :
    FirstAt sep t before after := by
  refine ⟨splitAt?_eq_some h, ?_⟩
  induction t generalizing before with
  | nil =>
      rw [splitAt?] at h
      split at h
      · cases h
        exact fun u v _ => Nat.zero_le u.length
      · cases h
  | cons c t ih =>
      rw [splitAt?] at h
      split at h
      next rest _ =>
        cases h
        exact fun u v _ => Nat.zero_le u.length
      next hlead =>
        obtain ⟨⟨b, a⟩, hsplit, heq⟩ := Option.map_eq_some_iff.1 h
        obtain ⟨rfl, rfl⟩ := Prod.mk.inj heq
        intro u v hparts
        cases u with
        | nil =>
            rw [hparts, List.nil_append, dropLead?_append] at hlead
            cases hlead
        | cons d u =>
            obtain ⟨-, hrest⟩ := List.cons.inj hparts
            exact Nat.succ_le_succ (ih hsplit u v hrest)

/-- If no parts are found, the separator stands nowhere. -/
theorem not_isInfix_of_splitAt? (h : splitAt? sep t = none) : ¬ sep <:+: t := by
  induction t with
  | nil =>
      rw [splitAt?] at h
      split at h
      · cases h
      next hsep =>
        rw [List.infix_nil]
        simpa using hsep
  | cons c t ih =>
      rw [splitAt?] at h
      split at h
      · cases h
      next hlead =>
        rw [List.infix_cons_iff]
        rintro (⟨rest, hrest⟩ | hinfix)
        · rw [← hrest, dropLead?_append] at hlead
          cases hlead
        · exact ih (Option.map_eq_none_iff.1 h) hinfix

theorem FirstAt.isInfix (h : FirstAt sep t before after) : sep <:+: t :=
  ⟨before, after, h.parts.symm⟩

/-- A text is split at the first separator. -/
theorem splitAt?_eq_some_iff :
    splitAt? sep t = some (before, after) ↔ FirstAt sep t before after := by
  refine ⟨firstAt_of_splitAt?, fun h => ?_⟩
  cases hsplit : splitAt? sep t with
  | none => exact absurd h.isInfix (not_isInfix_of_splitAt? hsplit)
  | some parts =>
      obtain ⟨hbefore, hafter⟩ := (firstAt_of_splitAt? hsplit).unique h
      rw [← hbefore, ← hafter]

/-- A text is not split exactly if the separator stands nowhere in it. -/
theorem splitAt?_eq_none_iff : splitAt? sep t = none ↔ ¬ sep <:+: t := by
  refine ⟨not_isInfix_of_splitAt?, fun h => ?_⟩
  cases hsplit : splitAt? sep t with
  | none => rfl
  | some parts => exact absurd (firstAt_of_splitAt? hsplit).isInfix h

/-- A text is split at a character that does not stand earlier. -/
theorem splitAt?_singleton {c : Char} (hc : c ∉ t) (u : Text) :
    splitAt? [c] (t ++ c :: u) = some (t, u) := by
  induction t with
  | nil => simp [splitAt?, dropLead?]
  | cons d t ih =>
      obtain ⟨hne, ht⟩ : c ≠ d ∧ c ∉ t := by simpa using hc
      have hlead : dropLead? [c] (d :: (t ++ c :: u)) = none := if_neg hne
      rw [List.cons_append, splitAt?, hlead, ih ht]
      rfl

end Text

end TaskBrowser
