import TaskBrowser.Color.Palette
import TaskBrowser.Proofs.Text.Integer

/-!
# Reading colours

A colour that is written as a number of too many digits crashes, and no other text does.
-/

namespace TaskBrowser

namespace Palette

/-- The text is a number, perhaps after a dash, of more digits than are read. -/
def IsTooLong (t : Text) : Prop :=
  let t := Text.lower (Text.trim t)
  let unsigned := (Text.dropLead? "-" t).getD t
  isNumber unsigned = true ∧ Text.digitLimit < unsigned.length

theorem isNumber_iff {t : Text} : isNumber t = true ↔ t ≠ [] ∧ t.all Text.isDecimal = true := by
  cases t with
  | nil => simp [isNumber]
  | cons c t => simp [isNumber]

/-- Reading a text of digits as a whole number crashes if there are too many of them. -/
theorem textInteger_error_iff {t u : Text} (h : isNumber u = true) (ht : t = u ∨ t = '-' :: u) :
    (∃ c, Json.textInteger t = .error c) ↔ Text.digitLimit < u.length := by
  obtain ⟨hne, hall⟩ := isNumber_iff.1 h
  rw [← Text.readInteger_decimals hne hall ht, Json.textInteger]
  cases Text.readInteger t with
  | error e => simp [Except.mapError]
  | ok n => simp [Except.mapError]

theorem map_eq_error_iff {ε α β : Type} {x : Except ε α} {f : α → β} :
    (∃ e, x.map f = .error e) ↔ ∃ e, x = .error e := by
  cases x with
  | error e => simp [Except.map]
  | ok a => simp [Except.map]

/-- A colour crashes if it is a number of too many digits. -/
theorem parseColor_error_iff (p : Palette) (t : Text) :
    (∃ c, p.parseColor t = .error c) ↔ IsTooLong t := by
  rw [parseColor, IsTooLong]
  generalize Text.lower (Text.trim t) = t
  by_cases hnumber : isNumber ((Text.dropLead? "-" t).getD t) = true
  · have ht : t = (Text.dropLead? "-" t).getD t ∨ t = '-' :: (Text.dropLead? "-" t).getD t := by
      cases hdrop : Text.dropLead? "-" t with
      | none => exact .inl rfl
      | some u => exact .inr (Text.dropLead?_eq_some hdrop)
    rw [if_pos hnumber, map_eq_error_iff, textInteger_error_iff hnumber ht]
    exact (and_iff_right hnumber).symm
  · rw [if_neg hnumber]
    refine iff_of_false ?_ fun h => hnumber h.1
    rintro ⟨c, hc⟩
    split at hc
    next ds _ =>
      split at hc
      next hds =>
        obtain ⟨hds, hlength⟩ : isNumber ds = true ∧ ds.length ≤ 3 := by simpa using hds
        have hlong := (textInteger_error_iff hds (.inl rfl)).1 (map_eq_error_iff.1 ⟨c, hc⟩)
        rw [Text.digitLimit] at hlong
        omega
      next => cases hc
    next => cases hc

end Palette

end TaskBrowser
