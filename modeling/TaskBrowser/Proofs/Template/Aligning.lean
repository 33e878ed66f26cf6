import Mathlib
import TaskBrowser.Template.Render

/-!
# Texts in slots and lines as wide as the screen

A text in a slot is cut or filled up with spaces (`fit_eq`), and so has the width of the slot.  A
line that is aligned has the width that it is aligned to (`length_align`).  Neither is possible
beyond the width that a text can have (`fit_error_iff`, `align_error_iff`).  Only spaces are added
(`mem_align`).

A field other than a literal is rendered by putting its text in its slot, if it has a text
(`renderField_conditional_eq_ok` and its like), and fields one after another.
-/

namespace TaskBrowser

namespace Text

variable {right : Bool} {width : Nat} {t : Text}

theorem mem_upTo {n : Int} {c : Char} (h : c ∈ upTo n t) : c ∈ t := by
  cases n with
  | ofNat n => exact List.mem_of_mem_take h
  | negSucc n => exact List.mem_of_mem_take h

theorem upTo_of_nonneg {n : Int} (hn : 0 ≤ n) : upTo n t = t.take n.toNat := by
  obtain ⟨k, rfl⟩ := Int.eq_ofNat_of_zero_le hn
  rfl

/-- As many of the first characters of a text as a width has room for, and spaces in the room that
is left: at the end, or at the start if the text is aligned to the right. -/
def filled (right : Bool) (width : Nat) (t : Text) : Text :=
  let room := List.replicate (width - t.length) ' '
  if right then room ++ t.take width else t.take width ++ room

@[simp] theorem length_filled : (filled right width t).length = width := by
  rw [filled]
  split <;> rw [List.length_append, List.length_replicate, List.length_take] <;> omega

/-- A text fills its own length. -/
@[simp] theorem filled_length : filled right t.length t = t := by
  simp [filled]

theorem padLeft_take : padLeft width (t.take width) = filled true width t := by
  rw [padLeft, filled, if_pos rfl, List.length_take]
  congr 2
  omega

theorem padRight_take : padRight width (t.take width) = filled false width t := by
  rw [padRight, filled, if_neg Bool.false_ne_true, List.length_take]
  congr 2
  omega

/-- A text that a width has room for is not cut. -/
theorem filled_of_length_le (h : t.length ≤ width) :
    filled right width t =
      if right then List.replicate (width - t.length) ' ' ++ t
      else t ++ List.replicate (width - t.length) ' ' := by
  rw [filled, List.take_of_length_le h]

end Text

namespace Template

variable {right : Bool} {width : Int} {line t u : Text} {c : Char}

/-! ## Slots -/

/-- A text fills a slot of any width that a text can have. -/
theorem fit_eq (hwidth : 0 ≤ width) :
    fit right width t =
      if width < Int.pow 2 63 then .ok (Text.filled right width.toNat t)
      else .error .slotTooWide := by
  have hlow : ¬ width < -Int.pow 2 63 := by
    have hpow : (0 : Int) ≤ Int.pow 2 63 := by decide
    omega
  rw [fit, fill, Text.upTo_of_nonneg hwidth]
  simp only [hlow, decide_false, Bool.false_or, decide_eq_true_eq]
  by_cases hhigh : width < Int.pow 2 63
  · rw [if_neg (not_le.2 hhigh), if_pos hhigh]
    cases right
    · rw [if_neg Bool.false_ne_true, Text.padRight_take]
    · rw [if_pos rfl, Text.padLeft_take]
  · rw [if_pos (not_lt.1 hhigh), if_neg hhigh]

theorem eq_filled_of_fit (hwidth : 0 ≤ width) (h : fit right width t = .ok u) :
    u = Text.filled right width.toNat t := by
  rw [fit_eq hwidth] at h
  split at h
  next => exact (Except.ok.inj h).symm
  next => cases h

theorem fit_error_iff (hwidth : 0 ≤ width) :
    (∃ e, fit right width t = .error e) ↔ Int.pow 2 63 ≤ width := by
  rw [fit_eq hwidth, ← not_lt]
  split
  next hfits => exact iff_of_false nofun (not_not_intro hfits)
  next hwide => exact iff_of_true ⟨_, rfl⟩ hwide

/-- A text in a slot has the width of the slot. -/
theorem length_fit (hwidth : 0 ≤ width) (h : fit right width t = .ok u) :
    (u.length : Int) = width := by
  rw [eq_filled_of_fit hwidth h, Text.length_filled, Int.toNat_of_nonneg hwidth]

/-- A text in a slot is made of its own characters and spaces. -/
theorem mem_fit (h : fit right width t = .ok u) (hc : c ∈ u) : c ∈ t ∨ c = ' ' := by
  rw [fit, fill] at h
  split at h
  next => cases h
  next =>
    obtain rfl := Except.ok.inj h
    split at hc
    · rcases List.mem_append.1 hc with hc | hc
      · exact .inr (List.eq_of_mem_replicate hc)
      · exact .inl (Text.mem_upTo hc)
    · rcases List.mem_append.1 hc with hc | hc
      · exact .inl (Text.mem_upTo hc)
      · exact .inr (List.eq_of_mem_replicate hc)

/-! ## Fields -/

section

variable {context : RenderContext} {record : Option Record} {slot : Slot}

theorem renderField_named_eq_ok {name : Text} {kind : VariableKind} :
    renderField context record (.named name kind slot) = .ok t ↔
      ∃ u, context.table.valueText name = .ok u ∧ inSlot slot u = .ok t := by
  rw [renderField]
  cases context.table.valueText name <;> simp

theorem renderField_ofTask_eq_ok {a : Attribute} {r : Record} (ha : a ≠ .project) :
    renderField context (some r) (.ofTask a slot) = .ok t ↔
      ∃ u, attributeText context a r = .ok u ∧ inSlot slot u = .ok t := by
  rw [renderField.eq_7 _ _ _ _ ha]
  cases attributeText context a r <;> simp

theorem renderField_conditional_eq_ok {cs ps ns : List Field} :
    renderField context record (.conditional cs ps ns slot) = .ok t ↔
      ∃ c u, renderFields context record cs = .ok c ∧
        (if holds c then renderFields context record ps
          else renderFields context record ns) = .ok u ∧
        inSlot slot u = .ok t := by
  rw [renderField]
  cases renderFields context record cs with
  | error e => simp
  | ok c =>
      dsimp only
      constructor
      · intro h
        split at h
        next => cases h
        next u hu => exact ⟨c, u, rfl, hu, h⟩
      · rintro ⟨c, u, hc, hu, h⟩
        cases hc
        rw [hu]
        exact h

theorem renderFields_cons_eq_ok {f : Field} {fs : List Field} :
    renderFields context record (f :: fs) = .ok t ↔
      ∃ u v, renderField context record f = .ok u ∧ renderFields context record fs = .ok v ∧
        u ++ v = t := by
  rw [renderFields]
  cases renderField context record f with
  | error e => simp
  | ok u => cases renderFields context record fs <;> simp

end

/-! ## Lines -/

/-- A line is aligned to the width. -/
theorem length_align (hwidth : 0 ≤ width) (h : align line width = .ok t) :
    (t.length : Int) = width := by
  rw [align] at h
  split at h
  next => exact length_fit hwidth h
  next left right _ =>
    dsimp only at h
    split at h
    next => cases h
    next =>
      split at h
      next hnarrow =>
        obtain rfl := Except.ok.inj h
        rw [List.length_drop]
        omega
      next hroomy =>
        cases hleft : fit false (width - right.length) left with
        | error e => rw [hleft] at h; cases h
        | ok padded =>
            rw [hleft] at h
            obtain rfl := Except.ok.inj h
            have hlength := length_fit (by omega) hleft
            rw [List.length_append]
            omega

/-- A line cannot be aligned to a width that no text has, and to any other it can. -/
theorem align_error_iff (hwidth : 0 ≤ width) :
    (∃ e, align line width = .error e) ↔ Int.pow 2 63 ≤ width := by
  rw [align]
  cases Text.splitAt? "$>" line with
  | none => exact fit_error_iff hwidth
  | some parts =>
      obtain ⟨left, right⟩ := parts
      dsimp only
      split
      next hwide => exact iff_of_true ⟨_, rfl⟩ hwide
      next hfits =>
        refine iff_of_false ?_ hfits
        split
        next => nofun
        next hroomy =>
          rw [fit_eq (by omega), if_pos (by omega)]
          nofun

/-- An aligned line is made of its own characters and spaces. -/
theorem mem_align (h : align line width = .ok t) (hc : c ∈ t) : c ∈ line ∨ c = ' ' := by
  rw [align] at h
  split at h
  next => exact mem_fit h hc
  next left right hsplit =>
    rw [Text.splitAt?_eq_some hsplit]
    have hright (hc : c ∈ right) : c ∈ left ++ "$>".toList ++ right ∨ c = ' ' :=
      .inl (List.mem_append_right _ hc)
    dsimp only at h
    split at h
    next => cases h
    next =>
      split at h
      next =>
        obtain rfl := Except.ok.inj h
        exact hright (List.mem_of_mem_drop hc)
      next =>
        cases hleft : fit false (width - right.length) left with
        | error e => rw [hleft] at h; cases h
        | ok padded =>
            rw [hleft] at h
            obtain rfl := Except.ok.inj h
            rcases List.mem_append.1 hc with hc | hc
            · rcases mem_fit hleft hc with hc | hc
              · exact .inl (List.mem_append_left _ (List.mem_append_left _ hc))
              · exact .inr hc
            · exact hright hc

end Template

end TaskBrowser
