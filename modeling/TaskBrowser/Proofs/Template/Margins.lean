import TaskBrowser.Proofs.Template.Aligning
import TaskBrowser.Proofs.Text.Separator

/-!
# The two ends of a line

What stands before the first `$>` of a line is at its left end, and what stands after it at its
right end.  A line without the mark is at the left end as a whole (`Template.Ends`).

The right end comes first.  If the width has room for it, it is shown as a whole, and the room that
is left shows as much of the left end as there is room for, and spaces.  If not, its last characters
are shown and nothing else.  Either way the line has exactly the width, and nothing of it is lost if
there is room for both ends (`Template.Aligned`).

A line is aligned to every width below `2 ^ 63`.  No text is as long as that, so a line cannot be
aligned to a greater width (`Template.align_fills`).
-/

namespace TaskBrowser

namespace Template

/-- What is at the left end of a line, and what at its right end. -/
inductive Ends : (line left right : Text) → Prop
  /-- A line is split at the first mark. -/
  | marked {line left right : Text} (h : Text.FirstAt "$>" line left right) : Ends line left right
  /-- A line without a mark has nothing at its right end. -/
  | unmarked {line : Text} (h : ¬ ("$>" : Text) <:+: line) : Ends line line []

/-- A line of a width that shows two ends. -/
structure Aligned (left right : Text) (width : Nat) (t : Text) : Prop where
  /-- The line is as wide as it is told to be. -/
  length : t.length = width
  /-- The right end is shown where there is room for it, and before it as much of the left end as
  there is room for, and spaces between them. -/
  roomy : right.length ≤ width →
    t = left.take (min left.length (width - right.length)) ++
      List.replicate (width - right.length - left.length) ' ' ++ right
  /-- Only the last characters of the right end are shown where there is less room than that. -/
  narrow : width < right.length → t <:+ right
  /-- Nothing is cut where there is room for both ends. -/
  whole : left.length + right.length ≤ width →
    t = left ++ List.replicate (width - right.length - left.length) ' ' ++ right

variable {line left right t : Text} {width : Nat}

/-- Every line has its two ends. -/
theorem exists_ends (line : Text) : ∃ left right, Ends line left right := by
  cases hsplit : Text.splitAt? "$>" line with
  | none => exact ⟨line, [], .unmarked (Text.splitAt?_eq_none_iff.1 hsplit)⟩
  | some parts => exact ⟨parts.1, parts.2, .marked (Text.splitAt?_eq_some_iff.1 hsplit)⟩

/-- A text in a slot of a width is cut to it or filled with spaces. -/
theorem filled_left (width : Nat) (t : Text) :
    Text.filled false width t =
      t.take (min t.length width) ++ List.replicate (width - t.length) ' ' := by
  rw [Text.filled, if_neg Bool.false_ne_true, Nat.min_comm, ← List.take_take, List.take_length]

/-- Both ends are shown where there is room for the right one. -/
theorem Aligned.of_roomy (h : right.length ≤ width) :
    Aligned left right width (Text.filled false (width - right.length) left ++ right) where
  length := by
    rw [List.length_append, Text.length_filled]
    omega
  roomy _ := by rw [filled_left]
  narrow hwidth := absurd h (Nat.not_le.2 hwidth)
  whole hboth := by
    rw [filled_left, Nat.min_eq_left (by omega), List.take_length]

/-- Only the last characters of the right end are shown where there is no room for it. -/
theorem Aligned.of_narrow (h : width < right.length) :
    Aligned left right width (right.drop (right.length - width)) where
  length := by
    rw [List.length_drop]
    omega
  roomy hwidth := absurd h (Nat.not_lt.2 hwidth)
  narrow _ := List.drop_suffix _ right
  whole hboth := absurd h (by omega)

/-! ## Aligning -/

/-- A text fills a slot of any width below `2 ^ 63`. -/
theorem fit_left (width : Nat) (t : Text) :
    fit false width t =
      if width < 2 ^ 63 then .ok (Text.filled false width t) else .error .slotTooWide := by
  have hpow : ((width : Int) < Int.pow 2 63) = (width < 2 ^ 63) := by
    rw [← Nat.cast_ofNat, Int.pow_eq]
    norm_cast
  rw [fit_eq (Int.natCast_nonneg width), Int.toNat_natCast]
  simp only [hpow]

/-- A line without a mark fills the width. -/
theorem align_unmarked (h : ¬ ("$>" : Text) <:+: line) (width : Nat) :
    align line width =
      if width < 2 ^ 63 then .ok (Text.filled false width line) else .error .slotTooWide := by
  rw [align, Text.splitAt?_eq_none_iff.2 h]
  exact fit_left width line

/-- What is before the mark fills what the right end leaves of the width. -/
theorem align_marked (h : Text.FirstAt "$>" line left right) (width : Nat) :
    align line width =
      if width < 2 ^ 63 then
        .ok (if right.length ≤ width then Text.filled false (width - right.length) left ++ right
          else right.drop (right.length - width))
      else .error (if 2 ^ 63 ≤ width - right.length then .slotTooWide else .textTooLong) := by
  have hpow : (Int.pow 2 63 : Int) = ((2 ^ 63 : Nat) : Int) := by decide
  rw [align, Text.splitAt?_eq_some_iff.2 h]
  dsimp only
  rw [hpow]
  by_cases hfits : width < 2 ^ 63
  · rw [if_neg (by omega), if_pos hfits]
    rcases Nat.lt_trichotomy right.length width with hlt | heq | hgt
    · rw [if_neg (by omega), if_pos hlt.le, ← Int.ofNat_sub hlt.le, fit_left, if_pos (by omega)]
      rfl
    · -- the right end is as wide as the line, so nothing is left for the left end
      have hnothing : Text.filled false 0 left = [] :=
        List.eq_nil_of_length_eq_zero Text.length_filled
      rw [if_pos (by omega), if_pos heq.le, heq, Int.sub_self, Nat.sub_self, hnothing]
      rfl
    · rw [if_pos (by omega), if_neg (by omega), Int.neg_sub, Int.toNat_sub]
  · rw [if_pos (by omega), if_neg hfits]
    by_cases hroom : 2 ^ 63 ≤ width - right.length
    · rw [if_pos (by omega), if_pos hroom]
    · rw [if_neg (by omega), if_neg hroom]

/-- A line shows its two ends in every width below `2 ^ 63` that it is aligned to, whatever the ends
are.  To no other width can it be aligned: the left end cannot be filled, or the two ends are too
long together. -/
theorem align_fills (line : Text) :
    (∃ left right, Ends line left right) ∧
      ∀ left right, Ends line left right → ∀ width : Nat,
        (width < 2 ^ 63 → ∃ t, align line width = .ok t ∧ Aligned left right width t) ∧
          (2 ^ 63 ≤ width → align line width =
            .error (if 2 ^ 63 ≤ width - right.length then .slotTooWide else .textTooLong)) := by
  refine ⟨exists_ends line, ?_⟩
  intro left right hends width
  cases hends with
  | marked h =>
      rw [align_marked h]
      refine ⟨fun hfits => ⟨_, if_pos hfits, ?_⟩, fun hwide => if_neg (Nat.not_lt.2 hwide)⟩
      by_cases hroom : right.length ≤ width
      · rw [if_pos hroom]
        exact .of_roomy hroom
      · rw [if_neg hroom]
        exact .of_narrow (Nat.not_le.1 hroom)
  | unmarked h =>
      rw [align_unmarked h]
      refine ⟨fun hfits => ⟨_, if_pos hfits, ?_⟩, fun hwide => ?_⟩
      · have haligned : Aligned line [] width (Text.filled false (width - 0) line ++ []) :=
          .of_roomy (Nat.zero_le width)
        rwa [Nat.sub_zero, List.append_nil] at haligned
      · rw [if_neg (Nat.not_lt.2 hwide), List.length_nil, Nat.sub_zero, if_pos hwide]

/-- A line with two marks, as wide as its right end and wider than the width. -/
theorem align_fills_twoMarks :
    Ends "abc$>d$>e" "abc" "d$>e" ∧
      align "abc$>d$>e" 4 = .ok "d$>e" ∧ Aligned "abc" "d$>e" 4 "d$>e" ∧
      align "abc$>d$>e" 6 = .ok "abd$>e" ∧ Aligned "abc" "d$>e" 6 "abd$>e" := by
  have hends : Ends "abc$>d$>e" "abc" "d$>e" :=
    .marked (Text.splitAt?_eq_some_iff.1 (by decide))
  obtain ⟨t, ht, hfour⟩ := ((align_fills "abc$>d$>e").2 _ _ hends 4).1 (by decide)
  obtain ⟨u, hu, hsix⟩ := ((align_fills "abc$>d$>e").2 _ _ hends 6).1 (by decide)
  cases ht
  cases hu
  exact ⟨hends, rfl, hfour, rfl, hsix⟩

/-- No text is as wide as this, so the empty line cannot be aligned to it. -/
theorem align_tooWide :
    ¬ ∃ t, align [] ((2 ^ 63 : Nat) : Int) = .ok t ∧ t.length = 2 ^ 63 := by
  rintro ⟨t, ht, -⟩
  rw [align_unmarked (by decide), if_neg (by decide)] at ht
  cases ht

end Template

end TaskBrowser
