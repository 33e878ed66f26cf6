import TaskBrowser.Files.Tree
import TaskBrowser.Platform
import TaskBrowser.Proofs.Color.Palette
import TaskBrowser.Proofs.Command.Rejected
import TaskBrowser.Proofs.Template.Parts

/-!
# Colours that can be used

A colour is written as a number in digits of any script, perhaps after a dash, as up to three digits
after the word `color`, or by its name (`Palette.Denotes`).  A number is usable if it is that of the
terminal's own colour or one of the palette's.

What is not usable is read as the terminal's own colour, with one exception: the number just below
that one is read as it is.  So it reaches the palette, where it makes pairs of its own, although it
stands for no colour (`Palette.parsed_colors`).
-/

namespace TaskBrowser

namespace Palette

/-! ## How colours are written -/

/-- A text without blanks around it and without capitals. -/
def plain (t : Text) : Text := Text.lower (Text.trim t)

/-- A plain text is a way to write a number. -/
inductive Denotes : Text → Int → Prop where
  | digits {ds : Text} (h : isNumber ds = true) : Denotes ds (Text.digitsValue 0 ds)
  | negative {ds : Text} (h : isNumber ds = true) : Denotes ('-' :: ds) (-(Text.digitsValue 0 ds))
  | numbered {ds : Text} (h : isNumber ds = true) (hlength : ds.length ≤ 3) :
      Denotes ("color" ++ ds) (Text.digitsValue 0 ds)
  | named {t : Text} {n : Int} (h : (t, n) ∈ colorNames) : Denotes t n

variable {p : Palette} {t ds : Text} {n c : Int}

/-- Digits that are not too many are read as the number that they make. -/
theorem textInteger_digits (h : isNumber ds = true) (hlength : ds.length ≤ Text.digitLimit) :
    Json.textInteger ds = .ok (Text.digitsValue 0 ds : Int) ∧
      Json.textInteger ('-' :: ds) = .ok (-(Text.digitsValue 0 ds : Int)) := by
  obtain ⟨hne, hall⟩ := isNumber_iff.1 h
  obtain ⟨hplain, hdash⟩ := Text.readInteger_eq hne hall
  have hunsigned := Text.readUnsigned_decimals hne hall
  rw [if_neg (not_lt.2 hlength)] at hunsigned
  rw [Json.textInteger, Json.textInteger, hplain, hdash, hunsigned]
  exact ⟨rfl, rfl⟩

theorem isNumber_cons_of_not_decimal {d : Char} (hd : Text.isDecimal d = false) :
    isNumber (d :: ds) = false := by
  rw [isNumber, List.all_cons, hd]
  rfl

/-- Digits stand without a dash. -/
theorem dropLead?_dash (h : isNumber ds = true) : Text.dropLead? "-" ds = none := by
  cases hdrop : Text.dropLead? "-" ds with
  | none => rfl
  | some u =>
      obtain rfl : ds = '-' :: u := Text.dropLead?_eq_some hdrop
      rw [isNumber_cons_of_not_decimal (by decide)] at h
      cases h

/-- A colour that is written is read, as the number that is used for it. -/
theorem parseColor_of_denotes (h : Denotes (plain t) n) (hshort : ¬ IsTooLong t) :
    p.parseColor t = .ok (some (p.checkColor n)) := by
  rw [IsTooLong] at hshort
  rw [parseColor]
  unfold plain at h
  generalize Text.lower (Text.trim t) = u at h hshort ⊢
  cases h with
  | digits h =>
      rw [dropLead?_dash h, Option.getD_none] at hshort ⊢
      have hread := (textInteger_digits h (not_lt.1 fun hlong => hshort ⟨h, hlong⟩)).1
      rw [if_pos h, hread]
      rfl
  | @negative ds h =>
      have hdrop : (Text.dropLead? "-" ('-' :: ds)).getD ('-' :: ds) = ds := by
        cases ds <;> rfl
      rw [hdrop] at hshort ⊢
      have hread := (textInteger_digits h (not_lt.1 fun hlong => hshort ⟨h, hlong⟩)).2
      rw [if_pos h, hread]
      rfl
  | @numbered ds h hlength =>
      have hword : isNumber ("color" ++ ds) = false := isNumber_cons_of_not_decimal (by decide)
      have hdash : Text.dropLead? "-" ("color" ++ ds) = none := rfl
      have hlimit : ds.length ≤ Text.digitLimit := hlength.trans (by decide)
      rw [hdash, Option.getD_none, if_neg (by rw [hword]; exact Bool.false_ne_true),
        Text.dropLead?_append]
      dsimp only
      rw [if_pos (by simp [h, hlength]), (textInteger_digits h hlimit).1]
      rfl
  | named h =>
      simp only [colorNames, List.mem_cons, List.not_mem_nil, or_false, Prod.mk.injEq] at h
      rcases h with ⟨rfl, rfl⟩ | ⟨rfl, rfl⟩ | ⟨rfl, rfl⟩ | ⟨rfl, rfl⟩ | ⟨rfl, rfl⟩ | ⟨rfl, rfl⟩ |
        ⟨rfl, rfl⟩ | ⟨rfl, rfl⟩ <;> rfl

/-- Digits that are read are not too many. -/
theorem length_le_of_textInteger {u : Text} {m : Int} (h : isNumber ds = true)
    (hu : u = ds ∨ u = '-' :: ds) (hread : Json.textInteger u = .ok m) :
    ds.length ≤ Text.digitLimit := by
  by_contra hlong
  obtain ⟨e, he⟩ := (textInteger_error_iff h hu).2 (not_le.1 hlong)
  cases hread.symm.trans he

/-- What is read is the number that is used for a colour that is written. -/
theorem denotes_of_parseColor (h : p.parseColor t = .ok (some c)) :
    ∃ n, Denotes (plain t) n ∧ c = p.checkColor n := by
  rw [parseColor] at h
  unfold plain
  generalize Text.lower (Text.trim t) = u at h ⊢
  split at h
  next hnumber =>
    cases hread : Json.textInteger u with
    | error e =>
        rw [hread] at h
        cases h
    | ok m =>
        rw [hread] at h
        obtain rfl := Option.some.inj (Except.ok.inj h)
        refine ⟨m, ?_, rfl⟩
        cases hdrop : Text.dropLead? "-" u with
        | none =>
            rw [hdrop, Option.getD_none] at hnumber
            have hlength := length_le_of_textInteger hnumber (.inl rfl) hread
            obtain rfl := Except.ok.inj (hread.symm.trans (textInteger_digits hnumber hlength).1)
            exact .digits hnumber
        | some ds =>
            rw [hdrop, Option.getD_some] at hnumber
            obtain rfl : u = '-' :: ds := Text.dropLead?_eq_some hdrop
            have hlength := length_le_of_textInteger hnumber (.inr rfl) hread
            obtain rfl := Except.ok.inj (hread.symm.trans (textInteger_digits hnumber hlength).2)
            exact .negative hnumber
  next =>
    split at h
    next ds hdrop =>
      split at h
      next hds =>
        obtain ⟨hds, hlength⟩ : isNumber ds = true ∧ ds.length ≤ 3 := by simpa using hds
        have hlimit : ds.length ≤ Text.digitLimit := hlength.trans (by decide)
        rw [(textInteger_digits hds hlimit).1] at h
        obtain rfl := Option.some.inj (Except.ok.inj h)
        rw [Text.dropLead?_eq_some hdrop]
        exact ⟨_, .numbered hds hlength, rfl⟩
      next => cases h
    next =>
      obtain ⟨n, hn, rfl⟩ := Option.map_eq_some_iff.1 (Except.ok.inj h)
      obtain ⟨before, after, hnames, -⟩ := List.lookup_eq_some_iff.1 hn
      exact ⟨n, .named (hnames ▸ List.mem_append_right before List.mem_cons_self), rfl⟩

/-! ## What is used for a number -/

/-- The number is that of the terminal's own colour or one of the palette's. -/
def IsUsable (p : Palette) (n : Int) : Prop := -1 ≤ n ∧ n < p.colors

instance (p : Palette) (n : Int) : Decidable (p.IsUsable n) := inferInstanceAs (Decidable (_ ∧ _))

/-- A number that is not usable is replaced, unless it is the one just below those that are. -/
theorem checkColor_eq (hcolors : 8 ≤ p.colors) (n : Int) :
    p.checkColor n = if p.IsUsable n ∨ n = -2 then n else -1 := by
  have hkept : (p.IsUsable n ∨ n = -2) ↔ ¬(p.colors ≤ n ∨ n < -2) := by
    rw [IsUsable.eq_def]
    omega
  simp only [checkColor, Bool.or_eq_true, decide_eq_true_eq, hkept, ite_not]

theorem isUsable_checkColor (hcolors : 8 ≤ p.colors) (hn : n ≠ -2) :
    p.IsUsable (p.checkColor n) := by
  rw [checkColor_eq hcolors]
  split
  next h => exact h.resolve_right hn
  next => exact ⟨le_refl _, by omega⟩

/-- What a text is read as: nothing if it is no colour, and else what is used for the number. -/
theorem parseColor_ends (p : Palette) (t : Text) :
    match p.parseColor t with
    | .error _ => IsTooLong t
    | .ok none => ∀ n, ¬ Denotes (plain t) n
    | .ok (some c) =>
        (∃ n, Denotes (plain t) n) ∧ ∀ n, Denotes (plain t) n → c = p.checkColor n := by
  cases hread : p.parseColor t with
  | error e => exact (p.parseColor_error_iff t).1 ⟨e, hread⟩
  | ok found =>
      have hshort : ¬ IsTooLong t := fun hlong => by
        obtain ⟨e, he⟩ := (p.parseColor_error_iff t).2 hlong
        cases hread.symm.trans he
      have hfound {n : Int} (hn : Denotes (plain t) n) : found = some (p.checkColor n) :=
        Except.ok.inj (hread.symm.trans (parseColor_of_denotes hn hshort))
      cases found with
      | none =>
          intro n hn
          cases hfound hn
      | some c =>
          obtain ⟨n, hn, -⟩ := denotes_of_parseColor hread
          exact ⟨⟨n, hn⟩, fun m hm => Option.some.inj (hfound hm)⟩

end Palette

/-! ## The command -/

/-- A rule brings at most the pair of its own colours. -/
theorem Board.pairs_of_addRule {b b' : Board} {object : ColorObject} {predicate : Option Text}
    {colors c : ColorPair} {pair : Nat}
    (h : b.addRule object predicate colors = .ok (pair, b')) (hc : c ∈ b'.scheme.palette.pairs) :
    c ∈ b.scheme.palette.pairs ∨ c = colors := by
  rw [addRule, Scheme.add] at h
  cases hallocate : b.scheme.palette.allocate colors with
  | error e =>
      rw [hallocate] at h
      cases h
  | ok given =>
      rw [hallocate] at h
      cases h
      rcases Palette.allocate_eq_ok hallocate with ⟨hsame, -⟩ | ⟨-, -, hnew⟩
      · left
        rwa [← hsame]
      · rw [hnew] at hc
        simpa using hc

namespace Command

open Palette

variable {w : World} {c : ColorPair} {args : Text}

theorem pairs_of_addRule {object : ColorObject} {predicate : Option Text} {colors : ColorPair}
    (hc : c ∈ (effect (addRule object predicate colors) w).2.session.scheme.palette.pairs) :
    c ∈ w.session.scheme.palette.pairs ∨ c = colors := by
  cases hrule : w.session.board.addRule object predicate colors with
  | error e =>
      rw [Board.effect_addRule_of_error (k := ⟨object, predicate⟩) hrule] at hc
      exact .inl hc
  | ok found =>
      rw [addRule, effect_bind, Action.effect_session] at hc
      dsimp only at hc
      rw [hrule] at hc
      exact Board.pairs_of_addRule hrule hc

/-- The pair that the command brings has the colours that its second and third words are read as. -/
theorem pairs_of_runColor
    (hc : c ∈ (effect (runColor args) w).2.session.scheme.palette.pairs) :
    c ∈ w.session.scheme.palette.pairs ∨
      ∃ object fg bg rest, Text.wordsAtMost 3 args = object :: fg :: bg :: rest ∧
        w.session.scheme.palette.parseColor fg = .ok (some c.fg) ∧
        w.session.scheme.palette.parseColor bg = .ok (some c.bg) := by
  rw [runColor] at hc
  split at hc
  next object fg bg rest hwords =>
    split at hc
    next => exact .inl hc
    next o hobject =>
      rw [effect_bind, Action.effect_session] at hc
      dsimp only at hc
      rw [effect_bind, Action.effect_orCrash] at hc
      cases hfg : w.session.scheme.palette.parseColor fg with
      | error e => rw [hfg] at hc; exact .inl hc
      | ok foreground =>
          rw [hfg] at hc
          simp only [Except.mapError] at hc
          rw [effect_bind, Action.effect_orCrash] at hc
          cases hbg : w.session.scheme.palette.parseColor bg with
          | error e => rw [hbg] at hc; exact .inl hc
          | ok background =>
              rw [hbg] at hc
              simp only [Except.mapError] at hc
              split at hc
              next => exact .inl hc
              next => exact .inl hc
              next f b =>
                rcases pairs_of_addRule hc with hc | rfl
                · exact .inl hc
                · exact .inr ⟨object, fg, bg, rest, hwords, hfg, hbg⟩
  next => exact .inl hc

/-- A line with the command `color` brings the pairs that the command does. -/
theorem pairs_of_runLine [Interpreter] [Validator] {line : Text} {fromFile : Bool}
    (hline : ofLine? line = some (.color, args))
    (hc : c ∈ (effect (runLine line fromFile) w).2.session.scheme.palette.pairs) :
    c ∈ w.session.scheme.palette.pairs ∨
      ∃ object fg bg rest, Text.wordsAtMost 3 args = object :: fg :: bg :: rest ∧
        w.session.scheme.palette.parseColor fg = .ok (some c.fg) ∧
        w.session.scheme.palette.parseColor bg = .ok (some c.bg) := by
  rw [runLine, runLineWith_of_command hline, effect_bind, Action.effect_note] at hc
  exact pairs_of_runColor (w := { w with host := w.host.withNote (noteOf line) }) hc

end Command

/-! ## What reaches the palette -/

namespace Palette

/-- The colour that a text is read as is usable, or the text is a way to write the number just below
those that are. -/
def Admits (p : Palette) (t : Text) (c : Int) : Prop :=
  p.IsUsable c ∨ c = -2 ∧ Denotes (plain t) (-2)

theorem admits_of_parseColor {p : Palette} {t : Text} {c : Int} (hcolors : 8 ≤ p.colors)
    (h : p.parseColor t = .ok (some c)) : p.Admits t c := by
  obtain ⟨n, hn, rfl⟩ := denotes_of_parseColor h
  by_cases hover : n = -2
  · subst hover
    right
    exact ⟨by rw [checkColor_eq hcolors, if_pos (.inr rfl)], hn⟩
  · exact .inl (isUsable_checkColor hcolors hover)

/-- A text is no colour, or it has too many digits to be read, or it is a way to write a number.
The number is read as it is if it is usable and as the terminal's own colour if it is not, except
for the one just below the usable ones, which is read as it is.  So the pairs that the command
`color` brings have usable colours except where a word of the command is a way to write that number.
-/
theorem parsed_colors [Interpreter] [Validator] (w : World)
    (hcolors : 8 ≤ w.session.scheme.palette.colors) :
    let p := w.session.scheme.palette
    (∀ t,
      match p.parseColor t with
      | .error _ => IsTooLong t
      | .ok none => ∀ n, ¬ Denotes (plain t) n
      | .ok (some c) =>
          (∃ n, Denotes (plain t) n) ∧ ∀ n, Denotes (plain t) n →
            if n = -2 then c = -2 else p.IsUsable c ∧ c = if p.IsUsable n then n else -1) ∧
    ∀ line args fromFile, Command.ofLine? line = some (.color, args) →
      ∀ c ∈ (effect (Command.runLine line fromFile) w).2.session.scheme.palette.pairs,
        c ∈ p.pairs ∨
          ∃ object fg bg rest, Text.wordsAtMost 3 args = object :: fg :: bg :: rest ∧
            p.Admits fg c.fg ∧ p.Admits bg c.bg := by
  dsimp only
  refine ⟨?_, ?_⟩
  · intro t
    have hends := w.session.scheme.palette.parseColor_ends t
    cases hread : w.session.scheme.palette.parseColor t with
    | error e => rwa [hread] at hends
    | ok found =>
        cases found with
        | none => rwa [hread] at hends
        | some c =>
            rw [hread] at hends
            refine ⟨hends.1, ?_⟩
            intro n hn
            obtain rfl := hends.2 n hn
            split
            next hover => rw [checkColor_eq hcolors, if_pos (.inr hover), hover]
            next hover =>
              refine ⟨isUsable_checkColor hcolors hover, ?_⟩
              simp only [checkColor_eq hcolors, hover, or_false]
  · intro line args fromFile hline c hc
    rcases Command.pairs_of_runLine hline hc with hc | ⟨object, fg, bg, rest, hwords, hfg, hbg⟩
    · exact .inl hc
    · exact .inr ⟨object, fg, bg, rest, hwords, admits_of_parseColor hcolors hfg,
        admits_of_parseColor hcolors hbg⟩

example : ((Palette.mk 9 256 []).parseColor "-2").toOption = some (some (-2)) := by decide
example : ((Palette.mk 9 256 []).parseColor "-3").toOption = some (some (-1)) := by decide

/-- A new session. -/
def newWorld : World :=
  (Session.create { commandFile := .ofText "rc" }
    { files := fun _ _ => FileTree.system [], now := .universal 2024 6 1 9 30 }).2

/-- The number just below the usable ones makes a pair of its own. -/
theorem parsed_colors_overlooked :
    8 ≤ newWorld.session.scheme.palette.colors ∧
      ⟨-2, -1⟩ ∈ (effect (Command.runLine "color task -02 999" false)
        newWorld).2.session.scheme.palette.pairs ∧
      ¬ newWorld.session.scheme.palette.IsUsable (-2) ∧ Denotes (plain "-02") (-2) := by
  have hcolors : 8 ≤ newWorld.session.scheme.palette.colors := by decide +kernel
  have hpair : ⟨-2, -1⟩ ∈ (effect (Command.runLine "color task -02 999" false)
      newWorld).2.session.scheme.palette.pairs := by decide +kernel
  have hnew : ⟨-2, -1⟩ ∉ newWorld.session.scheme.palette.pairs := by decide +kernel
  have hbelow : ¬ newWorld.session.scheme.palette.IsUsable (-2) := fun h => absurd h.1 (by decide)
  obtain ⟨-, hline⟩ := parsed_colors newWorld hcolors
  have hargs : Command.ofLine? "color task -02 999" =
      some (Command.color, ("task -02 999" : Text)) := by decide
  obtain ⟨object, fg, bg, rest, hwords, hfg, -⟩ := (hline _ _ false hargs _ hpair).resolve_left hnew
  have hthree : Text.wordsAtMost 3 "task -02 999" = ["task", "-02", "999"] := by decide
  rw [hthree] at hwords
  cases hwords
  exact ⟨hcolors, hpair, hbelow, (hfg.resolve_left hbelow).2⟩

end Palette

end TaskBrowser
