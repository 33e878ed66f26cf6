import TaskBrowser.Files.Tree
import TaskBrowser.Platform
import TaskBrowser.Proofs.Color.History
import TaskBrowser.Proofs.Command.Setting

/-!
# Commands that are rejected

The commands that set a variable, show one or add a colour rule make every check before they change
anything: who may set the variable, whether the text is a value of its kind and of the setting
behind it, what the colours are, and whether there is a pair for them.  So if they fail, nothing has
changed (`AllOrNothing`): neither a value, nor a template, nor a rule, nor what a task remembers.

A line that fails has taken a note of itself, if it has a command at all.  At the prompt it leaves
its message besides, and in a command file the note that it failed (`Session.rejected_unchanged`).
-/

namespace TaskBrowser

open TaskBrowser.Action Session

/-! ## All or nothing -/

/-- The action has changed nothing if it fails. -/
def AllOrNothing {α : Type} (x : Action α) : Prop :=
  ∀ ⦃w w' f⦄, effect x w = (.error (.failure f), w') → w' = w

namespace AllOrNothing

variable {α β : Type}

theorem fail (f : Failure) : AllOrNothing (Action.fail f : Action α) := by
  intro w w' _ h
  exact (Prod.mk.inj h).2.symm

/-- What is only looked up before does not matter. -/
theorem look {x : Action α} {f : α → Action β} (hx : ∀ w, (effect x w).2 = w)
    (hf : ∀ a, AllOrNothing (f a)) : AllOrNothing (x >>= f) := by
  intro w w' e h
  have hsame : ∀ {r w₁}, effect x w = (r, w₁) → w₁ = w := by
    intro r w₁ hend
    rw [← hx w, hend]
  rcases effect_bind_eq_error.1 h with hfirst | ⟨a, w₁, hfirst, hsecond⟩
  · exact hsame hfirst
  · rw [hf a hsecond, hsame hfirst]

theorem session {f : Session → Action β} (hf : ∀ s, AllOrNothing (f s)) :
    AllOrNothing (Action.session >>= f) :=
  .look (fun _ => rfl) hf

theorem orCrash {x : Except Crash α} {f : α → Action β} (hf : ∀ a, AllOrNothing (f a)) :
    AllOrNothing (Action.orCrash x >>= f) :=
  .look (fun w => by rw [effect_orCrash]) hf

end AllOrNothing

/-! ## The commands -/

namespace Command

variable {fromFile : Bool}

theorem runSet_allOrNothing [Validator] (args : Text) : AllOrNothing (runSet args fromFile) :=
  fun _ _ _ => runSet_failed

theorem variableMessage_allOrNothing (name : Text) : AllOrNothing (variableMessage name) := by
  intro w w' f h
  rcases effect_variableMessage name w with ⟨m, hm⟩ | hm
  · rw [hm] at h
    cases h
  · rw [hm] at h
    exact (Prod.mk.inj h).2.symm

theorem runShow_allOrNothing (args : Text) : AllOrNothing (runShow args) := by
  rw [runShow]
  split
  · exact .fail _
  · exact variableMessage_allOrNothing _

/-- A rule is added to a board that has a pair for it, or not at all. -/
theorem addRule_allOrNothing (object : ColorObject) (predicate : Option Text) (c : ColorPair) :
    AllOrNothing (addRule object predicate c) := by
  intro w w' f h
  cases hrule : w.session.board.addRule object predicate c with
  | error e =>
      rw [Board.effect_addRule_of_error (k := ⟨object, predicate⟩) hrule] at h
      exact (Prod.mk.inj h).2.symm
  | ok found =>
      rw [addRule, effect_bind, effect_session] at h
      dsimp only at h
      rw [hrule] at h
      cases h

theorem runColor_allOrNothing (args : Text) : AllOrNothing (runColor args) := by
  rw [runColor]
  split
  · split
    · exact .fail _
    · refine .session fun s => .orCrash fun foreground => .orCrash fun background => ?_
      split
      · exact .fail _
      · exact .fail _
      · exact addRule_allOrNothing _ _ _
  · exact .fail _

/-- The commands that are checked before they change anything. -/
def isChecked : Command → Bool
  | .set | .show | .color => true
  | _ => false

theorem perform_allOrNothing [Interpreter] [Validator]
    {sourceFile : Text → Action Text} {c : Command}
    (hc : c.isChecked = true) (args : Text) :
    AllOrNothing (perform sourceFile c args fromFile) := by
  cases c with
  | set => exact runSet_allOrNothing args
  | «show» => exact runShow_allOrNothing args
  | color => exact runColor_allOrNothing args
  | _ => cases hc

/-! ## Lines -/

theorem mem_all (c : Command) : c ∈ all := by
  cases c <;> decide

/-- No other command has a word that starts like that of one that is checked. -/
theorem eq_of_name_prefix {c d : Command} (hc : c.isChecked = true) (h : c.name <+: d.name) :
    d = c := by
  have hwords : ∀ c ∈ all, c.isChecked = true → ∀ d ∈ all, c.name <+: d.name → d = c := by decide
  exact hwords c (mem_all c) hc d (mem_all d) h

/-- A line that starts with the word of a checked command has that command or none. -/
theorem ofLine?_of_startsWith {c : Command} (hc : c.isChecked = true) {line : Text}
    (hline : Text.startsWith (Text.trim line) c.name = true) :
    ofLine? line = none ∨ ∃ args, ofLine? line = some (c, args) := by
  rw [ofLine?]
  cases hword : ofName? (splitSpace (Text.trim line)).1 with
  | none => exact .inl rfl
  | some d =>
      right
      have hname : d.name = (splitSpace (Text.trim line)).1 := by
        simpa using List.find?_some hword
      obtain ⟨rest, hrest⟩ := List.isPrefixOf_iff_prefix.1 hline
      have hlead : c.name <+: d.name := by
        rw [hname, fst_splitSpace, ← hrest,
          List.takeWhile_append_of_pos (List.all_eq_true.1 c.name_spaceless)]
        exact List.prefix_append _ _
      obtain rfl := eq_of_name_prefix hc hlead
      exact ⟨_, rfl⟩

end Command

/-! ## Worlds that differ by notes -/

namespace World

/-- The session is the same, and around it there are only more notes. -/
def Noted (w w' : World) : Prop :=
  w'.session = w.session ∧ ∃ ns, w'.host = w.host.withNotes ns

theorem Noted.refl (w : World) : Noted w w := ⟨rfl, [], rfl⟩

theorem Noted.withNote {w w' : World} (h : Noted w w') (n : Note) :
    Noted w { w' with host := w'.host.withNote n } := by
  obtain ⟨hsession, ns, hhost⟩ := h
  refine ⟨hsession, ns ++ [n], ?_⟩
  rw [hhost, Host.withNotes, Host.withNotes, List.foldl_append]
  rfl

end World

/-! ## What is left of a line that is rejected -/

namespace Command

variable [Interpreter] [Validator] {c : Command} {line : Text} {fromFile : Bool} {w w' : World}

theorem runLineWith_rejected {sourceFile : Text → Action Text} {f : Failure}
    (hc : c.isChecked = true) (hline : Text.startsWith (Text.trim line) c.name = true)
    (h : effect (runLineWith sourceFile line fromFile) w = (.error (.failure f), w')) :
    World.Noted w w' := by
  rcases ofLine?_of_startsWith hc hline with hnone | ⟨args, hargs⟩
  · have hfails : ∃ f, runLineWith sourceFile line fromFile = Action.fail f :=
      runLineWith_of_none hnone fromFile
    obtain ⟨_, hfail⟩ := hfails
    rw [hfail] at h
    obtain ⟨-, rfl⟩ := Prod.mk.inj h
    exact .refl w
  · rw [runLineWith_of_command hargs, effect_bind, effect_note] at h
    obtain rfl := perform_allOrNothing hc args h
    exact (World.Noted.refl w).withNote (noteOf line)

/-- A line of a command file that failed was rejected, and its failure is noted. -/
theorem tryLine_rejected {sourceFile : Text → Action Text} {file : Text} {number : Nat}
    (hc : c.isChecked = true) (hline : Text.startsWith (Text.trim line) c.name = true)
    (h : effect (tryLine (fun line => runLineWith sourceFile line true) file number line) w =
      (.ok true, w')) :
    World.Noted w w' := by
  have htrimmed : Text.startsWith (Text.trim (Text.trim line)) c.name = true := by
    rwa [Text.trim_trim]
  rw [tryLine, effect_rescue, effect_bind] at h
  rcases hrun : effect (runLineWith sourceFile (Text.trim line) true) w with ⟨(f | x) | m, w₁⟩
  · rw [hrun] at h
    obtain ⟨-, rfl⟩ := Prod.mk.inj h
    exact (runLineWith_rejected hc htrimmed hrun).withNote (failedLineNote file number f)
  · rw [hrun] at h
    cases h
  · rw [hrun] at h
    cases h

end Command

namespace Session

variable [Interpreter] [Validator]

/-- At the prompt a line that fails leaves its message, and nothing else in the session changes. -/
theorem runCommand_rejected {c : Command} {line m : Text} {w w' : World} (hc : c.isChecked = true)
    (hline : Text.startsWith (Text.trim line) c.name = true)
    (h : effect (runCommand line) w = (.ok m, w')) (herror : w'.session.messageIsError = true) :
    World.Noted
      { w with session := { w.session with message := some m, messageIsError := true } } w' := by
  rw [runCommand, effect_rescue, effect_bind] at h
  rcases hrun : effect (Command.runLine line false) w with ⟨(f | x) | message, w₁⟩
  · obtain ⟨hsession, ns, hhost⟩ :=
      (Command.runLineWith_rejected hc hline hrun).withNote (failedCommandNote line f)
    rw [hrun] at h
    dsimp only at h
    rw [effect_bind, effect_note] at h
    dsimp only at h
    rw [effect_notify] at h
    obtain ⟨hm, rfl⟩ := Prod.mk.inj h
    cases hm
    dsimp only at hsession
    have hbefore : World.Noted
        { w with session := { w.session with message := some f.message, messageIsError := true } }
        { w₁ with
          session := { w₁.session with message := some f.message, messageIsError := true }
          host := w₁.host.withNote (failedCommandNote line f) } := by
      refine ⟨?_, ns, hhost⟩
      rw [hsession]
    exact hbefore.withNote _
  · rw [hrun] at h
    cases h
  · rw [hrun] at h
    obtain ⟨-, rfl⟩ := Prod.mk.inj h
    cases herror

/-- A line that starts with `set`, `show` or `color` and fails has changed nothing, from wherever it
is run: neither the session, with all that its variables show, its settings and templates, the
selection, the search text, the rules and their pairs, and what the tasks remember of them; nor the
files, the clock, the answers of the task program or the level from which notes are kept.  Only
notes are added.  At the prompt there is its message besides. -/
theorem rejected_unchanged {c : Command} (hc : c = .set ∨ c = .show ∨ c = .color) {line : Text}
    (hline : Text.startsWith (Text.trim line) c.name = true) (w : World) :
    (∀ fromFile f w', effect (Command.runLine line fromFile) w = (.error (.failure f), w') →
      w.Noted w') ∧
    (∀ m w', effect (runCommand line) w = (.ok m, w') → w'.session.messageIsError = true →
      World.Noted
        { w with session := { w.session with message := some m, messageIsError := true } } w') ∧
    ∀ depth file number w',
      effect (Command.tryLine
        (fun line => Command.runLineWith (Command.sourceWithin depth) line true)
        file number line) w = (.ok true, w') →
      w.Noted w' := by
  have hchecked : c.isChecked = true := by
    rcases hc with rfl | rfl | rfl <;> rfl
  refine ⟨?_, ?_, ?_⟩
  · intro fromFile f w' hfails
    exact Command.runLineWith_rejected hchecked hline hfails
  · intro m w' hends herror
    exact runCommand_rejected hchecked hline hends herror
  · intro depth file number w' hfails
    exact Command.tryLine_rejected hchecked hline hfails

end Session

namespace Session

/-- A session whose pairs are all in use, with a task that remembers one of them. -/
def crowded : World :=
  let host : Host := { files := fun _ _ => FileTree.system [], now := .universal 2024 6 1 9 30 }
  let fresh := (create { commandFile := .ofText "rc", colorPairs := 5 } host).2.session
  ⟨{ fresh with store := [{ uuid := "a", description := "milk", pairSelected := some 3 }] }, host⟩

/-- A rule that would need one more pair is rejected, in a command file and at the prompt. -/
theorem rejected_unchanged_crowded :
    (∃ w', effect (Command.runLine "color task red blue ~d 'milk'" true) crowded =
        (.error (.failure (.ruleNotApplied ⟨1, 4, 5⟩)), w') ∧ crowded.Noted w') ∧
      ∃ w', effect (runCommand " color task red blue") crowded =
          (.ok "applying color rule failed: no free color pairs for (1, 4)", w') ∧
        w'.session.store = crowded.session.store ∧ w'.session.scheme = crowded.session.scheme := by
  have hfile : (effect (Command.runLine "color task red blue ~d 'milk'" true) crowded).1 =
      .error (.failure (.ruleNotApplied ⟨1, 4, 5⟩)) := by decide +kernel
  obtain ⟨hprompt, herror⟩ : (effect (runCommand " color task red blue") crowded).1 =
        .ok "applying color rule failed: no free color pairs for (1, 4)" ∧
      (effect (runCommand " color task red blue") crowded).2.session.messageIsError = true := by
    decide +kernel
  have hstarts : Text.startsWith (Text.trim "color task red blue ~d 'milk'")
      Command.color.name = true := by decide
  have hstarts' : Text.startsWith (Text.trim " color task red blue") Command.color.name = true := by
    decide
  obtain ⟨hline, -, -⟩ := rejected_unchanged (.inr (.inr rfl)) hstarts crowded
  obtain ⟨-, hcommand, -⟩ := rejected_unchanged (.inr (.inr rfl)) hstarts' crowded
  have hends := effect_eq_of_fst hprompt
  obtain ⟨hsession, -⟩ := hcommand _ _ hends herror
  refine ⟨⟨_, effect_eq_of_fst hfile, hline _ _ _ (effect_eq_of_fst hfile)⟩, _, hends, ?_, ?_⟩
  · rw [hsession]
  · rw [hsession]

end Session

end TaskBrowser
