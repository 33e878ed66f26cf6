import TaskBrowser.Proofs.Session.Operations
import TaskBrowser.Proofs.Command.Setting

/-!
# Command lines proceed in steps

A command line takes the steps of its command, and those of its lines if it runs a command file.
The settings it changes are behind variables that it sets (`Command.LineSets`).
-/

namespace TaskBrowser

variable [Interpreter] [Validator]

open TaskBrowser.Action Session

variable {may : Entry → Prop} {fromFile : Bool}

/-! ## Setting and showing -/

namespace Session

theorem compileFormats_proceeds {e : Entry} {x : Setting} {v : Json} {c : Config} {w w' : World}
    (he : e ∈ variableEntries) (hsource : e.source = .setting x) (hmay : may e)
    (hformat : isFormat x = true) (h : w.session.config.set x v = .ok c)
    (hw : w' = { w with session := { w.session with config := c } }) :
    Leaves may w.session (effect compileFormats w').1 (effect compileFormats w').2.session := by
  subst hw
  cases hts : c.templates with
  | error d =>
      obtain ⟨ts, hcompile⟩ := effect_compileFormats_error
        (w := { w with session := { w.session with config := c } }) hts
      rw [hcompile]
      exact .cut (.reformatted hformat h ts)
  | ok ts =>
      rw [effect_compileFormats_ok (w := { w with session := { w.session with config := c } }) hts]
      exact .of_reaches (.single (.reformatted he hsource hmay hformat h hts))

theorem assignSetting_proceeds {e : Entry} {x : Setting} (he : e ∈ variableEntries)
    (hsource : e.source = .setting x) (hmay : may e) (v : Json) (w : World) :
    Proceeds may (assignSetting x v) w := by
  rw [Proceeds, effect_assignSetting]
  cases h : w.session.config.set x v with
  | error _ => exact .of_reaches .refl
  | ok c =>
      dsimp only
      cases hformat : isFormat x with
      | true => exact compileFormats_proceeds he hsource hmay hformat h rfl
      | false => exact .of_reaches (.single (.assigned he hsource hmay hformat h))

theorem assignLogLevel_proceeds (v : Json) (w : World) :
    Proceeds may (assignLogLevel v) w := by
  refine .bind (.change (.levelled (Text.upper v.plain))) ?_
  intro _ w' _
  refine .bind (.orCrash _) ?_
  intro n w' _
  exact .keep rfl

theorem assign_proceeds {e : Entry} (he : e ∈ variableEntries) (hmay : may e) (v : Json)
    (w : World) : Proceeds may (assign e.source v) w := by
  cases hsource : e.source with
  | setting x => exact assignSetting_proceeds he hsource hmay v w
  | logLevel => exact assignLogLevel_proceeds v w
  | search => exact .change (.searching _)
  | selectedLine => exact .bind (.orCrash _) fun n w' _ => moveTo_proceeds _ w'
  | programAuthor => exact .pure _
  | programName => exact .pure _
  | programVersion => exact .pure _
  | taskCount => exact .pure _
  | taskVersion => exact .pure _

theorem setVariable_proceeds {name : Text} (text : Text) (w : World)
    (hmay : Permits may (name = ·)) : Proceeds may (setVariable name text fromFile) w := by
  rw [Proceeds, effect_setVariable]
  cases hfind : variableEntries.find? (·.name == name) with
  | none => exact .of_reaches .refl
  | some e =>
      dsimp only
      cases haccept : e.accept text fromFile with
      | error f => exact .of_reaches .refl
      | ok v =>
          have he := List.mem_of_find?_eq_some hfind
          have hname : e.name = name := by simpa using List.find?_some hfind
          have hset := (Entry.accept_eq_ok_iff.1 haccept).1.inFile
          exact assign_proceeds he (hmay e he hset hname.symm) v w

theorem variableMessage_proceeds (name : Text) (w : World) :
    Proceeds may (variableMessage name) w := by
  refine .keep ?_
  rcases effect_variableMessage name w with ⟨m, h⟩ | h
  · rw [h]
  · rw [h]

end Session

/-! ## The commands -/

namespace Command

theorem runSet_proceeds {args : Text} (w : World)
    (hmay : Permits may ((splitSpace args).1 = ·)) : Proceeds may (runSet args fromFile) w := by
  rw [runSet]
  dsimp only
  split
  · exact .fail _
  · exact .bind (setVariable_proceeds _ w hmay) fun _ w' _ => variableMessage_proceeds _ w'

theorem runShow_proceeds (args : Text) (w : World) : Proceeds may (runShow args) w := by
  rw [runShow]
  split
  · exact .fail _
  · exact variableMessage_proceeds _ w

theorem addRule_proceeds (object : ColorObject) (predicate : Option Text) (c : ColorPair)
    (w : World) : Proceeds may (addRule object predicate c) w := by
  refine .withSession ?_
  cases hrule : w.session.board.addRule object predicate c with
  | error e => exact .fail _
  | ok found =>
      refine .bind (.change (.ruled hrule)) ?_
      intro _ w' _
      exact .bind (.onHost _) fun _ _ _ => .pure _

theorem runColor_proceeds (args : Text) (w : World) : Proceeds may (runColor args) w := by
  rw [runColor]
  split
  next object fg bg predicate _ =>
    split
    · exact .fail _
    · refine .withSession (.bind (.orCrash _) ?_)
      intro foreground w' _
      refine .bind (.orCrash _) ?_
      intro background w'' _
      split
      · exact .fail _
      · exact .fail _
      · exact addRule_proceeds _ _ _ w''
  next => exact .fail _

theorem runSort_proceeds (args : Text) (w : World) : Proceeds may (runSort args) w :=
  .bind (sort_proceeds _ w) fun _ _ _ => .withSession (.pure _)

theorem runFilter_proceeds (args : Text) (w : World) : Proceeds may (runFilter args) w :=
  .bind (setFilter_proceeds args w) fun _ _ _ => .withSession (.pure _)

theorem searchResult_proceeds (found : Bool) (w : World) :
    Proceeds may (searchResult found) w := by
  refine .withSession ?_
  cases found with
  | true => exact .pure _
  | false => exact .fail _

theorem runSearch_proceeds (args : Text) (w : World) : Proceeds may (runSearch args) w := by
  rw [runSearch]
  split
  · exact .fail _
  · exact .bind (searchFor_proceeds args w) fun found w' _ => searchResult_proceeds found w'

theorem runDump_proceeds (w : World) : Proceeds may runDump w :=
  .withSession (.bind (.onHost _) fun _ _ _ => .pure _)

/-! ## Command lines -/

theorem perform_proceeds {sourceFile : Text → Action Text} {c : Command} {args : Text} (w : World)
    (hset : c = .set → Permits may ((splitSpace args).1 = ·))
    (hsource : c = .source → Proceeds may (sourceFile args) w) :
    Proceeds may (perform sourceFile c args fromFile) w := by
  cases c with
  | set => exact runSet_proceeds w (hset rfl)
  | «show» => exact runShow_proceeds args w
  | color => exact runColor_proceeds args w
  | source => exact hsource rfl
  | reload => exact .bind (reload_proceeds w) fun _ _ _ => .pure _
  | sync => exact sync_proceeds w
  | undo => exact undo_proceeds w
  | sort => exact runSort_proceeds args w
  | filter => exact runFilter_proceeds args w
  | search => exact runSearch_proceeds args w
  | searchNext =>
      exact .bind (searchNext_proceeds w) fun found w' _ => searchResult_proceeds found w'
  | version => exact .pure _
  | dump => exact runDump_proceeds w

theorem runLineWith_proceeds {sourceFile : Text → Action Text}
    {fileSets : Text → Text → World → Prop}
    (hfile : ∀ path w, Permits may (fileSets · path w) → Proceeds may (sourceFile path) w)
    (line : Text) (fromFile : Bool) (w : World)
    (hmay : Permits may fun name => LineSets (fileSets name) name line w) :
    Proceeds may (runLineWith sourceFile line fromFile) w := by
  cases hline : ofLine? line with
  | none =>
      have hnone : ∃ f, runLineWith sourceFile line fromFile = Action.fail f :=
        runLineWith_of_none hline fromFile
      obtain ⟨f, hfail⟩ := hnone
      rw [hfail]
      exact .fail f
  | some found =>
      obtain ⟨c, args⟩ := found
      rw [runLineWith_of_command hline fromFile]
      refine .bind (.note _) ?_
      intro _ w' hnote
      rw [effect_note] at hnote
      obtain ⟨-, rfl⟩ := Prod.mk.inj hnote
      refine perform_proceeds _ ?_ ?_
      · rintro rfl
        refine hmay.mono fun name hname => ?_
        rw [LineSets, hline]
        exact hname
      · rintro rfl
        refine hfile args _ (hmay.mono fun name hsets => ?_)
        rw [LineSets, hline]
        exact hsets

theorem tryLine_proceeds {runLine : Text → Action Text} {line : Text} {w : World}
    (h : Proceeds may (runLine (Text.trim line)) w) (file : Text) (number : Nat) :
    Proceeds may (tryLine runLine file number line) w := by
  refine .rescue (.bind h fun _ _ _ => .pure _) ?_
  intro f w' _
  exact .bind (.note _) fun _ _ _ => .pure _

/-- The lines that are left may set what all lines may, from where the line before has ended. -/
theorem runLines_proceeds {runLine : Text → Action Text} {lineSets : Text → Text → World → Prop}
    (hline : ∀ line w, Permits may (lineSets · line w) → Proceeds may (runLine line) w)
    (file : Text) (lines : List Text) :
    ∀ (number failures : Nat) (w : World),
      Permits may (fun name => LinesSet (lineSets name) runLine file number lines w) →
      Proceeds may (runLines runLine file number failures lines) w := by
  induction lines with
  | nil => intro number failures w _; exact .pure _
  | cons line lines ih =>
      intro number failures w hmay
      rw [runLines]
      cases hover : isPassedOver line with
      | true =>
          rw [if_pos rfl]
          refine ih _ _ w (hmay.mono fun name hsets => ?_)
          rw [LinesSet, hover, if_pos rfl]
          exact hsets
      | false =>
          rw [if_neg Bool.false_ne_true]
          have hfirst : Permits may (lineSets · (Text.trim line) w) := by
            refine hmay.mono fun name hsets => ?_
            rw [LinesSet, hover, if_neg Bool.false_ne_true]
            exact .inl hsets
          refine .bind (tryLine_proceeds (hline _ w hfirst) file number) ?_
          intro failed w' hend
          refine ih _ _ w' (hmay.mono fun name hsets => ?_)
          rw [LinesSet, hover, if_neg Bool.false_ne_true]
          right
          rw [tryLine, hend]
          exact hsets

theorem readFile_proceeds (p : FilePath) (w : World) : Proceeds may (readFile p) w := by
  refine .keep ?_
  rw [effect_readFile]
  split <;> rfl

theorem sourceWith_proceeds {runLine : Text → Action Text} {lineSets : Text → Text → World → Prop}
    (hline : ∀ line w, Permits may (lineSets · line w) → Proceeds may (runLine line) w)
    (path : Text) (w : World)
    (hmay : Permits may fun name => FileSets (lineSets name) runLine path w) :
    Proceeds may (sourceWith runLine path) w := by
  rw [sourceWith]
  split
  · exact .fail _
  · refine .withWorld (.bind (.orCrash _) ?_)
    intro file w' hfile
    rw [effect_orCrash] at hfile
    obtain ⟨hexpand, rfl⟩ := Prod.mk.inj hfile
    refine .bind (readFile_proceeds file w) ?_
    intro text w' htext
    obtain ⟨hread, rfl⟩ := read_of_readFile htext
    have hlines : Permits may fun name =>
        LinesSet (lineSets name) runLine file.toText 1 (Text.lines text) w' :=
      hmay.mono fun name hsets => ⟨file, text, mapError_eq_ok_iff.1 hexpand, hread, hsets⟩
    refine .bind (runLines_proceeds hline _ _ _ _ w' hlines) ?_
    intro failures w' _
    split
    · exact .pure _
    · exact .pure _

/-- Command files that run each other proceed in steps, however deep they do. -/
theorem sourceWithin_proceeds (depth : Nat) :
    ∀ (path : Text) (w : World), Permits may (SourceSets · depth path w) →
      Proceeds may (sourceWithin depth path) w := by
  induction depth with
  | zero => intro path w _; exact .crash _
  | succ depth ih =>
      intro path w hmay
      exact sourceWith_proceeds (fun line w => runLineWith_proceeds ih line true w) path w hmay

/-- What a command line sets, with the command files that it runs. -/
abbrev RunSets (name line : Text) (w : World) : Prop :=
  LineSets (SourceSets name (Interpreter.sourceDepth + 1)) name line w

theorem runLine_proceeds (line : Text) (fromFile : Bool) (w : World)
    (hmay : Permits may (RunSets · line w)) : Proceeds may (runLine line fromFile) w :=
  runLineWith_proceeds (sourceWithin_proceeds _) line fromFile w hmay

end Command

/-! ## The prompt and the start -/

namespace Session

theorem runCommand_proceeds (line : Text) (w : World)
    (hmay : Permits may (Command.RunSets · line w)) : Proceeds may (runCommand line) w := by
  refine .rescue ?_ ?_
  · exact .bind (Command.runLine_proceeds line false w hmay) fun _ _ _ => .notify _ false
  · intro f w' _
    exact .bind (.note _) fun _ _ _ => .notify _ true

theorem loadCommandFile_proceeds (p : FilePath) (w : World)
    (hmay : Permits may (Command.SourceSets · (Interpreter.sourceDepth + 1) p.toText w)) :
    Proceeds may (loadCommandFile p) w := by
  refine .withWorld (.bind (.orCrash _) ?_)
  intro expanded w' hexpanded
  rw [effect_orCrash] at hexpanded
  obtain ⟨-, rfl⟩ := Prod.mk.inj hexpanded
  refine .bind (.orCrash _) ?_
  intro found w' hfound
  rw [effect_orCrash] at hfound
  obtain ⟨-, rfl⟩ := Prod.mk.inj hfound
  cases found with
  | true => exact .bind (Command.sourceWithin_proceeds _ _ w hmay) fun _ _ _ => .pure _
  | false => exact .note _

theorem askVersion_proceeds (w : World) : Proceeds may askVersion w := by
  refine .rescue ?_ ?_
  · refine .bind (.ask _) ?_
    intro version w' _
    exact .bind (.change (.versioned version)) fun _ _ _ => .note _
  · intro f w' _
    exact .note _

/-- What the command file of the settings sets at the start. -/
def StartSets (name : Text) (w : World) : Prop :=
  let w' := (effect askVersion w).2
  Command.SourceSets name (Interpreter.sourceDepth + 1) w'.session.config.commandFile.toText w'

theorem startup_proceeds (w : World) (hmay : Permits may (StartSets · w)) :
    Proceeds may startup w := by
  refine .bind (askVersion_proceeds w) ?_
  intro _ w' hend
  refine .withSession (.bind (loadCommandFile_proceeds _ w' ?_) ?_)
  · refine hmay.mono fun name hsets => ?_
    rw [StartSets, hend]
    exact hsets
  · intro _ w' _
    exact reload_proceeds w'

theorem mount_proceeds (w : World) (hmay : Permits may (StartSets · w)) : Proceeds may mount w := by
  refine .rescue (startup_proceeds w hmay) ?_
  intro f w' _
  refine .bind (.note _) ?_
  intro _ w' _
  exact .bind (.notify _ true) fun _ _ _ => .pure _

end Session

end TaskBrowser
