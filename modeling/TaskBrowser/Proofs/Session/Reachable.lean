import TaskBrowser.Proofs.Command.Steps

/-!
# Reachable sessions

A session is reachable if operations, one after another, lead to it from a new one.  Every
operation may find other files, another clock and other answers of the task program.  How an
operation may end for the next one to follow is a parameter.

`Reachable.invariant` is how a property of all reachable sessions is proved: new sessions have it,
the steps of `Session.Change` preserve it, and so do the steps that a crash leaves half done, if
operations may follow a crash.
-/

namespace TaskBrowser

namespace Session

open TaskBrowser.Action

/-! ## New sessions -/

/-- A new session has the default colour rules, the templates of its settings, and no tasks. -/
theorem create_eq_ok {c : Config} {h : Host} {w : World} (hw : create c h = (.ok (), w)) :
    ∃ b ts, (bare c).board.addAll Scheme.defaults = (b, none) ∧ c.templates = .ok ts ∧
      w.session = ((bare c).withBoard b).withTemplates ts := by
  have hsetUp : effect setUp ⟨bare c, h⟩ = (.ok (), w) := hw
  rw [setUp, effect_bind, addDefaultRules, effect_bind, effect_session] at hsetUp
  dsimp only at hsetUp
  rw [effect_bind, effect_change] at hsetUp
  dsimp only at hsetUp
  rw [effect_bind, effect_onHost, effect_modify] at hsetUp
  dsimp only at hsetUp
  rcases hboard : (bare c).board.addAll Scheme.defaults with ⟨b, fault⟩
  rw [hboard] at hsetUp
  cases fault with
  | some e => cases hsetUp
  | none =>
      simp only [effect_pure] at hsetUp
      cases hts : c.templates with
      | error d =>
          obtain ⟨ts, hcompile⟩ := effect_compileFormats_error
            (w := ⟨(bare c).withBoard b, _⟩) hts
          rw [hcompile] at hsetUp
          cases hsetUp
      | ok ts =>
          rw [effect_compileFormats_ok (w := ⟨(bare c).withBoard b, _⟩) hts] at hsetUp
          cases hsetUp
          exact ⟨b, ts, rfl, rfl, rfl⟩

/-- Adding rules adds no tasks. -/
theorem addAll_store_nil (es : List Scheme.Entry) :
    ∀ {b : Board}, b.store = [] → (b.addAll es).1.store = [] := by
  induction es with
  | nil => intro b h; exact h
  | cons e es ih =>
      intro b h
      rw [Board.addAll]
      cases hrule : b.addRule e.object e.predicate e.colors with
      | error x => exact h
      | ok found =>
          refine ih ?_
          rw [Board.addRule] at hrule
          split at hrule
          · cases hrule
          · cases hrule
            rw [h]
            rfl

theorem create_store {c : Config} {h : Host} {w : World} (hw : create c h = (.ok (), w)) :
    w.session.store = [] := by
  obtain ⟨b, ts, hboard, -, hs⟩ := create_eq_ok hw
  rw [hs]
  have hstore := addAll_store_nil Scheme.defaults (b := (bare c).board) rfl
  rw [hboard] at hstore
  exact hstore

variable [Interpreter] [Validator]

/-! ## Operations -/

/-- Takes the colour rule of an object and a predicate away, if there is one. -/
def removeRule (object : ColorObject) (predicate : Option Text) : Action Unit :=
  Action.change fun s => s.withBoard (s.board.removeRule object predicate).2

/-- What is done with a session. -/
inductive Operation where
  | startup
  | mount
  | loadCommandFile (path : FilePath)
  | reload
  | reloadRecord (uuid : Text)
  | sort (mode : Option Text)
  | select (position : Int)
  | selectUuid (uuid : Text)
  | scrollUp
  | scrollDown
  | scrollHome
  | scrollEnd
  | search (pattern : Text)
  | searchNext
  | setFilter (filter : Text)
  | toggleStarted
  | complete
  | delete
  | add (line : Text)
  | modify (line : Text)
  | undo
  | sync
  | taskInfo
  | stats
  | notify (message : Text) (isError : Bool)
  | renderTask (position : Nat) (selected : Bool) (context : RenderContext)
  | renderAll
  | renderTitle
  | renderViewTitle
  | addRule (object : ColorObject) (predicate : Option Text) (c : ColorPair)
  | removeRule (object : ColorObject) (predicate : Option Text)
  | setVariable (name text : Text) (fromFile : Bool)
  | runCommand (line : Text)
  | command (line : Text) (fromFile : Bool)
  | source (path : Text)

/-- Renders the task at a position, if there is one. -/
def renderAt (position : Nat) (selected : Bool) (c : RenderContext) : Action Unit := do
  match (← Action.session).store[position]? with
  | none => return
  | some r => let _ ← Session.renderTask position r selected c

/-- The action of an operation, whatever it gives. -/
def Operation.action : Operation → Action Unit
  | .startup => Session.startup
  | .mount => Session.mount
  | .loadCommandFile path => Session.loadCommandFile path
  | .reload => Session.reload
  | .reloadRecord uuid => Session.reloadRecord uuid
  | .sort mode => Session.sort mode
  | .select position => moveTo position
  | .selectUuid uuid => do let _ ← moveToUuid uuid
  | .scrollUp => Session.scrollUp
  | .scrollDown => Session.scrollDown
  | .scrollHome => Session.scrollHome
  | .scrollEnd => Session.scrollEnd
  | .search pattern => do let _ ← searchFor pattern
  | .searchNext => do let _ ← Session.searchNext
  | .setFilter filter => Session.setFilter filter
  | .toggleStarted => do let _ ← Session.toggleStarted
  | .complete => do let _ ← Session.complete
  | .delete => do let _ ← Session.delete
  | .add line => do let _ ← addTask line
  | .modify line => do let _ ← modifyTask line
  | .undo => do let _ ← Session.undo
  | .sync => do let _ ← Session.sync
  | .taskInfo => do let _ ← Session.taskInfo
  | .stats => do let _ ← Session.stats
  | .notify message isError => do let _ ← Session.notify message isError
  | .renderTask position selected c => renderAt position selected c
  | .renderAll => do let _ ← Session.renderAll
  | .renderTitle => do let _ ← Session.renderTitle
  | .renderViewTitle => do let _ ← Session.renderViewTitle
  | .addRule object predicate c => do let _ ← Command.addRule object predicate c
  | .removeRule object predicate => Session.removeRule object predicate
  | .setVariable name text fromFile => Session.setVariable name text fromFile
  | .runCommand line => do let _ ← Session.runCommand line
  | .command line fromFile => do let _ ← Command.runLine line fromFile
  | .source path => do let _ ← Command.runFile path

/-- Whether an operation sets a variable, itself or by the command lines that it runs. -/
def Operation.Sets : Operation → Text → World → Prop
  | .startup, name, w => StartSets name w
  | .mount, name, w => StartSets name w
  | .loadCommandFile path, name, w =>
      Command.SourceSets name (Interpreter.sourceDepth + 1) path.toText w
  | .setVariable name' _ _, name, _ => name' = name
  | .runCommand line, name, w => Command.RunSets name line w
  | .command line _, name, w => Command.RunSets name line w
  | .source path, name, w => Command.SourceSets name (Interpreter.sourceDepth + 1) path w
  | _, _, _ => False

variable {may : Entry → Prop}

theorem renderAt_proceeds (position : Nat) (selected : Bool) (c : RenderContext) (w : World) :
    Proceeds may (renderAt position selected c) w := by
  refine .withSession ?_
  split
  · exact .pure _
  next r hr => exact .bind (renderTask_proceeds selected c hr) fun _ _ _ => .pure _

/-- Every operation proceeds in steps, which change the settings behind the variables it sets. -/
theorem Operation.action_proceeds (o : Operation) (w : World) (hmay : Permits may (o.Sets · w)) :
    Proceeds may o.action w := by
  have discard {α : Type} {x : Action α} (h : Proceeds may x w) :
      Proceeds may (do let _ ← x) w := .bind h fun _ _ _ => .pure _
  cases o with
  | startup => exact startup_proceeds w hmay
  | mount => exact mount_proceeds w hmay
  | loadCommandFile path => exact loadCommandFile_proceeds path w hmay
  | reload => exact reload_proceeds w
  | reloadRecord uuid => exact reloadRecord_proceeds uuid w
  | sort mode => exact sort_proceeds mode w
  | select position => exact moveTo_proceeds position w
  | selectUuid uuid => exact discard (moveToUuid_proceeds uuid w)
  | scrollUp => exact .change (.moved _)
  | scrollDown => exact .change (.moved _)
  | scrollHome => exact .change (.moved _)
  | scrollEnd => exact .change (.moved _)
  | search pattern => exact discard (searchFor_proceeds pattern w)
  | searchNext => exact discard (searchNext_proceeds w)
  | setFilter filter => exact setFilter_proceeds filter w
  | toggleStarted => exact discard (toggleStarted_proceeds w)
  | complete => exact discard (complete_proceeds w)
  | delete => exact discard (delete_proceeds w)
  | add line => exact discard (addTask_proceeds line w)
  | modify line => exact discard (modifyTask_proceeds line w)
  | undo => exact discard (undo_proceeds w)
  | sync => exact discard (sync_proceeds w)
  | taskInfo => exact discard (taskInfo_proceeds w)
  | stats => exact discard (stats_proceeds w)
  | notify message isError => exact discard (.notify message isError)
  | renderTask position selected c => exact renderAt_proceeds position selected c w
  | renderAll => exact discard (renderAll_proceeds w)
  | renderTitle => exact discard (renderTitle_proceeds w)
  | renderViewTitle => exact discard (renderViewTitle_proceeds w)
  | addRule object predicate c => exact discard (Command.addRule_proceeds object predicate c w)
  | removeRule object predicate => exact .change (.unruled object predicate)
  | setVariable name text fromFile => exact setVariable_proceeds text w hmay
  | runCommand line => exact discard (runCommand_proceeds line w hmay)
  | command line fromFile => exact discard (Command.runLine_proceeds line fromFile w hmay)
  | source path => exact discard (Command.sourceWithin_proceeds _ path w hmay)

/-! ## Runs -/

/-- An operation that ends so returned or failed, and did not crash. -/
def Foreseen (r : Except Fault Unit) : Prop := ∀ c, r ≠ .error (.crash c)

instance : DecidablePred Foreseen
  | .ok _ => isTrue nofun
  | .error (.failure _) => isTrue nofun
  | .error (.crash c) => isFalse fun h => h c rfl

/-- What the steps of an operation preserve is preserved if it returns or fails. -/
theorem Operation.preserves {P : Session → Prop} {o : Operation} {w w' : World}
    {r : Except Fault Unit} (hmay : Permits may (o.Sets · w))
    (change : ∀ s t, Change may s t → P s → P t) (ho : effect o.action w = (r, w'))
    (hr : Foreseen r) (hw : P w.session) : P w'.session := by
  have hproceeds := o.action_proceeds w hmay
  rw [Proceeds, ho] at hproceeds
  refine hproceeds.preserves change ?_ hw
  rintro ⟨c, rfl⟩
  exact absurd rfl (hr c)

/-- Operations that end in allowed ways lead from a new session to this one. -/
inductive Reachable (ends : Except Fault Unit → Prop) : Session → Prop where
  | created {c : Config} {h : Host} {w : World} (hw : create c h = (.ok (), w)) :
      Reachable ends w.session
  | step {s t : Session} {h h' : Host} {r : Except Fault Unit} (o : Operation)
      (hs : Reachable ends s) (ho : effect o.action ⟨s, h⟩ = (r, ⟨t, h'⟩)) (hr : ends r) :
      Reachable ends t

namespace Reachable

variable {ends : Except Fault Unit → Prop} {P : Session → Prop} {s : Session}

/-- What new sessions have and every step preserves, all reachable sessions have. -/
theorem invariant (created : ∀ c h w, create c h = (.ok (), w) → P w.session)
    (change : ∀ s t, Change (·.MaySet true) s t → P s → P t)
    (cut : (∃ c, ends (.error (.crash c))) → ∀ s t, Cut s t → P s → P t)
    (hs : Reachable ends s) : P s := by
  induction hs with
  | created hw => exact created _ _ _ hw
  | @step s t h h' r o _ ho hr ih =>
      have hproceeds : Proceeds (·.MaySet true) o.action ⟨s, h⟩ :=
        o.action_proceeds _ fun _ _ hset _ => hset
      rw [Proceeds, ho] at hproceeds
      refine hproceeds.preserves change ?_ ih
      rintro ⟨c, rfl⟩
      exact cut ⟨c, hr⟩

end Reachable

/-- The world after operations one after another, however they end. -/
def runAll (os : List Operation) (w : World) : World :=
  os.foldl (fun w o => (effect o.action w).2) w

/-- Operations one after another, from a world on, all end in allowed ways. -/
def AllEnd (ends : Except Fault Unit → Prop) : List Operation → World → Prop
  | [], _ => True
  | o :: os, w => ends (effect o.action w).1 ∧ AllEnd ends os (effect o.action w).2

instance AllEnd.decidable {ends : Except Fault Unit → Prop} [DecidablePred ends] :
    (os : List Operation) → (w : World) → Decidable (AllEnd ends os w)
  | [], _ => isTrue trivial
  | o :: os, w =>
      @instDecidableAnd (ends (effect o.action w).1) (AllEnd ends os (effect o.action w).2)
        inferInstance (AllEnd.decidable os (effect o.action w).2)

theorem Reachable.runAll_of_allEnd {ends : Except Fault Unit → Prop} (os : List Operation) :
    ∀ {w : World}, Reachable ends w.session → AllEnd ends os w →
      Reachable ends (runAll os w).session := by
  induction os with
  | nil => intro w hw _; exact hw
  | cons o os ih => intro w hw hos; exact ih (.step o hw rfl hos.1) hos.2

theorem Reachable.runAll (os : List Operation) :
    ∀ {w : World}, Reachable (fun _ => True) w.session →
      Reachable (fun _ => True) (runAll os w).session := by
  induction os with
  | nil => intro w hw; exact hw
  | cons o os ih => intro w hw; exact ih (.step o hw rfl trivial)

end Session

end TaskBrowser
