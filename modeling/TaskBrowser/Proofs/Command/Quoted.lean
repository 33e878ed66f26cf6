import TaskBrowser.Files.Tree
import TaskBrowser.Platform
import TaskBrowser.Proofs.Session.Compiled
import TaskBrowser.Proofs.Text.Lines

/-!
# Quoted values in command files

A command file can give a variable any text that has no end of a line in it, if the text is put
between quotes.  The line is cut off, trimmed, split at two spaces and trimmed again, and none of
this reaches the text, for a quote stands on either side of it.  The quotes are the first and the
last character of what is left, and they alone are dropped (`stripQuotes_quoted`).

The variables that keep every text are those of `Command.textNames`.  A format is kept only if it
compiles, and then the other formats have to compile as well, as they do in every session that is
reached without a crash (`Session.Reachable.compiled`).

A file with one such line, among lines that are passed over, sets the variable and notes no failure
(`Command.runFile_quoted`).
-/

namespace TaskBrowser

open TaskBrowser.Action Session

/-! ## Quotes -/

/-- The quotes that a text may stand between. -/
def IsQuote (q : Char) : Prop := q = '\'' ∨ q = '"'

section Quotes

variable {q : Char}

theorem IsQuote.not_blank (hq : IsQuote q) : Text.isBlank q = false := by
  rcases hq with rfl | rfl <;> decide

theorem trim_quoted (hq : IsQuote q) (v : Text) : Text.trim (q :: v ++ [q]) = q :: v ++ [q] :=
  Text.trim_append_char hq.not_blank hq.not_blank v

/-- What is between two quotes is not looked at when they are dropped. -/
theorem stripQuotes_quoted (hq : IsQuote q) (v : Text) : stripQuotes (q :: v ++ [q]) = v := by
  have hquote : (q = '\'' || q = '"') = true := by
    rcases hq with rfl | rfl <;> rfl
  rw [stripQuotes, trim_quoted hq]
  simp [hquote]

end Quotes

/-! ## Texts that are kept -/

namespace Session

variable [Validator] {w : World} {v : Text}

/-- What is behind a variable takes a text and then shows it. -/
def Keeps (e : Entry) (v : Text) (w : World) : Prop :=
  ∃ s, effect (assign e.source (.text v)) w = (.ok (), { w with session := s }) ∧
    (s.shown e).valueText = .ok v

/-- The search text is kept, the empty one as none. -/
theorem keeps_search : Keeps ⟨"search_string", .text, .search, .always⟩ v w := by
  refine ⟨_, rfl, ?_⟩
  cases v <;> rfl

/-- A setting keeps a text, and if it is a format the formats have to compile. -/
theorem keeps_setting {e : Entry} {x : Setting} (hx : Config.IsText x) (hkind : e.kind = .text)
    (hsource : e.source = .setting x)
    (hts : isFormat x = true → ∃ ts, (w.session.config.withText x v).templates = .ok ts) :
    Keeps e v w := by
  have hassign := effect_assignSetting x (.text v) w
  rw [Config.set_text _ hx] at hassign
  dsimp only at hassign
  have hshown {s : Session} (hs : s.config = w.session.config.withText x v) :
      (s.shown e).valueText = .ok v := by
    rw [shown, hkind, hsource, Session.value, hs, Config.value_withText _ hx]
    rfl
  cases hformat : isFormat x with
  | false =>
      rw [hformat, if_neg Bool.false_ne_true] at hassign
      rw [Keeps, hsource]
      exact ⟨_, hassign, hshown rfl⟩
  | true =>
      obtain ⟨ts, hcompiled⟩ := hts hformat
      rw [hformat, if_pos rfl, effect_compileFormats_ok hcompiled] at hassign
      rw [Keeps, hsource]
      exact ⟨_, hassign, hshown rfl⟩

/-- A format that compiles is kept where the other formats compile. -/
theorem keeps_format {x : Setting} {t : Template} (hformat : isFormat x = true)
    (hcompiled : w.session.Compiled) (ht : Template.compile variableNames v = .ok t) :
    Keeps ⟨x.name, .text, .setting x, .fromFile⟩ v w := by
  have hkeeps {ts : Template × Template × Template}
      (hts : (w.session.config.withText x v).templates = .ok ts) :
      Keeps ⟨x.name, .text, .setting x, .fromFile⟩ v w :=
    keeps_setting (Config.isText_of_isFormat hformat) rfl rfl fun _ => ⟨ts, hts⟩
  obtain ⟨htitle, htask, hview⟩ := hcompiled
  cases x with
  | titleFormat => exact hkeeps (Config.templates_eq_ok_iff.2 ⟨ht, htask, hview⟩)
  | taskFormat => exact hkeeps (Config.templates_eq_ok_iff.2 ⟨htitle, ht, hview⟩)
  | viewFormat => exact hkeeps (Config.templates_eq_ok_iff.2 ⟨htitle, htask, ht⟩)
  | _ => cases hformat

end Session

namespace Command

variable {w : World} {name v : Text} {q : Char}

/-- The variables whose values are texts that a command file may set, apart from the level of
notes. -/
def textNames : List Text :=
  ["filter_string", "sort_mode", "search_string", "title_format", "task_format", "view_format"]

/-- The variables whose values are formats. -/
def formatNames : List Text := ["title_format", "task_format", "view_format"]

/-- The names have no blanks in them. -/
theorem not_blank_of_mem (hname : name ∈ textNames) : ∀ c ∈ name, Text.isBlank c = false := by
  have hnames : (textNames.all fun name => name.all fun c => !Text.isBlank c) = true := by rfl
  simpa using List.all_eq_true.1 hnames name hname

theorem ne_nil_of_mem (hname : name ∈ textNames) : name ≠ [] := by
  rintro rfl
  exact absurd hname (by decide)

/-- The text may be given to the variable: if it is a format, it compiles, and so do the formats of
the session. -/
def Allowed (name v : Text) (s : Session) : Prop :=
  name ∈ formatNames → s.Compiled ∧ ∃ t, Template.compile variableNames v = .ok t

/-- The variables keep the texts that may be given to them. -/
theorem keeps_of_mem [Validator] (hname : name ∈ textNames) (hv : Allowed name v w.session) :
    ∃ e ∈ variableEntries, e.name = name ∧ e.kind = .text ∧ e.MaySet true ∧ Keeps e v w := by
  have hformat {x : Setting} (hx : isFormat x = true) (hmem : x.name ∈ formatNames)
      (hv : Allowed x.name v w.session) :
      ∃ e ∈ variableEntries, e.name = x.name ∧ e.kind = .text ∧ e.MaySet true ∧ Keeps e v w := by
    obtain ⟨hcompiled, t, ht⟩ := hv hmem
    exact ⟨_, format_mem hx, rfl, rfl, ⟨nofun, fun _ => rfl⟩, keeps_format hx hcompiled ht⟩
  have hentry {n : Nat} {e : Entry} (he : variableEntries[n]? = some e) : e ∈ variableEntries :=
    List.mem_of_getElem? he
  simp only [textNames, List.mem_cons, List.not_mem_nil, or_false] at hname
  rcases hname with rfl | rfl | rfl | rfl | rfl | rfl
  · exact ⟨_, hentry (n := 0) rfl, rfl, rfl, ⟨nofun, nofun⟩,
      keeps_setting (.inl rfl) rfl rfl nofun⟩
  · exact ⟨_, hentry (n := 9) rfl, rfl, rfl, ⟨nofun, nofun⟩,
      keeps_setting (.inr (.inl rfl)) rfl rfl nofun⟩
  · exact ⟨_, hentry (n := 7) rfl, rfl, rfl, ⟨nofun, nofun⟩, keeps_search⟩
  · exact hformat (x := .titleFormat) rfl (by decide) hv
  · exact hformat (x := .taskFormat) rfl (by decide) hv
  · exact hformat (x := .viewFormat) rfl (by decide) hv

/-! ## The line -/

/-- A text between quotes after the name of a variable. -/
def quotedArgs (name : Text) (q : Char) (v : Text) : Text := name ++ ' ' :: (q :: v ++ [q])

/-- The line that sets a variable to a text between quotes. -/
def setQuoted (name : Text) (q : Char) (v : Text) : Text := "set " ++ quotedArgs name q v

theorem setQuoted_eq (name : Text) (q : Char) (v : Text) :
    setQuoted name q v = Command.set.name ++ ' ' :: quotedArgs name q v := rfl

theorem trim_quotedArgs (hname : name ∈ textNames) (hq : IsQuote q) (v : Text) :
    Text.trim (quotedArgs name q v) = quotedArgs name q v := by
  obtain ⟨c, t, rfl⟩ := List.exists_cons_of_ne_nil (ne_nil_of_mem hname)
  have hc : Text.isBlank c = false := not_blank_of_mem hname c List.mem_cons_self
  rw [quotedArgs, List.append_cons]
  exact Text.trim_append_of_trim hc (trim_quoted hq v) (List.cons_ne_nil _ _) (t ++ [' '])

theorem quotedArgs_ne_nil (name : Text) (q : Char) (v : Text) : quotedArgs name q v ≠ [] :=
  List.append_ne_nil_of_right_ne_nil _ (List.cons_ne_nil _ _)

theorem trim_setQuoted (hname : name ∈ textNames) (hq : IsQuote q) (v : Text) :
    Text.trim (setQuoted name q v) = setQuoted name q v := by
  rw [setQuoted_eq]
  exact trim_name_append .set (trim_quotedArgs hname hq v) (quotedArgs_ne_nil name q v)

theorem ofLine?_setQuoted (hname : name ∈ textNames) (hq : IsQuote q) (v : Text) :
    ofLine? (setQuoted name q v) = some (.set, quotedArgs name q v) := by
  rw [setQuoted_eq]
  exact ofLine?_name_append .set (trim_quotedArgs hname hq v) (quotedArgs_ne_nil name q v)

/-- The variable is there and has a text as its value. -/
def Shows (name v : Text) (s : Session) : Prop :=
  ∃ e ∈ variableEntries, e.name = name ∧ (s.shown e).valueText = .ok v

theorem Shows.valueText {s : Session} (h : Shows name v s) :
    s.variableTable.valueText name = .ok v := by
  obtain ⟨e, he, rfl, hvalue⟩ := h
  rw [VariableTable.valueText, variableTable_find?, variableEntries_find? he]
  exact hvalue

theorem Shows.effect_variableMessage (h : Shows name v w.session) :
    effect (variableMessage name) w = (.ok (name ++ ": " ++ v), w) := by
  obtain ⟨e, he, rfl, hvalue⟩ := h
  exact effect_variableMessage_of_valueText he hvalue

/-- The text reaches the variable without its quotes and as it is otherwise. -/
theorem effect_runSet_quoted [Validator] (hname : name ∈ textNames) (hq : IsQuote q)
    (hv : Allowed name v w.session) :
    ∃ s, Shows name v s ∧
      effect (runSet (quotedArgs name q v) true) w =
        (.ok (name ++ ": " ++ v), { w with session := s }) := by
  obtain ⟨e, he, hename, hkind, hmay, s, hassign, hvalue⟩ := keeps_of_mem hname hv
  have hshows : Shows name v s := ⟨e, he, hename, hvalue⟩
  have hspace : ' ' ∉ name := fun h => absurd (not_blank_of_mem hname ' ' h) (by decide)
  have hnonempty : name.isEmpty = false := by simpa using ne_nil_of_mem hname
  have haccept : e.accept (q :: v ++ [q]) true = .ok (.text v) := by
    rw [Entry.accept_eq_ok_iff, hkind, Variable.parse?, stripQuotes_quoted hq]
    exact ⟨hmay, rfl⟩
  have hset : effect (setVariable name (q :: v ++ [q]) true) w =
      (.ok (), { w with session := s }) := by
    rw [effect_setVariable, ← hename, variableEntries_find? he]
    dsimp only
    rw [haccept]
    exact hassign
  refine ⟨s, hshows, ?_⟩
  rw [runSet, quotedArgs, splitSpace_append hspace]
  dsimp only
  rw [hnonempty, if_neg Bool.false_ne_true, effect_bind_ok hset]
  exact hshows.effect_variableMessage

/-- A line that shows the variable answers with its name and its text. -/
theorem effect_runLine_show [Interpreter] [Validator] {s : Session} (hname : name ∈ textNames)
    (hs : Shows name v s) (fromFile : Bool) (h : Host) :
    effect (runLine ("show " ++ name) fromFile) ⟨s, h⟩ =
      (.ok (name ++ ": " ++ v), ⟨s, h.withNote (noteOf ("show " ++ name))⟩) := by
  have hblanks : ∀ c ∈ name, Text.isBlank c = false := not_blank_of_mem hname
  have hne : name ≠ [] := ne_nil_of_mem hname
  have hline : ofLine? ("show " ++ name) = some (.show, name) :=
    ofLine?_name_append .show (Text.trim_eq_self hblanks) hne
  obtain ⟨rest, hwords⟩ := Text.words_eq_cons hblanks hne
  rw [runLine, runLineWith_of_command hline, effect_bind, effect_note, perform, runShow, hwords]
  exact hs.effect_variableMessage

/-! ## The file -/

/-- A line that says nothing: there are only blanks in it, or a `#` is the first other character. -/
inductive IsAside : Text → Prop where
  | blank {t : Text} (ht : ∀ c ∈ t, Text.isBlank c = true) : IsAside t
  | comment {u : Text} (hu : ∀ c ∈ u, Text.isBlank c = true) (t : Text) : IsAside (u ++ '#' :: t)

theorem IsAside.isPassedOver {line : Text} (h : IsAside line) : isPassedOver line = true := by
  cases h with
  | blank ht =>
      have htrim : Text.trim line = [] := Text.trim_append_blanks ht []
      rw [Command.isPassedOver, htrim]
      rfl
  | comment hu t =>
      rw [Command.isPassedOver, Text.head?_trim hu (by decide)]
      simp

/-- Lines that say nothing change nothing, apart from the numbers of those after them. -/
theorem runLines_asides {asides : List Text} (hasides : ∀ line ∈ asides, IsAside line)
    (runLine : Text → Action Text) (file : Text) (number failures : Nat) (lines : List Text) :
    runLines runLine file number failures (asides ++ lines) =
      runLines runLine file (number + asides.length) failures lines := by
  induction asides generalizing number with
  | nil => rfl
  | cons line asides ih =>
      have hline : isPassedOver line = true := (hasides line List.mem_cons_self).isPassedOver
      rw [List.cons_append, runLines, if_pos hline,
        ih (fun aside h => hasides aside (List.mem_cons_of_mem line h)), List.length_cons,
        Nat.add_right_comm, Nat.add_assoc]

/-- A line that ends well between lines that say nothing is all that a file does. -/
theorem effect_runLines_between {runLine : Text → Action Text} {before after : List Text}
    {line m : Text} {w' : World} (hbefore : ∀ aside ∈ before, IsAside aside)
    (hafter : ∀ aside ∈ after, IsAside aside) (hline : isPassedOver line = false)
    (h : effect (runLine (Text.trim line)) w = (.ok m, w')) (file : Text) (number failures : Nat) :
    effect (runLines runLine file number failures (before ++ line :: after)) w =
      (.ok failures, w') := by
  have htry : effect (tryLine runLine file (number + before.length) line) w = (.ok false, w') := by
    rw [tryLine, effect_rescue, effect_bind_ok h]
    rfl
  rw [runLines_asides hbefore, runLines, hline, if_neg Bool.false_ne_true]
  refine (effect_bind_ok htry _).trans ?_
  rw [← List.append_nil after, runLines_asides hafter]
  rfl

/-- A path leads to a file only if there is one. -/
theorem ne_nil_of_read {path text : Text} {file : FilePath} {h : Host}
    (hexpand : (FilePath.ofText path).expand h.homes = .ok file)
    (hread : h.fileSystem.read file = .ok (.ok text)) : path ≠ [] := by
  rintro rfl
  obtain rfl : (⟨.here, []⟩ : FilePath) = file := Except.ok.inj hexpand
  rw [FileSystem.read, if_neg (by decide)] at hread
  split at hread
  · cases hread
  · cases hread
  next t hcontents => exact h.fileSystem.here_ne_file _ hcontents

/-- A file of which no line fails answers with its name alone. -/
theorem effect_sourceWith {runLine : Text → Action Text} {path text : Text} {file : FilePath}
    {w' : World} (hexpand : (FilePath.ofText path).expand w.host.homes = .ok file)
    (hread : w.host.fileSystem.read file = .ok (.ok text))
    (hlines : effect (runLines runLine file.toText 1 0 (Text.lines text)) w = (.ok 0, w')) :
    effect (sourceWith runLine path) w = (.ok ("sourced " ++ file.toText), w') := by
  have hpath : path.isEmpty = false := by simpa using ne_nil_of_read hexpand hread
  have hfile : effect (readFile file) w = (.ok text, w) := by rw [effect_readFile, hread]
  rw [sourceWith, hpath, if_neg Bool.false_ne_true, effect_bind_ok (effect_get w), hexpand]
  refine (effect_bind_ok (effect_pure file w) _).trans ?_
  rw [effect_bind_ok hfile, effect_bind_ok hlines]
  rfl

/-- A command file of a line that sets a variable to a text between quotes, with blanks around it
and lines before and after it that say nothing, is run without an error, and nothing is noted but
the command itself.  The variable then has exactly the text, and a line that shows it, from wherever
it is run, answers with its name and the text.

A format has to compile, and so do the formats of the session, whose templates are compiled with it.
-/
theorem runFile_quoted [Interpreter] [Validator] {path text lead trail : Text} {file : FilePath}
    {before after : List Text}
    (hname : name ∈ textNames) (hq : IsQuote q) (hv : Allowed name v w.session)
    (hlead : ∀ c ∈ lead, Text.isBlank c = true) (htrail : ∀ c ∈ trail, Text.isBlank c = true)
    (hbefore : ∀ line ∈ before, IsAside line) (hafter : ∀ line ∈ after, IsAside line)
    (htext : Text.MadeOf text (before ++ (lead ++ setQuoted name q v ++ trail) :: after))
    (hexpand : (FilePath.ofText path).expand w.host.homes = .ok file)
    (hread : w.host.fileSystem.read file = .ok (.ok text)) :
    ∃ s, effect (runFile path) w =
        (.ok ("sourced " ++ file.toText), ⟨s, w.host.withNote (noteOf (setQuoted name q v))⟩) ∧
      s.variableTable.valueText name = .ok v ∧
      ∀ fromFile h, effect (runLine ("show " ++ name) fromFile) ⟨s, h⟩ =
        (.ok (name ++ ": " ++ v), ⟨s, h.withNote (noteOf ("show " ++ name))⟩) := by
  have htrim : Text.trim (lead ++ setQuoted name q v ++ trail) = setQuoted name q v := by
    rw [Text.trim_between hlead htrail, trim_setQuoted hname hq]
  have hline : isPassedOver (lead ++ setQuoted name q v ++ trail) = false := by
    rw [isPassedOver, htrim]
    rfl
  obtain ⟨s, hshows, hset⟩ := effect_runSet_quoted
    (w := { w with host := w.host.withNote (noteOf (setQuoted name q v)) }) hname hq hv
  have hrun : effect
      (runLineWith (sourceWithin Interpreter.sourceDepth)
        (Text.trim (lead ++ setQuoted name q v ++ trail)) true) w =
        (.ok (name ++ ": " ++ v), ⟨s, w.host.withNote (noteOf (setQuoted name q v))⟩) := by
    rw [htrim, runLineWith_of_command (ofLine?_setQuoted hname hq v), effect_bind, effect_note]
    exact hset
  refine ⟨s, ?_, hshows.valueText, effect_runLine_show hname hshows⟩
  refine effect_sourceWith hexpand hread ?_
  rw [Text.lines_of_madeOf htext]
  exact effect_runLines_between hbefore hafter hline hrun file.toText 1 0

/-- A format that starts and ends with a blank and has quotes of both kinds in it. -/
def spacedFormat : Text := " '$description\" # "

/-- A command file that sets the format of a task's line, among a comment and two empty lines. -/
def quotedFile : Text :=
  "# the line of a task" ++ ['\r', '\n'] ++ ("" ++ ['\r', '\n'] ++
    ("\t " ++ setQuoted "task_format" '\'' spacedFormat ++ " " ++ ['\n'] ++ "  \t"))

/-- A session on a host with the command file. -/
def quotedWorld : World :=
  (create { commandFile := .ofText "rc" } {
    files := fun _ _ => FileTree.system [⟨["rc"], quotedFile⟩]
    now := .universal 2024 6 1 9 30 }).2

/-- The format is kept with its blanks and quotes. -/
theorem runFile_quoted_spacedFormat :
    ∃ s h, effect (runFile "rc") quotedWorld = (.ok "sourced rc", ⟨s, h⟩) ∧
      s.variableTable.valueText "task_format" = .ok spacedFormat ∧
      (effect (runLine "show task_format" false) ⟨s, h⟩).1 =
        .ok ("task_format: " ++ spacedFormat) := by
  have hname : ("task_format" : Text) ∈ textNames := by decide
  have hcompiled : quotedWorld.session.Compiled := create_compiled (Prod.ext (by rfl) rfl)
  have hbefore : ∀ line ∈ (["# the line of a task", ""] : List Text), IsAside line :=
    List.forall_mem_cons.2 ⟨.comment (List.forall_mem_nil _) _,
      List.forall_mem_singleton.2 (.blank (List.forall_mem_nil _))⟩
  have hafter : ∀ line ∈ (["  \t"] : List Text), IsAside line :=
    List.forall_mem_singleton.2 (.blank (List.all_eq_true.1 rfl))
  have hends {t : Text} (ht : (t.all fun c => !Text.endsLine c) = true) :
      ∀ c ∈ t, Text.endsLine c = false := by
    simpa using ht
  have hlast : Text.MadeOf "  \t" ["  \t"] := .last (hends rfl) (by decide)
  have hset := Text.MadeOf.line (t := "\t " ++ setQuoted "task_format" '\'' spacedFormat ++ " ")
    (hends rfl) (.single (c := '\n') rfl) (fun h => absurd h (by decide)) hlast
  have hempty := Text.MadeOf.line (t := "") (hends rfl) .returnFeed
    (fun h => absurd h (by decide)) hset
  have htext := Text.MadeOf.line (t := "# the line of a task") (hends rfl) .returnFeed
    (fun h => absurd h (by decide)) hempty
  have hexpand : (FilePath.ofText "rc").expand quotedWorld.host.homes = .ok (.ofText "rc") := rfl
  have hread : quotedWorld.host.fileSystem.read (.ofText "rc") = .ok (.ok quotedFile) := rfl
  obtain ⟨s, hrun, hvalue, hshow⟩ := runFile_quoted hname (.inl rfl)
    (fun _ => ⟨hcompiled, _, rfl⟩) (List.all_eq_true.1 rfl) (List.all_eq_true.1 rfl)
    hbefore hafter htext hexpand hread
  exact ⟨s, _, hrun, hvalue, congrArg Prod.fst (hshow false _)⟩

end Command

end TaskBrowser
