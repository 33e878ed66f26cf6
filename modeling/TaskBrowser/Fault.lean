import TaskBrowser.Json.Basic
import TaskBrowser.ShellWords

/-!
# Faults

What can go wrong is of two kinds.  A *failure* is foreseen: a command line that cannot be run, a
rule that cannot be applied, a task program that answers with an error.  It has a category and a
message, and whoever runs a command or an action turns it into a status message.  A *crash* is
not foreseen by the rules of the program: a date beyond the calendar, a number that is none, a
project that is no text.  Nothing inside the program catches a crash.

`Failure.message` is the wording of each failure.
-/

namespace TaskBrowser

/-! ## Failures -/

/-- What a failure is about. -/
inductive Category where
  /-- The state of the session. -/
  | runtime
  /-- The startup settings. -/
  | config
  /-- A command line. -/
  | command
  /-- The predicate of a colour rule. -/
  | predicate
  /-- The registration of a colour rule. -/
  | color
  /-- The task program. -/
  | task
deriving DecidableEq, Repr

/-- The word for a category in the log. -/
def Category.name : Category → Text
  | .runtime => "runtime"
  | .config => "config"
  | .command => "command"
  | .predicate => "predicate"
  | .color => "color"
  | .task => "task"

/-- Why a text is not a predicate.  The letter of the clause is in lower case. -/
inductive ClauseFault where
  /-- The text ends right after the tilde. -/
  | noLetter
  /-- The quote of a pattern is not closed. -/
  | noClosingQuote (letter : Text)
  /-- The pattern is empty. -/
  | emptyPattern (letter : Text)
  /-- The letter needs a pattern. -/
  | needsPattern (letter : Text)
  /-- The letter takes no pattern, or means nothing. -/
  | takesNoPattern (letter : Text)
deriving DecidableEq, Repr

/-- The wording of a predicate's fault. -/
def ClauseFault.message : ClauseFault → Text
  | .noLetter => "clause without a letter"
  | .noClosingQuote l => "missing closing quote in ~" ++ l ++ " clause"
  | .emptyPattern l => "empty pattern in ~" ++ l ++ " clause"
  | .needsPattern l => "~" ++ l ++ " needs a pattern"
  | .takesNoPattern l => "unknown clause ~" ++ l ++ " with pattern"

/-- The pair that could not be allocated, and how many there are. -/
structure Exhausted where
  /-- The colour of the characters. -/
  fg : Int
  /-- The colour behind them. -/
  bg : Int
  /-- The capacity of the palette. -/
  capacity : Int
deriving DecidableEq, Repr

/-- The wording of a failed allocation. -/
def Exhausted.message (e : Exhausted) : Text :=
  "no free color pairs for (" ++ Text.ofInt e.fg ++ ", " ++ Text.ofInt e.bg ++ ")"

/-- A foreseen failure. -/
inductive Failure where
  /-- An action needs a selected task and there is none. -/
  | noTaskSelected
  /-- The number of colour pairs in the environment is no whole number. -/
  | pairsNotInteger
  /-- A command line is blank. -/
  | emptyCommand
  /-- A command line starts with a word that is no command. -/
  | unknownCommand (name : Text)
  /-- There is no path after `source`. -/
  | noFileGiven
  /-- A command file cannot be read, and why. -/
  | unreadableFile (file reason : Text)
  /-- There is nothing after `set`. -/
  | setUsage
  /-- There is nothing after `show`. -/
  | showUsage
  /-- There is too little after `color`. -/
  | colorUsage
  /-- There is nothing after `search`. -/
  | searchUsage
  /-- A word names no kind of object that has colours. -/
  | invalidObject (name : Text)
  /-- A word names no colour. -/
  | invalidColor (name : Text)
  /-- A colour rule got no pair. -/
  | ruleNotApplied (cause : Exhausted)
  /-- A search found nothing, with the message that told so. -/
  | searchFailed (told : Text)
  /-- A word names no variable. -/
  | variableNotFound (name : Text)
  /-- A variable cannot be set. -/
  | readOnly (name : Text)
  /-- A variable can be set in the command file only. -/
  | configOnly (name : Text)
  /-- A text is no value of the variable's kind. -/
  | unparsable (name text : Text)
  /-- A value is refused by the setting behind the variable. -/
  | invalidValue (name value : Text)
  /-- A predicate is malformed. -/
  | badPredicate (cause : ClauseFault)
  /-- No colour pair is free. -/
  | pairsExhausted (cause : Exhausted)
  /-- An argument line cannot be cut into words. -/
  | unparsableArguments (line : Text)
  /-- The task program cannot be run. -/
  | notRunnable (argv : List Text)
  /-- The task program answered with an error. -/
  | taskFailed (args : List Text) (told : Text) (argv : List Text) (status : Int)
deriving DecidableEq

/-- The category of a failure. -/
def Failure.category : Failure → Category
  | .noTaskSelected => .runtime
  | .pairsNotInteger => .config
  | .badPredicate _ => .predicate
  | .pairsExhausted _ => .color
  | .unparsableArguments _ | .notRunnable _ | .taskFailed .. => .task
  | _ => .command

/-- The wording of a failure. -/
def Failure.message : Failure → Text
  | .noTaskSelected => "no task selected"
  | .pairsNotInteger => "TASKNC_COLOR_PAIRS must be an integer"
  | .emptyCommand => "empty command"
  | .unknownCommand name => "unknown command: " ++ name
  | .noFileGiven => "source: no file given"
  | .unreadableFile file reason => "could not read " ++ file ++ ": " ++ reason
  | .setUsage => "usage: set <variable> <value>"
  | .showUsage => "usage: show <variable>"
  | .colorUsage => "usage: color <object> <fg> <bg> [rule]"
  | .searchUsage => "usage: search <pattern>"
  | .invalidObject name => "invalid color object: " ++ name
  | .invalidColor name => "invalid color: " ++ name
  | .ruleNotApplied cause => "applying color rule failed: " ++ cause.message
  | .searchFailed told => told
  | .variableNotFound name => "variable not found: " ++ name
  | .readOnly name => "variable is read only: " ++ name
  | .configOnly name => "variable can only be set in the config file: " ++ name
  | .unparsable name text => "failed to parse value from command: set " ++ name ++ " " ++ text
  | .invalidValue name value => "invalid value for " ++ name ++ ": " ++ value
  | .badPredicate cause => cause.message
  | .pairsExhausted cause => cause.message
  | .unparsableArguments line => "cannot parse arguments: " ++ line
  | .notRunnable argv => "could not execute command: " ++ ShellWords.join argv
  | .taskFailed args told _ _ => "task " ++ Text.join " " args ++ " failed: " ++ told

/-! ## Crashes -/

/-- The kind of a JSON value, and of the missing value. -/
inductive Kind where
  /-- The missing value. -/
  | null
  /-- A truth value. -/
  | bool
  /-- A whole number. -/
  | int
  /-- A number with a point. -/
  | real
  /-- A text. -/
  | text
  /-- A list. -/
  | list
  /-- An object. -/
  | object
deriving DecidableEq, Repr

/-- The kind of a value. -/
def Json.kind : Json → Kind
  | .null => .null
  | .bool _ => .bool
  | .int _ => .int
  | .real _ => .real
  | .text _ => .text
  | .list _ => .list
  | .object _ => .object

/-- Why a pattern cannot be used, other than by being malformed. -/
inductive PatternCrash where
  /-- A repetition count is beyond what the matcher counts. -/
  | repetitionTooLarge
  /-- A repetition count has too many digits. -/
  | tooManyDigits (digits : Nat)
  /-- Two flags of the pattern exclude each other. -/
  | incompatibleFlags
  /-- The groups of the pattern nest too deep. -/
  | tooDeep
deriving DecidableEq, Repr

/-- What the operating system answers when it refuses something. -/
structure SystemError where
  /-- The number of the reason. -/
  number : Nat
  /-- The wording of the reason. -/
  message : Text
deriving DecidableEq, Repr

/-- What nothing inside the program catches. -/
inductive Crash where
  /-- A text is no whole number. -/
  | badInteger (text : Text)
  /-- A whole number has too many digits. -/
  | tooManyDigits (digits : Nat)
  /-- The value that is no number was to become a whole number. -/
  | notANumber
  /-- An infinity was to become a whole number. -/
  | infinite
  /-- A date lies in a year that the calendar does not have. -/
  | yearOutOfRange (year : Int)
  /-- A number of seconds is beyond what the clock counts. -/
  | secondsOutOfRange
  /-- A number of seconds lies in a year that has no number. -/
  | yearTooLarge
  /-- A slot is wider than a text can be. -/
  | slotTooWide
  /-- Two texts are longer together than a text can be. -/
  | textTooLong
  /-- A pattern cannot be used. -/
  | pattern (cause : PatternCrash)
  /-- The home directory of a user is not known. -/
  | noHome
  /-- A path holds the character of code zero. -/
  | nullInPath
  /-- An argument for another program holds the character of code zero. -/
  | nullInArgument
  /-- The system does not tell whether there is something at a path. -/
  | unreachable (path : Text) (error : SystemError)
  /-- What was read is no text. -/
  | undecodable
  /-- A text cannot be written as bytes. -/
  | unencodable
  /-- A value of this kind was to be read as a whole number. -/
  | noInteger (kind : Kind)
  /-- A value of this kind was to be taken apart into items. -/
  | noItems (kind : Kind)
  /-- Two values of these kinds were compared. -/
  | noOrder (left right : Kind)
  /-- A value of this kind was to be measured. -/
  | noLength (kind : Kind)
  /-- A value of this kind was to be cut. -/
  | noCut (kind : Kind)
  /-- A value of this kind was to be filled up, on its left or on its right. -/
  | noFill (kind : Kind) (onLeft : Bool)
  /-- A value of this kind was to be searched. -/
  | noSearch (kind : Kind)
  /-- A value of this kind was to be counted among others. -/
  | noCount (kind : Kind)
  /-- A position is outside of the list. -/
  | noSuchPosition
  /-- A prompt of this kind has no action. -/
  | unknownPrompt (kind : Text)
  /-- A word names a log level that has no number. -/
  | levelWithoutNumber (text : Text)
  /-- A word names a table of layouts instead of a log level. -/
  | levelIsTable
  /-- Lists in an export nest too deep. -/
  | listTooDeep
  /-- Objects in an export nest too deep. -/
  | objectTooDeep
  /-- Command files source each other too deep. -/
  | sourceTooDeep
  /-- A colour number is beyond what a style can show. -/
  | colorTooLarge (name : Text)
  /-- A colour name is none that a style can show. -/
  | colorUnknown (name : Text)
deriving DecidableEq

/-- Anything that goes wrong. -/
inductive Fault where
  /-- A foreseen failure. -/
  | failure (f : Failure)
  /-- A crash. -/
  | crash (c : Crash)
deriving DecidableEq

end TaskBrowser
