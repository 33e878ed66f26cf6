import TaskBrowser.Calendar.Moment
import TaskBrowser.Json.Writer
import TaskBrowser.Note

/-!
# The log

A note goes into the log either as a line of its level, its source and its message, or as a JSON
object that also holds its detail.  Either begins with the time at which it was taken.
-/

namespace TaskBrowser

/-- The member of a log object that holds a detail. -/
def Detail.members : Detail → List (Text × Json)
  | .nothing => []
  | .command name => [("command", .text name)]
  | .argv words => [("command", .list (words.map .text))]
  | .rule t => [("rule", .text t)]
  | .category c => [("error_category", .text c.name)]

/-- A note as a log object. -/
def Note.toJson (n : Note) : Json :=
  .object (("level", .text n.level.name) :: ("logger", .text n.source.name) ::
    ("message", .text n.message) :: n.detail.members)

/-- A note as a text for the log. -/
def Note.toText (n : Note) : Text :=
  n.level.name ++ " " ++ n.source.name ++ " " ++ n.message

/-- The date and the time on a clock, to the thousandth of a second. -/
def Clock.stamp (c : Clock) : Text := Moment.fullDate c.date ++ " " ++ c.time ++ ":00,000"

/-- A note taken at a time as it stands in the log. -/
def Note.logged (n : Note) (now : Clock) (json : Bool) : Text :=
  if json then
    match n.toJson with
    | .object ms => (Json.object (("timestamp", .text now.stamp) :: ms)).written
    | v => v.written
  else now.stamp ++ " " ++ n.toText

end TaskBrowser
