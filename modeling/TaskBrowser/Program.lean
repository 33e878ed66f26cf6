import TaskBrowser.Text.Basic

/-!
# Name and version

What the program calls itself.
-/

namespace TaskBrowser

namespace Program

/-- The name. -/
def name : Text := "tasknc"

/-- The version. -/
def version : Text := "0.8.0"

/-- The author. -/
def author : Text := "mjheagle"

/-- The name, the version and the author. -/
def signature : Text := name ++ " " ++ version ++ " by " ++ author

end Program

end TaskBrowser
