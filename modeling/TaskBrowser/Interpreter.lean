import TaskBrowser.Pattern.Progress

/-!
# The interpreter

What the program leaves to the interpreter that runs it: the search for patterns, and how deep
calls may nest.  The stack bounds the command files that run each other, the lists and objects of
an export, and the groups of a pattern, whose fault is then that of `PatternCrash.tooDeep`.

Nothing is assumed of any of them.  For what does not nest, the stack and the memory suffice.
-/

namespace TaskBrowser

/-- The interpreter that runs the program. -/
class Interpreter where
  /-- The test of whether a text holds a match of a pattern, read from the text of the pattern. -/
  compile : Text → Except Pattern.ParseFault (Text → Bool)
  /-- How many command files may be run from one another. -/
  sourceDepth : Nat
  /-- How deep lists and objects may nest in what is read after so many runs of the task
  program. -/
  nesting : (runs : Nat) → Nat

end TaskBrowser
