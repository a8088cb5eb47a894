import AmountPad.Files
import AmountPad.Terminal.Session

/-!
# What the program runs on

The program reaches files, the terminal and its environment through a host only, so that it can be
run on a model of them.

* `Host` — what a host does for the program.
-/

namespace AmountPad.Program

structure Host (m : Type → Type) where
  /-- The value of a variable of the environment. -/
  environment : String → m (Option String)
  readText : String → m (Except Files.Fault String)
  /-- Writes behind what a file holds; a missing file is created. -/
  append : String → String → m (Except Files.Fault Unit)
  /-- Writes to the standard output. -/
  print : String → m Unit
  /-- Writes to the standard output for messages. -/
  report : String → m Unit
  /-- Whether messages go to a terminal. -/
  reportsToTerminal : m Bool
  /-- Lets the user work an app, and gives the events up to the one with which the user left, each
  with the screen as it was then; or says why there is no terminal. -/
  play : Terminal.App → m (Except String (List (Terminal.Rect × Terminal.TerminalEvent)))

end AmountPad.Program
