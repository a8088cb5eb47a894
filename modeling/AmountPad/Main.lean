import AmountPad.Program.Run

/-!
# The program

The host that the program has in a system: its files, its environment and its terminal. The
terminal hands over a line at a time, so that a key takes effect with the end of its line.
-/

namespace AmountPad

open Program Terminal

/-- Why a file could not be reached. -/
def faultOf : IO.Error → Files.Fault
  | .noFileOrDirectory .. => .notFound
  | .permissionDenied .. => .denied
  | .inappropriateType _ code _ => if code = 21 then .isDirectory else .notDirectory
  | e => .other (toString e)

/-- What an access to a file gives. -/
def tryFile {α : Type} (access : IO α) : IO (Except Files.Fault α) := do
  try return .ok (← access)
  catch e => return .error (faultOf e)

/-- The text of a file. -/
def readFile (path : String) : IO (Except Files.Fault String) := do
  match ← tryFile (IO.FS.readBinFile path) with
  | .error fault => return .error fault
  | .ok bytes =>
    match String.fromUTF8? bytes with
    | some text => return .ok text
    | none => return .error .notText

/-- A number in the environment. -/
def sizeFrom (name : String) (otherwise : Nat) : IO Nat := do
  return ((← IO.getEnv name).bind String.toNat?).getD otherwise

/-- Shows an app and takes the next line of keys until the user leaves; the end of the input
leaves too. -/
partial def playOn (screen : Rect) (app : App) (before : List (Rect × TerminalEvent)) :
    IO (List (Rect × TerminalEvent)) := do
  let output ← IO.getStdout
  output.putStr ("\x1b[2J\x1b[H" ++ "\n".intercalate (app.draw screen).lines)
  output.flush
  let line ← (← IO.getStdin).getLine
  let keys := if line.isEmpty then ['\x03'] else line.toList.filter (· != '\n')
  let events := keys.map fun c => (screen, .key (.ofChar c))
  let next := (app.events events).1
  if next.leaving then return before ++ events
  else playOn screen next (before ++ events)

/-- Lets the user work an app on a screen of its own. -/
def playOnTerminal (app : App) : IO (Except String (List (Rect × TerminalEvent))) := do
  if ← (← IO.getStdin).isTty then
    let screen := Rect.clipped 0 0 (← sizeFrom "COLUMNS" 80) (← sizeFrom "LINES" 24)
    IO.print "\x1b[?1049h"
    let events ← playOn screen app []
    IO.print "\x1b[?1049l"
    return .ok events
  else return .error "No such device or address (os error 6)"

/-- The system as a host. -/
def system : Host IO where
  environment name := IO.getEnv name
  readText := readFile
  append path text := tryFile (IO.FS.withFile path .append (·.putStr text))
  print text := IO.print text
  report text := IO.eprint text
  reportsToTerminal := do (← IO.getStderr).isTty
  play := playOnTerminal

end AmountPad

def main (words : List String) : IO UInt32 := do
  return (← AmountPad.Program.run AmountPad.system words).code.toUInt32
