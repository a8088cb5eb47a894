import AmountPad.Settings.File

/-!
# What the program is asked to do

The commands of the program, and what can be asked of each of them.

* `Arguments` — a whole request;
* `Verbosity` — how much is logged, and the filter that says so;
* `Color` — whether output is painted.
-/

namespace AmountPad.Program

/-- Whether messages are painted. -/
inductive Color where
  | always
  /-- Where they go to a terminal. -/
  | auto
  | never
  deriving DecidableEq, Repr

namespace Color

def name : Color → String
  | .always => "always"
  | .auto => "auto"
  | .never => "never"

def byName : List (String × Color) := [("auto", .auto), ("always", .always), ("never", .never)]

/-- What is fixed before it is known where messages go. -/
def fixed? : Color → Option Bool
  | .always => some true
  | .auto => none
  | .never => some false

/-- Whether messages are painted, given whether they go to a terminal. -/
def painted (c : Color) (toTerminal : Bool) : Bool := c.fixed?.getD toTerminal

end Color

/-- How much is logged. -/
inductive Verbosity where
  | quiet
  | normal
  | verbose
  | debug
  deriving DecidableEq, Repr

namespace Verbosity

/-- To be quiet wins over any number of requests to be verbose. -/
def ofFlags (quiet : Bool) (verbose : Nat) : Verbosity :=
  if quiet then .quiet
  else match verbose with
    | 0 => .normal
    | 1 => .verbose
    | _ => .debug

def name : Verbosity → String
  | .quiet => "Quiet"
  | .normal => "Normal"
  | .verbose => "Verbose"
  | .debug => "Debug"

/-- The text of the log filter. -/
def filter : Verbosity → String
  | .quiet => "error"
  | .normal => "warn"
  | .verbose => "warn,satpad=debug,satpad_cli=debug"
  | .debug => "warn,satpad=trace,satpad_cli=trace"

end Verbosity

/-- Where a pad comes from. -/
structure PadOptions where
  /-- The path of its settings. -/
  config : Option String := none
  /-- The policy in place of that of the settings. -/
  policy : Option Policy := none
  deriving DecidableEq, Repr

/-- The names of the commands. -/
inductive CommandName where
  | run
  | replay
  | config
  deriving DecidableEq, Repr

namespace CommandName

def name : CommandName → String
  | .run => "run"
  | .replay => "replay"
  | .config => "config"

def byName : List (String × CommandName) :=
  [("run", .run), ("replay", .replay), ("config", .config)]

end CommandName

inductive Command where
  /-- Lets the user work a pad, and prints the amount. -/
  | run (pad : PadOptions)
  /-- Replays tokens and prints the amount, with every step if that is asked for. -/
  | replay (pad : PadOptions) (steps : Bool) (tokens : List String)
  /-- Prints the settings. -/
  | config (pad : PadOptions) (format : Format)
  deriving DecidableEq, Repr

/-- A request to the program. -/
structure Arguments where
  verbose : Nat := 0
  quiet : Bool := false
  color : Color := .auto
  logFile : Option String := none
  command : Command
  deriving DecidableEq, Repr

def Arguments.verbosity (a : Arguments) : Verbosity := .ofFlags a.quiet a.verbose

end AmountPad.Program
