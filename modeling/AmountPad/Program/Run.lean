import AmountPad.Log.Filter
import AmountPad.Program.CommandLine
import AmountPad.Program.Host
import AmountPad.Replay

/-!
# Running the program

The program reads its command line, opens its log, prepares the settings of a pad and does what the
command says. A failure ends it with one line of message.

* `execute` — does what was asked for;
* `run` — the whole program: how it ended is an `Ending`, and `Ending.code` its exit code.
-/

namespace AmountPad.Program

/-- Why a request fails. -/
inductive Fault where
  | pad (failure : Failure)
  | file (fault : Files.Fault)
  | terminal (message : String)
  | logging (message : String)
  deriving DecidableEq, Repr

namespace Fault

def message : Fault → String
  | .pad failure => failure.message
  | .file fault => "I/O error: " ++ fault.message
  | .terminal message => "Terminal error: " ++ message
  | .logging message => "Logging error: " ++ message

/-- Whether a place in the configuration belongs to the message. -/
def isPlaced : Fault → Bool
  | .pad failure => failure.isPlaced
  | _ => false

end Fault

/-- How the program ends. -/
inductive Ending where
  | done
  | usage (usage : Usage)
  | failed (fault : Fault)
  deriving DecidableEq, Repr

/-- The exit code. To ask for help is no mistake. -/
def Ending.code : Ending → Nat
  | .done => 0
  | .usage (.help _) => 0
  | .usage (.version _) => 0
  | .usage _ => 2
  | .failed _ => 1

section

variable {m : Type → Type} [Monad m]

/-! ## Logging -/

/-- Where log lines go, and which. -/
structure Logger (m : Type → Type) where
  filter : Log.Filter
  style : Log.Style
  write : String → m Unit

/-- Logs a record, where there is a log and its filter lets the record through. -/
def Logger.record (logger : Option (Logger m)) (r : Log.Record) : m Unit :=
  match logger with
  | some l => if l.filter.enables r then l.write (r.line l.style) else pure ()
  | none => pure ()

/-- The filter that the environment gives, where it gives one that can be read; else that of the
verbosity. -/
def logFilter (given : Option String) (v : Verbosity) : Log.Filter :=
  ((given.bind Log.Filter.parse?).or (Log.Filter.parse? v.filter)).getD []

/-- Opens the log. Its lines go to a file if one is named, and else to the messages, unless the
command takes the screen for itself. -/
def openLog (host : Host m) (a : Arguments) : ExceptT Fault m (Option (Logger m)) := do
  let filter := logFilter (← host.environment "RUST_LOG") a.verbosity
  let plain ← host.environment "NO_COLOR"
  let namesPainted := (plain.getD "").isEmpty
  match a.logFile, a.command with
  | some path, _ =>
    match ← host.append path "" with
    | .error fault => throw (.file fault)
    | .ok () =>
      let write (line : String) : m Unit := do let _ ← host.append path line
      return some ⟨filter, ⟨false, namesPainted⟩, write⟩
  | none, .run _ => return none
  | none, _ =>
    let headPainted := a.color.painted (← host.reportsToTerminal)
    return some ⟨filter, ⟨headPainted, namesPainted⟩, host.report⟩

/-! ## Commands -/

/-- What a pad makes of its settings, as the result of a command. -/
def ofPad {α : Type} (r : Except Failure α) : ExceptT Fault m α :=
  ExceptT.mk (pure (r.mapError .pad))

/-- The settings that a command runs with. -/
def prepare (host : Host m) (log : Log.Record → m Unit) (pad : PadOptions) :
    ExceptT Fault m Settings := do
  let s ← match pad.config with
    | some path => do
      let s ← ofPad (Settings.ofFile path (← host.readText path))
      log (.loaded path s.policy)
      pure s
    | none => pure {}
  ofPad (s.prepare pad.policy)

/-- The app of a pad. -/
def openApp (log : Log.Record → m Unit) (s : Settings) : ExceptT Fault m Terminal.App := do
  let app ← ofPad (Terminal.App.ofSettings s)
  log (.ready app.layout.keyCount s.policy)
  return app

/-- Logs actions that ran or were refused. -/
def logActions (log : Log.Record → m Unit) : List (Action × Bool × String) → m Unit
  | [] => pure ()
  | (action, applied, content) :: rest => do
    log (.ran action applied content)
    logActions log rest

/-- The amount that a user enters. -/
def interact (host : Host m) (log : Log.Record → m Unit) (s : Settings) :
    ExceptT Fault m String := do
  let app ← openApp log s
  match ← host.play app with
  | .error message => throw (.terminal message)
  | .ok events =>
    (logActions log (app.actions events) : m Unit)
    let content := (app.events events).1.amount.text
    log (.closed content)
    return content

/-- The steps of a replay. -/
def replay (log : Log.Record → m Unit) (s : Settings) (tokens : List String) :
    ExceptT Fault m (List Replay.Step) := do
  let app ← openApp log s
  let steps ← ofPad (Replay.run app tokens)
  log (.replaying tokens.length)
  (logActions log (steps.map fun step => (step.action, step.applied, step.content)) : m Unit)
  return steps

/-- Does what was asked for. -/
def execute (host : Host m) (a : Arguments) : ExceptT Fault m Unit := do
  let logger ← openLog host a
  let log : Log.Record → m Unit := Logger.record logger
  match a.command with
  | .run pad =>
    let amount ← interact host log (← prepare host log pad)
    host.print (amount ++ "\n")
  | .replay pad showSteps tokens =>
    let steps ← replay log (← prepare host log pad) tokens
    if showSteps then
      let coloured := a.color.painted (← host.reportsToTerminal)
      host.report (String.join (steps.map fun step => step.line coloured ++ "\n"))
    host.print (Replay.finalContent steps ++ "\n")
  | .config pad format => host.print ((← prepare host log pad).printed format)

/-! ## The whole program -/

def programName : String := "satpad"

/-- The program, or one of its commands, with the version. -/
def versionText : Scope → String
  | none => programName ++ " 0.3.0\n"
  | some c => programName ++ "-" ++ c.name ++ " 0.3.0\n"

/-- How the program is used. -/
def usageText : Scope → String
  | none =>
    "Usage: " ++ programName ++ " [OPTIONS] <COMMAND>\n\nCommands: run, replay, config, help\n"
  | some .replay => "Usage: " ++ programName ++ " replay [OPTIONS] <TOKENS>...\n"
  | some c => "Usage: " ++ programName ++ " " ++ c.name ++ " [OPTIONS]\n"

/-- What is said about a command line that asks for no command. -/
def Usage.explain (host : Host m) : Usage → m Unit
  | .help scope => host.print (usageText scope)
  | .version scope => host.print (versionText scope)
  | _ => host.report (usageText none)

/-- Runs the program on the words of its command line. -/
def run (host : Host m) (words : List String) : m Ending := do
  let config ← host.environment "SATPAD_CONFIG"
  let logFile ← host.environment "SATPAD_LOG_FILE"
  match Arguments.ofWords ⟨config, logFile⟩ words with
  | .error usage => do
    usage.explain host
    return .usage usage
  | .ok a =>
    match ← (execute host a).run with
    | .ok () => return .done
    | .error fault => do
      host.report ("Error: " ++ fault.message ++ "\n")
      return .failed fault

end

end AmountPad.Program
