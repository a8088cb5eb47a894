import AmountPad.Program.Arguments

/-!
# Command lines

A command line is read word by word: options that hold for every command, the name of a command,
its own options and, for a replay, the tokens. Options go by `--name` or by a letter behind `-`;
several letters may share one `-`. A value stands behind `=`, directly behind the letter, or in the
next word. Behind the word `--` no options follow.

A value in a word of its own is looked at only when the next option, token or end is met, so that
the first fault of a line is not always the one that stands first.

* `Arguments.ofWords` — reads a command line;
* `Usage` — why a command line asks for no command.
-/

namespace AmountPad.Program

/-- The command whose words are read; none before its name. -/
abbrev Scope := Option CommandName

/-- Why a command line asks for no command. -/
inductive Usage where
  /-- It asks how the program is used. -/
  | help (scope : Scope)
  | version (scope : Scope)
  /-- It is empty. -/
  | nothingAsked
  | missingCommand
  | unknownCommand
  | unknownArgument
  /-- A value for an option that takes none. -/
  | unexpectedValue
  /-- A value is missing, or it is not one of those that the option takes. -/
  | invalidValue
  /-- An option that may stand only once stands twice. -/
  | repeatedOption
  | missingTokens
  deriving DecidableEq, Repr

/-! ## Options -/

/-- The options without a value. -/
inductive Flag where
  | verbose
  | quiet
  | steps
  | help
  | version
  deriving DecidableEq, Repr

/-- The options with a value. -/
inductive Setting where
  | color
  | logFile
  | config
  | policy
  | format
  deriving DecidableEq, Repr

/-- The names of an option. -/
structure CommandOption where
  letter : Option Char := none
  name : String
  means : Flag ⊕ Setting
  deriving DecidableEq, Repr

namespace CommandOption

/-- Options that hold for every command, also in front of its name. -/
def shared : List CommandOption :=
  [⟨some 'v', "verbose", .inl .verbose⟩, ⟨some 'q', "quiet", .inl .quiet⟩,
    ⟨none, "color", .inr .color⟩, ⟨none, "log-file", .inr .logFile⟩,
    ⟨some 'h', "help", .inl .help⟩, ⟨some 'V', "version", .inl .version⟩]

/-- Options of every command, behind its name. -/
def ofPad : List CommandOption :=
  [⟨some 'c', "config", .inr .config⟩, ⟨none, "controls", .inr .policy⟩]

/-- The options that can stand in a scope. -/
def all : Scope → List CommandOption
  | none => shared
  | some .run => shared ++ ofPad
  | some .replay => shared ++ ofPad ++ [⟨none, "steps", .inl .steps⟩]
  | some .config => shared ++ ofPad ++ [⟨some 'f', "format", .inr .format⟩]

end CommandOption

/-! ## What was given in one scope -/

/-- What the words of one scope gave. -/
structure Given where
  verbose : Nat := 0
  quiet : Bool := false
  steps : Bool := false
  color : Option Color := none
  logFile : Option String := none
  config : Option String := none
  policy : Option Policy := none
  format : Option Format := none
  tokens : List String := []
  deriving DecidableEq, Repr

/-- More requests to be verbose count no further. -/
def maxVerbose : Nat := 255

/-- The formats by name. -/
def formatNames : List (String × Format) := [("yaml", .yaml), ("json", .json)]

namespace Given

/-- Notes a value that may be given once. -/
def once {α : Type} (earlier value : Option α) : Except Usage (Option α) :=
  if earlier.isSome then .error .repeatedOption
  else match value with
    | some v => .ok (some v)
    | none => .error .invalidValue

/-- A path is any text but the empty one. -/
def path? (text : String) : Option String := if text.isEmpty then none else some text

/-- Notes the value of an option. -/
def set (g : Given) (s : Setting) (text : String) : Except Usage Given :=
  match s with
  | .color => do return { g with color := ← once g.color (Color.byName.lookup text) }
  | .logFile => do return { g with logFile := ← once g.logFile (path? text) }
  | .config => do return { g with config := ← once g.config (path? text) }
  | .policy => do return { g with policy := ← once g.policy (Policy.byName.lookup text) }
  | .format => do return { g with format := ← once g.format (formatNames.lookup text) }

/-- Notes an option without a value. -/
def raise (g : Given) (scope : Scope) : Flag → Except Usage Given
  | .verbose => .ok { g with verbose := min maxVerbose (g.verbose + 1) }
  | .quiet => if g.quiet then .error .repeatedOption else .ok { g with quiet := true }
  | .steps => if g.steps then .error .repeatedOption else .ok { g with steps := true }
  | .help => .error (.help scope)
  | .version => .error (.version scope)

end Given

/-! ## Reading words -/

/-- What was given so far, and an option that is not settled: its value is the next word, or a word
that was not looked at yet. -/
structure Reading where
  given : Given := {}
  pending : Option (Setting × Option String) := none
  deriving DecidableEq, Repr

namespace Reading

/-- The option whose value is the next word. -/
def awaiting? (r : Reading) : Option Setting :=
  match r.pending with
  | some (s, none) => some s
  | _ => none

/-- What was given, once the option that waits is settled. -/
def settle (r : Reading) : Except Usage Given :=
  match r.pending with
  | none => .ok r.given
  | some (_, none) => .error .invalidValue
  | some (s, some text) => r.given.set s text

/-- Meets an option, which may have a value with it. -/
def meet (r : Reading) (scope : Scope) (value : Option String) :
    Flag ⊕ Setting → Except Usage Reading
  | .inl flag =>
    if value.isSome then .error .unexpectedValue
    else do return { given := ← (← r.settle).raise scope flag }
  | .inr s => do
    let g ← r.settle
    match value with
    | some text => return { given := ← g.set s text }
    | none => return { given := g, pending := some (s, none) }

/-- Meets a word without the `--` in front of it. -/
def meetName (r : Reading) (scope : Scope) (word : List Char) : Except Usage Reading :=
  let name := word.takeWhile (· != '=')
  let value := match word.drop name.length with
    | _ :: text => some (String.ofList text)
    | [] => none
  match (CommandOption.all scope).find? (·.name == String.ofList name) with
  | some option => r.meet scope value option.means
  | none => .error .unknownArgument

/-- A value that stands directly behind its letter, or behind `=`. -/
def attached? : List Char → Option String
  | [] => none
  | '=' :: text => some (String.ofList text)
  | text => some (String.ofList text)

/-- Meets the letters behind a `-`. -/
def meetLetters (r : Reading) (scope : Scope) : List Char → Except Usage Reading
  | [] => .ok r
  | c :: rest =>
    match (CommandOption.all scope).find? (·.letter == some c) with
    | none => .error .unknownArgument
    | some option =>
      match option.means with
      | .inl flag => do meetLetters (← r.meet scope none (.inl flag)) scope rest
      | .inr s => r.meet scope (attached? rest) (.inr s)

/-- Meets a word that is no option. Only a replay takes such words. -/
def meetToken (r : Reading) (scope : Scope) (word : String) : Except Usage Reading :=
  match scope with
  | some .replay => do
    let g ← r.settle
    return { given := { g with tokens := g.tokens ++ [word] } }
  | some _ => .error .unknownArgument
  | none => .error .unknownCommand

/-- Reads the words behind `--`. The name of a command has no place there. -/
def trailing (scope : Scope) : Reading → List String → Except Usage Reading
  | r, [] => .ok r
  | r, word :: rest =>
    if scope.isNone ∧ (word = "help" ∨ (CommandName.byName.lookup word).isSome) then
      .error .unknownArgument
    else do trailing scope (← r.meetToken scope word) rest

/-- What a line asks for whose words after `help` are these. -/
def helpOn : List String → Usage
  | [] => .help none
  | [name] =>
    if name = "help" then .help none
    else match CommandName.byName.lookup name with
      | some c => .help (some c)
      | none => .unknownCommand
  | _ => .unknownCommand

/-- Reads words up to their end, or to the name of a command; then come the words behind it. -/
def words (scope : Scope) :
    Reading → List String → Except Usage (Reading × Option (CommandName × List String))
  | r, [] => .ok (r, none)
  | r, word :: rest =>
    let awaiting := r.awaiting?
    let names := scope.isNone && awaiting.isNone
    match if names then CommandName.byName.lookup word else none with
    | some c => .ok (r, some (c, rest))
    | none =>
      if names ∧ word = "help" then .error (helpOn rest)
      else if word = "--" then do return (← trailing scope r rest, none)
      else match word.toList, awaiting with
        | '-' :: '-' :: name, _ => do words scope (← r.meetName scope name) rest
        | '-' :: c :: letters, _ => do words scope (← r.meetLetters scope (c :: letters)) rest
        | _, some s => words scope { r with pending := some (s, some word) } rest
        | _, none => do words scope (← r.meetToken scope word) rest

end Reading

/-! ## The whole line -/

/-- Values that the environment gives to options which the line does not have. -/
structure Environment where
  config : Option String := none
  logFile : Option String := none
  deriving DecidableEq, Repr

/-- The environment's value of an option, where the line gave none, has to be a path. -/
def Environment.check (given value : Option String) : Except Usage Unit :=
  if given.isNone ∧ value = some "" then .error .invalidValue else .ok ()

/-- What the words behind the name of a command give. -/
def Given.ofCommand (env : Environment) (name : CommandName) (words : List String) :
    Except Usage Given := do
  let (r, _) ← Reading.words (some name) {} words
  let g ← r.settle
  Environment.check g.logFile env.logFile
  Environment.check g.config env.config
  if name = .replay ∧ g.tokens = [] then .error .missingTokens else .ok g

/-- The command that was asked for. -/
def Given.command (g : Given) (env : Environment) (name : CommandName) : Command :=
  let pad : PadOptions := ⟨g.config.or env.config, g.policy⟩
  match name with
  | .run => .run pad
  | .replay => .replay pad g.steps g.tokens
  | .config => .config pad (g.format.getD .yaml)

/-- Reads a command line. What is given behind the name of a command comes before what is given in
front of it, and both before the environment. -/
def Arguments.ofWords (env : Environment) (words : List String) : Except Usage Arguments := do
  let (r, found) ← Reading.words none {} words
  match found with
  | none =>
    let g ← r.settle
    Environment.check g.logFile env.logFile
    if g = {} ∧ env.logFile = none then .error .nothingAsked else .error .missingCommand
  | some (name, rest) =>
    let inner ← Given.ofCommand env name rest
    let outer ← r.settle
    Environment.check outer.logFile env.logFile
    return {
      verbose := if inner.verbose = 0 then outer.verbose else inner.verbose
      quiet := inner.quiet || outer.quiet
      color := (inner.color.or outer.color).getD .auto
      logFile := (inner.logFile.or outer.logFile).or env.logFile
      command := inner.command env name }

end AmountPad.Program
