import AmountPad.Text.Visible
import AmountPad.Yaml.Cursor

/-!
# What can be wrong with a YAML text

* `Problem` — what a scan or a parse runs into, and `Context` — what it was about to read;
* `Found` — the kind of value met where another was expected;
* `Fault` — every reason for which a reader refuses a text. `Fault.message` is its text up to the
  place that it may go on to name, and `Fault.isPlaced` says whether it does.
-/

namespace AmountPad.Yaml

/-- What a scan or a parse runs into. -/
inductive Problem where
  | missingColon
  | strayCharacter
  | strayEntry
  | strayKey
  | strayValue
  | unknownDirective
  | unfinishedLine
  | missingDirectiveName
  | directiveNameBroken
  | missingVersionDot
  | longVersion
  | missingVersion
  | missingBlank
  | missingSpace
  | missingName
  | unclosedTag
  | missingTagMark
  | missingUri
  | missingOctet
  | badFirstOctet
  | badNextOctet
  | zeroIndent
  | tabInIndent
  | tabInPlain
  | markerInQuotes
  | unclosedQuotes
  | unknownEscape
  | missingHexDigit
  | badCodePoint
  | colonInFlow
  | missingDocumentStart
  | undefinedHandle
  | missingNode
  | missingDash
  | missingKey
  | unclosedSequence
  | unclosedMapping
  | duplicateVersion
  | foreignVersion
  | duplicateHandle
  deriving DecidableEq, Repr

def Problem.message : Problem → String
  | .missingColon => "could not find expected ':'"
  | .strayCharacter => "found character that cannot start any token"
  | .strayEntry => "block sequence entries are not allowed in this context"
  | .strayKey => "mapping keys are not allowed in this context"
  | .strayValue => "mapping values are not allowed in this context"
  | .unknownDirective => "found unknown directive name"
  | .unfinishedLine => "did not find expected comment or line break"
  | .missingDirectiveName => "could not find expected directive name"
  | .directiveNameBroken => "found unexpected non-alphabetical character"
  | .missingVersionDot => "did not find expected digit or '.' character"
  | .longVersion => "found extremely long version number"
  | .missingVersion => "did not find expected version number"
  | .missingBlank => "did not find expected whitespace"
  | .missingSpace => "did not find expected whitespace or line break"
  | .missingName => "did not find expected alphabetic or numeric character"
  | .unclosedTag => "did not find the expected '>'"
  | .missingTagMark => "did not find expected '!'"
  | .missingUri => "did not find expected tag URI"
  | .missingOctet => "did not find URI escaped octet"
  | .badFirstOctet => "found an incorrect leading UTF-8 octet"
  | .badNextOctet => "found an incorrect trailing UTF-8 octet"
  | .zeroIndent => "found an indentation indicator equal to 0"
  | .tabInIndent => "found a tab character where an indentation space is expected"
  | .tabInPlain => "found a tab character that violates indentation"
  | .markerInQuotes => "found unexpected document indicator"
  | .unclosedQuotes => "found unexpected end of stream"
  | .unknownEscape => "found unknown escape character"
  | .missingHexDigit => "did not find expected hexadecimal number"
  | .badCodePoint => "found invalid Unicode character escape code"
  | .colonInFlow => "found unexpected ':'"
  | .missingDocumentStart => "did not find expected <document start>"
  | .undefinedHandle => "found undefined tag handle"
  | .missingNode => "did not find expected node content"
  | .missingDash => "did not find expected '-' indicator"
  | .missingKey => "did not find expected key"
  | .unclosedSequence => "did not find expected ',' or ']'"
  | .unclosedMapping => "did not find expected ',' or '\x7d'"
  | .duplicateVersion => "found duplicate %YAML directive"
  | .foreignVersion => "found incompatible YAML document"
  | .duplicateHandle => "found duplicate %TAG directive"

/-- What was being read when a problem came up. -/
inductive Context where
  | simpleKey
  | nextToken
  | directive
  | versionDirective
  | tagDirective
  | anchor
  | aliasName
  | tag
  | tagUri
  | blockScalar
  | quotedScalar
  | escape
  | plainScalar
  | node
  | blockNode
  | flowNode
  | blockCollection
  | blockMapping
  | flowSequence
  | flowMapping
  deriving DecidableEq, Repr

def Context.message : Context → String
  | .simpleKey => "while scanning a simple key"
  | .nextToken => "while scanning for the next token"
  | .directive => "while scanning a directive"
  | .versionDirective => "while scanning a %YAML directive"
  | .tagDirective => "while scanning a %TAG directive"
  | .anchor => "while scanning an anchor"
  | .aliasName => "while scanning an alias"
  | .tag => "while scanning a tag"
  | .tagUri => "while parsing a tag"
  | .blockScalar => "while scanning a block scalar"
  | .quotedScalar => "while scanning a quoted scalar"
  | .escape => "while parsing a quoted scalar"
  | .plainScalar => "while scanning a plain scalar"
  | .node => "while parsing a node"
  | .blockNode => "while parsing a block node"
  | .flowNode => "while parsing a flow node"
  | .blockCollection => "while parsing a block collection"
  | .blockMapping => "while parsing a block mapping"
  | .flowSequence => "while parsing a flow sequence"
  | .flowMapping => "while parsing a flow mapping"

/-- A value as a message names it. -/
inductive Found where
  | null
  | bool (b : Bool)
  | integer (digits : String)
  | longInteger (digits : String) (signed : Bool)
  | real (digits : String)
  | text (s : String)
  | sequence
  | mapping
  deriving DecidableEq, Repr

def Found.describe : Found → String
  | .null => "unit value"
  | .bool b => "boolean `" ++ (if b then "true" else "false") ++ "`"
  | .integer digits => "integer `" ++ digits ++ "`"
  | .longInteger digits signed =>
    "integer `" ++ digits ++ "` as " ++ (if signed then "i128" else "u128")
  | .real digits => "floating point `" ++ digits ++ "`"
  | .text s => "string " ++ Text.quote s
  | .sequence => "sequence"
  | .mapping => "map"

/-- Why a value is not what its place wants. -/
inductive Misfit where
  | wrongType (found : Found) (expected : String)
  | wrongValue (text expected : String)
  | unknownVariant (name : String) (expected : List String)
  | duplicateField (name : String)
  deriving DecidableEq, Repr

def Misfit.message : Misfit → String
  | .wrongType found expected => "invalid type: " ++ found.describe ++ ", expected " ++ expected
  | .wrongValue text expected =>
    "invalid value: string " ++ Text.quote text ++ ", expected " ++ expected
  | .unknownVariant name expected =>
    "unknown variant `" ++ name ++ "`, expected one of " ++
      ", ".intercalate (expected.map fun s => "`" ++ s ++ "`")
  | .duplicateField name => "duplicate field `" ++ name ++ "`"

/-- Why a YAML text is refused. -/
inductive Fault where
  | problem (problem : Problem) (mark : Mark) (context : Option (Context × Mark))
  | controlCharacter (offset : Nat)
  | unknownAnchor (mark : Mark)
  | manyDocuments
  | endOfText
  | tooManyAliases
  /-- A value that does not fit its place, with the path that leads there, empty at the top. A
  misfit without a place is blamed on the first value around it that takes the blame. -/
  | misfit (misfit : Misfit) (place : Option (String × Mark))
  deriving DecidableEq, Repr

namespace Fault

/-- What a fault says. A problem at the very start of a text says also what was being read. -/
def message : Fault → String
  | .problem p mark context =>
    if mark.isNamed then p.message
    else match context with
      | none => p.message
      | some (c, _) => p.message ++ ", " ++ c.message
  | .controlCharacter 0 => "control characters are not allowed"
  | .controlCharacter offset =>
    "control characters are not allowed at position " ++ toString offset
  | .unknownAnchor _ => "unknown anchor"
  | .manyDocuments =>
    "deserializing from YAML containing more than one document is not supported"
  | .endOfText => "EOF while parsing a value"
  | .tooManyAliases => "repetition limit exceeded"
  | .misfit m none => m.message
  | .misfit m (some ("", _)) => m.message
  | .misfit m (some (path, _)) => path ++ ": " ++ m.message

/-- Whether the message goes on to name a place. -/
def isPlaced : Fault → Bool
  | .problem _ mark none => mark.isNamed
  | .problem _ mark (some (_, contextMark)) => mark.isNamed || contextMark.isNamed
  | .unknownAnchor mark => mark.isNamed
  | .misfit _ (some (_, mark)) => mark.isNamed
  | _ => false

/-- Gives a misfit without a place the one of a value around it. -/
def locate (path : String) (mark : Mark) : Fault → Fault
  | .misfit m none => .misfit m (some (path, mark))
  | fault => fault

end Fault

/-- A problem without a context. -/
def problemAt {α : Type} (p : Problem) (mark : Mark) : Except Fault α :=
  .error (.problem p mark none)

/-- A problem met at a mark while reading what began at an earlier one. -/
def problemIn {α : Type} (p : Problem) (mark : Mark) (context : Context) (start : Mark) :
    Except Fault α :=
  .error (.problem p mark (some (context, start)))

end AmountPad.Yaml
