import AmountPad.Yaml.TokenList

/-!
# From tokens to events

The tokens of a text are read as a sequence of events: scalars, aliases, and the starts and ends of
sequences, mappings and documents. The reading is a machine with a stack of places to return to; one
step gives one event. `EventList.ofTokens` gives all events up to the end of the text or a fault.
-/

namespace AmountPad.Yaml

inductive Event where
  | documentStart
  | documentEnd
  | textEnd
  | aliasOf (name : String)
  | scalar (anchor : Option String) (tag : Option Tag) (text : String) (style : Style)
  | sequenceStart (anchor : Option String) (tag : Option Tag)
  | sequenceEnd
  | mappingStart (anchor : Option String) (tag : Option Tag)
  | mappingEnd
  deriving DecidableEq, Repr

/-- Where a reading of events stands. -/
inductive Stage where
  | textStart
  | documentStart
  | documentContent
  | documentEnd
  | blockNode
  | blockSequence (first : Bool)
  | indentless
  | blockKey (first : Bool)
  | blockValue
  | flowSequence (first : Bool)
  | pairKey
  | pairValue
  | pairEnd
  | flowKey (first : Bool)
  | flowValue (empty : Bool)
  | done
  deriving DecidableEq, Repr

/-- A reading of events part way through. -/
structure Machine where
  tokens : List Token
  /-- What ends the tokens, if it is not the end of the text. -/
  fault : Option Fault
  stage : Stage := .textStart
  returns : List Stage := []
  /-- The places where the open collections started. -/
  opened : List Mark := []
  /-- The tag handles that the document defines. -/
  handles : List (String × Tag) := []
  deriving DecidableEq, Repr

namespace Machine

/-- The token in front. -/
def peek (m : Machine) : Except Fault Token :=
  match m.tokens with
  | t :: _ => .ok t
  | [] => .error (m.fault.getD .endOfText)

/-- The machine at another stage. -/
def moveTo (m : Machine) (stage : Stage) : Machine := { m with stage := stage }

/-- The machine behind the token in front. -/
def drop (m : Machine) : Machine := { m with tokens := m.tokens.drop 1 }

/-- The machine at the place to which it is to return. -/
def return? (m : Machine) : Machine :=
  match m.returns with
  | s :: rest => { m with stage := s, returns := rest }
  | [] => { m with stage := .done }

/-- An event, the place it starts at, and the machine behind it. -/
abbrev Step := Except Fault (Event × Mark × Machine)

/-- A scalar of no text at a place. -/
def emptyScalar (m : Machine) (mark : Mark) : Step :=
  .ok (.scalar none none "" .plain, mark, m)

/-! ## Nodes -/

/-- What stands in front of a node: anchor, tag with its place, and where they start. -/
structure Properties where
  anchor : Option String := none
  tag : Option (String × Tag × Mark) := none

/-- Reads an anchor and a tag in either order. -/
def properties (m : Machine) : Except Fault (Properties × Machine) := do
  let t ← m.peek
  match t.symbol with
  | .anchor name =>
    let m := m.drop
    let t ← m.peek
    match t.symbol with
    | .tag handle suffix => return (⟨some name, some (handle, suffix, t.start)⟩, m.drop)
    | _ => return (⟨some name, none⟩, m)
  | .tag handle suffix =>
    let m := m.drop
    let u ← m.peek
    match u.symbol with
    | .anchor name => return (⟨some name, some (handle, suffix, t.start)⟩, m.drop)
    | _ => return (⟨none, some (handle, suffix, t.start)⟩, m)
  | _ => return ({}, m)

/-- The tag that a handle and a suffix stand for. -/
def resolveTag (m : Machine) (start : Mark) :
    Option (String × Tag × Mark) → Except Fault (Option Tag)
  | none => .ok none
  | some (handle, suffix, mark) =>
    if handle = "" then .ok (some suffix)
    else
      match m.handles.lookup handle with
      | some lead => .ok (some (lead.append suffix))
      | none => problemIn .undefinedHandle mark .node start

/-- The first event of a node. Block collections may start it only where `block` says so, and a
sequence without indentation of its own only where `indentless` does. -/
def node (m : Machine) (block indentless : Bool) : Step := do
  let first ← m.peek
  let start := first.start
  match first.symbol with
  | .aliasName name => return (.aliasOf name, start, m.return?.drop)
  | _ =>
    let (props, m) ← m.properties
    let t ← m.peek
    let tag ← m.resolveTag start props.tag
    let anchor := props.anchor
    let enter (stage : Stage) := { m with stage := stage }
    match t.symbol, block with
    | .scalar text style, _ => return (.scalar anchor tag text style, start, m.return?.drop)
    | .flowSequenceStart, _ => return (.sequenceStart anchor tag, start, enter (.flowSequence true))
    | .flowMappingStart, _ => return (.mappingStart anchor tag, start, enter (.flowKey true))
    | .blockSequenceStart, true =>
      return (.sequenceStart anchor tag, start, enter (.blockSequence true))
    | .blockMappingStart, true => return (.mappingStart anchor tag, start, enter (.blockKey true))
    | .blockEntry, _ =>
      if indentless then return (.sequenceStart anchor tag, start, enter .indentless)
      else if anchor.isSome || tag.isSome then
        return (.scalar anchor tag "" .plain, start, m.return?)
      else problemIn .missingNode t.start (if block then .blockNode else .flowNode) start
    | _, _ =>
      if anchor.isSome || tag.isSome then
        return (.scalar anchor tag "" .plain, start, m.return?)
      else problemIn .missingNode t.start (if block then .blockNode else .flowNode) start

/-- A node, behind which the machine goes on at a stage. -/
def nodeThen (m : Machine) (stage : Stage) (block indentless : Bool) : Step :=
  node { m with returns := stage :: m.returns } block indentless

/-- The start of a collection: its place is noted and its opening token passed. -/
def opening (m : Machine) (first : Bool) : Except Fault Machine := do
  if first then
    let t ← m.peek
    return { m.drop with opened := t.start :: m.opened }
  else return m

/-- The end of a collection, whose closing token is in front. -/
def closing (m : Machine) (event : Event) (mark : Mark) : Step :=
  .ok (event, mark, { m.return?.drop with opened := m.opened.drop 1 })

/-- A problem inside the innermost collection. -/
def inCollection (m : Machine) (p : Problem) (mark : Mark) (context : Context) : Step :=
  problemIn p mark context (m.opened.headD {})

/-! ## Documents -/

/-- The handles that every document knows. -/
def defaultHandles : List (String × Tag) :=
  [("!", { text := "!" }), ("!!", { text := "tag:yaml.org,2002:" })]

/-- Reads directives. The first argument bounds their number. -/
def directives : Nat → Bool → Machine → Except Fault Machine
  | 0, _, m => .ok m
  | bound + 1, versioned, m => do
    let t ← m.peek
    match t.symbol with
    | .versionDirective major minor =>
      if versioned then problemAt .duplicateVersion t.start
      if major ≠ 1 ∨ minor ≠ 1 ∧ minor ≠ 2 then problemAt .foreignVersion t.start
      directives bound true m.drop
    | .tagDirective handle lead =>
      if (m.handles.lookup handle).isSome then problemAt .duplicateHandle t.start
      directives bound versioned { m.drop with handles := m.handles ++ [(handle, lead)] }
    | _ => return m

/-- The machine with the handles that its document did not define itself. -/
def withDefaults (m : Machine) : Machine :=
  { m with handles := m.handles ++ defaultHandles.filter fun d => (m.handles.lookup d.1).isNone }

/-- The start of a document, or the end of the text. A first document may do without a marker. -/
def documentStart (m : Machine) (implicit : Bool) : Step := do
  let m := if implicit then m
    else { m with tokens := m.tokens.dropWhile fun t => t.symbol == .documentEnd }
  let t ← m.peek
  match t.symbol, implicit with
  | .textEnd, _ => return (.textEnd, t.start, { m with stage := .done })
  | .versionDirective _ _, _ | .tagDirective _ _, _ | .documentStart, _ | _, false =>
    let m ← directives m.tokens.length false m
    let u ← m.peek
    if u.symbol ≠ .documentStart then problemAt .missingDocumentStart u.start
    return (.documentStart, t.start,
      { m.withDefaults.drop with
        stage := .documentContent, returns := .documentEnd :: m.returns })
  | _, true =>
    return (.documentStart, t.start,
      { m.withDefaults with stage := .blockNode, returns := .documentEnd :: m.returns })

/-- The content of a document that a marker started. -/
def documentContent (m : Machine) : Step := do
  let t ← m.peek
  match t.symbol with
  | .versionDirective _ _ | .tagDirective _ _ | .documentStart | .documentEnd | .textEnd =>
    m.return?.emptyScalar t.start
  | _ => m.node true false

def documentEnd (m : Machine) : Step := do
  let t ← m.peek
  let m := if t.symbol = .documentEnd then m.drop else m
  return (.documentEnd, t.start, { m with stage := .documentStart, handles := [] })

/-! ## Block collections -/

/-- Whether a symbol ends an entry of a block collection before it has started. -/
def endsBlockPart : Symbol → Bool
  | .key | .value | .blockEnd => true
  | _ => false

def blockSequence (m : Machine) (first : Bool) : Step := do
  let m ← m.opening first
  let t ← m.peek
  match t.symbol with
  | .blockEntry =>
    let m := m.drop
    let u ← m.peek
    if u.symbol = .blockEntry ∨ u.symbol = .blockEnd then
      (m.moveTo (.blockSequence false)).emptyScalar t.stop
    else m.nodeThen (.blockSequence false) true false
  | .blockEnd => m.closing .sequenceEnd t.start
  | _ => m.inCollection .missingDash t.start .blockCollection

def indentless (m : Machine) : Step := do
  let t ← m.peek
  match t.symbol with
  | .blockEntry =>
    let m := m.drop
    let u ← m.peek
    if u.symbol = .blockEntry || endsBlockPart u.symbol then
      (m.moveTo .indentless).emptyScalar t.stop
    else m.nodeThen .indentless true false
  | _ => return (.sequenceEnd, t.start, m.return?)

def blockKey (m : Machine) (first : Bool) : Step := do
  let m ← m.opening first
  let t ← m.peek
  match t.symbol with
  | .key =>
    let m := m.drop
    let u ← m.peek
    if endsBlockPart u.symbol then (m.moveTo .blockValue).emptyScalar t.stop
    else m.nodeThen .blockValue true true
  | .blockEnd => m.closing .mappingEnd t.start
  | _ => m.inCollection .missingKey t.start .blockMapping

def blockValue (m : Machine) : Step := do
  let t ← m.peek
  match t.symbol with
  | .value =>
    let m := m.drop
    let u ← m.peek
    if endsBlockPart u.symbol then (m.moveTo (.blockKey false)).emptyScalar t.stop
    else m.nodeThen (.blockKey false) true true
  | _ => (m.moveTo (.blockKey false)).emptyScalar t.start

/-! ## Flow collections -/

/-- Passes the comma in front of an entry that is not the first. -/
def comma (m : Machine) (first : Bool) (p : Problem) (context : Context) :
    Except Fault Machine := do
  let t ← m.peek
  if first then return m
  else if t.symbol = .flowEntry then return m.drop
  else problemIn p t.start context (m.opened.headD {})

def flowSequence (m : Machine) (first : Bool) : Step := do
  let m ← m.opening first
  let t ← m.peek
  if t.symbol = .flowSequenceEnd then m.closing .sequenceEnd t.start
  else
    let m ← m.comma first .unclosedSequence .flowSequence
    let t ← m.peek
    match t.symbol with
    | .key => return (.mappingStart none none, t.start, { m.drop with stage := .pairKey })
    | .flowSequenceEnd => m.closing .sequenceEnd t.start
    | _ => m.nodeThen (.flowSequence false) false false

/-- The key of a single pair inside a flow sequence. -/
def pairKey (m : Machine) : Step := do
  let t ← m.peek
  match t.symbol with
  | .value | .flowEntry | .flowSequenceEnd =>
    (m.drop.moveTo .pairValue).emptyScalar t.stop
  | _ => m.nodeThen .pairValue false false

def pairValue (m : Machine) : Step := do
  let t ← m.peek
  let empty (m : Machine) (t : Token) : Step := (m.moveTo .pairEnd).emptyScalar t.start
  match t.symbol with
  | .value =>
    let m := m.drop
    let u ← m.peek
    if u.symbol = .flowEntry ∨ u.symbol = .flowSequenceEnd then empty m u
    else m.nodeThen .pairEnd false false
  | _ => empty m t

def pairEnd (m : Machine) : Step := do
  let t ← m.peek
  return (.mappingEnd, t.start, { m with stage := .flowSequence false })

def flowKey (m : Machine) (first : Bool) : Step := do
  let m ← m.opening first
  let t ← m.peek
  if t.symbol = .flowMappingEnd then m.closing .mappingEnd t.start
  else
    let m ← m.comma first .unclosedMapping .flowMapping
    let t ← m.peek
    match t.symbol with
    | .key =>
      let m := m.drop
      let u ← m.peek
      match u.symbol with
      | .value | .flowEntry | .flowMappingEnd =>
        (m.moveTo (.flowValue false)).emptyScalar u.start
      | _ => m.nodeThen (.flowValue false) false false
    | .flowMappingEnd => m.closing .mappingEnd t.start
    | _ => m.nodeThen (.flowValue true) false false

def flowValue (m : Machine) (empty : Bool) : Step := do
  let t ← m.peek
  let none (m : Machine) (t : Token) : Step :=
    (m.moveTo (.flowKey false)).emptyScalar t.start
  if empty then none m t
  else
    match t.symbol with
    | .value =>
      let m := m.drop
      let u ← m.peek
      if u.symbol = .flowEntry ∨ u.symbol = .flowMappingEnd then none m u
      else m.nodeThen (.flowKey false) false false
    | _ => none m t

/-! ## The machine -/

/-- The next event. -/
def step (m : Machine) : Step :=
  match m.stage with
  | .textStart => m.documentStart true
  | .documentStart => m.documentStart false
  | .documentContent => m.documentContent
  | .documentEnd => m.documentEnd
  | .blockNode => m.node true false
  | .blockSequence first => m.blockSequence first
  | .indentless => m.indentless
  | .blockKey first => m.blockKey first
  | .blockValue => m.blockValue
  | .flowSequence first => m.flowSequence first
  | .pairKey => m.pairKey
  | .pairValue => m.pairValue
  | .pairEnd => m.pairEnd
  | .flowKey first => m.flowKey first
  | .flowValue empty => m.flowValue empty
  | .done => .error .endOfText

end Machine

/-! ## Whole texts -/

/-- The events of a text, each with its place, and the fault that ends them. -/
structure EventList where
  events : List (Event × Mark)
  fault : Option Fault
  deriving DecidableEq, Repr

namespace EventList

/-- Runs the machine to the end of the text or to a fault. The first argument bounds the number of
steps. -/
def run : Nat → Machine → EventList
  | 0, _ => ⟨[], some .endOfText⟩
  | bound + 1, m =>
    match m.step with
    | .error fault => ⟨[], some fault⟩
    | .ok (.textEnd, mark, _) => ⟨[(.textEnd, mark)], none⟩
    | .ok (event, mark, m) =>
      let more := run bound m
      ⟨(event, mark) :: more.events, more.fault⟩

/-- The events of a list of tokens; no more than a few come from each token. -/
def ofTokens (ts : TokenList) : EventList :=
  run (8 * ts.tokens.length + 8) { tokens := ts.tokens, fault := ts.fault }

/-- The events of a text. -/
def ofText (text : List Char) : EventList := ofTokens (TokenList.ofText text)

end EventList

end AmountPad.Yaml
