import AmountPad.Amount
import AmountPad.Json.Reader
import AmountPad.Json.Writer

/-!
# Amounts as JSON

An amount is an object with the one member `content`.
-/

namespace AmountPad.Amount

open Json (Fault Node Reader)

/-- The compact JSON text of an amount. -/
def toJson (a : Amount) : String :=
  String.ofList (Node.object [("content", .text a.text)]).compact

/-- What a text that is no amount is told to be. -/
def expected : String := "struct DisplayBuffer"

/-- Whether a member was given before. -/
def hasMember (known : Option String) (name : String) : Bool :=
  name == "content" && known.isSome

/-- Takes one member of an amount. -/
def step (known : Option String) (name : String) : Reader (Option String) := fun ts => do
  if name = "content" then
    let (text, ts) ← Reader.member (Reader.text "a string") ts
    return (some text, ts)
  else return (known, ← Reader.skipMember ts)

/-- An amount as an object, or as a list of its one member. -/
def reader : Reader Amount
  | [] => .error .endInValue
  | .openObject :: ts => do
    match ← Reader.members hasMember step (ts.length + 1) true none ts with
    | (some text, ts) => return (⟨text⟩, ts)
    | (none, _) => throw (.missingField "content")
  | .openList :: ts => do
    let some ts ← Reader.nextItem? true ts
      | throw (.wrongLength 0 (expected ++ " with 1 element"))
    let (text, ts) ← Reader.text "a string" ts
    return (⟨text⟩, ← Reader.endList ts)
  | t :: _ => .error (Reader.mismatch expected t)

/-- Reads the JSON text of an amount. -/
def ofJson (text : String) : Except Fault Amount := Reader.ofText reader text

end AmountPad.Amount
