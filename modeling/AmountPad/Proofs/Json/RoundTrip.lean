import Mathlib
import AmountPad.Action.Json
import AmountPad.Amount.Json
import AmountPad.Proofs.Json.Reader
import AmountPad.Settings.Json

/-!
# What is written can be read

Settings, actions and amounts are written as JSON and read again. Whatever their labels and
identifiers are, the text of a value gives the value back, compact or over several lines, and that
of an append also with its label first.

Main results:

* `Settings.reads`, `Action.reads`, `Amount.reads` — each reader gives back what is written;
* `Json.texts_give_values_back` — so do whole texts.
-/

namespace AmountPad

open Json (Node Reader)
open Json.Reader (Reads Takes RoundTrips)

/-! ## Settings -/

/-- A markup is given back: its four members come in the order in which they are written. -/
theorem Markup.reads : Reads Markup.reader Markup.toNode := by
  intro m ts
  obtain ⟨keyClass, displayId, clearId, backspaceId⟩ := m
  have hmember := (Json.Reader.reads_text "a string").member
  -- each member fills the place of its name, which was empty
  have htakes : Takes Given.has step {}
      [("key_class", .text keyClass), ("display_id", .text displayId),
        ("clear_id", .text clearId), ("backspace_id", .text backspaceId)]
      ⟨some keyClass, some displayId, some clearId, some backspaceId⟩ := by
    refine .cons ⟨some keyClass, none, none, none⟩ rfl (fun ts => ?_)
      (.cons ⟨some keyClass, some displayId, none, none⟩ rfl (fun ts => ?_)
        (.cons ⟨some keyClass, some displayId, some clearId, none⟩ rfl (fun ts => ?_)
          (.cons _ rfl (fun ts => ?_) (.nil _))))
    all_goals
      rw [step, hmember]
      rfl
  rw [toNode, Json.tokens_object_append, reader, htakes.members ts]
  rfl

theorem Policy.reads : Reads (Reader.variant Policy.byName) fun p => .text p.name :=
  Json.Reader.reads_variant fun p => by cases p <;> rfl

/-- Rows of labels are given back, as lists of lists of strings. -/
theorem Settings.reads_rows :
    Reads rowsReader fun rows => .list (rows.map fun row => .list (row.map .text)) :=
  (Json.Reader.reads_text "a string").list.list

/-- **Settings are given back**: their three members come in the order in which they are written. -/
theorem Settings.reads : Reads Settings.reader Settings.toNode := by
  intro s ts
  obtain ⟨markup, policy, rows⟩ := s
  -- each member fills the part of its name, which was empty
  have htakes : Takes Given.has step {}
      [("markup", markup.toNode), ("controls", .text policy.name),
        ("layout", .list (rows.map fun row => .list (row.map .text)))]
      ⟨some markup, some policy, some rows⟩ := by
    refine .cons ⟨some markup, none, none⟩ rfl (fun ts => ?_)
      (.cons ⟨some markup, some policy, none⟩ rfl (fun ts => ?_)
        (.cons _ rfl (fun ts => ?_) (.nil _)))
    · rw [step, Markup.reads.member]
      rfl
    · rw [step, Policy.reads.member policy]
      rfl
    · rw [step, reads_rows.member rows]
      rfl
  rw [toNode, Json.tokens_object_append, reader, htakes.members ts]
  rfl

/-! ## Actions -/

namespace Action

/-- An action as a JSON object. -/
def toNode : Action → Node
  | .append label => .object [("action", .text "append"), ("label", .text label)]
  | .clear => .object [("action", .text "clear")]
  | .backspace => .object [("action", .text "backspace")]

/-- An append with its label in front of its name. -/
def labelFirst (label : String) : Node :=
  .object [("label", .text label), ("action", .text "append")]

/-- An action is written without blanks, as the object that it is. -/
theorem toJson_eq (action : Action) : action.toJson = String.ofList action.toNode.compact := by
  cases action <;> rfl

/-- The name under which a kind of action is written. -/
def Kind.name : Kind → String
  | .append => "append"
  | .clear => "clear"
  | .backspace => "backspace"

theorem Kind.reads : Reads (Reader.variant kinds) fun kind => .text kind.name :=
  Json.Reader.reads_variant fun kind => by cases kind <;> rfl

/-- An object is read as the action that its members make. -/
theorem reader_of_takes {ms : List (String × Node)} {known : Partial} {action : Action}
    (h : Takes Partial.has step .nothing ms known) (hc : complete known = .ok action)
    (ts : List Json.Token) : reader ((Node.object ms).tokens ++ ts) = .ok (action, ts) := by
  rw [Json.tokens_object_append, reader, h.members ts]
  simp only [bind, Except.bind, hc]
  rfl

/-- The name of an action comes before its label, if it has one. -/
theorem step_action (kind : Kind) (ts : List Json.Token) :
    step .nothing "action" (.colon :: ((Node.text kind.name).tokens ++ ts)) =
      .ok (.kind kind, ts) := by
  rw [step, Kind.reads.member kind]
  · rfl
  · exact nofun

/-- A label behind the name of its action is read as a string. -/
theorem step_label (label : String) (ts : List Json.Token) :
    step (.kind .append) "label" (.colon :: ((Node.text label).tokens ++ ts)) =
      .ok (.whole (.append label), ts) := by
  rw [step, Reader.member]
  simp only [Json.Reader.colon, bind, Except.bind, readLabel, Json.Reader.reads_text _ label ts]
  rfl

/-- A label in front of the name is read as a value of any kind, and found to be a string. -/
theorem step_labelFirst (label : String) (ts : List Json.Token) :
    step .nothing "label" (.colon :: ((Node.text label).tokens ++ ts)) =
      .ok (.label (.text label), ts) := by
  have hstart : Json.Reader.startOf (.text (.of label)) = .ok (.text label) := by
    rw [Json.Reader.startOf, Json.QuotedText.decode_of]
    rfl
  have hfound : Json.Reader.found labelDepth ((Node.text label).tokens ++ ts) =
      .ok (.text label, ts) := by
    simp only [Node.tokens, List.singleton_append, Json.Reader.found, Json.Reader.walk,
      Json.Reader.step, Json.Reader.stepValue, hstart, bind, Except.bind]
    rfl
  rw [step, Reader.member]
  · simp only [Json.Reader.colon, bind, Except.bind, hfound]
    rfl
  · rintro kind ⟨⟩

/-- The name behind a label makes an action of it. -/
theorem step_actionLast (label : String) (ts : List Json.Token) :
    step (.label (.text label)) "action" (.colon :: ((Node.text Kind.append.name).tokens ++ ts)) =
      .ok (.whole (.append label), ts) := by
  rw [step, Kind.reads.member .append]
  rfl

/-- Actions are given back: those without a label from their name alone. -/
theorem reads : Reads reader toNode := by
  intro action ts
  cases action with
  | append label =>
    exact reader_of_takes (.cons (.kind .append) rfl (step_action .append)
      (.cons (.whole (.append label)) rfl (step_label label) (.nil _))) rfl ts
  | clear => exact reader_of_takes (.cons _ rfl (step_action .clear) (.nil _)) rfl ts
  | backspace => exact reader_of_takes (.cons _ rfl (step_action .backspace) (.nil _)) rfl ts

/-- An append is given back also if its label comes in front of its name. -/
theorem reads_labelFirst (label : String) (ts : List Json.Token) :
    reader ((labelFirst label).tokens ++ ts) = .ok (.append label, ts) :=
  reader_of_takes (.cons (.label (.text label)) rfl (step_labelFirst label)
    (.cons (.whole (.append label)) rfl (step_actionLast label) (.nil _))) rfl ts

end Action

/-! ## Amounts -/

/-- An amount as a JSON object. -/
def Amount.toNode (a : Amount) : Node := .object [("content", .text a.text)]

/-- An amount is given back from the member with its content. -/
theorem Amount.reads : Reads Amount.reader Amount.toNode := by
  intro a ts
  have hmember := (Json.Reader.reads_text "a string").member
  have htakes : Takes hasMember step none [("content", .text a.text)] (some a.text) := by
    refine .cons _ rfl (fun ts => ?_) (.nil _)
    rw [step, if_pos rfl, hmember]
    rfl
  rw [toNode, Json.tokens_object_append, reader, htakes.members ts]
  rfl

/-! ## Whole texts -/

namespace Json

/-- A JSON text gives back what it was written from: settings with any labels, rows and identifiers,
actions, also with the label of an append first, and amounts. This holds for the texts that are
written, and for both ways of writing them. -/
theorem texts_give_values_back :
    (∀ s : Settings, Settings.ofJson s.toJson = .ok s ∧ RoundTrips Settings.ofJson s.toNode s) ∧
      (∀ action : Action, Action.ofJson action.toJson = .ok action ∧
        RoundTrips Action.ofJson action.toNode action) ∧
      (∀ label : String, RoundTrips Action.ofJson (Action.labelFirst label) (.append label)) ∧
      ∀ a : Amount, Amount.ofJson a.toJson = .ok a ∧ RoundTrips Amount.ofJson a.toNode a := by
  -- one fact for each kind of value: its reader gives it back from its tokens
  have hsettings (s : Settings) : RoundTrips Settings.ofJson s.toNode s :=
    Json.Reader.roundTrips_of_tokens (Settings.reads s)
  have haction (action : Action) : RoundTrips Action.ofJson action.toNode action :=
    Json.Reader.roundTrips_of_tokens (Action.reads action)
  have hamount (a : Amount) : RoundTrips Amount.ofJson a.toNode a :=
    Json.Reader.roundTrips_of_tokens (Amount.reads a)
  refine ⟨fun s => ⟨(hsettings s).2, hsettings s⟩, fun action => ⟨?_, haction action⟩,
    fun label => Json.Reader.roundTrips_of_tokens (Action.reads_labelFirst label),
    fun a => ⟨(hamount a).1, hamount a⟩⟩
  rw [Action.toJson_eq]
  exact (haction action).1

end Json

end AmountPad
