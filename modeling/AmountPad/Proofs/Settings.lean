import Mathlib
import AmountPad.Proofs.Json.Field
import AmountPad.Settings.File

/-!
# Settings by field

A JSON object of settings is read field by field, and so is the markup inside. What is given under a
name fills the field of that name, and nothing else does; so the order of members makes no
difference, and neither do members of other names, whatever their values are.

* `Markup.ofValue?`, `Settings.ofValue?` — the markup and the settings that a JSON value is;
* `Markup.Told`, `Settings.Told` — the values that an object tells;
* `Settings.Rearranged` — objects with the same known members, here and in a markup;
* `Settings.Spoiled` — objects with a member that is refused.

Main results:

* `Markup.fold?_eq_some_iff`, `Settings.fold?_eq_some_iff` — the members of an object, taken one
  after the other, fill each field with what is given under its name;
* `Markup.means`, `Settings.means` — what readers make of a value;
* `Settings.json_decodes_by_field` — what is read from the texts of an object.
-/

namespace AmountPad

open Json
open Json.Reader (Means)

/-! ## Markup -/

namespace Markup

/-- Takes the identifier that a value is. -/
def take (g : Given) (name : String) (v : Value) : Option Given :=
  match name with
  | "key_class" => v.text?.map fun s => { g with keyClass := some s }
  | "display_id" => v.text?.map fun s => { g with displayId := some s }
  | "clear_id" => v.text?.map fun s => { g with clearId := some s }
  | "backspace_id" => v.text?.map fun s => { g with backspaceId := some s }
  | _ => some g

/-- Members fill each identifier with what is given under its name. -/
theorem fold?_eq_some_iff {g g' : Given} {ms : List (String × Value)} :
    Value.fold? Given.has take g ms = some g' ↔
      part? Value.text? g.keyClass (given "key_class" ms) = some g'.keyClass ∧
      part? Value.text? g.displayId (given "display_id" ms) = some g'.displayId ∧
      part? Value.text? g.clearId (given "clear_id" ms) = some g'.clearId ∧
      part? Value.text? g.backspaceId (given "backspace_id" ms) = some g'.backspaceId := by
  induction ms generalizing g with
  | nil =>
    cases g
    cases g'
    simp [Value.fold?, given, part?]
  | cons m ms ih =>
    obtain ⟨name, v⟩ := m
    simp only [fold?_cons_eq_some_iff, ih]
    unfold take Given.has
    -- a known name adds to what its own field is given, and any other name to nothing
    split
    case h_5 hkeyClass hdisplayId hclearId hbackspaceId =>
      simp [given_cons_of_ne hkeyClass, given_cons_of_ne hdisplayId, given_cons_of_ne hclearId,
        given_cons_of_ne hbackspaceId]
    all_goals
      simp only [given_cons_self, given_cons_of_ne, part?_cons_eq_some_iff, ne_eq, String.reduceEq,
        not_false_eq_true, Option.map_eq_some_iff, exists_exists_and_eq_and]
      grind

/-- The steps of the reader take what the members give. -/
theorem toOption_step (g : Given) (name : String) (v : Value) (ts : List Token) (h : Stands v ts)
    (rest : List Token) :
    (step g name (.colon :: (ts ++ rest))).toOption = (take g name v).map (·, rest) := by
  have hmember := (Reader.means_text "a string").toOption_member (β := Given) h
  unfold step
  split
  · exact hmember (fun s => { g with keyClass := some s }) rest
  · exact hmember (fun s => { g with displayId := some s }) rest
  · exact hmember (fun s => { g with clearId := some s }) rest
  · exact hmember (fun s => { g with backspaceId := some s }) rest
  · rw [Reader.skipMember_stands h, take]
    · rfl
    all_goals assumption

/-- The identifiers that the items of a list are, in their order; the last ones may be missing. -/
def ofItems? (vs : List Value) : Option Markup :=
  (Value.next? Value.text? vs).bind fun (keyClass, vs) =>
  (Value.next? Value.text? vs).bind fun (displayId, vs) =>
  (Value.next? Value.text? vs).bind fun (clearId, vs) =>
  (Value.next? Value.text? vs).bind fun (backspaceId, vs) =>
  if vs.isEmpty then some (Given.complete ⟨keyClass, displayId, clearId, backspaceId⟩) else none

/-- The markup that a value is. -/
def ofValue? : Value → Option Markup
  | .object ms => (Value.fold? Given.has take {} ms).map Given.complete
  | .list vs => ofItems? vs
  | _ => none

/-- An object is a markup if the values under each of the four names make its identifier. -/
theorem ofValue?_object_eq_some_iff {ms : List (String × Value)} {m : Markup} :
    ofValue? (.object ms) = some m ↔
      field? Value.text? ({} : Markup).keyClass (given "key_class" ms) = some m.keyClass ∧
      field? Value.text? ({} : Markup).displayId (given "display_id" ms) = some m.displayId ∧
      field? Value.text? ({} : Markup).clearId (given "clear_id" ms) = some m.clearId ∧
      field? Value.text? ({} : Markup).backspaceId (given "backspace_id" ms) =
        some m.backspaceId := by
  simp only [ofValue?, Option.map_eq_some_iff, fold?_eq_some_iff, field?_eq_some_iff]
  constructor
  · rintro ⟨g, ⟨hkeyClass, hdisplayId, hclearId, hbackspaceId⟩, rfl⟩
    exact ⟨⟨_, hkeyClass, rfl⟩, ⟨_, hdisplayId, rfl⟩, ⟨_, hclearId, rfl⟩, _, hbackspaceId, rfl⟩
  · rintro ⟨⟨k, hkeyClass, hk⟩, ⟨d, hdisplayId, hd⟩, ⟨c, hclearId, hc⟩, b, hbackspaceId, hb⟩
    refine ⟨⟨k, d, c, b⟩, ⟨hkeyClass, hdisplayId, hclearId, hbackspaceId⟩, ?_⟩
    rw [Given.complete, hk, hd, hc, hb]

/-- The reader takes what the value is. -/
theorem means : Means reader ofValue? := by
  intro v ts h rest
  cases h with
  | object hms =>
    -- members fill fields one after the other, and defaults fill the others
    rw [List.cons_append, List.append_assoc, List.singleton_append]
    exact Reader.toOption_object toOption_step hms {} Given.complete rest
  | list hvs =>
    -- a list gives the fields in their order, and the last ones may be missing
    have htext := Reader.means_text "a string"
    rw [List.cons_append, List.append_assoc, List.singleton_append, reader, ofValue?, ofItems?]
    simp only [Option.map_bind, Function.comp_def]
    refine htext.toOption_next? hvs rest fun keyClass vs ts hvs => ?_
    refine htext.toOption_next? hvs rest fun displayId vs ts hvs => ?_
    refine htext.toOption_next? hvs rest fun clearId vs ts hvs => ?_
    refine htext.toOption_next? hvs rest fun backspaceId vs ts hvs => ?_
    rw [Reader.toOption_bind, Reader.toOption_endList hvs]
    cases vs.isEmpty <;> rfl
  | null => rfl
  | bool => rfl
  | number => rfl
  | text => rfl

/-! ### What an object tells of a markup -/

/-- The identifiers that an object tells. -/
structure Told (ms : List (String × Value)) (m : Markup) : Prop where
  keyClass : Tells ms "key_class" ({} : Markup).keyClass (fun s v => v = .text s) m.keyClass
  displayId : Tells ms "display_id" ({} : Markup).displayId (fun s v => v = .text s) m.displayId
  clearId : Tells ms "clear_id" ({} : Markup).clearId (fun s v => v = .text s) m.clearId
  backspaceId :
    Tells ms "backspace_id" ({} : Markup).backspaceId (fun s v => v = .text s) m.backspaceId

/-- What an object tells of a markup is the markup that it is. -/
theorem ofValue?_of_told {ms : List (String × Value)} {m : Markup} (h : Told ms m) :
    ofValue? (.object ms) = some m := by
  have htext : ∀ s v, v = Value.text s → v.text? = some s := fun _ _ h => h ▸ rfl
  exact ofValue?_object_eq_some_iff.2 ⟨field?_of_tells h.keyClass htext,
    field?_of_tells h.displayId htext, field?_of_tells h.clearId htext,
    field?_of_tells h.backspaceId htext⟩

/-- The names of the identifiers. -/
def names : List String := ["key_class", "display_id", "clear_id", "backspace_id"]

/-- Objects with the same known members, in whatever order and among whatever others, are the same
markup. -/
theorem ofValue?_of_rearranged {ms ms' : List (String × Value)} (h : Rearranged names ms ms') :
    ofValue? (.object ms) = ofValue? (.object ms') := by
  ext m
  rw [ofValue?_object_eq_some_iff, ofValue?_object_eq_some_iff, field?_perm (h.given_perm ?_),
    field?_perm (h.given_perm ?_), field?_perm (h.given_perm ?_), field?_perm (h.given_perm ?_)]
  all_goals decide

/-- An object with a garbled member is no markup. -/
theorem ofValue?_of_garbled {ms : List (String × Value)} (h : Garbled names ms) :
    ofValue? (.object ms) = none := by
  obtain ⟨name, hname, hfield⟩ := h.exists_field
  have htext : ∀ v : Value, v.IsBare → v.text? = none := by rintro _ (_ | _ | _) <;> rfl
  by_contra hsome
  obtain ⟨m, hm⟩ := Option.ne_none_iff_exists'.1 hsome
  -- every identifier of a markup is made of what is given under its name
  obtain ⟨hkeyClass, hdisplayId, hclearId, hbackspaceId⟩ := ofValue?_object_eq_some_iff.1 hm
  simp only [names, List.mem_cons, List.not_mem_nil, or_false] at hname
  obtain rfl | rfl | rfl | rfl := hname
  · rw [hfield htext] at hkeyClass
    cases hkeyClass
  · rw [hfield htext] at hdisplayId
    cases hdisplayId
  · rw [hfield htext] at hclearId
    cases hclearId
  · rw [hfield htext] at hbackspaceId
    cases hbackspaceId

end Markup

/-! ## Settings -/

namespace Settings

/-- The rows of labels that a value is. -/
def rows? : Value → Option (List (List String)) := Value.list? (Value.list? Value.text?)

/-- Takes the part that a value is. -/
def take (g : Given) (name : String) (v : Value) : Option Given :=
  match name with
  | "markup" => (Markup.ofValue? v).map fun m => { g with markup := some m }
  | "controls" => (v.choice? Policy.byName).map fun p => { g with policy := some p }
  | "layout" => (rows? v).map fun rows => { g with rows := some rows }
  | _ => some g

/-- Members fill each part with what is given under its name. -/
theorem fold?_eq_some_iff {g g' : Given} {ms : List (String × Value)} :
    Value.fold? Given.has take g ms = some g' ↔
      part? Markup.ofValue? g.markup (given "markup" ms) = some g'.markup ∧
      part? (Value.choice? Policy.byName) g.policy (given "controls" ms) = some g'.policy ∧
      part? rows? g.rows (given "layout" ms) = some g'.rows := by
  induction ms generalizing g with
  | nil =>
    cases g
    cases g'
    simp [Value.fold?, given, part?]
  | cons m ms ih =>
    obtain ⟨name, v⟩ := m
    simp only [fold?_cons_eq_some_iff, ih]
    unfold take Given.has
    -- a known name adds to what its own part is given, and any other name to nothing
    split
    case h_4 hmarkup hcontrols hlayout =>
      simp [given_cons_of_ne hmarkup, given_cons_of_ne hcontrols, given_cons_of_ne hlayout]
    all_goals
      simp only [given_cons_self, given_cons_of_ne, part?_cons_eq_some_iff, ne_eq, String.reduceEq,
        not_false_eq_true, Option.map_eq_some_iff, exists_exists_and_eq_and]
      grind

/-- The steps of the reader take what the members give. -/
theorem toOption_step (g : Given) (name : String) (v : Value) (ts : List Token) (h : Stands v ts)
    (rest : List Token) :
    (step g name (.colon :: (ts ++ rest))).toOption = (take g name v).map (·, rest) := by
  have hrows := (Reader.means_text "a string").list.list
  unfold step
  split
  · exact Markup.means.toOption_member h (fun m => { g with markup := some m }) rest
  · exact (Reader.means_variant Policy.byName).toOption_member h
      (fun p => { g with policy := some p }) rest
  · exact hrows.toOption_member h (fun rows => { g with rows := some rows }) rest
  · rw [Reader.skipMember_stands h, take]
    · rfl
    all_goals assumption

/-- The parts that the items of a list are, in their order; the last ones may be missing. -/
def ofItems? (vs : List Value) : Option Settings :=
  (Value.next? Markup.ofValue? vs).bind fun (markup, vs) =>
  (Value.next? (Value.choice? Policy.byName) vs).bind fun (policy, vs) =>
  (Value.next? rows? vs).bind fun (rows, vs) =>
  if vs.isEmpty then some (Given.complete ⟨markup, policy, rows⟩) else none

/-- The settings that a value is. -/
def ofValue? : Value → Option Settings
  | .object ms => (Value.fold? Given.has take {} ms).map Given.complete
  | .list vs => ofItems? vs
  | _ => none

/-- An object is settings if the values under each of the three names make its part. -/
theorem ofValue?_object_eq_some_iff {ms : List (String × Value)} {s : Settings} :
    ofValue? (.object ms) = some s ↔
      field? Markup.ofValue? ({} : Settings).markup (given "markup" ms) = some s.markup ∧
      field? (Value.choice? Policy.byName) ({} : Settings).policy (given "controls" ms) =
        some s.policy ∧
      field? rows? ({} : Settings).rows (given "layout" ms) = some s.rows := by
  simp only [ofValue?, Option.map_eq_some_iff, fold?_eq_some_iff, field?_eq_some_iff]
  constructor
  · rintro ⟨g, ⟨hmarkup, hpolicy, hrows⟩, rfl⟩
    exact ⟨⟨_, hmarkup, rfl⟩, ⟨_, hpolicy, rfl⟩, _, hrows, rfl⟩
  · rintro ⟨⟨m, hmarkup, hm⟩, ⟨p, hpolicy, hp⟩, r, hrows, hr⟩
    refine ⟨⟨m, p, r⟩, ⟨hmarkup, hpolicy, hrows⟩, ?_⟩
    rw [Given.complete, hm, hp, hr]

/-- The reader takes what the value is. -/
theorem means : Means reader ofValue? := by
  intro v ts h rest
  cases h with
  | object hms =>
    rw [List.cons_append, List.append_assoc, List.singleton_append]
    exact Reader.toOption_object toOption_step hms {} Given.complete rest
  | list hvs =>
    have hpolicy := Reader.means_variant Policy.byName
    have hrows := (Reader.means_text "a string").list.list
    rw [List.cons_append, List.append_assoc, List.singleton_append, reader, ofValue?, ofItems?]
    simp only [Option.map_bind, Function.comp_def]
    refine Markup.means.toOption_next? hvs rest fun markup vs ts hvs => ?_
    refine hpolicy.toOption_next? hvs rest fun policy vs ts hvs => ?_
    refine hrows.toOption_next? hvs rest fun rows vs ts hvs => ?_
    rw [Reader.toOption_bind, Reader.toOption_endList hvs]
    cases vs.isEmpty <;> rfl
  | null => rfl
  | bool => rfl
  | number => rfl
  | text => rfl

/-! ### What an object tells -/

/-- The settings that an object tells. -/
structure Told (ms : List (String × Value)) (s : Settings) : Prop where
  markup : Tells ms "markup" ({} : Settings).markup
    (fun m v => ∃ inner, v = .object inner ∧ Markup.Told inner m) s.markup
  policy : Tells ms "controls" ({} : Settings).policy (fun p v => v = .text p.name) s.policy
  rows : Tells ms "layout" ({} : Settings).rows
    (fun rows v => v = .list (rows.map fun row => .list (row.map .text))) s.rows

theorem choice?_of_name (p : Policy) :
    (Value.text p.name).choice? Policy.byName = some p := by
  cases p <;> rfl

/-- Rows of labels are lists of lists of strings, and nothing else is. -/
theorem rows?_eq_some_iff {v : Value} {rows : List (List String)} :
    rows? v = some rows ↔ v = .list (rows.map fun row => .list (row.map .text)) :=
  Value.list?_eq_some_iff fun _ _ => Value.list?_eq_some_iff fun _ _ => Value.text?_eq_some_iff

/-- What an object tells are the settings that it is. -/
theorem ofValue?_of_told {ms : List (String × Value)} {s : Settings} (h : Told ms s) :
    ofValue? (.object ms) = some s := by
  refine ofValue?_object_eq_some_iff.2 ⟨field?_of_tells h.markup ?_, field?_of_tells h.policy ?_,
    field?_of_tells h.rows ?_⟩
  · rintro m _ ⟨inner, rfl, hm⟩
    exact Markup.ofValue?_of_told hm
  · rintro p _ rfl
    exact choice?_of_name p
  · rintro rows _ rfl
    exact rows?_eq_some_iff.2 rfl

/-! ### Members in another order, and unknown members -/

/-- The names of the parts. -/
def names : List String := ["markup", "controls", "layout"]

/-- Whether members of settings can be changed into others by rearranging them and those of a
markup. -/
inductive Rearranged : List (String × Value) → List (String × Value) → Prop
  | members {ms ms' : List (String × Value)} : Json.Rearranged names ms ms' →
      Rearranged ms ms'
  | markup {inner inner' : List (String × Value)} (before behind : List (String × Value)) :
      Json.Rearranged Markup.names inner inner' →
      Rearranged (before ++ ("markup", .object inner) :: behind)
        (before ++ ("markup", .object inner') :: behind)
  | trans {ms ms' ms'' : List (String × Value)} : Rearranged ms ms' → Rearranged ms' ms'' →
      Rearranged ms ms''

/-- Rearranged members, in the object or in a markup inside, make the same settings. -/
theorem ofValue?_of_rearranged {ms ms' : List (String × Value)} (h : Rearranged ms ms') :
    ofValue? (.object ms) = ofValue? (.object ms') := by
  induction h with
  | members h =>
    ext s
    rw [ofValue?_object_eq_some_iff, ofValue?_object_eq_some_iff, field?_perm (h.given_perm ?_),
      field?_perm (h.given_perm ?_), field?_perm (h.given_perm ?_)]
    all_goals decide
  | markup before behind h =>
    -- the markup is given as another value that means the same, and all else as it was
    have hinner := Markup.ofValue?_of_rearranged h
    have hmarkup : "markup" ≠ "controls" ∧ "markup" ≠ "layout" := by decide
    ext s
    simp only [ofValue?_object_eq_some_iff, given_append, given_cons_self,
      given_cons_of_ne hmarkup.1, given_cons_of_ne hmarkup.2, field?_congr hinner]
  | trans _ _ ih ih' => exact ih.trans ih'

/-! ### Members that are refused -/

/-- What makes members no settings: a known member that is garbled, here or in a markup, a policy
that there is not, or a layout that is no list of lists of strings. -/
inductive Spoiled (ms : List (String × Value)) : Prop
  | members : Garbled names ms → Spoiled ms
  | markup {inner : List (String × Value)} : ("markup", .object inner) ∈ ms →
      Garbled Markup.names inner → Spoiled ms
  | policy {name : String} : ("controls", .text name) ∈ ms → (∀ p : Policy, name ≠ p.name) →
      Spoiled ms
  | layout {v : Value} : ("layout", v) ∈ ms →
      (∀ rows : List (List String), v ≠ .list (rows.map fun row => .list (row.map .text))) →
      Spoiled ms

theorem name_of_choice? {name : String} {p : Policy}
    (h : (Value.text name).choice? Policy.byName = some p) : name = p.name := by
  obtain ⟨before, behind, heq, -⟩ := List.lookup_eq_some_iff.1 h
  have hmem : (name, p) ∈ Policy.byName := by simp [heq]
  simp only [Policy.byName, List.mem_cons, Prod.mk.injEq, List.not_mem_nil, or_false] at hmem
  obtain ⟨rfl, rfl⟩ | ⟨rfl, rfl⟩ | ⟨rfl, rfl⟩ := hmem <;> rfl

/-- An object with a member that is refused is no settings. -/
theorem ofValue?_of_spoiled {ms : List (String × Value)} (h : Spoiled ms) :
    ofValue? (.object ms) = none := by
  by_contra hsome
  obtain ⟨s, hs⟩ := Option.ne_none_iff_exists'.1 hsome
  -- every part of the settings is made of what is given under its name
  obtain ⟨hmarkup, hpolicy, hrows⟩ := ofValue?_object_eq_some_iff.1 hs
  cases h with
  | members h =>
    obtain ⟨name, hname, hfield⟩ := h.exists_field
    simp only [names, List.mem_cons, List.not_mem_nil, or_false] at hname
    obtain rfl | rfl | rfl := hname
    · rw [hfield (by rintro _ (_ | _ | _) <;> rfl)] at hmarkup
      cases hmarkup
    · rw [hfield (by rintro _ (_ | _ | _) <;> rfl)] at hpolicy
      cases hpolicy
    · rw [hfield (by rintro _ (_ | _ | _) <;> rfl)] at hrows
      cases hrows
  | markup hmem h =>
    have := meaning_of_field? hmarkup (mem_given.2 hmem)
    rw [Markup.ofValue?_of_garbled h] at this
    cases this
  | policy hmem h =>
    exact h _ (name_of_choice? (meaning_of_field? hpolicy (mem_given.2 hmem)))
  | layout hmem h =>
    exact h _ (rows?_eq_some_iff.1 (meaning_of_field? hrows (mem_given.2 hmem)))

/-! ### Texts -/

/-- The text of a value is read as what the value is. -/
theorem parse_json_eq_ok_iff {text : String} {v : Value} (h : IsText v text.toList)
    {s : Settings} : parse .json text = .ok s ↔ ofValue? v = some s := by
  have hread := Reader.toOption_ofText means h
  rw [← hread, parse, ofJson]
  cases Reader.ofText reader text <;> simp [Except.mapError]

/-- The text of a value is refused, with a fault, exactly if the value is no settings. -/
theorem exists_brokenJson_iff {text : String} {v : Value} (h : IsText v text.toList) :
    (∃ fault, parse .json text = .error (.brokenJson fault)) ↔ ofValue? v = none := by
  have hread := Reader.toOption_ofText means h
  rw [← hread, parse, ofJson]
  cases Reader.ofText reader text <;> simp [Except.mapError]

/-- **A JSON object of settings is read by field.** For every text of an object, however it spells
and spaces its values: what the object tells is read, with the default for each part and each
identifier that it does not give; other members may stand in any order, and any number of unknown
ones may be put in or left out, in the object and in a markup, without a change to what is read; and
a known member that is given twice or is null, a boolean or a number, in the object or in a markup,
a policy that there is not, or a layout that is no list of lists of strings, make the text no
settings. -/
theorem json_decodes_by_field {ms : List (String × Value)} {text : String}
    (h : IsText (.object ms) text.toList) :
    (∀ s, Told ms s → parse .json text = .ok s) ∧
    (∀ ms' text', Rearranged ms ms' → IsText (.object ms') text'.toList →
      ∀ s, parse .json text = .ok s ↔ parse .json text' = .ok s) ∧
    (Spoiled ms → ∃ fault, parse .json text = .error (.brokenJson fault)) := by
  refine ⟨?told, ?rearranged, ?spoiled⟩
  case told =>
    intro s hs
    exact (parse_json_eq_ok_iff h).2 (ofValue?_of_told hs)
  case rearranged =>
    intro ms' text' hms h' s
    rw [parse_json_eq_ok_iff h, parse_json_eq_ok_iff h', ofValue?_of_rearranged hms]
  case spoiled =>
    intro hms
    exact (exists_brokenJson_iff h).2 (ofValue?_of_spoiled hms)

/-- A layout and one identifier, behind a member that is not known and with another one inside. -/
def shuffled : List (String × Node) :=
  [("note", .list [.object [("\n", .text "\"")]]), ("layout", .list [.list [.text "1", .text "2"]]),
    ("markup", .object [("title", .text ""), ("clear_id", .text "c")])]

/-- The same without the members that are not known, and the other way round. -/
def plain : List (String × Node) :=
  [("markup", .object [("clear_id", .text "c")]), ("layout", .list [.list [.text "1", .text "2"]])]

/-- Both objects say the same; one in which everything is given twice says nothing. -/
theorem json_decodes_by_field_shuffled :
    parse .json (String.ofList (Node.object shuffled).compact) =
      .ok { markup := { clearId := "c" }, rows := [["1", "2"]] } ∧
    (∀ s, parse .json (String.ofList (Node.object shuffled).compact) = .ok s ↔
      parse .json (String.ofList (Node.object plain).compact) = .ok s) ∧
    ∃ fault, parse .json (String.ofList (Node.object (plain ++ plain)).compact) =
      .error (.brokenJson fault) := by
  obtain ⟨htold, hrearranged, -⟩ := json_decodes_by_field (Json.isText_compact (.object shuffled))
  obtain ⟨-, -, hspoiled⟩ := json_decodes_by_field (Json.isText_compact (.object (plain ++ plain)))
  refine ⟨htold _ ?told, hrearranged _ _ ?rearranged (Json.isText_compact (.object plain)),
    hspoiled ?spoiled⟩
  case told =>
    refine ⟨.inr ⟨_, rfl, _, rfl, ?_⟩, .inl ⟨rfl, rfl⟩, .inr ⟨_, rfl, rfl⟩⟩
    exact ⟨.inl ⟨rfl, rfl⟩, .inl ⟨rfl, rfl⟩, .inr ⟨_, rfl, rfl⟩, .inl ⟨rfl, rfl⟩⟩
  case rearranged =>
    refine .trans (.members (.remove _ [] _ (by decide))) (.trans (.markup [_] [] ?_)
      (.members (.perm (.swap _ _ _))))
    exact .remove _ [] _ (by decide)
  case spoiled =>
    have hmarkup : "markup" ∈ names := by decide
    exact .members (.twice hmarkup (Nat.le_refl 2))

end Settings

end AmountPad
