import Mathlib
import AmountPad.Json.Reader
import AmountPad.Proofs.Json.Grammar

/-!
# What readers make of values

A reader that stands in front of the tokens of a value either takes these tokens and no others, or
refuses them. Which of the two, and what it makes of them, depends on the value alone, and not on
how the text spells it or goes on behind it. A reader of an object does with the members what its
steps do with one after the other; a value that is passed over is never refused.

* `Reader.Means` — what a reader makes of each value, if it does not refuse it;
* `Value.text?`, `Value.list?`, `Value.choice?`, `Value.next?` — what the readers of one kind make
  of a value;
* `Value.fold?` — what the steps of an object's reader make of its members.

Main results:

* `Reader.means_text`, `Reader.Means.list`, `Reader.means_variant` — the readers of one kind;
* `Reader.skip_stands` — a value that is passed over is never refused;
* `Reader.toOption_members`, `Reader.toOption_object` — the members of an object;
* `Reader.toOption_ofText` — whole texts.
-/

namespace AmountPad.Json

variable {α σ : Type}

/-! ## Meanings -/

namespace Value

/-- The string that a value is. -/
def text? : Value → Option String
  | .text s => some s
  | _ => none

/-- A list of which every item has a meaning. -/
def list? (item : Value → Option α) : Value → Option (List α)
  | .list items => items.mapM item
  | _ => none

/-- A choice by its name, or by an object that gives the name the value null. -/
def choice? (choices : List (String × α)) : Value → Option α
  | .text name => choices.lookup name
  | .object [(name, .null)] => choices.lookup name
  | _ => none

/-- The first of some items, if there is one, and the items behind it. -/
def next? (item : Value → Option α) : List Value → Option (Option α × List Value)
  | [] => some (none, [])
  | v :: items => (item v).map fun a => (some a, items)

/-- Takes members one after the other, and none whose name was given before. -/
def fold? (has : σ → String → Bool) (take : σ → String → Value → Option σ) :
    σ → List (String × Value) → Option σ
  | s, [] => some s
  | s, (name, v) :: ms =>
    if has s name then none else (take s name v).bind fun s => fold? has take s ms

theorem text?_eq_some_iff {v : Value} {s : String} : v.text? = some s ↔ v = .text s := by
  cases v <;> simp [text?]

/-- Where each item is told from what is written of it, so is a list of items. -/
theorem mapM_eq_some_iff {item : Value → Option α} {write : α → Value}
    (h : ∀ v a, item v = some a ↔ v = write a) {vs : List Value} {as : List α} :
    vs.mapM item = some as ↔ vs = as.map write := by
  induction vs generalizing as with
  | nil => cases as <;> simp
  | cons v vs ih =>
    cases as with
    | nil => simp [Option.bind_eq_some_iff]
    | cons a as => simp [Option.bind_eq_some_iff, h, ih]

/-- Lists of values that are told from what is written of them are told from it too. -/
theorem list?_eq_some_iff {item : Value → Option α} {write : α → Value}
    (h : ∀ v a, item v = some a ↔ v = write a) {v : Value} {as : List α} :
    v.list? item = some as ↔ v = .list (as.map write) := by
  cases v <;> simp [list?, mapM_eq_some_iff h]

end Value

namespace Reader

/-- A reader takes exactly the tokens of the values that have a meaning, and refuses the others. -/
def Means (reader : Reader α) (meaning : Value → Option α) : Prop :=
  ∀ v ts, Stands v ts → ∀ rest, (reader (ts ++ rest)).toOption = (meaning v).map (·, rest)

section ToOption

variable {ε β : Type}

@[simp] theorem toOption_ok (a : α) : (Except.ok a : Except ε α).toOption = some a := rfl

@[simp] theorem toOption_pure (a : α) : (pure a : Except ε α).toOption = some a := rfl

@[simp] theorem toOption_error (e : ε) : (Except.error e : Except ε α).toOption = none := rfl

@[simp] theorem toOption_throw (e : ε) : (throw e : Except ε α).toOption = none := rfl

/-- A computation in two steps has a result if the first step has one and the second has one from
it. -/
@[simp] theorem toOption_bind (x : Except ε α) (f : α → Except ε β) :
    (x >>= f).toOption = x.toOption.bind fun a => (f a).toOption := by
  cases x <;> rfl

end ToOption

/-! ## Values of one kind -/

/-- A string is read, and nothing else. -/
theorem means_text (expected : String) : Means (text expected) Value.text? := by
  intro v ts h rest
  cases h with
  | @text s t _ hdecode =>
    rw [List.singleton_append, text, hdecode]
    rfl
  | null => rfl
  | bool => rfl
  | number => rfl
  | list => rfl
  | object => rfl

/-- Null is read where the value is null. -/
theorem toOption_null (expected : String) {v : Value} {ts : List Token} (h : Stands v ts)
    (rest : List Token) :
    (null expected (ts ++ rest)).toOption = if v matches .null then some ((), rest) else none := by
  cases h <;> rfl

/-- A choice is found under its name, or refused. -/
theorem toOption_choose (choices : List (String × α)) (name : String) :
    (choose choices name).toOption = choices.lookup name := by
  rw [choose]
  split
  · next h => exact h.symm
  · next h => exact h.symm

/-- A choice is read by its name, alone or as the only member of an object. -/
theorem means_variant (choices : List (String × α)) :
    Means (variant choices) (Value.choice? choices) := by
  intro v ts h rest
  cases h with
  | text _ hdecode =>
    simp only [List.singleton_append, variant, hdecode, toOption_bind, toOption_ok,
      Option.bind_some, toOption_choose, toOption_pure, Value.choice?, Option.map_eq_bind]
    rfl
  | object h =>
    cases h with
    | nil => rfl
    | @cons _ name t v members own behind _ hdecode hv hmembers =>
      have hnull := toOption_null "unit" hv (behind ++ .closeObject :: rest)
      simp only [separator, if_true, List.nil_append, List.cons_append, List.append_assoc, variant,
        hdecode, toOption_bind, toOption_choose, colon, toOption_ok, Option.bind_some, hnull]
      -- the object makes a choice if null is the value of its only member
      cases v with
      | null =>
        cases hmembers with
        | nil => cases h : choices.lookup name <;> simp [Value.choice?, h]
        | cons => simp [Value.choice?, separator]
      | bool => simp [Value.choice?]
      | number => simp [Value.choice?]
      | text => simp [Value.choice?]
      | list => simp [Value.choice?]
      | object => simp [Value.choice?]
  | null => rfl
  | bool => rfl
  | number => rfl
  | list => rfl

/-! ## Lists -/

/-- An item starts behind its comma, and is not taken for the end of the list. -/
theorem nextItem?_stands {v : Value} {own : List Token} (h : Stands v own) (first : Bool)
    (rest : List Token) :
    nextItem? first (separator first ++ (own ++ rest)) = .ok (some (own ++ rest)) := by
  cases first <;> cases h <;> rfl

/-- A reader of items that may take more of them than there are takes them all. -/
theorem Means.items {item : Reader α} {meaning : Value → Option α} (h : Means item meaning)
    {vs : List Value} {first : Bool} {ts : List Token} (hts : StandsItems first vs ts)
    (rest : List Token) {bound : Nat} (hb : vs.length < bound) :
    (items item bound first (ts ++ .closeList :: rest)).toOption =
      (vs.mapM meaning).map (·, rest) := by
  induction vs generalizing first ts bound with
  | nil =>
    obtain ⟨bound, rfl⟩ := Nat.exists_eq_succ_of_ne_zero (Nat.ne_of_gt hb)
    cases hts
    rfl
  | cons v vs ih =>
    obtain ⟨bound, rfl⟩ := Nat.exists_eq_succ_of_ne_zero (Nat.ne_of_gt (Nat.zero_lt_of_lt hb))
    cases hts with
    | @cons _ _ _ own behind hv hvs =>
      have hrest := ih hvs (Nat.lt_of_succ_lt_succ hb)
      have hown := h v own hv (behind ++ .closeList :: rest)
      rw [List.append_assoc, List.append_assoc, Reader.items, nextItem?_stands hv]
      simp only [toOption_bind, toOption_ok, Option.bind_some, hown]
      -- a list is refused for its first item or for one of the others
      cases hmeaning : meaning v with
      | none => simp [hmeaning]
      | some a => cases hitems : vs.mapM meaning <;> simp [hmeaning, hitems, hrest]

theorem length_pos_of_stands {v : Value} {ts : List Token} (h : Stands v ts) : 0 < ts.length := by
  cases h <;> exact Nat.succ_pos _

theorem length_le_of_standsItems {vs : List Value} {first : Bool} {ts : List Token}
    (h : StandsItems first vs ts) : vs.length ≤ ts.length := by
  induction vs generalizing first ts with
  | nil => exact Nat.zero_le _
  | cons v vs ih =>
    cases h with
    | cons hv hvs =>
      have := length_pos_of_stands hv
      have := ih hvs
      simp only [List.length_append, List.length_cons]
      omega

/-- A list is read if each of its items is. -/
theorem Means.list {item : Reader α} {meaning : Value → Option α} (h : Means item meaning) :
    Means (list item) (Value.list? meaning) := by
  intro v ts hts rest
  cases hts with
  | list hitems =>
    rw [List.cons_append, List.append_assoc, List.singleton_append, Reader.list]
    refine h.items hitems rest ?_
    have := length_le_of_standsItems hitems
    rw [List.length_append]
    omega
  | null => rfl
  | bool => rfl
  | number => rfl
  | text => rfl
  | object => rfl

/-- What is done with the next item of a list depends on the items alone if what is done behind it
does. -/
theorem Means.toOption_next? {β : Type} {item : Reader α} {meaning : Value → Option α}
    (h : Means item meaning) {vs : List Value} {first : Bool} {ts : List Token}
    (hts : StandsItems first vs ts) (rest : List Token)
    {behind : Option α × List Token → Except Fault β} {meant : Option α × List Value → Option β}
    (hbehind : ∀ a? vs ts, StandsItems false vs ts →
      (behind (a?, ts ++ .closeList :: rest)).toOption = meant (a?, vs)) :
    (next? first item (ts ++ .closeList :: rest) >>= behind).toOption =
      (Value.next? meaning vs).bind meant := by
  cases hts with
  | nil => cases first <;> exact hbehind none [] [] .nil
  | @cons _ v vs own tail hv hvs =>
    -- the item takes its own tokens and leaves those behind it
    have hown := h v own hv (tail ++ .closeList :: rest)
    rw [List.append_assoc, List.append_assoc, Reader.next?, nextItem?_stands hv]
    simp only [toOption_bind, toOption_ok, Option.bind_some, hown, toOption_pure, Value.next?]
    cases meaning v with
    | none => rfl
    | some a => exact hbehind (some a) vs tail hvs

/-- A list ends where no item is left. -/
theorem toOption_endList {vs : List Value} {ts : List Token} (h : StandsItems false vs ts)
    (rest : List Token) :
    (endList (ts ++ .closeList :: rest)).toOption = if vs.isEmpty then some rest else none := by
  cases h with
  | nil => rfl
  | cons hv _ => cases hv <;> rfl

/-! ## Values that are passed over -/

/-- Whether a walk stands where a value may start. -/
inductive AtValue : Place → List Frame → Prop
  | value {stack : List Frame} : AtValue .value stack
  | item {stack : List Frame} : AtValue .item stack
  | opened {stack : List Frame} : AtValue .opened (.list :: stack)

/-- How a walk goes on behind a value. -/
def onward (stack : List Frame) (rest : List Token) : Except Fault (List Token) :=
  match completed stack with
  | none => .ok rest
  | some (place, stack) => walk .lax place stack rest

/-- The token that starts a value is taken as such wherever a value may start. -/
theorem step_of_stands {place : Place} {stack : List Frame} (h : AtValue place stack) {v : Value}
    {t : Token} {ts : List Token} (hv : Stands v (t :: ts)) :
    step .lax place stack t = stepValue .lax stack t := by
  cases h <;> cases hv <;> rfl

/-- A value of one token is passed over with it. -/
theorem walk_of_completed {place : Place} {stack : List Frame} (h : AtValue place stack) {v : Value}
    {t : Token} (hv : Stands v [t]) (hstep : stepValue .lax stack t = .ok (completed stack))
    (rest : List Token) : walk .lax place stack (t :: rest) = onward stack rest := by
  rw [walk, step_of_stands h hv, hstep, onward]
  cases completed stack <;> rfl

mutual

/-- A value is passed over up to its end, in whatever lists and objects it stands. -/
theorem walk_stands : ∀ (v : Value) {ts : List Token}, Stands v ts →
    ∀ {place : Place} {stack : List Frame}, AtValue place stack → ∀ rest : List Token,
      walk .lax place stack (ts ++ rest) = onward stack rest
  | .null, _, .null, _, _, hplace, rest => walk_of_completed hplace .null rfl rest
  | .bool _, _, .bool, _, _, hplace, rest => walk_of_completed hplace .bool rfl rest
  | .number _, _, .number, _, _, hplace, rest => walk_of_completed hplace .number rfl rest
  | .text _, _, .text hbroken hdecode, _, _, hplace, rest => by
    refine walk_of_completed hplace (.text hbroken hdecode) ?_ rest
    rw [stepValue, hbroken]
  | .list items, _, .list h, _, stack, hplace, rest => by
    rw [List.cons_append, walk, step_of_stands hplace (.list h), List.append_assoc]
    exact walk_items items h stack rest
  | .object members, _, .object h, _, stack, hplace, rest => by
    rw [List.cons_append, walk, step_of_stands hplace (.object h), List.append_assoc]
    exact walk_members members h stack rest

/-- The walk over a list passes its items and goes on behind the closing bracket. -/
theorem walk_items : ∀ (vs : List Value) {first : Bool} {ts : List Token},
    StandsItems first vs ts → ∀ (stack : List Frame) (rest : List Token),
      walk .lax (if first then .opened else .afterItem) (.list :: stack)
        (ts ++ .closeList :: rest) = onward stack rest
  | [], first, _, .nil, stack, rest => by cases first <;> cases stack <;> rfl
  | v :: vs, first, _, .cons hv hvs, stack, rest => by
    -- behind the value the walk stands between two items
    have hbehind := walk_items vs hvs stack rest
    rw [List.append_assoc, List.append_assoc]
    cases first with
    | true => exact (walk_stands v hv .opened _).trans hbehind
    | false =>
      rw [separator_false, List.singleton_append, walk]
      exact (walk_stands v hv .item _).trans hbehind

/-- The walk over an object passes its members and goes on behind the closing brace. -/
theorem walk_members : ∀ (ms : List (String × Value)) {first : Bool} {ts : List Token},
    StandsMembers first ms ts → ∀ (stack : List Frame) (rest : List Token),
      walk .lax (if first then .opened else .afterItem) (.object :: stack)
        (ts ++ .closeObject :: rest) = onward stack rest
  | [], first, _, .nil, stack, rest => by cases first <;> cases stack <;> rfl
  | (name, v) :: ms, first, _, h, stack, rest => by
    cases h with
    | @cons _ _ t _ _ own behind hbroken _ hv hms =>
      have hbehind := walk_members ms hms stack rest
      -- the name leads to the colon, and the colon to the value
      have hname : stepName .lax (.object :: stack) (.text t) =
          .ok (some (.colon, .object :: stack)) := by
        simp only [stepName, hbroken]
      have hmember : walk .lax .colon (.object :: stack)
          (.colon :: (own ++ (behind ++ .closeObject :: rest))) = onward stack rest :=
        (walk_stands v hv .value _).trans hbehind
      cases first with
      | true =>
        simp only [separator_true, List.nil_append, List.cons_append, List.append_assoc, if_true,
          walk.eq_2 .lax .opened, step, hname, hmember]
      | false =>
        simp only [separator_false, List.nil_append, List.cons_append, List.append_assoc,
          Bool.false_eq_true, if_false, walk.eq_2 .lax .afterItem, walk.eq_2 .lax .name, step,
          hname, hmember]

end

/-- A value that is passed over is never refused, and left behind as a whole. -/
theorem skip_stands {v : Value} {ts : List Token} (h : Stands v ts) (rest : List Token) :
    skip (ts ++ rest) = .ok rest := walk_stands v h .value rest

/-! ## Objects -/

/-- The name of the next member is found, with its comma in front of it if there is one. -/
theorem nextName?_stands {t : QuotedText} {name : String} (h : t.decode = .ok name) (first : Bool)
    (rest : List Token) :
    nextName? first (separator first ++ .text t :: rest) = .ok (some (name, rest)) := by
  cases first <;> simp [nextName?, h, bind, Except.bind, pure, Except.pure]

/-- A reader of members that may take more of them than there are does with them what its steps do
with one after the other. -/
theorem toOption_members {has : σ → String → Bool} {step : σ → String → Reader σ}
    {take : σ → String → Value → Option σ}
    (hstep : ∀ s name v ts, Stands v ts → ∀ rest,
      (step s name (.colon :: (ts ++ rest))).toOption = (take s name v).map (·, rest))
    {ms : List (String × Value)} {first : Bool} {ts : List Token} (h : StandsMembers first ms ts)
    (s : σ) (rest : List Token) {bound : Nat} (hb : ms.length < bound) :
    (members has step bound first s (ts ++ .closeObject :: rest)).toOption =
      (Value.fold? has take s ms).map (·, rest) := by
  induction ms generalizing first ts s bound with
  | nil =>
    obtain ⟨bound, rfl⟩ := Nat.exists_eq_succ_of_ne_zero (Nat.ne_of_gt hb)
    cases h
    rfl
  | cons m ms ih =>
    obtain ⟨bound, rfl⟩ := Nat.exists_eq_succ_of_ne_zero (Nat.ne_of_gt (Nat.zero_lt_of_lt hb))
    cases h with
    | @cons _ name t v _ own behind _ hdecode hv hms =>
      have hown := hstep s name v own hv (behind ++ .closeObject :: rest)
      rw [List.append_assoc, List.cons_append, List.cons_append, List.append_assoc, Reader.members,
        nextName?_stands hdecode]
      -- a name that was given before is refused, whatever its value is
      cases hhas : has s name with
      | true => simp [Value.fold?, hhas]
      | false =>
        simp only [toOption_bind, toOption_ok, Option.bind_some, hhas, Bool.false_eq_true, if_false,
          hown, Value.fold?]
        cases take s name v with
        | none => rfl
        | some s' => exact ih hms s' (Nat.lt_of_succ_lt_succ hb)

theorem length_le_of_standsMembers {ms : List (String × Value)} {first : Bool} {ts : List Token}
    (h : StandsMembers first ms ts) : ms.length ≤ ts.length := by
  induction ms generalizing first ts with
  | nil => exact Nat.zero_le _
  | cons m ms ih =>
    cases h with
    | cons _ _ _ hms =>
      have := ih hms
      simp only [List.length_append, List.length_cons]
      omega

/-- What is made of an object is told by what is made of its members one after the other. -/
theorem toOption_object {β : Type} {has : σ → String → Bool} {step : σ → String → Reader σ}
    {take : σ → String → Value → Option σ}
    (hstep : ∀ s name v ts, Stands v ts → ∀ rest,
      (step s name (.colon :: (ts ++ rest))).toOption = (take s name v).map (·, rest))
    {ms : List (String × Value)} {ts : List Token} (h : StandsMembers true ms ts) (s : σ)
    (make : σ → β) (rest : List Token) :
    (do
      let (s, ts) ← members has step ((ts ++ .closeObject :: rest).length + 1) true s
        (ts ++ .closeObject :: rest)
      return (make s, ts) : Except Fault (β × List Token)).toOption =
      ((Value.fold? has take s ms).map make).map (·, rest) := by
  -- the bound of the reader is enough, for each member has a token
  have hlength := length_le_of_standsMembers h
  have hbound : ms.length < (ts ++ .closeObject :: rest).length + 1 := by
    rw [List.length_append]
    omega
  rw [toOption_bind, toOption_members hstep h s rest hbound]
  cases Value.fold? has take s ms <;> rfl

/-- What is made of the value of a member is told by its meaning. -/
theorem Means.toOption_member {β : Type} {reader : Reader α} {meaning : Value → Option α}
    (h : Means reader meaning) {v : Value} {ts : List Token} (hv : Stands v ts) (make : α → β)
    (rest : List Token) :
    (do
      let (a, ts) ← member reader (.colon :: (ts ++ rest))
      return (make a, ts) : Except Fault (β × List Token)).toOption =
      ((meaning v).map make).map (·, rest) := by
  have hread : (member reader (.colon :: (ts ++ rest))).toOption = (meaning v).map (·, rest) :=
    h v ts hv rest
  rw [toOption_bind, hread]
  cases meaning v <;> rfl

/-- The value of a member that is passed over is left behind as a whole. -/
theorem skipMember_stands {v : Value} {ts : List Token} (h : Stands v ts) (rest : List Token) :
    skipMember (.colon :: (ts ++ rest)) = .ok rest := skip_stands h rest

/-! ## Whole texts -/

/-- What is read from a text of a value is what the reader makes of the value. -/
theorem toOption_ofText {reader : Reader α} {meaning : Value → Option α} (h : Means reader meaning)
    {v : Value} {text : String} (ht : IsText v text.toList) :
    (ofText reader text).toOption = meaning v := by
  have hread := h v _ (stands_of_isText ht) []
  rw [List.append_nil] at hread
  rw [ofText, toOption_bind, hread]
  cases meaning v <;> rfl

end Reader

end AmountPad.Json
