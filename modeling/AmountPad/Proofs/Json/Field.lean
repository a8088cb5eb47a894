import Mathlib
import AmountPad.Proofs.Json.Meaning

/-!
# Fields of an object

A reader of an object fills fields with the values of its members. What becomes of a field is told
by the values that the object gives under one name, wherever they stand among the others and whatever
these are: none leaves the default, one gives the value, and a second is refused.

* `given` — the values that an object gives under a name;
* `part?`, `field?` — what a reader keeps of them, and what they make of a field;
* `Tells` — what an object tells of a field;
* `Rearranged` — members in another order, among other members whose names are not known;
* `Garbled` — a known member that is given twice, or as a value that no field is made of.

Main results:

* `field?_perm`, `Rearranged.given_perm` — the order and the other members make no difference;
* `field?_of_tells`, `Garbled.exists_field` — what is told is read, and what is garbled is refused.
-/

namespace AmountPad.Json

variable {α : Type}

/-! ## What is given under a name -/

/-- The values that an object gives under a name. -/
def given (name : String) (ms : List (String × Value)) : List Value :=
  ms.filterMap fun m => if m.1 = name then some m.2 else none

theorem given_cons_self (name : String) (v : Value) (ms : List (String × Value)) :
    given name ((name, v) :: ms) = v :: given name ms := by
  simp [given]

theorem given_cons_of_ne {name other : String} (h : other ≠ name) (v : Value)
    (ms : List (String × Value)) : given name ((other, v) :: ms) = given name ms := by
  simp [given, h]

theorem given_append (name : String) (ms ms' : List (String × Value)) :
    given name (ms ++ ms') = given name ms ++ given name ms' :=
  List.filterMap_append

/-- A value is given under a name exactly if a member has both. -/
theorem mem_given {name : String} {v : Value} {ms : List (String × Value)} :
    v ∈ given name ms ↔ (name, v) ∈ ms := by
  simp [given]

/-! ## What a reader keeps -/

/-- What a reader keeps of the values given under one name: at most one, and that with a meaning. -/
def part? (meaning : Value → Option α) : Option α → List Value → Option (Option α)
  | a?, [] => some a?
  | some _, _ :: _ => none
  | none, v :: vs => (meaning v).bind fun a => part? meaning (some a) vs

/-- A further value is kept if there was none before and it has a meaning. -/
theorem part?_cons_eq_some_iff {meaning : Value → Option α} {a? b? : Option α} {v : Value}
    {vs : List Value} : part? meaning a? (v :: vs) = some b? ↔
      a?.isSome = false ∧ ∃ a, meaning v = some a ∧ part? meaning (some a) vs = some b? := by
  cases a? with
  | none => simp [part?, Option.bind_eq_some_iff]
  | some a => simp [part?]

/-- A further member is taken if its name was not given before and its step takes it. -/
theorem fold?_cons_eq_some_iff {σ : Type} {has : σ → String → Bool}
    {take : σ → String → Value → Option σ} {s t : σ} {name : String} {v : Value}
    {ms : List (String × Value)} : Value.fold? has take s ((name, v) :: ms) = some t ↔
      has s name = false ∧ ∃ s', take s name v = some s' ∧ Value.fold? has take s' ms = some t := by
  cases h : has s name <;> simp [Value.fold?, h, Option.bind_eq_some_iff]

/-! ## What becomes of a field -/

/-- What the values given under one name make of a field. -/
def field? (meaning : Value → Option α) (default : α) : List Value → Option α
  | [] => some default
  | [v] => meaning v
  | _ :: _ :: _ => none

/-- A field is the part that a reader keeps, or the default where it keeps none. -/
theorem field?_eq (meaning : Value → Option α) (default : α) (vs : List Value) :
    field? meaning default vs = (part? meaning none vs).map (·.getD default) := by
  match vs with
  | [] => rfl
  | [v] => cases h : meaning v <;> simp [field?, part?, h]
  | v :: w :: vs => cases h : meaning v <;> simp [field?, part?, h]

/-- A field is made exactly if the reader refuses none of the values. -/
theorem field?_eq_some_iff {meaning : Value → Option α} {default a : α} {vs : List Value} :
    field? meaning default vs = some a ↔
      ∃ a?, part? meaning none vs = some a? ∧ a?.getD default = a := by
  rw [field?_eq, Option.map_eq_some_iff]

/-- No field is made of two values. -/
theorem field?_of_two_le {meaning : Value → Option α} {default : α} {vs : List Value}
    (h : 2 ≤ vs.length) : field? meaning default vs = none := by
  match vs with
  | [] => cases h
  | [_] => exact absurd h (by simp)
  | _ :: _ :: _ => rfl

/-- A field is made of the value that is given. -/
theorem meaning_of_field? {meaning : Value → Option α} {default a : α} {v : Value}
    {vs : List Value} (h : field? meaning default vs = some a) (hv : v ∈ vs) :
    meaning v = some a := by
  match vs with
  | [w] =>
    rw [List.mem_singleton] at hv
    rw [hv]
    exact h
  | _ :: _ :: _ => cases h

/-- No field is made of a value without a meaning. -/
theorem field?_of_mem {meaning : Value → Option α} {default : α} {v : Value} {vs : List Value}
    (hv : v ∈ vs) (h : meaning v = none) : field? meaning default vs = none := by
  rw [Option.eq_none_iff_forall_ne_some]
  intro a ha
  rw [meaning_of_field? ha hv] at h
  cases h

/-- The order in which values are given makes no difference: where it could, no field is made. -/
theorem field?_perm {meaning : Value → Option α} {default : α} {vs ws : List Value}
    (h : vs.Perm ws) : field? meaning default vs = field? meaning default ws := by
  match vs, ws with
  | [], ws => rw [h.nil_eq]
  | [v], ws => rw [List.singleton_perm.1 h]
  | _ :: _ :: _, [] => exact absurd h.length_eq (by simp)
  | _ :: _ :: _, [_] => exact absurd h.length_eq (by simp)
  | _ :: _ :: _, _ :: _ :: _ => rfl

/-- A value may be replaced by another one that means the same. -/
theorem field?_congr {meaning : Value → Option α} {default : α} {v w : Value}
    (h : meaning v = meaning w) (before behind : List Value) :
    field? meaning default (before ++ v :: behind) =
      field? meaning default (before ++ w :: behind) := by
  match before, behind with
  | [], [] => exact h
  | [], _ :: _ => rfl
  | [_], _ => rfl
  | _ :: _ :: _, _ => rfl

/-- Whether an object tells something of a field: the default if it gives nothing under the name,
otherwise what its one value there is. -/
def Tells (ms : List (String × Value)) (name : String) (default : α) (written : α → Value → Prop)
    (a : α) : Prop :=
  given name ms = [] ∧ a = default ∨ ∃ v, given name ms = [v] ∧ written a v

/-- What is told of a field is what a reader makes of it, if it reads what is written. -/
theorem field?_of_tells {ms : List (String × Value)} {name : String} {default : α}
    {written : α → Value → Prop} {a : α} (h : Tells ms name default written a)
    {meaning : Value → Option α} (hwritten : ∀ a v, written a v → meaning v = some a) :
    field? meaning default (given name ms) = some a := by
  obtain ⟨hnone, rfl⟩ | ⟨v, hv, hwv⟩ := h
  · rw [hnone]
    rfl
  · rw [hv]
    exact hwritten a v hwv

/-! ## Members in another order, and unknown members -/

/-- Whether members can be changed into others by bringing them into another order and by putting in
or leaving out some whose names are not known. -/
inductive Rearranged (known : List String) :
    List (String × Value) → List (String × Value) → Prop
  | perm {ms ms' : List (String × Value)} : ms.Perm ms' → Rearranged known ms ms'
  | insert {name : String} (v : Value) (before behind : List (String × Value)) : name ∉ known →
      Rearranged known (before ++ behind) (before ++ (name, v) :: behind)
  | remove {name : String} (v : Value) (before behind : List (String × Value)) : name ∉ known →
      Rearranged known (before ++ (name, v) :: behind) (before ++ behind)
  | trans {ms ms' ms'' : List (String × Value)} : Rearranged known ms ms' →
      Rearranged known ms' ms'' → Rearranged known ms ms''

/-- Nothing changes in what is given under a known name, but for the order. -/
theorem Rearranged.given_perm {known : List String} {ms ms' : List (String × Value)}
    (h : Rearranged known ms ms') {name : String} (hname : name ∈ known) :
    (given name ms).Perm (given name ms') := by
  induction h with
  | perm h => exact h.filterMap _
  | insert v before behind hother =>
    have hne := (ne_of_mem_of_not_mem hname hother).symm
    rw [given_append, given_append, given_cons_of_ne hne]
  | remove v before behind hother =>
    have hne := (ne_of_mem_of_not_mem hname hother).symm
    rw [given_append, given_append, given_cons_of_ne hne]
  | trans _ _ ih ih' => exact ih.trans ih'

/-! ## Members that are refused -/

/-- Null, a boolean or a number. -/
inductive Value.IsBare : Value → Prop
  | null : IsBare .null
  | bool {b : Bool} : IsBare (.bool b)
  | number {n : Numeral} : IsBare (.number n)

/-- Whether a known member is given twice, or as null, a boolean or a number. -/
inductive Garbled (known : List String) (ms : List (String × Value)) : Prop
  | twice {name : String} : name ∈ known → 2 ≤ (given name ms).length → Garbled known ms
  | bare {name : String} {v : Value} : name ∈ known → (name, v) ∈ ms → v.IsBare →
      Garbled known ms

/-- Fields with meanings that no bare value has are not made of garbled members. -/
theorem Garbled.exists_field {known : List String} {ms : List (String × Value)}
    (h : Garbled known ms) :
    ∃ name ∈ known, ∀ {α : Type} {meaning : Value → Option α} {default : α},
      (∀ v : Value, v.IsBare → meaning v = none) →
        field? meaning default (given name ms) = none := by
  obtain ⟨hname, htwice⟩ | ⟨hname, hmem, hbare⟩ := h
  · exact ⟨_, hname, fun _ => field?_of_two_le htwice⟩
  · exact ⟨_, hname, fun hnone => field?_of_mem (mem_given.2 hmem) (hnone _ hbare)⟩

end AmountPad.Json
