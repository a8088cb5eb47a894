import Mathlib
import AmountPad.Json.Reader
import AmountPad.Proofs.Json.Token

/-!
# Readers of written values

A reader that belongs to a way of writing values takes the tokens of a written value from the front
of a list, gives the value back, and leaves the tokens behind it alone. Readers of lists and of
objects belong to the writing of lists and objects if those of their items and members do.

* `Reader.Reads` — a reader gives back what is written;
* `Reader.Takes` — the steps of an object's reader take its members one after the other.

Main results:

* `Reader.Reads.list` — lists of what is given back are given back;
* `Reader.members_of_takes` — an object is read by the steps of its members;
* `Reader.roundTrips_of_tokens` — a text of a value, in either way of writing it, gives it back.
-/

namespace AmountPad.Json.Reader

variable {α σ : Type}

/-- Whether a reader gives back the values that are written as nodes. -/
def Reads (reader : Reader α) (node : α → Node) : Prop :=
  ∀ a ts, reader ((node a).tokens ++ ts) = .ok (a, ts)

theorem reads_text (expected : String) : Reads (text expected) Node.text := by
  intro s ts
  rw [Node.tokens, List.singleton_append, text, QuotedText.decode_of]
  rfl

/-- A choice that is written by its name is given back by a reader that knows the name. -/
theorem reads_variant {choices : List (String × α)} {name : α → String}
    (h : ∀ a, choices.lookup (name a) = some a) :
    Reads (variant choices) fun a => .text (name a) := by
  intro a ts
  rw [Node.tokens, List.singleton_append, variant, QuotedText.decode_of]
  simp only [bind, Except.bind, choose, h a]
  rfl

/-- The value of a member is read behind its colon. -/
theorem Reads.member {reader : Reader α} {node : α → Node} (h : Reads reader node) (a : α)
    (ts : List Token) : member reader (.colon :: ((node a).tokens ++ ts)) = .ok (a, ts) := h a ts

/-! ## Lists -/

/-- Behind the comma, if there is one, stands the next item. -/
theorem nextItem?_of_tokens (first : Bool) (n : Node) (ts : List Token) :
    nextItem? first ((if first then [] else [.comma]) ++ (n.tokens ++ ts)) =
      .ok (some (n.tokens ++ ts)) := by
  cases first <;> cases n <;> rfl

/-- A reader of items that may take more of them than there are takes them all. -/
theorem Reads.items {item : Reader α} {node : α → Node} (h : Reads item node) (as : List α)
    (first : Bool) (ts : List Token) {bound : Nat} (hb : as.length < bound) :
    items item bound first (itemTokens first (as.map node) ++ .closeList :: ts) = .ok (as, ts) := by
  induction as generalizing first bound with
  | nil =>
    obtain ⟨bound, rfl⟩ := Nat.exists_eq_succ_of_ne_zero (Nat.ne_of_gt hb)
    rfl
  | cons a as ih =>
    obtain ⟨bound, rfl⟩ := Nat.exists_eq_succ_of_ne_zero (Nat.ne_of_gt (Nat.zero_lt_of_lt hb))
    rw [List.map_cons, itemTokens, List.append_assoc, List.append_assoc, Reader.items,
      nextItem?_of_tokens]
    simp only [bind, Except.bind, h a]
    rw [ih false (Nat.lt_of_succ_lt_succ hb)]
    rfl

/-- There are at least as many tokens as items, so that the tokens bound the reader's steps. -/
theorem length_le_itemTokens (first : Bool) (items : List Node) :
    items.length ≤ (itemTokens first items).length := by
  induction items generalizing first with
  | nil => exact Nat.le_refl 0
  | cons n items ih =>
    -- every item has a token
    have hn : 1 ≤ n.tokens.length := by cases n <;> simp [Node.tokens]
    have := ih false
    simp only [itemTokens, List.length_append, List.length_cons]
    omega

/-- Lists of what is given back are given back. -/
theorem Reads.list {item : Reader α} {node : α → Node} (h : Reads item node) :
    Reads (list item) fun as => .list (as.map node) := by
  intro as ts
  have hlength := length_le_itemTokens true (as.map node)
  rw [List.length_map] at hlength
  rw [Node.tokens, List.cons_append, Reader.list, List.append_assoc, List.singleton_append]
  refine h.items as true ts ?_
  rw [List.length_append]
  omega

/-! ## Objects -/

/-- How the steps of an object's reader take its members, from what is known before them to what is
known behind them. -/
inductive Takes (has : σ → String → Bool) (step : σ → String → Reader σ) :
    σ → List (String × Node) → σ → Prop
  | nil (s : σ) : Takes has step s [] s
  | cons {s s'' : σ} {name : String} {n : Node} {rest : List (String × Node)} (s' : σ) :
    has s name = false → (∀ ts, step s name (.colon :: (n.tokens ++ ts)) = .ok (s', ts)) →
      Takes has step s' rest s'' → Takes has step s ((name, n) :: rest) s''

/-- Behind the comma, if there is one, stands the name of the next member. -/
theorem nextName?_of_tokens (first : Bool) (name : String) (ts : List Token) :
    nextName? first ((if first then [] else [.comma]) ++ .text (.of name) :: ts) =
      .ok (some (name, ts)) := by
  cases first <;> simp [nextName?, QuotedText.decode_of, bind, Except.bind, pure, Except.pure]

/-- A reader of members that may take more of them than there are takes them all. -/
theorem members_of_takes {has : σ → String → Bool} {step : σ → String → Reader σ} {s s' : σ}
    {ms : List (String × Node)} (h : Takes has step s ms s') (first : Bool) (ts : List Token)
    {bound : Nat} (hb : ms.length < bound) :
    members has step bound first s (memberTokens first ms ++ .closeObject :: ts) = .ok (s', ts) := by
  induction h generalizing first bound with
  | nil s =>
    obtain ⟨bound, rfl⟩ := Nat.exists_eq_succ_of_ne_zero (Nat.ne_of_gt hb)
    rfl
  | cons s' hfresh hstep _ ih =>
    obtain ⟨bound, rfl⟩ := Nat.exists_eq_succ_of_ne_zero (Nat.ne_of_gt (Nat.zero_lt_of_lt hb))
    rw [memberTokens, List.append_assoc, List.append_assoc, List.cons_append, Reader.members,
      nextName?_of_tokens]
    simp only [bind, Except.bind, hfresh, Bool.false_eq_true, if_false, List.cons_append, hstep]
    exact ih false (Nat.lt_of_succ_lt_succ hb)

theorem length_le_memberTokens (first : Bool) (ms : List (String × Node)) :
    ms.length ≤ (memberTokens first ms).length := by
  induction ms generalizing first with
  | nil => exact Nat.le_refl 0
  | cons m ms ih =>
    obtain ⟨name, n⟩ := m
    have := ih false
    simp only [memberTokens, List.length_append, List.length_cons]
    omega

/-- The members of an object, as its reader takes them behind the opening bracket. -/
theorem Takes.members {has : σ → String → Bool} {step : σ → String → Reader σ} {s s' : σ}
    {ms : List (String × Node)} (h : Takes has step s ms s') (ts : List Token) :
    let inside := memberTokens true ms ++ .closeObject :: ts
    members has step (inside.length + 1) true s inside = .ok (s', ts) := by
  have hlength := length_le_memberTokens true ms
  refine members_of_takes h true ts ?_
  rw [List.length_append]
  omega

/-! ## Whole texts -/

/-- Whether texts of a value give it back, in either way of writing it. -/
def RoundTrips (ofText : String → Except Fault α) (n : Node) (a : α) : Prop :=
  ofText (String.ofList n.compact) = .ok a ∧ ofText (String.ofList (n.pretty 0)) = .ok a

/-- A reader that takes the tokens of a node reads its texts. -/
theorem roundTrips_of_tokens {reader : Reader α} {n : Node} {a : α}
    (h : ∀ ts, reader (n.tokens ++ ts) = .ok (a, ts)) : RoundTrips (ofText reader) n a := by
  have hcompact := tokens_compact n []
  have hpretty := tokens_pretty 0 n []
  rw [List.append_nil, tokens_nil] at hcompact hpretty
  constructor
  · rw [ofText, String.toList_ofList, hcompact, h]
    rfl
  · rw [ofText, String.toList_ofList, hpretty, h]
    rfl

end AmountPad.Json.Reader
