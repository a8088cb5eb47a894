import Mathlib
import AmountPad.Proofs.Yaml.Text
import AmountPad.Yaml.Document

/-!
# Events of a written value

The machine that reads events out of tokens gives those of a value one after the other, and comes
out at the place to which it was to return. A value takes part in a document as a list of items.

* `parts` — the items of a value;
* `Machine.Emits` — a machine gives the events of some items on its way to another one.

Main results:

* `Machine.nodeRead`, `Machine.valueRead` — the symbols of a value give its items;
* `Document.collect_of_emits` — items that were given are items of the document.
-/

namespace AmountPad.Yaml

open Json (Node)

/-! ## Items -/

mutual

/-- The items of a value. -/
def parts : Node → List Item
  | .text s => [.scalar none s (Writer.styleOf s)]
  | .list ns => .sequenceStart none :: (itemParts ns ++ [.sequenceEnd])
  | .object ms => .mappingStart none :: (memberParts ms ++ [.mappingEnd])

def itemParts : List Node → List Item
  | [] => []
  | n :: rest => parts n ++ itemParts rest

def memberParts : List (String × Node) → List Item
  | [] => []
  | (name, n) :: rest => .scalar none name .plain :: (parts n ++ memberParts rest)

end

/-- The event that an item without anchor comes from. -/
inductive Shows : Event → Item → Prop
  | scalar (tag : Option Tag) (text : String) (style : Style) :
    Shows (.scalar none tag text style) (.scalar tag text style)
  | sequenceStart (tag : Option Tag) : Shows (.sequenceStart none tag) (.sequenceStart tag)
  | sequenceEnd : Shows .sequenceEnd .sequenceEnd
  | mappingStart (tag : Option Tag) : Shows (.mappingStart none tag) (.mappingStart tag)
  | mappingEnd : Shows .mappingEnd .mappingEnd

namespace Machine

/-! ## Runs -/

/-- A run in which the events of items are given. -/
inductive Emits : Machine → List Item → Machine → Prop
  | refl (m : Machine) : Emits m [] m
  | step {m m' m'' : Machine} {e : Event} {mark : Mark} {x : Item} {xs : List Item} :
    m.step = .ok (e, mark, m') → Shows e x → Emits m' xs m'' → Emits m (x :: xs) m''

/-- What two stretches of steps emit is emitted by both together. -/
theorem Emits.trans {m m' m'' : Machine} {xs ys : List Item} (h : Emits m xs m')
    (h' : Emits m' ys m'') : Emits m (xs ++ ys) m'' := by
  induction h with
  | refl => exact h'
  | step hstep hshows _ ih => exact .step hstep hshows (ih h')

/-- Whether a step gives the first of some items, and the machine goes on to give the others. -/
def Begins (s : Step) (xs : List Item) (m : Machine) : Prop :=
  ∃ e mark next x rest, s = .ok (e, mark, next) ∧ Shows e x ∧ xs = x :: rest ∧ Emits next rest m

section

variable {m m' : Machine} {s : Step} {xs ys : List Item}

theorem Begins.emits (h : Begins s xs m') (hstep : m.step = s) : Emits m xs m' := by
  obtain ⟨e, mark, next, x, rest, hs, hshows, rfl, hrest⟩ := h
  exact .step (hstep.trans hs) hshows hrest

theorem begins_of_emits {e : Event} {mark : Mark} {x : Item} (hs : s = .ok (e, mark, m))
    (hshows : Shows e x) (h : Emits m xs m') : Begins s (x :: xs) m' :=
  ⟨e, mark, m, x, xs, hs, hshows, rfl, h⟩

/-! ## First events of nodes -/

variable {t : Token} {ts : List Token} {indentless : Bool}

/-- To take a token and to go back to the stage before can be done in either order. -/
theorem drop_return? (h : m.tokens = t :: ts) : m.return?.drop = { m.return? with tokens := ts } := by
  unfold drop return?
  cases m.returns <;> simp [h]

/-- Where a node may stand, a scalar is an event of its own, and the stage before is gone back to.
-/
theorem node_scalar {text : String} {style : Style} (h : m.tokens = t :: ts)
    (ht : t.symbol = .scalar text style) :
    m.node true indentless =
      .ok (.scalar none none text style, t.start, { m.return? with tokens := ts }) := by
  rw [← drop_return? h]
  simp [node, peek, h, ht, properties, resolveTag, bind, Except.bind, pure, Except.pure]

/-- The symbols that open a collection, with its first event and the stage at which it is read. -/
inductive Opens : Bool → Symbol → Event → Stage → Prop
  | blockSequence (b : Bool) :
    Opens b .blockSequenceStart (.sequenceStart none none) (.blockSequence true)
  | blockMapping (b : Bool) : Opens b .blockMappingStart (.mappingStart none none) (.blockKey true)
  | flowSequence (b : Bool) :
    Opens b .flowSequenceStart (.sequenceStart none none) (.flowSequence true)
  | flowMapping (b : Bool) : Opens b .flowMappingStart (.mappingStart none none) (.flowKey true)
  | indentless : Opens true .blockEntry (.sequenceStart none none) .indentless

/-- Where a node may stand, the start of a collection is an event, and the stage is that of its
first entry. -/
theorem node_opens {e : Event} {stage : Stage} (h : m.tokens = t :: ts)
    (ht : Opens indentless t.symbol e stage) :
    m.node true indentless = .ok (e, t.start, { m with stage := stage }) := by
  obtain ⟨symbol, start, stop⟩ := t
  cases ht <;> simp [node, peek, h, properties, resolveTag, bind, Except.bind, pure, Except.pure]

/-- The stage of a machine does not matter to a node from which it is to return. -/
theorem nodeThen_stage (m : Machine) (stage next : Stage) (block indentless : Bool) :
    ({ m with stage := stage } : Machine).nodeThen next block indentless =
      m.nodeThen next block indentless := by
  -- a node with properties looks at the token behind them, any other at its own
  obtain ⟨tokens, fault, stage', returns, opened, handles⟩ := m
  rcases tokens with _ | ⟨⟨symbol, start, stop⟩, tokens⟩
  · rfl
  · cases symbol with
    | anchor name =>
      rcases tokens with _ | ⟨⟨symbol, start, stop⟩, tokens⟩
      · rfl
      · cases symbol <;> rfl
    | tag handle suffix =>
      rcases tokens with _ | ⟨⟨symbol, start, stop⟩, tokens⟩
      · rfl
      · cases symbol <;> rfl
    | _ => rfl

/-! ## Sequences -/

/-- Whether a node is read up to what follows it, where a collection is not opened twice. -/
def NodeRead (n : Node) : Prop :=
  ∀ {m : Machine} {rest : List Symbol} (indentless : Bool),
    m.tokens.map Token.symbol = symbols n ++ rest →
    ∃ ts, ts.map Token.symbol = rest ∧
      Begins (m.node true indentless) (parts n) { m.return? with tokens := ts }

/-- Whether items are read at a stage up to what follows them. -/
def ItemsRead (ns : List Node) : Prop :=
  ∀ {m : Machine} {rest : List Symbol},
    m.tokens.map Token.symbol = itemSymbols ns ++ rest →
    m.stage = .blockSequence false ∨ m.stage = .indentless →
    ∃ ts, ts.map Token.symbol = rest ∧ Emits m (itemParts ns) { m with tokens := ts }

theorem exists_cons_of_map {x : Symbol} {rest : List Symbol} {ts : List Token}
    (h : ts.map Token.symbol = x :: rest) :
    ∃ t ts', ts = t :: ts' ∧ t.symbol = x ∧ ts'.map Token.symbol = rest := by
  obtain ⟨t, ts', rfl, ht, hts⟩ := List.map_eq_cons_iff.mp h
  exact ⟨t, ts', rfl, ht, hts⟩

/-- The first symbol of a node ends no entry. -/
theorem exists_symbols (n : Node) :
    ∃ x rest, symbols n = x :: rest ∧ x ≠ .blockEntry ∧ endsBlockPart x = false := by
  match n with
  | .text s => exact ⟨_, _, rfl, nofun, rfl⟩
  | .list [] => exact ⟨_, _, rfl, nofun, rfl⟩
  | .list (n :: ns) => exact ⟨_, _, rfl, nofun, rfl⟩
  | .object [] => exact ⟨_, _, rfl, nofun, rfl⟩
  | .object (m :: ms) => exact ⟨_, _, rfl, nofun, rfl⟩

/-- A dash leads to the node behind it. -/
theorem step_entry {x : Symbol} {rest : List Symbol}
    (h : m.tokens.map Token.symbol = .blockEntry :: x :: rest) (hx : x ≠ .blockEntry)
    (hends : endsBlockPart x = false)
    (hstage : m.stage = .blockSequence false ∨ m.stage = .indentless) :
    m.step = m.drop.nodeThen m.stage true false := by
  obtain ⟨t, ts, ht, htx, hts⟩ := exists_cons_of_map h
  obtain ⟨u, us, rfl, rfl, -⟩ := exists_cons_of_map hts
  have hend : u.symbol ≠ .blockEnd := fun heq => by simp [heq, endsBlockPart] at hends
  obtain hstage | hstage := hstage
  · simp [step, hstage, blockSequence, opening, peek, ht, htx, drop, hx, hend, bind, Except.bind,
      pure, Except.pure]
  · simp [step, hstage, Machine.indentless, peek, ht, htx, drop, hx, hends, bind, Except.bind]

theorem itemsRead_nil : ItemsRead [] := by
  intro m rest h _
  exact ⟨m.tokens, h, .refl m⟩

/-- The entries of a sequence are read if the first one is and the others are. -/
theorem itemsRead_cons {n : Node} {ns : List Node} (hread : NodeRead n) (hreads : ItemsRead ns) :
    ItemsRead (n :: ns) := by
  intro m rest h hstage
  obtain ⟨x, more, hn, hx, hends⟩ := exists_symbols n
  have htokens : m.tokens.map Token.symbol =
      .blockEntry :: x :: (more ++ (itemSymbols ns ++ rest)) := by
    rw [h, itemSymbols, hn]
    simp
  -- the dash takes no event of its own: the first one behind it is that of the node
  have hstep := step_entry htokens hx hends hstage
  obtain ⟨t, ts, ht, -, hts⟩ := exists_cons_of_map htokens
  have hbehind : ts.map Token.symbol = symbols n ++ (itemSymbols ns ++ rest) := by
    rw [hts, hn]
    rfl
  have hdrop : m.drop = { m with tokens := ts } := by simp [drop, ht]
  rw [nodeThen, hdrop] at hstep
  obtain ⟨ts', hts', hbegins⟩ :=
    hread (m := { m with tokens := ts, returns := m.stage :: m.returns }) false hbehind
  have hemits : Emits m (parts n) { m with tokens := ts' } := hbegins.emits hstep
  obtain ⟨ts'', hts'', hemits'⟩ := hreads (m := { m with tokens := ts' }) hts' hstage
  exact ⟨ts'', hts'', hemits.trans hemits'⟩

theorem nodeRead_text (s : String) : NodeRead (.text s) := by
  intro m rest indentless h
  obtain ⟨t, ts, ht, htx, hts⟩ := exists_cons_of_map h
  exact ⟨ts, hts, begins_of_emits (node_scalar ht htx) (.scalar _ _ _) (.refl _)⟩

/-- At the end of a collection its token is taken, its mark is forgotten and the stage before is
gone back to. -/
theorem closing_eq (h : m.tokens = t :: ts) (e : Event) (mark : Mark) :
    m.closing e mark =
      .ok (e, mark, { m.return? with tokens := ts, opened := m.opened.drop 1 }) := by
  rw [closing, drop_return? h]

/-- Two machines that take the same next step emit the same. -/
theorem Emits.of_step {next : Machine} (hstep : m.step = next.step) (hne : xs ≠ [])
    (h : Emits next xs m') : Emits m xs m' := by
  cases h with
  | refl => exact absurd rfl hne
  | step hnext hshows hrest => exact .step (hstep.trans hnext) hshows hrest

/-- A machine inside a collection. -/
def within (m : Machine) (stage : Stage) (mark : Mark) (ts : List Token) : Machine :=
  { m with tokens := ts, stage := stage, opened := mark :: m.opened }

/-- A block collection gives what is inside it between its start and its end. -/
theorem begins_block {u : Token} {us : List Token} {e e' : Event} {first last : Item}
    {stage inner : Stage} (h : m.tokens = t :: ts) (hopens : Opens indentless t.symbol e stage)
    (hfirst : ({ m with stage := stage } : Machine).step = (m.within inner t.start ts).step)
    (hemits : Emits (m.within inner t.start ts) xs (m.within inner t.start (u :: us)))
    (hlast : (m.within inner t.start (u :: us)).step =
      (m.within inner t.start (u :: us)).closing e' u.start)
    (hshows : Shows e first) (hshows' : Shows e' last) :
    Begins (m.node true indentless) (first :: (xs ++ [last])) { m.return? with tokens := us } := by
  -- the end takes back what the start has put on the stacks
  have hreturn : ({ (m.within inner t.start (u :: us)).return? with
      tokens := us, opened := (m.within inner t.start (u :: us)).opened.drop 1 } : Machine) =
      { m.return? with tokens := us } := by
    unfold return? within
    cases m.returns <;> rfl
  rw [closing_eq rfl, hreturn] at hlast
  have hend := hemits.trans (.step hlast hshows' (.refl _))
  exact begins_of_emits (node_opens h hopens) hshows (hend.of_step hfirst (by simp))

/-- The first item of a sequence is read like the others. -/
theorem step_firstEntry {x : Symbol} {rest : List Symbol} (h : m.tokens = t :: ts)
    (hts : ts.map Token.symbol = .blockEntry :: x :: rest) (hx : x ≠ .blockEntry)
    (hends : endsBlockPart x = false) :
    ({ m with stage := .blockSequence true } : Machine).step =
      (m.within (.blockSequence false) t.start ts).step := by
  obtain ⟨v, vs, rfl, hv, hvs⟩ := exists_cons_of_map hts
  obtain ⟨u, us, rfl, rfl, -⟩ := exists_cons_of_map hvs
  have hend : u.symbol ≠ .blockEnd := fun heq => by simp [heq, endsBlockPart] at hends
  -- both steps pass the dash; they differ in the stage that the machine is left in
  have hnext := step_entry (m := m.within (.blockSequence false) t.start (v :: u :: us)) hts hx hends
    (.inl rfl)
  have hfirst : ({ m with stage := .blockSequence true } : Machine).step =
      ({ m with tokens := u :: us, stage := .blockSequence true, opened := t.start :: m.opened } :
        Machine).nodeThen (.blockSequence false) true false := by
    simp [step, blockSequence, opening, peek, h, hv, drop, hx, hend, bind, Except.bind, pure,
      Except.pure]
  rw [hnext, hfirst]
  exact nodeThen_stage (m.within (.blockSequence false) t.start (u :: us)) _ _ _ _

/-- A sequence with entries is read if its entries are. -/
theorem nodeRead_list {n : Node} {ns : List Node} (hreads : ItemsRead (n :: ns)) :
    NodeRead (.list (n :: ns)) := by
  intro m rest indentless h
  have htokens : m.tokens.map Token.symbol =
      .blockSequenceStart :: (itemSymbols (n :: ns) ++ .blockEnd :: rest) := by
    rw [h, symbols]
    simp
  -- start, entries and end of the sequence are read one after the other
  obtain ⟨t, ts, ht, htx, hts⟩ := exists_cons_of_map htokens
  obtain ⟨ts', hts', hemits⟩ := hreads (m := m.within (.blockSequence false) t.start ts) hts (.inl rfl)
  obtain ⟨u, us, rfl, hu, hus⟩ := exists_cons_of_map hts'
  have hopens : Opens indentless t.symbol _ _ := htx ▸ Opens.blockSequence indentless
  refine ⟨us, hus, begins_block ht hopens ?_ hemits ?_ (.sequenceStart none) .sequenceEnd⟩
  · obtain ⟨x, more, hn, hx, hends⟩ := exists_symbols n
    have hfirst : ts.map Token.symbol =
        .blockEntry :: x :: (more ++ (itemSymbols ns ++ .blockEnd :: rest)) := by
      rw [hts, itemSymbols, hn]
      simp
    exact step_firstEntry ht hfirst hx hends
  · simp [step, blockSequence, opening, within, peek, hu, bind, Except.bind, pure, Except.pure]

/-- An empty sequence is read, with its brackets, in two events. -/
theorem nodeRead_emptyList : NodeRead (.list []) := by
  intro m rest indentless h
  obtain ⟨t, ts, ht, htx, hts⟩ := exists_cons_of_map h
  obtain ⟨u, us, rfl, hu, hus⟩ := exists_cons_of_map hts
  have hopens : Opens indentless t.symbol _ _ := htx ▸ Opens.flowSequence indentless
  have hemits := Emits.refl (m.within (.flowSequence false) t.start (u :: us))
  refine ⟨us, hus, begins_block ht hopens ?_ hemits ?_ (.sequenceStart none) .sequenceEnd⟩
  · simp [step, flowSequence, opening, within, peek, ht, hu, drop, bind, Except.bind, pure,
      Except.pure, closing, return?]
  · simp [step, flowSequence, opening, within, peek, hu, bind, Except.bind, pure, Except.pure]

/-- An empty mapping is read, with its braces, in two events. -/
theorem nodeRead_emptyObject : NodeRead (.object []) := by
  intro m rest indentless h
  obtain ⟨t, ts, ht, htx, hts⟩ := exists_cons_of_map h
  obtain ⟨u, us, rfl, hu, hus⟩ := exists_cons_of_map hts
  have hopens : Opens indentless t.symbol _ _ := htx ▸ Opens.flowMapping indentless
  have hemits := Emits.refl (m.within (.flowKey false) t.start (u :: us))
  refine ⟨us, hus, begins_block ht hopens ?_ hemits ?_ (.mappingStart none) .mappingEnd⟩
  · simp [step, flowKey, opening, within, peek, ht, hu, drop, bind, Except.bind, pure, Except.pure,
      closing, return?]
  · simp [step, flowKey, opening, within, peek, hu, bind, Except.bind, pure, Except.pure]

/-! ## Mappings -/

/-- Whether the value of a member is read up to the next one, or to the end of the mapping. -/
def ValueRead (n : Node) : Prop :=
  ∀ {m : Machine} {x : Symbol} {rest : List Symbol},
    m.tokens.map Token.symbol = valueSymbols n ++ x :: rest → x ≠ .blockEntry →
    ∃ ts, ts.map Token.symbol = x :: rest ∧
      Begins (m.node true true) (parts n) { m.return? with tokens := ts }

/-- Whether members are read up to the end of their mapping. -/
def MembersRead (ms : List (String × Node)) : Prop :=
  ∀ {m : Machine} {rest : List Symbol},
    m.tokens.map Token.symbol = memberSymbols ms ++ .blockEnd :: rest →
    m.stage = .blockKey false →
    ∃ ts, ts.map Token.symbol = .blockEnd :: rest ∧
      Emits m (memberParts ms) { m with tokens := ts }

/-- The first symbol of a value ends no member. -/
theorem exists_valueSymbols (n : Node) :
    ∃ x rest, valueSymbols n = x :: rest ∧ endsBlockPart x = false := by
  match n with
  | .text s => exact ⟨_, _, rfl, rfl⟩
  | .list [] => exact ⟨_, _, rfl, rfl⟩
  | .list (n :: ns) => exact ⟨_, _, rfl, rfl⟩
  | .object [] => exact ⟨_, _, rfl, rfl⟩
  | .object (m :: ms) => exact ⟨_, _, rfl, rfl⟩

/-- Behind the token of a key its node is read, and the value is expected next. -/
theorem step_key {x : Symbol} {rest : List Symbol}
    (h : m.tokens.map Token.symbol = .key :: x :: rest) (hends : endsBlockPart x = false)
    (hstage : m.stage = .blockKey false) : m.step = m.drop.nodeThen .blockValue true true := by
  obtain ⟨t, ts, ht, htx, hts⟩ := exists_cons_of_map h
  obtain ⟨u, us, rfl, rfl, -⟩ := exists_cons_of_map hts
  simp [step, hstage, blockKey, opening, peek, ht, htx, drop, hends, bind, Except.bind, pure,
    Except.pure]

/-- Behind the token of a value its node is read, and the next key is expected. -/
theorem step_value {x : Symbol} {rest : List Symbol}
    (h : m.tokens.map Token.symbol = .value :: x :: rest) (hends : endsBlockPart x = false)
    (hstage : m.stage = .blockValue) : m.step = m.drop.nodeThen (.blockKey false) true true := by
  obtain ⟨t, ts, ht, htx, hts⟩ := exists_cons_of_map h
  obtain ⟨u, us, rfl, rfl, -⟩ := exists_cons_of_map hts
  simp [step, hstage, blockValue, peek, ht, htx, drop, hends, bind, Except.bind]

/-- The first member of a mapping is read like the others. -/
theorem step_firstKey {x : Symbol} {rest : List Symbol} (h : m.tokens = t :: ts)
    (hts : ts.map Token.symbol = .key :: x :: rest) (hends : endsBlockPart x = false) :
    ({ m with stage := .blockKey true } : Machine).step =
      (m.within (.blockKey false) t.start ts).step := by
  have hnext := step_key (m := m.within (.blockKey false) t.start ts) hts hends rfl
  obtain ⟨v, vs, rfl, hv, hvs⟩ := exists_cons_of_map hts
  obtain ⟨u, us, rfl, rfl, -⟩ := exists_cons_of_map hvs
  have hfirst : ({ m with stage := .blockKey true } : Machine).step =
      ({ m with tokens := u :: us, stage := .blockKey true, opened := t.start :: m.opened } :
        Machine).nodeThen .blockValue true true := by
    simp [step, blockKey, opening, peek, h, hv, drop, hends, bind, Except.bind, pure, Except.pure]
  rw [hnext, hfirst]
  exact nodeThen_stage (m.within (.blockKey false) t.start (u :: us)) _ _ _ _

/-- A mapping with members is read if its members are. -/
theorem nodeRead_object {name : String} {n : Node} {ms : List (String × Node)}
    (hreads : MembersRead ((name, n) :: ms)) : NodeRead (.object ((name, n) :: ms)) := by
  intro m rest indentless h
  have htokens : m.tokens.map Token.symbol =
      .blockMappingStart :: (memberSymbols ((name, n) :: ms) ++ .blockEnd :: rest) := by
    rw [h, symbols]
    simp
  -- start, members and end of the mapping are read one after the other
  obtain ⟨t, ts, ht, htx, hts⟩ := exists_cons_of_map htokens
  obtain ⟨ts', hts', hemits⟩ := hreads (m := m.within (.blockKey false) t.start ts) hts rfl
  obtain ⟨u, us, rfl, hu, hus⟩ := exists_cons_of_map hts'
  have hopens : Opens indentless t.symbol _ _ := htx ▸ Opens.blockMapping indentless
  refine ⟨us, hus, begins_block ht hopens ?_ hemits ?_ (.mappingStart none) .mappingEnd⟩
  · exact step_firstKey ht (x := .scalar name .plain) hts rfl
  · simp [step, blockKey, opening, within, peek, hu, bind, Except.bind, pure, Except.pure]

theorem membersRead_nil : MembersRead [] := by
  intro m rest h _
  exact ⟨m.tokens, h, .refl m⟩

/-- Behind a member comes another one, or the end of the mapping. -/
theorem exists_memberSymbols (ms : List (String × Node)) (rest : List Symbol) :
    ∃ x more, memberSymbols ms ++ .blockEnd :: rest = x :: more ∧ x ≠ .blockEntry := by
  cases ms with
  | nil => exact ⟨_, _, rfl, nofun⟩
  | cons m ms => exact ⟨_, _, rfl, nofun⟩

/-- The members of a mapping are read if the value of the first one is and the others are. -/
theorem membersRead_cons {name : String} {n : Node} {ms : List (String × Node)}
    (hread : ValueRead n) (hreads : MembersRead ms) : MembersRead ((name, n) :: ms) := by
  intro m rest h hstage
  -- the key
  have hkey := step_key (x := .scalar name .plain) h rfl hstage
  obtain ⟨t, ts, ht, -, hts⟩ := exists_cons_of_map (x := .key) h
  obtain ⟨u, us, rfl, hu, hus⟩ := exists_cons_of_map (x := .scalar name .plain) hts
  have hname : m.step = .ok (.scalar none none name .plain, u.start,
      { m with tokens := us, stage := .blockValue }) := by
    have hdrop : m.drop = { m with tokens := u :: us } := by simp [drop, ht]
    rw [hkey, nodeThen, hdrop]
    exact node_scalar rfl hu
  -- the value
  obtain ⟨x, more, hn, hends⟩ := exists_valueSymbols n
  have hvalue : us.map Token.symbol =
      .value :: x :: (more ++ (memberSymbols ms ++ .blockEnd :: rest)) := by
    rw [hus, hn]
    simp
  have hstep := step_value (m := { m with tokens := us, stage := .blockValue }) hvalue hends rfl
  obtain ⟨v, vs, rfl, -, hvs⟩ := exists_cons_of_map hvalue
  obtain ⟨y, ys, hbehind, hy⟩ := exists_memberSymbols ms rest
  have hfollows : vs.map Token.symbol = valueSymbols n ++ y :: ys := by
    rw [hvs, ← hbehind, hn]
    rfl
  let behind : Machine :=
    { m with tokens := vs, stage := .blockValue, returns := .blockKey false :: m.returns }
  obtain ⟨ts', hts', hbegins⟩ := hread (m := behind) hfollows hy
  rw [← hbehind] at hts'
  have hemits : Emits { m with tokens := v :: vs, stage := .blockValue } (parts n)
      { m with tokens := ts' } := by
    have hsame : ({ m with tokens := ts' } : Machine) =
        { m with tokens := ts', stage := .blockKey false } := by rw [← hstage]
    rw [hsame]
    exact hbegins.emits hstep
  -- the members below
  obtain ⟨ts'', hts'', hemits'⟩ := hreads (m := { m with tokens := ts' }) hts' hstage
  exact ⟨ts'', hts'', .step hname (.scalar _ _ _) (hemits.trans hemits')⟩

/-- Most values are read like items. -/
theorem valueRead_of_nodeRead {n : Node} (h : NodeRead n) (hsymbols : valueSymbols n = symbols n) :
    ValueRead n := by
  intro m x rest htokens _
  rw [hsymbols] at htokens
  exact h true htokens

/-- A sequence that is not indented ends where no dash follows. -/
theorem valueRead_list {n : Node} {ns : List Node} (hreads : ItemsRead (n :: ns)) :
    ValueRead (.list (n :: ns)) := by
  intro m x rest h hx
  obtain ⟨t, ts, ht, htx, -⟩ := exists_cons_of_map (x := .blockEntry) h
  let entered : Machine := { m with stage := .indentless }
  obtain ⟨ts', hts', hemits⟩ := hreads (m := entered) h (.inr rfl)
  obtain ⟨u, us, rfl, rfl, -⟩ := exists_cons_of_map hts'
  -- the symbol that ends the sequence belongs to what is around it and is left there
  have hlast : ({ entered with tokens := u :: us } : Machine).step =
      .ok (.sequenceEnd, u.start, { m.return? with tokens := u :: us }) := by
    have hreturn : ({ entered with tokens := u :: us } : Machine).return? =
        { m.return? with tokens := u :: us } := by
      unfold return?
      cases m.returns <;> simp [entered]
    rw [← hreturn]
    simp [step, entered, Machine.indentless, peek, bind, Except.bind, pure, Except.pure]
  have hopens : Opens true t.symbol _ _ := htx ▸ Opens.indentless
  exact ⟨u :: us, hts', begins_of_emits (node_opens ht hopens) (.sequenceStart none)
    (hemits.trans (.step hlast .sequenceEnd (.refl _)))⟩

end

/-! ## All values -/

mutual

/-- **Every node is read** by the events it stands for. -/
theorem nodeRead : ∀ n : Node, NodeRead n
  | .text s => nodeRead_text s
  | .list [] => nodeRead_emptyList
  | .list (n :: ns) => nodeRead_list (itemsRead_cons (nodeRead n) (itemsRead ns))
  | .object [] => nodeRead_emptyObject
  | .object ((_, n) :: ms) => nodeRead_object (membersRead_cons (valueRead n) (membersRead ms))

theorem itemsRead : ∀ ns : List Node, ItemsRead ns
  | [] => itemsRead_nil
  | n :: ns => itemsRead_cons (nodeRead n) (itemsRead ns)

theorem valueRead : ∀ n : Node, ValueRead n
  | .text s => valueRead_of_nodeRead (nodeRead_text s) rfl
  | .list [] => valueRead_of_nodeRead nodeRead_emptyList rfl
  | .list (n :: ns) => valueRead_list (itemsRead_cons (nodeRead n) (itemsRead ns))
  | .object [] => valueRead_of_nodeRead nodeRead_emptyObject rfl
  | .object ((_, n) :: ms) =>
    valueRead_of_nodeRead (nodeRead_object (membersRead_cons (valueRead n) (membersRead ms))) rfl

theorem membersRead : ∀ ms : List (String × Node), MembersRead ms
  | [] => membersRead_nil
  | (_, n) :: ms => membersRead_cons (valueRead n) (membersRead ms)

end

end Machine

end AmountPad.Yaml
