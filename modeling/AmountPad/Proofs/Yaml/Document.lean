import Mathlib
import AmountPad.Proofs.Yaml.Event

/-!
# Documents of written texts

The one document of a text holds the items of the value that was written, and nothing else.

* `Machine.entering` — the machine in front of the value of a document.

Main results:

* `Document.collect_of_emits` — items whose events are given are items of the document;
* `Document.ofEvents_of_emits` — a value that is read to the end of the text is the document;
* `Document.ofText_write` — the document of a mapping that is written.
-/

namespace AmountPad.Yaml

open Json (Node)

/-! ## Numbers of items -/

mutual

/-- No more than two items come from each symbol. -/
theorem length_parts_le : ∀ n : Node, (parts n).length ≤ 2 * (symbols n).length
  | .text s => by simp [parts, symbols]
  | .list [] => by simp [parts, itemParts, symbols]
  | .list (n :: ns) => by
    have := length_itemParts_le (n :: ns)
    simp only [parts, symbols, List.length_cons, List.length_append, List.length_nil]
    omega
  | .object [] => by simp [parts, memberParts, symbols]
  | .object (m :: ms) => by
    have := length_memberParts_le (m :: ms)
    simp only [parts, symbols, List.length_cons, List.length_append, List.length_nil]
    omega

/-- Entries of a sequence have at most two items for each symbol. -/
theorem length_itemParts_le : ∀ ns : List Node,
    (itemParts ns).length + ns.length ≤ 2 * (itemSymbols ns).length
  | [] => by simp [itemParts]
  | n :: ns => by
    have := length_parts_le n
    have := length_itemParts_le ns
    simp only [itemParts, itemSymbols, List.length_cons, List.length_append]
    omega

/-- The value of a member has at most two items for each symbol, and one more where its symbols have
no start of their own. -/
theorem length_valueParts_le : ∀ n : Node, (parts n).length ≤ 2 * (valueSymbols n).length + 1
  | .text s => by simp [parts, valueSymbols]
  | .list [] => by simp [parts, itemParts, valueSymbols]
  | .list (n :: ns) => by
    have := length_itemParts_le (n :: ns)
    simp only [parts, valueSymbols, List.length_cons, List.length_append, List.length_nil] at *
    omega
  | .object [] => by simp [parts, memberParts, valueSymbols]
  | .object (m :: ms) => by
    have := length_memberParts_le (m :: ms)
    simp only [parts, valueSymbols, List.length_cons, List.length_append, List.length_nil]
    omega

/-- Members of a mapping have at most two items for each symbol. -/
theorem length_memberParts_le : ∀ ms : List (String × Node),
    (memberParts ms).length ≤ 2 * (memberSymbols ms).length
  | [] => by simp [memberParts]
  | (name, n) :: ms => by
    have := length_valueParts_le n
    have := length_memberParts_le ms
    simp only [memberParts, memberSymbols, List.length_cons, List.length_append]
    omega

end

/-- The machine in front of the value of a document. -/
def Machine.entering (ts : List Token) : Machine :=
  { tokens := ts, fault := none, stage := .blockNode, returns := [.documentEnd]
    handles := defaultHandles }

namespace Document

/-- Items whose events are given are items of the document. -/
theorem collect_of_emits {m m' : Machine} {xs : List Item} (h : m.Emits xs m')
    (fault : Option Fault) (position : Nat) (a : Anchors) (bound : Nat) :
    ∃ is : Items, is.map Prod.fst = xs ∧
      (EventList.run (xs.length + bound) m).fault = (EventList.run bound m').fault ∧
      collect fault position a (EventList.run (xs.length + bound) m).events =
        let d := collect fault (position + xs.length) a (EventList.run bound m').events
        { d with items := is ++ d.items } := by
  -- every step of the run is one event, and one item at the next position
  induction h generalizing position with
  | refl m => exact ⟨[], rfl, by simp, by simp⟩
  | @step m m' m'' e mark x xs hstep hshows _ ih =>
    obtain ⟨is, his, hfault, hcollect⟩ := ih (position + 1)
    have hrun : EventList.run ((x :: xs).length + bound) m =
        ⟨(e, mark) :: (EventList.run (xs.length + bound) m').events,
          (EventList.run (xs.length + bound) m').fault⟩ := by
      rw [List.length_cons, Nat.add_right_comm, EventList.run, hstep]
      cases hshows <;> rfl
    refine ⟨(x, mark) :: is, by rw [List.map_cons, his], by rw [hrun]; exact hfault, ?_⟩
    have hposition : position + 1 + xs.length = position + (x :: xs).length := by
      rw [List.length_cons]
      omega
    rw [hposition] at hcollect
    rw [hrun]
    cases hshows <;> simp only [collect, Anchors.note, hcollect, cons, List.cons_append]

/-- A mapping that is read to the end of the text is the document. -/
theorem ofEvents_of_emits {t u : Token} {ts : List Token} {xs : List Item}
    (ht : t.symbol = .blockMappingStart) (hu : u.symbol = .textEnd)
    (h : (Machine.entering (t :: ts)).Emits xs
      { (Machine.entering (t :: ts)).return? with tokens := [u] })
    (hlength : xs.length ≤ 8 * (t :: ts).length) :
    ∃ is : Items, ofEvents (EventList.ofTokens ⟨t :: ts, none⟩) = ⟨is, [], none, false⟩ ∧
      is.map Prod.fst = xs := by
  let start : Machine := { tokens := t :: ts, fault := none }
  let ending : Machine := { (Machine.entering (t :: ts)).return? with tokens := [u] }
  let last : Machine := { ending with stage := .documentStart, handles := [] }
  have hstart : start.step = .ok (.documentStart, t.start, .entering (t :: ts)) := by
    simp [start, Machine.entering, Machine.step, Machine.documentStart, Machine.peek, ht,
      Machine.withDefaults, bind, Except.bind, pure, Except.pure]
  have hending : ending.step = .ok (.documentEnd, u.start, last) := by
    simp [ending, last, Machine.entering, Machine.return?, Machine.step, Machine.documentEnd,
      Machine.peek, hu, bind, Except.bind, pure, Except.pure]
  have hlast : last.step = .ok (.textEnd, u.start, { last with stage := .done }) := by
    simp [ending, last, Machine.entering, Machine.return?, Machine.step, Machine.documentStart,
      Machine.peek, hu, bind, Except.bind, pure, Except.pure]
  -- the events around the value are the start of the document, its end and the end of the text
  obtain ⟨bound, hbound⟩ : ∃ bound, 8 * (t :: ts).length + 8 = xs.length + (bound + 2) + 1 :=
    ⟨8 * (t :: ts).length + 5 - xs.length, by omega⟩
  have hend : EventList.run (bound + 2) ending =
      ⟨[(.documentEnd, u.start), (.textEnd, u.start)], none⟩ := by
    simp only [EventList.run, hending, hlast]
  obtain ⟨is, his, hfault, hcollect⟩ := collect_of_emits h none 0 {} (bound + 2)
  rw [hend] at hfault hcollect
  have hrun : EventList.ofTokens ⟨t :: ts, none⟩ = ⟨(.documentStart, t.start) ::
      (EventList.run (xs.length + (bound + 2)) (.entering (t :: ts))).events, none⟩ := by
    show EventList.run (8 * (t :: ts).length + 8) start = _
    rw [hbound, EventList.run, hstart]
    simp only [hfault]
  refine ⟨is, ?_, his⟩
  rw [ofEvents, hrun]
  simp only [collect, hcollect, goesOn, List.append_nil]

/-- The document of a mapping that is written. -/
theorem ofText_write {m : String × Node} {ms : List (String × Node)}
    (h : MembersHaveNames (m :: ms)) :
    ∃ is : Items, ofText (Writer.write (.object (m :: ms))) = ⟨is, [], none, false⟩ ∧
      is.map Prod.fst = parts (.object (m :: ms)) := by
  obtain ⟨ts, htokens, hts⟩ := TokenList.ofText_write h
  obtain ⟨t, ts, rfl, ht, -⟩ := Machine.exists_cons_of_map (x := .blockMappingStart) hts
  obtain ⟨us, hus, hbegins⟩ :=
    Machine.nodeRead (.object (m :: ms)) (m := .entering (t :: ts)) false hts
  obtain ⟨u, us, rfl, hu, hnil⟩ := Machine.exists_cons_of_map hus
  obtain rfl : us = [] := List.map_eq_nil_iff.mp hnil
  -- the bound allows eight items for each token, and a value has far fewer
  have hlength : (parts (.object (m :: ms))).length ≤ 8 * (t :: ts).length := by
    have hparts := length_parts_le (.object (m :: ms))
    have hsymbols := congrArg List.length hts
    rw [List.length_map, List.length_append] at hsymbols
    omega
  rw [ofText, EventList.ofText, htokens]
  exact ofEvents_of_emits ht hu (hbegins.emits rfl) hlength

end Document

end AmountPad.Yaml
