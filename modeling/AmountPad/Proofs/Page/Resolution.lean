import Mathlib
import AmountPad.Proofs.Page.View

/-!
# What is found on a page, and what is missing

A pad looks for its parts by identifiers and a class that nobody has checked: several elements may
bear the same identifier, an element may be wanted for several parts, and an identifier may be
empty. This module says without any search which nodes are found, which failure is reported where
one is missing, and which button a node is.

* `Document.Bears`, `Document.Carries` — a node has an identifier, or a class;
* `Document.Lacks` — no node can be found by an identifier;
* `Document.FirstBearing` — a node is the first one with an identifier;
* `View.Missing` — the failure that a page without a part is due;
* `View.Finds` — a view has the parts of a page;
* `View.IsButton` — what a node of a view is.

Main results:

* `Document.byId?_eq_some_iff`, `Document.byId?_eq_none_iff` — what a search by identifier gives;
* `View.resolve_eq_error_iff` — a view is not resolved exactly if a part is missing;
* `View.finds_of_resolve` — and else it has found the parts;
* `View.button?_eq_iff` — one node is one button at most;
* `View.resolve_finds_or_misses` — all of it for every document that can be reached.
-/

namespace AmountPad.Page

namespace Document

variable {d : Document}

/-! ## Identifiers and classes -/

/-- A node of the document has an identifier. -/
def Bears (d : Document) (id : String) (h : Handle) : Prop :=
  ∃ e, d.element? h = some e ∧ e.id = id

/-- A node of the document has a class. -/
def Carries (d : Document) (name : String) (h : Handle) : Prop :=
  ∃ e, d.element? h = some e ∧ name ∈ e.classes

/-- Nothing can be found by an identifier: it is empty, or no node has it. -/
def Lacks (d : Document) (id : String) : Prop := id = "" ∨ ∀ h, ¬d.Bears id h

/-- A node is the first in document order that has an identifier which can be looked for. -/
def FirstBearing (d : Document) (id : String) (h : Handle) : Prop :=
  id ≠ "" ∧ d.Bears id h ∧
    ∃ before after, d.preorder root = before ++ h :: after ∧ ∀ x ∈ before, ¬d.Bears id x

/-- The test of a search by identifier says whether a node has it. -/
theorem any_id_iff {id : String} {h : Handle} :
    (d.element? h).any (·.id == id) = true ↔ d.Bears id h := by
  unfold Bears
  cases d.element? h <;> simp

theorem any_hasClass_iff {name : String} {h : Handle} :
    (d.element? h).any (·.hasClass name) = true ↔ d.Carries name h := by
  unfold Carries
  cases d.element? h <;> simp [Element.hasClass]

/-- Only nodes of the document have elements, and all of them stand in document order. -/
theorem mem_preorder_of_element? (hd : d.WellFormed) {h : Handle} {e : Element}
    (he : d.element? h = some e) : h ∈ d.preorder root :=
  mem_preorder_root hd (lt_size_of_element?_eq_some he)

/-- A node with an identifier stands in document order. -/
theorem mem_preorder_of_bears (hd : d.WellFormed) {id : String} {h : Handle}
    (hb : d.Bears id h) : h ∈ d.preorder root := by
  obtain ⟨e, he, -⟩ := hb
  exact mem_preorder_of_element? hd he

theorem mem_preorder_of_carries (hd : d.WellFormed) {className : String} {h : Handle}
    (hc : d.Carries className h) : h ∈ d.preorder root := by
  obtain ⟨e, he, -⟩ := hc
  exact mem_preorder_of_element? hd he

/-! ## Searches -/

/-- A search by identifier gives the first node that has it. -/
theorem byId?_eq_some_iff (hd : d.WellFormed) {id : String} {h : Handle} :
    d.byId? id = some h ↔ d.FirstBearing id h := by
  unfold byId? FirstBearing
  by_cases hid : id = ""
  · rw [if_pos hid]
    constructor
    · intro hh
      exact nomatch hh
    · rintro ⟨hne, -⟩
      exact absurd hid hne
  · -- the first hit of the search is the first node in document order
    rw [if_neg hid, order_eq_preorder hd, List.find?_eq_some_iff_append, any_id_iff]
    simp only [Bool.not_eq_true', ← Bool.not_eq_true, any_id_iff]
    constructor
    · rintro ⟨hb, before, after, hsplit, hbefore⟩
      exact ⟨hid, hb, before, after, hsplit, hbefore⟩
    · rintro ⟨-, hb, before, after, hsplit, hbefore⟩
      exact ⟨hb, before, after, hsplit, hbefore⟩

/-- A search by identifier gives nothing exactly if there is nothing to be found. -/
theorem byId?_eq_none_iff (hd : d.WellFormed) {id : String} : d.byId? id = none ↔ d.Lacks id := by
  unfold byId? Lacks
  by_cases hid : id = ""
  · simp [hid]
  · rw [if_neg hid, order_eq_preorder hd, List.find?_eq_none]
    simp only [any_id_iff]
    constructor
    · intro hnone
      -- a node that had it would stand in document order
      exact .inr fun h hb => hnone h (mem_preorder_of_bears hd hb) hb
    · rintro (hempty | hnone)
      · exact absurd hempty hid
      · exact fun h _ => hnone h

theorem byId?_ne_none_iff (hd : d.WellFormed) {id : String} :
    d.byId? id ≠ none ↔ ¬d.Lacks id := by
  rw [ne_eq, byId?_eq_none_iff hd]

end Document

namespace View

variable {d : Document} {s : Settings} {v : View}

/-! ## What is missing -/

/-- The failure that a page is due on which a part is missing. The display is looked for first, and
the controls, clear before backspace, only where they are required. -/
def Missing (d : Document) (s : Settings) : Failure → Prop
  | .missingDisplay id => d.Lacks s.markup.displayId ∧ id = s.markup.displayId
  | .missingControl .clear id =>
    ¬d.Lacks s.markup.displayId ∧ s.policy = .required ∧ d.Lacks s.markup.clearId ∧
      id = s.markup.clearId
  | .missingControl .backspace id =>
    ¬d.Lacks s.markup.displayId ∧ s.policy = .required ∧ ¬d.Lacks s.markup.clearId ∧
      d.Lacks s.markup.backspaceId ∧ id = s.markup.backspaceId
  | _ => False

/-- Both controls where they are required, and else those that there are. -/
theorem resolveControls_eq_ok_iff {found : Option Handle × Option Handle} :
    resolveControls d s = .ok found ↔
      (s.policy = .required → d.byId? s.markup.clearId ≠ none ∧
        d.byId? s.markup.backspaceId ≠ none) ∧
      found = if s.policy = .disabled then (none, none)
        else (d.byId? s.markup.clearId, d.byId? s.markup.backspaceId) := by
  unfold resolveControls
  cases s.policy with
  | disabled => simp [eq_comm]
  | optional => simp [eq_comm]
  | required =>
    -- where they are required, clear is looked for before backspace
    unfold requireControl
    cases d.byId? s.markup.clearId with
    | none => simp [bind, Except.bind]
    | some clear =>
      cases d.byId? s.markup.backspaceId with
      | none => simp [bind, Except.bind]
      | some backspace => simp [bind, Except.bind, pure, Except.pure, eq_comm]

/-- A control is reported only where controls are required, and clear before backspace. -/
theorem resolveControls_eq_error_iff {e : Failure} : resolveControls d s = .error e ↔
    s.policy = .required ∧
      (d.byId? s.markup.clearId = none ∧ e = .missingControl .clear s.markup.clearId ∨
        d.byId? s.markup.clearId ≠ none ∧ d.byId? s.markup.backspaceId = none ∧
          e = .missingControl .backspace s.markup.backspaceId) := by
  unfold resolveControls
  cases s.policy with
  | disabled => simp
  | optional => simp
  | required =>
    -- the first of the two that is missing is the failure
    unfold requireControl
    cases d.byId? s.markup.clearId with
    | none => simp [bind, Except.bind, eq_comm]
    | some clear =>
      cases d.byId? s.markup.backspaceId with
      | none => simp [bind, Except.bind, eq_comm]
      | some backspace => simp [bind, Except.bind, pure, Except.pure]

/-- Where there is a display, a view is resolved if its controls are. -/
theorem resolve_of_display {display : Handle} (h : d.byId? s.markup.displayId = some display) :
    resolve d s = (resolveControls d s).map fun found =>
      ⟨d.byClass s.markup.keyClass, display, found.1, found.2⟩ := by
  unfold resolve
  rw [h]
  cases resolveControls d s <;> rfl

/-- A view is not resolved exactly if a part is missing, and this part is reported. -/
theorem resolve_eq_error_iff (hd : d.WellFormed) {e : Failure} :
    resolve d s = .error e ↔ Missing d s e := by
  cases hdisplay : d.byId? s.markup.displayId with
  | none =>
    have hlacks := (Document.byId?_eq_none_iff hd).mp hdisplay
    unfold resolve
    rw [hdisplay]
    -- without a display nothing else is looked for
    cases e with
    | missingDisplay id => simp [Missing, hlacks, eq_comm]
    | missingControl control id => cases control <;> simp [Missing, hlacks]
    | _ => simp [Missing]
  | some display =>
    have hhas : ¬d.Lacks s.markup.displayId := by
      rw [← Document.byId?_ne_none_iff hd, hdisplay]
      exact Option.some_ne_none display
    have hcontrols := resolveControls_eq_error_iff (d := d) (s := s) (e := e)
    rw [Document.byId?_eq_none_iff hd, Document.byId?_ne_none_iff hd,
      Document.byId?_eq_none_iff hd] at hcontrols
    have hsame : resolve d s = .error e ↔ resolveControls d s = .error e := by
      rw [resolve_of_display hdisplay]
      cases resolveControls d s <;> simp [Except.map]
    rw [hsame, hcontrols]
    cases e with
    | missingDisplay id => simp only [Missing]; grind
    | missingControl control id => cases control <;> simp only [Missing] <;> grind
    | _ => simp [Missing]

/-- Nothing is missing if there is a display, and both controls where they are required. -/
theorem not_missing_iff : (∀ e, ¬Missing d s e) ↔ ¬d.Lacks s.markup.displayId ∧
    (s.policy = .required → ¬d.Lacks s.markup.clearId ∧ ¬d.Lacks s.markup.backspaceId) := by
  constructor
  · intro hnone
    have hdisplay := fun hl => hnone (.missingDisplay _) ⟨hl, rfl⟩
    refine ⟨hdisplay, fun hp => ?_⟩
    -- clear is looked for first, so that it is there when backspace is looked for
    have hclear := fun hl => hnone (.missingControl .clear _) ⟨hdisplay, hp, hl, rfl⟩
    exact ⟨hclear, fun hl => hnone (.missingControl .backspace _) ⟨hdisplay, hp, hclear, hl, rfl⟩⟩
  · rintro ⟨hdisplay, hcontrols⟩ e hmissing
    cases e with
    | missingDisplay id => exact hdisplay hmissing.1
    | missingControl control id =>
      cases control with
      | clear =>
        obtain ⟨-, hp, hl, -⟩ := hmissing
        exact (hcontrols hp).1 hl
      | backspace =>
        obtain ⟨-, hp, -, hl, -⟩ := hmissing
        exact (hcontrols hp).2 hl
    | _ => exact hmissing.elim

/-! ## What is found -/

/-- A view has the parts that a page offers to a configuration. -/
structure Finds (d : Document) (s : Settings) (v : View) : Prop where
  display : d.FirstBearing s.markup.displayId v.display
  clear : ∀ h, v.clear = some h ↔ s.policy ≠ .disabled ∧ d.FirstBearing s.markup.clearId h
  backspace : ∀ h, v.backspace = some h ↔
    s.policy ≠ .disabled ∧ d.FirstBearing s.markup.backspaceId h
  /-- The keys are the nodes that have the class of keys. -/
  mem_keys : ∀ h, h ∈ v.keys ↔ d.Carries s.markup.keyClass h
  /-- No node is listed as a key twice. -/
  nodup_keys : v.keys.Nodup
  /-- The keys are listed in document order. -/
  keys_sublist : v.keys.Sublist (d.preorder Document.root)

/-- **A view that is resolved has the parts of the page**: the first nodes with the identifiers, and
all nodes with the class. -/
theorem finds_of_resolve (hd : d.WellFormed) (hv : resolve d s = .ok v) : v.Finds d s := by
  obtain ⟨hdisplay, hcontrols, hkeys⟩ := resolve_eq_ok_iff.mp hv
  obtain ⟨-, hfound⟩ := resolveControls_eq_ok_iff.mp hcontrols
  have hfilter : v.keys = (d.preorder Document.root).filter fun h =>
      (d.element? h).any (·.hasClass s.markup.keyClass) := by
    rw [hkeys, Document.byClass, Document.order, Document.orderFrom_eq_preorder hd]
  -- a control is bound unless the policy forbids it, and then as it is found
  have hcontrol : ∀ {bound found : Option Handle} {id : String},
      bound = (if s.policy = .disabled then none else found) → found = d.byId? id →
        ∀ h, bound = some h ↔ s.policy ≠ .disabled ∧ d.FirstBearing id h := by
    rintro bound found id rfl rfl h
    rw [← Document.byId?_eq_some_iff hd]
    split <;> simp_all
  refine ⟨(Document.byId?_eq_some_iff hd).mp hdisplay, ?clear, ?backspace, ?mem, ?nodup, ?order⟩
  case clear =>
    refine hcontrol ?_ rfl
    have hfst := congrArg Prod.fst hfound
    rw [apply_ite Prod.fst] at hfst
    exact hfst
  case backspace =>
    refine hcontrol ?_ rfl
    have hsnd := congrArg Prod.snd hfound
    rw [apply_ite Prod.snd] at hsnd
    exact hsnd
  case mem =>
    intro h
    rw [hfilter, List.mem_filter, Document.any_hasClass_iff]
    constructor
    · exact fun hm => hm.2
    · exact fun hc => ⟨Document.mem_preorder_of_carries hd hc, hc⟩
  case nodup =>
    rw [hfilter]
    exact (Document.nodup_preorder hd _).filter _
  case order =>
    rw [hfilter]
    exact List.filter_sublist

/-! ## Which button a node is -/

/-- What a node of a view is: clear before backspace, and both before a key. -/
def IsButton (v : View) (h : Handle) : Option Button → Prop
  | some (.control .clear) => v.clear = some h
  | some (.control .backspace) => v.clear ≠ some h ∧ v.backspace = some h
  | some (.key index) => v.clear ≠ some h ∧ v.backspace ≠ some h ∧ v.keys[index]? = some h
  | none => v.clear ≠ some h ∧ v.backspace ≠ some h ∧ h ∉ v.keys

/-- Where keys are listed once, a node is what a search says and nothing else. -/
theorem button?_eq_iff (hn : v.keys.Nodup) {h : Handle} {b : Option Button} :
    v.button? h = b ↔ v.IsButton h b := by
  unfold button?
  by_cases hclear : v.clear = some h
  · rw [if_pos hclear]
    rcases b with _ | index | control
    · simp [IsButton, hclear]
    · simp [IsButton, hclear]
    · cases control <;> simp [IsButton, hclear]
  by_cases hback : v.backspace = some h
  · rw [if_neg hclear, if_pos hback]
    rcases b with _ | index | control
    · simp [IsButton, hback]
    · simp [IsButton, hback]
    · cases control <;> simp [IsButton, hclear, hback]
  rw [if_neg hclear, if_neg hback]
  rcases b with _ | index | control
  · rw [Option.map_eq_none_iff, List.findIdx?_eq_none_iff]
    show (∀ x ∈ v.keys, (x == h) = false) ↔ v.clear ≠ some h ∧ v.backspace ≠ some h ∧ h ∉ v.keys
    constructor
    · intro hno
      exact ⟨hclear, hback, fun hm => by simpa using hno h hm⟩
    · rintro ⟨-, -, hnot⟩ x hx
      rw [beq_eq_false_iff_ne]
      rintro rfl
      exact hnot hx
  · show (v.keys.findIdx? (· == h)).map Button.key = some (.key index) ↔
      v.clear ≠ some h ∧ v.backspace ≠ some h ∧ v.keys[index]? = some h
    have hfind : v.keys.findIdx? (· == h) = some index ↔ v.keys[index]? = some h := by
      constructor
      · exact getElem?_of_findIdx?_beq
      · intro hget
        obtain ⟨hlt, heq⟩ := List.getElem?_eq_some_iff.mp hget
        rw [List.findIdx?_eq_some_iff_getElem]
        refine ⟨hlt, beq_iff_eq.mpr heq, fun j hj hsame => ?_⟩
        -- the node would be listed a second time, further in front
        have htwice : v.keys[j] = v.keys[index] := (beq_iff_eq.mp hsame).trans heq.symm
        have hindex : j = index := hn.getElem_inj_iff.mp htwice
        omega
    simp [hfind, hclear, hback]
  · cases control <;> simp [IsButton, hclear, hback]

/-- **What is there is found, and what is not is reported.** On every document that can be reached,
and for all settings, resolving a view fails exactly with the failure that is due to the page, and
else finds the parts that the page offers. Of the view that is resolved, each node is the button
that its parts make it. -/
theorem resolve_finds_or_misses (hd : d.Reachable) (s : Settings) :
    (∀ e, resolve d s = .error e ↔ Missing d s e) ∧
      ((∃ v, resolve d s = .ok v) ↔ ¬d.Lacks s.markup.displayId ∧
        (s.policy = .required → ¬d.Lacks s.markup.clearId ∧ ¬d.Lacks s.markup.backspaceId)) ∧
      ∀ v, resolve d s = .ok v → v.Finds d s ∧ ∀ h b, v.button? h = b ↔ v.IsButton h b := by
  have hw := hd.wellFormed
  refine ⟨fun e => resolve_eq_error_iff hw, ?found, fun v hv => ?parts⟩
  case found =>
    rw [← not_missing_iff]
    simp only [← resolve_eq_error_iff hw]
    cases resolve d s <;> simp
  case parts =>
    have hfinds := finds_of_resolve hw hv
    exact ⟨hfinds, fun h b => button?_eq_iff hfinds.nodup_keys⟩

/-- A document on which the node that was added last comes before the one with the same identifier
and class that was there already. -/
def tangled : Document :=
  [.append 0 {}, .append 0 { id := "a", classes := ["keypad"] },
    .append 1 { id := "a", classes := ["keypad"] }].foldl Document.apply {}

/-- Settings that look for the display and for clear under one identifier, and for backspace under
none. -/
def tangledSettings (policy : Policy) : Settings where
  markup := { displayId := "a", clearId := "a", backspaceId := "" }
  policy := policy

theorem resolve_finds_or_misses_tangled :
    (∃ v, resolve tangled (tangledSettings .optional) = .ok v ∧ v.keys.Nodup ∧
      v.button? 3 = some (.control .clear) ∧ v.button? 2 = some (.key 1)) ∧
    resolve tangled (tangledSettings .required) = .error (.missingControl .backspace "") := by
  have hd : tangled.Reachable := Document.Reachable.blank.foldl _
  have hhas : ¬tangled.Lacks "a" := by
    rintro (hempty | hnone)
    · exact absurd hempty (by decide)
    · exact hnone 3 ⟨_, rfl, rfl⟩
  constructor
  · have hv : resolve tangled (tangledSettings .optional) = .ok ⟨[3, 2], 3, some 3, none⟩ := by rfl
    obtain ⟨-, -, hparts⟩ := resolve_finds_or_misses hd (tangledSettings .optional)
    obtain ⟨hfinds, hbutton⟩ := hparts _ hv
    have htwo := (hbutton 2 (some (.key 1))).mpr ⟨by decide, by decide, rfl⟩
    exact ⟨_, hv, hfinds.nodup_keys, (hbutton 3 (some (.control .clear))).mpr rfl, htwo⟩
  · obtain ⟨hfails, -⟩ := resolve_finds_or_misses hd (tangledSettings .required)
    exact (hfails _).mpr ⟨hhas, rfl, hhas, .inl rfl, rfl⟩

end View

end AmountPad.Page
