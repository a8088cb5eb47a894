import Mathlib
import AmountPad.Proofs.Yaml.Key

/-!
# The tokens of a written value

A value is read hop by hop, to the start of the line behind it, and what is read are the symbols of
the value. Where a line is less deep, the collections that end there are closed.

* `symbols` — the symbols of a value;
* `HasNames` — values whose members have names that can be written as they are;
* `Progress.ItemRead`, `Progress.ItemsRead`, `Progress.ValueRead`, `Progress.MembersRead` — what it is
  for a value to be read behind a dash and behind a name, and for what is below it to be read.

Main results:

* `Progress.reach_mapping` — a mapping is read from its first name on;
* `Progress.itemRead`, `Progress.itemsRead`, `Progress.valueRead`, `Progress.membersRead` — all values
  are read.
-/

namespace AmountPad.Yaml

open Json (Node)
open Writer (blanks)

/-! ## Symbols -/

mutual

/-- The symbols of a value. -/
def symbols : Node → List Symbol
  | .text s => [.scalar s (Writer.styleOf s)]
  | .list [] => [.flowSequenceStart, .flowSequenceEnd]
  | .list (n :: rest) => .blockSequenceStart :: (itemSymbols (n :: rest) ++ [.blockEnd])
  | .object [] => [.flowMappingStart, .flowMappingEnd]
  | .object (m :: rest) => .blockMappingStart :: (memberSymbols (m :: rest) ++ [.blockEnd])

/-- The symbols of items, each behind a dash. -/
def itemSymbols : List Node → List Symbol
  | [] => []
  | n :: rest => .blockEntry :: (symbols n ++ itemSymbols rest)

/-- The symbols of members. -/
def memberSymbols : List (String × Node) → List Symbol
  | [] => []
  | (name, n) :: rest =>
    .key :: .scalar name .plain :: .value :: (valueSymbols n ++ memberSymbols rest)

/-- The symbols of a member's value: a sequence that is not indented has no ends of its own. -/
def valueSymbols : Node → List Symbol
  | .text s => [.scalar s (Writer.styleOf s)]
  | .list [] => [.flowSequenceStart, .flowSequenceEnd]
  | .list (n :: rest) => itemSymbols (n :: rest)
  | .object [] => [.flowMappingStart, .flowMappingEnd]
  | .object (m :: rest) => .blockMappingStart :: (memberSymbols (m :: rest) ++ [.blockEnd])

end

mutual

/-- Whether the members inside a value have names that can be written as they are. -/
def HasNames : Node → Prop
  | .text _ => True
  | .list items => ItemsHaveNames items
  | .object members => MembersHaveNames members

def ItemsHaveNames : List Node → Prop
  | [] => True
  | n :: rest => HasNames n ∧ ItemsHaveNames rest

def MembersHaveNames : List (String × Node) → Prop
  | [] => True
  | (name, n) :: rest => IsName name.toList ∧ HasNames n ∧ MembersHaveNames rest

end

/-! ## How values start -/

theorem startsToken_name {name : List Char} (h : IsName name) (rest : List Char) :
    StartsToken (name ++ rest) := by
  obtain ⟨c, cs, rfl, hword, -⟩ := h
  have hc := hword c List.mem_cons_self
  obtain ⟨hblank, hbreak⟩ := Plain.isInk_of_isWordChar hc
  intro d hd
  obtain rfl : c = d := by simpa using hd
  exact ⟨hblank, hbreak, Plain.ne_of_isWordChar hc rfl, Plain.ne_of_isWordChar hc rfl⟩

/-- In whichever style a text is written, it starts a token. -/
theorem startsToken_scalar (I : Nat) (s : String) (rest : List Char) :
    StartsToken (Writer.scalar I s ++ rest) := by
  cases styled s with
  | literal hstyle =>
    simp [Writer.scalar, hstyle, Writer.literalHeader, StartsToken, isBlank, isBreak]
  | plain hstyle hfits hne =>
    -- a plain scalar starts with its own first character
    obtain ⟨hspaced, ⟨c, cs, hs, hblank, hnumber⟩, -⟩ := worded_of_fitsPlain hfits hne
    have hmem : c ∈ s.toList := by rw [hs]; exact List.mem_cons_self
    have hmark : c ≠ '\ufeff' := by
      rintro rfl
      simp only [Writer.fitsPlain, Bool.not_eq_true', Bool.or_eq_false_iff, Writer.needsDouble,
        List.any_eq_false] at hfits
      exact absurd (hfits.1.1.1.1.1 _ hmem) (by decide)
    have hbreak := (hspaced c hmem).1
    intro d hd
    obtain rfl : c = d := by simpa [Writer.scalar, hstyle, hs] using hd
    exact ⟨hblank, hbreak, hnumber, hmark⟩
  | single hstyle => simp [Writer.scalar, hstyle, StartsToken, isBlank, isBreak]
  | double hstyle => simp [Writer.scalar, hstyle, StartsToken, isBlank, isBreak]

theorem startsToken_dash (rest : List Char) : StartsToken ('-' :: rest) := by
  simp [StartsToken, isBlank, isBreak]

/-- An item starts a token, with its text, its dash or its first name. -/
theorem startsToken_item (I : Nat) {n : Node} (hn : HasNames n) (rest : List Char) :
    StartsToken (Writer.item I n ++ rest) := by
  match n with
  | .text s => exact startsToken_scalar I s rest
  | .list [] => simp [Writer.item, StartsToken, isBlank, isBreak]
  | .list (n :: more) =>
    simp only [Writer.item, Writer.items, Writer.margin]
    exact startsToken_dash _
  | .object [] => simp [Writer.item, StartsToken, isBlank, isBreak]
  | .object ((name, n) :: more) =>
    obtain ⟨hname, -⟩ : IsName name.toList ∧ _ := hn
    simp only [Writer.item, Writer.members, Writer.margin, if_true, List.nil_append,
      List.append_assoc]
    exact startsToken_name hname _

/-! ## From value to value -/

namespace Progress

variable {tail : List Char}

/-- Behind an item comes the next one or what follows the sequence, and neither is deeper. -/
theorem exists_line_items {I k : Nat} (hk : k ≤ I) (htail : StartsToken tail) (ns : List Node) :
    ∃ k' tail', Writer.items I false ns ++ (blanks k ++ tail) = blanks k' ++ tail' ∧ k' ≤ I ∧
      StartsToken tail' := by
  cases ns with
  | nil => exact ⟨k, tail, rfl, hk, htail⟩
  | cons n ns =>
    refine ⟨I, '-' :: ' ' :: (Writer.item I n ++ (Writer.items I false ns ++ (blanks k ++ tail))), ?_,
      Nat.le_refl I, startsToken_dash _⟩
    simp [Writer.items, Writer.margin]

/-- Behind a member comes the next one or what follows the mapping, and neither is deeper. -/
theorem exists_line_members {I k : Nat} (hk : k ≤ I) (htail : StartsToken tail)
    {ms : List (String × Node)} (hms : MembersHaveNames ms) :
    ∃ k' tail', Writer.members I false ms ++ (blanks k ++ tail) = blanks k' ++ tail' ∧ k' ≤ I ∧
      StartsToken tail' := by
  cases ms with
  | nil => exact ⟨k, tail, rfl, hk, htail⟩
  | cons m ms =>
    obtain ⟨name, n⟩ := m
    refine ⟨I, name.toList ++
      ':' :: (Writer.member I n ++ (Writer.members I false ms ++ (blanks k ++ tail))), ?_,
      Nat.le_refl I, startsToken_name hms.1 _⟩
    simp [Writer.members, Writer.margin]

/-! ### Sequences -/

/-- Whether an item is read behind its dash, up to what follows it. -/
def ItemRead (n : Node) : Prop :=
  ∀ {p : Progress} {ss : List Symbol} {I k : Nat} {stack : List Nat} {tail : List Char},
    p.Stands ss (I :: stack) true (Writer.item I n ++ (blanks k ++ tail)) →
    p.cursor.mark.column = I + 2 → k ≤ I → StartsToken tail →
    ∃ q, Relation.ReflTransGen Hop p q ∧
      q.AtLine (ss ++ symbols n) (I :: stack) (blanks k ++ tail)

/-- Whether items are read from the start of a line on. -/
def ItemsRead (ns : List Node) : Prop :=
  ∀ {p : Progress} {ss : List Symbol} {I k : Nat} {stack : List Nat} {tail : List Char},
    p.AtLine ss (I :: stack) (Writer.items I false ns ++ (blanks k ++ tail)) →
    k ≤ I → StartsToken tail →
    ∃ q, Relation.ReflTransGen Hop p q ∧
      q.AtLine (ss ++ itemSymbols ns) (I :: stack) (blanks k ++ tail)

section

variable {p r : Progress} {ss : List Symbol} {stack : List Nat} {I k : Nat} {n : Node}
  {ns : List Node}

/-- The way from a dash to its item. -/
theorem reach_behind_dash (hn : HasNames n) {more : List Char} (htake : p.takeToken = .ok r)
    (hr : r.Stands (ss ++ [.blockEntry]) (I :: stack) true (' ' :: (Writer.item I n ++ more)))
    (hmark : r.cursor.mark.column = I + 1)
    (hlength : (Writer.item I n ++ more).length + 1 < p.cursor.rest.length) :
    ∃ q, Hop p q ∧ q.Stands (ss ++ [.blockEntry]) (I :: stack) true (Writer.item I n ++ more) ∧
      q.cursor.mark.column = I + 2 := by
  have htop : top (I :: stack) ≤ (r.cursor.mark.column : Int) := by
    rw [hmark]
    exact Int.ofNat_le.mpr (Nat.le_succ I)
  obtain ⟨q, hhop, hq, hmark'⟩ := hop_of_blanks (n := 1) htake hr (by simp)
    (startsToken_item I hn more) htop hlength
  exact ⟨q, hhop, hq, by omega⟩

/-- Behind a dash come its item and the items below it. -/
theorem reach_items (hn : HasNames n) (hread : ItemRead n) (hreads : ItemsRead ns)
    (htake : p.takeToken = .ok r)
    (hr : r.Stands (ss ++ [.blockEntry]) (I :: stack) true
      (' ' :: (Writer.item I n ++ (Writer.items I false ns ++ (blanks k ++ tail)))))
    (hmark : r.cursor.mark.column = I + 1)
    (hlength : (Writer.item I n ++ (Writer.items I false ns ++ (blanks k ++ tail))).length + 1 <
      p.cursor.rest.length) (hk : k ≤ I) (htail : StartsToken tail) :
    ∃ q, Relation.ReflTransGen Hop p q ∧
      q.AtLine (ss ++ itemSymbols (n :: ns)) (I :: stack) (blanks k ++ tail) := by
  obtain ⟨q, hhop, hq, hcolumn⟩ := reach_behind_dash hn htake hr hmark hlength
  -- the item needs to know the next line only, the items below it need the whole text
  obtain ⟨k', tail', hline, hk', htail'⟩ := exists_line_items hk htail ns
  rw [hline] at hq
  obtain ⟨q', hreach, hq'⟩ := hread hq hcolumn hk' htail'
  rw [← hline] at hq'
  obtain ⟨q'', hreach', hq''⟩ := hreads hq' hk htail
  refine ⟨q'', (Relation.ReflTransGen.head hhop hreach).trans hreach', ?_⟩
  simpa [itemSymbols] using hq''

/-- A text behind a dash is read as one scalar. -/
theorem itemRead_text (s : String) : ItemRead (.text s) := by
  intro p ss I k stack tail h hcolumn hk htail
  obtain ⟨q, hhop, hq⟩ := h.hop_scalar s (by omega) hk htail
  exact ⟨q, .single hhop, hq⟩

/-- A sequence inside a sequence starts on the line of the outer dash. -/
theorem itemRead_list (hn : HasNames n) (hread : ItemRead n) (hreads : ItemsRead ns) :
    ItemRead (.list (n :: ns)) := by
  intro p ss I k stack tail h hcolumn hk htail
  have htext : Writer.item I (.list (n :: ns)) ++ (blanks k ++ tail) = '-' :: ' ' ::
      (Writer.item (I + 2) n ++ (Writer.items (I + 2) false ns ++ (blanks k ++ tail))) := by
    simp [Writer.item, Writer.items, Writer.margin, Writer.step]
  have hdeeper : top (I :: stack) < (p.cursor.mark.column : Int) := by
    rw [hcolumn]
    exact Int.ofNat_lt.mpr (by omega)
  rw [htext] at h
  obtain ⟨r, htake, hr, hmark⟩ := h.takeFirstEntry rfl hdeeper
  rw [hcolumn] at hr hmark
  obtain ⟨q, hreach, hq⟩ := reach_items hn hread hreads htake hr hmark (by simp [h.rest])
    (Nat.le_add_right_of_le hk) htail
  -- the line behind the inner sequence belongs to an outer one, which closes it
  have hends := (atLine_cons (by omega) htail).mp hq
  rw [List.append_assoc, List.append_assoc] at hends
  exact ⟨q, hreach, hends⟩

theorem itemsRead_nil : ItemsRead [] := by
  intro p ss I k stack tail h _ _
  exact ⟨p, .refl, by simpa [Writer.items, itemSymbols] using h⟩

/-- Items are read if the first one is and the others are. -/
theorem itemsRead_cons (hn : HasNames n) (hread : ItemRead n) (hreads : ItemsRead ns) :
    ItemsRead (n :: ns) := by
  intro p ss I k stack tail h hk htail
  have htext : Writer.items I false (n :: ns) ++ (blanks k ++ tail) = blanks I ++ '-' :: ' ' ::
      (Writer.item I n ++ (Writer.items I false ns ++ (blanks k ++ tail))) := by
    simp [Writer.items, Writer.margin]
  rw [htext, atLine_of_top_le (Int.le_refl _) (startsToken_dash _)] at h
  obtain ⟨h, hcolumn⟩ := h
  obtain ⟨r, htake, hr, hmark⟩ := h.takeNextEntry rfl (Int.le_of_eq (congrArg Int.ofNat hcolumn))
  rw [hcolumn] at hmark
  exact reach_items hn hread hreads htake hr hmark (by simp [h.rest]) hk htail

end

/-! ### Mappings -/

/-- Whether a value is read behind its key, which may open a mapping. -/
def ValueRead (n : Node) : Prop :=
  ∀ {p : Progress} {ss : List Symbol} {I k : Nat} {stack around : List Nat} {name : String}
    {tail : List Char},
    IsName name.toList →
    p.Stands ss stack true (name.toList ++ ':' :: (Writer.member I n ++ (blanks k ++ tail))) →
    p.cursor.mark.column = I → top stack ≤ I → inside stack I = I :: around → k ≤ I →
    StartsToken tail →
    ∃ q, Relation.ReflTransGen Hop p q ∧
      q.AtLine (ss ++ keySymbols stack I name ++ valueSymbols n) (I :: around) (blanks k ++ tail)

/-- Whether members are read from the start of a line on. -/
def MembersRead (ms : List (String × Node)) : Prop :=
  ∀ {p : Progress} {ss : List Symbol} {I k : Nat} {stack : List Nat} {tail : List Char},
    p.AtLine ss (I :: stack) (Writer.members I false ms ++ (blanks k ++ tail)) →
    k ≤ I → StartsToken tail →
    ∃ q, Relation.ReflTransGen Hop p q ∧
      q.AtLine (ss ++ memberSymbols ms) (I :: stack) (blanks k ++ tail)

section

variable {p : Progress} {ss : List Symbol} {stack around : List Nat} {I k : Nat} {name : String}
  {n : Node} {ms : List (String × Node)}

/-- Behind a key come its value and the members below it. -/
theorem reach_members (hname : IsName name.toList) (hms : MembersHaveNames ms)
    (hread : ValueRead n) (hreads : MembersRead ms)
    (h : p.Stands ss stack true
      (name.toList ++ ':' :: (Writer.member I n ++ (Writer.members I false ms ++ (blanks k ++ tail)))))
    (hcolumn : p.cursor.mark.column = I) (htop : top stack ≤ I)
    (hinside : inside stack I = I :: around) (hk : k ≤ I) (htail : StartsToken tail) :
    ∃ q, Relation.ReflTransGen Hop p q ∧
      q.AtLine (ss ++ opens stack I ++ memberSymbols ((name, n) :: ms)) (I :: around)
        (blanks k ++ tail) := by
  -- the value needs to know the next line only, the members below it need the whole text
  obtain ⟨k', tail', hline, hk', htail'⟩ := exists_line_members hk htail hms
  rw [hline] at h
  obtain ⟨q, hreach, hq⟩ := hread hname h hcolumn htop hinside hk' htail'
  rw [← hline] at hq
  obtain ⟨q', hreach', hq'⟩ := hreads hq hk htail
  refine ⟨q', hreach.trans hreach', ?_⟩
  simpa [keySymbols, memberSymbols] using hq'

/-- The first member opens the mapping. -/
theorem reach_mapping (hname : IsName name.toList) (hms : MembersHaveNames ms)
    (hread : ValueRead n) (hreads : MembersRead ms)
    (h : p.Stands ss stack true
      (name.toList ++ ':' :: (Writer.member I n ++ (Writer.members I false ms ++ (blanks k ++ tail)))))
    (hcolumn : p.cursor.mark.column = I) (htop : top stack < I) (hk : k ≤ I)
    (htail : StartsToken tail) :
    ∃ q, Relation.ReflTransGen Hop p q ∧
      q.AtLine (ss ++ .blockMappingStart :: memberSymbols ((name, n) :: ms)) (I :: stack)
        (blanks k ++ tail) := by
  obtain ⟨q, hreach, hq⟩ := reach_members hname hms hread hreads h hcolumn (Int.le_of_lt htop)
    (if_pos htop) hk htail
  refine ⟨q, hreach, ?_⟩
  rwa [opens, if_pos htop, List.append_assoc] at hq

/-- A mapping inside a sequence starts on the line of the dash. -/
theorem itemRead_object (hname : IsName name.toList) (hms : MembersHaveNames ms)
    (hread : ValueRead n) (hreads : MembersRead ms) : ItemRead (.object ((name, n) :: ms)) := by
  intro p ss I k stack tail h hcolumn hk htail
  have htext : Writer.item I (.object ((name, n) :: ms)) ++ (blanks k ++ tail) = name.toList ++ ':' ::
      (Writer.member (I + 2) n ++ (Writer.members (I + 2) false ms ++ (blanks k ++ tail))) := by
    simp [Writer.item, Writer.members, Writer.margin, Writer.step]
  rw [htext] at h
  obtain ⟨q, hreach, hq⟩ := reach_mapping hname hms hread hreads h hcolumn
    (Int.ofNat_lt.mpr (by omega)) (Nat.le_add_right_of_le hk) htail
  have hends := (atLine_cons (by omega) htail).mp hq
  rw [List.append_assoc] at hends
  exact ⟨q, hreach, hends⟩

theorem membersRead_nil : MembersRead [] := by
  intro p ss I k stack tail h _ _
  exact ⟨p, .refl, by simpa [Writer.members, memberSymbols] using h⟩

/-- Members are read if the value of the first one is and the others are. -/
theorem membersRead_cons (hname : IsName name.toList) (hms : MembersHaveNames ms)
    (hread : ValueRead n) (hreads : MembersRead ms) : MembersRead ((name, n) :: ms) := by
  intro p ss I k stack tail h hk htail
  have htext : Writer.members I false ((name, n) :: ms) ++ (blanks k ++ tail) =
      blanks I ++ (name.toList ++ ':' ::
        (Writer.member I n ++ (Writer.members I false ms ++ (blanks k ++ tail)))) := by
    simp [Writer.members, Writer.margin]
  rw [htext, atLine_of_top_le (Int.le_refl _) (startsToken_name hname _)] at h
  obtain ⟨h, hcolumn⟩ := h
  -- the mapping of these members is open
  have hopen : ¬ top (I :: stack) < (I : Int) := Int.lt_irrefl _
  obtain ⟨q, hreach, hq⟩ := reach_members hname hms hread hreads h hcolumn (Int.le_refl _)
    (if_neg hopen) hk htail
  refine ⟨q, hreach, ?_⟩
  rwa [opens, if_neg hopen, List.append_nil] at hq

/-- A text behind a name is read as one scalar. -/
theorem valueRead_text (s : String) : ValueRead (.text s) := by
  intro p ss I k stack around name tail hname h hcolumn htop hinside hk htail
  have htext : Writer.member I (.text s) ++ (blanks k ++ tail) =
      ' ' :: (Writer.scalar I s ++ (blanks k ++ tail)) := rfl
  rw [htext] at h
  obtain ⟨q, hreach, hq, hmark⟩ := h.reach_value hname (startsToken_scalar I s _) (by rwa [hcolumn])
  rw [hcolumn, hinside, String.ofList_toList] at hq
  obtain ⟨q', hhop, hq'⟩ := hq.hop_scalar s (by omega) hk htail
  exact ⟨q', hreach.tail hhop, hq'⟩

/-- An empty collection behind a name is read as its two brackets. -/
theorem valueRead_brackets {n : Node} (mapping : Bool)
    (htext : ∀ I, Writer.member I n =
      [' ', (brackets mapping).1, (brackets mapping).2, '\n'])
    (hsymbols : valueSymbols n = [(bracketSymbols mapping).1, (bracketSymbols mapping).2]) :
    ValueRead n := by
  intro p ss I k stack around name tail hname h hcolumn htop hinside hk htail
  have hstarts : StartsToken ((brackets mapping).1 :: (brackets mapping).2 :: '\n' ::
      (blanks k ++ tail)) := by
    cases mapping <;> simp [brackets, StartsToken, isBreak, isBlank]
  rw [htext] at h
  obtain ⟨q, hreach, hq, hmark⟩ := h.reach_value hname hstarts (by rwa [hcolumn])
  rw [hcolumn, hinside, String.ofList_toList] at hq
  obtain ⟨q', hreach', hq'⟩ := hq.reach_brackets mapping (by omega) htail
  rw [hsymbols]
  exact ⟨q', hreach.trans hreach', hq'⟩

/-- A sequence below its name is not indented. -/
theorem valueRead_list {ns : List Node} (hread : ItemsRead (n :: ns)) :
    ValueRead (.list (n :: ns)) := by
  intro p ss I k stack around name tail hname h hcolumn htop hinside hk htail
  have htext : Writer.member I (.list (n :: ns)) ++ (blanks k ++ tail) =
      '\n' :: (Writer.items I false (n :: ns) ++ (blanks k ++ tail)) := rfl
  have hline : Writer.items I false (n :: ns) ++ (blanks k ++ tail) = blanks I ++ '-' :: ' ' ::
      (Writer.item I n ++ (Writer.items I false ns ++ (blanks k ++ tail))) := by
    simp [Writer.items, Writer.margin]
  rw [htext, hline] at h
  obtain ⟨q, hreach, hq⟩ := h.reach_line hname (startsToken_dash _) (by rwa [hcolumn])
  rw [hcolumn, hinside, String.ofList_toList, ← hline] at hq
  obtain ⟨q', hreach', hq'⟩ := hread hq hk htail
  exact ⟨q', hreach.trans hreach', hq'⟩

/-- A mapping below its name is indented. -/
theorem valueRead_object {first : String} {ms : List (String × Node)}
    (hfirst : IsName first.toList) (hms : MembersHaveNames ms) (hread : ValueRead n)
    (hreads : MembersRead ms) : ValueRead (.object ((first, n) :: ms)) := by
  intro p ss I k stack around name tail hname h hcolumn htop hinside hk htail
  have htext : Writer.member I (.object ((first, n) :: ms)) ++ (blanks k ++ tail) =
      '\n' :: (blanks (I + 2) ++ (first.toList ++ ':' ::
        (Writer.member (I + 2) n ++ (Writer.members (I + 2) false ms ++ (blanks k ++ tail))))) := by
    simp [Writer.member, Writer.members, Writer.margin, Writer.step]
  rw [htext] at h
  obtain ⟨q, hreach, hq⟩ := h.reach_line hname (startsToken_name hfirst _) (by rwa [hcolumn])
  rw [hcolumn, hinside, String.ofList_toList,
    atLine_of_top_le (Int.ofNat_le.mpr (by omega)) (startsToken_name hfirst _)] at hq
  obtain ⟨hq, hmark⟩ := hq
  obtain ⟨q', hreach', hq'⟩ := reach_mapping hfirst hms hread hreads hq hmark
    (Int.ofNat_lt.mpr (by omega)) (Nat.le_add_right_of_le hk) htail
  -- here too the line behind the mapping closes it
  have hends := (atLine_cons (by omega) htail).mp hq'
  rw [List.append_assoc] at hends
  exact ⟨q', hreach.trans hreach', hends⟩

end

/-! ### All values -/

mutual

/-- **Every item is read** behind its dash. -/
theorem itemRead : ∀ n : Node, HasNames n → ItemRead n
  | .text s, _ => itemRead_text s
  | .list [], _ => fun h hcolumn _ htail => h.reach_brackets false (by omega) htail
  | .list (n :: ns), ⟨hn, hns⟩ => itemRead_list hn (itemRead n hn) (itemsRead ns hns)
  | .object [], _ => fun h hcolumn _ htail => h.reach_brackets true (by omega) htail
  | .object ((_, n) :: ms), ⟨hname, hn, hms⟩ =>
    itemRead_object hname hms (valueRead n hn) (membersRead ms hms)

theorem itemsRead : ∀ ns : List Node, ItemsHaveNames ns → ItemsRead ns
  | [], _ => itemsRead_nil
  | n :: ns, ⟨hn, hns⟩ => itemsRead_cons hn (itemRead n hn) (itemsRead ns hns)

theorem valueRead : ∀ n : Node, HasNames n → ValueRead n
  | .text s, _ => valueRead_text s
  | .list [], _ => valueRead_brackets false (fun _ => rfl) rfl
  | .list (n :: ns), ⟨hn, hns⟩ =>
    valueRead_list (itemsRead_cons hn (itemRead n hn) (itemsRead ns hns))
  | .object [], _ => valueRead_brackets true (fun _ => rfl) rfl
  | .object ((_, n) :: ms), ⟨hname, hn, hms⟩ =>
    valueRead_object hname hms (valueRead n hn) (membersRead ms hms)

theorem membersRead : ∀ ms : List (String × Node), MembersHaveNames ms → MembersRead ms
  | [], _ => membersRead_nil
  | (_, n) :: ms, ⟨hname, hn, hms⟩ =>
    membersRead_cons hname hms (valueRead n hn) (membersRead ms hms)

end

end Progress

end AmountPad.Yaml
