import Mathlib
import AmountPad.Text.Columns

/-!
# Printable characters of ASCII

Which characters of a text belong together, and how many columns they take, depends on tables of many
scripts. For the printable characters of ASCII all of this comes to nothing: each is a cluster of its
own and takes one column, whatever stands next to it.

* `AsciiPrintable` — the characters from the space to the tilde.

Main results:

* `clusters_eq_of_printable` — the clusters of a text of such characters;
* `columns_of_printable` — the columns of such a character.
-/

namespace AmountPad.Text

/-- A printable character of ASCII. -/
def AsciiPrintable (c : Char) : Prop := 0x20 ≤ c.toNat ∧ c.toNat ≤ 0x7E

instance (c : Char) : Decidable (AsciiPrintable c) :=
  inferInstanceAs (Decidable (0x20 ≤ c.toNat ∧ c.toNat ≤ 0x7E))

/-- That all characters of a text are printable can be found out by computation. -/
theorem printable_of_all {cs : List Char} (h : cs.all (fun c => decide (AsciiPrintable c)) = true) :
    ∀ c ∈ cs, AsciiPrintable c := by
  intro c hc
  exact of_decide_eq_true (List.all_eq_true.mp h c hc)

/-- A printable character of ASCII is of none of the kinds that join others. -/
theorem Kind.of_printable {c : Char} (h : AsciiPrintable c) : Kind.of c = .other := by
  obtain ⟨hlow, hhigh⟩ := h
  have hreturn : c ≠ '\r' := by
    rintro rfl
    exact absurd hlow (by decide)
  have hfeed : c ≠ '\n' := by
    rintro rfl
    exact absurd hlow (by decide)
  have hrange : ' ' ≤ c ∧ c ≤ '~' := ⟨Char.le_def.mpr (UInt32.le_iff_toNat_le.mpr hlow),
    Char.le_def.mpr (UInt32.le_iff_toNat_le.mpr hhigh)⟩
  unfold of
  rw [if_neg hreturn, if_neg hfeed, if_pos hrange]

/-- No picture is begun by a printable character of ASCII, and no pair of consonants. -/
theorem not_pictographic_of_printable {c : Char} (h : AsciiPrintable c) :
    Property.pictographic.has c = false ∧ Property.conjoining.has c = false := by
  obtain ⟨-, hhigh⟩ := h
  -- both tables begin behind ASCII
  have hpictures : ∀ p ∈ Property.pictographic.switches, 0x7E < p := by decide +kernel
  have hconsonants : ∀ p ∈ Property.conjoining.switches, 0x7E < p := by decide +kernel
  exact ⟨CharSet.hasCode_eq_false_of_lt fun p hp => Nat.lt_of_le_of_lt hhigh (hpictures p hp),
    CharSet.hasCode_eq_false_of_lt fun p hp => Nat.lt_of_le_of_lt hhigh (hconsonants p hp)⟩

/-- What is known of a text that ends in a printable character of ASCII. -/
def Past.printable : Past := ⟨.other, .none, .none, false⟩

/-- A printable character at the start of a text leaves nothing open. -/
theorem Past.start_of_printable {c : Char} (h : AsciiPrintable c) : start c = printable := by
  obtain ⟨hpicture, hconsonant⟩ := not_pictographic_of_printable h
  simp [start, Kind.of_printable h, nextPicture, nextConsonants, hpicture, hconsonant, printable]

/-- A printable character behind another leaves nothing open. -/
theorem Past.next_of_printable {c : Char} (h : AsciiPrintable c) :
    printable.next c = printable := by
  obtain ⟨hpicture, hconsonant⟩ := not_pictographic_of_printable h
  simp [next, Kind.of_printable h, nextPicture, nextConsonants, hpicture, hconsonant, printable]

/-- A printable character does not join the one in front of it. -/
theorem Past.joins_of_printable {c : Char} (h : AsciiPrintable c) :
    printable.joins c = false := by
  unfold joins
  rw [Kind.of_printable h]
  rfl

/-- Behind a printable character, none is drawn to what is in front and each is a cluster. -/
theorem clustersAfter_of_printable {cs : List Char} (h : ∀ c ∈ cs, AsciiPrintable c) :
    clustersAfter .printable cs = ([], cs.map fun c => [c]) := by
  induction cs with
  | nil => rfl
  | cons c rest ih =>
    have hc : AsciiPrintable c := h c List.mem_cons_self
    -- the character does not join what is in front of it, and the next one does not join it
    rw [clustersAfter, Past.next_of_printable hc, ih fun d hd => h d (List.mem_cons_of_mem c hd),
      Past.joins_of_printable hc]
    rfl

/-- Every character is a cluster of its own. -/
theorem clusters_eq_of_printable {cs : List Char} (h : ∀ c ∈ cs, AsciiPrintable c) :
    clusters cs = cs.map fun c => [c] := by
  cases cs with
  | nil => rfl
  | cons c rest =>
    rw [clusters, Past.start_of_printable (h c List.mem_cons_self),
      clustersAfter_of_printable fun d hd => h d (List.mem_cons_of_mem c hd)]
    rfl

/-- Every character takes one column. -/
theorem columns_of_printable {c : Char} (h : AsciiPrintable c) : columns [c] = 1 := by
  have hlow : c ≤ '\u00a0' := Char.le_def.mpr (UInt32.le_iff_toNat_le.mpr (Nat.le_trans h.2
    (by decide)))
  have hone : charColumns c = 1 := if_pos hlow
  show (((charColumns c : Int) + 0).toNat) = 1
  rw [hone]
  rfl

end AmountPad.Text
