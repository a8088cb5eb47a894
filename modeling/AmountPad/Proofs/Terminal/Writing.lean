import Mathlib
import AmountPad.Proofs.Layout
import AmountPad.Proofs.Terminal.Picture
import AmountPad.Proofs.Text.Printable

/-!
# Writing plain texts

A text is written by its clusters, each in the columns that it takes. Where every character is a
cluster of its own and takes one column, this is a row of inks, one for each character, as far as there
is room. A line of several texts is one such row, at the left or at the right of its rectangle.

* `Plain` — texts of this kind; those of printable characters of ASCII are plain;
* `Layout.Printable` — layouts with labels of such characters.

Main results:

* `write_of_plain` — a plain text is written character by character;
* `writeLine_right_of_plain` — so is a line of plain texts, which ends where its rectangle does.
-/

namespace AmountPad

open Text (AsciiPrintable clusters columns)

/-- Whether all labels are of printable characters of ASCII. -/
def Layout.Printable (layout : Layout) : Prop :=
  ∀ label ∈ layout.labels, ∀ c ∈ label.toList, AsciiPrintable c

/-- The labels of the satoshi pad are digits. -/
theorem Layout.printable_satoshi : satoshi.Printable := by
  intro label hlabel
  have hall : (satoshi.labels.all fun label =>
      label.toList.all fun c => decide (AsciiPrintable c)) = true := by decide +kernel
  exact Text.printable_of_all (List.all_eq_true.mp hall label hlabel)

namespace Terminal

/-! ## Plain texts -/

/-- A text of characters that stand by themselves in one column each, without control characters. -/
structure Plain (text : List Char) : Prop where
  clusters_eq : clusters text = text.map fun c => [c]
  columns_eq : ∀ c ∈ text, columns [c] = 1
  no_control : ∀ c ∈ text, isControl c = false

theorem not_isControl_of_printable {c : Char} (h : AsciiPrintable c) : isControl c = false := by
  obtain ⟨hlow, hhigh⟩ := h
  unfold isControl
  rw [Bool.or_eq_false_iff, Bool.and_eq_false_iff, decide_eq_false_iff_not,
    decide_eq_false_iff_not]
  omega

theorem plain_of_printable {text : List Char} (h : ∀ c ∈ text, AsciiPrintable c) : Plain text where
  clusters_eq := Text.clusters_eq_of_printable h
  columns_eq := fun c hc => Text.columns_of_printable (h c hc)
  no_control := fun c hc => not_isControl_of_printable (h c hc)

/-- What writes a character in a style. -/
def charInk (style : Style) (c : Char) : Ink := .put [c] style

/-- Clusters of one column each are written side by side, as many as there is room for. -/
theorem writeClusters_of_columns {style : Style} {y x left : Nat} {text : List Char}
    (h : ∀ c ∈ text, columns [c] = 1) :
    writeClusters style y x left (text.map fun c => [c]) =
      inkRow x y ((text.take left).map (charInk style)) := by
  induction text generalizing x left with
  | nil =>
    rw [List.take_nil]
    rfl
  | cons c rest ih =>
    have hc : columns [c] = 1 := h c List.mem_cons_self
    rw [List.map_cons, writeClusters, hc, if_neg Nat.one_ne_zero]
    cases left with
    | zero =>
      rw [if_pos Nat.one_pos]
      rfl
    | succ left =>
      -- one character covers no second column
      rw [if_neg (by omega), Nat.add_sub_cancel, ih fun d hd => h d (List.mem_cons_of_mem c hd),
        List.take_succ_cons, List.map_cons, inkRow_cons]
      rfl

/-- A plain text is written character by character, as far as there is room. -/
theorem write_of_plain {style : Style} {x y left : Nat} {text : List Char} (h : Plain text) :
    write style x y left text = inkRow x y ((text.take left).map (charInk style)) := by
  have hkept : ((clusters text).filter fun cluster => !cluster.any isControl) =
      text.map fun c => [c] := by
    rw [h.clusters_eq, List.filter_eq_self]
    intro cluster hcluster
    obtain ⟨c, hc, rfl⟩ := List.mem_map.mp hcluster
    simp [h.no_control c hc]
  unfold write
  rw [hkept, writeClusters_of_columns h.columns_eq]

/-! ## Lines -/

/-- The inks of a line of plain texts. -/
def lineInks (spans : List Span) : List Ink :=
  spans.flatMap fun span => span.text.map (charInk span.style)

/-- A plain text falls into pieces of one character each; nothing of it is left out. -/
theorem pieces_of_plain {span : Span} (h : Plain span.text) :
    span.pieces = span.text.map fun c => ⟨[c], span.style⟩ := by
  have hkept : (clusters span.text).filter (· != ['\n']) = span.text.map fun c => [c] := by
    rw [h.clusters_eq, List.filter_eq_self]
    intro cluster hcluster
    obtain ⟨c, hc, rfl⟩ := List.mem_map.mp hcluster
    -- a line feed is a control character
    have hfeed : c ≠ '\n' := by
      rintro rfl
      have hcontrol := h.no_control '\n' hc
      exact absurd hcontrol (by decide)
    simpa using hfeed
  unfold Span.pieces
  rw [hkept, List.map_map]
  rfl

section

variable {pieces : List Piece} (h : ∀ p ∈ pieces, p.width = 1)
include h

/-- Of pieces of one column each, as many fit as there are columns left. -/
theorem fitting_of_width_one {whole : Nat} (hwhole : 0 < whole) (left : Nat) :
    fitting whole left pieces = pieces.take left := by
  induction pieces generalizing left with
  | nil =>
    rw [List.take_nil]
    rfl
  | cons p rest ih =>
    rw [fitting, h p List.mem_cons_self, if_neg (by omega)]
    cases left with
    | zero => rw [if_pos Nat.one_pos, List.take_zero]
    | succ left =>
      rw [if_neg (by omega), Nat.add_sub_cancel, ih fun q hq => h q (List.mem_cons_of_mem p hq),
        List.take_succ_cons]

/-- Pieces of one column each make a line as wide as there are pieces. -/
theorem lineWidth_of_width_one : lineWidth pieces = pieces.length := by
  have hsum : ∀ n, pieces.foldl (fun n p => n + p.width) n = n + pieces.length := by
    induction pieces with
    | nil => exact fun n => rfl
    | cons p rest ih =>
      intro n
      rw [List.foldl_cons, h p List.mem_cons_self, ih fun q hq => h q (List.mem_cons_of_mem p hq),
        List.length_cons, Nat.add_assoc, Nat.add_comm 1]
  unfold lineWidth
  rw [hsum, Nat.zero_add]

/-- Pieces of one column each are a row of inks. -/
theorem writePieces_of_width_one (y x : Nat) :
    writePieces y x pieces = inkRow x y (pieces.map fun p => .put p.cluster p.style) := by
  induction pieces generalizing x with
  | nil => rfl
  | cons p rest ih =>
    rw [writePieces, h p List.mem_cons_self, if_neg Nat.one_ne_zero,
      ih fun q hq => h q (List.mem_cons_of_mem p hq), List.map_cons, inkRow_cons]
    rfl

end

/-- A line of plain texts is written character by character, as far as there is room, and ends where
its rectangle does. -/
theorem writeLine_right_of_plain {spans : List Span} (h : ∀ span ∈ spans, Plain span.text)
    {r : Rect} (hwidth : 0 < r.width) (hheight : 0 < r.height) :
    writeLine .right spans r =
      inkRow (r.x + (r.width - (lineInks spans).length)) r.y ((lineInks spans).take r.width) := by
  have hempty : r.isEmpty = false := by
    unfold Rect.isEmpty
    rw [Bool.or_eq_false_iff, beq_eq_false_iff_ne, beq_eq_false_iff_ne]
    omega
  have hpieces : spans.flatMap Span.pieces =
      spans.flatMap fun span => span.text.map fun c => ⟨[c], span.style⟩ := by
    unfold List.flatMap
    rw [List.map_congr_left fun span hspan => pieces_of_plain (h span hspan)]
  have hone : ∀ p ∈ spans.flatMap Span.pieces, p.width = 1 := by
    intro p hp
    rw [hpieces, List.mem_flatMap] at hp
    obtain ⟨span, hspan, hp⟩ := hp
    obtain ⟨c, hc, rfl⟩ := List.mem_map.mp hp
    exact (h span hspan).columns_eq c hc
  have hinks : (spans.flatMap Span.pieces).map (fun p => Ink.put p.cluster p.style) =
      lineInks spans := by
    rw [hpieces, List.map_flatMap]
    unfold lineInks
    simp only [List.map_map]
    rfl
  have hlength : (spans.flatMap Span.pieces).length = (lineInks spans).length := by
    rw [← hinks, List.length_map]
  have htake : ∀ p ∈ (spans.flatMap Span.pieces).take r.width, p.width = 1 := fun p hp =>
    hone p (List.mem_of_mem_take hp)
  unfold writeLine
  rw [hempty, if_neg Bool.false_ne_true, fitting_of_width_one hone hwidth]
  dsimp only
  rw [lineWidth_of_width_one htake, writePieces_of_width_one htake, List.map_take, hinks,
    List.length_take, hlength]
  -- a line that is cut off leaves no columns in front of it
  have hoffset : r.width - min r.width (lineInks spans).length =
      r.width - (lineInks spans).length := by omega
  rw [hoffset]

/-- A line is drawn in the first row of its rectangle. -/
theorem y_of_mem_writeLine {alignment : Alignment} {spans : List Span} {r : Rect} {s : Stroke}
    (h : s ∈ writeLine alignment spans r) : s.y = r.y := by
  -- pieces go on along the row in which the first one starts
  have hpieces : ∀ (pieces : List Piece) x, s ∈ writePieces r.y x pieces → s.y = r.y := by
    intro pieces
    induction pieces with
    | nil => exact fun x hs => absurd hs List.not_mem_nil
    | cons p rest ih =>
      intro x hs
      rw [writePieces, List.mem_append] at hs
      rcases hs with hs | hs
      · split at hs
        · exact absurd hs List.not_mem_nil
        · rw [List.mem_singleton.mp hs]
      · exact ih _ hs
  unfold writeLine at h
  split at h
  · exact absurd h List.not_mem_nil
  · exact hpieces _ _ h

end Terminal

end AmountPad
