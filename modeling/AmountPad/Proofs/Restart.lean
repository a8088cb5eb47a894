import Mathlib
import AmountPad.Proofs.Json.RoundTrip
import AmountPad.Proofs.Layout.Grid
import AmountPad.Proofs.Yaml.RoundTrip
import AmountPad.Settings.File

/-!
# Printed settings start the same pad

Settings are printed without the blanks at the end of their text. Behind JSON these are none of its
own, for it ends in a bracket. YAML ends with the last label, and one that is written without quotes
may have blanks at its end: a space without break at the end of a plain one, or more than one line
break at the end of a literal.

* `KeepsEnd` — texts that are written with an end that trimming leaves alone;
* `Settings.Restarts` — whether settings are read from their own print, and started from it.

Main results:

* `exists_scalar_end` — the last two characters that are written of a text tell whether it is one
  of those;
* `Settings.printed_yaml_eq_iff` — YAML is printed as it is written exactly if the last label is;
* `Settings.restarts_of_start` — what a program prints starts the same pad again, as JSON always and
  as YAML under that condition;
* `Settings.printed_yaml_loses_blank` — without it two keys may become one.
-/

namespace AmountPad

open Json (Node)
open Yaml

/-! ## Trimming -/

namespace Text

/-- A text that ends in ink keeps its end. -/
theorem dropBlanksEnd_concat_ink {c : Char} (h : isBlank c = false) (cs : List Char) :
    dropBlanksEnd (cs ++ [c]) = cs ++ [c] := by
  simp [dropBlanksEnd, dropBlanks, h]

/-- A blank at the end is dropped, and what is in front is looked at again. -/
theorem dropBlanksEnd_concat_blank {c : Char} (h : isBlank c = true) (cs : List Char) :
    dropBlanksEnd (cs ++ [c]) = dropBlanksEnd cs := by
  simp [dropBlanksEnd, dropBlanks, h]

theorem length_dropBlanksEnd_le (cs : List Char) : (dropBlanksEnd cs).length ≤ cs.length := by
  have h := List.length_dropWhile_le isBlank cs.reverse
  rw [List.length_reverse] at h
  simpa [dropBlanksEnd, dropBlanks] using h

/-- Trimming leaves a text alone that ends in a line break behind ink. -/
theorem dropBlanksEnd_line_eq_iff (cs : List Char) (x y : Char) :
    dropBlanksEnd (cs ++ [x, y]) ++ ['\n'] = cs ++ [x, y] ↔ isBlank x = false ∧ y = '\n' := by
  have hsplit : cs ++ [x, y] = (cs ++ [x]) ++ [y] := by simp
  have hbreak : isBlank '\n' = true := by decide
  rw [hsplit]
  constructor
  · intro h
    obtain ⟨hfront, hlast⟩ := List.append_inj' h rfl
    obtain rfl : '\n' = y := List.singleton_inj.mp hlast
    refine ⟨?_, rfl⟩
    rw [dropBlanksEnd_concat_blank hbreak] at hfront
    -- a blank in front of the line break would be lost
    by_contra hx
    rw [dropBlanksEnd_concat_blank (by simpa using hx)] at hfront
    have hlength := congrArg List.length hfront
    have hle := length_dropBlanksEnd_le cs
    rw [List.length_append, List.length_singleton] at hlength
    omega
  · rintro ⟨hx, rfl⟩
    rw [dropBlanksEnd_concat_blank hbreak, dropBlanksEnd_concat_ink hx]

theorem isBlank_of_isBreak {c : Char} (h : Yaml.isBreak c = true) : isBlank c = true := by
  simp only [Yaml.isBreak, Bool.or_eq_true, beq_iff_eq] at h
  obtain (((rfl | rfl) | rfl) | rfl) | rfl := h <;> decide

end Text

/-! ## How texts end -/

/-- Texts with an end that trimming leaves alone: they are written between quotes, or end in a
character that is no blank, with no more than one line break behind it. -/
def KeepsEnd (s : String) : Prop :=
  Writer.styleOf s = .singleQuoted ∨ Writer.styleOf s = .doubleQuoted ∨
    ∃ cs c, Text.isBlank c = false ∧ (s.toList = cs ++ [c] ∨ s.toList = cs ++ [c, '\n'])

/-- Without quotes, a text that does not end in a line feed has to end in ink. -/
theorem keepsEnd_iff {s : String} {cs : List Char} {c : Char} (hs : s.toList = cs ++ [c])
    (hc : c ≠ '\n') (hstyle : Writer.styleOf s = .plain ∨ Writer.styleOf s = .literal) :
    KeepsEnd s ↔ Text.isBlank c = false := by
  unfold KeepsEnd
  constructor
  · rintro (h | h | ⟨cs', c', hc', h | h⟩)
    · rw [h] at hstyle
      exact absurd hstyle (by decide)
    · rw [h] at hstyle
      exact absurd hstyle (by decide)
    · have hlast := List.append_inj_right' (hs.symm.trans h) rfl
      rwa [List.singleton_inj.mp hlast]
    · -- the last character would be the line break that it is not
      have hlast : cs ++ [c] = (cs' ++ [c']) ++ ['\n'] := by
        rw [← hs, h, List.append_assoc]
        rfl
      exact absurd (List.singleton_inj.mp (List.append_inj_right' hlast rfl)) hc
  · intro h
    exact .inr (.inr ⟨cs, c, h, .inl hs⟩)

/-- One that ends in a line break has to end in a line feed behind ink. -/
theorem keepsEnd_break_iff {s : String} {cs : List Char} {b : Char} (hs : s.toList = cs ++ [b])
    (hb : isBreak b = true) (hstyle : Writer.styleOf s = .literal) :
    KeepsEnd s ↔ ∃ cs' c, cs = cs' ++ [c] ∧ Text.isBlank c = false ∧ b = '\n' := by
  unfold KeepsEnd
  rw [hstyle]
  constructor
  · rintro (h | h | ⟨cs', c', hc', h | h⟩)
    · exact absurd h (by decide)
    · exact absurd h (by decide)
    · -- the last character would be ink, but it is a line break
      have hlast := List.append_inj_right' (hs.symm.trans h) rfl
      rw [← List.singleton_inj.mp hlast, Text.isBlank_of_isBreak hb] at hc'
      exact absurd hc' (by decide)
    · -- one line break with ink in front of it is what the text ends in
      have hsame : cs ++ [b] = (cs' ++ [c']) ++ ['\n'] := by
        rw [← hs, h, List.append_assoc]
        rfl
      obtain ⟨hfront, hlast⟩ := List.append_inj' hsame rfl
      exact ⟨cs', c', hfront, hc', List.singleton_inj.mp hlast⟩
  · rintro ⟨cs', c', rfl, hc', rfl⟩
    exact .inr (.inr ⟨cs', c', hc', .inr (by rw [hs, List.append_assoc]; rfl)⟩)

/-- The last line of a literal ends as its text does. -/
theorem exists_literalBody_concat (indent : Nat) (begun : Bool) (cs : List Char) (c : Char) :
    ∃ front, Writer.literalBody indent begun (cs ++ [c]) = front ++ [c] := by
  induction cs generalizing begun with
  | nil =>
    rw [List.nil_append, Writer.literalBody]
    split_ifs
    · exact ⟨[], rfl⟩
    · exact ⟨_, rfl⟩
    · exact ⟨[], rfl⟩
  | cons d cs ih =>
    -- whether a line has begun or not, what is written ends in the last character
    obtain ⟨front, hfront⟩ := ih true
    obtain ⟨front', hfront'⟩ := ih false
    rw [List.cons_append, Writer.literalBody, hfront, hfront']
    split_ifs
    · exact ⟨d :: front, rfl⟩
    · exact ⟨_ ++ d :: front', by rw [List.append_assoc]; rfl⟩
    · exact ⟨d :: front', rfl⟩

/-- A literal that ends in ink ends with a line break of its own. -/
theorem exists_literal_ink (indent : Nat) {s : String} (hstyle : Writer.styleOf s = .literal)
    {cs : List Char} {c : Char} (hs : s.toList = cs ++ [c]) (hc : isBreak c = false) :
    ∃ front, Writer.scalar indent s = front ++ [c, '\n'] := by
  obtain ⟨front, hbody⟩ := exists_literalBody_concat (indent + Writer.step) true cs c
  refine ⟨Writer.literalHeader s.toList ++ '\n' :: front, ?_⟩
  simp [Writer.scalar, hstyle, hs, hbody, hc]

/-- One that ends in a line break ends with that. -/
theorem literal_break (indent : Nat) {s : String} (hstyle : Writer.styleOf s = .literal)
    {cs : List Char} {b : Char} (hs : s.toList = cs ++ [b]) (hb : isBreak b = true) :
    Writer.scalar indent s = Writer.literalHeader s.toList ++
      '\n' :: (Writer.literalBody (indent + Writer.step) true cs ++ [b]) := by
  have hbody : Writer.literalBody (indent + Writer.step) true (cs ++ [b]) =
      Writer.literalBody (indent + Writer.step) true cs ++ [b] := literalBody_concat hb cs
  have hlast : s.toList.getLast?.any isBreak = true := by simp [hs, hb]
  simp only [Writer.scalar, hstyle, hlast, if_true, List.append_nil]
  rw [hs, hbody]

/-- The last two characters that are written of a text tell whether trimming leaves it alone. -/
theorem exists_scalar_end (indent : Nat) (s : String) :
    ∃ front x y, Writer.scalar indent s = front ++ [x, y] ∧
      (KeepsEnd s ↔ Text.isBlank x = false ∧ y = '\n') := by
  have hquote : Text.isBlank '\'' = false ∧ Text.isBlank '"' = false := by decide
  cases styled s with
  | single hstyle =>
    refine ⟨'\'' :: Writer.singleBody (indent + Writer.step) false s.toList, '\'', '\n', ?_, ?_⟩
    · simp [Writer.scalar, hstyle]
    · simp [KeepsEnd, hstyle, hquote]
  | double hstyle =>
    refine ⟨'"' :: s.toList.flatMap Writer.escapeChar, '"', '\n', ?_, ?_⟩
    · simp [Writer.scalar, hstyle]
    · simp [KeepsEnd, hstyle, hquote]
  | plain hstyle hfits hne =>
    obtain ⟨cs, c, hs⟩ := (List.eq_nil_or_concat s.toList).resolve_left hne
    rw [List.concat_eq_append] at hs
    -- a plain scalar is on one line
    have hc : c ≠ '\n' := by
      rintro rfl
      have hbreak := ((worded_of_fitsPlain hfits hne).spaced '\n' (by simp [hs])).1
      exact absurd hbreak (by decide)
    refine ⟨cs, c, '\n', ?_, ?_⟩
    · simp [Writer.scalar, hstyle, hs]
    · rw [keepsEnd_iff hs hc (.inl hstyle), and_iff_left rfl]
  | literal hstyle hfits hne =>
    obtain ⟨cs, c, hs⟩ := (List.eq_nil_or_concat s.toList).resolve_left hne
    rw [List.concat_eq_append] at hs
    cases hc : isBreak c with
    | false =>
      have hc' : c ≠ '\n' := by
        rintro rfl
        exact absurd hc (by decide)
      obtain ⟨front, hfront⟩ := exists_literal_ink indent hstyle hs hc
      refine ⟨front, c, '\n', hfront, ?_⟩
      rw [keepsEnd_iff hs hc' (.inr hstyle), and_iff_left rfl]
    | true =>
      -- the line break is the text's own, so what counts is the character in front of it
      have hscalar := literal_break indent hstyle hs hc
      obtain rfl | ⟨cs', d, hcs⟩ := List.eq_nil_or_concat cs
      · -- behind the header there is nothing but a line break
        refine ⟨Writer.literalHeader s.toList, '\n', c, hscalar, ?_⟩
        rw [keepsEnd_break_iff hs hc hstyle]
        constructor
        · rintro ⟨cs', c', hnil, -⟩
          exact absurd hnil (by simp)
        · rintro ⟨hblank, -⟩
          exact absurd hblank (by decide)
      · rw [List.concat_eq_append] at hcs
        subst hcs
        obtain ⟨front, hbody⟩ := exists_literalBody_concat (indent + Writer.step) true cs' d
        refine ⟨Writer.literalHeader s.toList ++ '\n' :: front, d, c, by simp [hscalar, hbody], ?_⟩
        rw [keepsEnd_break_iff hs hc hstyle]
        constructor
        · rintro ⟨cs'', c', hsame, hc', rfl⟩
          have hlast := List.singleton_inj.mp (List.append_inj_right' hsame rfl)
          exact ⟨hlast ▸ hc', rfl⟩
        · rintro ⟨hd, rfl⟩
          exact ⟨cs', d, rfl, hd, rfl⟩

/-! ## How settings end -/

/-- A sequence ends with its last item. -/
theorem item_suffix_items (indent : Nat) (begun : Bool) (ns : List Node) (n : Node) :
    Writer.item indent n <:+ Writer.items indent begun (ns ++ [n]) := by
  induction ns generalizing begun with
  | nil =>
    rw [List.nil_append, Writer.items, Writer.items, List.append_nil]
    exact (List.suffix_append ['-', ' '] _).trans (List.suffix_append _ _)
  | cons first ns ih =>
    rw [List.cons_append, Writer.items]
    exact (ih false).trans (List.suffix_append _ _)

/-- A sequence ends with its last item. -/
theorem item_suffix_list (indent : Nat) (ns : List Node) (n : Node) :
    Writer.item (indent + 2) n <:+ Writer.item indent (.list (ns ++ [n])) := by
  have hitems := item_suffix_items (indent + Writer.step) true ns n
  cases ns <;> exact hitems

theorem item_suffix_member (indent : Nat) (ns : List Node) (n : Node) :
    Writer.item indent n <:+ Writer.member indent (.list (ns ++ [n])) := by
  have hitems := (item_suffix_items indent false ns n).trans (List.suffix_cons '\n' _)
  cases ns <;> exact hitems

namespace Settings

/-- The text of settings ends with the last label. -/
theorem scalar_suffix_toYaml {s : Settings} {rows : List (List String)} {labels : List String}
    {label : String} (hs : s.rows = rows ++ [labels ++ [label]]) :
    Writer.scalar 2 label <:+ s.toYaml.toList := by
  let node (row : List String) : Node := .list (row.map .text)
  have hrow : Writer.scalar 2 label <:+ Writer.item 0 (node (labels ++ [label])) := by
    unfold node
    rw [List.map_append, List.map_singleton]
    exact item_suffix_list 0 (labels.map .text) (.text label)
  have hrows : Writer.scalar 2 label <:+ Writer.member 0 (.list (s.rows.map node)) := by
    rw [hs, List.map_append, List.map_singleton]
    exact hrow.trans (item_suffix_member 0 _ _)
  rw [toYaml, String.toList_ofList, toNode, Writer.write]
  simp only [Writer.members, List.append_nil]
  exact hrows.trans ((List.suffix_cons ':' _).trans
    ((List.suffix_append _ _).trans ((List.suffix_append _ _).trans (List.suffix_append _ _))))

/-- Settings with a last label that trimming leaves alone. -/
def KeepsEnd (s : Settings) : Prop :=
  ∃ label, s.rows.flatten.getLast? = some label ∧ AmountPad.KeepsEnd label

/-- Rows that make a layout have a last label. -/
theorem exists_last_label {s : Settings} {layout : Layout} (h : s.layout = .ok layout) :
    ∃ rows labels label, s.rows = rows ++ [labels ++ [label]] := by
  obtain ⟨width, hr, -⟩ := Layout.ofRows_eq_ok_iff.mp h
  obtain ⟨rows, row, hrows⟩ := (List.eq_nil_or_concat s.rows).resolve_left hr.rows_ne_nil
  rw [List.concat_eq_append] at hrows
  -- no row is empty, for all have the width of the layout
  have hwidth : row.length = width := hr.even row (by simp [hrows])
  have hne : row ≠ [] := List.ne_nil_of_length_pos (hwidth ▸ hr.width_pos)
  obtain ⟨labels, label, hrow⟩ := (List.eq_nil_or_concat row).resolve_left hne
  rw [List.concat_eq_append] at hrow
  exact ⟨rows, labels, label, by rw [hrows, hrow]⟩

/-- What is printed as YAML is the text of the settings exactly if its last label is one that
trimming leaves alone. -/
theorem printed_yaml_eq_iff {s : Settings} {layout : Layout} (h : s.layout = .ok layout) :
    s.printed .yaml = s.toYaml ↔ s.KeepsEnd := by
  obtain ⟨rows, labels, label, hrows⟩ := exists_last_label h
  have hlast : s.rows.flatten.getLast? = some label := by simp [hrows]
  obtain ⟨front, x, y, hscalar, hkeeps⟩ := exists_scalar_end 2 label
  obtain ⟨before, htext⟩ := scalar_suffix_toYaml hrows
  rw [hscalar, ← List.append_assoc] at htext
  have hends : s.KeepsEnd ↔ AmountPad.KeepsEnd label := by simp [KeepsEnd, hlast]
  rw [hends, hkeeps, ← Text.dropBlanksEnd_line_eq_iff (before ++ front), htext, ← String.toList_inj,
    printed, Text.trimEnd, String.toList_append, String.toList_ofList]
  rfl

end Settings

/-! ## Programs that start from what was printed -/

/-- What two steps give, both have given. -/
theorem exists_of_bind {α β : Type} {first : Except Failure α} {next : α → Except Failure β} {b : β}
    (h : first >>= next = .ok b) : ∃ a, first = .ok a ∧ next a = .ok b := by
  cases first with
  | error e => exact nomatch h
  | ok a => exact ⟨a, rfl, h⟩

namespace Settings

/-- Whether what is printed of settings in a format gives them back, read as that format or as the
file that a program starts from. -/
def Restarts (s : Settings) (format : Format) : Prop :=
  parse format (s.printed format) = .ok s ∧
    ∀ (files : Files) (path : String), Format.ofPath path = format →
      files.readText path = .ok (s.printed format) → start files (some path) none = .ok s

theorem exists_layout_of_prepare {s s' : Settings} {policy : Option Policy}
    (h : s.prepare policy = .ok s') : ∃ layout, s'.layout = .ok layout := by
  obtain ⟨layout, hbuild, hsame⟩ := exists_of_bind h
  obtain rfl := Except.ok.inj hsame
  exact ⟨layout, Layout.build_eq_ok_iff.mp hbuild⟩

/-- A program starts with settings that make a layout. -/
theorem exists_layout_of_start {files : Files} {path : Option String} {policy : Option Policy}
    {s : Settings} (h : start files path policy = .ok s) : ∃ layout, s.layout = .ok layout := by
  cases path with
  | none =>
    obtain ⟨s', -, hprepare⟩ := exists_of_bind h
    exact exists_layout_of_prepare hprepare
  | some path =>
    obtain ⟨s', -, hprepare⟩ := exists_of_bind h
    exact exists_layout_of_prepare hprepare

/-- A file is read in the format of its name. -/
theorem load_of_readText {files : Files} {path text : String}
    (h : files.readText path = .ok text) : load files path = parse (Format.ofPath path) text := by
  simp only [load, ofFile, h, Except.mapError, bind, Except.bind]

/-- A program starts with what it loads. -/
theorem start_of_load {files : Files} {path : String} {s : Settings} (h : load files path = .ok s) :
    start files (some path) none = (Layout.build s.rows).map fun _ => s := by
  unfold start prepare
  simp only [h, bind, Except.bind, Option.getD_none]
  cases Layout.build s.rows <;> rfl

/-- Settings that make a layout and are parsed from their own print are those a program starts
with. -/
theorem restarts_of_parse {s : Settings} {layout : Layout} {format : Format}
    (h : s.layout = .ok layout) (hparse : parse format (s.printed format) = .ok s) :
    s.Restarts format := by
  refine ⟨hparse, fun files path hpath htext => ?_⟩
  have hload : load files path = .ok s := by rw [load_of_readText htext, hpath, hparse]
  rw [start_of_load hload, Layout.build_eq_ok_iff.mpr h]
  rfl

/-- Behind JSON a line break changes nothing. -/
theorem parse_printed_json (s : Settings) : parse .json (s.printed .json) = .ok s := by
  -- the closing bracket is ink, and keeps what is in front of it
  obtain ⟨front, hfront⟩ : ∃ front, s.toNode.pretty 0 = front ++ ['}'] := by
    rw [toNode, Node.pretty, ← List.cons_append]
    exact ⟨_, rfl⟩
  have hprinted : (s.printed .json).toList = s.toNode.pretty 0 ++ ['\n'] := by
    rw [printed, Text.trimEnd, String.toList_append, String.toList_ofList, render, toJson,
      String.toList_ofList, hfront, Text.dropBlanksEnd_concat_ink (by decide)]
    rfl
  have htokens : Json.tokens (s.printed .json).toList = s.toNode.tokens := by
    rw [hprinted, Json.tokens_pretty, Json.tokens_blank rfl, Json.tokens_nil, List.append_nil]
  have hread := Settings.reads s []
  rw [List.append_nil] at hread
  rw [parse, ofJson, Json.Reader.ofText, htokens, hread]
  rfl

/-- Settings that were written as YAML are read back. -/
theorem parse_toYaml (s : Settings) : parse .yaml s.toYaml = .ok s := by
  obtain ⟨is, hdocument, his⟩ := s.exists_document
  rw [parse, ofYaml, Yaml.Reader.ofText_of_reads reads_yaml hdocument his]
  rfl

/-- **Settings that were printed start the same pad**: always from JSON, and from YAML if trimming
leaves the last label alone. Only then is YAML printed as it is written. -/
theorem restarts_of_start {files : Files} {path : Option String} {policy : Option Policy}
    {s : Settings} (h : start files path policy = .ok s) :
    s.Restarts .json ∧ (s.KeepsEnd → s.Restarts .yaml) ∧
      (s.printed .yaml = s.toYaml ↔ s.KeepsEnd) := by
  obtain ⟨layout, hl⟩ := exists_layout_of_start h
  have hprinted := printed_yaml_eq_iff hl
  refine ⟨restarts_of_parse hl (parse_printed_json s), fun hs => ?_, hprinted⟩
  refine restarts_of_parse hl ?_
  rw [hprinted.mpr hs]
  exact parse_toYaml s

/-- Without a file, the default keys and another policy. -/
theorem restarts_of_start_satoshi :
    start {} none (some .required) = .ok { policy := .required } ∧
      ({ policy := .required } : Settings).Restarts .json ∧
      ({ policy := .required } : Settings).Restarts .yaml := by
  have hstart : start {} none (some .required) = .ok { policy := .required } := by rfl
  obtain ⟨hjson, hyaml, -⟩ := restarts_of_start hstart
  exact ⟨hstart, hjson, hyaml ⟨"000", by rfl, .inl (by decide +kernel)⟩⟩

/-! ## A label that is lost -/

/-- Two keys that differ in a blank, and what is left of them when it is trimmed away. -/
def spaced : Settings := { rows := [["a", "a\u00a0"]] }

def unspaced : Settings := { rows := [["a", "a"]] }

/-- One file with a text. -/
def fileOf (text : String) : Files := ⟨[("pad", .file text.toUTF8)]⟩

theorem splitOn_pad : "pad".splitOn "/" = ["pad"] := by
  have hstep (i : String.Pos.Raw) (hend : ¬ i.atEnd "pad" = true)
      (hslash : ¬ (i.get "pad" == String.Pos.Raw.get "/" 0) = true) :
      "pad".splitOnAux "/" 0 i 0 [] =
        "pad".splitOnAux "/" 0 ((i.unoffsetBy 0).next "pad") 0 [] := by
    rw [String.splitOnAux, if_neg hend, if_neg hslash]
  unfold String.splitOn
  -- one step for each letter
  rw [if_neg (by decide), hstep _ (by decide) (by decide), hstep _ (by decide) (by decide),
    hstep _ (by decide) (by decide), String.splitOnAux]
  decide

/-- A text is decoded from its own bytes. -/
theorem fromUTF8?_toUTF8 (text : String) : String.fromUTF8? text.toUTF8 = some text :=
  dif_pos text.isValidUTF8

theorem readText_fileOf (text : String) : (fileOf text).readText "pad" = .ok text := by
  have hlocate : (fileOf text).locate "pad" = .ok ["pad"] := by
    rw [Files.locate, splitOn_pad]
    rfl
  have hentry : Files.entryAt ["pad"] (fileOf text).root = some (.file text.toUTF8) := by rfl
  simp only [Files.readText, hlocate, hentry, fromUTF8?_toUTF8, bind, Except.bind]
  rfl

/-- Settings in a file without an ending are read back as YAML. -/
theorem load_fileOf (s : Settings) : load (fileOf s.toYaml) "pad" = .ok s := by
  have hpath : Format.ofPath "pad" = .yaml := by decide +kernel
  rw [load_of_readText (readText_fileOf _), hpath, parse_toYaml]

/-- The second key loses its blank, so that both have one label: the program that printed the text
does not start from it. -/
theorem printed_yaml_loses_blank :
    start (fileOf spaced.toYaml) (some "pad") none = .ok spaced ∧
      parse .yaml (spaced.printed .yaml) = .ok unspaced ∧ unspaced ≠ spaced ∧
      start (fileOf unspaced.toYaml) (some "pad") none = .error (.invalidLayout (.duplicateLabel "a")) ∧
      ¬ spaced.Restarts .yaml := by
  have hprinted : spaced.printed .yaml = unspaced.toYaml := by decide +kernel
  have hparse : parse .yaml (spaced.printed .yaml) = .ok unspaced := by
    rw [hprinted]
    exact parse_toYaml unspaced
  have hne : unspaced ≠ spaced := by decide
  refine ⟨?_, hparse, hne, ?_, fun h => ?_⟩
  · rw [start_of_load (load_fileOf spaced)]
    have hbuild : Layout.build spaced.rows = .ok ⟨Layout.gridKeys 0 spaced.rows, 1, 2⟩ := by
      decide +kernel
    rw [hbuild]
    rfl
  · rw [start_of_load (load_fileOf unspaced)]
    have hbuild : Layout.build unspaced.rows = .error (.invalidLayout (.duplicateLabel "a")) := by
      decide +kernel
    rw [hbuild]
    rfl
  · -- the printed text gives one value only
    have hsame := hparse.symm.trans h.1
    exact hne (Except.ok.inj hsame)

end Settings

end AmountPad
