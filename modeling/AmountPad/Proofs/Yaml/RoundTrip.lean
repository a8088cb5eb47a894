import Mathlib
import AmountPad.Proofs.Yaml.Reader
import AmountPad.Settings.Yaml

/-!
# Settings that are written as YAML can be read

Whatever their labels and identifiers are, the YAML text of settings gives the settings back.

Main results:

* `Settings.reads_yaml` — the reader of settings gives back what is written;
* `Settings.ofYaml_toYaml` — so does a whole text.
-/

namespace AmountPad

open Json (Node)
open Yaml (Document IsOf Items Reader)
open Yaml.Reader (Reads Takes)

/-- A markup is given back: its four members come in the order in which they are written. -/
theorem Markup.reads_yaml : Reads Markup.yamlReader Markup.toNode := by
  intro m d path jumps is rest his hlength
  obtain ⟨keyClass, displayId, clearId, backspaceId⟩ := m
  have hread := Yaml.Reader.reads_text "a string"
  -- each member fills the place of its name, which was empty
  have htakes : Takes Given.has yamlStep {}
      [("key_class", .text keyClass), ("display_id", .text displayId),
        ("clear_id", .text clearId), ("backspace_id", .text backspaceId)]
      ⟨some keyClass, some displayId, some clearId, some backspaceId⟩ := by
    refine .cons ⟨some keyClass, none, none, none⟩ rfl (fun d path jumps is behind his hlength => ?_)
      (.cons ⟨some keyClass, some displayId, none, none⟩ rfl
        (fun d path jumps is behind his hlength => ?_)
        (.cons ⟨some keyClass, some displayId, some clearId, none⟩ rfl
          (fun d path jumps is behind his hlength => ?_)
          (.cons _ rfl (fun d path jumps is behind his hlength => ?_) (.nil _))))
    all_goals
      rw [yamlStep]
      simp only [hread _ d path jumps behind his hlength, bind, Except.bind]
      rfl
  have hmapping := Yaml.Reader.mapping_of_takes htakes "struct MarkupConfig" d path jumps rest his
    hlength
  rw [yamlReader, hmapping]
  rfl

theorem Policy.reads_yaml : Reads (Reader.variant Policy.byName) fun p => .text p.name :=
  Yaml.Reader.reads_variant fun p => by cases p <;> rfl

/-- Rows of labels are given back, as lists of lists of texts. -/
theorem Settings.reads_yamlRows :
    Reads yamlRowsReader fun rows => .list (rows.map fun row => .list (row.map .text)) :=
  (Yaml.Reader.reads_text "a string").list.list

/-- **Settings are given back**: their three members come in the order in which they are written. -/
theorem Settings.reads_yaml : Reads Settings.yamlReader Settings.toNode := by
  intro s d path jumps is rest his hlength
  obtain ⟨markup, policy, rows⟩ := s
  -- each member fills the part of its name, which was empty
  have htakes : Takes Given.has yamlStep {}
      [("markup", markup.toNode), ("controls", .text policy.name),
        ("layout", .list (rows.map fun row => .list (row.map .text)))]
      ⟨some markup, some policy, some rows⟩ := by
    refine .cons ⟨some markup, none, none⟩ rfl (fun d path jumps is behind his hlength => ?_)
      (.cons ⟨some markup, some policy, none⟩ rfl (fun d path jumps is behind his hlength => ?_)
        (.cons _ rfl (fun d path jumps is behind his hlength => ?_) (.nil _)))
    · rw [yamlStep, Markup.reads_yaml markup d path jumps behind his hlength]
      rfl
    · rw [yamlStep, Policy.reads_yaml policy d path jumps behind his hlength]
      rfl
    · rw [yamlStep, reads_yamlRows rows d path jumps behind his hlength]
      rfl
  have hmapping := Yaml.Reader.mapping_of_takes htakes "struct KeypadConfig" d path jumps rest his
    hlength
  rw [yamlReader, hmapping]
  rfl

/-! ## Whole texts -/

theorem itemsHaveNames_of_forall {ns : List Node} (h : ∀ n ∈ ns, Yaml.HasNames n) :
    Yaml.ItemsHaveNames ns := by
  induction ns with
  | nil => trivial
  | cons n ns ih =>
    exact ⟨h n List.mem_cons_self, ih fun n' hn' => h n' (List.mem_cons_of_mem n hn')⟩

/-- That a name can be written as it is can be found out by computation. -/
theorem isName_of_checked {name : String}
    (h : (name.toList.all Yaml.isWordChar && name.toList.head?.any (· != '-') &&
      decide (name.toList.length ≤ 1024)) = true) : Yaml.IsName name.toList := by
  simp only [Bool.and_eq_true, List.all_eq_true, decide_eq_true_eq] at h
  obtain ⟨⟨hword, hdash⟩, hlength⟩ := h
  cases hname : name.toList with
  | nil => simp [hname] at hdash
  | cons c cs =>
    rw [hname] at hword hdash hlength
    exact ⟨c, cs, rfl, hword, by simpa using hdash, hlength⟩

/-- The names of the members of settings are written as they are. -/
theorem Settings.membersHaveNames (s : Settings) :
    Yaml.MembersHaveNames [("markup", s.markup.toNode), ("controls", .text s.policy.name),
      ("layout", .list (s.rows.map fun row => .list (row.map .text)))] := by
  have hmarkup : Yaml.HasNames s.markup.toNode :=
    ⟨isName_of_checked (by rfl), trivial, isName_of_checked (by rfl), trivial,
      isName_of_checked (by rfl), trivial, isName_of_checked (by rfl), trivial, trivial⟩
  have hrows : Yaml.HasNames (.list (s.rows.map fun row => .list (row.map .text))) := by
    refine itemsHaveNames_of_forall fun n hn => ?_
    obtain ⟨row, -, rfl⟩ := List.mem_map.mp hn
    refine itemsHaveNames_of_forall fun n hn => ?_
    obtain ⟨label, -, rfl⟩ := List.mem_map.mp hn
    trivial
  exact ⟨isName_of_checked (by rfl), hmarkup, isName_of_checked (by rfl), trivial,
    isName_of_checked (by rfl), hrows, trivial⟩

/-- The document of settings that are written holds them and nothing else. -/
theorem Settings.exists_document (s : Settings) :
    ∃ is : Items, Document.ofText s.toYaml.toList = ⟨is, [], none, false⟩ ∧
      IsOf is (Yaml.parts s.toNode) := by
  obtain ⟨is, hdocument, his⟩ := Document.ofText_write s.membersHaveNames
  rw [toYaml, String.toList_ofList]
  exact ⟨is, hdocument, Yaml.isOf_of_map his⟩

/-- **Settings that are written as YAML are read back**, whatever their identifiers, labels, rows
and policy are: each text is written in a style that holds it. -/
theorem Settings.ofYaml_toYaml (s : Settings) : Settings.ofYaml s.toYaml = .ok s := by
  obtain ⟨is, hdocument, his⟩ := s.exists_document
  exact Yaml.Reader.ofText_of_reads reads_yaml hdocument his

end AmountPad
