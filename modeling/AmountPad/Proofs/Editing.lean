import Mathlib
import AmountPad.Proofs.Entry

/-!
# Editing an amount

An amount is edited at its end: a label is put there with all its characters, and a backspace takes
one character away, also from the middle of a label. So an amount is a stack of characters, on which
labels are pushed several characters at a time. A clear takes away everything there is, and with it
all that could tell one amount from another.

Main results:

* `Amount.toList_runAll_labels`, `Amount.toList_runAll_backspaces` — runs of labels and of
  backspaces;
* `Amount.runAll_eq_of_split` — what comes behind a clear is all that counts;
* `Amount.edits_as_stack` — both, for every amount and every list.
-/

namespace AmountPad

namespace Amount

variable {wired : Controls}

/-! ## Runs of one kind of action -/

/-- A run of a list of actions goes on where the run of its front has ended. -/
theorem runAll_append (a : Amount) (wired : Controls) (before after : List Action) :
    a.runAll wired (before ++ after) = (a.runAll wired before).runAll wired after :=
  List.foldl_append

/-- Labels are written one behind the other. -/
theorem toList_runAll_labels (a : Amount) (wired : Controls) (labels : List String) :
    (a.runAll wired (labels.map .append)).text.toList =
      a.text.toList ++ labels.flatMap String.toList := by
  rw [toList_runAll, List.foldl_map]
  -- every label is appended, whatever controls there are
  show labels.foldl (fun chars label => chars ++ label.toList) a.text.toList = _
  rw [List.foldl_append_eq_append, List.flatMap_def]

/-- A backspace leaves the characters in front of the last one, so that of several each leaves one
character less. -/
theorem foldl_enter_backspaces (hb : wired.backspace = true) (chars : List Char) (k : Nat) :
    (List.replicate k .backspace).foldl (enter wired) chars = chars.take (chars.length - k) := by
  induction k generalizing chars with
  | zero => exact (List.take_length).symm
  | succ k ih =>
    have hfirst : enter wired chars .backspace = chars.take (chars.length - 1) := by
      rw [enter, if_pos hb, List.dropLast_eq_take]
    rw [List.replicate_succ, List.foldl_cons, hfirst, ih, List.length_take, List.take_take]
    congr 1
    omega

/-- As many characters are taken away as there are backspaces, or all of them. -/
theorem toList_runAll_backspaces (hb : wired.backspace = true) (a : Amount) (k : Nat) :
    (a.runAll wired (List.replicate k .backspace)).text.toList =
      a.text.toList.take (a.length - k) := by
  rw [toList_runAll, foldl_enter_backspaces hb]
  rfl

/-! ## What a clear leaves -/

/-- A clear that is wired leaves nothing. -/
theorem run_clear (hc : wired.clear = true) (a : Amount) : a.run wired .clear = empty := by
  rw [run_eq]
  exact if_pos hc

/-- Nothing in front of a clear counts, and neither does the amount that the run started with. -/
theorem runAll_eq_of_split (hc : wired.clear = true) (a : Amount) (before after : List Action) :
    a.runAll wired (before ++ .clear :: after) = empty.runAll wired after := by
  rw [runAll_append]
  show ((a.runAll wired before).run wired .clear).runAll wired after = _
  rw [run_clear hc]

/-- A list with a clear has a last one. -/
theorem exists_last_clear {actions : List Action} (h : .clear ∈ actions) :
    ∃ before after, actions = before ++ .clear :: after ∧ .clear ∉ after := by
  obtain ⟨later, earlier, hsplit, hfirst⟩ :=
    List.eq_append_cons_of_mem (List.mem_reverse.mpr h)
  refine ⟨earlier.reverse, later.reverse, ?_, fun hmem => hfirst (List.mem_reverse.mp hmem)⟩
  have hback := congrArg List.reverse hsplit
  rw [List.reverse_reverse] at hback
  simpa using hback

/-- **An amount is a stack of characters that a clear forgets.** Labels and then backspaces leave
the first of all characters, those of the amount followed by those of the labels, less one for each
backspace; the amount counts as many. So as many backspaces as the labels have characters lead back.
Behind a clear that is wired it makes no difference which amount a list of actions started with: it
leads where the actions behind its last clear lead from nothing. -/
theorem edits_as_stack (wired : Controls) :
    (wired.backspace = true → ∀ (a : Amount) (labels : List String) (k : Nat),
      let chars := a.text.toList ++ labels.flatMap String.toList
      let left := a.runAll wired (labels.map .append ++ List.replicate k .backspace)
      left.text.toList = chars.take (chars.length - k) ∧ left.length = chars.length - k) ∧
    (wired.backspace = true → ∀ (a : Amount) (labels : List String),
      a.runAll wired (labels.map .append ++
        List.replicate (labels.flatMap String.toList).length .backspace) = a) ∧
    (wired.permits .clear = true → ∀ actions : List Action, .clear ∈ actions →
      ∃ before after, actions = before ++ .clear :: after ∧ .clear ∉ after ∧
        (∀ a b : Amount, a.runAll wired actions = b.runAll wired actions) ∧
        ∀ a : Amount, a.runAll wired actions = empty.runAll wired after) := by
  -- the first two parts are this equation, for any number of backspaces
  have hstack : wired.backspace = true → ∀ (a : Amount) (labels : List String) (k : Nat),
      (a.runAll wired (labels.map .append ++ List.replicate k .backspace)).text.toList =
        (a.text.toList ++ labels.flatMap String.toList).take
          ((a.text.toList ++ labels.flatMap String.toList).length - k) := by
    intro hb a labels k
    have hlabels := toList_runAll_labels a wired labels
    rw [runAll_append, toList_runAll_backspaces hb, length, hlabels]
  refine ⟨?stack, ?restores, ?forgets⟩
  case stack =>
    intro hb a labels k
    refine ⟨hstack hb a labels k, ?_⟩
    rw [length, hstack hb, List.length_take]
    omega
  case restores =>
    intro hb a labels
    -- as many backspaces as the labels have characters leave the old characters
    have hall := hstack hb a labels (labels.flatMap String.toList).length
    rw [List.length_append, Nat.add_sub_cancel, List.take_left] at hall
    exact congrArg Amount.mk (String.toList_injective hall)
  case forgets =>
    intro hc actions hmem
    obtain ⟨before, after, rfl, hlast⟩ := exists_last_clear hmem
    have hforget := fun a : Amount => runAll_eq_of_split hc a before after
    exact ⟨before, after, rfl, hlast, fun a b => (hforget a).trans (hforget b).symm, hforget⟩

/-- Three backspaces behind two labels of two characters each, the last of which takes four bytes;
and a clear between other actions. -/
theorem edits_as_stack_wide :
    Controls.all.backspace = true ∧ Controls.all.permits .clear = true ∧
      (runAll ⟨"1₿"⟩ .all (["00", "€😀"].map .append ++ List.replicate 3 .backspace)).text.toList =
        ['1', '₿', '0'] ∧
      runAll ⟨"1₿"⟩ .all (["00", "€😀"].map .append ++ List.replicate 4 .backspace) = ⟨"1₿"⟩ ∧
      runAll ⟨"1₿"⟩ .all [.append "2", .clear, .append "3"] =
        runAll ⟨"99"⟩ .all [.append "2", .clear, .append "3"] := by
  obtain ⟨hstack, hrestores, hforgets⟩ := edits_as_stack .all
  refine ⟨rfl, rfl, ?_, hrestores rfl ⟨"1₿"⟩ ["00", "€😀"], ?_⟩
  · rw [(hstack rfl ⟨"1₿"⟩ ["00", "€😀"] 3).1]
    rfl
  · obtain ⟨-, -, -, -, hsame, -⟩ := hforgets rfl [.append "2", .clear, .append "3"] (by decide)
    exact hsame _ _

end Amount

end AmountPad
