import Mathlib
import AmountPad.Proofs.Yaml.TokenList

/-!
# Written texts as a whole

A written value has no character that must not stand in a text, and a reading that has come to its
end closes what is open.

* `AllAllowed` — texts without a character that is refused.

Main results:

* `allAllowed_members` — the members of a mapping are written in allowed characters;
* `ofText_of_reach` — a text is read to its end if its members are;
* `ofText_write` — the tokens of a mapping that is written.
-/

namespace AmountPad.Yaml

open Json (Node)
open Writer (blanks)

namespace TokenList

/-- Whether all characters of a text may stand in YAML. -/
def AllAllowed (text : List Char) : Prop := ∀ c ∈ text, isAllowed c = true

/-- A character that may be shown as it is may stand in a text. -/
theorem isAllowed_of_isPrintable {c : Char} (h : Writer.isPrintable c = true) :
    isAllowed c = true := by
  have hvalid : c.toNat < 0xD800 ∨ 0xDFFF < c.toNat ∧ c.toNat < 0x110000 := c.valid
  simp only [Writer.isPrintable, Bool.or_eq_true, beq_iff_eq, Bool.and_eq_true, decide_eq_true_eq,
    bne_iff_ne, ne_eq] at h
  simp only [isAllowed, Bool.or_eq_true, beq_iff_eq, decide_eq_true_eq]
  obtain (rfl | ⟨hlow, hhigh⟩) | ⟨⟨⟨hlow, -⟩, hreverse⟩, hlast⟩ := h
  · exact .inl (.inl (.inl (.inr rfl)))
  · have hlow : 0x20 ≤ c.toNat := hlow
    have hhigh : c.toNat ≤ 0x7E := hhigh
    omega
  · omega

theorem allAllowed_append {cs cs' : List Char} :
    AllAllowed (cs ++ cs') ↔ AllAllowed cs ∧ AllAllowed cs' := List.forall_mem_append

theorem allAllowed_cons {c : Char} {cs : List Char} :
    AllAllowed (c :: cs) ↔ isAllowed c = true ∧ AllAllowed cs := List.forall_mem_cons

theorem allAllowed_nil : AllAllowed [] := nofun

/-- Indentation is made of characters that are allowed. -/
theorem allAllowed_blanks (n : Nat) : AllAllowed (blanks n) := by
  intro c hc
  rw [List.eq_of_mem_replicate hc]
  rfl

/-! ## Scalars -/

/-- Whatever the character is, what is written of it between double quotes is allowed. -/
theorem allAllowed_escapeChar (c : Char) : AllAllowed (Writer.escapeChar c) := by
  -- numbers are written in digits, and short escapes in letters
  have hdigits : hexDigits.all isAllowed = true := rfl
  have hcode (width : Nat) : AllAllowed (Writer.hexOfWidth width c.toNat) := fun d hd =>
    List.all_eq_true.mp hdigits d (mem_hexDigits_of_mem_hexOfWidth d hd)
  have hletters : Writer.shortEscapes.all (isAllowed ·.2) = true := rfl
  unfold Writer.escapeChar
  split
  · next x hx =>
    obtain ⟨before, after, hmem, -⟩ := List.lookup_eq_some_iff.mp hx
    have hletter := List.all_eq_true.mp hletters (c, x) (by simp [hmem])
    exact allAllowed_cons.mpr ⟨rfl, allAllowed_cons.mpr ⟨hletter, allAllowed_nil⟩⟩
  · split_ifs with hp
    · exact allAllowed_cons.mpr ⟨isAllowed_of_isPrintable hp, allAllowed_nil⟩
    · exact allAllowed_cons.mpr ⟨rfl, allAllowed_cons.mpr ⟨rfl, hcode 2⟩⟩
    · exact allAllowed_cons.mpr ⟨rfl, allAllowed_cons.mpr ⟨rfl, hcode 4⟩⟩
    · exact allAllowed_cons.mpr ⟨rfl, allAllowed_cons.mpr ⟨rfl, hcode 8⟩⟩

/-- The lines of a literal block add nothing but indentation to the text they show. -/
theorem allAllowed_literalBody (indent : Nat) (begun : Bool) {cs : List Char} (h : AllAllowed cs) :
    AllAllowed (Writer.literalBody indent begun cs) := by
  induction cs generalizing begun with
  | nil => exact allAllowed_nil
  | cons c cs ih =>
    obtain ⟨hc, hcs⟩ := allAllowed_cons.mp h
    rw [Writer.literalBody]
    split_ifs
    · exact allAllowed_cons.mpr ⟨hc, ih true hcs⟩
    · exact allAllowed_append.mpr ⟨allAllowed_blanks indent, allAllowed_cons.mpr ⟨hc, ih false hcs⟩⟩
    · exact allAllowed_cons.mpr ⟨hc, ih false hcs⟩

/-- Between single quotes only indentation and doubled quotes are added to the text. -/
theorem allAllowed_singleBody (indent : Nat) (begun : Bool) {cs : List Char} (h : AllAllowed cs) :
    AllAllowed (Writer.singleBody indent begun cs) := by
  induction cs generalizing begun with
  | nil =>
    rw [Writer.singleBody]
    split_ifs
    · exact allAllowed_blanks indent
    · exact allAllowed_nil
  | cons c cs ih =>
    obtain ⟨hc, hcs⟩ := allAllowed_cons.mp h
    -- a quote is doubled, any other character is written as it is
    have hquoted : AllAllowed (if c = '\'' then ['\'', '\''] else [c]) := by
      split_ifs
      · exact allAllowed_cons.mpr ⟨rfl, allAllowed_cons.mpr ⟨rfl, allAllowed_nil⟩⟩
      · exact allAllowed_cons.mpr ⟨hc, allAllowed_nil⟩
    rw [Writer.singleBody]
    by_cases hbreak : isBreak c = true
    · rw [if_pos hbreak]
      exact allAllowed_cons.mpr ⟨hc, ih true hcs⟩
    · rw [if_neg hbreak]
      refine allAllowed_append.mpr ⟨allAllowed_append.mpr ⟨?_, hquoted⟩, ih false hcs⟩
      split_ifs
      · exact allAllowed_blanks indent
      · exact allAllowed_nil

/-- A text that can do without double quotes has only printable characters. -/
theorem allAllowed_of_needsDouble {cs : List Char} (h : Writer.needsDouble cs = false) :
    AllAllowed cs := by
  simp only [Writer.needsDouble, Bool.or_eq_false_iff, List.any_eq_false, Bool.not_eq_true',
    Bool.not_eq_false] at h
  exact fun c hc => isAllowed_of_isPrintable (h.1 c hc)

/-- The header of a literal block consists of its bar and the hints behind it. -/
theorem allAllowed_header (cs : List Char) : AllAllowed (Writer.literalHeader cs) := by
  have hhint : AllAllowed (Nat.toDigits 10 Writer.step) := allAllowed_cons.mpr ⟨rfl, allAllowed_nil⟩
  have hkeeping : AllAllowed (Writer.keeping cs) := by
    unfold Writer.keeping
    split
    · split_ifs
      · exact allAllowed_cons.mpr ⟨rfl, allAllowed_nil⟩
      · split
        · exact allAllowed_cons.mpr ⟨rfl, allAllowed_nil⟩
        · split_ifs
          · exact allAllowed_cons.mpr ⟨rfl, allAllowed_nil⟩
          · exact allAllowed_nil
    · exact allAllowed_cons.mpr ⟨rfl, allAllowed_nil⟩
  refine allAllowed_cons.mpr ⟨rfl, allAllowed_append.mpr ⟨?_, hkeeping⟩⟩
  split_ifs
  · exact allAllowed_nil
  · exact hhint

/-- In whichever style a text is written, it is written in allowed characters: the styles that show
it as it is are only chosen where its own characters are allowed. -/
theorem allAllowed_scalar (indent : Nat) (s : String) : AllAllowed (Writer.scalar indent s) := by
  have hline : AllAllowed ['\n'] := allAllowed_cons.mpr ⟨rfl, allAllowed_nil⟩
  -- each style but the last is only chosen for texts whose characters are printable
  cases styled s with
  | literal hstyle hfits =>
    simp only [Writer.fitsLiteral, Bool.not_eq_true', Bool.or_eq_false_iff] at hfits
    have hcs := allAllowed_of_needsDouble hfits.1
    simp only [Writer.scalar, hstyle]
    refine allAllowed_append.mpr ⟨allAllowed_append.mpr ⟨allAllowed_header _,
      allAllowed_cons.mpr ⟨rfl, allAllowed_literalBody _ _ hcs⟩⟩, ?_⟩
    split_ifs
    · exact allAllowed_nil
    · exact hline
  | plain hstyle hfits =>
    simp only [Writer.fitsPlain, Bool.not_eq_true', Bool.or_eq_false_iff] at hfits
    simp only [Writer.scalar, hstyle]
    exact allAllowed_append.mpr ⟨allAllowed_of_needsDouble hfits.1.1.1.1, hline⟩
  | single hstyle hfits =>
    simp only [Writer.fitsSingle, Bool.not_eq_true', Bool.or_eq_false_iff] at hfits
    simp only [Writer.scalar, hstyle]
    exact allAllowed_append.mpr ⟨allAllowed_cons.mpr ⟨rfl,
      allAllowed_singleBody _ _ (allAllowed_of_needsDouble hfits.1)⟩, allAllowed_cons.mpr ⟨rfl, hline⟩⟩
  | double hstyle =>
    have hcs : AllAllowed (s.toList.flatMap Writer.escapeChar) := by
      intro d hd
      obtain ⟨c, -, hd⟩ := List.mem_flatMap.mp hd
      exact allAllowed_escapeChar c d hd
    simp only [Writer.scalar, hstyle]
    exact allAllowed_append.mpr ⟨allAllowed_cons.mpr ⟨rfl, hcs⟩, allAllowed_cons.mpr ⟨rfl, hline⟩⟩

/-! ## Values -/

theorem isAllowed_of_isWordChar {c : Char} (h : isWordChar c = true) : isAllowed c = true := by
  simp only [isWordChar, Char.isAlphanum, Char.isAlpha, Char.isUpper, Char.isLower, Char.isDigit,
    Bool.or_eq_true, Bool.and_eq_true, decide_eq_true_eq, beq_iff_eq, UInt32.le_iff_toNat_le] at h
  obtain (h | rfl) | rfl := h
  · have hcode : 0x30 ≤ c.toNat ∧ c.toNat ≤ 0x7A := by
      change ((65 ≤ c.toNat ∧ c.toNat ≤ 90) ∨ (97 ≤ c.toNat ∧ c.toNat ≤ 122)) ∨
        (48 ≤ c.toNat ∧ c.toNat ≤ 57) at h
      omega
    simp only [isAllowed, Bool.or_eq_true, beq_iff_eq, decide_eq_true_eq]
    omega
  · rfl
  · rfl

theorem allAllowed_name {name : List Char} (h : IsName name) : AllAllowed name := by
  obtain ⟨c, cs, rfl, hword, -⟩ := h
  exact fun d hd => isAllowed_of_isWordChar (hword d hd)

/-- What stands before an entry, its indentation or nothing, is allowed. -/
theorem allAllowed_margin (begun : Bool) (indent : Nat) : AllAllowed (Writer.margin begun indent) := by
  cases begun with
  | true => exact allAllowed_nil
  | false => exact allAllowed_blanks indent

/-- Texts without a break are allowed if their characters are. -/
theorem allAllowed_of_all {text : List Char} (h : text.all isAllowed = true) : AllAllowed text :=
  List.all_eq_true.mp h

mutual

/-- An entry of a sequence is written in allowed characters. -/
theorem allAllowed_item : ∀ (indent : Nat) (n : Node), HasNames n →
    AllAllowed (Writer.item indent n)
  | indent, .text s, _ => allAllowed_scalar indent s
  | _, .list [], _ => allAllowed_of_all rfl
  | indent, .list (n :: ns), h => allAllowed_items (indent + Writer.step) true (n :: ns) h
  | _, .object [], _ => allAllowed_of_all rfl
  | indent, .object (m :: ms), h => allAllowed_members (indent + Writer.step) true (m :: ms) h

/-- The entries of a sequence are written in allowed characters. -/
theorem allAllowed_items : ∀ (indent : Nat) (begun : Bool) (ns : List Node), ItemsHaveNames ns →
    AllAllowed (Writer.items indent begun ns)
  | _, _, [], _ => allAllowed_nil
  | indent, begun, n :: ns, ⟨hn, hns⟩ => by
    simp only [Writer.items, allAllowed_append, allAllowed_cons]
    exact ⟨⟨allAllowed_margin begun indent, rfl, rfl, allAllowed_item indent n hn⟩,
      allAllowed_items indent false ns hns⟩

theorem allAllowed_member : ∀ (indent : Nat) (n : Node), HasNames n →
    AllAllowed (Writer.member indent n)
  | indent, .text s, _ => allAllowed_cons.mpr ⟨rfl, allAllowed_scalar indent s⟩
  | _, .list [], _ => allAllowed_of_all rfl
  | indent, .list (n :: ns), h => allAllowed_cons.mpr ⟨rfl, allAllowed_items indent false (n :: ns) h⟩
  | _, .object [], _ => allAllowed_of_all rfl
  | indent, .object (m :: ms), h =>
    allAllowed_cons.mpr ⟨rfl, allAllowed_members (indent + Writer.step) false (m :: ms) h⟩

/-- The members of a mapping are written in allowed characters. -/
theorem allAllowed_members : ∀ (indent : Nat) (begun : Bool) (ms : List (String × Node)),
    MembersHaveNames ms → AllAllowed (Writer.members indent begun ms)
  | _, _, [], _ => allAllowed_nil
  | indent, begun, (name, n) :: ms, ⟨hname, hn, hms⟩ => by
    simp only [Writer.members, allAllowed_append, allAllowed_cons]
    exact ⟨⟨⟨allAllowed_margin begun indent, allAllowed_name hname⟩, rfl,
      allAllowed_member indent n hn⟩, allAllowed_members indent false ms hms⟩

end

/-- No character of an allowed text is refused. -/
theorem firstRefused?_of_allowed {text : List Char} (h : AllAllowed text) (offset : Nat) :
    firstRefused? offset text = none := by
  induction text generalizing offset with
  | nil => rfl
  | cons c text ih =>
    rw [firstRefused?, if_pos (h c List.mem_cons_self)]
    exact ih (fun d hd => h d (List.mem_cons_of_mem c hd)) _

end TokenList

/-! ## The end of a text -/

namespace Progress

/-- At the end of a text, what is open is closed. -/
theorem Stands.takeEnd {p : Progress} {ss : List Symbol} {stack : List Nat}
    (h : p.Stands ss stack true []) (hcolumn : p.cursor.mark.column = 0) :
    ∃ r, p.takeToken = .ok r ∧ r.dropStale = .ok r ∧
      r.tokens.reverse.map Token.symbol = ss ++ ends (-1) stack ++ [.textEnd] := by
  -- every collection is deeper than the end
  obtain ⟨hclose, -⟩ := h.close (-1)
  let q := p.close (-1)
  have hdrop : q.dropCandidate = .ok q := by simp [dropCandidate, hclose.candidates, q]
  have hsame : ({ p with cursor := ⟨p.cursor.rest, p.cursor.mark⟩ } : Progress) = p := rfl
  refine ⟨{ q.push .textEnd p.cursor.mark p.cursor.mark with keyAllowed := false }, ?_,
    dropStale_none hclose.candidates, ?_⟩
  · rw [takeToken, h.rest]
    simp only [Progress.takeEnd, if_pos hcolumn, hsame]
    show (do
      let p' ← q.dropCandidate
      return { p'.push .textEnd p.cursor.mark p.cursor.mark with keyAllowed := false }) = _
    rw [hdrop]
    rfl
  · simp [push, q, ← hclose.symbols]

end Progress

namespace TokenList

/-- A text whose members are read to its end is read as a mapping. -/
theorem ofText_of_reach {text : List Char} (hallowed : AllAllowed text) (hstarts : StartsToken text)
    {ss : List Symbol}
    (h : ∀ p : Progress, p.Stands [] [] true text → p.cursor.mark.column = 0 →
      ∃ q, Relation.ReflTransGen Progress.Hop p q ∧ q.AtLine ss [0] []) :
    ∃ ts, ofText text = ⟨ts, none⟩ ∧ ts.map Token.symbol = ss ++ [.blockEnd, .textEnd] := by
  have hoff : Progress.top [] ≤ (0 : Nat) := by decide
  let start : Progress := { cursor := ⟨text, {}⟩ }
  have hstart : start.Stands [] [] true (blanks 0 ++ text) := ⟨rfl, rfl, rfl, rfl, rfl, rfl⟩
  obtain ⟨p, harrive, hcursor, hp⟩ := hstart.arrive hstarts
  have hcolumn : p.cursor.mark.column = 0 := by
    rw [hcursor]
    rfl
  rw [hcolumn, Progress.ends_of_top_le hoff, Progress.around_of_top_le hoff] at hp
  obtain ⟨q, hreach, hq⟩ := h p hp hcolumn
  -- the end of the text stands at column zero, like the mapping, and closes it
  have hend : StartsToken [] := nofun
  have hline := (Progress.atLine_of_top_le (k := 0) (Int.le_refl _) hend).mp hq
  obtain ⟨r, htake, hdrop, hr⟩ := hline.1.takeEnd hline.2
  have hlast := Progress.head?_of_symbols hr
  refine ⟨r.tokens.reverse, ?_, ?_⟩
  · rw [ofText, firstRefused?_of_allowed hallowed]
    refine Progress.read_of_hops hreach htake hdrop hlast harrive 0 ?_
    rw [hp.rest]
    exact Nat.lt_succ_self _
  · rw [hr, List.append_assoc]
    rfl

/-- The tokens of a mapping that is written. -/
theorem ofText_write {m : String × Node} {ms : List (String × Node)}
    (h : MembersHaveNames (m :: ms)) :
    ∃ ts, ofText (Writer.write (.object (m :: ms))) = ⟨ts, none⟩ ∧
      ts.map Token.symbol = symbols (.object (m :: ms)) ++ [.textEnd] := by
  obtain ⟨name, n⟩ := m
  obtain ⟨hname, hn, hms⟩ := h
  -- the text starts with the first name, without indentation
  have htext : Writer.write (.object ((name, n) :: ms)) =
      name.toList ++ ':' :: (Writer.member 0 n ++ (Writer.members 0 false ms ++ (blanks 0 ++ []))) := by
    simp [Writer.write, Writer.members, Writer.margin, blanks]
  have hallowed := allAllowed_members 0 true ((name, n) :: ms) ⟨hname, hn, hms⟩
  have hreach (p : Progress)
      (hp : p.Stands [] [] true (Writer.write (.object ((name, n) :: ms))))
      (hcolumn : p.cursor.mark.column = 0) := by
    rw [htext] at hp
    exact Progress.reach_mapping hname hms (Progress.valueRead n hn) (Progress.membersRead ms hms) hp
      hcolumn (by decide) (Nat.le_refl 0) (by simp [StartsToken])
  have hstarts : StartsToken (Writer.write (.object ((name, n) :: ms))) := by
    rw [htext]
    exact startsToken_name hname _
  obtain ⟨ts, hts, hsymbols⟩ := ofText_of_reach hallowed hstarts hreach
  refine ⟨ts, hts, ?_⟩
  rw [hsymbols, symbols]
  simp

end TokenList

end AmountPad.Yaml
