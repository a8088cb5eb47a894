import Mathlib
import AmountPad.Proofs.Yaml.Cursor
import AmountPad.Yaml.Scalar.Quoted
import AmountPad.Yaml.Writer

/-!
# Escapes are read back

Between double quotes, a character stands for itself, or behind a backslash there is a letter for
it, or its code point in hexadecimal.

* `Escaped` — the three ways in which a character is written.

Main results:

* `hexNumber?_hexOfWidth` — a number in hexadecimal is read back;
* `escaped_escapeChar` — every character is written in one of the three ways;
* `Quoted.doubleRun_escapeChar` — a character is read back in whichever way it is written.
-/

namespace AmountPad.Yaml

open Writer (escapeChar hexOfWidth)

/-! ## Hexadecimal numerals -/

/-- A digit is read back as what it is worth, also in capitals. -/
theorem hexValue?_digitChar {d : Nat} (h : d < 16) :
    Text.hexValue? (Nat.digitChar d).toUpper = some d := by
  decide +revert

/-- A further digit makes a number sixteen times as large and adds its own worth. -/
theorem hexNumber?_concat (digits : List Char) (c : Char) :
    Text.hexNumber? (digits ++ [c]) =
      (Text.hexNumber? digits).bind fun n => (Text.hexValue? c).map (n * 16 + ·) := by
  unfold Text.hexNumber?
  rw [List.foldlM_append]
  simp [bind]

/-- The digits of a number are read as the number. -/
theorem hexNumber?_hex (n : Nat) : Text.hexNumber? ((Text.hex n).map Char.toUpper) = some n := by
  induction n using Nat.strongRecOn with
  | _ n ih =>
    unfold Text.hex
    rw [Nat.toDigits_eq_if (by decide)]
    split
    · rename_i hn
      rw [List.map_singleton, ← List.nil_append [_], hexNumber?_concat, hexValue?_digitChar hn]
      simp [Text.hexNumber?]
    · rename_i hn
      -- the last digit is the rest of a division, the others are the quotient
      have hdigit : n % 16 < 16 := Nat.mod_lt n (by decide)
      have hih := ih (n / 16) (by omega)
      unfold Text.hex at hih
      rw [List.map_append, List.map_singleton, hexNumber?_concat, hih, Option.bind_some,
        hexValue?_digitChar hdigit, Option.map_some]
      congr 1
      omega

/-- Zeros in front do not count. -/
theorem hexNumber?_zeros (zeros : Nat) (digits : List Char) :
    Text.hexNumber? (List.replicate zeros '0' ++ digits) = Text.hexNumber? digits := by
  induction zeros with
  | zero => rfl
  | succ zeros ih => exact ih

/-- Zeros in front do not change the number that is read. -/
theorem hexNumber?_hexOfWidth (width n : Nat) : Text.hexNumber? (hexOfWidth width n) = some n := by
  unfold hexOfWidth
  rw [hexNumber?_zeros, hexNumber?_hex]

/-- A number that fits into some digits is written with as many. -/
theorem length_hexOfWidth {width n : Nat} (hw : 0 < width) (h : n < 16 ^ width) :
    (hexOfWidth width n).length = width := by
  have hdigits : (Nat.toDigits 16 n).length ≤ width := (Nat.length_toDigits_le_iff (by decide) hw).mpr h
  unfold hexOfWidth Text.hex
  rw [List.length_append, List.length_replicate, List.length_map]
  omega

/-- The digits of numbers in hexadecimal. -/
def hexDigits : List Char :=
  ['0', '1', '2', '3', '4', '5', '6', '7', '8', '9', 'A', 'B', 'C', 'D', 'E', 'F']

theorem mem_hexDigits_of_mem_hex (n : Nat) : ∀ c ∈ (Text.hex n).map Char.toUpper, c ∈ hexDigits := by
  have hdigits : ∀ d < 16, (Nat.digitChar d).toUpper ∈ hexDigits := by decide
  induction n using Nat.strongRecOn with
  | _ n ih =>
    unfold Text.hex at ih ⊢
    rw [Nat.toDigits_eq_if (by decide)]
    split
    · rename_i hn
      simpa using hdigits n hn
    · rename_i hn
      have hlast := hdigits (n % 16) (Nat.mod_lt n (by decide))
      have hfront := ih (n / 16) (by omega)
      intro c hc
      rw [List.map_append, List.mem_append, List.map_singleton, List.mem_singleton] at hc
      exact hc.elim (hfront c) fun hc => hc ▸ hlast

/-- A number of fixed width is written in hexadecimal digits only. -/
theorem mem_hexDigits_of_mem_hexOfWidth {width n : Nat} :
    ∀ c ∈ hexOfWidth width n, c ∈ hexDigits := by
  intro c hc
  obtain hc | hc := List.mem_append.mp hc
  · rw [List.eq_of_mem_replicate hc]
    decide
  · exact mem_hexDigits_of_mem_hex n c hc

/-- Hexadecimal digits stand on one line. -/
theorem isBreak_of_mem_hexOfWidth {width n : Nat} :
    ∀ c ∈ hexOfWidth width n, isBreak c = false := by
  have hdigits : hexDigits.all (fun c => !isBreak c) = true := rfl
  intro c hc
  simpa using List.all_eq_true.mp hdigits c (mem_hexDigits_of_mem_hexOfWidth c hc)

/-! ## Characters -/

/-- The three ways in which a character is written between double quotes. -/
inductive Escaped (c : Char) : Prop
  | itself : escapeChar c = [c] → isBreak c = false → c ≠ '\t' → c ≠ '"' → c ≠ '\\' → Escaped c
  | letter (x : Char) : escapeChar c = ['\\', x] → Quoted.escaped? x = some c → isBreak x = false →
    Escaped c
  | code (x : Char) (width : Nat) : escapeChar c = '\\' :: x :: hexOfWidth width c.toNat →
    Quoted.escaped? x = none → Quoted.codeLength? x = some width → isBreak x = false →
    0 < width → c.toNat < 16 ^ width → Escaped c

/-- Every character is written in one of the ways an escape is read. -/
theorem escaped_escapeChar (c : Char) : Escaped c := by
  cases hx : Writer.shortEscapes.lookup c with
  | some x =>
    obtain ⟨before, after, hmem, -⟩ := List.lookup_eq_some_iff.mp hx
    have hall : ∀ e ∈ Writer.shortEscapes, Quoted.escaped? e.2 = some e.1 ∧ isBreak e.2 = false := by
      decide
    have he := hall (c, x) (by simp [hmem])
    exact .letter x (by rw [escapeChar, hx]) he.1 he.2
  | none =>
    -- quotes, backslashes, tabs and line breaks have short escapes, and are excluded here
    have hother : ∀ d, (Writer.shortEscapes.lookup d).isSome = true → c ≠ d := by
      rintro d hd rfl
      rw [hx] at hd
      exact absurd hd (by decide)
    by_cases hp : Writer.isPrintable c = true
    · refine .itself (by rw [escapeChar, hx]; exact if_pos hp) ?_ (hother '\t' rfl)
        (hother '"' rfl) (hother '\\' rfl)
      simp [isBreak, hother '\r' rfl, hother '\n' rfl, hother '\u0085' rfl, hother '\u2028' rfl,
        hother '\u2029' rfl]
    · -- the others are written by their number, in as many digits as it may need
      by_cases hbyte : c.toNat ≤ 0xFF
      · exact .code 'x' 2 (by rw [escapeChar, hx]; simp only [if_neg hp, if_pos hbyte]) rfl rfl rfl
          (by decide) (by omega)
      · by_cases hplane : c.toNat ≤ 0xFFFF
        · exact .code 'u' 4
            (by rw [escapeChar, hx]; simp only [if_neg hp, if_neg hbyte, if_pos hplane]) rfl rfl rfl
            (by decide) (by omega)
        · have hsize : c.toNat < 16 ^ 8 := Nat.lt_of_lt_of_eq c.val.toBitVec.isLt (by norm_num)
          exact .code 'U' 8
            (by rw [escapeChar, hx]; simp only [if_neg hp, if_neg hbyte, if_neg hplane]) rfl rfl rfl
            (by decide) hsize

/-- What is written for a character stands on one line. -/
theorem isBreak_of_mem_escapeChar {c : Char} : ∀ d ∈ escapeChar c, isBreak d = false := by
  intro d hd
  cases escaped_escapeChar c with
  | itself h hbreak =>
    rw [h] at hd
    exact (List.mem_singleton.mp hd) ▸ hbreak
  | letter x h _ hbreak =>
    rw [h] at hd
    obtain rfl | rfl : d = '\\' ∨ d = x := by simpa using hd
    · rfl
    · exact hbreak
  | code x width h _ _ hbreak =>
    rw [h] at hd
    obtain rfl | rfl | hd : d = '\\' ∨ d = x ∨ d ∈ hexOfWidth width c.toNat := by simpa using hd
    · rfl
    · exact hbreak
    · exact isBreak_of_mem_hexOfWidth d hd

namespace Quoted

theorem charOfCode?_toNat (c : Char) : charOfCode? c.toNat = some c := by
  have hvalid : c.toNat.isValidChar := c.valid
  unfold charOfCode?
  rw [dif_pos hvalid]
  rfl

/-- An escape of one letter is read as the character the letter stands for. -/
theorem scanEscape_letter {c x : Char} (h : escaped? x = some c) (start : Mark) (rest : List Char)
    (m : Mark) :
    scanEscape start ⟨'\\' :: x :: rest, m⟩ = .ok (c, (⟨'\\' :: x :: rest, m⟩ : Cursor).skip 2) := by
  simp only [scanEscape, List.drop_one, List.tail_cons, h]

/-- An escape by number is read as the character of that number. -/
theorem scanEscape_code {c x : Char} {width : Nat} (hx : escaped? x = none)
    (hcode : codeLength? x = some width) (hw : 0 < width) (hsize : c.toNat < 16 ^ width)
    (start : Mark) (rest : List Char) (m : Mark) :
    let text := '\\' :: x :: (hexOfWidth width c.toNat ++ rest)
    scanEscape start ⟨text, m⟩ = .ok (c, (⟨text, m⟩ : Cursor).skip (2 + width)) := by
  have hlength := length_hexOfWidth hw hsize
  have htake : (hexOfWidth width c.toNat ++ rest).take width = hexOfWidth width c.toNat :=
    List.take_left' hlength
  simp only [scanEscape, List.drop_one, List.tail_cons, hx, hcode, htake, hlength, if_true,
    hexNumber?_hexOfWidth, charOfCode?_toNat]

/-- A backslash with no line break behind it starts an escape. -/
theorem doubleRun_of_escape {c x : Char} (hx : isBreak x = false) {start m : Mark}
    {rest : List Char} {next : Cursor}
    (h : scanEscape start ⟨'\\' :: x :: rest, m⟩ = .ok (c, next)) (bound : Nat) :
    doubleRun start (bound + 1) ⟨'\\' :: x :: rest, m⟩ = do
      let more ← doubleRun start bound next
      return { more with text := c :: more.text } := by
  have hrun : (isBlank '\\' || isBreak '\\' || '\\' == '"') = false := rfl
  rw [doubleRun]
  simp only [hrun, atBreak, hx, Bool.and_false, Bool.false_eq_true, if_false, beq_self_eq_true,
    if_true, h]
  rfl

/-- A character that is not a blank belongs to a run. -/
theorem doubleRun_escapeChar {c : Char} (hc : c ≠ ' ') (start : Mark) (bound : Nat)
    (rest : List Char) (m : Mark) :
    doubleRun start (bound + 1) ⟨escapeChar c ++ rest, m⟩ = do
      let more ← doubleRun start bound ⟨rest, m.past (escapeChar c)⟩
      return { more with text := c :: more.text } := by
  have hskip := Cursor.skip_append (isBreak_of_mem_escapeChar (c := c)) rest m
  cases escaped_escapeChar c with
  | itself h hbreak htab hquote hslash =>
    rw [h] at hskip ⊢
    rw [List.length_singleton] at hskip
    -- the character goes on with the run as it is
    have hrun : (isBlank c || isBreak c || c == '"') = false := by
      simp [isBlank, hbreak, hc, htab, hquote]
    rw [List.singleton_append] at hskip ⊢
    rw [doubleRun]
    simp only [hrun, beq_eq_false_iff_ne.mpr hslash, Bool.false_and, Bool.false_eq_true, if_false,
      hskip]
    rfl
  | letter x h hx hbreak =>
    have hescape := scanEscape_letter hx start rest m
    rw [h] at hskip ⊢
    exact (doubleRun_of_escape hbreak hescape bound).trans (by rw [← hskip]; rfl)
  | code x width h hx hcode hbreak hw hsize =>
    have hescape := scanEscape_code hx hcode hw hsize start rest m
    rw [h] at hskip ⊢
    have hlength : ('\\' :: x :: hexOfWidth width c.toNat).length = 2 + width := by
      rw [List.length_cons, List.length_cons, length_hexOfWidth hw hsize]
      omega
    rw [hlength] at hskip
    exact (doubleRun_of_escape hbreak hescape bound).trans (by rw [← hskip]; rfl)

end Quoted

end AmountPad.Yaml
