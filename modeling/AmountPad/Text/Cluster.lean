import AmountPad.Text.Property.Cluster
import AmountPad.Text.Property.Visible

/-!
# User-perceived characters

What a reader takes for one character may be written as several: a letter and its accents, a picture
put together by joiners, the letters of a flag. A text falls into such clusters.

* `Kind.of` — what a character is to its neighbours;
* `Past.joins` — whether a character belongs to the cluster in front of it;
* `clusters` — the clusters of a text. Together they are the text (`flatten_clusters`).
-/

namespace AmountPad.Text

/-- What a character is to its neighbours. -/
inductive Kind where
  | carriageReturn
  | lineFeed
  | breaking
  | extending
  | joiner
  | flagLetter
  | leading
  | spacingMark
  /-- A leading consonant of a syllable. -/
  | consonant
  | vowel
  /-- A trailing consonant of a syllable. -/
  | final
  /-- A syllable without a trailing consonant, written as one character. -/
  | openSyllable
  /-- A syllable with a trailing consonant, written as one character. -/
  | closedSyllable
  | other
  deriving DecidableEq, Repr

/-- Whether a number lies in a range, ends included. -/
def within (low high n : Nat) : Bool := low ≤ n && n ≤ high

/-- The letters of which flags are made. -/
def isFlagLetter (c : Char) : Bool := within 0x1F1E6 0x1F1FF c.toNat

/-- The modifiers that give a picture a skin tone. -/
def isToneModifier (c : Char) : Bool := within 0x1F3FB 0x1F3FF c.toNat

/-- The vowels of which syllables are made. -/
def isVowel (n : Nat) : Bool :=
  within 0x1160 0x11A7 n || within 0xD7B0 0xD7C6 n || n == 0x16D63 || within 0x16D67 0x16D6A n

/-- The letters and syllables of scripts that write whole syllables; other characters have no kind
of this sort. -/
def Kind.ofSyllable? (n : Nat) : Option Kind :=
  if within 0x1100 0x115F n || within 0xA960 0xA97C n then some .consonant
  else if isVowel n then some .vowel
  else if within 0x11A8 0x11FF n || within 0xD7CB 0xD7FB n then some .final
  else if within 0xAC00 0xD7A3 n then
    some (if (n - 0xAC00) % 28 = 0 then .openSyllable else .closedSyllable)
  else none

/-- What a character is to its neighbours. -/
def Kind.of (c : Char) : Kind :=
  if c = '\r' then .carriageReturn
  else if c = '\n' then .lineFeed
  else if ' ' ≤ c ∧ c ≤ '~' then .other
  else if c = '\u200d' then .joiner
  else if Property.attaching.has c || isToneModifier c then .extending
  else if Property.breaking.has c then .breaking
  else if isFlagLetter c then .flagLetter
  else if Property.leading.has c then .leading
  else if Property.spacingMark.has c then .spacingMark
  else (ofSyllable? c.toNat).getD .other

/-- Whether a cluster ends in front of or behind a character of a kind, whatever is there. -/
def Kind.isBreaking : Kind → Bool
  | .carriageReturn => true
  | .lineFeed => true
  | .breaking => true
  | _ => false

/-- How far a picture, or a pair of consonants, has got. -/
inductive Pending where
  | none
  /-- What was begun, with marks behind it. -/
  | begun
  /-- The same with what joins it to a second one. -/
  | joined
  deriving DecidableEq, Repr

/-- What is known of the text in front of a character. -/
structure Past where
  kind : Kind
  picture : Pending
  consonants : Pending
  /-- Whether an odd number of flag letters is in front. -/
  oddFlag : Bool
  deriving DecidableEq, Repr

namespace Past

/-- A picture after one more character. -/
def nextPicture (p : Pending) (c : Char) (kind : Kind) : Pending :=
  if Property.pictographic.has c then .begun
  else match p, kind with
    | .begun, .extending => .begun
    | .begun, .joiner => .joined
    | _, _ => .none

/-- A pair of consonants after one more character. The non-joiner keeps two apart. -/
def nextConsonants (p : Pending) (c : Char) (kind : Kind) : Pending :=
  if Property.conjoining.has c then .begun
  else match p with
    | .none => .none
    | p =>
      if Property.virama.has c then .joined
      else if kind = .joiner ∨ kind = .extending ∧ c ≠ '\u200c' then p
      else .none

/-- What is known behind the first character of a text. -/
def start (c : Char) : Past :=
  let kind := Kind.of c
  ⟨kind, nextPicture .none c kind, nextConsonants .none c kind, kind = .flagLetter⟩

/-- What is known behind one more character. -/
def next (p : Past) (c : Char) : Past :=
  let kind := Kind.of c
  ⟨kind, nextPicture p.picture c kind, nextConsonants p.consonants c kind,
    kind = .flagLetter && !p.oddFlag⟩

/-- Whether two kinds make one syllable. -/
def makeSyllable : Kind → Kind → Bool
  | .consonant, k => k == .consonant || k == .vowel || k == .openSyllable || k == .closedSyllable
  | .openSyllable, k => k == .vowel || k == .final
  | .vowel, k => k == .vowel || k == .final
  | .closedSyllable, k => k == .final
  | .final, k => k == .final
  | _, _ => false

/-- Whether a character belongs to the cluster in front of it. -/
def joins (p : Past) (c : Char) : Bool :=
  let kind := Kind.of c
  if p.kind = .carriageReturn ∧ kind = .lineFeed then true
  else if p.kind.isBreaking || kind.isBreaking then false
  else
    makeSyllable p.kind kind || kind == .extending || kind == .joiner || kind == .spacingMark ||
      p.kind == .leading || p.consonants == .joined && Property.conjoining.has c ||
      p.picture == .joined && Property.pictographic.has c ||
      p.oddFlag && kind == .flagLetter

end Past

/-- The clusters of a text behind what is known of its front. The first cluster is what joins the
cluster in front. -/
def clustersAfter (p : Past) : List Char → List Char × List (List Char)
  | [] => ([], [])
  | c :: rest =>
    let (first, others) := clustersAfter (p.next c) rest
    if p.joins c then (c :: first, others) else ([], (c :: first) :: others)

/-- The clusters of a text. -/
def clusters : List Char → List (List Char)
  | [] => []
  | c :: rest =>
    let (first, others) := clustersAfter (.start c) rest
    (c :: first) :: others

theorem clustersAfter_flatten (p : Past) (cs : List Char) :
    (clustersAfter p cs).1 ++ (clustersAfter p cs).2.flatten = cs := by
  induction cs generalizing p with
  | nil => rfl
  | cons c rest ih =>
    have h := ih (p.next c)
    by_cases hj : p.joins c = true <;> simp [clustersAfter, hj, h]

/-- Clusters divide a text and leave nothing out. -/
theorem flatten_clusters (cs : List Char) : (clusters cs).flatten = cs := by
  cases cs with
  | nil => rfl
  | cons c rest => simp [clusters, clustersAfter_flatten]

end AmountPad.Text
