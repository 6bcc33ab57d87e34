import BraceArith.Text.BreakTable

/-!
# Character clusters

What a reader takes for one character may be several: a letter and its marks, two regional
indicators that make a flag, an emoji and its skin tone, the letters of a hangul syllable.  A
screen keeps such a cluster together in one place.

A text is cut into clusters at every boundary that no rule of the Unicode standard closes.  The two
rules that turn on invisible joiners inside emoji and Indic conjuncts are left out: such sequences
fall into their visible parts.

## Main definitions

- `BreakClass`: what a character is to its neighbours
- `joins`: whether two neighbours belong to one cluster
- `clusters`: the clusters of a text
-/

namespace BraceArith.Text

/-! ## §1 Classes -/

/-- What a character is to its neighbours. -/
inductive BreakClass where
  /-- Carriage return. -/
  | carriageReturn
  /-- Line feed. -/
  | lineFeed
  /-- Any other control character. -/
  | control
  /-- Attaches to the character before it. -/
  | extend
  /-- Has a place of its own but belongs to the character before it. -/
  | spacingMark
  /-- Belongs to the character after it. -/
  | prepend
  /-- One half of a flag. -/
  | regionalIndicator
  /-- A leading consonant of hangul. -/
  | hangulLead
  /-- A vowel of hangul. -/
  | hangulVowel
  /-- A final consonant of hangul. -/
  | hangulTail
  /-- A hangul syllable that ends in a vowel. -/
  | hangulOpen
  /-- A hangul syllable that ends in a consonant. -/
  | hangulClosed
  /-- Any other character. -/
  | other
deriving DecidableEq, Repr

/-- Whether `c` is a regional indicator. -/
def isRegionalIndicator (c : Char) : Bool :=
  0x1F1E6 ≤ c.toNat && c.toNat ≤ 0x1F1FF

/-- The class of a letter or syllable of hangul.  Syllables come in rows of twenty-eight, of which
    the first ends in a vowel. -/
def hangulClass? (c : Char) : Option BreakClass :=
  let n := c.toNat
  let within (first last : Nat) : Bool := first ≤ n && n ≤ last
  if within 0x1100 0x115F || within 0xA960 0xA97C then some .hangulLead
  else if within 0x1160 0x11A7 || within 0xD7B0 0xD7C6 then some .hangulVowel
  else if within 0x11A8 0x11FF || within 0xD7CB 0xD7FB then some .hangulTail
  else if within 0xAC00 0xD7A3 then
    some (if (n - 0xAC00) % 28 = 0 then .hangulOpen else .hangulClosed)
  else none

/-- The class of a character. -/
def breakClass (c : Char) : BreakClass :=
  if c = '\r' then .carriageReturn
  else if c = '\n' then .lineFeed
  else if controlTable.holds c then .control
  -- Nothing else below the first combining mark has a class of its own.
  else if c.toNat < 0x300 then .other
  else if isRegionalIndicator c then .regionalIndicator
  else if let some hangul := hangulClass? c then hangul
  else if extendTable.holds c then .extend
  else if spacingMarkTable.holds c then .spacingMark
  else if prependTable.holds c then .prepend
  else .other

/-! ## §2 Boundaries -/

/-- Whether the class stands apart from both neighbours. -/
def BreakClass.isControl : BreakClass → Bool
  | carriageReturn | lineFeed | control => true
  | _ => false

/-- Whether a character of class `before` and the next one, of class `after`, belong to one cluster.
    `oddFlags` says whether an odd number of regional indicators stands before the boundary. -/
def joins (before : BreakClass) (oddFlags : Bool) (after : BreakClass) : Bool :=
  match before, after with
  | .carriageReturn, .lineFeed => true
  | .hangulLead, .hangulLead | .hangulLead, .hangulVowel => true
  | .hangulLead, .hangulOpen | .hangulLead, .hangulClosed => true
  | .hangulOpen, .hangulVowel | .hangulOpen, .hangulTail => true
  | .hangulVowel, .hangulVowel | .hangulVowel, .hangulTail => true
  | .hangulClosed, .hangulTail | .hangulTail, .hangulTail => true
  | .regionalIndicator, .regionalIndicator => oddFlags
  | before, .extend | before, .spacingMark => !before.isControl
  | .prepend, after => !after.isControl
  | _, _ => false

/-! ## §3 Clusters -/

/-- The clusters of a text, the first of which has begun: `pending` holds its characters, last one
    first, and `last` is the class of the last one. -/
def clustersFrom (pending : List Char) (last : BreakClass) (oddFlags : Bool) :
    List Char → List (List Char)
  | [] => [pending.reverse]
  | c :: rest =>
    let next := breakClass c
    if joins last oddFlags next then
      clustersFrom (c :: pending) next (next = .regionalIndicator && !oddFlags) rest
    else pending.reverse :: clustersFrom [c] next (next = .regionalIndicator) rest

/-- The clusters of a text, from left to right. -/
def clusters : List Char → List (List Char)
  | [] => []
  | c :: rest => clustersFrom [c] (breakClass c) (breakClass c = .regionalIndicator) rest

/-- Four regional indicators are two flags. -/
example : clusters ['🇫', '🇷', '🇩', '🇪'] = [['🇫', '🇷'], ['🇩', '🇪']] := by decide +kernel

end BraceArith.Text
