/-!
# Printable text

A text that goes to a terminal may hold control sequences: an escape character and what follows it,
which the terminal obeys instead of showing.  `printable` keeps what is to be read and drops control
characters and sequences, so that a message can quote any text without disturbing the screen.

White space inside an unfinished sequence is kept, and so is what follows it, up to the next
character that cannot be shown; from there on the sequence is taken up again.

## Main definitions

- `Sequence`: how far a control sequence has come
- `Sequence.next`: what a character does to it
- `printable`: the text without control sequences
-/

namespace BraceArith.Text

/-! ## §1 Sequences -/

/-- How far the parameters of a control sequence have come. -/
inductive Parameters where
  /-- There are none yet. -/
  | start
  /-- There are some. -/
  | given
  /-- They are followed by intermediate characters. -/
  | closed
  /-- They are in disorder. -/
  | malformed
deriving DecidableEq, Repr

/-- How far a control sequence has come. -/
inductive Sequence where
  /-- There is none. -/
  | none
  /-- An escape character. -/
  | escape
  /-- An escape character and intermediate characters. -/
  | intermediate
  /-- An order with parameters. -/
  | order (parameters : Parameters)
  /-- An order with parameters to be followed by a text for a device. -/
  | device (parameters : Parameters)
  /-- A text for a device, or one for nobody. -/
  | payload
  /-- A text for the terminal itself, such as its title. -/
  | title
deriving DecidableEq, Repr

/-- Whether `c` comes after all parameters and before the end. -/
def isIntermediate (c : Char) : Bool :=
  0x20 ≤ c.toNat && c.toNat ≤ 0x2F

/-- Whether `c` is part of a parameter. -/
def isParameter (c : Char) : Bool :=
  0x30 ≤ c.toNat && c.toNat ≤ 0x3B

/-- Whether `c` marks a private kind of parameters. -/
def isPrivateMark (c : Char) : Bool :=
  0x3C ≤ c.toNat && c.toNat ≤ 0x3F

/-- Whether `c` ends an order. -/
def isFinal (c : Char) : Bool :=
  0x40 ≤ c.toNat && c.toNat ≤ 0x7E

/-- Whether a byte of `c` is the one that ends a payload. -/
def endsPayload (c : Char) : Bool :=
  (String.utf8EncodeChar c).contains 0x9C

/-- What a character that is not final does to parameters. -/
def Parameters.next (p : Parameters) (c : Char) : Parameters :=
  if isIntermediate c then
    if p = malformed then malformed else closed
  else if isParameter c then
    if p = start || p = given then given else malformed
  else if isPrivateMark c then
    if p = start then given else malformed
  else p

/-- What the character after an escape character makes of it. -/
def Sequence.ofIntroducer (c : Char) : Sequence :=
  if c = '[' then order .start
  else if c = ']' then title
  else if c = 'P' then device .start
  else if c = 'X' || c = '^' || c = '_' then payload
  else if isIntermediate c then intermediate
  else if isParameter c || isPrivateMark c || isFinal c then none
  else escape

/-- What a character does to a sequence. -/
def Sequence.next (s : Sequence) (c : Char) : Sequence :=
  match s with
  | none => none
  | escape => ofIntroducer c
  | intermediate => if isParameter c || isPrivateMark c || isFinal c then none else intermediate
  | order p => if isFinal c then none else order (p.next c)
  | device p =>
    -- What is in disorder is skipped like a payload, and a colon is disorder here.
    if isFinal c || c = ':' || p.next c = .malformed then payload else device (p.next c)
  | payload => if endsPayload c then none else payload
  | title => if c = '\x07' then none else title

/-! ## §2 Texts -/

/-- Whether `c` is a control character that moves on like white space. -/
def isSpaceControl (c : Char) : Bool :=
  c = '\t' || c = '\n' || c = '\x0c' || c = '\r'

/-- Whether `c` can be shown: it is white space or no control character of ASCII. -/
def isShown (c : Char) : Bool :=
  isSpaceControl c || (0x20 ≤ c.toNat && c.toNat ≠ 0x7F)

/-- Whether white space inside the sequence is kept. -/
def Sequence.keepsSpace : Sequence → Bool
  | escape | intermediate | order _ => true
  | none | device _ | payload | title => false

/-- What is kept of a text.  The sequence `s` has begun before it, and `showing` says whether
    that sequence is interrupted by text to be shown. -/
def printableFrom (s : Sequence) (showing : Bool) : List Char → List Char
  | [] => []
  | c :: rest =>
    if c = '\x1b' then printableFrom .escape false rest
    -- Two control characters call off any sequence.
    else if c = '\x18' || c = '\x1a' then printableFrom .none false rest
    else if (showing || s = .none) && isShown c then
      c :: printableFrom (if c.toNat < 0x80 then s else .none) true rest
    else if s.keepsSpace && isSpaceControl c then c :: printableFrom s true rest
    else printableFrom (s.next c) false rest

/-- The text without control characters and sequences. -/
def printable (text : String) : String :=
  String.ofList (printableFrom .none false text.toList)

/-- An order is dropped through its final character. -/
example : printable "x\x1b[1;31mzz" = "xzz" := by decide +kernel

end BraceArith.Text
