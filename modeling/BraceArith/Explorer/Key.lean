/-!
# Key presses

What the keyboard sends: a key, and the keys held down with it.  Only the control key ever makes a
difference, and only for one character.
-/

namespace BraceArith.Explorer

/-- The keys of a keyboard, as far as the explorer tells them apart. -/
inductive Key where
  /-- A key that stands for a character. -/
  | character (c : Char)
  /-- Leave. -/
  | escape
  /-- Submit the line. -/
  | enter
  /-- Remove the character before the cursor. -/
  | backspace
  /-- Remove the character under the cursor. -/
  | delete
  /-- One character back. -/
  | left
  /-- One character on. -/
  | right
  /-- To the start of the line. -/
  | home
  /-- To the end of the line. -/
  | lineEnd
  /-- The line before this one. -/
  | up
  /-- The line after this one. -/
  | down
  /-- The next pane. -/
  | tab
  /-- The pane before. -/
  | backTab
  /-- One row up in the pane. -/
  | pageUp
  /-- One row down in the pane. -/
  | pageDown
  /-- Any other key; it does nothing. -/
  | unbound
deriving DecidableEq, Repr

/-- Keys held down together with another one. -/
structure Modifiers where
  /-- The control key. -/
  control : Bool := false
  /-- The alternate key. -/
  alternate : Bool := false
  /-- The shift key. -/
  shift : Bool := false
deriving DecidableEq, Repr

/-- A key together with what is held down. -/
structure KeyPress where
  /-- The key. -/
  key : Key
  /-- What is held down. -/
  modifiers : Modifiers := {}
deriving DecidableEq, Repr

namespace KeyPress

/-- Whether the press is the character `c` with the control key. -/
def isControl (p : KeyPress) (c : Char) : Bool :=
  p.key = .character c && p.modifiers.control

/-- The presses that type `text`, all with `modifiers` held down. -/
def typing (text : String) (modifiers : Modifiers := {}) : List KeyPress :=
  text.toList.map fun c => ⟨.character c, modifiers⟩

end KeyPress

end BraceArith.Explorer
