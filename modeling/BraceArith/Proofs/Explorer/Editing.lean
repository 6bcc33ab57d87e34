import BraceArith.Proofs.Explorer.Step

/-!
# Line editing is editing of two lists

The explorer keeps the line as a text in UTF-8 with a cursor counted in characters, and finds the
byte to change anew for every edit.  The same session can be told without bytes and without
counting: an editor holds the characters before and after the cursor, the lines submitted so far,
and the place among them that is being recalled.  After any key presses the explorer shows what
that editor holds, and every change to its text was made at a byte where a character starts.

## Main definitions

- `Editor`, `Editor.press`, `Editor.run`: the editor on lists
- `Explorer.Shows`: the explorer shows what an editor holds

## Main statements

- `EditLine.insert?_split`, `EditLine.backspace?_split`, `EditLine.delete?_split`: changes of the
  text against changes of the lists
- `Shows.press`, `Shows.run`: key presses keep the two in step
-/

namespace BraceArith.Explorer

/-! ## §1 The editor on lists -/

/-- A line as its characters before and after the cursor, with the lines submitted so far. -/
structure Editor where
  before : List Char := []
  after : List Char := []
  submitted : List String := []
  /-- Number of the submitted line being recalled; their number while a fresh line is edited. -/
  place : Nat := 0

namespace Editor

/-- Puts a recalled line in, the cursor behind it. -/
def load (ed : Editor) (place : Nat) (line : String) : Editor :=
  { ed with before := line.toList, after := [], place := place }

/-- Adds the line to the submitted ones, unless it is blank. -/
def submit (ed : Editor) : Editor :=
  if (ed.before ++ ed.after).all Text.isBlank then ed
  else
    { submitted := ed.submitted ++ [String.ofList (ed.before ++ ed.after)]
      place := ed.submitted.length + 1 }

/-- The effect of a key. -/
def handle (ed : Editor) : Key → Editor
  | .character c => { ed with before := ed.before ++ [c] }
  | .backspace => { ed with before := ed.before.dropLast }
  | .delete => { ed with after := ed.after.tail }
  | .left =>
    { ed with before := ed.before.dropLast, after := ed.before.getLast?.toList ++ ed.after }
  | .right => { ed with before := ed.before ++ ed.after.head?.toList, after := ed.after.tail }
  | .home => { ed with before := [], after := ed.before ++ ed.after }
  | .lineEnd => { ed with before := ed.before ++ ed.after, after := [] }
  | .up =>
    match ed.submitted[ed.place - 1]? with
    | some line => ed.load (ed.place - 1) line
    | none => ed
  | .down =>
    -- Past the newest line there is an empty one; a fresh line stays.
    if ed.place < ed.submitted.length then
      ed.load (ed.place + 1) (ed.submitted[ed.place + 1]?.getD "")
    else ed
  | .enter => ed.submit
  | .escape | .tab | .backTab | .pageUp | .pageDown | .unbound => ed

/-- The effect of a key press; the press that ends the session types nothing. -/
def press (ed : Editor) (p : KeyPress) : Editor :=
  if p.isControl 'c' then ed else ed.handle p.key

/-- The editor after several key presses. -/
def run (ed : Editor) (presses : List KeyPress) : Editor :=
  presses.foldl press ed

end Editor

/-! ## §2 The line as two lists -/

namespace EditLine

/-- The line with the given characters before and after the cursor. -/
def split (before after : List Char) : EditLine :=
  ⟨String.ofList (before ++ after), before.length⟩

@[simp] theorem chars_split (before after : List Char) :
    (split before after).chars = before ++ after := by
  simp [chars, split]

theorem ofText_eq_split (text : String) : ofText text = split text.toList [] := by
  simp [ofText, split]

theorem insert?_split (before after : List Char) (c : Char) :
    (split before after).insert? c = some (split (before ++ [c]) after) := by
  simp only [insert?, split, Text.insertAt?_byteOffset, Option.map_some]
  simp

theorem delete?_split (before after : List Char) :
    (split before after).delete? = some (split before after.tail) := by
  cases after with
  | nil => simp [delete?, split, chars]
  | cons c after =>
    have hlt : (split before (c :: after)).cursor < (split before (c :: after)).chars.length := by
      simp [split, chars]
    rw [delete?, if_pos hlt]
    simp only [split, Text.removeAt?_byteOffset, Option.map_some, List.tail_cons]

theorem backspace?_split (before after : List Char) :
    (split before after).backspace? = some (split before.dropLast after) := by
  rcases List.eq_nil_or_concat before with rfl | ⟨init, c, rfl⟩
  · rfl
  · rw [List.concat_eq_append]
    have hne : ¬ (split (init ++ [c]) after).cursor = 0 := by simp [split]
    rw [backspace?, if_neg hne]
    simp only [split, List.length_append, List.length_singleton, Nat.add_sub_cancel,
      List.append_assoc, List.singleton_append, Text.removeAt?_byteOffset, Option.map_some,
      List.dropLast_concat]

theorem left_split (before after : List Char) :
    (split before after).left = split before.dropLast (before.getLast?.toList ++ after) := by
  rcases List.eq_nil_or_concat before with rfl | ⟨init, c, rfl⟩
  · rfl
  · simp [left, split]

theorem right_split (before after : List Char) :
    (split before after).right = split (before ++ after.head?.toList) after.tail := by
  cases after with
  | nil => simp [right, split, chars]
  | cons c after => simp [right, split, chars]

theorem home_split (before after : List Char) :
    (split before after).home = split [] (before ++ after) := by
  simp [home, split]

theorem toEnd_split (before after : List Char) :
    (split before after).toEnd = split (before ++ after) [] := by
  simp [toEnd, split, chars]

end EditLine

/-! ## §3 The explorer shows what the editor holds -/

/-- The explorer shows what the editor holds. -/
structure Shows (e : Explorer) (ed : Editor) : Prop where
  line_eq : e.line = .split ed.before ed.after
  inputs_eq : e.history.entries.map Entry.input = ed.submitted
  position_eq : e.history.position = ed.place
  positioned : e.history.Positioned

theorem shows_new (path : String) : Shows { outputPath := path } {} where
  line_eq := by rfl
  inputs_eq := by rfl
  position_eq := by rfl
  positioned := History.positioned_empty

/-- A change to the line alone shows as a change to the two lists alone. -/
theorem Shows.edit {e : Explorer} {ed : Editor} (h : Shows e ed) {line : EditLine}
    {before after : List Char} (hline : line = .split before after) :
    Shows { e with line := line } { ed with before := before, after := after } :=
  ⟨hline, h.inputs_eq, h.position_eq, h.positioned⟩

theorem Shows.length_eq {e : Explorer} {ed : Editor} (h : Shows e ed) :
    e.history.entries.length = ed.submitted.length := by
  rw [← h.inputs_eq, List.length_map]

/-- Recalling the line before gives what the editor has there. -/
theorem Shows.recalled?_previous {e : Explorer} {ed : Editor} (h : Shows e ed) :
    e.history.recallPrevious.recalled? = ed.submitted[ed.place - 1]? := by
  rw [History.recalled?_eq, History.entries_recallPrevious, h.inputs_eq,
    h.positioned.position_recallPrevious, h.position_eq]

theorem Shows.isRecalling_iff {e : Explorer} {ed : Editor} (h : Shows e ed) :
    e.history.isRecalling = true ↔ ed.place < ed.submitted.length := by
  rw [h.positioned.isRecalling_iff, h.position_eq, h.length_eq]

/-- Recalling the line after gives what the editor has there, and nothing past the newest. -/
theorem Shows.recalled?_next {e : Explorer} {ed : Editor} (h : Shows e ed) :
    e.history.recallNext.recalled? = ed.submitted[ed.place + 1]? := by
  rw [History.recalled?_eq, History.entries_recallNext, h.inputs_eq, History.position_recallNext,
    h.position_eq, h.length_eq]
  rcases Nat.lt_or_ge (ed.place + 1) ed.submitted.length with hlt | hge
  · rw [Nat.min_eq_left (Nat.le_of_lt hlt)]
  · rw [Nat.min_eq_right hge, List.getElem?_eq_none (Nat.le_refl _), List.getElem?_eq_none hge]

theorem Shows.recallPrevious {e : Explorer} {ed : Editor} (h : Shows e ed) :
    Shows e.recallPrevious (ed.handle .up) := by
  have hplace : e.history.recallPrevious.position = ed.place - 1 := by
    rw [h.positioned.position_recallPrevious, h.position_eq]
  have hinputs : e.history.recallPrevious.entries.map Entry.input = ed.submitted := by
    rw [History.entries_recallPrevious, h.inputs_eq]
  have hpositioned := h.positioned.recallPrevious
  simp only [Explorer.recallPrevious, Editor.handle, h.recalled?_previous]
  cases hget : ed.submitted[ed.place - 1]? with
  | some line => exact ⟨EditLine.ofText_eq_split line, hinputs, hplace, hpositioned⟩
  | none =>
    -- Nothing has been submitted, so the place is zero already.
    have hle : ed.place ≤ ed.submitted.length := by
      rw [← h.position_eq, ← h.length_eq]
      exact h.positioned.position_le
    have hempty := List.getElem?_eq_none_iff.mp hget
    have hsame : e.history.recallPrevious.position = ed.place := by omega
    exact ⟨h.line_eq, hinputs, hsame, hpositioned⟩

theorem Shows.recallNext {e : Explorer} {ed : Editor} (h : Shows e ed) :
    Shows e.recallNext (ed.handle .down) := by
  simp only [Explorer.recallNext, Editor.handle]
  by_cases hlt : ed.place < ed.submitted.length
  · -- Behind the newest line nothing is recalled, and the line becomes the empty one.
    have hplace : e.history.recallNext.position = ed.place + 1 := by
      rw [History.position_recallNext, h.position_eq, h.length_eq]
      exact Nat.min_eq_left hlt
    rw [if_pos (h.isRecalling_iff.mpr hlt), if_pos hlt, h.recalled?_next]
    refine ⟨EditLine.ofText_eq_split _, ?_, hplace, History.positioned_recallNext _⟩
    rw [History.entries_recallNext, h.inputs_eq]
    rfl
  · rw [if_neg (fun hyes => hlt (h.isRecalling_iff.mp hyes)), if_neg hlt]
    exact h

theorem Shows.submit {e : Explorer} {ed : Editor} (h : Shows e ed) (disk : Disk) :
    Shows (e.submit disk).1 ed.submit := by
  have htext : e.line.text = String.ofList (ed.before ++ ed.after) := by
    rw [h.line_eq, EditLine.split]
  have hblank : Text.isBlankLine e.line.text = (ed.before ++ ed.after).all Text.isBlank := by
    rw [htext, Text.isBlankLine, String.toList_ofList]
  unfold Editor.submit
  cases hb : (ed.before ++ ed.after).all Text.isBlank with
  | true =>
    rw [submit_of_blank disk (hblank.trans hb)]
    exact h
  | false =>
    rw [submit_of_not_blank disk (hblank.trans hb)]
    refine ⟨rfl, ?_, ?_, History.positioned_submit _ _⟩
    · simp [accept, History.submit, h.inputs_eq, htext]
    · simp [accept, History.position_submit, h.length_eq]

/-- One key press. -/
theorem Shows.press {e : Explorer} {ed : Editor} (h : Shows e ed) (disk : Disk) (p : KeyPress) :
    Shows (e.press disk p).1 (ed.press p) := by
  unfold Explorer.press Editor.press
  split
  next =>
    -- The press that ends the session leaves the line for what may still come.
    exact ⟨h.line_eq, h.inputs_eq, h.position_eq, h.positioned⟩
  next =>
    split
    next henter =>
      rw [henter]
      exact h.submit disk
    next =>
      show Shows (e.handle p.key) (ed.handle p.key)
      cases hkey : p.key with
      -- Three keys change the text, each at a byte where that is possible.
      | character c =>
        refine h.edit ?_
        rw [EditLine.insert, h.line_eq, EditLine.insert?_split, Option.getD_some]
      | backspace =>
        refine h.edit ?_
        rw [EditLine.backspace, h.line_eq, EditLine.backspace?_split, Option.getD_some]
      | delete =>
        refine h.edit ?_
        rw [EditLine.delete, h.line_eq, EditLine.delete?_split, Option.getD_some]
      | left => exact h.edit (h.line_eq ▸ EditLine.left_split _ _)
      | right => exact h.edit (h.line_eq ▸ EditLine.right_split _ _)
      | home => exact h.edit (h.line_eq ▸ EditLine.home_split _ _)
      | lineEnd => exact h.edit (h.line_eq ▸ EditLine.toEnd_split _ _)
      | up => exact h.recallPrevious
      | down => exact h.recallNext
      | enter => contradiction
      | escape | tab | backTab | pageUp | pageDown | unbound =>
        exact ⟨h.line_eq, h.inputs_eq, h.position_eq, h.positioned⟩

/-- Any number of key presses. -/
theorem Shows.run {e : Explorer} {ed : Editor} (h : Shows e ed) (disk : Disk)
    (presses : List KeyPress) : Shows (e.run disk presses).1 (ed.run presses) := by
  induction presses generalizing e ed disk with
  | nil => exact h
  | cons p presses ih => exact ih (h.press disk p) (e.press disk p).2

/-! ## §4 Whole sessions -/

/-- Editing refines editing of two lists.  After any key presses on a new explorer its line is what
    the editor on lists has before and after its cursor, the cursor counts the characters before
    it, the inputs of the history are the lines that the editor has submitted, and recall gives the
    lines that the editor puts in; submitting a blank line changes nothing.  Characters are put in
    and taken out at bytes where a character starts, so that no change fails. -/
theorem run_refines_editor (path : String) (disk : Disk) (presses : List KeyPress) :
    let e := (run { outputPath := path } disk presses).1
    let ed := Editor.run {} presses
    e.line.text = String.ofList (ed.before ++ ed.after) ∧
    e.line.cursor = ed.before.length ∧
    e.line.cursor ≤ e.line.chars.length ∧
    e.history.entries.map Entry.input = ed.submitted ∧
    e.history.recallPrevious.recalled? = ed.submitted[ed.place - 1]? ∧
    (e.history.isRecalling = true ↔ ed.place < ed.submitted.length) ∧
    e.history.recallNext.recalled? = ed.submitted[ed.place + 1]? ∧
    (e.line.chars.all Text.isBlank = true →
      ∀ disk p, p.key = .enter → e.press disk p = (e, disk)) ∧
    String.Pos.Raw.IsValid e.line.text ⟨Text.byteOffset e.line.text e.line.cursor⟩ ∧
    String.Pos.Raw.IsValid e.line.text ⟨Text.byteOffset e.line.text (e.line.cursor - 1)⟩ ∧
    (∀ c, (e.line.insert? c).isSome = true) ∧
    e.line.backspace?.isSome = true ∧
    e.line.delete?.isSome = true := by
  intro e ed
  have h : Shows e ed := (shows_new path).run disk presses
  refine ⟨?_, ?_, ?_, h.inputs_eq, h.recalled?_previous, h.isRecalling_iff, h.recalled?_next, ?_,
    Text.isValid_byteOffset _ _, Text.isValid_byteOffset _ _, ?_, ?_, ?_⟩
  · rw [h.line_eq, EditLine.split]
  · rw [h.line_eq, EditLine.split]
  · rw [h.line_eq, EditLine.chars_split]
    simp [EditLine.split]
  · intro hblank disk p hp
    rw [press_of_enter hp, submit_of_blank disk hblank]
  · intro c
    rw [h.line_eq, EditLine.insert?_split, Option.isSome_some]
  · rw [h.line_eq, EditLine.backspace?_split, Option.isSome_some]
  · rw [h.line_eq, EditLine.delete?_split, Option.isSome_some]

end BraceArith.Explorer
