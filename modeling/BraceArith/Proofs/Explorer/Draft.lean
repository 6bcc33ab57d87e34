import BraceArith.Proofs.Explorer.Editing

/-!
# What stepping on in the history does to a line

While an old line is being recalled, the key for the next line puts that line in, and past the
newest one an empty line.  It does so whatever the line has become meanwhile: editing a recalled
line does not end its recall.  So a line is safe from that key only if it was begun afresh, that is,
if the last key that put in or cleared the whole line cleared it.

To say this, notes are kept along a session: whether the line was last put in from the submitted
ones, and whether it has been edited since.

## Main definitions

- `Editor.replaces`, `Editor.edits`: whether a key press replaces the line or edits it
- `Draft`, `Draft.run`: the notes on the line, along key presses
- `Draft.Tells`: the notes tell whether a line is being recalled

## Main statements

- `Draft.Tells.press`, `Draft.Tells.run`: key presses keep the notes right
- `Shows.line_press_down`: what the key does to the line
-/

namespace BraceArith.Explorer

/-! ## §1 Keys that replace and keys that edit -/

namespace Editor

/-- Whether the press puts in or clears the whole line. -/
def replaces (ed : Editor) (p : KeyPress) : Bool :=
  match p.key with
  | .up => !ed.submitted.isEmpty
  | .down => ed.place < ed.submitted.length
  | .enter => !(ed.before ++ ed.after).all Text.isBlank
  | _ => false

/-- Whether the press changes the line by editing. -/
def edits (ed : Editor) (p : KeyPress) : Bool :=
  match p.key with
  | .character _ => !p.isControl 'c'
  | .backspace => !ed.before.isEmpty
  | .delete => !ed.after.isEmpty
  | _ => false

end Editor

/-- Notes on the line being edited. -/
structure Draft where
  /-- The last press that put in or cleared the whole line put one in. -/
  recalled : Bool := false
  /-- The line has been edited since. -/
  edited : Bool := false

namespace Draft

/-- The notes after a key press. -/
def press (d : Draft) (ed : Editor) (p : KeyPress) : Draft :=
  if ed.replaces p then
    { recalled := !((ed.press p).before ++ (ed.press p).after).isEmpty, edited := false }
  else { d with edited := d.edited || ed.edits p }

/-- The notes after several key presses. -/
def run (d : Draft) (ed : Editor) : List KeyPress → Draft
  | [] => d
  | p :: presses => (d.press ed p).run (ed.press p) presses

/-! ## §2 The notes tell whether a line is recalled -/

/-- The notes tell whether a line is being recalled, and no submitted line is empty. -/
structure Tells (d : Draft) (ed : Editor) : Prop where
  recalled_iff : d.recalled = true ↔ ed.place < ed.submitted.length
  place_le : ed.place ≤ ed.submitted.length
  ne_nil : ∀ line ∈ ed.submitted, line.toList ≠ []

theorem tells_start : Tells {} {} where
  recalled_iff := by simp
  place_le := Nat.le_refl _
  ne_nil := by simp

section

variable {d : Draft} {ed : Editor}

/-- A press that replaces nothing and leaves the submitted lines alone leaves the notes right. -/
theorem Tells.of_not_replaces (h : Tells d ed) {p : KeyPress} (hreplaces : ed.replaces p = false)
    (hplace : (ed.press p).place = ed.place)
    (hsubmitted : (ed.press p).submitted = ed.submitted) : Tells (d.press ed p) (ed.press p) := by
  refine ⟨?_, ?_, ?_⟩
  · simpa [Draft.press, hreplaces, hplace, hsubmitted] using h.recalled_iff
  · rw [hplace, hsubmitted]
    exact h.place_le
  · rw [hsubmitted]
    exact h.ne_nil

theorem Tells.of_press_eq (h : Tells d ed) {p : KeyPress} (hreplaces : ed.replaces p = false)
    (hsame : ed.press p = ed) : Tells (d.press ed p) (ed.press p) :=
  h.of_not_replaces hreplaces (by rw [hsame]) (by rw [hsame])

/-- Putting in the line at a place, or an empty one behind the newest. -/
theorem Tells.of_load (h : Tells d ed) {p : KeyPress} (place : Nat)
    (hreplaces : ed.replaces p = true) (hplace : place ≤ ed.submitted.length)
    (hpress : ed.press p = ed.load place (ed.submitted[place]?.getD "")) :
    Tells (d.press ed p) (ed.press p) := by
  refine ⟨?_, ?_, ?_⟩
  · rw [Draft.press, if_pos hreplaces, hpress]
    simp only [Editor.load, List.append_nil]
    rcases Nat.lt_or_eq_of_le hplace with hlt | rfl
    · -- A submitted line is not empty.
      have hline := h.ne_nil _ (List.getElem_mem hlt)
      simp [hlt, hline]
    · simp
  · rw [hpress]
    exact hplace
  · rw [hpress]
    exact h.ne_nil

theorem Tells.submit (h : Tells d ed) {p : KeyPress} (hp : p.key = .enter) :
    Tells (d.press ed p) (ed.press p) := by
  have hpress : ed.press p = ed.submit := by
    simp [Editor.press, KeyPress.isControl, Editor.handle, hp]
  cases hblank : (ed.before ++ ed.after).all Text.isBlank with
  | true =>
    apply h.of_press_eq
    · rw [Editor.replaces, hp, hblank]
      rfl
    · rw [hpress, Editor.submit, if_pos hblank]
  | false =>
    have hreplaces : ed.replaces p = true := by
      rw [Editor.replaces, hp, hblank]
      rfl
    rw [Draft.press, if_pos hreplaces, hpress, Editor.submit, if_neg (by simp [hblank])]
    refine ⟨by simp, by simp, ?_⟩
    intro line hline
    rcases List.mem_append.mp hline with hold | hnew
    · exact h.ne_nil line hold
    · -- A line that is not blank has a character.
      intro hnil
      rw [List.mem_singleton.mp hnew, String.toList_ofList] at hnil
      rw [hnil] at hblank
      cases hblank

/-- One key press. -/
theorem Tells.press (h : Tells d ed) (p : KeyPress) : Tells (d.press ed p) (ed.press p) := by
  obtain ⟨key, modifiers⟩ := p
  cases key with
  | character c =>
    have hframe : (ed.press ⟨.character c, modifiers⟩).place = ed.place ∧
        (ed.press ⟨.character c, modifiers⟩).submitted = ed.submitted := by
      unfold Editor.press
      split
      · exact ⟨rfl, rfl⟩
      · exact ⟨rfl, rfl⟩
    exact h.of_not_replaces rfl hframe.1 hframe.2
  | enter => exact h.submit rfl
  | up =>
    by_cases hnil : ed.submitted = []
    · -- With nothing submitted there is nothing to put in.
      apply h.of_press_eq
      · simp [Editor.replaces, hnil]
      · simp [Editor.press, KeyPress.isControl, Editor.handle, hnil]
    · have hlength : 0 < ed.submitted.length := List.length_pos_iff.mpr hnil
      have hplace := h.place_le
      have hlt : ed.place - 1 < ed.submitted.length := by omega
      apply h.of_load (ed.place - 1)
      · simp [Editor.replaces, hnil]
      · exact Nat.le_of_lt hlt
      · simp [Editor.press, KeyPress.isControl, Editor.handle, hlt]
  | down =>
    by_cases hlt : ed.place < ed.submitted.length
    · apply h.of_load (ed.place + 1)
      · simp [Editor.replaces, hlt]
      · exact hlt
      · simp [Editor.press, KeyPress.isControl, Editor.handle, hlt]
    · apply h.of_press_eq
      · simp [Editor.replaces, hlt]
      · simp [Editor.press, KeyPress.isControl, Editor.handle, hlt]
  -- All other keys leave the submitted lines and the place among them alone.
  | _ => exact h.of_not_replaces rfl rfl rfl

theorem Tells.run (h : Tells d ed) (presses : List KeyPress) :
    Tells (d.run ed presses) (ed.run presses) := by
  induction presses generalizing d ed with
  | nil => exact h
  | cons p presses ih => exact ih (h.press p)

end

end Draft

/-! ## §3 The key for the next line -/

/-- While a line is recalled its successor is put in, whatever the line is now. -/
theorem Shows.line_press_down {e : Explorer} {ed : Editor} (h : Shows e ed) (disk : Disk)
    (modifiers : Modifiers) :
    (e.press disk ⟨.down, modifiers⟩).1.line =
      if ed.place < ed.submitted.length then .ofText (e.history.recallNext.recalled?.getD "")
      else e.line := by
  have hpress : (e.press disk ⟨.down, modifiers⟩).1 = e.recallNext := by
    simp [Explorer.press, KeyPress.isControl, handle]
  rw [hpress, Explorer.recallNext]
  by_cases hlt : ed.place < ed.submitted.length
  · rw [if_pos (h.isRecalling_iff.mpr hlt), if_pos hlt]
  · rw [if_neg (fun hyes => hlt (h.isRecalling_iff.mp hyes)), if_neg hlt]

/-- When the key for the next line keeps the line.  Take any explorer that key presses lead to.  If
    the line was begun afresh, the key keeps line and cursor; if the line was put in from the
    submitted ones, the key puts in the one after it, or an empty line past the newest, no matter
    how the line has been edited.  So a line that is not empty, edited or not, is kept exactly if it
    was begun afresh, or happens to be the line after the recalled one with the cursor at its
    end. -/
theorem down_keeps_line_iff_begun_afresh (path : String) (disk disk' : Disk)
    (presses : List KeyPress) (modifiers : Modifiers) :
    let e := (run { outputPath := path } disk presses).1
    let d := Draft.run {} {} presses
    let down := (e.press disk' ⟨.down, modifiers⟩).1
    (d.recalled = false → down.line = e.line) ∧
    (d.recalled = true → down.line = .ofText (e.history.recallNext.recalled?.getD "")) ∧
    (e.line.text ≠ "" → (down.line = e.line ↔
      d.recalled = false ∨
        ∃ line, e.history.recallNext.recalled? = some line ∧ e.line = .ofText line)) := by
  intro e d down
  have hshows : Shows e (Editor.run {} presses) := (shows_new path).run disk presses
  have htells : d.Tells (Editor.run {} presses) := Draft.tells_start.run presses
  have hdown := hshows.line_press_down disk' modifiers
  have hfresh : d.recalled = false → down.line = e.line := by
    intro hd
    have hplace : ¬ (Editor.run {} presses).place < (Editor.run {} presses).submitted.length := by
      simp [← htells.recalled_iff, hd]
    exact hdown.trans (if_neg hplace)
  have hrecalled : d.recalled = true →
      down.line = .ofText (e.history.recallNext.recalled?.getD "") := by
    intro hd
    exact hdown.trans (if_pos (htells.recalled_iff.mp hd))
  refine ⟨hfresh, hrecalled, ?_⟩
  intro hline
  constructor
  · intro hkept
    cases hd : d.recalled with
    | false => exact Or.inl rfl
    | true =>
      -- The line is what was put in, and that is not the empty line past the newest.
      have hput := hkept.symm.trans (hrecalled hd)
      cases hnext : e.history.recallNext.recalled? with
      | none =>
        rw [hnext] at hput
        exact absurd (congrArg EditLine.text hput) hline
      | some line =>
        rw [hnext] at hput
        exact Or.inr ⟨line, rfl, hput⟩
  · intro h
    cases hd : d.recalled with
    | false => exact hfresh hd
    | true =>
      rcases h with hfalse | ⟨line, hnext, hsame⟩
      · exact absurd hd (by simp [hfalse])
      · rw [hrecalled hd, hnext, hsame, Option.getD_some]

/-- A line that was typed is lost: one line is submitted and recalled, taken out, and another one
    typed in its place. -/
theorem down_discards_typed_line :
    ¬ ∀ (path : String) (disk disk' : Disk) (presses : List KeyPress) (modifiers : Modifiers),
      (Draft.run {} {} presses).edited = true →
      (run { outputPath := path } disk presses).1.line.text ≠ "" →
      ((run { outputPath := path } disk presses).1.press disk' ⟨.down, modifiers⟩).1.line =
        (run { outputPath := path } disk presses).1.line := by
  intro h
  have hkept := h "tree.dot" {} {}
    (KeyPress.typing "5" ++ [⟨.enter, {}⟩, ⟨.up, {}⟩, ⟨.backspace, {}⟩] ++ KeyPress.typing "1+2") {}
    (by decide +kernel) (by decide +kernel)
  exact absurd hkept (by decide +kernel)

end BraceArith.Explorer
