import BraceArith.Proofs.Explorer.Step
import BraceArith.View.Frame

/-!
# Drawing has no influence

An explorer is drawn between key presses, and drawing pulls its scroll offsets back to what there
is to show.  The offsets never decide anything: a key moves them, or sets them, or leaves them, and
all else that a key does is the same whatever they are.  So two explorers that get the same key
presses differ in their offsets at most, no matter how often and in which sizes either of them is
drawn meanwhile.

## Main definitions

- `Explorer.Event`, `Explorer.play`: key presses and drawings in any order
- `Explorer.SameButOffsets`: the two explorers differ in their scroll offsets at most

## Main statements

- `SameButOffsets.press`: the same key press keeps two such explorers in step
- `SameButOffsets.play`: drawings can be left out
-/

namespace BraceArith.Explorer

/-! ## §1 Key presses and drawings -/

/-- What happens to an explorer. -/
inductive Event where
  | press (p : KeyPress)
  | draw (width height : Nat)

/-- The key press that an event is. -/
def Event.press? : Event → Option KeyPress
  | press p => some p
  | draw _ _ => none

/-- The key presses among events, in order. -/
def presses (events : List Event) : List KeyPress :=
  events.filterMap Event.press?

/-- The explorer and the disk after an event. -/
def step (e : Explorer) (disk : Disk) : Event → Explorer × Disk
  | .press p => e.press disk p
  | .draw width height => (e.settle width height, disk)

/-- The explorer and the disk after several events. -/
def play (e : Explorer) (disk : Disk) (events : List Event) : Explorer × Disk :=
  events.foldl (fun (e, disk) event => e.step disk event) (e, disk)

/-! ## §2 Explorers with different offsets -/

/-- The two explorers differ in their scroll offsets at most. -/
structure SameButOffsets (e e' : Explorer) : Prop where
  outputPath_eq : e'.outputPath = e.outputPath
  history_eq : e'.history = e.history
  line_eq : e'.line = e.line
  focus_eq : e'.focus = e.focus
  quit_eq : e'.quit = e.quit
  status_eq : e'.status = e.status

namespace SameButOffsets

variable {e e' e'' : Explorer}

theorem withOffsets (e : Explorer) (offsets : Offsets) :
    SameButOffsets e { e with offsets := offsets } :=
  ⟨rfl, rfl, rfl, rfl, rfl, rfl⟩

theorem refl (e : Explorer) : SameButOffsets e e :=
  withOffsets e e.offsets

theorem symm (h : SameButOffsets e e') : SameButOffsets e' e :=
  ⟨h.outputPath_eq.symm, h.history_eq.symm, h.line_eq.symm, h.focus_eq.symm, h.quit_eq.symm,
    h.status_eq.symm⟩

theorem trans (h : SameButOffsets e e') (h' : SameButOffsets e' e'') : SameButOffsets e e'' :=
  ⟨h'.outputPath_eq.trans h.outputPath_eq, h'.history_eq.trans h.history_eq,
    h'.line_eq.trans h.line_eq, h'.focus_eq.trans h.focus_eq, h'.quit_eq.trans h.quit_eq,
    h'.status_eq.trans h.status_eq⟩

theorem exists_eq (h : SameButOffsets e e') : ∃ offsets, e' = { e with offsets := offsets } := by
  obtain ⟨path, history, line, focus, offsets, quit, status⟩ := e'
  obtain ⟨rfl, rfl, rfl, rfl, rfl, rfl⟩ := h
  exact ⟨offsets, rfl⟩

theorem sameRecord (h : SameButOffsets e e') : SameRecord e e' where
  outputPath_eq := h.outputPath_eq
  status_eq := h.status_eq
  entries_eq := by rw [h.history_eq]
  cache_eq := by rw [h.history_eq]

theorem settle (e : Explorer) (width height : Nat) : SameButOffsets e (e.settle width height) :=
  withOffsets e _

/-! ## §3 Two runs in step -/

theorem handle (h : SameButOffsets e e') (key : Key) :
    SameButOffsets (e.handle key) (e'.handle key) := by
  obtain ⟨offsets, rfl⟩ := h.exists_eq
  cases key with
  | up =>
    -- Which line comes up is for the history to say, and the two have the same one.
    simp only [Explorer.handle, recallPrevious]
    cases e.history.recallPrevious.recalled? with
    | some line => exact withOffsets _ offsets
    | none => exact withOffsets _ offsets
  | down =>
    simp only [Explorer.handle, recallNext]
    split
    · exact withOffsets _ offsets
    · exact withOffsets _ offsets
  -- The keys that scroll write the offsets and read the focus; all others leave offsets alone.
  | _ => exact withOffsets _ _

theorem submit (h : SameButOffsets e e') (disk : Disk) :
    SameButOffsets (e.submit disk).1 (e'.submit disk).1 ∧
      (e'.submit disk).2 = (e.submit disk).2 := by
  have hblank : Text.isBlankLine e'.line.text = Text.isBlankLine e.line.text := by rw [h.line_eq]
  cases hb : Text.isBlankLine e.line.text with
  | true =>
    rw [submit_of_blank disk hb, submit_of_blank disk (hblank.trans hb)]
    exact ⟨h, rfl⟩
  | false =>
    rw [submit_of_not_blank disk hb, submit_of_not_blank disk (hblank.trans hb)]
    -- A submission sets the offsets, so that not even they differ any more.
    obtain ⟨offsets, rfl⟩ := h.exists_eq
    exact ⟨.refl _, rfl⟩

theorem press (h : SameButOffsets e e') (disk : Disk) (p : KeyPress) :
    SameButOffsets (e.press disk p).1 (e'.press disk p).1 ∧
      (e'.press disk p).2 = (e.press disk p).2 := by
  unfold Explorer.press
  split
  next =>
    obtain ⟨offsets, rfl⟩ := h.exists_eq
    exact ⟨withOffsets _ offsets, rfl⟩
  next =>
    split
    next => exact h.submit disk
    next => exact ⟨h.handle p.key, rfl⟩

/-- Any number of key presses, one of the two explorers being drawn in between. -/
theorem play (h : SameButOffsets e e') (disk : Disk) (events : List Event) :
    SameButOffsets (e.run disk (presses events)).1 (e'.play disk events).1 ∧
      (e'.play disk events).2 = (e.run disk (presses events)).2 := by
  induction events generalizing e e' disk with
  | nil => exact ⟨h, rfl⟩
  | cons event events ih =>
    cases event with
    -- A drawing happens to one of the two only; a key press to both.
    | draw width height => exact ih (h.trans (settle e' width height)) disk
    | press p =>
      obtain ⟨hsame, hdisk⟩ := h.press disk p
      show SameButOffsets ((e.press disk p).1.run (e.press disk p).2 (presses events)).1
          ((e'.press disk p).1.play (e'.press disk p).2 events).1 ∧
        ((e'.press disk p).1.play (e'.press disk p).2 events).2 =
          ((e.press disk p).1.run (e.press disk p).2 (presses events)).2
      rw [hdisk]
      exact ih hsame (e.press disk p).2

end SameButOffsets

/-! ## §4 Drawings leave no trace -/

/-- Two ways of drawing an explorer while the same keys are pressed leave the same disk and
    explorers with the same history, line, focus, status and wish to end; their scroll offsets are
    the only difference there can be. -/
theorem play_determined_by_presses (e : Explorer) (disk : Disk) {a b : List Event}
    (h : presses a = presses b) :
    (e.play disk a).2 = (e.play disk b).2 ∧
      SameButOffsets (e.play disk a).1 (e.play disk b).1 := by
  obtain ⟨hsame_a, hdisk_a⟩ := (SameButOffsets.refl e).play disk a
  obtain ⟨hsame_b, hdisk_b⟩ := (SameButOffsets.refl e).play disk b
  rw [h] at hsame_a hdisk_a
  exact ⟨hdisk_a.trans hdisk_b.symm, hsame_a.symm.trans hsame_b⟩

/-- Drawn three times or not at all: only the drawn explorer has its history pane pulled back. -/
theorem play_drawn_and_undrawn :
    let e : Explorer := { outputPath := "tree.dot" }
    let seven : Event := .press ⟨.character '7', {}⟩
    let enter : Event := .press ⟨.enter, {}⟩
    let drawn := e.play {} [.draw 80 24, seven, .draw 3 2, enter, .draw 80 24]
    let undrawn := e.play {} [seven, enter]
    drawn.2 = undrawn.2 ∧ SameButOffsets drawn.1 undrawn.1 ∧
      drawn.1.offsets.history = 0 ∧ undrawn.1.offsets.history = offsetLimit := by
  intro e seven enter drawn undrawn
  obtain ⟨hdisk, hsame⟩ := play_determined_by_presses e {}
    (a := [.draw 80 24, seven, .draw 3 2, enter, .draw 80 24]) (b := [seven, enter]) rfl
  exact ⟨hdisk, hsame, by decide +kernel, by decide +kernel⟩

end BraceArith.Explorer
