import BraceArith.Explorer.State
import BraceArith.Proofs.Disk.Saving
import BraceArith.Proofs.Session.Recall

/-!
# What a key press can do

A key press either submits the line, or it leaves the disk and everything that submissions have
left behind alone: the entries with their cache, the status and the output path.  Submitting a line
that is not blank always has the same effect on the explorer, the status apart; status and disk
follow from the line's outcome.

## Main definitions

- `Explorer.statusAfter`, `Explorer.diskAfter`: what becomes of status and disk, by outcome
- `Explorer.SameRecord`: nothing that submissions leave behind differs

## Main statements

- `Explorer.submit_of_not_blank`: a submission in one equation
- `Explorer.press_of_ne_enter`: the frame of every other key
-/

namespace BraceArith

namespace Explorer

/-! ## §1 Submitting -/

/-- The status after the submission of a line with the given outcome. -/
def statusAfter (path : String) (disk : Disk) : Outcome → Status
  | .error error => .rejected error
  | .ok report =>
    match disk.write path (Graph.document report.tree) with
    | .ok _ => .written path
    | .error fault => .notWritten path fault

/-- The disk after the submission of a line with the given outcome. -/
def diskAfter (path : String) (disk : Disk) : Outcome → Disk
  | .error _ => disk
  | .ok report => disk.save path (Graph.document report.tree)

theorem submit_of_blank {e : Explorer} (disk : Disk) (h : Text.isBlankLine e.line.text = true) :
    e.submit disk = (e, disk) := by
  simp [submit, submission, h, Saving.onDisk]

theorem submit_of_not_blank {e : Explorer} (disk : Disk)
    (h : Text.isBlankLine e.line.text = false) :
    e.submit disk =
      (e.accept (statusAfter e.outputPath disk (e.history.outcomeOf e.line.text)),
        diskAfter e.outputPath disk (e.history.outcomeOf e.line.text)) := by
  unfold submit submission statusAfter diskAfter Disk.save
  rw [if_neg (by simp [h])]
  cases e.history.outcomeOf e.line.text with
  | error error => rfl
  | ok report =>
    simp only [Saving.onDisk]
    cases disk.write e.outputPath (Graph.document report.tree) with
    | error fault => rfl
    | ok written => rfl

/-! ## §2 Other keys -/

/-- The two explorers agree on all that submissions leave behind. -/
structure SameRecord (e e' : Explorer) : Prop where
  outputPath_eq : e'.outputPath = e.outputPath
  status_eq : e'.status = e.status
  entries_eq : e'.history.entries = e.history.entries
  cache_eq : e'.history.cache = e.history.cache

theorem SameRecord.refl (e : Explorer) : SameRecord e e :=
  ⟨rfl, rfl, rfl, rfl⟩

theorem sameRecord_recallPrevious (e : Explorer) : SameRecord e e.recallPrevious := by
  obtain ⟨position, heq⟩ := e.history.exists_recallPrevious_eq
  simp only [recallPrevious, heq]
  split
  · exact ⟨rfl, rfl, rfl, rfl⟩
  · exact ⟨rfl, rfl, rfl, rfl⟩

theorem sameRecord_recallNext (e : Explorer) : SameRecord e e.recallNext := by
  obtain ⟨position, heq⟩ := e.history.exists_recallNext_eq
  simp only [recallNext, heq]
  split
  · exact ⟨rfl, rfl, rfl, rfl⟩
  · exact .refl e

theorem sameRecord_handle (e : Explorer) (key : Key) : SameRecord e (e.handle key) := by
  cases key with
  | up => exact sameRecord_recallPrevious e
  | down => exact sameRecord_recallNext e
  | _ => exact ⟨rfl, rfl, rfl, rfl⟩

theorem press_of_enter {p : KeyPress} (h : p.key = .enter) (e : Explorer) (disk : Disk) :
    e.press disk p = e.submit disk := by
  simp [press, KeyPress.isControl, h]

/-- A key that does not submit leaves the disk and the record of submissions alone. -/
theorem press_of_ne_enter {p : KeyPress} (h : p.key ≠ .enter) (e : Explorer) (disk : Disk) :
    (e.press disk p).2 = disk ∧ SameRecord e (e.press disk p).1 := by
  unfold press
  split
  · exact ⟨rfl, ⟨rfl, rfl, rfl, rfl⟩⟩
  · exact ⟨rfl, sameRecord_handle e p.key⟩

end Explorer

end BraceArith
