import BraceArith.Disk.Basic

/-!
# Writing to one path again and again

Whether a text can be written to a path is decided by the directories and by the places that refuse
to be written, and writing changes neither.  So a path that could be written to once can be written
to always, and only the last text counts; a path that could not be written to never can.

## Main definitions

- `Disk.target`: the place that a text for a path is written to, or why there is none
- `Disk.save`: the disk after an attempt to write
- `Disk.Keeps`, `Disk.Refuses`: writing to a path always works, or never does

## Main statements

- `Disk.write_save`: an earlier attempt makes no difference to a later one
- `Disk.save_save`: the last attempt counts
-/

namespace BraceArith.Disk

/-! ## §1 Where a text goes -/

/-- The place that a text for `path` is written to. -/
def target (d : Disk) (path : String) : Except WriteFault Place :=
  match d.locate path with
  | .error fault => .error fault
  | .ok place =>
    match d.refusals.lookup place with
    | some reason => .error (.refused reason)
    | none => .ok place

theorem write_eq (d : Disk) (path text : String) :
    d.write path text = (d.target path).map (d.put · text) := by
  unfold write target
  cases d.locate path with
  | error fault => rfl
  | ok place =>
    simp only
    cases d.refusals.lookup place <;> rfl

@[simp] theorem directories_put (d : Disk) (place : Place) (text : String) :
    (d.put place text).directories = d.directories := by
  unfold put
  split <;> rfl

@[simp] theorem current_put (d : Disk) (place : Place) (text : String) :
    (d.put place text).current = d.current := by
  unfold put
  split <;> rfl

@[simp] theorem sinks_put (d : Disk) (place : Place) (text : String) :
    (d.put place text).sinks = d.sinks := by
  unfold put
  split <;> rfl

@[simp] theorem refusals_put (d : Disk) (place : Place) (text : String) :
    (d.put place text).refusals = d.refusals := by
  unfold put
  split <;> rfl

@[simp] theorem isDirectory_put (d : Disk) (place : Place) (text : String) (p : Place) :
    (d.put place text).isDirectory p = d.isDirectory p := by
  simp [isDirectory]

/-- A walk that arrives passes directories only, so a new file does not stop it. -/
theorem walk_put {d : Disk} {wantsDirectory : Bool} {start : Place} {names : List String}
    {goal : Place} (h : d.walk wantsDirectory start names = .ok goal) (place : Place)
    (text : String) : (d.put place text).walk wantsDirectory start names = .ok goal := by
  -- The cases of a walk that goes on or arrives; all others have ended in a fault.
  fun_induction walk d wantsDirectory start names with
  | case5 start last hplain hshort hfree =>
    simp only [walk, hplain, hshort, isDirectory_put, hfree]
    exact h
  | case6 start names hne ih =>
    rw [walk, if_pos rfl]
    · exact ih h
    · exact hne
  | case7 start names hne hdots ih =>
    rw [walk, if_neg hdots, if_pos rfl]
    · exact ih h
    · exact hne
  | case9 start name names hne hdot hdots hshort hdirectory ih =>
    rw [walk, if_neg hdot, if_neg hdots, if_neg hshort, isDirectory_put, if_pos hdirectory]
    · exact ih h
    · exact hne
  | _ => cases h

theorem locate_put {d : Disk} {path : String} {goal : Place} (h : d.locate path = .ok goal)
    (place : Place) (text : String) : (d.put place text).locate path = .ok goal := by
  unfold locate at h ⊢
  split at h
  next => cases h
  next hnul =>
    split at h
    next => cases h
    next hempty =>
      split at h
      next => cases h
      next hshort =>
        rw [if_neg hnul, if_neg hempty, if_neg hshort, current_put]
        exact walk_put h place text

/-- A place that was written to can be written to again. -/
theorem target_put {d : Disk} {path : String} {place : Place} (h : d.target path = .ok place)
    (text : String) : (d.put place text).target path = .ok place := by
  unfold target at h ⊢
  cases hlocate : d.locate path with
  | error fault =>
    rw [hlocate] at h
    cases h
  | ok goal =>
    rw [hlocate] at h
    rw [locate_put hlocate, refusals_put]
    exact h

theorem put_of_sink {d : Disk} {place : Place} (h : d.sinks.contains place = true)
    (text : String) : d.put place text = d :=
  if_pos h

theorem put_of_not_sink {d : Disk} {place : Place} (h : ¬ d.sinks.contains place = true)
    (text : String) :
    d.put place text =
      { d with files := (place, text) :: d.files.filter fun file => file.1 ≠ place } :=
  if_neg h

theorem put_put (d : Disk) (place : Place) (a b : String) :
    (d.put place a).put place b = d.put place b := by
  by_cases hsink : d.sinks.contains place = true
  · rw [put_of_sink hsink, put_of_sink hsink]
  · have hsink' : ¬ (d.put place a).sinks.contains place = true := by rwa [sinks_put]
    rw [put_of_not_sink hsink', put_of_not_sink hsink, put_of_not_sink hsink]
    simp

/-! ## §2 Attempts to write -/

/-- The disk after an attempt to write, which changes nothing if it fails. -/
def save (d : Disk) (path text : String) : Disk :=
  match d.write path text with
  | .ok d' => d'
  | .error _ => d

theorem save_of_target {d : Disk} {path : String} {place : Place} (h : d.target path = .ok place)
    (text : String) : d.save path text = d.put place text := by
  rw [save, write_eq, h]
  rfl

theorem save_of_fault {d : Disk} {path : String} {fault : WriteFault}
    (h : d.target path = .error fault) (text : String) : d.save path text = d := by
  rw [save, write_eq, h]
  rfl

/-- Whether and where a later text is written does not depend on an earlier one. -/
theorem write_save (d : Disk) (path a b : String) :
    (d.save path a).write path b = d.write path b := by
  cases h : d.target path with
  | error fault => rw [save_of_fault h]
  | ok place =>
    rw [save_of_target h, write_eq, write_eq, target_put h, h]
    show Except.ok ((d.put place a).put place b) = .ok (d.put place b)
    rw [put_put]

/-- Of several texts the last one counts. -/
theorem save_save (d : Disk) (path a b : String) :
    (d.save path a).save path b = d.save path b := by
  cases h : d.target path with
  | error fault => rw [save_of_fault h]
  | ok place => rw [save_of_target h, save_of_target h, save_of_target (target_put h a), put_put]

/-! ## §3 Paths that take every text, or none -/

/-- Every text can be written to `path`, and is then the whole content of the file there. -/
def Keeps (d : Disk) (path : String) : Prop :=
  ∀ text, ∃ d', d.write path text = .ok d' ∧ d'.read? path = some text

/-- No text can be written to `path`. -/
def Refuses (d : Disk) (path : String) : Prop :=
  ∀ text, ∃ fault, d.write path text = .error fault

/-- An empty disk keeps a file in its root, and has no directory to keep another one in. -/
example : Keeps {} "tree.dot" ∧ Refuses {} "missing/tree.dot" :=
  ⟨fun _ => ⟨_, rfl, rfl⟩, fun _ => ⟨_, rfl⟩⟩

theorem Keeps.read?_save {d : Disk} {path : String} (h : d.Keeps path) (text : String) :
    (d.save path text).read? path = some text := by
  obtain ⟨d', hwrite, hread⟩ := h text
  rw [save, hwrite]
  exact hread

theorem Refuses.save_eq {d : Disk} {path : String} (h : d.Refuses path) (text : String) :
    d.save path text = d := by
  obtain ⟨fault, hwrite⟩ := h text
  rw [save, hwrite]

end BraceArith.Disk
