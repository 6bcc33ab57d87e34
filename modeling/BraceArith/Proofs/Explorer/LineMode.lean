import BraceArith.Proofs.Explorer.Drawing
import BraceArith.Proofs.Explorer.Editing
import BraceArith.Proofs.Explorer.Output

/-!
# Line mode and the explorer agree

A line can be evaluated in two ways: line mode analyses it and prints, the explorer has it typed
key by key, looks it up among the lines submitted before, and shows a status.  Both come down to
the line's outcome.  In an explorer with an empty line, typing puts exactly the typed characters
into it, and a consistent history gives the outcome of analysing them; from there on the disk and
the status are what line mode makes of the same outcome.

## Main statements

- `run_typing`: typing puts characters in front of the cursor and does nothing else
- `run_typing_enter`: typing a line and submitting it, in one equation
-/

namespace BraceArith.Explorer

/-! ## §1 Explorers that keys and drawings lead to -/

theorem Shows.of_sameButOffsets {e e' : Explorer} {ed : Editor} (h : Shows e ed)
    (hsame : SameButOffsets e e') : Shows e' ed where
  line_eq := hsame.line_eq.trans h.line_eq
  inputs_eq := by rw [hsame.history_eq, h.inputs_eq]
  position_eq := by rw [hsame.history_eq, h.position_eq]
  positioned := by
    rw [hsame.history_eq]
    exact h.positioned

theorem shows_play (path : String) (start : Disk) (events : List Event) :
    Shows (play { outputPath := path } start events).1 (Editor.run {} (presses events)) := by
  obtain ⟨hsame, -⟩ := (SameButOffsets.refl { outputPath := path }).play start events
  exact ((shows_new path).run start (presses events)).of_sameButOffsets hsame

theorem follows_play (path : String) (start : Disk) (events : List Event) :
    Follows path start (play { outputPath := path } start events).1
      (play { outputPath := path } start events).2 := by
  obtain ⟨hsame, hdisk⟩ := (SameButOffsets.refl { outputPath := path }).play start events
  rw [hdisk]
  exact ((follows_new path start).run (presses events)).of_sameRecord hsame.sameRecord

/-- An empty line has nothing on either side of its cursor. -/
theorem Shows.line_eq_of_empty {e : Explorer} {ed : Editor} (h : Shows e ed)
    (hempty : e.line.text = "") : e.line = .split [] [] := by
  have hchars : ed.before ++ ed.after = [] := by
    rw [← EditLine.chars_split, ← h.line_eq, EditLine.chars, hempty]
    rfl
  obtain ⟨hbefore, hafter⟩ := List.append_eq_nil_iff.mp hchars
  rw [h.line_eq, hbefore, hafter]

/-! ## §2 Typing -/

theorem run_append (e : Explorer) (disk : Disk) (first second : List KeyPress) :
    e.run disk (first ++ second) =
      (e.run disk first).1.run (e.run disk first).2 second :=
  List.foldl_append

theorem press_character {e : Explorer} {before after : List Char}
    (hline : e.line = .split before after) (disk : Disk) (c : Char) :
    e.press disk ⟨.character c, {}⟩ =
      ({ e with line := .split (before ++ [c]) after }, disk) := by
  have hinsert : e.line.insert c = .split (before ++ [c]) after := by
    rw [EditLine.insert, hline, EditLine.insert?_split, Option.getD_some]
  simp [press, KeyPress.isControl, handle, hinsert]

/-- Typed characters end up in front of the cursor, in order. -/
theorem run_typing {e : Explorer} {before after : List Char}
    (hline : e.line = .split before after) (disk : Disk) (text : String) :
    e.run disk (KeyPress.typing text) =
      ({ e with line := .split (before ++ text.toList) after }, disk) := by
  unfold KeyPress.typing
  induction text.toList generalizing e before with
  | nil =>
    rw [List.append_nil, ← hline]
    rfl
  | cons c chars ih =>
    show (e.press disk ⟨.character c, {}⟩).1.run (e.press disk ⟨.character c, {}⟩).2 _ = _
    rw [press_character hline, ih rfl, List.append_assoc, List.singleton_append]

/-- Typing a line into an empty one and submitting it adds it to the history with the outcome of
    analysing it, and makes status and disk from that outcome. -/
theorem run_typing_enter {e : Explorer} (hline : e.line = .split [] [])
    (hc : e.history.Consistent) {path : String} (hpath : e.outputPath = path) {text : String}
    (htext : Text.isBlankLine text = false) {p : KeyPress} (hp : p.key = .enter) (disk : Disk) :
    let typed := e.run disk (KeyPress.typing text ++ [p])
    typed.1.history.latest? = some ⟨text, analyze text⟩ ∧
    typed.1.status = statusAfter path disk (analyze text) ∧
    typed.2 = diskAfter path disk (analyze text) := by
  intro typed
  have htyped : e.run disk (KeyPress.typing text) = ({ e with line := .ofText text }, disk) := by
    rw [run_typing hline, List.nil_append, ← EditLine.ofText_eq_split]
  have hsubmitted : typed = submit { e with line := .ofText text } disk := by
    show e.run disk (KeyPress.typing text ++ [p]) = _
    rw [run_append, htyped]
    exact press_of_enter hp _ disk
  -- The outcome may be taken over from an earlier entry, and is the line's own all the same.
  have hsubmit := submit_of_not_blank (e := { e with line := .ofText text }) disk htext
  rw [hsubmitted, hsubmit, ← hc.outcomeOf_eq text, ← hpath]
  exact ⟨History.latest?_submit _ _, rfl, rfl⟩

/-! ## §3 One outcome, two ways -/

section

variable {disk written : Disk} {path line : String} {report : Report} {fault : WriteFault}

theorem statusAfter_of_written (hwrite : disk.write path (Graph.document report.tree) = .ok written) :
    statusAfter path disk (.ok report) = .written path := by
  simp only [statusAfter, hwrite]

theorem statusAfter_of_fault (hwrite : disk.write path (Graph.document report.tree) = .error fault) :
    statusAfter path disk (.ok report) = .notWritten path fault := by
  simp only [statusAfter, hwrite]

/-- Line mode leaves the disk that a submission of the line leaves. -/
theorem evaluateLine_disk (disk : Disk) (path line : String) :
    (evaluateLine disk path line).2 = diskAfter path disk (analyze line) := by
  cases h : analyze line with
  | error error => rw [evaluateLine_of_error h, diskAfter]
  | ok report =>
    rw [diskAfter, Disk.save]
    cases hwrite : disk.write path (Graph.document report.tree) with
    | ok written => rw [evaluateLine_of_written h hwrite]
    | error fault => rw [evaluateLine_of_fault h hwrite]

/-- Line mode exits with zero exactly when a submission of the line gives no error. -/
theorem isError_statusAfter_iff (disk : Disk) (path line : String) :
    (statusAfter path disk (analyze line)).isError = false ↔
      (evaluateLine disk path line).1.exitCode = 0 := by
  cases h : analyze line with
  | error error => simp [evaluateLine_of_error h, statusAfter, Status.isError, Response.failure]
  | ok report =>
    cases hwrite : disk.write path (Graph.document report.tree) with
    | ok written =>
      simp [evaluateLine_of_written h hwrite, statusAfter_of_written hwrite, Status.isError,
        Response.ofReport]
    | error fault =>
      simp [evaluateLine_of_fault h hwrite, statusAfter_of_fault hwrite, Status.isError,
        Response.ofReport]

end

/-- Line mode and the explorer agree.  Take any explorer that keys and drawings lead to, its line
    being empty, any disk that it meets, and any text that is not blank.  Typing the text and
    pressing Enter leaves the disk that line mode leaves, and an error in the status exactly when
    line mode does not exit with zero.

    On a syntax error the status is what line mode writes to standard error, and the disk stays.  If
    the graph description is written, line mode prints text and value of the newest entry and then
    the status.  If only that fails, both name the path and the fault, and the disk stays. -/
theorem typed_line_agrees_with_line_mode (path : String) (start disk : Disk) (events : List Event)
    (text : String) (p : KeyPress)
    (hempty : (play { outputPath := path } start events).1.line.text = "")
    (htext : ∃ c ∈ text.toList, Text.isBlank c = false) (hp : p.key = .enter) :
    let typed :=
      (play { outputPath := path } start events).1.run disk (KeyPress.typing text ++ [p])
    let evaluated := evaluateLine disk path text
    typed.2 = evaluated.2 ∧
    (typed.1.status.isError = false ↔ evaluated.1.exitCode = 0) ∧
    (∀ error, analyze text = .error error →
      evaluated.1.stderr = typed.1.status.message ++ "\n" ∧
      typed.1.status.message = "Error: " ++ error.display ∧ typed.2 = disk) ∧
    (∀ report written, analyze text = .ok report →
      disk.write path (Graph.document report.tree) = .ok written →
      typed.1.history.latest? = some ⟨text, .ok report⟩ ∧
      evaluated.1.stdout =
        "Expression Tree: " ++ report.rendering ++ "\nEvaluated Result: " ++
          Decimal.text report.value ++ "\n" ++ typed.1.status.message ++ "\n" ∧
      typed.2 = written) ∧
    (∀ report fault, analyze text = .ok report →
      disk.write path (Graph.document report.tree) = .error fault →
      typed.1.status.message = "Failed to write " ++ path ++ ": " ++ fault.message ∧
      evaluated.1.stderr =
        Response.progress report ++ "Error: failed to write " ++ path ++ ": " ++ fault.message ++
          "\n" ∧
      typed.2 = disk) := by
  intro typed evaluated
  have hfollows := follows_play path start events
  have hline := (shows_play path start events).line_eq_of_empty hempty
  have hblank : Text.isBlankLine text = false := by simpa [Text.isBlankLine] using htext
  obtain ⟨hlatest, hstatus, hdisk⟩ :=
    run_typing_enter hline hfollows.consistent hfollows.outputPath_eq hblank hp disk
  have hsame : typed.2 = evaluated.2 := hdisk.trans (evaluateLine_disk disk path text).symm
  refine ⟨hsame, ?_, ?_, ?_, ?_⟩
  · rw [hstatus]
    exact isError_statusAfter_iff disk path text
  · -- The line is refused, and neither way touches the disk.
    intro error herror
    have hevaluated : evaluated = _ := evaluateLine_of_error herror disk path
    rw [herror] at hstatus
    rw [hsame, hstatus, hevaluated]
    exact ⟨rfl, rfl, rfl⟩
  · -- The graph description is written.
    intro report written hok hwrite
    have hevaluated : evaluated = _ := evaluateLine_of_written hok hwrite
    rw [hok] at hlatest
    rw [hok, statusAfter_of_written hwrite] at hstatus
    rw [hsame, hstatus, hevaluated]
    exact ⟨hlatest, rfl, rfl⟩
  · -- The line is good, and the disk refuses its graph description.
    intro report fault hok hwrite
    have hevaluated : evaluated = _ := evaluateLine_of_fault hok hwrite
    rw [hok, statusAfter_of_fault hwrite] at hstatus
    rw [hsame, hstatus, hevaluated]
    exact ⟨rfl, rfl, rfl⟩

/-- A line that takes its outcome over from one with other blanks, in an explorer that was drawn. -/
theorem typed_line_agrees_after_spaced_line :
    let enter : KeyPress := ⟨.enter, {}⟩
    let earlier := (KeyPress.typing "1 +2" ++ [enter]).map Event.press ++ [.draw 80 24]
    let e := (play { outputPath := "tree.dot" } {} earlier).1
    let typed := e.run {} (KeyPress.typing "1+ 2" ++ [enter])
    e.line.text = "" ∧ (e.history.firstIndex? "1+ 2").isSome = true ∧
      typed.2 = (evaluateLine {} "tree.dot" "1+ 2").2 ∧
      (typed.1.status.isError = false ↔ (evaluateLine {} "tree.dot" "1+ 2").1.exitCode = 0) := by
  intro enter earlier
  have hagree := typed_line_agrees_with_line_mode "tree.dot" {} {} earlier "1+ 2" enter
    (by decide +kernel) ⟨'1', by decide, by decide⟩ rfl
  refine ⟨by decide +kernel, by decide +kernel, ?_⟩
  exact ⟨hagree.1, hagree.2.1⟩

end BraceArith.Explorer
