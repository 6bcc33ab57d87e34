import BraceArith.Proofs.Explorer.LineMode

/-!
# Submitting a recalled line again

The arrow keys put an old line back in, and Enter submits it once more.  What comes of it is a copy
of the old entry: the history knows the line's stripped text already, so that nothing is added to
its index, and the outcome taken over from there is the outcome of the line itself.

Enter would do nothing on a blank line.  No entry has one, because the explorer leaves blank lines
alone whenever Enter is pressed, and no other key adds an entry.

## Main definitions

- `History.NoBlanks`: no entry has a blank line

## Main statements

- `History.Consistent.submit_again`: submitting an entry's line copies the entry
- `noBlanks_press`, `noBlanks_run`: key presses add no blank line
- `run_up`: what stepping back several times puts in
-/

namespace BraceArith

namespace History

/-! ## §1 Copies of an entry -/

theorem Consistent.firstIndex?_isSome {h : History} (hc : h.Consistent) {entry : Entry}
    (hmem : entry ∈ h.entries) : (h.firstIndex? entry.input).isSome = true := by
  rw [firstIndex?, hc.lookup_eq, List.findIdx?_isSome, List.any_eq_true]
  exact ⟨entry, hmem, beq_self_eq_true _⟩

/-- Submitting the line of an entry adds a copy of the entry, and nothing to the cache. -/
theorem Consistent.submit_again {h : History} (hc : h.Consistent) {entry : Entry}
    (hmem : entry ∈ h.entries) :
    h.submit entry.input = { h with entries := h.entries ++ [entry], recalling := none } := by
  obtain ⟨i, hi⟩ := Option.isSome_iff_exists.mp (hc.firstIndex?_isSome hmem)
  have houtcome : h.outcomeOf entry.input = entry.outcome := by
    rw [hc.outcomeOf_eq, hc.outcome_eq entry hmem]
  simp only [History.submit, hi, houtcome]

theorem failed_append (h : History) (entry : Entry) (recalling : Option Nat) :
    failed { h with entries := h.entries ++ [entry], recalling := recalling } =
      h.failed + if entry.isOk then 0 else 1 := by
  cases hok : entry.isOk <;> simp [failed, hok]

theorem recallPrevious_eq {h : History} (hne : h.entries ≠ []) :
    h.recallPrevious = { h with recalling := some (h.position - 1) } := by
  obtain ⟨position, heq⟩ := h.exists_recallPrevious_eq
  have hrecalling := h.recalling_recallPrevious
  rw [heq, if_neg hne] at hrecalling
  rw [heq, show position = some (h.position - 1) from hrecalling]

/-- No entry has a blank line. -/
def NoBlanks (h : History) : Prop :=
  ∀ entry ∈ h.entries, Text.isBlankLine entry.input = false

end History

namespace Explorer

/-! ## §2 No blank line is ever submitted -/

section

variable {e : Explorer}

theorem noBlanks_submit (h : e.history.NoBlanks) (disk : Disk) :
    (e.submit disk).1.history.NoBlanks := by
  cases hblank : Text.isBlankLine e.line.text with
  | true =>
    rw [submit_of_blank disk hblank]
    exact h
  | false =>
    rw [submit_of_not_blank disk hblank]
    intro entry hmem
    rcases List.mem_append.mp hmem with hold | hnew
    · exact h entry hold
    · rw [List.mem_singleton.mp hnew]
      exact hblank

theorem noBlanks_press (h : e.history.NoBlanks) (disk : Disk) (p : KeyPress) :
    (e.press disk p).1.history.NoBlanks := by
  by_cases hp : p.key = .enter
  · rw [press_of_enter hp]
    exact noBlanks_submit h disk
  · intro entry hmem
    rw [(press_of_ne_enter hp e disk).2.entries_eq] at hmem
    exact h entry hmem

theorem noBlanks_run (h : e.history.NoBlanks) (disk : Disk) (presses : List KeyPress) :
    (e.run disk presses).1.history.NoBlanks := by
  induction presses generalizing e disk with
  | nil => exact h
  | cons p presses ih => exact ih (noBlanks_press h disk p) (e.press disk p).2

theorem noBlanks_play (path : String) (start : Disk) (events : List Event) :
    (play { outputPath := path } start events).1.history.NoBlanks := by
  obtain ⟨hsame, -⟩ := (SameButOffsets.refl { outputPath := path }).play start events
  rw [hsame.history_eq]
  apply noBlanks_run
  intro entry hmem
  cases hmem

/-- Enter on the line of an entry adds a copy of the entry. -/
theorem submit_entry_line (hc : e.history.Consistent) (h : e.history.NoBlanks) {entry : Entry}
    (hmem : entry ∈ e.history.entries) (hline : e.line.text = entry.input) (disk : Disk) :
    (e.submit disk).1.line = {} ∧
      (e.submit disk).1.history =
        { e.history with entries := e.history.entries ++ [entry], recalling := none } := by
  have hblank : Text.isBlankLine e.line.text = false := by
    rw [hline]
    exact h entry hmem
  rw [submit_of_not_blank disk hblank]
  refine ⟨rfl, ?_⟩
  show e.history.submit e.line.text = _
  rw [hline, hc.submit_again hmem]

/-! ## §3 Stepping back -/

/-- The explorer with entry number `i` recalled and the given line put in. -/
def showing (e : Explorer) (i : Nat) (line : String) : Explorer :=
  { e with history := { e.history with recalling := some i }, line := .ofText line }

theorem press_up {p : KeyPress} (hp : p.key = .up) {entry : Entry}
    (hentry : e.history.entries[e.history.position - 1]? = some entry) (disk : Disk) :
    e.press disk p = (e.showing (e.history.position - 1) entry.input, disk) := by
  have hne : e.history.entries ≠ [] := List.ne_nil_of_mem (List.mem_of_getElem? hentry)
  have hpress : e.press disk p = (e.recallPrevious, disk) := by
    simp [press, KeyPress.isControl, handle, hp]
  rw [hpress, recallPrevious, History.recallPrevious_eq hne]
  simp [History.recalled?, hentry, showing]

/-- Stepping back several times puts in the line that many places before, or the oldest one. -/
theorem run_up {ups : List KeyPress} (hups : ∀ p ∈ ups, p.key = .up) (hne : ups ≠ [])
    (hp : e.history.Positioned) {entry : Entry}
    (hentry : e.history.entries[e.history.position - ups.length]? = some entry) (disk : Disk) :
    e.run disk ups = (e.showing (e.history.position - ups.length) entry.input, disk) := by
  induction ups generalizing e with
  | nil => exact absurd rfl hne
  | cons p ups ih =>
    have hup : p.key = .up := hups p List.mem_cons_self
    by_cases hlast : ups = []
    · subst hlast
      exact press_up hup hentry disk
    · -- The first step goes to an entry, and the others go on from there.
      have hpos := List.length_pos_of_mem (List.mem_of_getElem? hentry)
      have hle := hp.position_le
      have hlt : e.history.position - 1 < e.history.entries.length := by omega
      have hfirst := press_up hup (List.getElem?_eq_getElem hlt) disk
      have hback : e.history.position - (ups.length + 1) = e.history.position - 1 - ups.length := by
        omega
      show (e.press disk p).1.run (e.press disk p).2 ups = _
      rw [List.length_cons, hback] at hentry ⊢
      rw [hfirst]
      refine ih (fun q hq => hups q (List.mem_cons_of_mem p hq)) hlast ?_ hentry
      intro i hi
      cases hi
      exact hlt

/-- Enter after that leaves a copy of the recalled entry behind the others. -/
theorem run_up_enter {ups : List KeyPress} (hups : ∀ p ∈ ups, p.key = .up) (hne : ups ≠ [])
    (hp : e.history.Positioned) (hc : e.history.Consistent) (hblanks : e.history.NoBlanks)
    {entry : Entry}
    (hentry : e.history.entries[e.history.position - ups.length]? = some entry)
    {enter : KeyPress} (henter : enter.key = .enter) (disk : Disk) :
    (e.run disk (ups ++ [enter])).1.line = {} ∧
      (e.run disk (ups ++ [enter])).1.history =
        { e.history with entries := e.history.entries ++ [entry], recalling := none } := by
  rw [run_append, run_up hups hne hp hentry]
  show ((press _ disk enter).1.line = {} ∧ (press _ disk enter).1.history = _)
  rw [press_of_enter henter]
  -- Recall has changed neither entries nor cache, so the history is as good as before.
  exact submit_entry_line (e := e.showing _ entry.input) ⟨hc.outcome_eq, hc.lookup_eq⟩ hblanks
    (List.mem_of_getElem? hentry) rfl disk

end

/-! ## §4 Once more -/

/-- A recalled line can be submitted again.  Take any explorer that keys and drawings lead to, with
    something in its history.  Stepping back once or more often recalls an entry and shows its
    line, the oldest one if there are not enough.  Enter then adds exactly one entry, with the line
    on show and the recalled entry's outcome, and ends recall with an empty line.  The number of
    different lines stays, the number of failed ones grows by one exactly if the recalled one had
    failed, and the next step back shows the copy. -/
theorem recalled_line_resubmitted (path : String) (start disk disk' : Disk) (events : List Event)
    (ups : List KeyPress) (enter : KeyPress)
    (hhistory : (play { outputPath := path } start events).1.history.isEmpty = false)
    (hups : ∀ p ∈ ups, p.key = .up) (hne : ups ≠ []) (henter : enter.key = .enter) :
    let e := (play { outputPath := path } start events).1
    let shown := (e.run disk ups).1
    let after := (e.run disk (ups ++ [enter])).1
    ∃ i entry,
      i = e.history.position - ups.length ∧
      shown.history.recalling = some i ∧
      e.history.entries[i]? = some entry ∧
      shown.line = .ofText entry.input ∧
      after.history.entries = e.history.entries ++ [⟨shown.line.text, entry.outcome⟩] ∧
      after.history.distinct = e.history.distinct ∧
      after.history.failed = e.history.failed + (if entry.isOk then 0 else 1) ∧
      after.line = {} ∧
      after.history.isRecalling = false ∧
      ∀ up, up.key = .up →
        (after.press disk' up).1.line = .ofText entry.input ∧
        (after.press disk' up).1.history.recalling = some e.history.length := by
  intro e shown after
  have hp : e.history.Positioned := (shows_play path start events).positioned
  have hpos : 0 < e.history.entries.length := by
    rw [List.length_pos_iff, ← List.isEmpty_eq_false_iff]
    exact hhistory
  -- However often, stepping back ends at an entry.
  obtain ⟨entry, hentry⟩ :
      ∃ entry, e.history.entries[e.history.position - ups.length]? = some entry := by
    have hle := hp.position_le
    have hups_pos : 0 < ups.length := List.length_pos_iff.mpr hne
    exact ⟨_, List.getElem?_eq_getElem (by omega)⟩
  have hshown : shown = e.showing (e.history.position - ups.length) entry.input :=
    congrArg Prod.fst (run_up hups hne hp hentry disk)
  obtain ⟨hline, hafter⟩ : after.line = {} ∧ after.history = _ :=
    run_up_enter hups hne hp (follows_play path start events).consistent
      (noBlanks_play path start events) hentry henter disk
  refine ⟨_, entry, rfl, by rw [hshown]; rfl, hentry, by rw [hshown]; rfl, ?_, ?_, ?_, hline, ?_, ?_⟩
  · rw [hafter, hshown]
    rfl
  · rw [hafter]
    rfl
  · rw [hafter]
    exact e.history.failed_append entry none
  · rw [hafter]
    rfl
  · intro up hup
    -- The place behind the newest entry is now behind the copy.
    have hposition : after.history.position = e.history.entries.length + 1 := by
      simp [hafter, History.position]
    have hcopy : after.history.entries[after.history.position - 1]? = some entry := by
      rw [hposition, hafter]
      simp
    rw [press_up hup hcopy, hposition]
    exact ⟨rfl, rfl⟩

/-- Two lines that differ in a blank have failed.  From the newer one, already recalled, more steps
    back than there are entries lead to the older one, which fails a third time. -/
theorem recalled_line_resubmitted_past_oldest :
    let enter : KeyPress := ⟨.enter, {}⟩
    let up : KeyPress := ⟨.up, {}⟩
    let earlier := (KeyPress.typing "1+" ++ [enter] ++ KeyPress.typing "1 +" ++ [enter, up]).map
      Event.press ++ [.draw 80 24]
    let e := (play { outputPath := "tree.dot" } {} earlier).1
    let after := (e.run {} ([up, up, up] ++ [enter])).1
    e.history.isEmpty = false ∧ e.history.isRecalling = true ∧ e.history.distinct = 1 ∧
      after.history.distinct = e.history.distinct ∧ after.history.failed = 3 ∧
      ∃ entry, after.history.entries = e.history.entries ++ [entry] := by
  intro enter up earlier
  have hagain := recalled_line_resubmitted "tree.dot" {} {} {} earlier [up, up, up] enter
    (by decide +kernel) (by decide) (by decide) rfl
  obtain ⟨i, entry, -, -, -, -, hentries, hdistinct, -⟩ := hagain
  exact ⟨by decide +kernel, by decide +kernel, by decide +kernel, hdistinct, by decide +kernel,
    _, hentries⟩

end Explorer

end BraceArith
