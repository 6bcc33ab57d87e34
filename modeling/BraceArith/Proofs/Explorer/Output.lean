import BraceArith.Proofs.Explorer.Step
import BraceArith.View.Frame

/-!
# File and status follow the submissions

At any moment of a session, the file and the status can be told from the history alone.  The status
is what the newest entry's outcome makes of it, and the disk is the one that the session started
with after a single write, that of the newest tree there is.  Only submissions change any of this,
and a submission that takes its outcome over from an earlier entry is no exception.

## Main definitions

- `History.latestReport?`: the report of the newest entry that has one
- `Explorer.Follows`: status and disk are what the history makes of them

## Main statements

- `Explorer.Follows.press`, `Explorer.Follows.run`: key presses keep this up
-/

namespace BraceArith

/-! ## §1 The newest report -/

namespace History

/-- The report of the newest entry whose line started with an expression. -/
def latestReport? (h : History) : Option Report :=
  h.entries.reverse.findSome? fun entry => entry.outcome.toOption

theorem latest?_submit (h : History) (line : String) :
    (h.submit line).latest? = some ⟨line, h.outcomeOf line⟩ := by
  simp [latest?, submit]

theorem latestReport?_submit (h : History) (line : String) :
    (h.submit line).latestReport? = (h.outcomeOf line).toOption.or h.latestReport? := by
  simp only [latestReport?, submit, List.reverse_append, List.reverse_singleton,
    List.singleton_append, List.findSome?_cons]
  cases (h.outcomeOf line).toOption <;> rfl

theorem latestReport?_of_latest? {h : History} {entry : Entry} {report : Report}
    (hlatest : h.latest? = some entry) (hok : entry.outcome = .ok report) :
    h.latestReport? = some report := by
  obtain ⟨earlier, hentries⟩ := List.getLast?_eq_some_iff.mp hlatest
  simp [latestReport?, hentries, hok, Except.toOption]

end History

/-- A report repeats the graph description of its tree. -/
theorem dot_of_analyze {line : String} {report : Report} (h : analyze line = .ok report) :
    report.dot = Graph.document report.tree := by
  cases hresult : (Cursor.ofText line).readExpression.result with
  | ok tree =>
    rw [analyze_of_ok hresult] at h
    cases h
    rfl
  | error e =>
    rw [analyze_of_error hresult] at h
    cases h

namespace Explorer

/-! ## §2 The invariant -/

/-- Status and disk are what the history makes of a new explorer for `path` and the disk
    `start`. -/
structure Follows (path : String) (start : Disk) (e : Explorer) (disk : Disk) : Prop where
  outputPath_eq : e.outputPath = path
  consistent : e.history.Consistent
  status_eq : e.status =
    match e.history.latest? with
    | none => .ready
    | some entry => statusAfter path start entry.outcome
  disk_eq : disk =
    match e.history.latestReport? with
    | none => start
    | some report => start.save path (Graph.document report.tree)

theorem follows_new (path : String) (start : Disk) :
    Follows path start { outputPath := path } start where
  outputPath_eq := by rfl
  consistent := History.consistent_empty
  status_eq := by rfl
  disk_eq := by rfl

section

variable {path : String} {start disk : Disk} {e e' : Explorer}

/-- What the path takes, it takes also after other texts were written to it. -/
theorem Follows.write_eq (h : Follows path start e disk) (text : String) :
    disk.write path text = start.write path text := by
  rw [h.disk_eq]
  cases e.history.latestReport? with
  | none => rfl
  | some report => exact start.write_save _ _ _

theorem Follows.save_eq (h : Follows path start e disk) (text : String) :
    disk.save path text = start.save path text := by
  rw [h.disk_eq]
  cases e.history.latestReport? with
  | none => rfl
  | some report => exact start.save_save _ _ _

theorem Follows.submit (h : Follows path start e disk) :
    Follows path start (e.submit disk).1 (e.submit disk).2 := by
  cases hblank : Text.isBlankLine e.line.text with
  | true =>
    rw [submit_of_blank disk hblank]
    exact h
  | false =>
    rw [submit_of_not_blank disk hblank, h.outputPath_eq]
    refine ⟨h.outputPath_eq, h.consistent.submit _, ?_, ?_⟩
    · -- The status was made on the disk as it is now, which takes what the first one takes.
      simp only [accept, History.latest?_submit]
      cases e.history.outcomeOf e.line.text with
      | error error => rfl
      | ok report => simp only [statusAfter, h.write_eq]
    · -- A line with an error leaves the file to the newest tree before it.
      simp only [accept, History.latestReport?_submit]
      cases e.history.outcomeOf e.line.text with
      | error error => exact h.disk_eq
      | ok report => exact h.save_eq _

/-- A line that is not blank is added to the entries with the outcome of analyzing it. -/
theorem Follows.entries_submit (h : Follows path start e disk)
    (hblank : Text.isBlankLine e.line.text = false) :
    (e.submit disk).1.history.entries =
      e.history.entries ++ [⟨e.line.text, analyze e.line.text⟩] := by
  rw [submit_of_not_blank disk hblank]
  exact h.consistent.entries_submit _

/-- What agrees on the record of submissions follows them too. -/
theorem Follows.of_sameRecord (h : Follows path start e disk) (hsame : SameRecord e e') :
    Follows path start e' disk where
  outputPath_eq := hsame.outputPath_eq.trans h.outputPath_eq
  consistent := by
    refine ⟨?_, ?_⟩
    · rw [hsame.entries_eq]
      exact h.consistent.outcome_eq
    · rw [hsame.entries_eq, hsame.cache_eq]
      exact h.consistent.lookup_eq
  status_eq := by
    rw [hsame.status_eq, h.status_eq, History.latest?, History.latest?, hsame.entries_eq]
  disk_eq := by
    rw [h.disk_eq, History.latestReport?, History.latestReport?, hsame.entries_eq]

theorem Follows.press (h : Follows path start e disk) (p : KeyPress) :
    Follows path start (e.press disk p).1 (e.press disk p).2 := by
  by_cases hp : p.key = .enter
  · rw [press_of_enter hp]
    exact h.submit
  · obtain ⟨hdisk, hsame⟩ := press_of_ne_enter hp e disk
    rw [hdisk]
    exact h.of_sameRecord hsame

theorem Follows.run (h : Follows path start e disk) (presses : List KeyPress) :
    Follows path start (e.run disk presses).1 (e.run disk presses).2 := by
  induction presses generalizing e disk with
  | nil => exact h
  | cons p presses ih => exact ih (h.press p)

/-! ## §3 What the invariant says -/

theorem isError_statusAfter_of_keeps (h : start.Keeps path) (outcome : Outcome) :
    (statusAfter path start outcome).isError = !outcome.isOk := by
  cases outcome with
  | error error => rfl
  | ok report =>
    obtain ⟨written, hwrite, -⟩ := h (Graph.document report.tree)
    simp only [statusAfter, hwrite]
    rfl

theorem isError_statusAfter_of_refuses (h : start.Refuses path) (outcome : Outcome) :
    (statusAfter path start outcome).isError = true := by
  cases outcome with
  | error error => rfl
  | ok report =>
    obtain ⟨fault, hwrite⟩ := h (Graph.document report.tree)
    simp only [statusAfter, hwrite]
    rfl

theorem Follows.status_of_latest? (h : Follows path start e disk) {entry : Entry}
    (hlatest : e.history.latest? = some entry) :
    e.status = statusAfter path start entry.outcome := by
  rw [h.status_eq, hlatest]

theorem Follows.isError_iff (h : Follows path start e disk) :
    e.status.isError = false ↔
      e.history.entries = [] ∨ ∃ entry, e.history.latest? = some entry ∧
        (statusAfter path start entry.outcome).isError = false := by
  cases hlatest : e.history.latest? with
  | none =>
    have hempty : e.history.entries = [] := List.getLast?_eq_none_iff.mp hlatest
    simp [h.status_eq, hlatest, hempty, Status.isError]
  | some entry =>
    have hne : e.history.entries ≠ [] := by
      intro hempty
      simp [History.latest?, hempty] at hlatest
    simp [h.status_of_latest? hlatest, hne]

theorem Follows.isError_iff_of_keeps (h : Follows path start e disk) (hkeeps : start.Keeps path) :
    e.status.isError = false ↔
      e.history.entries = [] ∨ ∃ entry, e.history.latest? = some entry ∧ entry.isOk = true := by
  simp [h.isError_iff, isError_statusAfter_of_keeps hkeeps, Entry.isOk]

theorem Follows.isError_iff_of_refuses (h : Follows path start e disk)
    (hrefuses : start.Refuses path) : e.status.isError = false ↔ e.history.entries = [] := by
  simp [h.isError_iff, isError_statusAfter_of_refuses hrefuses]

theorem Follows.read?_of_latestReport? (h : Follows path start e disk)
    (hkeeps : start.Keeps path) {report : Report}
    (hreport : e.history.latestReport? = some report) :
    disk.read? path = some (Graph.document report.tree) := by
  rw [h.disk_eq, hreport]
  exact hkeeps.read?_save _

/-- The graph pane gets the graph description of the newest tree. -/
theorem Follows.graphShown?_eq (h : Follows path start e disk) {entry : Entry} {report : Report}
    (hlatest : e.history.latest? = some entry) (hok : entry.outcome = .ok report) :
    e.graphShown? = some (Graph.document report.tree) := by
  have hmem : entry ∈ e.history.entries := List.mem_of_getLast? hlatest
  have hanalyze : analyze entry.input = .ok report :=
    (h.consistent.outcome_eq entry hmem).symm.trans hok
  -- The pane gets the text kept in the report, the file the one made from its tree.
  obtain ⟨input, outcome⟩ := entry
  cases hok
  rw [graphShown?, hlatest, ← dot_of_analyze hanalyze]

theorem Follows.disk_eq_of_refuses (h : Follows path start e disk)
    (hrefuses : start.Refuses path) : disk = start := by
  rw [h.disk_eq]
  cases e.history.latestReport? with
  | none => rfl
  | some report => exact hrefuses.save_eq _

end

/-- File and status follow the submissions.  Take any key presses on a new explorer.

    If texts written to the output path become the content of the file there, the file holds the
    graph description of the newest tree submitted, and as long as there is none the disk is
    untouched; the status tells of no error exactly before the first submission and after one whose
    line started with an expression, and then the graph pane gets what the file holds.  If the path
    takes no text, the disk never changes, and every submission leaves an error.  A newest line with
    a syntax error is shown by that error.  The key that submits adds the line with the outcome of
    analyzing it, unless it is blank, and no other key changes disk, status or entries. -/
theorem run_output_follows_submissions (path : String) (start : Disk) (presses : List KeyPress) :
    let e := (run { outputPath := path } start presses).1
    let disk := (run { outputPath := path } start presses).2
    (start.Keeps path →
      (∀ report, e.history.latestReport? = some report →
        disk.read? path = some (Graph.document report.tree)) ∧
      (e.history.latestReport? = none → disk = start) ∧
      (e.status.isError = false ↔
        e.history.entries = [] ∨ ∃ entry, e.history.latest? = some entry ∧ entry.isOk = true) ∧
      (∀ entry report, e.history.latest? = some entry → entry.outcome = .ok report →
        ∃ text, e.graphShown? = some text ∧ disk.read? path = some text)) ∧
    (start.Refuses path →
      disk = start ∧ (e.status.isError = false ↔ e.history.entries = [])) ∧
    (∀ entry error, e.history.latest? = some entry → entry.outcome = .error error →
      e.status.message = "Error: " ++ error.display ∧ e.status.isError = true) ∧
    (∀ p : KeyPress, p.key = .enter → Text.isBlankLine e.line.text = false →
      (e.press disk p).1.history.entries =
        e.history.entries ++ [⟨e.line.text, analyze e.line.text⟩]) ∧
    (∀ p : KeyPress, p.key ≠ .enter →
      (e.press disk p).2 = disk ∧ (e.press disk p).1.status = e.status ∧
        (e.press disk p).1.history.entries = e.history.entries) := by
  intro e disk
  have h : Follows path start e disk := (follows_new path start).run presses
  refine ⟨?_, ?_, ?_, ?_, ?_⟩
  · intro hkeeps
    refine ⟨?_, ?_, h.isError_iff_of_keeps hkeeps, ?_⟩
    · intro report hreport
      exact h.read?_of_latestReport? hkeeps hreport
    · intro hnone
      rw [h.disk_eq, hnone]
    · intro entry report hlatest hok
      have hreport := History.latestReport?_of_latest? hlatest hok
      exact ⟨_, h.graphShown?_eq hlatest hok, h.read?_of_latestReport? hkeeps hreport⟩
  · intro hrefuses
    exact ⟨h.disk_eq_of_refuses hrefuses, h.isError_iff_of_refuses hrefuses⟩
  · intro entry error hlatest herror
    rw [h.status_of_latest? hlatest, herror]
    exact ⟨rfl, rfl⟩
  · intro p hp hblank
    rw [press_of_enter hp]
    exact h.entries_submit hblank
  · intro p hp
    obtain ⟨hdisk, hsame⟩ := press_of_ne_enter hp e disk
    exact ⟨hdisk, hsame.status_eq, hsame.entries_eq⟩

end Explorer

end BraceArith
