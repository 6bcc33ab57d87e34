import BraceArith.Session.History

/-!
# The cache of a history cannot be seen

A history takes the outcome of a line over from the first entry with the same stripped text.  Two
facts make this invisible.  What comes of a line depends on its stripped text alone, the line
itself apart, which the report repeats.  And the cache knows, for every stripped text, exactly the
first entry that has it; submitting a line keeps this, and recall touches neither entries nor
cache.

So a history always holds what it would hold without a cache: one entry for each submitted line,
in order, with the outcome of analysing that line from scratch.

## Main definitions

- `History.Call`, `History.run`: a call on a history, and a whole sequence of them
- `History.submitted`: the lines that a sequence of calls submits
- `History.Consistent`: the invariant that ties the cache to the entries

## Main statements

- `analyze_withInput`: analysis depends on the stripped text alone
- `History.Consistent.call`, `History.Consistent.run`: calls keep the invariant
- `History.Consistent.entries_run`: the entries after a run
-/

namespace BraceArith

/-! ## §1 Analysis depends on the stripped text -/

theorem ofText_congr {a b : String} (h : Text.strip a = Text.strip b) :
    Cursor.ofText a = Cursor.ofText b := by
  rw [Cursor.ofText, Cursor.ofText, h]

/-- Lines with the same stripped text have the same outcome, their own text apart. -/
theorem analyze_withInput {a b : String} (h : Text.strip a = Text.strip b) :
    (analyze a).withInput b = analyze b := by
  have hcursor := ofText_congr h
  cases hresult : (Cursor.ofText b).readExpression.result with
  | ok tree =>
    rw [analyze_of_ok hresult, analyze_of_ok (hcursor ▸ hresult), hcursor]
    rfl
  | error e =>
    rw [analyze_of_error hresult, analyze_of_error (hcursor ▸ hresult)]
    rfl

/-- A report repeats the line that it is about. -/
theorem input_of_analyze {line : String} {report : Report} (h : analyze line = .ok report) :
    report.input = line := by
  cases hresult : (Cursor.ofText line).readExpression.result with
  | ok tree =>
    rw [analyze_of_ok hresult] at h
    cases h
    rfl
  | error e =>
    rw [analyze_of_error hresult] at h
    cases h

/-- The entry for a line whose outcome is not taken over. -/
def Entry.analyzed (line : String) : Entry :=
  ⟨line, analyze line⟩

namespace History

/-! ## §2 Runs -/

/-- A call that may change a history. -/
inductive Call where
  | submit (line : String)
  | recallPrevious
  | recallNext

/-- The line that a call submits. -/
def Call.line? : Call → Option String
  | submit line => some line
  | recallPrevious | recallNext => none

/-- The history after a call. -/
def call (h : History) : Call → History
  | .submit line => h.submit line
  | .recallPrevious => h.recallPrevious
  | .recallNext => h.recallNext

/-- The history after a sequence of calls, first call first. -/
def run (h : History) (calls : List Call) : History :=
  calls.foldl call h

/-- The lines that a sequence of calls submits, in order. -/
def submitted (calls : List Call) : List String :=
  calls.filterMap Call.line?

theorem run_append (h : History) (calls more : List Call) :
    h.run (calls ++ more) = (h.run calls).run more :=
  List.foldl_append

theorem submitted_cons (c : Call) (calls : List Call) :
    submitted (c :: calls) = c.line?.toList ++ submitted calls := by
  cases c <;> rfl

/-! ## §3 Recall moves the position alone -/

theorem exists_recallPrevious_eq (h : History) :
    ∃ position, h.recallPrevious = { h with recalling := position } := by
  unfold recallPrevious
  split
  · exact ⟨h.recalling, rfl⟩
  · split
    · exact ⟨_, rfl⟩
    · exact ⟨_, rfl⟩

theorem exists_recallNext_eq (h : History) :
    ∃ position, h.recallNext = { h with recalling := position } := by
  unfold recallNext
  split
  · exact ⟨h.recalling, rfl⟩
  · split
    · exact ⟨_, rfl⟩
    · exact ⟨_, rfl⟩

/-! ## §4 The invariant -/

/-- The cache and the entries fit together: every entry has the outcome of its own line, and the
    cache finds the first entry with a stripped text, or none if there is none. -/
structure Consistent (h : History) : Prop where
  outcome_eq : ∀ e ∈ h.entries, e.outcome = analyze e.input
  lookup_eq : ∀ k, h.cache.lookup k = h.entries.findIdx? fun e => key e.input == k

theorem consistent_empty : Consistent {} where
  outcome_eq := by simp
  lookup_eq := by simp

theorem strip_eq_of_key_eq {a b : String} (h : key a = key b) : Text.strip a = Text.strip b :=
  String.ofList_injective h

/-- The entry that the cache finds for a line has the line's stripped text. -/
theorem Consistent.exists_of_firstIndex? {h : History} (hc : h.Consistent) {line : String}
    {i : Nat} (hi : h.firstIndex? line = some i) :
    ∃ e ∈ h.entries, h.entries[i]? = some e ∧ Text.strip e.input = Text.strip line := by
  rw [firstIndex?, hc.lookup_eq] at hi
  obtain ⟨hlt, hkey, _⟩ := List.findIdx?_eq_some_iff_getElem.mp hi
  exact ⟨h.entries[i], List.getElem_mem hlt, List.getElem?_eq_getElem hlt,
    strip_eq_of_key_eq (eq_of_beq hkey)⟩

/-- An outcome that is taken over is the one that analysis would give. -/
theorem Consistent.outcomeOf_eq {h : History} (hc : h.Consistent) (line : String) :
    h.outcomeOf line = analyze line := by
  unfold outcomeOf
  cases hi : h.firstIndex? line with
  | none => rfl
  | some i =>
    -- The entry's own outcome may have been taken over as well; the invariant covers that.
    obtain ⟨e, hmem, hget, hstrip⟩ := hc.exists_of_firstIndex? hi
    simp only [Option.bind_some, hget]
    rw [hc.outcome_eq e hmem]
    exact analyze_withInput hstrip

theorem Consistent.entries_submit {h : History} (hc : h.Consistent) (line : String) :
    (h.submit line).entries = h.entries ++ [Entry.analyzed line] := by
  rw [submit, hc.outcomeOf_eq]
  rfl

/-- What the cache finds after a submission: the same as before, or the new entry if its text is
    new. -/
theorem lookup_submit (h : History) (line k : String) :
    (h.submit line).cache.lookup k =
      (h.cache.lookup k).or (if key line == k then some h.entries.length else none) := by
  unfold submit
  cases hi : h.firstIndex? line with
  | none =>
    show (h.cache ++ [(key line, h.entries.length)]).lookup k = _
    rw [List.lookup_append, List.lookup_cons, List.lookup_nil, BEq.comm]
    cases key line == k <;> rfl
  | some i =>
    -- A text that was seen before is found already, so nothing is added for it.
    show h.cache.lookup k = _
    by_cases hk : key line = k
    · subst hk
      rw [show h.cache.lookup (key line) = some i from hi]
      rfl
    · rw [beq_false_of_ne hk]
      exact Option.or_none.symm

theorem Consistent.submit {h : History} (hc : h.Consistent) (line : String) :
    (h.submit line).Consistent where
  outcome_eq := by
    intro e he
    rw [hc.entries_submit, List.mem_append, List.mem_singleton] at he
    rcases he with he | rfl
    · exact hc.outcome_eq e he
    · rfl
  lookup_eq := by
    intro k
    rw [lookup_submit, hc.lookup_eq, hc.entries_submit, List.findIdx?_append,
      List.findIdx?_singleton]
    congr 1
    show _ = Option.map _ (if key line == k then some 0 else none)
    cases key line == k <;> simp

/-- Every call keeps the invariant. -/
theorem Consistent.call {h : History} (hc : h.Consistent) (c : Call) : (h.call c).Consistent := by
  cases c with
  | submit line => exact hc.submit line
  | recallPrevious =>
    obtain ⟨position, heq⟩ := h.exists_recallPrevious_eq
    rw [History.call, heq]
    exact ⟨hc.outcome_eq, hc.lookup_eq⟩
  | recallNext =>
    obtain ⟨position, heq⟩ := h.exists_recallNext_eq
    rw [History.call, heq]
    exact ⟨hc.outcome_eq, hc.lookup_eq⟩

theorem Consistent.run {h : History} (hc : h.Consistent) (calls : List Call) :
    (h.run calls).Consistent := by
  induction calls generalizing h with
  | nil => exact hc
  | cons c calls ih => exact ih (hc.call c)

/-! ## §5 Entries after a run -/

theorem Consistent.entries_call {h : History} (hc : h.Consistent) (c : Call) :
    (h.call c).entries = h.entries ++ c.line?.toList.map Entry.analyzed := by
  cases c with
  | submit line => exact hc.entries_submit line
  | recallPrevious =>
    obtain ⟨position, heq⟩ := h.exists_recallPrevious_eq
    rw [History.call, heq]
    exact (List.append_nil _).symm
  | recallNext =>
    obtain ⟨position, heq⟩ := h.exists_recallNext_eq
    rw [History.call, heq]
    exact (List.append_nil _).symm

/-- A run adds one entry for each submitted line, with the outcome of that line. -/
theorem Consistent.entries_run {h : History} (hc : h.Consistent) (calls : List Call) :
    (h.run calls).entries = h.entries ++ (submitted calls).map Entry.analyzed := by
  induction calls generalizing h with
  | nil => simp [History.run, submitted]
  | cons c calls ih =>
    show ((h.call c).run calls).entries = _
    rw [ih (hc.call c), hc.entries_call, submitted_cons, List.map_append, List.append_assoc]

/-- The cache cannot be seen.  After any sequence of calls on a fresh history every entry has
    the outcome of analysing its own line, and a report names that line; the entries are the
    submitted lines in order; and no later call changes an entry. -/
theorem entries_eq_analyze_of_run (calls more : List Call) :
    (∀ e ∈ (run {} calls).entries, e.outcome = analyze e.input ∧
      ∀ report, e.outcome = .ok report → report.input = e.input) ∧
    (run {} calls).entries.map Entry.input = submitted calls ∧
    (run {} calls).entries <+: (run {} (calls ++ more)).entries := by
  have hc : (run {} calls).Consistent := consistent_empty.run calls
  refine ⟨?_, ?_, ?_⟩
  · intro e he
    have houtcome := hc.outcome_eq e he
    refine ⟨houtcome, ?_⟩
    intro report hreport
    exact input_of_analyze (houtcome.symm.trans hreport)
  · rw [consistent_empty.entries_run, List.nil_append, List.map_map]
    exact List.map_id _
  · rw [run_append, hc.entries_run]
    exact List.prefix_append _ _

end History

end BraceArith
