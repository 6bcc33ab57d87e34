import BraceArith.Proofs.Session.Cache

/-!
# The recall position

Whether and where an old line is being recalled is kept as an optional number.  Read as one
number, the number of entries standing for "not recalling", it moves like a slider: one step back,
at most to the oldest entry, and one step on, at most to the place behind the newest.

## Main definitions

- `History.position`: the recall position as one number
- `History.Positioned`: a recalled entry exists
- `History.Slider`: a place between zero and a number of lines, with the same moves
- `History.Tracks`: the history's position is the slider's place

## Main statements

- `History.Positioned.position_recallPrevious`, `History.position_recallNext`: how the position
  moves
- `History.recalled?_eq`: the line on show is the one at the position
- `History.Tracks.call`, `History.Tracks.run`: calls keep history and slider in step
-/

namespace BraceArith.History

/-- Number of the entry being recalled; the number of entries while a fresh line is edited. -/
def position (h : History) : Nat :=
  h.recalling.getD h.entries.length

/-- What is being recalled is an entry. -/
def Positioned (h : History) : Prop :=
  ∀ i, h.recalling = some i → i < h.entries.length

@[simp] theorem entries_recallPrevious (h : History) : h.recallPrevious.entries = h.entries := by
  obtain ⟨position, heq⟩ := h.exists_recallPrevious_eq
  rw [heq]

@[simp] theorem entries_recallNext (h : History) : h.recallNext.entries = h.entries := by
  obtain ⟨position, heq⟩ := h.exists_recallNext_eq
  rw [heq]

/-! ## §1 Moves of the position -/

theorem recalling_recallPrevious (h : History) :
    h.recallPrevious.recalling = if h.entries = [] then h.recalling else some (h.position - 1) := by
  unfold recallPrevious isEmpty position
  cases h.entries with
  | nil => rfl
  | cons e es => cases h.recalling <;> rfl

theorem recalling_recallNext (h : History) :
    h.recallNext.recalling =
      if h.position + 1 < h.entries.length then some (h.position + 1) else none := by
  unfold recallNext position
  cases hrecalling : h.recalling with
  | none =>
    rw [Option.getD_none, if_neg (by omega)]
    exact hrecalling
  | some i =>
    simp only [Option.getD_some]
    split <;> rfl

theorem positioned_empty : Positioned {} := by
  intro i h
  cases h

theorem positioned_submit (h : History) (line : String) : (h.submit line).Positioned := by
  intro i hi
  cases hi

theorem Positioned.position_le {h : History} (hp : h.Positioned) :
    h.position ≤ h.entries.length := by
  unfold position
  cases hrecalling : h.recalling with
  | none => exact Nat.le_refl _
  | some i => exact Nat.le_of_lt (hp i hrecalling)

theorem Positioned.recallPrevious {h : History} (hp : h.Positioned) :
    h.recallPrevious.Positioned := by
  intro i hi
  rw [recalling_recallPrevious] at hi
  rw [entries_recallPrevious]
  split at hi
  next => exact hp i hi
  next hne =>
    have hle := hp.position_le
    have hpos : 0 < h.entries.length := List.length_pos_iff.mpr hne
    cases hi
    omega

theorem positioned_recallNext (h : History) : h.recallNext.Positioned := by
  intro i hi
  rw [recalling_recallNext] at hi
  rw [entries_recallNext]
  split at hi
  next hlt =>
    cases hi
    exact hlt
  next => cases hi

theorem position_submit (h : History) (line : String) :
    (h.submit line).position = h.entries.length + 1 := by
  simp [position, submit]

/-- Back by one, but not before the oldest entry. -/
theorem Positioned.position_recallPrevious {h : History} (hp : h.Positioned) :
    h.recallPrevious.position = h.position - 1 := by
  rw [position, recalling_recallPrevious, entries_recallPrevious]
  split
  next hnil =>
    -- Nothing can be recalled, so the position is zero.
    have hle := hp.position_le
    rw [hnil] at hle
    show h.position = h.position - 1
    simp only [List.length_nil] at hle
    omega
  next => rfl

/-- On by one, but not past the place behind the newest entry. -/
theorem position_recallNext (h : History) :
    h.recallNext.position = min (h.position + 1) h.entries.length := by
  rw [position, recalling_recallNext, entries_recallNext]
  split
  next hlt => exact (Nat.min_eq_left (Nat.le_of_lt hlt)).symm
  next hge => exact (Nat.min_eq_right (Nat.le_of_not_lt hge)).symm

/-! ## §2 What is on show -/

theorem Positioned.isRecalling_iff {h : History} (hp : h.Positioned) :
    h.isRecalling = true ↔ h.position < h.entries.length := by
  unfold isRecalling position
  cases hrecalling : h.recalling with
  | none => simp
  | some i => simp [hp i hrecalling]

/-- The line on show is the one at the position; behind the newest there is none. -/
theorem recalled?_eq (h : History) :
    h.recalled? = (h.entries.map Entry.input)[h.position]? := by
  unfold recalled? position
  cases h.recalling with
  | none => simp
  | some i => simp

/-! ## §3 The slider -/

/-- A place among `count` lines; the one behind the last line stands for none of them. -/
structure Slider where
  count : Nat := 0
  place : Nat := 0
  place_le : place ≤ count := by omega

namespace Slider

/-- The slider after a call. -/
def call (s : Slider) : Call → Slider
  | .submit _ => ⟨s.count + 1, s.count + 1, Nat.le_refl _⟩
  | .recallPrevious => ⟨s.count, s.place - 1, Nat.le_trans (Nat.sub_le _ _) s.place_le⟩
  | .recallNext => ⟨s.count, min (s.place + 1) s.count, Nat.min_le_right _ _⟩

/-- The slider after a sequence of calls. -/
def run (s : Slider) (calls : List Call) : Slider :=
  calls.foldl call s

theorem run_append (s : Slider) (calls more : List Call) :
    s.run (calls ++ more) = (s.run calls).run more :=
  List.foldl_append

theorem run_back (s : Slider) (n : Nat) :
    (s.run (List.replicate n .recallPrevious)).count = s.count ∧
      (s.run (List.replicate n .recallPrevious)).place = s.place - n := by
  induction n generalizing s with
  | zero => exact ⟨rfl, rfl⟩
  | succ n ih =>
    obtain ⟨hcount, hplace⟩ := ih (s.call .recallPrevious)
    refine ⟨hcount, hplace.trans ?_⟩
    show s.place - 1 - n = s.place - (n + 1)
    omega

theorem run_on (s : Slider) (n : Nat) :
    (s.run (List.replicate n .recallNext)).count = s.count ∧
      (s.run (List.replicate n .recallNext)).place = min (s.place + n) s.count := by
  induction n generalizing s with
  | zero => exact ⟨rfl, (Nat.min_eq_left s.place_le).symm⟩
  | succ n ih =>
    obtain ⟨hcount, hplace⟩ := ih (s.call .recallNext)
    refine ⟨hcount, hplace.trans ?_⟩
    show min (min (s.place + 1) s.count + n) s.count = min (s.place + (n + 1)) s.count
    omega

end Slider

/-- The history's recall position is the slider's place. -/
structure Tracks (h : History) (s : Slider) : Prop where
  count_eq : s.count = h.entries.length
  place_eq : s.place = h.position
  positioned : h.Positioned

theorem tracks_empty : Tracks {} {} where
  count_eq := by rfl
  place_eq := by rfl
  positioned := positioned_empty

section

variable {h : History} {s : Slider}

theorem Tracks.call (ht : Tracks h s) (c : Call) : Tracks (h.call c) (s.call c) := by
  cases c with
  | submit line =>
    refine ⟨?_, ?_, positioned_submit h line⟩
    · show s.count + 1 = (h.submit line).entries.length
      rw [ht.count_eq, submit, List.length_append, List.length_singleton]
    · show s.count + 1 = (h.submit line).position
      rw [ht.count_eq, position_submit]
  | recallPrevious =>
    refine ⟨?_, ?_, ht.positioned.recallPrevious⟩
    · show s.count = h.recallPrevious.entries.length
      rw [ht.count_eq, entries_recallPrevious]
    · show s.place - 1 = h.recallPrevious.position
      rw [ht.place_eq, ht.positioned.position_recallPrevious]
  | recallNext =>
    refine ⟨?_, ?_, positioned_recallNext h⟩
    · show s.count = h.recallNext.entries.length
      rw [ht.count_eq, entries_recallNext]
    · show min (s.place + 1) s.count = h.recallNext.position
      rw [ht.place_eq, ht.count_eq, position_recallNext]

theorem Tracks.run (ht : Tracks h s) (calls : List Call) : Tracks (h.run calls) (s.run calls) := by
  induction calls generalizing h s with
  | nil => exact ht
  | cons c calls ih => exact ih (ht.call c)

theorem Tracks.isRecalling_iff (ht : Tracks h s) : h.isRecalling = true ↔ s.place < s.count := by
  rw [ht.positioned.isRecalling_iff, ht.place_eq, ht.count_eq]

/-- The stored number is the place, and is stored only where there is a line. -/
theorem Tracks.recalling_eq (ht : Tracks h s) :
    h.recalling = if s.place < s.count then some s.place else none := by
  rw [ht.place_eq, ht.count_eq, position]
  cases hrecalling : h.recalling with
  | none => simp
  | some i => simp [ht.positioned i hrecalling]

theorem Tracks.recalled?_eq (ht : Tracks h s) :
    h.recalled? = h.entries[s.place]?.map Entry.input := by
  rw [History.recalled?_eq, ht.place_eq, List.getElem?_map]

theorem Tracks.recalled?_recallPrevious (ht : Tracks h s) :
    h.recallPrevious.recalled? = h.entries[s.place - 1]?.map Entry.input := by
  have hshown := (ht.call .recallPrevious).recalled?_eq
  simpa [History.call, Slider.call] using hshown

theorem Tracks.recalled?_recallNext (ht : Tracks h s) :
    h.recallNext.recalled? = h.entries[min (s.place + 1) s.count]?.map Entry.input := by
  have hshown := (ht.call .recallNext).recalled?_eq
  simpa [History.call, Slider.call] using hshown

end

/-! ## §4 There and back -/

/-- The calls that step back `back` times and then on `on` times. -/
def thereAndBack (back on : Nat) : List Call :=
  List.replicate back .recallPrevious ++ List.replicate on .recallNext

theorem submitted_thereAndBack (back on : Nat) : submitted (thereAndBack back on) = [] := by
  simp [submitted, thereAndBack, Call.line?]

theorem Slider.place_thereAndBack {s : Slider} (hend : s.place = s.count) (back on : Nat) :
    (s.run (thereAndBack back on)).count = s.count ∧
      (s.run (thereAndBack back on)).place = min (s.count - back + on) s.count := by
  obtain ⟨hcount, hplace⟩ := s.run_back back
  obtain ⟨hcount', hplace'⟩ := (s.run (List.replicate back .recallPrevious)).run_on on
  rw [thereAndBack, Slider.run_append]
  exact ⟨hcount'.trans hcount, by rw [hplace', hplace, hcount, hend]⟩

theorem Consistent.entries_thereAndBack {h : History} (hc : h.Consistent) (back on : Nat) :
    (h.run (thereAndBack back on)).entries = h.entries := by
  rw [hc.entries_run, submitted_thereAndBack]
  exact List.append_nil _

/-- From a fresh line, steps back and on show the line that many places before the end. -/
theorem Tracks.thereAndBack {h : History} {s : Slider} (ht : Tracks h s) (hc : h.Consistent)
    (hfresh : h.isRecalling = false) (back on : Nat) :
    (h.run (thereAndBack back on)).recalled? =
        h.entries[h.entries.length - back + on]?.map Entry.input ∧
      ((h.run (thereAndBack back on)).isRecalling = true ↔
        h.entries.length - back + on < h.entries.length) := by
  have hend : s.place = s.count := by
    have hnot : ¬ s.place < s.count := by simp [← ht.isRecalling_iff, hfresh]
    exact Nat.le_antisymm s.place_le (Nat.le_of_not_lt hnot)
  have hmoved := ht.run (History.thereAndBack back on)
  obtain ⟨hcount, hplace⟩ := Slider.place_thereAndBack hend back on
  rw [hmoved.recalled?_eq, hmoved.isRecalling_iff, hplace, hcount, hc.entries_thereAndBack,
    ht.count_eq]
  refine ⟨?_, ?_⟩
  · rcases Nat.lt_or_ge (h.entries.length - back + on) h.entries.length with hlt | hge
    · rw [Nat.min_eq_left (Nat.le_of_lt hlt)]
    · -- Behind the newest entry there is nothing, however far.
      rw [Nat.min_eq_right hge, List.getElem?_eq_none (Nat.le_refl _), List.getElem?_eq_none hge]
  · omega

theorem Tracks.exists_shown {h : History} {s : Slider} (ht : Tracks h s) (hc : h.Consistent)
    (hfresh : h.isRecalling = false) {back on : Nat} (hle : back ≤ h.entries.length)
    (hlt : on < back) :
    ∃ entry, h.entries[h.entries.length - back + on]? = some entry ∧
      (h.run (History.thereAndBack back on)).recalled? = some entry.input ∧
      (h.run (History.thereAndBack back on)).isRecalling = true := by
  obtain ⟨hshown, hiff⟩ := ht.thereAndBack hc hfresh back on
  have hindex : h.entries.length - back + on < h.entries.length := by omega
  have hget := List.getElem?_eq_getElem hindex
  refine ⟨_, hget, ?_, hiff.mpr hindex⟩
  rw [hshown, hget, Option.map_some]

theorem Tracks.recall_ended {h : History} {s : Slider} (ht : Tracks h s) (hc : h.Consistent)
    (hfresh : h.isRecalling = false) {back on : Nat} (hge : back ≤ on) :
    (h.run (History.thereAndBack back on)).recalled? = none ∧
      (h.run (History.thereAndBack back on)).isRecalling = false := by
  obtain ⟨hshown, hiff⟩ := ht.thereAndBack hc hfresh back on
  have hindex : h.entries.length ≤ h.entries.length - back + on := by omega
  refine ⟨?_, ?_⟩
  · rw [hshown, List.getElem?_eq_none hindex, Option.map_none]
  · simpa [Nat.not_lt.mpr hindex] using hiff

/-- Recall moves like a slider.  After any calls on a fresh history there is a place from zero to
    the number of entries, moved by each call as a slider is, that tells all about recall: the
    stored number is the place where that is an entry, and otherwise nothing is recalled.  A step
    either way shows the line at the slider's new place, if there is one, and changes nothing but
    the stored number.

    From a fresh line, `back` steps back and fewer steps on show an entry counted from the newest;
    at least as many steps on end recall. -/
theorem recall_moves_like_slider (calls : List Call) :
    let h := run {} calls
    let s := Slider.run {} calls
    s.count = h.length ∧
    h.recalling = (if s.place < s.count then some s.place else none) ∧
    (h.isRecalling = true ↔ s.place < s.count) ∧
    h.recallPrevious.recalled? = h.entries[s.place - 1]?.map Entry.input ∧
    h.recallNext.recalled? = h.entries[min (s.place + 1) s.count]?.map Entry.input ∧
    h.recallPrevious = { h with recalling := h.recallPrevious.recalling } ∧
    h.recallNext = { h with recalling := h.recallNext.recalling } ∧
    (h.isRecalling = false → ∀ back on, back ≤ h.length →
      let recalled := h.run (thereAndBack back on)
      (on < back → ∃ entry, h.entries[h.length - back + on]? = some entry ∧
        recalled.recalled? = some entry.input ∧ recalled.isRecalling = true) ∧
      (back ≤ on → recalled.recalled? = none ∧ recalled.isRecalling = false)) := by
  intro h s
  have ht : Tracks h s := tracks_empty.run calls
  have hc : h.Consistent := consistent_empty.run calls
  refine ⟨ht.count_eq, ht.recalling_eq, ht.isRecalling_iff, ht.recalled?_recallPrevious,
    ht.recalled?_recallNext, ?_, ?_, ?_⟩
  · obtain ⟨position, heq⟩ := h.exists_recallPrevious_eq
    rw [heq]
  · obtain ⟨position, heq⟩ := h.exists_recallNext_eq
    rw [heq]
  · intro hfresh back on hle recalled
    refine ⟨?_, ?_⟩
    · intro hlt
      exact ht.exists_shown hc hfresh hle hlt
    · intro hge
      exact ht.recall_ended hc hfresh hge

end BraceArith.History
