import BraceArith.Proofs.Session.Cache
import Mathlib.Data.Finset.Card
import Mathlib.Order.Bounds.Basic

/-!
# The cache as an index

The cache of a history has one pair for each stripped text among its lines: the text, and the
number of the first entry that has it.  The pair is made while that entry is still to come, and
later submissions never touch it, so it has to be right for good.  The counts of a history are
read off the cache and the entries; they depend on which lines were submitted and how often, but
not on their order, nor on any recall.

## Main definitions

- `History.keys`: the texts that the cache knows
- `History.occurrences`: the numbers of the entries with a stripped text

## Main statements

- `History.nodup_keys_call`, `History.nodup_keys_run`: the cache knows each text once
- `History.Consistent.mem_cache_iff`: what it knows of a text is the first entry that has it
- `History.distinct_run`, `History.failed_run`: the counts, from the submitted lines
-/

namespace BraceArith.History

/-! ## §1 Each text once -/

/-- The texts that the cache knows. -/
def keys (h : History) : List String :=
  h.cache.map Prod.fst

theorem lookup_eq_none_iff (h : History) (k : String) :
    h.cache.lookup k = none ↔ k ∉ h.keys := by
  simp only [List.lookup_eq_none_iff, keys, List.mem_map, bne_iff_ne]
  constructor
  · rintro hall ⟨pair, hmem, rfl⟩
    exact hall pair hmem rfl
  · rintro hnot pair hmem rfl
    exact hnot ⟨pair, hmem, rfl⟩

theorem nodup_keys_empty : (keys {}).Nodup :=
  List.nodup_nil

theorem nodup_keys_submit {h : History} (hnodup : h.keys.Nodup) (line : String) :
    (h.submit line).keys.Nodup := by
  unfold keys submit
  cases hi : h.firstIndex? line with
  | some i => exact hnodup
  | none =>
    -- Only a text that is not known yet is added.
    have hnew : key line ∉ h.keys := (h.lookup_eq_none_iff _).mp hi
    rw [List.map_append, List.map_singleton, ← List.concat_eq_append]
    exact hnodup.concat hnew

theorem nodup_keys_call {h : History} (hnodup : h.keys.Nodup) (c : Call) :
    (h.call c).keys.Nodup := by
  cases c with
  | submit line => exact nodup_keys_submit hnodup line
  | recallPrevious =>
    obtain ⟨position, heq⟩ := h.exists_recallPrevious_eq
    rw [call, heq]
    exact hnodup
  | recallNext =>
    obtain ⟨position, heq⟩ := h.exists_recallNext_eq
    rw [call, heq]
    exact hnodup

theorem nodup_keys_run {h : History} (hnodup : h.keys.Nodup) (calls : List Call) :
    (h.run calls).keys.Nodup := by
  induction calls generalizing h with
  | nil => exact hnodup
  | cons c calls ih => exact ih (nodup_keys_call hnodup c)

/-- Where each text is known once, a pair of the cache is what a look-up finds. -/
theorem mem_cache_iff_lookup {h : History} (hnodup : h.keys.Nodup) (k : String) (i : Nat) :
    (k, i) ∈ h.cache ↔ h.cache.lookup k = some i := by
  rw [List.lookup_eq_some_iff]
  constructor
  · intro hmem
    obtain ⟨before, after, hcache⟩ := List.append_of_mem hmem
    refine ⟨before, after, hcache, ?_⟩
    intro pair hpair
    -- A pair further to the front with the same text would be a second one.
    rw [keys, hcache, List.map_append, List.map_cons, List.nodup_append] at hnodup
    have hne := hnodup.2.2 pair.1 (List.mem_map_of_mem hpair) k List.mem_cons_self
    exact bne_iff_ne.mpr hne.symm
  · rintro ⟨before, after, hcache, -⟩
    rw [hcache]
    exact List.mem_append_right _ List.mem_cons_self

/-! ## §2 First occurrences -/

/-- The numbers of the entries whose lines have the stripped text `text`. -/
def occurrences (h : History) (text : List Char) : Set Nat :=
  {i | ∃ entry, h.entries[i]? = some entry ∧ Text.strip entry.input = text}

theorem key_eq_iff (line k : String) : key line = k ↔ Text.strip line = k.toList := by
  rw [key]
  constructor
  · rintro rfl
    exact String.toList_ofList.symm
  · intro heq
    rw [heq, String.ofList_toList]

theorem findIdx?_eq_some_iff_isLeast (h : History) (k : String) (i : Nat) :
    (h.entries.findIdx? fun e => key e.input == k) = some i ↔
      IsLeast (h.occurrences k.toList) i := by
  rw [List.findIdx?_eq_some_iff_getElem]
  constructor
  · -- No entry before the one that was found has the text.
    rintro ⟨hlt, hkey, hbefore⟩
    refine ⟨⟨_, List.getElem?_eq_getElem hlt, (key_eq_iff _ _).mp (eq_of_beq hkey)⟩, ?_⟩
    rintro j ⟨entry, hget, hstrip⟩
    by_contra hji
    obtain ⟨hj, rfl⟩ := List.getElem?_eq_some_iff.mp hget
    exact hbefore j (Nat.lt_of_not_le hji) (beq_iff_eq.mpr ((key_eq_iff _ _).mpr hstrip))
  · rintro ⟨⟨entry, hget, hstrip⟩, hleast⟩
    obtain ⟨hlt, rfl⟩ := List.getElem?_eq_some_iff.mp hget
    refine ⟨hlt, beq_iff_eq.mpr ((key_eq_iff _ _).mpr hstrip), ?_⟩
    intro j hji hkey
    have hj : j < h.entries.length := Nat.lt_trans hji hlt
    have hmem : j ∈ h.occurrences k.toList :=
      ⟨_, List.getElem?_eq_getElem hj, (key_eq_iff _ _).mp (eq_of_beq hkey)⟩
    exact Nat.not_le_of_lt hji (hleast hmem)

section

variable {h : History}

/-- The cache has exactly the pairs of a stripped text and the first entry with it. -/
theorem Consistent.mem_cache_iff (hc : h.Consistent) (hnodup : h.keys.Nodup) (k : String)
    (i : Nat) : (k, i) ∈ h.cache ↔ IsLeast (h.occurrences k.toList) i := by
  rw [mem_cache_iff_lookup hnodup, hc.lookup_eq, findIdx?_eq_some_iff_isLeast]

theorem Consistent.mem_keys_iff (hc : h.Consistent) (k : String) :
    k ∈ h.keys ↔ ∃ entry ∈ h.entries, Text.strip entry.input = k.toList := by
  rw [← not_iff_not, ← h.lookup_eq_none_iff, hc.lookup_eq, List.findIdx?_eq_none_iff]
  simp [key_eq_iff]

end

/-! ## §3 Counts -/

theorem entries_run (calls : List Call) :
    (run {} calls).entries = (submitted calls).map Entry.analyzed :=
  (consistent_empty.entries_run calls).trans (List.nil_append _)

theorem length_run (calls : List Call) : (run {} calls).length = (submitted calls).length := by
  rw [length, entries_run, List.length_map]

theorem mem_keys_run (calls : List Call) (k : String) :
    k ∈ (run {} calls).keys ↔ ∃ line ∈ submitted calls, Text.strip line = k.toList := by
  rw [(consistent_empty.run calls).mem_keys_iff, entries_run]
  simp [Entry.analyzed]

/-- As many texts are known as the submitted lines have, blanks aside. -/
theorem distinct_run (calls : List Call) :
    (run {} calls).distinct = ((submitted calls).map Text.strip).toFinset.card := by
  have hnodup : (run {} calls).keys.Nodup := nodup_keys_run nodup_keys_empty calls
  -- Known texts and submitted lines make up the same set, and the former are counted once each.
  have hknown : ((run {} calls).keys.map String.toList).toFinset =
      ((submitted calls).map Text.strip).toFinset := by
    ext text
    simp only [List.mem_toFinset, List.mem_map, mem_keys_run]
    constructor
    · rintro ⟨k, hline, rfl⟩
      exact hline
    · rintro ⟨line, hmem, rfl⟩
      exact ⟨key line, ⟨line, hmem, String.toList_ofList.symm⟩, String.toList_ofList⟩
  rw [← hknown, List.toFinset_card_of_nodup (hnodup.map fun _ _ => String.toList_inj.mp),
    List.length_map, keys, List.length_map, distinct]

theorem failed_run (calls : List Call) :
    (run {} calls).failed = (submitted calls).countP fun line => !(analyze line).isOk := by
  rw [failed, entries_run, List.countP_map]
  rfl

/-- The cache is an index of first occurrences, and the counts count what they say.  After any
    calls on a fresh history the cache knows the stripped texts of the entries' lines, each of them
    once, and with each the least number of an entry that has it, which is the number of an entry.
    The history counts the different stripped texts among the submitted lines, and the submitted
    lines that have a syntax error, repeated ones included.  So the counts are the same for every
    order in which the lines are submitted, whatever is recalled in between. -/
theorem cache_indexes_first_occurrences (calls : List Call) :
    let h := run {} calls
    h.keys.Nodup ∧
    (∀ k, k ∈ h.keys ↔ ∃ entry ∈ h.entries, Text.strip entry.input = k.toList) ∧
    (∀ k i, (k, i) ∈ h.cache ↔ IsLeast (h.occurrences k.toList) i) ∧
    (∀ k i, (k, i) ∈ h.cache → i < h.length) ∧
    h.distinct = ((submitted calls).map Text.strip).toFinset.card ∧
    h.failed = (submitted calls).countP (fun line => !(analyze line).isOk) ∧
    (∀ others, (submitted others).Perm (submitted calls) →
      (run {} others).length = h.length ∧ (run {} others).distinct = h.distinct ∧
        (run {} others).failed = h.failed) := by
  intro h
  have hc : h.Consistent := consistent_empty.run calls
  have hnodup : h.keys.Nodup := nodup_keys_run nodup_keys_empty calls
  refine ⟨hnodup, hc.mem_keys_iff, hc.mem_cache_iff hnodup, ?_, distinct_run calls,
    failed_run calls, ?_⟩
  · intro k i hmem
    obtain ⟨⟨entry, hget, -⟩, -⟩ := (hc.mem_cache_iff hnodup k i).mp hmem
    exact (List.getElem?_eq_some_iff.mp hget).1
  · intro others hperm
    refine ⟨?_, ?_, ?_⟩
    · rw [length_run, length_run, hperm.length_eq]
    · rw [distinct_run, distinct_run, List.toFinset_eq_of_perm _ _ (hperm.map _)]
    · rw [failed_run, failed_run, hperm.countP_eq]

end BraceArith.History
