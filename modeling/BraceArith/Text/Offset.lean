/-!
# Editing a text at a byte

A text is kept in UTF-8, where a character takes one to four bytes.  Characters are put in and
taken out at a byte offset, and that works only at an offset where a character starts or the text
ends: an offset inside a character, or past the end, has no answer.

## Main definitions

- `byteOffset`: the byte at which a character starts, characters being counted
- `firstOffsetWhere?`, `firstOffset?`: the byte at which a character of some kind, or a given one,
  stands first
- `cutAt?`: the two parts of a text before and behind a byte
- `insertAt?`, `removeAt?`: a character put in, and one taken out
-/

namespace BraceArith.Text

/-! ## §1 From characters to bytes -/

/-- The characters with the bytes at which they start, the first one at `start`. -/
def charOffsets (start : Nat) : List Char → List (Nat × Char)
  | [] => []
  | c :: rest => (start, c) :: charOffsets (start + c.utf8Size) rest

/-- The byte at which character number `n` starts; the end of the text if it has no more than `n`
    characters. -/
def byteOffset (text : String) (n : Nat) : Nat :=
  match (charOffsets 0 text.toList)[n]? with
  | some (offset, _) => offset
  | none => text.utf8ByteSize

/-- The byte at which a character that `p` holds of stands for the first time. -/
def firstOffsetWhere? (text : String) (p : Char → Bool) : Option Nat :=
  ((charOffsets 0 text.toList).find? fun (_, c) => p c).map Prod.fst

/-- The byte at which `c` stands for the first time. -/
def firstOffset? (text : String) (c : Char) : Option Nat :=
  firstOffsetWhere? text (· = c)

/-! ## §2 Changes at a byte -/

/-- The parts of the text before and behind byte `offset`, unless that is inside a character or
    past the end. -/
def cutAt? (text : String) (offset : Nat) : Option (String × String) :=
  if h : String.Pos.Raw.IsValid text ⟨offset⟩ then
    let place : text.Pos := ⟨⟨offset⟩, h⟩
    some ((text.sliceTo place).copy, (text.sliceFrom place).copy)
  else none

/-- The text with `c` put in at byte `offset`. -/
def insertAt? (text : String) (offset : Nat) (c : Char) : Option String :=
  match cutAt? text offset with
  | some (before, after) => some (before ++ c.toString ++ after)
  | none => none

/-- The text without the character that starts at byte `offset`.  At the end of the text there is
    none. -/
def removeAt? (text : String) (offset : Nat) : Option String :=
  match cutAt? text offset with
  | some (before, after) =>
    match after.toList with
    | _ :: rest => some (before ++ String.ofList rest)
    | [] => none
  | none => none

/-- The second character starts behind the three bytes of the first; there is no cut inside. -/
example : byteOffset "∂x" 1 = 3 ∧ cutAt? "∂x" 2 = none ∧ cutAt? "∂x" 3 = some ("∂", "x") := by
  decide +kernel

/-! ## §3 Small facts -/

theorem charOffsets_append_getElem? (start : Nat) (before after : List Char) :
    (charOffsets start (before ++ after))[before.length]? =
      after.head?.map fun c => (start + (String.ofList before).utf8ByteSize, c) := by
  induction before generalizing start with
  | nil => cases after <;> simp [charOffsets]
  | cons c before ih => simp [charOffsets, ih, String.ofList_cons, Nat.add_assoc]

/-- A character starts behind the bytes of all characters before it. -/
theorem byteOffset_append (before after : List Char) :
    byteOffset (String.ofList (before ++ after)) before.length =
      (String.ofList before).utf8ByteSize := by
  unfold byteOffset
  rw [String.toList_ofList, charOffsets_append_getElem?]
  cases after <;> simp

theorem length_charOffsets (start : Nat) (chars : List Char) :
    (charOffsets start chars).length = chars.length := by
  induction chars generalizing start with
  | nil => rfl
  | cons c chars ih => simp [charOffsets, ih]

theorem find?_charOffsets_append {before : List Char} {c : Char} (h : c ∉ before) (start : Nat)
    (after : List Char) :
    (charOffsets start (before ++ after)).find? (fun (_, d) => d = c) =
      (charOffsets (start + (String.ofList before).utf8ByteSize) after).find?
        fun (_, d) => d = c := by
  induction before generalizing start with
  | nil => simp
  | cons d before ih =>
    have hd : d ≠ c := fun heq => h (heq ▸ List.mem_cons_self)
    have hbefore : c ∉ before := fun hmem => h (List.mem_cons_of_mem d hmem)
    simp [charOffsets, hd, ih hbefore, String.ofList_cons, Nat.add_assoc]

/-- A character stands first behind the text before it that does not have it. -/
theorem firstOffset?_append {before : String} {c : Char} (h : c ∉ before.toList)
    (after : String) :
    firstOffset? (before ++ c.toString ++ after) c = some before.utf8ByteSize := by
  simp [firstOffset?, firstOffsetWhere?, find?_charOffsets_append h, charOffsets]

theorem firstOffset?_eq_none {text : String} {c : Char} (h : c ∉ text.toList) :
    firstOffset? text c = none := by
  have hfind := find?_charOffsets_append h 0 []
  rw [List.append_nil] at hfind
  simp [firstOffset?, firstOffsetWhere?, hfind, charOffsets]

theorem getD_find?_charOffsets (p : Char → Bool) (start : Nat) (chars : List Char) :
    (((charOffsets start chars).find? fun (_, c) => p c).map Prod.fst).getD
        (start + (String.ofList chars).utf8ByteSize) =
      start + (String.ofList (chars.takeWhile fun c => !p c)).utf8ByteSize := by
  induction chars generalizing start with
  | nil => rfl
  | cons c chars ih =>
    have hrest := ih (start + c.utf8Size)
    cases hc : p c with
    | true => simp [charOffsets, hc]
    | false => simpa [charOffsets, hc, String.ofList_cons, Nat.add_assoc] using hrest

/-- The first character of a kind stands behind the bytes of those that are not of that kind. -/
theorem getD_firstOffsetWhere? (text : String) (p : Char → Bool) :
    (firstOffsetWhere? text p).getD text.utf8ByteSize =
      (String.ofList (text.toList.takeWhile fun c => !p c)).utf8ByteSize := by
  have h := getD_find?_charOffsets p 0 text.toList
  rwa [String.ofList_toList, Nat.zero_add, Nat.zero_add] at h

/-- The text can be cut wherever a counted character starts, and at its end. -/
theorem isValid_byteOffset (text : String) (n : Nat) :
    String.Pos.Raw.IsValid text ⟨byteOffset text n⟩ := by
  rw [String.Pos.Raw.isValid_iff_exists_append]
  rcases Nat.le_total n text.toList.length with hle | hge
  · refine ⟨String.ofList (text.toList.take n), String.ofList (text.toList.drop n), ?_, ?_⟩
    · rw [← String.ofList_append, List.take_append_drop, String.ofList_toList]
    · have hoffset := byteOffset_append (text.toList.take n) (text.toList.drop n)
      rw [List.take_append_drop, String.ofList_toList, List.length_take_of_le hle] at hoffset
      exact congrArg String.Pos.Raw.mk hoffset
  · -- There is no such character, and the offset is the end of the text.
    refine ⟨text, "", by simp, ?_⟩
    have hnone : (charOffsets 0 text.toList)[n]? = none := by
      rw [List.getElem?_eq_none_iff, length_charOffsets]
      exact hge
    simp only [byteOffset, hnone]
    rfl

/-- Behind its first part a text can be cut. -/
theorem cutAt?_append (before after : String) :
    cutAt? (before ++ after) before.utf8ByteSize = some (before, after) := by
  have hvalid : String.Pos.Raw.IsValid (before ++ after) ⟨before.utf8ByteSize⟩ :=
    String.Pos.Raw.isValid_iff_exists_append.mpr ⟨before, after, rfl, rfl⟩
  let place : (before ++ after).Pos := ⟨⟨before.utf8ByteSize⟩, hvalid⟩
  -- A place splits a text in one way only.
  have hsplits : place.Splits before after := ⟨rfl, rfl⟩
  obtain ⟨hbefore, hafter⟩ := place.splits.eq hsplits
  simp only [cutAt?, dif_pos hvalid]
  exact congrArg some (Prod.ext hbefore hafter)

/-- At the offset of a counted character, one can be put in. -/
theorem insertAt?_byteOffset (before after : List Char) (c : Char) :
    insertAt? (String.ofList (before ++ after))
        (byteOffset (String.ofList (before ++ after)) before.length) c =
      some (String.ofList (before ++ c :: after)) := by
  rw [byteOffset_append, String.ofList_append, insertAt?, cutAt?_append]
  simp [← String.toList_inj]

/-- At the offset of a counted character, that one can be taken out. -/
theorem removeAt?_byteOffset (before after : List Char) (c : Char) :
    removeAt? (String.ofList (before ++ c :: after))
        (byteOffset (String.ofList (before ++ c :: after)) before.length) =
      some (String.ofList (before ++ after)) := by
  rw [byteOffset_append, String.ofList_append, removeAt?, cutAt?_append]
  simp [String.ofList_append]

end BraceArith.Text
