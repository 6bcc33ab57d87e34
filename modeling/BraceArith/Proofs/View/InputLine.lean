import BraceArith.Proofs.Explorer.LineMode
import BraceArith.Proofs.Explorer.Scrolling

/-!
# The cursor of the input line

On a narrow screen the input line shows a part of the line being edited.  The part and the column
of the terminal's cursor are computed apart from each other, from the same number of characters
moved out of view.  That number is just large enough to keep the cursor inside: there is always a
column left for it, and the character with the number of that column is the one that the next edit
is about.

A number of characters is a number of columns only where each character takes one.  There the
cursor is seen on its character.  A character of double width moves those behind it to the right
and may push them out of the line, one without width leaves a column to the next; then the cursor
stands elsewhere.

## Main definitions

- `charColumns`, `columnsTaken`: how much of the line characters take
- `IsNarrow`: a character of one column
- `HasRoom`: an area that an input line can be drawn in

## Main statements

- `inputSkip_le`, `sub_inputSkip_lt_inputRoom`: the cursor is never left of the part shown, nor
  right of its last column
- `toNat_inputColumn`: columns do not outgrow sixteen bits
- `inputSlice_getElem?`: the character whose number is the cursor's column
- `symbol?_drawInput`: where a character of the line is seen
- `symbol?_inputCursor`, `symbol?_frame_cursor`: the cursor is seen on its character
-/

namespace BraceArith

namespace View

open BraceArith.Screen

/-! ## §1 Where the cursor is -/

theorem inputRoom_pos (width : Nat) : 0 < inputRoom width :=
  Nat.le_max_left 1 (width - 2)

theorem inputRoom_eq {width : Nat} (h : 3 ≤ width) : inputRoom width = width - 2 :=
  Nat.max_eq_right (Nat.le_sub_of_add_le h)

theorem inputRoom_lt {width bound : Nat} (hwidth : width < bound) (hbound : 1 < bound) :
    inputRoom width < bound :=
  Nat.max_lt.mpr ⟨hbound, Nat.lt_of_le_of_lt (Nat.sub_le width 2) hwidth⟩

section

variable (width cursor : Nat)

theorem inputSkip_le : inputSkip width cursor ≤ cursor := by
  have hroom := inputRoom_pos width
  unfold inputSkip
  omega

theorem sub_inputSkip_lt_inputRoom : cursor - inputSkip width cursor < inputRoom width := by
  have hroom := inputRoom_pos width
  unfold inputSkip
  omega

variable {width cursor} in
theorem inputSkip_eq_zero (h : cursor < inputRoom width) : inputSkip width cursor = 0 :=
  Nat.sub_eq_zero_of_le h

variable {width} in
/-- The column fits into sixteen bits, because the width does. -/
theorem toNat_inputColumn (hwidth : width < UInt16.size) :
    (inputColumn width cursor).toNat = cursor - inputSkip width cursor := by
  have hroom : inputRoom width < UInt16.size := inputRoom_lt hwidth (by decide)
  exact UInt16.toNat_ofNat_of_lt' (Nat.lt_trans (sub_inputSkip_lt_inputRoom width cursor) hroom)

/-! ## §2 What is shown -/

variable (input : List Char)

theorem flatMap_chars_inputLine :
    (inputLine width cursor input).flatMap Span.chars = inputSlice width cursor input := by
  simp [inputLine, List.flatMap_map]

theorem length_inputSlice_le : (inputSlice width cursor input).length ≤ inputRoom width :=
  List.length_take_le _ _

theorem eq_append_inputSlice_append :
    input = input.take (inputSkip width cursor) ++ inputSlice width cursor input ++
      (input.drop (inputSkip width cursor)).drop (inputRoom width) := by
  rw [inputSlice, List.append_assoc, List.take_append_drop, List.take_append_drop]

/-- The character at the cursor is the one whose number is the cursor's column. -/
theorem inputSlice_getElem? :
    (inputSlice width cursor input)[cursor - inputSkip width cursor]? = input[cursor]? := by
  rw [inputSlice, List.getElem?_take_of_lt (sub_inputSkip_lt_inputRoom width cursor),
    List.getElem?_drop, Nat.add_sub_of_le (inputSkip_le width cursor)]

/-- At the end of the line, the cursor's column is the first one behind the part shown. -/
theorem length_inputSlice_of_end :
    (inputSlice width input.length input).length = input.length - inputSkip width input.length := by
  have hlt := sub_inputSkip_lt_inputRoom width input.length
  rw [inputSlice, List.length_take, List.length_drop]
  omega

end

/-! ## §3 What is drawn -/

theorem textWidth_singleton (c : Char) : Text.textWidth [c] = Text.charWidth c := by
  have hown : Text.sharesCell c [] = false := by simp [Text.sharesCell]
  simp [Text.textWidth, hown]

/-- Number of columns that a character takes in an area of the given width.  A line feed and a
    character that is wider than the whole line are not shown. -/
def charColumns (width : Nat) (c : Char) : Nat :=
  if c = '\n' then 0
  else if width - 2 < Text.charWidth c then 0
  else Text.charWidth c

theorem charColumns_of_pos {width : Nat} {c : Char} (h : 0 < charColumns width c) :
    c ≠ '\n' ∧ charColumns width c = Text.charWidth c := by
  unfold charColumns at h ⊢
  split at h
  next => exact absurd h (Nat.lt_irrefl 0)
  next hfeed =>
    split at h
    next => exact absurd h (Nat.lt_irrefl 0)
    next hwide => exact ⟨hfeed, by rw [if_neg hfeed, if_neg hwide]⟩

/-- The character takes one column of a screen. -/
def IsNarrow (c : Char) : Prop :=
  c ≠ '\n' ∧ Text.charWidth c = 1

instance : DecidablePred IsNarrow :=
  fun c => inferInstanceAs (Decidable (c ≠ '\n' ∧ Text.charWidth c = 1))

theorem charColumns_of_isNarrow {width : Nat} (hwidth : 3 ≤ width) {c : Char} (h : IsNarrow c) :
    charColumns width c = 1 := by
  rw [charColumns, if_neg h.1, h.2, if_neg (by omega)]

/-- Number of columns that the characters take. -/
def columnsTaken (width : Nat) : List Char → Nat
  | [] => 0
  | c :: rest => charColumns width c + columnsTaken width rest

theorem columnsTaken_of_narrow {width : Nat} (hwidth : 3 ≤ width) {chars : List Char}
    (h : ∀ c ∈ chars, IsNarrow c) : columnsTaken width chars = chars.length := by
  induction chars with
  | nil => rfl
  | cons c chars ih =>
    rw [columnsTaken, charColumns_of_isNarrow hwidth (h c List.mem_cons_self),
      ih fun d hmem => h d (List.mem_cons_of_mem c hmem), List.length_cons, Nat.add_comm]

/-- What a character of the input line shows. -/
def characterClusters (c : Char) : List (List Char × Style) :=
  if c = '\n' then [] else [([c], characterStyle c)]

theorem clusters_inputLine (width cursor : Nat) (input : List Char) :
    (inputLine width cursor input).clusters =
      (inputSlice width cursor input).flatMap characterClusters := by
  simp only [inputLine, Line.clusters, List.flatMap_map]
  congr 1
  funext c
  -- A character alone is a cluster.
  have hclusters : (⟨[c], characterStyle c⟩ : Span).clusters = [[c]].filter (· ≠ ['\n']) := rfl
  rw [hclusters, characterClusters]
  by_cases hfeed : c = '\n'
  · simp [hfeed]
  · simp [hfeed]

theorem columns_flatMap (width : Nat) (chars : List Char) :
    Canvas.columns (width - 2) (chars.flatMap characterClusters) = columnsTaken width chars := by
  induction chars with
  | nil => rfl
  | cons c chars ih =>
    rw [List.flatMap_cons, columnsTaken, ← ih]
    by_cases hfeed : c = '\n'
    · simp [characterClusters, charColumns, hfeed]
    · simp [characterClusters, charColumns, hfeed, Canvas.columns, textWidth_singleton]

theorem flatMap_characterClusters {chars : List Char} {k : Nat} {c : Char}
    (hc : chars[k]? = some c) (hfeed : c ≠ '\n') :
    chars.flatMap characterClusters =
      (chars.take k).flatMap characterClusters ++
        ([c], characterStyle c) :: (chars.drop (k + 1)).flatMap characterClusters := by
  obtain ⟨hk, rfl⟩ := List.getElem?_eq_some_iff.mp hc
  have hsplit : chars = chars.take k ++ chars[k] :: chars.drop (k + 1) := by
    rw [← List.drop_eq_getElem_cons hk, List.take_append_drop]
  have hown : characterClusters chars[k] = [([chars[k]], characterStyle chars[k])] := if_neg hfeed
  conv_lhs => rw [hsplit, List.flatMap_append, List.flatMap_cons, hown]
  rfl

/-- The area has room for a character inside a border, and it lies on the canvas. -/
structure HasRoom (area : Area) (canvas : Canvas) : Prop where
  width : 3 ≤ area.width
  height : 3 ≤ area.height
  right : area.x + area.width ≤ canvas.width
  bottom : area.y + area.height ≤ canvas.height

section

variable {area : Area} {canvas : Canvas}

theorem HasRoom.clip_eq (h : HasRoom area canvas) : canvas.clip area = area := by
  rw [Canvas.clip, Area.clip, Nat.min_eq_left h.right, Nat.min_eq_left h.bottom,
    Nat.add_sub_cancel_left, Nat.add_sub_cancel_left]

/-- The frame of the input line, without the line. -/
def inputFrame (area : Area) (canvas : Canvas) : Canvas :=
  canvas.border area " Expression " (Palette.border true)

variable (h : HasRoom area canvas) (input : List Char) (cursor : Nat)
include h

theorem changesOnly_inputFrame :
    Canvas.ChangesOnly (fun x y => ¬ Canvas.Inside area x y) canvas (inputFrame area canvas) := by
  have hframe := canvas.changesOnly_border area " Expression " (Palette.border true)
  rwa [h.clip_eq] at hframe

theorem HasRoom.inputFrame : HasRoom area (inputFrame area canvas) where
  width := h.width
  height := h.height
  right := (changesOnly_inputFrame h).width_eq ▸ h.right
  bottom := (changesOnly_inputFrame h).height_eq ▸ h.bottom

theorem cell?_drawInput (x : Nat) :
    (drawInput area input cursor canvas).cell? x (area.y + 1) =
      ((inputFrame area canvas).drawLine (area.inside 0) 0
        (inputLine area.width cursor input)).cell? x (area.y + 1) := by
  have hwidth : 0 < area.width - 2 := Nat.lt_sub_of_add_lt h.width
  have hrow : 0 < area.height - 2 := Nat.lt_sub_of_add_lt h.height
  have hline : [inputLine area.width cursor input][0]? = some (inputLine area.width cursor input) :=
    rfl
  exact Canvas.cell?_drawLines .clusters hwidth hrow hline _ x

/-- A character that is shown stands behind the columns that the ones before it take. -/
theorem symbol?_drawInput {k : Nat} {c : Char}
    (hc : (inputSlice area.width cursor input)[k]? = some c)
    (hpos : 0 < charColumns area.width c) {column : Nat}
    (hcolumn : columnsTaken area.width ((inputSlice area.width cursor input).take k) = column)
    (hfits : column + charColumns area.width c ≤ area.width - 2) :
    (drawInput area input cursor canvas).symbol? (area.x + 1 + column) (area.y + 1) =
      some (String.singleton c) := by
  obtain ⟨hfeed, htaken⟩ := charColumns_of_pos hpos
  rw [htaken, ← textWidth_singleton] at hpos hfits
  have hclusters := clusters_inputLine area.width cursor input
  rw [flatMap_characterClusters hc hfeed] at hclusters
  have hframe := h.inputFrame
  have hx : area.x + 1 + column < (inputFrame area canvas).width := by
    have hright := hframe.right
    omega
  have hy : area.y + 1 < (inputFrame area canvas).height :=
    Nat.lt_of_lt_of_le (Nat.add_lt_add_left (Nat.lt_of_succ_lt hframe.height) _) hframe.bottom
  rw [← columns_flatMap] at hcolumn
  subst hcolumn
  rw [Canvas.symbol?, cell?_drawInput h]
  exact Canvas.symbol?_drawLine _ (area.inside 0) 0 hclusters hpos hfits hx hy

/-- Behind the characters shown, the line leaves its row as it was. -/
theorem cell?_drawInput_of_le {column : Nat}
    (hcolumn : columnsTaken area.width (inputSlice area.width cursor input) ≤ column)
    (hlt : column + 2 < area.width) :
    (drawInput area input cursor canvas).cell? (area.x + 1 + column) (area.y + 1) =
      canvas.cell? (area.x + 1 + column) (area.y + 1) := by
  have hinside : Canvas.Inside area (area.x + 1 + column) (area.y + 1) := by
    have hheight := h.height
    unfold Canvas.Inside
    omega
  rw [← columns_flatMap, ← clusters_inputLine] at hcolumn
  rw [cell?_drawInput h, ← (changesOnly_inputFrame h).cell?_eq _ _ (not_not_intro hinside)]
  exact Canvas.cell?_drawLine_of_le _ (area.inside 0) 0 hcolumn _

/-! ## §4 Where the cursor is seen -/

section

variable (hwidth : area.width < UInt16.size)
include hwidth

omit h in
theorem inputCursor_eq :
    inputCursor area cursor =
      (area.x + 1 + (cursor - inputSkip area.width cursor), area.y + 1) := by
  rw [inputCursor, toNat_inputColumn cursor hwidth]

variable (hbefore : columnsTaken area.width
  ((inputSlice area.width cursor input).take (cursor - inputSkip area.width cursor)) =
    cursor - inputSkip area.width cursor)
include hbefore

/-- If the characters before it take as many columns as there are, the character at the cursor is
    seen where the cursor stands. -/
theorem symbol?_inputCursor {c : Char} (hc : input[cursor]? = some c)
    (hpos : 0 < charColumns area.width c)
    (hfits : cursor - inputSkip area.width cursor + charColumns area.width c ≤ area.width - 2) :
    (drawInput area input cursor canvas).symbol? (inputCursor area cursor).1
      (inputCursor area cursor).2 = some (String.singleton c) := by
  have hslice : (inputSlice area.width cursor input)[cursor - inputSkip area.width cursor]? =
      some c := by
    rw [inputSlice_getElem?, hc]
  rw [inputCursor_eq cursor hwidth]
  exact symbol?_drawInput h input cursor hslice hpos hbefore hfits

/-- At the end of such a line, it stands in the first cell that the line has left as it was. -/
theorem cell?_inputCursor_of_end (hend : cursor = input.length) :
    (drawInput area input cursor canvas).cell? (inputCursor area cursor).1
      (inputCursor area cursor).2 =
        canvas.cell? (inputCursor area cursor).1 (inputCursor area cursor).2 := by
  subst hend
  have hlt := sub_inputSkip_lt_inputRoom area.width input.length
  rw [inputRoom_eq h.width] at hlt
  -- All characters shown stand before the cursor.
  rw [← length_inputSlice_of_end, List.take_length, length_inputSlice_of_end] at hbefore
  rw [inputCursor_eq input.length hwidth]
  exact cell?_drawInput_of_le h input _ (Nat.le_of_eq hbefore) (Nat.add_lt_of_lt_sub hlt)

end

/-! ## §5 One column for each character -/

section

variable (hnarrow : ∀ c ∈ inputSlice area.width cursor input, IsNarrow c)
include hnarrow

theorem columnsTaken_take {k : Nat} (hk : k ≤ (inputSlice area.width cursor input).length) :
    columnsTaken area.width ((inputSlice area.width cursor input).take k) = k := by
  rw [columnsTaken_of_narrow h.width fun c hmem => hnarrow c (List.mem_of_mem_take hmem),
    List.length_take_of_le hk]

theorem symbol?_drawInput_of_narrow {k : Nat} {c : Char}
    (hc : (inputSlice area.width cursor input)[k]? = some c) :
    (drawInput area input cursor canvas).symbol? (area.x + 1 + k) (area.y + 1) =
      some (String.singleton c) := by
  have hk : k < (inputSlice area.width cursor input).length :=
    (List.getElem?_eq_some_iff.mp hc).1
  have hroom := length_inputSlice_le area.width cursor input
  rw [inputRoom_eq h.width] at hroom
  have hone := charColumns_of_isNarrow h.width (hnarrow c (List.mem_of_getElem? hc))
  have hbefore := columnsTaken_take h input cursor hnarrow (Nat.le_of_lt hk)
  exact symbol?_drawInput h input cursor hc (by omega) hbefore (by omega)

theorem cell?_drawInput_of_narrow {k : Nat}
    (hk : (inputSlice area.width cursor input).length ≤ k) (hlt : k + 2 < area.width) :
    (drawInput area input cursor canvas).cell? (area.x + 1 + k) (area.y + 1) =
      canvas.cell? (area.x + 1 + k) (area.y + 1) := by
  apply cell?_drawInput_of_le h input cursor _ hlt
  rwa [columnsTaken_of_narrow h.width hnarrow]

/-- The cursor stands on the character that the next edit is about. -/
theorem symbol?_inputCursor_of_narrow (hwidth : area.width < UInt16.size) {c : Char}
    (hc : input[cursor]? = some c) :
    (drawInput area input cursor canvas).symbol? (inputCursor area cursor).1
      (inputCursor area cursor).2 = some (String.singleton c) := by
  rw [inputCursor_eq cursor hwidth]
  apply symbol?_drawInput_of_narrow h input cursor hnarrow
  rw [inputSlice_getElem?, hc]

theorem cell?_inputCursor_of_narrow (hwidth : area.width < UInt16.size)
    (hend : cursor = input.length) :
    (drawInput area input cursor canvas).cell? (inputCursor area cursor).1
      (inputCursor area cursor).2 =
        canvas.cell? (inputCursor area cursor).1 (inputCursor area cursor).2 := by
  apply cell?_inputCursor_of_end h input cursor hwidth _ hend
  apply columnsTaken_take h input cursor hnarrow
  subst hend
  exact Nat.le_of_eq (length_inputSlice_of_end area.width input).symm

end

end

/-! ## §6 In a frame -/

theorem changesOnly_drawStatus (area : Area) (message : String) (submitted : Nat) (failed : Bool)
    (canvas : Canvas) :
    Canvas.ChangesOnly (fun _ _ => True) canvas
      (drawStatus area message submitted failed canvas) := by
  have hhalf (half : Area) (line : Line) (align : Canvas.Alignment) (style : Style) (c : Canvas) :
      Canvas.ChangesOnly (fun _ _ => True) c
        (if half.isEmpty then c.restyle half style
          else (c.restyle half style).drawLine half 0 line align) := by
    have hstyled := Canvas.changesOnly_restyle (fun _ _ => trivial) c half style
    split
    · exact hstyled
    · exact hstyled.trans (Canvas.changesOnly_putClusters (fun _ _ _ => trivial) _)
  exact (hhalf _ _ _ _ canvas).trans (hhalf _ _ _ _ _)

theorem exists_frame_canvas_eq (e : Explorer) (width height : Nat) :
    ∃ canvas, Canvas.ChangesOnly (fun _ _ => True) (Canvas.blank width height) canvas ∧
      (e.frame width height).canvas =
        drawInput (Layout.ofSize width height).input e.line.chars e.line.cursor canvas := by
  refine ⟨_, ?_, rfl⟩
  refine .trans ?_ (changesOnly_drawStatus _ _ _ _ _)
  refine .trans ?_ (e.historyPane.changesOnly_draw _ _ _)
  refine .trans ?_ (e.graphPane.changesOnly_draw _ _ _)
  exact e.treePane.changesOnly_draw _ _ _

theorem hasRoom_input {width height : Nat} {canvas : Canvas}
    (hsize : Canvas.ChangesOnly (fun _ _ => True) (Canvas.blank width height) canvas)
    (hwidth : 3 ≤ (Layout.ofSize width height).input.width)
    (hheight : 3 ≤ (Layout.ofSize width height).input.height) :
    HasRoom (Layout.ofSize width height).input canvas where
  width := hwidth
  height := hheight
  right := by
    rw [hsize.width_eq]
    exact Nat.le_of_eq (Nat.zero_add _)
  bottom := by
    -- The rows of the input line are taken from those that the status bar leaves.
    have htop : (Layout.ofSize width height).input.height =
        min 3 ((Area.boundedSize width height).2 - min 1 (Area.boundedSize width height).2) := rfl
    have hblank : (Canvas.blank width height).height = (Area.boundedSize width height).2 := rfl
    have hy : (Layout.ofSize width height).input.y = 0 := rfl
    rw [hsize.height_eq]
    omega

/-- In a frame of the explorer, too, the cursor stands on the character at the cursor. -/
theorem symbol?_frame_cursor {e : Explorer} {width height : Nat}
    (hwidth : 3 ≤ (Layout.ofSize width height).input.width)
    (hbound : (Layout.ofSize width height).input.width < UInt16.size)
    (hheight : 3 ≤ (Layout.ofSize width height).input.height)
    (hnarrow : ∀ c ∈ inputSlice (Layout.ofSize width height).input.width e.line.cursor e.line.chars,
      IsNarrow c)
    {c : Char} (hc : e.line.chars[e.line.cursor]? = some c) :
    (e.frame width height).canvas.symbol? (e.frame width height).cursor.1
      (e.frame width height).cursor.2 = some (String.singleton c) := by
  obtain ⟨canvas, hsize, hcanvas⟩ := exists_frame_canvas_eq e width height
  rw [hcanvas]
  exact symbol?_inputCursor_of_narrow (hasRoom_input hsize hwidth hheight) _ _ hnarrow hbound hc

/-! ## §7 The input line as a whole -/

/-- The input line keeps the cursor in view and on its character.

    In every explorer that keys and drawings lead to, the cursor is not behind the end of the line.
    For every width, no more characters are moved out of view than stand before the cursor, and
    the column is the number of characters that are left there; sixteen bits hold it.  If the area
    has room for a character, the characters to be shown are a part of the line that fits, and a
    line whose cursor fits is shown from its start.  The cursor's column lies inside the border,
    and the character at the cursor has that column as its number, or there is none yet.

    On a canvas, each character stands behind the columns that the characters before it take, if
    it fits.  So the cursor stands on its character, or at the end in a cell that the line leaves
    as it was, if the characters before it take as many columns as there are.  Where every
    character shown takes a single column, all of them are seen, each in the column of its number,
    the cells behind them stay as they were, and the cursor stands where it should.  In a frame of
    the explorer it does so, too. -/
theorem input_line_keeps_cursor_on_character (area : Area) (canvas : Canvas) (input : List Char)
    (cursor : Nat) :
    let slice := (inputLine area.width cursor input).flatMap Span.chars
    let place := inputCursor area cursor
    let s := place.1 - area.x - 1
    let drawn := drawInput area input cursor canvas
    (∀ (path : String) (start : Disk) (events : List Explorer.Event),
      let e := (Explorer.play { outputPath := path } start events).1
      e.line.cursor ≤ e.line.chars.length) ∧
    (area.width < UInt16.size →
      inputSkip area.width cursor ≤ cursor ∧
      (inputColumn area.width cursor).toNat = cursor - inputSkip area.width cursor) ∧
    (cursor ≤ input.length → 3 ≤ area.width → area.x + area.width < UInt16.size →
      slice.length ≤ area.width - 2 ∧
      (∃ before after, input = before ++ slice ++ after ∧
        (cursor < area.width - 2 → before = [])) ∧
      area.x + 1 ≤ place.1 ∧ place.1 ≤ area.x + area.width - 2 ∧ place.1 < UInt16.size ∧
      (∀ c, input[cursor]? = some c → slice[s]? = some c) ∧
      (cursor = input.length → s = slice.length)) ∧
    (HasRoom area canvas →
      (∀ (k : Nat) c, slice[k]? = some c →
        let column := columnsTaken area.width (slice.take k)
        0 < charColumns area.width c → column + charColumns area.width c ≤ area.width - 2 →
        drawn.symbol? (area.x + 1 + column) (area.y + 1) = some (String.singleton c)) ∧
      (area.width < UInt16.size → columnsTaken area.width (slice.take s) = s →
        (∀ c, input[cursor]? = some c → 0 < charColumns area.width c →
          s + charColumns area.width c ≤ area.width - 2 →
          drawn.symbol? place.1 place.2 = some (String.singleton c)) ∧
        (cursor = input.length → drawn.cell? place.1 place.2 = canvas.cell? place.1 place.2)) ∧
      ((∀ c ∈ slice, IsNarrow c) →
        (∀ (k : Nat) c, slice[k]? = some c →
          drawn.symbol? (area.x + 1 + k) (area.y + 1) = some (String.singleton c)) ∧
        (∀ k, slice.length ≤ k → k + 2 < area.width →
          drawn.cell? (area.x + 1 + k) (area.y + 1) =
            canvas.cell? (area.x + 1 + k) (area.y + 1)) ∧
        (area.width < UInt16.size →
          (∀ c, input[cursor]? = some c →
            drawn.symbol? place.1 place.2 = some (String.singleton c)) ∧
          (cursor = input.length →
            drawn.cell? place.1 place.2 = canvas.cell? place.1 place.2)))) ∧
    (∀ (e : Explorer) (width height : Nat),
      let field := (Layout.ofSize width height).input
      let frame := e.frame width height
      3 ≤ field.width → field.width < UInt16.size → 3 ≤ field.height →
      (∀ c ∈ (inputLine field.width e.line.cursor e.line.chars).flatMap Span.chars, IsNarrow c) →
      ∀ c, e.line.chars[e.line.cursor]? = some c →
        frame.canvas.symbol? frame.cursor.1 frame.cursor.2 = some (String.singleton c)) := by
  intro slice place s drawn
  have hslice : slice = inputSlice area.width cursor input :=
    flatMap_chars_inputLine area.width cursor input
  -- Column and part shown are taken from the same number of characters out of view.
  have hx (hwidth : area.width < UInt16.size) :
      place.1 = area.x + 1 + (cursor - inputSkip area.width cursor) :=
    congrArg Prod.fst (inputCursor_eq cursor hwidth)
  have hs (hwidth : area.width < UInt16.size) : s = cursor - inputSkip area.width cursor := by
    have hcolumn := hx hwidth
    omega
  refine ⟨?_, ?_, ?_, ?_, ?_⟩
  · intro path start events e
    rw [(Explorer.shows_play path start events).line_eq, Explorer.EditLine.chars_split]
    simp [Explorer.EditLine.split]
  · intro hwidth
    exact ⟨inputSkip_le area.width cursor, toNat_inputColumn cursor hwidth⟩
  · intro hcursor hthree hfits
    have hroom := inputRoom_eq hthree
    have hwidth : area.width < UInt16.size := Nat.lt_of_le_of_lt (Nat.le_add_left _ _) hfits
    have hcolumn := hx hwidth
    have hinside := sub_inputSkip_lt_inputRoom area.width cursor
    rw [hslice, hs hwidth]
    refine ⟨?_, ⟨_, _, eq_append_inputSlice_append area.width cursor input, ?_⟩, by omega, by omega,
      by omega, ?_, ?_⟩
    · rw [← hroom]
      exact length_inputSlice_le area.width cursor input
    · intro hlt
      rw [inputSkip_eq_zero (by omega), List.take_zero]
    · intro c hc
      rw [inputSlice_getElem?, hc]
    · rintro rfl
      exact (length_inputSlice_of_end area.width input).symm
  · intro h
    rw [hslice]
    refine ⟨?_, ?_, ?_⟩
    · intro k c hc column hpos hfits
      exact symbol?_drawInput h input cursor hc hpos rfl hfits
    · intro hwidth hbefore
      rw [hs hwidth] at hbefore ⊢
      refine ⟨?_, ?_⟩
      · intro c hc hpos hfits
        exact symbol?_inputCursor h input cursor hwidth hbefore hc hpos hfits
      · intro hend
        exact cell?_inputCursor_of_end h input cursor hwidth hbefore hend
    · intro hnarrow
      refine ⟨?_, ?_, ?_⟩
      · intro k c hc
        exact symbol?_drawInput_of_narrow h input cursor hnarrow hc
      · intro k hk hlt
        exact cell?_drawInput_of_narrow h input cursor hnarrow hk hlt
      · intro hwidth
        refine ⟨?_, ?_⟩
        · intro c hc
          exact symbol?_inputCursor_of_narrow h input cursor hnarrow hwidth hc
        · intro hend
          exact cell?_inputCursor_of_narrow h input cursor hnarrow hwidth hend
  · intro e width height field frame hwidth hbound hheight hnarrow c hc
    rw [flatMap_chars_inputLine] at hnarrow
    exact symbol?_frame_cursor hwidth hbound hheight hnarrow hc

/-- The end of a line of seventy thousand characters, in the last five columns there are; the line
    drawn at the edge of a screen, with the cursor on its last character; and a frame. -/
theorem input_line_keeps_cursor_of_long_line :
    let area : Area := ⟨65530, 0, 5, 3⟩
    let input := List.replicate 70000 '7'
    let slice := (inputLine area.width 70000 input).flatMap Span.chars
    let edge : Area := ⟨19995, 0, 5, 3⟩
    let drawn := drawInput edge input 69999 (Canvas.blank 20000 3)
    let e := (Explorer.run { outputPath := "tree.dot" } {}
      (Explorer.KeyPress.typing "1+2" ++ [⟨.left, {}⟩])).1
    let frame := e.frame 20 10
    70000 ≤ input.length ∧ 3 ≤ area.width ∧ area.x + area.width < UInt16.size ∧
      (inputColumn area.width 70000).toNat = 70000 - inputSkip area.width 70000 ∧
      slice.length ≤ 3 ∧ (inputCursor area 70000).1 ≤ 65533 ∧
      (inputCursor area 70000).1 - 65530 - 1 = slice.length ∧
      drawn.symbol? (inputCursor edge 69999).1 1 = some "7" ∧
      frame.canvas.symbol? frame.cursor.1 frame.cursor.2 = some "2" := by
  intro area input slice edge drawn e frame
  have hinput : input.length = 70000 := List.length_replicate
  have hcursor : 70000 ≤ input.length := Nat.le_of_eq hinput.symm
  have hfits : area.x + area.width < UInt16.size := by decide
  obtain ⟨-, hcolumn, hshown, -, hframe⟩ :=
    input_line_keeps_cursor_on_character area (Canvas.blank 0 0) input 70000
  obtain ⟨hlength, -, -, hright, -, -, hend⟩ := hshown hcursor (by decide) hfits
  have hroom : HasRoom edge (Canvas.blank 20000 3) :=
    ⟨by decide, by decide, by decide, by decide⟩
  have hnarrow : ∀ c ∈ (inputLine edge.width 69999 input).flatMap Span.chars, IsNarrow c := by
    intro c hc
    rw [flatMap_chars_inputLine] at hc
    rw [List.eq_of_mem_replicate (List.mem_of_mem_drop (List.mem_of_mem_take hc))]
    exact ⟨by decide, by decide⟩
  obtain ⟨-, -, -, hdrawn, -⟩ :=
    input_line_keeps_cursor_on_character edge (Canvas.blank 20000 3) input 69999
  obtain ⟨-, -, hplace⟩ := (hdrawn hroom).2.2 hnarrow
  have hlast : input[69999]? = some '7' := List.getElem?_replicate_of_lt (by decide)
  have hseven := (hplace (by decide)).1 '7' hlast
  have htyped : ((inputLine (Layout.ofSize 20 10).input.width e.line.cursor e.line.chars).flatMap
      Span.chars).all (IsNarrow ·) = true := by decide +kernel
  have htwo := hframe e 20 10 (by decide) (by decide) (by decide)
    (fun c hc => of_decide_eq_true (List.all_eq_true.mp htyped c hc)) '2' (by decide +kernel)
  exact ⟨hcursor, by decide, hfits, (hcolumn (by decide)).2, hlength, hright, hend hinput.symm,
    hseven, htwo⟩

/-- A character of double width takes the columns of two: here the one before the cursor fills the
    line, and the cursor stands on its right half.  The character at the cursor is not seen at
    all. -/
theorem input_line_loses_wide_character :
    let area : Area := ⟨0, 0, 4, 3⟩
    let input := ['日', '本', '語']
    let drawn := drawInput area input 2 (Canvas.blank 4 3)
    input[2]? = some '語' ∧ inputCursor area 2 = (2, 1) ∧
      (drawn.rows[1]?.map fun row => row.map Cell.symbol) = some ["│", "本", " ", "│"] ∧
      ∀ x < 4, ∀ y < 3, drawn.symbol? x y ≠ some "語" := by
  decide +kernel

end View

end BraceArith
