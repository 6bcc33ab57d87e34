import BraceArith.Screen.Canvas
import Mathlib.Tactic.Common

/-!
# Cells of a canvas

Everything drawn on a canvas is drawn by changing one cell after the other, so that one law about a
single change says what can be read afterwards.  Two relations carry it to whole drawings: a drawing
changes no other cells than some, and what it makes of a row depends on that row alone.

## Main definitions

- `Canvas.cell?`: the cell in a column of a row
- `Canvas.ChangesOnly`: what is left alone from one canvas to another
- `Canvas.DrawsRow`: a drawing that has to do with one row only
- `Canvas.columns`: the columns that the clusters of a line take

## Main statements

- `Canvas.cell?_drawLine`: where a cluster of a line is shown
- `Canvas.changesOnly_border`: a frame leaves its inside alone
- `Canvas.cell?_drawLines`: a row of several lines is drawn like its line alone
-/

namespace BraceArith.Screen.Canvas

/-! ## §1 Reading a cell -/

/-- The cell in column `x` of row `y`, if there is one. -/
def cell? (c : Canvas) (x y : Nat) : Option Cell :=
  if x < c.width then c.cells[y * c.width + x]? else none

/-- What the cell in column `x` of row `y` shows. -/
def symbol? (c : Canvas) (x y : Nat) : Option String :=
  (c.cell? x y).map Cell.symbol

theorem isSome_cell? {c : Canvas} {x y : Nat} (hx : x < c.width) (hy : y < c.height) :
    (c.cell? x y).isSome = true := by
  have hrow : (y + 1) * c.width ≤ c.height * c.width := Nat.mul_le_mul_right _ hy
  rw [cell?, if_pos hx, Option.isSome_iff_ne_none, ne_eq, Array.getElem?_eq_none_iff,
    c.size_cells, Nat.mul_comm c.width]
  rw [Nat.add_mul] at hrow
  omega

theorem place_inj {width x x' y y' : Nat} (hx : x < width) (hx' : x' < width)
    (h : y * width + x = y' * width + x') : x = x' ∧ y = y' := by
  have hcolumn := congrArg (· % width) h
  simp only [Nat.mul_add_mod_of_lt hx, Nat.mul_add_mod_of_lt hx'] at hcolumn
  subst hcolumn
  have hpos : 0 < width := Nat.lt_of_le_of_lt (Nat.zero_le x) hx
  exact ⟨rfl, Nat.eq_of_mul_eq_mul_right hpos (Nat.add_right_cancel h)⟩

section

variable (c : Canvas) (x y : Nat) (f : Cell → Cell)

theorem width_modify : (c.modify x y f).width = c.width := by
  unfold modify
  split <;> rfl

theorem height_modify : (c.modify x y f).height = c.height := by
  unfold modify
  split <;> rfl

/-- A change is seen in its own cell alone. -/
theorem cell?_modify (x' y' : Nat) :
    (c.modify x y f).cell? x' y' =
      if x' = x ∧ y' = y then (c.cell? x' y').map f else c.cell? x' y' := by
  unfold modify
  split
  next hx =>
    simp only [cell?]
    by_cases hx' : x' < c.width
    · simp only [if_pos hx', Array.getElem?_modify]
      by_cases hplace : x' = x ∧ y' = y
      · obtain ⟨rfl, rfl⟩ := hplace
        simp
      · rw [if_neg hplace, if_neg]
        intro h
        obtain ⟨rfl, rfl⟩ := place_inj hx hx' h
        exact hplace ⟨rfl, rfl⟩
    · simp [if_neg hx']
  next hx =>
    -- There is no such cell, neither to be changed nor to be read.
    split
    next hplace => simp [cell?, hplace.1, hx]
    next => rfl

end

/-! ## §2 What is left alone -/

/-- From one canvas to the other, the size is kept, and no other cells change than those of `P`. -/
structure ChangesOnly (P : Nat → Nat → Prop) (c c' : Canvas) : Prop where
  width_eq : c'.width = c.width
  height_eq : c'.height = c.height
  cell?_eq : ∀ x y, ¬ P x y → c'.cell? x y = c.cell? x y

namespace ChangesOnly

variable {P Q : Nat → Nat → Prop} {c c' c'' : Canvas}

theorem refl (c : Canvas) : ChangesOnly P c c :=
  ⟨rfl, rfl, fun _ _ _ => rfl⟩

theorem trans (h : ChangesOnly P c c') (h' : ChangesOnly P c' c'') : ChangesOnly P c c'' where
  width_eq := h'.width_eq.trans h.width_eq
  height_eq := h'.height_eq.trans h.height_eq
  cell?_eq x y hxy := (h'.cell?_eq x y hxy).trans (h.cell?_eq x y hxy)

theorem mono (h : ChangesOnly P c c') (hPQ : ∀ x y, P x y → Q x y) : ChangesOnly Q c c' where
  width_eq := h.width_eq
  height_eq := h.height_eq
  cell?_eq x y hxy := h.cell?_eq x y fun hP => hxy (hPQ x y hP)

theorem foldl {α : Type} {f : Canvas → α → Canvas} {items : List α}
    (h : ∀ c, ∀ item ∈ items, ChangesOnly P c (f c item)) (c : Canvas) :
    ChangesOnly P c (items.foldl f c) := by
  induction items generalizing c with
  | nil => exact .refl c
  | cons item items ih =>
    have hfirst := h c item List.mem_cons_self
    apply hfirst.trans
    exact ih (fun c item hmem => h c item (List.mem_cons_of_mem _ hmem)) (f c item)

end ChangesOnly

section

variable {P : Nat → Nat → Prop}

theorem changesOnly_modify {x y : Nat} (h : P x y) (c : Canvas) (f : Cell → Cell) :
    ChangesOnly P c (c.modify x y f) where
  width_eq := c.width_modify x y f
  height_eq := c.height_modify x y f
  cell?_eq x' y' hxy := by
    rw [cell?_modify, if_neg]
    rintro ⟨rfl, rfl⟩
    exact hxy h

theorem changesOnly_putAll {places : List (Nat × Nat)} (h : ∀ place ∈ places, P place.1 place.2)
    (c : Canvas) (symbol : String) (style : Style) :
    ChangesOnly P c (c.putAll places symbol style) :=
  .foldl (fun c place hmem => changesOnly_modify (h place hmem) c _) c

theorem changesOnly_restyle (h : ∀ x y, P x y) (c : Canvas) (area : Area) (style : Style) :
    ChangesOnly P c (c.restyle area style) := by
  apply ChangesOnly.foldl
  intro c dy _
  apply ChangesOnly.foldl
  intro c dx _
  exact changesOnly_modify (h _ _) c _

/-- Clusters change the cells that they start in, those that cover no cell change none. -/
theorem changesOnly_putClusters {x y : Nat} {placed : List (Nat × List Char × Style)}
    (h : ∀ item ∈ placed, Text.textWidth item.2.1 ≠ 0 → P (x + item.1) y) (c : Canvas) :
    ChangesOnly P c (c.putClusters x y placed) := by
  apply ChangesOnly.foldl
  intro c item hmem
  simp only
  split
  next => exact .refl c
  next hwidth => exact changesOnly_modify (h item hmem hwidth) c _

end

/-! ## §3 One row at a time -/

/-- Two canvases of the same width agree on row `y`. -/
structure SameRow (y : Nat) (c c' : Canvas) : Prop where
  width_eq : c'.width = c.width
  cell?_eq : ∀ x, c'.cell? x y = c.cell? x y

/-- The drawing changes no other row than `y`, and what it makes of that row depends on nothing but
    the row. -/
structure DrawsRow (y : Nat) (draw : Canvas → Canvas) : Prop where
  changesOnly : ∀ c, ChangesOnly (fun _ y' => y' = y) c (draw c)
  sameRow : ∀ {c c'}, SameRow y c c' → SameRow y (draw c) (draw c')

namespace DrawsRow

variable {y : Nat} {draw draw' : Canvas → Canvas}

theorem id : DrawsRow y fun c => c :=
  ⟨.refl, fun h => h⟩

theorem comp (h' : DrawsRow y draw') (h : DrawsRow y draw) : DrawsRow y fun c => draw' (draw c) :=
  ⟨fun c => (h.changesOnly c).trans (h'.changesOnly _), fun hc => h'.sameRow (h.sameRow hc)⟩

theorem ite {p : Prop} [Decidable p] (h : DrawsRow y draw) (h' : DrawsRow y draw') :
    DrawsRow y fun c => if p then draw c else draw' c := by
  by_cases hp : p
  · simpa only [if_pos hp] using h
  · simpa only [if_neg hp] using h'

theorem foldl {α : Type} {f : Canvas → α → Canvas} {items : List α}
    (h : ∀ item ∈ items, DrawsRow y (f · item)) : DrawsRow y fun c => items.foldl f c := by
  induction items with
  | nil => exact .id
  | cons item items ih =>
    have hfirst := h item List.mem_cons_self
    exact (ih fun item hmem => h item (List.mem_cons_of_mem _ hmem)).comp hfirst

end DrawsRow

section

variable (y : Nat)

theorem drawsRow_modify (x : Nat) (f : Cell → Cell) : DrawsRow y fun c => c.modify x y f where
  changesOnly c := changesOnly_modify (by rfl) c f
  sameRow h := by
    refine ⟨by simp only [width_modify, h.width_eq], ?_⟩
    intro x'
    simp only [cell?_modify, h.cell?_eq]

theorem drawsRow_erase (x count : Nat) : DrawsRow y fun c => c.erase x y count :=
  .foldl fun _ _ => drawsRow_modify y _ _

theorem drawsRow_putClusters (x : Nat) (placed : List (Nat × List Char × Style)) :
    DrawsRow y fun c => c.putClusters x y placed :=
  .foldl fun _ _ => .ite .id (drawsRow_modify y _ _)

theorem drawsRow_drawClusters (start right : Nat) (style : Style) (x : Nat) (first : Bool)
    (clusters : List (List Char)) :
    DrawsRow y fun c => drawClusters y start right style c x first clusters := by
  induction clusters generalizing x first with
  | nil => exact .id
  | cons cluster clusters ih =>
    simp only [drawClusters]
    refine .ite .id (.comp (ih _ _) (.comp (drawsRow_erase y _ _) ?_))
    -- Whichever way the cluster is shown, one cell changes.
    exact .ite (drawsRow_modify y _ _) (.ite (drawsRow_modify y _ _)
      (.ite (drawsRow_modify y _ _) (drawsRow_modify y _ _)))

theorem drawsRow_drawSpans (right x : Nat) (line : Line) :
    DrawsRow y fun c => drawSpans y right c x line := by
  induction line generalizing x with
  | nil => exact .id
  | cons span line ih =>
    simp only [drawSpans]
    exact .ite (ih x) (.ite .id (.comp (ih _) (drawsRow_drawClusters y _ _ _ _ _ _)))

end

theorem drawsRow_drawRow (area : Area) (flow : Flow) (row : Nat) (line : Line) :
    DrawsRow (area.y + row) fun c => c.drawRow area flow row line := by
  cases flow with
  | clusters => exact drawsRow_putClusters _ _ _
  | spans =>
    -- Where the spans end depends on the canvas, but on its width only.
    refine ⟨fun c => (drawsRow_drawSpans _ _ _ line).changesOnly c, ?_⟩
    intro c c' h
    simp only [drawRow, h.width_eq]
    exact (drawsRow_drawSpans _ _ _ line).sameRow h

/-! ## §4 What a line shows -/

/-- Number of columns that clusters take in an area of the given width.  One that is wider than the
    area is left out. -/
def columns (width : Nat) : List (List Char × Style) → Nat
  | [] => 0
  | (cluster, _) :: rest =>
    (if width < Text.textWidth cluster then 0 else Text.textWidth cluster) + columns width rest

section

variable {width column : Nat}

/-- What stands behind clusters that fit is fitted into the columns left. -/
theorem fit_append {before : List (List Char × Style)}
    (h : column + columns width before ≤ width) (after : List (List Char × Style)) :
    fit width column (before ++ after) =
      fit width column before ++ fit width (column + columns width before) after := by
  induction before generalizing column with
  | nil => rfl
  | cons item before ih =>
    simp only [columns] at h
    simp only [List.cons_append, fit, columns]
    by_cases hwide : width < Text.textWidth item.1
    -- Left out, it takes no columns either.
    · simp only [if_pos hwide, Nat.zero_add] at h ⊢
      exact ih h
    · rw [if_neg hwide] at h
      have hfits : ¬ width < column + Text.textWidth item.1 := by omega
      simp only [if_neg hwide, if_neg hfits, List.cons_append]
      rw [ih (by omega), Nat.add_assoc]

/-- A cluster that fits stands between the column it was to start from and the columns taken. -/
theorem bounds_of_mem_fit {clusters : List (List Char × Style)} {item : Nat × List Char × Style}
    (h : item ∈ fit width column clusters) :
    column ≤ item.1 ∧ item.1 + Text.textWidth item.2.1 ≤ column + columns width clusters := by
  induction clusters generalizing column with
  | nil => simp [fit] at h
  | cons first clusters ih =>
    simp only [fit] at h
    simp only [columns]
    split at h
    next hwide =>
      rw [if_pos hwide, Nat.zero_add]
      exact ih h
    next hwide =>
      rw [if_neg hwide]
      split at h
      next => simp at h
      next =>
        rcases List.mem_cons.mp h with rfl | h
        · exact ⟨Nat.le_refl _, by simp only; omega⟩
        · have hrest := ih h
          omega

end

section

variable (c : Canvas) (x y : Nat) {before after : List (Nat × List Char × Style)} {column : Nat}
  {cluster : List Char} {style : Style}

theorem putClusters_append :
    c.putClusters x y (before ++ after) = (c.putClusters x y before).putClusters x y after :=
  List.foldl_append

theorem putClusters_cons (hpos : 0 < Text.textWidth cluster) :
    c.putClusters x y ((column, cluster, style) :: after) =
      (c.put (x + column) y (String.ofList cluster) style).putClusters x y after := by
  simp only [putClusters, List.foldl_cons, if_neg (Nat.ne_of_gt hpos)]

/-- A cluster is seen in its column, unless another one starts there too. -/
theorem cell?_putClusters (hpos : 0 < Text.textWidth cluster)
    (hbefore : ∀ item ∈ before, Text.textWidth item.2.1 ≠ 0 → item.1 ≠ column)
    (hafter : ∀ item ∈ after, Text.textWidth item.2.1 ≠ 0 → item.1 ≠ column) :
    (c.putClusters x y (before ++ (column, cluster, style) :: after)).cell? (x + column) y =
      (c.cell? (x + column) y).map fun cell => ⟨String.ofList cluster, style.layer cell.style⟩ := by
  -- The clusters on either side leave the cell alone.
  have hkeeps (placed : List (Nat × List Char × Style))
      (h : ∀ item ∈ placed, Text.textWidth item.2.1 ≠ 0 → item.1 ≠ column) (c : Canvas) :
      (c.putClusters x y placed).cell? (x + column) y = c.cell? (x + column) y := by
    have hothers : ChangesOnly (fun x' _ => x' ≠ x + column) c (c.putClusters x y placed) :=
      changesOnly_putClusters (fun item hmem hw heq => h item hmem hw (Nat.add_left_cancel heq)) c
    exact hothers.cell?_eq _ _ (not_not_intro rfl)
  rw [putClusters_append, putClusters_cons _ _ _ hpos, hkeeps after hafter, put, cell?_modify,
    if_pos ⟨rfl, rfl⟩, hkeeps before hbefore]

end

section

variable (c : Canvas) (area : Area) (row : Nat) {line : Line}

theorem drawLine_left :
    c.drawLine area row line =
      c.putClusters area.x (area.y + row) (fit area.width 0 line.clusters) := rfl

/-- A cluster is shown behind the columns that the clusters before it take. -/
theorem cell?_drawLine {before after : List (List Char × Style)} {cluster : List Char}
    {style : Style} (hline : line.clusters = before ++ (cluster, style) :: after)
    (hpos : 0 < Text.textWidth cluster)
    (hfits : columns area.width before + Text.textWidth cluster ≤ area.width) :
    (c.drawLine area row line).cell? (area.x + columns area.width before) (area.y + row) =
      (c.cell? (area.x + columns area.width before) (area.y + row)).map
        fun cell => ⟨String.ofList cluster, style.layer cell.style⟩ := by
  have hplaced : fit area.width 0 line.clusters =
      fit area.width 0 before ++ (columns area.width before, cluster, style) ::
        fit area.width (columns area.width before + Text.textWidth cluster) after := by
    rw [hline, fit_append (by omega), Nat.zero_add, fit, if_neg (by omega), if_neg (by omega)]
  rw [drawLine_left, hplaced]
  apply cell?_putClusters c _ _ hpos
  -- The clusters before it end where it starts, those after it start where it ends.
  · intro item hmem hwidth
    have hbounds := bounds_of_mem_fit hmem
    omega
  · intro item hmem _
    have hbounds := bounds_of_mem_fit hmem
    omega

theorem symbol?_drawLine {before after : List (List Char × Style)} {cluster : List Char}
    {style : Style} (hline : line.clusters = before ++ (cluster, style) :: after)
    (hpos : 0 < Text.textWidth cluster)
    (hfits : columns area.width before + Text.textWidth cluster ≤ area.width)
    (hx : area.x + columns area.width before < c.width) (hy : area.y + row < c.height) :
    (c.drawLine area row line).symbol? (area.x + columns area.width before) (area.y + row) =
      some (String.ofList cluster) := by
  obtain ⟨cell, hcell⟩ := Option.isSome_iff_exists.mp (isSome_cell? hx hy)
  rw [symbol?, cell?_drawLine c area row hline hpos hfits, hcell]
  rfl

/-- A line leaves the cells behind its columns alone. -/
theorem cell?_drawLine_of_le {x : Nat} (h : columns area.width line.clusters ≤ x) (y : Nat) :
    (c.drawLine area row line).cell? (area.x + x) y = c.cell? (area.x + x) y := by
  have hothers : ChangesOnly (fun x' _ => x' < area.x + x) c (c.drawLine area row line) := by
    rw [drawLine_left]
    apply changesOnly_putClusters
    intro item hmem hwidth
    have hbounds := bounds_of_mem_fit hmem
    omega
  exact hothers.cell?_eq _ _ (Nat.lt_irrefl _)

end

/-! ## §5 Frames -/

/-- The cell is in the area, but not on its edge. -/
def Inside (area : Area) (x y : Nat) : Prop :=
  (area.x < x ∧ x + 1 < area.x + area.width) ∧ area.y < y ∧ y + 1 < area.y + area.height

/-- A frame changes nothing but the edge of what is on the canvas. -/
theorem changesOnly_border (c : Canvas) (area : Area) (title : String) (style : Style) :
    ChangesOnly (fun x y => ¬ Inside (c.clip area) x y) c (c.border area title style) := by
  simp only [border]
  generalize c.clip area = area
  have hleft (y : Nat) : ¬ Inside area area.x y := fun h => Nat.lt_irrefl _ h.1.1
  have htop (x : Nat) : ¬ Inside area x area.y := fun h => Nat.lt_irrefl _ h.2.1
  split
  · exact .refl c
  next hempty =>
    simp only [Area.isEmpty, Bool.or_eq_true, decide_eq_true_eq] at hempty
    have hright (y : Nat) : ¬ Inside area (area.x + area.width - 1) y := by
      unfold Inside
      omega
    have hbottom (x : Nat) : ¬ Inside area x (area.y + area.height - 1) := by
      unfold Inside
      omega
    have htitle (c : Canvas) (width : Nat) (line : Line) :
        ChangesOnly (fun x y => ¬ Inside area x y) c
          (c.drawLine ⟨area.x + 1, area.y, width, 1⟩ 0 line) := by
      apply ((drawsRow_drawRow ⟨area.x + 1, area.y, width, 1⟩ .clusters 0 line).changesOnly c).mono
      rintro x _ rfl
      exact htop x
    -- From the title, drawn last, over the corners to the sides.
    refine .trans ?_ (htitle _ _ _)
    refine .trans ?_ (changesOnly_modify (htop _) _ _)
    refine .trans ?_ (changesOnly_modify (hbottom _) _ _)
    refine .trans ?_ (changesOnly_modify (htop _) _ _)
    refine .trans ?_ (changesOnly_modify (hbottom _) _ _)
    refine .trans ?_ (changesOnly_putAll (List.forall_mem_map.mpr fun x _ => hbottom x) _ _ _)
    refine .trans ?_ (changesOnly_putAll (List.forall_mem_map.mpr fun y _ => hright y) _ _ _)
    refine .trans ?_ (changesOnly_putAll (List.forall_mem_map.mpr fun x _ => htop x) _ _ _)
    exact changesOnly_putAll (List.forall_mem_map.mpr fun y _ => hleft y) c _ _

/-! ## §6 Several lines -/

section

variable (area : Area) (flow : Flow)

theorem changesOnly_rows (lines : List Line) (first : Nat) (c : Canvas) :
    ChangesOnly (fun _ y => area.y + first ≤ y) c
      ((lines.zipIdx first).foldl (fun c (line, row) => c.drawRow area flow row line) c) := by
  apply ChangesOnly.foldl
  rintro c ⟨line, row⟩ hmem
  apply ((drawsRow_drawRow area flow row line).changesOnly c).mono
  rintro _ _ rfl
  exact Nat.add_le_add_left (List.le_snd_of_mem_zipIdx hmem) area.y

/-- Of the lines drawn from row `first` on, each one is seen in its row as if it stood alone. -/
theorem cell?_rows {lines : List Line} {line : Line} {row : Nat} (h : lines[row]? = some line)
    (first : Nat) (c : Canvas) (x : Nat) :
    ((lines.zipIdx first).foldl (fun c (line, row) => c.drawRow area flow row line) c).cell? x
        (area.y + (first + row)) =
      (c.drawRow area flow (first + row) line).cell? x (area.y + (first + row)) := by
  induction lines generalizing first row c with
  | nil => simp at h
  | cons head lines ih =>
    rw [List.zipIdx_cons, List.foldl_cons]
    cases row with
    | zero =>
      obtain rfl : head = line := by simpa using h
      -- The lines below leave the row alone.
      exact (changesOnly_rows area flow lines (first + 1) _).cell?_eq _ _ (by omega)
    | succ row =>
      rw [List.getElem?_cons_succ] at h
      have hshift : first + (row + 1) = first + 1 + row := by omega
      rw [hshift, ih h]
      -- The first line has left the row alone.
      have hhead := (drawsRow_drawRow area flow first head).changesOnly c
      have hsame : SameRow (area.y + (first + 1 + row)) c (c.drawRow area flow first head) :=
        ⟨hhead.width_eq, fun x => hhead.cell?_eq _ _ (by omega)⟩
      exact ((drawsRow_drawRow area flow _ line).sameRow hsame).cell?_eq x

variable {area} in
/-- A row of several lines is drawn like its line alone. -/
theorem cell?_drawLines {lines : List Line} {line : Line} {row : Nat} (hwidth : 0 < area.width)
    (hrow : row < area.height) (h : lines[row]? = some line) (c : Canvas) (x : Nat) :
    (c.drawLines area lines flow).cell? x (area.y + row) =
      (c.drawRow area flow row line).cell? x (area.y + row) := by
  have hempty : ¬ area.isEmpty = true := by
    simp only [Area.isEmpty, Bool.or_eq_true, decide_eq_true_eq]
    omega
  have hshown : (lines.take area.height)[row]? = some line := by
    rwa [List.getElem?_take_of_lt hrow]
  have hrows := cell?_rows area flow hshown 0 c x
  rw [Nat.zero_add] at hrows
  rw [drawLines, if_neg hempty]
  exact hrows

theorem changesOnly_drawLines (c : Canvas) (lines : List Line) :
    ChangesOnly (fun _ y => area.y ≤ y) c (c.drawLines area lines flow) := by
  unfold drawLines
  split
  · exact .refl c
  · exact changesOnly_rows area flow _ 0 c

end

end BraceArith.Screen.Canvas
