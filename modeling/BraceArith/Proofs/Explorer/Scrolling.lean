import BraceArith.Proofs.Explorer.Drawing
import BraceArith.Proofs.Explorer.Output
import BraceArith.Proofs.Screen.Cells

/-!
# Scrolled panes show full windows

Keys move a scroll offset without looking at what there is to show, and a submission sends the
history's offset as far as it goes.  Each drawing pulls the offsets back to where the last window
is full.  So what counts is an offset as it is after a drawing: the window that starts there is as
long as lines and rows allow, drawing once more finds nothing to pull back, and with a drawing
before every key the offset moves like a counter that stops at both ends.

## Main definitions

- `View.Pane.content?`: the lines that a pane scrolls over
- `View.Pane.framed`: a pane without its lines
- `Explorer.pane`, `Explorer.handed`: a pane by its name, and the lines it shows
- `Explorer.drawnBefore`: key presses with a drawing before each of them and one at the end
- `Explorer.counter`: a counter that stops at both ends

## Main statements

- `View.Pane.shown_eq`, `View.Pane.length_shown`: the window
- `View.Pane.getLast?_shown`: far enough down, the window ends with the last line
- `View.Pane.cell?_draw`: the rows of a drawn pane are the lines of its window
- `Explorer.offset_play_drawnBefore`: drawn offsets move like the counter
-/

namespace BraceArith

/-! ## §1 Windows -/

theorem View.visibleRows_pos (rows : Nat) : 0 < View.visibleRows rows := by
  unfold View.visibleRows
  omega

namespace View.Pane

/-- The lines that the pane scrolls over, unless it shows a remark. -/
def content? (p : Pane) : Option (List Screen.Line) :=
  match p.body with
  | .remark _ => none
  | .lines _ _ content => some content

section

variable {p : Pane} {content : List Screen.Line}

theorem exists_body_eq (h : p.content? = some content) :
    ∃ indent flow, p.body = .lines indent flow content := by
  unfold content? at h
  cases hbody : p.body with
  | remark text => simp [hbody] at h
  | lines indent flow lines =>
    simp only [hbody, Option.some.injEq] at h
    exact ⟨indent, flow, by rw [h]⟩

theorem settledOffset_eq (h : p.content? = some content) (rows offset : Nat) :
    p.settledOffset rows offset = min offset (content.length - visibleRows rows) := by
  obtain ⟨indent, flow, hbody⟩ := exists_body_eq h
  simp [settledOffset, hbody, clampOffset]

theorem shown_eq (h : p.content? = some content) (rows offset : Nat) :
    p.shown rows offset =
      (content.drop (p.settledOffset rows offset)).take (visibleRows rows) := by
  obtain ⟨indent, flow, hbody⟩ := exists_body_eq h
  simp [shown, hbody, window]

/-- A window is as long as lines and rows allow. -/
theorem length_shown (h : p.content? = some content) (rows offset : Nat) :
    (p.shown rows offset).length = min content.length (visibleRows rows) := by
  rw [shown_eq h, List.length_take, List.length_drop, settledOffset_eq h]
  omega

theorem shown_eq_take_min (h : p.content? = some content) (rows offset : Nat) :
    p.shown rows offset =
      (content.drop (p.settledOffset rows offset)).take
        (min content.length (visibleRows rows)) := by
  rw [← length_shown h rows offset, shown_eq h, List.length_take, List.take_eq_take_iff]
  omega

theorem shown_getElem? (h : p.content? = some content) (rows offset : Nat) {row : Nat}
    (hrow : row < visibleRows rows) :
    (p.shown rows offset)[row]? = content[p.settledOffset rows offset + row]? := by
  rw [shown_eq h, List.getElem?_take_of_lt hrow, List.getElem?_drop]

/-- From far enough down, the window ends with the last line. -/
theorem getLast?_shown (h : p.content? = some content) {rows offset : Nat}
    (hdown : content.length - visibleRows rows ≤ offset) :
    (p.shown rows offset).getLast? = content.getLast? := by
  have hrows := visibleRows_pos rows
  have hsettled : p.settledOffset rows offset = content.length - visibleRows rows := by
    rw [settledOffset_eq h]
    exact Nat.min_eq_right hdown
  rw [shown_eq h, hsettled, List.take_of_length_le (by rw [List.length_drop]; omega),
    List.getLast?_drop]
  cases content with
  | nil => rfl
  | cons line lines =>
    rw [if_neg]
    simp only [List.length_cons]
    omega

end

/-! ## §2 Drawing -/

theorem settledOffset_zero (p : Pane) (rows : Nat) : p.settledOffset rows 0 = 0 := by
  unfold settledOffset
  split
  · rfl
  · exact Nat.zero_min _

theorem settledOffset_settledOffset (p : Pane) (rows offset : Nat) :
    p.settledOffset rows (p.settledOffset rows offset) = p.settledOffset rows offset := by
  unfold settledOffset
  split
  · rfl
  · simp [clampOffset]

theorem shown_settledOffset (p : Pane) (rows offset : Nat) :
    p.shown rows (p.settledOffset rows offset) = p.shown rows offset := by
  unfold shown
  rw [settledOffset_settledOffset]

theorem draw_settledOffset (p : Pane) (area : Screen.Area) (offset : Nat) :
    p.draw area (p.settledOffset area.height offset) = p.draw area offset := by
  unfold draw
  rw [shown_settledOffset]

/-- Number of columns that are left free behind the border. -/
def indent (p : Pane) : Nat :=
  match p.body with
  | .remark _ => 0
  | .lines indent _ _ => indent

/-- How the lines are laid out. -/
def flow (p : Pane) : Screen.Canvas.Flow :=
  match p.body with
  | .remark _ => .clusters
  | .lines _ flow _ => flow

/-- The pane drawn without its lines. -/
def framed (p : Pane) (area : Screen.Area) (canvas : Screen.Canvas) : Screen.Canvas :=
  let ground :=
    match p.body with
    | .remark _ => canvas.restyle area (.ink Palette.comment)
    | .lines _ _ _ => canvas
  ground.border area p.title (Palette.border p.focused)

section

variable (p : Pane) (area : Screen.Area) (offset : Nat) (canvas : Screen.Canvas)

theorem draw_eq :
    p.draw area offset canvas =
      (p.framed area canvas).drawLines (area.inside p.indent) (p.shown area.height offset)
        p.flow := by
  unfold draw framed indent flow
  cases p.body <;> rfl

/-- Drawing keeps the size of the canvas. -/
theorem changesOnly_draw :
    Screen.Canvas.ChangesOnly (fun _ _ => True) canvas (p.draw area offset canvas) := by
  have hlines := Screen.Canvas.changesOnly_drawLines (area.inside p.indent) p.flow
    (p.framed area canvas) (p.shown area.height offset)
  rw [draw_eq]
  refine .trans ?_ (hlines.mono fun _ _ _ => trivial)
  refine .trans ?_ ((Screen.Canvas.changesOnly_border _ area _ _).mono fun _ _ _ => trivial)
  cases p.body with
  | remark text => exact Screen.Canvas.changesOnly_restyle (fun _ _ => trivial) canvas area _
  | lines indent flow content => exact .refl canvas

/-- In each row inside the border stands its line of the window, drawn as if it stood alone. -/
theorem cell?_draw {row : Nat} {line : Screen.Line}
    (hline : (p.shown area.height offset)[row]? = some line) (hrow : row + 2 < area.height)
    (hwidth : p.indent + 2 < area.width) (x : Nat) :
    (p.draw area offset canvas).cell? x (area.y + 1 + row) =
      ((p.framed area canvas).drawRow (area.inside p.indent) p.flow row line).cell? x
        (area.y + 1 + row) := by
  have hinside : 0 < (area.inside p.indent).width := by
    simp only [Screen.Area.inside]
    omega
  rw [draw_eq]
  exact Screen.Canvas.cell?_drawLines p.flow hinside (Nat.lt_sub_of_add_lt hrow) hline _ x

end

end View.Pane

namespace Explorer

open View

/-! ## §3 The panes of an explorer -/

/-- The pane of an explorer with the given name. -/
def pane (e : Explorer) : Focus → Pane
  | .tree => e.treePane
  | .graph => e.graphPane
  | .history => e.historyPane

/-- Height of the pane with the given name on a screen of the given size. -/
def paneHeight (width height : Nat) : Focus → Nat
  | .tree => (Layout.ofSize width height).tree.height
  | .graph => (Layout.ofSize width height).graph.height
  | .history => (Layout.ofSize width height).history.height

/-- The offset of the pane with the given name. -/
def Offsets.get (o : Offsets) : Focus → Nat
  | .tree => o.tree
  | .graph => o.graph
  | .history => o.history

/-- The lines that a pane is given to show on a screen of the given size. -/
def handed (e : Explorer) (width height : Nat) (f : Focus) : List Screen.Line :=
  (e.pane f).shown (paneHeight width height f) (e.offsets.get f)

theorem content?_tree (e : Explorer) :
    (e.pane .tree).content? = e.history.latest?.map entryLines := by
  unfold pane treePane View.treePane Pane.content?
  cases e.history.latest? <;> rfl

theorem content?_graph (e : Explorer) :
    (e.pane .graph).content? =
      e.graphShown?.map fun dot => (Text.lines dot).map highlight := by
  unfold pane graphPane View.graphPane Pane.content?
  cases e.graphShown? <;> rfl

theorem content?_history (e : Explorer) :
    (e.pane .history).content? =
      if e.history.isEmpty then none else some (e.history.entries.map historyLine) := by
  unfold pane historyPane View.historyPane Pane.content?
  cases e.history.isEmpty <;> rfl

theorem focus_settle (e : Explorer) (width height : Nat) :
    (e.settle width height).focus = e.focus := rfl

theorem offset_settle (e : Explorer) (width height : Nat) (f : Focus) :
    (e.settle width height).offsets.get f =
      (e.pane f).settledOffset (paneHeight width height f) (e.offsets.get f) := by
  cases f <;> rfl

theorem settle_settle (e : Explorer) (width height : Nat) :
    (e.settle width height).settle width height = e.settle width height := by
  have hoffsets : (e.settle width height).settledOffsets width height =
      e.settledOffsets width height := by
    simp only [settledOffsets, Offsets.mk.injEq]
    exact ⟨e.treePane.settledOffset_settledOffset _ _, e.graphPane.settledOffset_settledOffset _ _,
      e.historyPane.settledOffset_settledOffset _ _⟩
  show { e.settle width height with
    offsets := (e.settle width height).settledOffsets width height } = _
  rw [hoffsets]
  rfl

/-- A second frame of the same size is the same frame. -/
theorem frame_settle (e : Explorer) (width height : Nat) :
    (e.settle width height).frame width height = e.frame width height := by
  have htree := e.treePane.draw_settledOffset (Layout.ofSize width height).tree e.offsets.tree
  have hgraph := e.graphPane.draw_settledOffset (Layout.ofSize width height).graph e.offsets.graph
  have hhistory :=
    e.historyPane.draw_settledOffset (Layout.ofSize width height).history e.offsets.history
  simp only [frame, settle, settledOffsets]
  rw [← htree, ← hgraph, ← hhistory]
  rfl

theorem pane_of_sameButOffsets {e e' : Explorer} (h : SameButOffsets e e') (f : Focus) :
    e'.pane f = e.pane f := by
  obtain ⟨offsets, rfl⟩ := h.exists_eq
  cases f <;> rfl

/-! ## §4 After a submission -/

/-- With the offset as far as it goes, the list of lines ends with the newest one. -/
theorem getLast?_handed_history {e : Explorer} (hne : e.history.isEmpty = false)
    (hlength : e.history.length ≤ UInt64.size) (hoffset : e.offsets.history = offsetLimit)
    (width height : Nat) :
    (e.handed width height .history).getLast? = e.history.latest?.map historyLine := by
  have hcontent : (e.pane .history).content? = some (e.history.entries.map historyLine) := by
    rw [content?_history, hne]
    rfl
  rw [History.length] at hlength
  rw [handed, Pane.getLast?_shown hcontent, List.getLast?_map, History.latest?]
  have hrows := visibleRows_pos (paneHeight width height .history)
  simp only [Offsets.get, hoffset, offsetLimit, List.length_map]
  omega

theorem settle_submit {e : Explorer} (disk : Disk) (hblank : Text.isBlankLine e.line.text = false)
    (hlength : e.history.length < UInt64.size) (width height : Nat) :
    ((e.submit disk).1.settle width height).offsets.tree = 0 ∧
      ((e.submit disk).1.settle width height).offsets.graph = 0 ∧
      ((e.submit disk).1.handed width height .history).getLast? =
        some (historyLine ⟨e.line.text, e.history.outcomeOf e.line.text⟩) := by
  rw [submit_of_not_blank disk hblank]
  refine ⟨Pane.settledOffset_zero _ _, Pane.settledOffset_zero _ _, ?_⟩
  rw [getLast?_handed_history (by simp [accept, History.submit, History.isEmpty]) ?_ rfl]
  · simp only [accept, History.latest?_submit, Option.map_some]
  · simp only [accept, History.submit, History.length, List.length_append, List.length_singleton]
    exact hlength

/-! ## §5 Scrolling -/

/-- Whether the press is one of the two that scroll. -/
def isScroll (p : KeyPress) : Bool :=
  p.key = .pageUp || p.key = .pageDown

/-- A counter from zero to `limit` after a press that scrolls. -/
def counter (limit : Nat) (c : Nat) (p : KeyPress) : Nat :=
  match p.key with
  | .pageUp => c - 1
  | .pageDown => min (c + 1) limit
  | _ => c

/-- The presses with a drawing before each of them, and a drawing at the end. -/
def drawnBefore (width height : Nat) : List KeyPress → List Event
  | [] => [.draw width height]
  | p :: presses => .draw width height :: .press p :: drawnBefore width height presses

theorem key_of_isScroll {p : KeyPress} (hp : isScroll p = true) :
    p.key = .pageUp ∨ p.key = .pageDown := by
  simpa [isScroll] using hp

@[simp] theorem Offsets.get_modify (o : Offsets) (move : Nat → Nat) (f : Focus) :
    (o.modify move f).get f = move (o.get f) := by
  cases f <;> rfl

/-- A key that scrolls moves the offset of the pane in focus without regard to its lines. -/
theorem press_scroll {p : KeyPress} (hp : isScroll p = true) (e : Explorer) (disk : Disk) :
    SameButOffsets e (e.press disk p).1 ∧
      (e.press disk p).1.offsets.get e.focus =
        counter offsetLimit (e.offsets.get e.focus) p := by
  rcases key_of_isScroll hp with hkey | hkey
  · have hpress : (e.press disk p).1 =
        { e with offsets := e.offsets.modify (· - 1) e.focus } := by
      simp [press, KeyPress.isControl, handle, hkey]
    rw [hpress]
    exact ⟨.withOffsets e _, by simp [counter, hkey]⟩
  · have hpress : (e.press disk p).1 =
        { e with offsets := e.offsets.modify (fun o => min (o + 1) offsetLimit) e.focus } := by
      simp [press, KeyPress.isControl, handle, hkey]
    rw [hpress]
    exact ⟨.withOffsets e _, by simp [counter, hkey]⟩

/-- What such a key does, seen after the next drawing. -/
theorem min_counter {limit : Nat} (hle : limit ≤ offsetLimit) {p : KeyPress}
    (hp : isScroll p = true) {c : Nat} (hc : c ≤ limit) :
    min (counter offsetLimit c p) limit = counter limit c p := by
  rcases key_of_isScroll hp with hkey | hkey
  · simp only [counter, hkey]
    omega
  · simp only [counter, hkey]
    omega

section

variable {e : Explorer} {content : List Screen.Line} {width height limit : Nat}

theorem offset_settle_eq (hcontent : (e.pane e.focus).content? = some content)
    (hlimit : content.length - visibleRows (paneHeight width height e.focus) = limit) :
    (e.settle width height).offsets.get e.focus = min (e.offsets.get e.focus) limit := by
  rw [offset_settle, Pane.settledOffset_eq hcontent, hlimit]

/-- Drawn offsets move like a counter that stops at zero and at the last full window. -/
theorem offset_play_drawnBefore (hcontent : (e.pane e.focus).content? = some content)
    (hlimit : content.length - visibleRows (paneHeight width height e.focus) = limit)
    (hle : limit ≤ offsetLimit) {scrolls : List KeyPress}
    (hscrolls : ∀ p ∈ scrolls, isScroll p = true) (disk : Disk) :
    SameButOffsets e (e.play disk (drawnBefore width height scrolls)).1 ∧
      (e.play disk (drawnBefore width height scrolls)).1.offsets.get e.focus =
        scrolls.foldl (counter limit) (min (e.offsets.get e.focus) limit) := by
  induction scrolls generalizing e disk with
  | nil => exact ⟨.settle e width height, offset_settle_eq hcontent hlimit⟩
  | cons p scrolls ih =>
    have hp : isScroll p = true := hscrolls p List.mem_cons_self
    obtain ⟨hsame, hmoved⟩ := press_scroll hp (e.settle width height) disk
    rw [focus_settle, offset_settle_eq hcontent hlimit] at hmoved
    -- Neither the drawing nor the key changes what there is to show.
    have hsame' := (SameButOffsets.settle e width height).trans hsame
    have hfocus := hsame'.focus_eq
    have hrest := ih (e := ((e.settle width height).press disk p).1)
      (by rw [pane_of_sameButOffsets hsame', hfocus, hcontent]) (by rw [hfocus, hlimit])
      (fun q hq => hscrolls q (List.mem_cons_of_mem p hq)) ((e.settle width height).press disk p).2
    rw [hfocus] at hrest
    -- The next drawing pulls back what the key has moved.
    have hnext : min (((e.settle width height).press disk p).1.offsets.get e.focus) limit =
        counter limit (min (e.offsets.get e.focus) limit) p := by
      rw [hmoved]
      exact min_counter hle hp (Nat.min_le_right _ _)
    rw [hnext] at hrest
    exact ⟨hsame'.trans hrest.1, hrest.2⟩

/-! ## §6 Every line can be reached -/

theorem counter_up (limit c n : Nat) :
    (List.replicate n ⟨.pageUp, {}⟩).foldl (counter limit) c = c - n := by
  induction n generalizing c with
  | zero => rfl
  | succ n ih =>
    rw [List.replicate_succ, List.foldl_cons, ih]
    simp only [counter]
    omega

theorem counter_down {limit c : Nat} (hc : c ≤ limit) (n : Nat) :
    (List.replicate n ⟨.pageDown, {}⟩).foldl (counter limit) c = min (c + n) limit := by
  induction n generalizing c with
  | zero => exact (Nat.min_eq_left hc).symm
  | succ n ih =>
    have hnext : counter limit c ⟨.pageDown, {}⟩ = min (c + 1) limit := rfl
    rw [List.replicate_succ, List.foldl_cons, hnext, ih (Nat.min_le_right _ _)]
    omega

/-- All the way up, then down to the wanted place. -/
def scrollTo (c place : Nat) : List KeyPress :=
  List.replicate c ⟨.pageUp, {}⟩ ++ List.replicate place ⟨.pageDown, {}⟩

theorem isScroll_of_mem_scrollTo {c place : Nat} {p : KeyPress} (h : p ∈ scrollTo c place) :
    isScroll p = true := by
  rcases List.mem_append.mp h with h | h
  · rw [List.eq_of_mem_replicate h]
    rfl
  · rw [List.eq_of_mem_replicate h]
    rfl

theorem counter_scrollTo (limit c place : Nat) :
    (scrollTo c place).foldl (counter limit) c = min place limit := by
  rw [scrollTo, List.foldl_append, counter_up, Nat.sub_self, counter_down (Nat.zero_le limit),
    Nat.zero_add]

theorem exists_handed_eq (hcontent : (e.pane e.focus).content? = some content)
    (hlength : content.length < UInt64.size) {j : Nat} {line : Screen.Line}
    (hline : content[j]? = some line) (disk : Disk) :
    ∃ scrolls, (∀ p ∈ scrolls, isScroll p = true) ∧
      ∃ row : Nat,
        (e.play disk (drawnBefore width height scrolls)).1.offsets.get e.focus + row = j ∧
        ((e.play disk (drawnBefore width height scrolls)).1.handed width height e.focus)[row]? =
          some line := by
  have hj : j < content.length := (List.getElem?_eq_some_iff.mp hline).1
  have hrows := visibleRows_pos (paneHeight width height e.focus)
  obtain ⟨limit, hlimit⟩ :
      ∃ limit, content.length - visibleRows (paneHeight width height e.focus) = limit := ⟨_, rfl⟩
  have hle : limit ≤ offsetLimit := by
    unfold offsetLimit
    omega
  refine ⟨scrollTo (min (e.offsets.get e.focus) limit) j, fun p => isScroll_of_mem_scrollTo,
    j - min j limit, ?_⟩
  obtain ⟨hsame, hoffset⟩ :=
    offset_play_drawnBefore hcontent hlimit hle (fun p => isScroll_of_mem_scrollTo) disk
  rw [counter_scrollTo] at hoffset
  -- The window starts at the line, or it is the last one and the line is in it.
  have hsettled : (e.pane e.focus).settledOffset (paneHeight width height e.focus) (min j limit) =
      min j limit := by
    rw [Pane.settledOffset_eq hcontent, hlimit]
    omega
  have hplace : min j limit + (j - min j limit) = j := Nat.add_sub_of_le (Nat.min_le_left j limit)
  refine ⟨by rw [hoffset, hplace], ?_⟩
  rw [handed, pane_of_sameButOffsets hsame, hoffset,
    Pane.shown_getElem? hcontent _ _ (by omega), hsettled, hplace, hline]

end

/-- Scrolled panes show full windows.  The tree pane scrolls over what is said about the newest
    entry, the graph pane over the lines of its graph description, the history pane over the list
    of entries, if there are any.

    Drawn with any number of rows and any offset, a pane with content pulls its offset back to the
    last full window and shows as many lines from there on as lines and rows allow; drawing again
    with the same size changes neither, nor the frame.  After a submission, drawing shows the
    newest entry at the end of the list and leaves tree and graph at their top.  With a drawing
    before every key, the keys that scroll move the offset of the pane in focus like a counter
    from zero to the last full window, and every line of the pane can be brought into view.
    Offsets are numbers of 64 bits, and so is each number of lines that an offset has to reach.
    The lines shown are the ones drawn: the rows inside the border of a pane are the lines of its
    window, from the top on, each drawn as if it were the only one. -/
theorem panes_show_full_windows (e : Explorer) (disk : Disk) (width height : Nat) :
    (e.pane .tree).content? = e.history.latest?.map entryLines ∧
    (e.pane .graph).content? =
      e.graphShown?.map (fun dot => (Text.lines dot).map highlight) ∧
    (e.pane .history).content? =
      (if e.history.isEmpty then none else some (e.history.entries.map historyLine)) ∧
    (∀ (p : Pane) content, p.content? = some content → ∀ rows offset,
      let visible := max 1 (rows - 2)
      let settled := min offset (content.length - visible)
      p.settledOffset rows offset = settled ∧
      p.shown rows offset = (content.drop settled).take (min content.length visible) ∧
      (p.shown rows offset).length = min content.length visible ∧
      p.settledOffset rows settled = settled ∧
      p.shown rows settled = p.shown rows offset) ∧
    (e.settle width height).settle width height = e.settle width height ∧
    (e.settle width height).frame width height = e.frame width height ∧
    (∀ p, p.key = .enter → Text.isBlankLine e.line.text = false →
      e.history.length < UInt64.size →
      let submitted := (e.press disk p).1
      (submitted.settle width height).offsets.tree = 0 ∧
      (submitted.settle width height).offsets.graph = 0 ∧
      ∃ entry, submitted.history.latest? = some entry ∧ entry.input = e.line.text ∧
        (submitted.handed width height .history).getLast? = some (historyLine entry)) ∧
    (∀ content, (e.pane e.focus).content? = some content → content.length < UInt64.size →
      let limit := content.length - max 1 (paneHeight width height e.focus - 2)
      (∀ scrolls, (∀ p ∈ scrolls, isScroll p = true) →
        (e.play disk (drawnBefore width height scrolls)).1.offsets.get e.focus =
          scrolls.foldl (counter limit) (min (e.offsets.get e.focus) limit)) ∧
      (∀ (j : Nat) line, content[j]? = some line →
        ∃ scrolls, (∀ p ∈ scrolls, isScroll p = true) ∧
          let drawn := (e.play disk (drawnBefore width height scrolls)).1
          ∃ row : Nat, drawn.offsets.get e.focus + row = j ∧
            (drawn.handed width height e.focus)[row]? = some line)) ∧
    (∀ (p : Pane) (area : Screen.Area) (offset : Nat) (canvas : Screen.Canvas) (row : Nat) line,
      (p.shown area.height offset)[row]? = some line → row + 2 < area.height →
      p.indent + 2 < area.width → ∀ x,
        (p.draw area offset canvas).cell? x (area.y + 1 + row) =
          ((p.framed area canvas).drawRow (area.inside p.indent) p.flow row line).cell? x
            (area.y + 1 + row)) := by
  refine ⟨e.content?_tree, e.content?_graph, e.content?_history, ?_, e.settle_settle width height,
    e.frame_settle width height, ?_, ?_, ?_⟩
  · intro p content hcontent rows offset visible settled
    have hsettled : p.settledOffset rows offset = settled := Pane.settledOffset_eq hcontent _ _
    refine ⟨hsettled, ?_, Pane.length_shown hcontent _ _, ?_, ?_⟩
    · rw [Pane.shown_eq_take_min hcontent, hsettled]
      rfl
    · rw [← hsettled, Pane.settledOffset_settledOffset]
    · rw [← hsettled, Pane.shown_settledOffset]
  · intro p hp hblank hlength submitted
    have hsubmitted : submitted = (e.submit disk).1 := congrArg Prod.fst (press_of_enter hp e disk)
    obtain ⟨htree, hgraph, hlast⟩ := settle_submit disk hblank hlength width height
    rw [hsubmitted]
    refine ⟨htree, hgraph, _, ?_, ?_, hlast⟩
    · rw [submit_of_not_blank disk hblank]
      exact History.latest?_submit _ _
    · rfl
  · intro content hcontent hlength limit
    have hle : limit ≤ offsetLimit := by
      have hsub : limit ≤ content.length := Nat.sub_le _ _
      unfold offsetLimit
      omega
    refine ⟨?_, ?_⟩
    · intro scrolls hscrolls
      exact (offset_play_drawnBefore hcontent rfl hle hscrolls disk).2
    · intro j line hline
      exact exists_handed_eq hcontent hlength hline disk
  · intro p area offset canvas row line hline hrow hwidth x
    exact p.cell?_draw area offset canvas hline hrow hwidth x

/-- Seven lines about a small tree, four of them in view: five presses move the window by three.
    A second line is ready to be submitted meanwhile. -/
theorem panes_show_full_windows_on_small_screen :
    let enter : KeyPress := ⟨.enter, {}⟩
    let e := (run { outputPath := "tree.dot" } {}
      (KeyPress.typing "1+2" ++ [enter] ++ KeyPress.typing "3-")).1
    let scrolls : List KeyPress := List.replicate 5 ⟨.pageDown, {}⟩
    Text.isBlankLine e.line.text = false ∧ e.history.length < UInt64.size ∧
      (∃ entry, entry.input = "3-" ∧
        ((e.press {} enter).1.handed 40 10 .history).getLast? = some (historyLine entry)) ∧
      (∃ content, (e.pane e.focus).content? = some content ∧ content.length = 7) ∧
      (e.play {} (drawnBefore 40 10 scrolls)).1.offsets.get e.focus = 3 := by
  intro enter e scrolls
  have hwindows := panes_show_full_windows e {} 40 10
  obtain ⟨-, -, -, -, -, -, hsubmit, hscroll, -⟩ := hwindows
  have hblank : Text.isBlankLine e.line.text = false := by decide +kernel
  have hlength : e.history.length < UInt64.size := by decide +kernel
  obtain ⟨-, -, entry, -, hinput, hlast⟩ := hsubmit enter rfl hblank hlength
  have hlines : (e.pane e.focus).content?.map List.length = some 7 := by decide +kernel
  obtain ⟨content, hcontent, hseven⟩ := Option.map_eq_some_iff.mp hlines
  have hmoved := (hscroll content hcontent (by rw [hseven]; decide)).1 scrolls (by decide)
  refine ⟨hblank, hlength, ⟨entry, ?_, hlast⟩, ⟨content, hcontent, hseven⟩, ?_⟩
  · rw [hinput]
    decide +kernel
  · rw [hmoved, hseven]
    decide +kernel

end Explorer

end BraceArith
