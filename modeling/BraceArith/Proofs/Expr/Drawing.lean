import BraceArith.Expr.Drawing
import BraceArith.Proofs.Expr.Preorder
import BraceArith.Proofs.Graph.Injective
import Mathlib.Order.Bounds.Basic

/-!
# A drawing shows its tree

A drawing is written top down: the rails in front of a line grow with the way to its node, while
the lines of the left operand are put before those of the right one.  Turned around, each line
stands for itself.  A node has a path, the sides taken on the way from the root; the guide of its
line is made from the path alone, four characters a side, and behind it stands the node's label.

The way back is open too.  No label has a character that guides are made of, so a line says where
its guide ends; a guide says which path it was made from; and the paths of all nodes with their
labels say which tree they were taken from.

## Main definitions

- `Expr.paths`: the paths of the nodes, in depth-first order
- `Expr.subtree?`: the node that a path leads to
- `guide`: the guide of a node, from its path

## Main statements

- `Expr.drawing_eq_zipWith`: every line is a guide and a label
- `splitGuide_guide_append`, `guide_injective`: from a line to its path
- `Expr.drawing_eq_drawing_iff`: drawings are equal exactly for trees that are alike
-/

namespace BraceArith

/-! ## §1 Paths -/

namespace Expr

/-- The paths of the nodes, each as the sides taken from the root on, in depth-first order. -/
def paths : Expr → List (List Side)
  | literal _ => [[]]
  | binary _ l r => [] :: (l.paths.map (Side.left :: ·) ++ r.paths.map (Side.right :: ·))

/-- The node that a path leads to, as the subtree below it. -/
def subtree? : Expr → List Side → Option Expr
  | t, [] => some t
  | literal _, _ :: _ => none
  | binary _ l _, .left :: path => l.subtree? path
  | binary _ _ r, .right :: path => r.subtree? path

@[simp] theorem subtree?_nil (t : Expr) : t.subtree? [] = some t := by
  cases t <;> rfl

@[simp] theorem length_paths (t : Expr) : t.paths.length = t.nodeCount := by
  induction t with
  | literal _ => rfl
  | binary _ l r ihl ihr =>
    simp only [paths, List.length_cons, List.length_append, List.length_map, ihl, ihr, nodeCount]
    omega

theorem paths_binary_succ (op : Operator) (l r : Expr) (k : Nat) :
    (binary op l r).paths[k + 1]? =
      if k < l.nodeCount then l.paths[k]?.map (Side.left :: ·)
      else r.paths[k - l.nodeCount]?.map (Side.right :: ·) := by
  rw [paths, List.getElem?_cons_succ, List.getElem?_append, List.length_map, length_paths,
    List.getElem?_map, List.getElem?_map]

/-- The path at a place leads to the node at that place. -/
theorem map_subtree?_paths (t : Expr) : t.paths.map t.subtree? = t.preorder.map some := by
  induction t with
  | literal _ => rfl
  | binary op l r ihl ihr =>
    have hleft : (binary op l r).subtree? ∘ (Side.left :: ·) = l.subtree? := rfl
    have hright : (binary op l r).subtree? ∘ (Side.right :: ·) = r.subtree? := rfl
    simp [paths, preorder, hleft, hright, ihl, ihr]

theorem length_lt_depth_of_mem_paths {t : Expr} {path : List Side} (h : path ∈ t.paths) :
    path.length < t.depth := by
  induction t generalizing path with
  | literal _ =>
    rw [List.mem_singleton.mp h]
    exact depth_pos _
  | binary op l r ihl ihr =>
    simp only [paths, List.mem_cons, List.mem_append, List.mem_map] at h
    simp only [depth]
    rcases h with rfl | ⟨below, hbelow, rfl⟩ | ⟨below, hbelow, rfl⟩
    · simp only [List.length_nil]
      omega
    · have hlt := ihl hbelow
      simp only [List.length_cons]
      omega
    · have hlt := ihr hbelow
      simp only [List.length_cons]
      omega

/-- Some path goes down all the way. -/
theorem exists_mem_paths_length (t : Expr) : ∃ path ∈ t.paths, path.length + 1 = t.depth := by
  induction t with
  | literal _ => exact ⟨[], by simp [paths], rfl⟩
  | binary op l r ihl ihr =>
    -- The deeper operand has the longer path.
    rcases Nat.le_total r.depth l.depth with hle | hle
    · obtain ⟨path, hmem, hlength⟩ := ihl
      refine ⟨.left :: path, by simp [paths, hmem], ?_⟩
      simp only [List.length_cons, depth]
      omega
    · obtain ⟨path, hmem, hlength⟩ := ihr
      refine ⟨.right :: path, by simp [paths, hmem], ?_⟩
      simp only [List.length_cons, depth]
      omega

end Expr

/-! ## §2 Guides -/

/-- The guide of the node with the given path: nothing for the root; else four characters for each
    node on the way, from the top, and four for the node itself. -/
def guide : List Side → String
  | [] => ""
  | [.left] => "├── "
  | [.right] => "└── "
  | .left :: below => "│   " ++ guide below
  | .right :: below => "    " ++ guide below

theorem guide_singleton (side : Side) : guide [side] = side.branch := by
  cases side <;> rfl

theorem guide_cons_cons (side next : Side) (below : List Side) :
    guide (side :: next :: below) = side.rail ++ guide (next :: below) := by
  cases side <;> rfl

theorem Side.length_branch (side : Side) : side.branch.length = 4 := by
  cases side <;> rfl

theorem Side.length_rail (side : Side) : side.rail.length = 4 := by
  cases side <;> rfl

theorem Side.branch_injective {side side' : Side} (h : side.branch = side'.branch) :
    side = side' := by
  revert h
  cases side <;> cases side' <;> decide

theorem Side.rail_injective {side side' : Side} (h : side.rail = side'.rail) : side = side' := by
  revert h
  cases side <;> cases side' <;> decide

theorem length_guide (path : List Side) : (guide path).length = 4 * path.length := by
  induction path with
  | nil => rfl
  | cons side below ih =>
    cases below with
    | nil =>
      rw [guide_singleton]
      exact side.length_branch
    | cons next below =>
      rw [guide_cons_cons, String.length_append, side.length_rail, ih]
      simp only [List.length_cons]
      omega

/-- A guide determines the path that it was made from. -/
theorem guide_injective {path path' : List Side} (h : guide path = guide path') : path = path' := by
  have hlength : path.length = path'.length := by
    have h4 := congrArg String.length h
    rw [length_guide, length_guide] at h4
    omega
  induction path generalizing path' with
  | nil => exact (List.length_eq_zero_iff.mp hlength.symm).symm
  | cons side below ih =>
    obtain ⟨side', below', rfl⟩ := List.exists_cons_of_length_eq_add_one hlength.symm
    cases below with
    | nil =>
      obtain rfl : below' = [] := by simpa using hlength.symm
      rw [guide_singleton, guide_singleton] at h
      rw [Side.branch_injective h]
    | cons next below =>
      obtain ⟨next', more, rfl⟩ : ∃ next' more, below' = next' :: more := by
        cases below' with
        | nil => simp at hlength
        | cons next' more => exact ⟨next', more, rfl⟩
      -- Both guides go on after a rail, and all rails are equally long.
      rw [guide_cons_cons, guide_cons_cons] at h
      have hchars := congrArg String.toList h
      rw [String.toList_append, String.toList_append] at hchars
      have hrails : side.rail.toList.length = side'.rail.toList.length := by
        rw [String.length_toList, String.length_toList, side.length_rail, side'.length_rail]
      obtain ⟨hrail, hbelow⟩ := List.append_inj hchars hrails
      rw [Side.rail_injective (String.toList_inj.mp hrail),
        ih (String.toList_inj.mp hbelow) (by simpa using hlength)]

/-! ## §3 Where a guide ends -/

theorem isGuideChar_of_mem_guide {path : List Side} {c : Char} (h : c ∈ (guide path).toList) :
    isGuideChar c = true := by
  have hbranch : ∀ side : Side, ∀ c ∈ side.branch.toList, isGuideChar c = true := by
    intro side
    cases side <;> simp [Side.branch, isGuideChar]
  have hrail : ∀ side : Side, ∀ c ∈ side.rail.toList, isGuideChar c = true := by
    intro side
    cases side <;> simp [Side.rail, isGuideChar]
  induction path with
  | nil => simp [guide] at h
  | cons side below ih =>
    cases below with
    | nil =>
      rw [guide_singleton] at h
      exact hbranch side c h
    | cons next below =>
      rw [guide_cons_cons, String.toList_append] at h
      rcases List.mem_append.mp h with h | h
      · exact hrail side c h
      · exact ih h

theorem not_isGuideChar_of_toNat_lt {c : Char} (hblank : c ≠ ' ') (h : c.toNat < 128) :
    isGuideChar c = false := by
  have hlines : ∀ d ∈ ['│', '├', '└', '─'], ¬ d.toNat < 128 := by simp
  rw [Bool.eq_false_iff]
  intro hguide
  have hmem : c ∈ ['│', '├', '└', '─'] := by simpa [isGuideChar, hblank, or_assoc] using hguide
  exact hlines c hmem h

theorem not_isGuideChar_of_mem_label {t : Expr} {c : Char} (h : c ∈ t.label.toList) :
    isGuideChar c = false := by
  cases t with
  | literal value =>
    obtain ⟨hblank, hlt⟩ := Decimal.toNat_lt_of_isNumberChar (Decimal.isNumberChar_of_mem_text h)
    exact not_isGuideChar_of_toNat_lt hblank hlt
  | binary op l r =>
    have hsymbol : ∀ op : Operator, isGuideChar op.symbol = false := by
      intro op
      cases op <;> decide
    have hc : c = op.symbol := by simpa [Expr.label] using h
    rw [hc]
    exact hsymbol op

theorem splitGuide_of_label {label : List Char} (h : ∀ c ∈ label, isGuideChar c = false) :
    splitGuide label = ([], label) := by
  cases label with
  | nil => rfl
  | cons c rest => simp [splitGuide, h c List.mem_cons_self]

/-- A line falls into the guide and the label that it was made from. -/
theorem splitGuide_guide_append (path : List Side) (t : Expr) :
    splitGuide (guide path ++ t.label).toList = ((guide path).toList, t.label.toList) := by
  have hlabel := splitGuide_of_label fun c hc => not_isGuideChar_of_mem_label (t := t) hc
  simp only [splitGuide, Prod.mk.injEq] at hlabel ⊢
  rw [String.toList_append,
    List.takeWhile_append_of_pos fun c hc => isGuideChar_of_mem_guide hc,
    List.dropWhile_append_of_pos fun c hc => isGuideChar_of_mem_guide hc, hlabel.1, hlabel.2]
  exact ⟨List.append_nil _, rfl⟩

/-! ## §4 Lines -/

namespace Expr

/-- The lines of a tree that hangs on a side of its parent, below the given rails. -/
theorem branches_eq_zipWith (t : Expr) (rails : String) (side : Side) :
    (rails ++ side.branch ++ t.label) :: t.branches (rails ++ side.rail) =
      List.zipWith (fun path node => rails ++ guide (side :: path) ++ node.label) t.paths
        t.preorder := by
  induction t generalizing rails side with
  | literal _ => simp [branches, paths, preorder, guide_singleton]
  | binary op l r ihl ihr =>
    -- One rail more stands before both operands; it is the first part of their guides.
    have hguide : ∀ next below,
        rails ++ guide (side :: next :: below) = rails ++ side.rail ++ guide (next :: below) := by
      intro next below
      rw [guide_cons_cons, String.append_assoc]
    rw [branches, ihl, ihr, paths, preorder, List.zipWith_cons_cons,
      List.zipWith_append (by simp), List.zipWith_map_left, List.zipWith_map_left]
    simp only [hguide, guide_singleton]

/-- Every line of a drawing is its node's guide followed by its node's label. -/
theorem drawing_eq_zipWith (t : Expr) :
    t.drawing = List.zipWith (fun path node => guide path ++ node.label) t.paths t.preorder := by
  cases t with
  | literal _ => simp [drawing, branches, paths, preorder, guide]
  | binary op l r =>
    have hl := branches_eq_zipWith l "" .left
    have hr := branches_eq_zipWith r "" .right
    simp only [String.empty_append] at hl hr
    simp only [drawing, branches, paths, preorder, List.zipWith_cons_cons, guide,
      String.empty_append]
    rw [hl, hr, List.zipWith_append (by simp), List.zipWith_map_left, List.zipWith_map_left]

theorem length_drawing (t : Expr) : t.drawing.length = t.nodeCount :=
  t.length_branches ""

/-- The line at a place, from the path and the node at that place. -/
theorem drawing_getElem? {t : Expr} {i : Nat} {path : List Side} (h : t.paths[i]? = some path) :
    ∃ node, t.subtree? path = some node ∧ t.preorder[i]? = some node ∧
      t.drawing[i]? = some (guide path ++ node.label) := by
  have hleads : t.preorder[i]?.map some = some (t.subtree? path) := by
    rw [← List.getElem?_map, ← map_subtree?_paths, List.getElem?_map, h, Option.map_some]
  obtain ⟨node, hnode, hsubtree⟩ := Option.map_eq_some_iff.mp hleads
  refine ⟨node, hsubtree.symm, hnode, ?_⟩
  rw [drawing_eq_zipWith, List.getElem?_zipWith, h, hnode]

/-! ## §5 From drawings to trees -/

theorem map_splitGuide_drawing (t : Expr) :
    t.drawing.map (fun line => splitGuide line.toList) =
      List.zip (t.paths.map fun path => (guide path).toList)
        (t.preorder.map fun node => node.label.toList) := by
  rw [drawing_eq_zipWith, List.map_zipWith, List.zip_map, List.zip, List.map_zipWith]
  simp only [splitGuide_guide_append]
  rfl

theorem paths_eq_of_drawing_eq {a b : Expr} (h : a.drawing = b.drawing) :
    a.paths = b.paths ∧ a.preorder.map label = b.preorder.map label := by
  have hzip := congrArg (List.map fun line : String => splitGuide line.toList) h
  rw [map_splitGuide_drawing, map_splitGuide_drawing] at hzip
  refine ⟨?_, ?_⟩
  · have hguides := congrArg (List.map Prod.fst) hzip
    rw [List.map_fst_zip (by simp), List.map_fst_zip (by simp)] at hguides
    refine (List.map_inj_right ?_).mp hguides
    intro path path' hchars
    exact guide_injective (String.toList_inj.mp hchars)
  · have hlabels := congrArg (List.map Prod.snd) hzip
    rw [List.map_snd_zip (by simp), List.map_snd_zip (by simp)] at hlabels
    have hchars : (a.preorder.map label).map String.toList =
        (b.preorder.map label).map String.toList := by
      rw [List.map_map, List.map_map]
      exact hlabels
    exact (List.map_inj_right fun _ _ => String.toList_inj.mp).mp hchars

/-- Paths that start on the left, then paths that start on the right: the border shows. -/
theorem sides_append_inj {x x' y y' : List (List Side)}
    (h : x.map (Side.left :: ·) ++ y.map (Side.right :: ·) =
      x'.map (Side.left :: ·) ++ y'.map (Side.right :: ·)) : x = x' ∧ y = y' := by
  induction x generalizing x' with
  | nil =>
    cases x' with
    | nil => exact ⟨rfl, (List.map_inj_right fun _ _ => List.tail_eq_of_cons_eq).mp h⟩
    | cons path x' => cases y <;> simp at h
  | cons path x ih =>
    cases x' with
    | nil => cases y' <;> simp at h
    | cons path' x' =>
      simp only [List.map_cons, List.cons_append, List.cons.injEq, true_and] at h
      obtain ⟨hx, hy⟩ := ih h.2
      exact ⟨by rw [h.1, hx], hy⟩

/-- The paths of the nodes and their labels determine the tree. -/
theorem alike_of_paths_eq {a b : Expr} (hpaths : a.paths = b.paths)
    (hlabels : a.preorder.map label = b.preorder.map label) : a.Alike b := by
  have hcount : a.nodeCount = b.nodeCount := by
    rw [← length_paths, ← length_paths, hpaths]
  induction a generalizing b with
  | literal x =>
    cases b with
    | literal y =>
      apply Alike.literal
      simpa [preorder, label] using hlabels
    | binary op l r =>
      have hpos := l.nodeCount_pos
      simp only [nodeCount] at hcount
      omega
  | binary op l r ihl ihr =>
    cases b with
    | literal y =>
      have hpos := l.nodeCount_pos
      simp only [nodeCount] at hcount
      omega
    | binary op' l' r' =>
      simp only [paths, List.cons.injEq, true_and] at hpaths
      obtain ⟨hleft, hright⟩ := sides_append_inj hpaths
      -- With as many nodes on the left, the labels fall apart at the same place.
      have hnodes : l.nodeCount = l'.nodeCount := by rw [← length_paths, ← length_paths, hleft]
      have hnodes' : r.nodeCount = r'.nodeCount := by rw [← length_paths, ← length_paths, hright]
      simp only [preorder, List.map_cons, List.map_append, List.cons.injEq] at hlabels
      obtain ⟨hop, hbelow⟩ := hlabels
      obtain ⟨hlabels, hlabels'⟩ := List.append_inj hbelow (by simp [hnodes])
      obtain rfl := Operator.symbol_toString_inj hop
      exact .binary (ihl hleft hlabels hnodes) (ihr hright hlabels' hnodes')

theorem Alike.label_eq {a b : Expr} (h : a.Alike b) : a.label = b.label := by
  cases h with
  | literal htext => exact htext
  | binary _ _ => rfl

theorem Alike.branches_eq {a b : Expr} (h : a.Alike b) (rails : String) :
    a.branches rails = b.branches rails := by
  induction h generalizing rails with
  | literal _ => rfl
  | binary hleft hright ihleft ihright =>
    simp only [branches, hleft.label_eq, hright.label_eq, ihleft, ihright]

theorem drawing_eq_drawing_iff {a b : Expr} : a.drawing = b.drawing ↔ a.Alike b := by
  constructor
  · intro h
    obtain ⟨hpaths, hlabels⟩ := paths_eq_of_drawing_eq h
    exact alike_of_paths_eq hpaths hlabels
  · intro h
    rw [drawing, drawing, h.label_eq, h.branches_eq]

theorem isGreatest_length_guide (t : Expr) :
    IsGreatest {n | ∃ path ∈ t.paths, (guide path).length = n} (4 * (t.depth - 1)) := by
  refine ⟨?_, ?_⟩
  · obtain ⟨path, hmem, hlength⟩ := t.exists_mem_paths_length
    exact ⟨path, hmem, by rw [length_guide]; omega⟩
  · rintro n ⟨path, hmem, rfl⟩
    have hlt := length_lt_depth_of_mem_paths hmem
    rw [length_guide]
    omega

/-- A drawing shows its tree.  It has one line for each node, and the line at a place is made from
    the node at that place of the depth-first order: the guide of the path that leads to the node,
    then the node's label.  The longest guide has four characters for each level below the root.

    No number's text has a blank or a box-drawing character, so that guides and labels can be told
    apart, and two trees have the same drawing exactly when they have the same shape, the same
    operators and numbers with the same text. -/
theorem drawing_shows_tree (t : Expr) :
    t.drawing.length = t.nodeCount ∧
    t.paths.length = t.nodeCount ∧
    (∀ (i : Nat) path, t.paths[i]? = some path →
      ∃ node, t.subtree? path = some node ∧ t.preorder[i]? = some node ∧
        t.drawing[i]? = some (guide path ++ node.label)) ∧
    IsGreatest {n | ∃ path ∈ t.paths, (guide path).length = n} (4 * (t.depth - 1)) ∧
    (∀ x, ∀ c ∈ (Decimal.text x).toList, c ≠ ' ' ∧ ¬ (0x2500 ≤ c.toNat ∧ c.toNat ≤ 0x257F)) ∧
    (∀ other : Expr, t.drawing = other.drawing ↔ t.Alike other) := by
  refine ⟨t.length_drawing, t.length_paths, ?_, t.isGreatest_length_guide, ?_, ?_⟩
  · intro i path hpath
    exact drawing_getElem? hpath
  · intro x c hc
    have hnumber := Decimal.isNumberChar_of_mem_text hc
    obtain ⟨hblank, hlt⟩ := Decimal.toNat_lt_of_isNumberChar hnumber
    exact ⟨hblank, by omega⟩
  · intro other
    exact drawing_eq_drawing_iff

end Expr

end BraceArith
