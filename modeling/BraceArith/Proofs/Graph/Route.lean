import BraceArith.Proofs.Expr.Drawing
import BraceArith.Proofs.Graph.Numbering
import Mathlib.Data.List.Nodup

/-!
# The drawing and the graph description show the same nodes

The drawing of a tree tells how deep a node lies by the width of its guide, the graph description
by the links that lead to the node.  Both count the same thing.  Read as a graph, a description has
exactly one route from its root to each of its nodes, because every node but the root has one
parent and links lead to larger numbers only; and each link of that route is one side of the path
that the drawing's guide was made from.

## Main definitions

- `Declares`, `Linked`: what the lines of a text say about nodes
- `Route`: a way along links

## Main statements

- `text_mem_lines_document_iff`: the lines of a document are its statements
- `Route.unique`: with one parent for each node there is one route at most
- `exists_route_numbered`: a route as long as the node's path
-/

namespace BraceArith.Graph

/-! ## §1 What the lines of a text say -/

/-- A line of the text declares node `id` with the given label. -/
def Declares (text : String) (id : Nat) (label : String) : Prop :=
  (Statement.node id label).text.toList ∈ Text.lines text

/-- A line of the text links `parent` to `child`. -/
def Linked (text : String) (parent child : Nat) : Prop :=
  (Statement.edge parent child).text.toList ∈ Text.lines text

theorem head?_text (s : Statement) : s.text.toList.head? = some ' ' := by
  cases s with
  | node id label => simp [toList_text_node]
  | edge parent child => simp [toList_text_edge]

theorem text_mem_lines_document_iff (t : Expr) (s : Statement) :
    s.text.toList ∈ Text.lines (document t) ↔ s ∈ body t := by
  -- Statements are indented; header and footer are not.
  have hheader : s.text.toList ≠ header.toList := by
    intro h
    exact absurd (h ▸ head?_text s) (by decide)
  have hfooter : s.text.toList ≠ footer.toList := by
    intro h
    exact absurd (h ▸ head?_text s) (by decide)
  simp only [lines_document_eq, List.mem_cons, List.mem_append, List.mem_map, List.not_mem_nil,
    hheader, hfooter, false_or, or_false]
  constructor
  · rintro ⟨s', hmem, htext⟩
    rwa [← text_injective (String.toList_inj.mp htext)]
  · intro hmem
    exact ⟨s, hmem, rfl⟩

theorem mem_links_iff {ss : List Statement} {parent child : Nat} :
    (parent, child) ∈ links ss ↔ .edge parent child ∈ ss := by
  rw [links, List.mem_filterMap]
  constructor
  · rintro ⟨s, hmem, hlink⟩
    cases s with
    | node id label => cases hlink
    | edge parent' child' =>
      cases hlink
      exact hmem
  · intro hmem
    exact ⟨_, hmem, rfl⟩

theorem mem_declarations_iff {ss : List Statement} {id : Nat} {label : String} :
    (id, label) ∈ declarations ss ↔ .node id label ∈ ss := by
  rw [declarations, List.mem_filterMap]
  constructor
  · rintro ⟨s, hmem, hdeclared⟩
    cases s with
    | node id' label' =>
      cases hdeclared
      exact hmem
    | edge parent child => cases hdeclared
  · intro hmem
    exact ⟨_, hmem, rfl⟩

theorem linked_document_iff (t : Expr) (parent child : Nat) :
    Linked (document t) parent child ↔ (parent, child) ∈ links (body t) := by
  rw [Linked, text_mem_lines_document_iff, mem_links_iff]

theorem declaration_at_place {t : Expr} {j id : Nat} {label : String}
    (h : (declarations (body t))[j]? = some (id, label)) :
    id = j ∧ t.preorder[j]?.map Expr.label = some label := by
  have hid := congrArg (·[j]?) (declaredIds_numbered t 0)
  have hlabel := congrArg (·[j]?) (labels_numbered t 0)
  rw [← body] at hid hlabel
  simp only [declaredIds, List.getElem?_map, h, Option.map_some] at hid hlabel
  obtain ⟨hj, hget⟩ := List.getElem?_eq_some_iff.mp hid.symm
  rw [List.getElem_range'] at hget
  exact ⟨by omega, hlabel.symm⟩

/-- A document declares each node with its own label and no other. -/
theorem declares_document_iff {t node : Expr} {i : Nat} (h : t.preorder[i]? = some node)
    (label : String) : Declares (document t) i label ↔ label = node.label := by
  rw [Declares, text_mem_lines_document_iff, ← mem_declarations_iff]
  constructor
  · intro hmem
    obtain ⟨j, hj⟩ := List.mem_iff_getElem?.mp hmem
    obtain ⟨rfl, hlabel⟩ := declaration_at_place hj
    simpa [h] using hlabel.symm
  · rintro rfl
    have hi : i < (declarations (body t)).length := by
      rw [← List.length_map Prod.snd, body, labels_numbered, List.length_map, Expr.length_preorder]
      exact Expr.lt_nodeCount_of_preorder h
    have hget := List.getElem?_eq_getElem hi
    obtain ⟨hid, hlabel⟩ := declaration_at_place hget
    rw [h, Option.map_some, Option.some.injEq] at hlabel
    rw [← hid, hlabel]
    exact List.getElem_mem hi

/-! ## §2 Routes -/

/-- A way from `start` to a node along links; `via` has the nodes that the links lead to. -/
inductive Route (linked : Nat → Nat → Prop) (start : Nat) : Nat → List Nat → Prop
  | stay : Route linked start start []
  | step {k next : Nat} {via : List Nat} :
      Route linked start k via → linked k next → Route linked start next (via ++ [next])

section

variable {linked linked' : Nat → Nat → Prop} {start : Nat}

theorem Route.mono (hle : ∀ a b, linked a b → linked' a b) {k : Nat} {via : List Nat}
    (h : Route linked start k via) : Route linked' start k via := by
  induction h with
  | stay => exact .stay
  | step _ hlink ih => exact .step ih (hle _ _ hlink)

theorem Route.cons {first k : Nat} {via : List Nat} (hlink : linked start first)
    (h : Route linked first k via) : Route linked start k (first :: via) := by
  induction h with
  | stay => exact .step .stay hlink
  | step _ hnext ih => exact .step ih hnext

/-- If nothing leads to the start and every node has one parent, there is one route at most. -/
theorem Route.unique (hstart : ∀ k, ¬ linked k start)
    (hparent : ∀ a b c, linked a c → linked b c → a = b) {k : Nat} {via via' : List Nat}
    (h : Route linked start k via) (h' : Route linked start k via') : via = via' := by
  induction h generalizing via' with
  | stay =>
    cases h' with
    | stay => rfl
    | step _ hlink => exact absurd hlink (hstart _)
  | step _ hlink ih =>
    cases h' with
    | stay => exact absurd hlink (hstart _)
    | step hroute hlink' =>
      obtain rfl := hparent _ _ _ hlink hlink'
      rw [ih hroute]

end

/-! ## §3 Routes of a tree -/

/-- From the root to the node at a place there is a route with a link for each side of the node's
    path. -/
theorem exists_route_numbered {t : Expr} {k : Nat} {path : List Side} (i : Nat)
    (h : t.paths[k]? = some path) :
    ∃ via, Route (fun a b => (a, b) ∈ links (numbered i t)) i (i + k) via ∧
      via.length = path.length := by
  induction t generalizing i k path with
  | literal value =>
    obtain ⟨rfl, rfl⟩ : k = 0 ∧ path = [] := by
      cases k with
      | zero => exact ⟨rfl, (Option.some.inj h).symm⟩
      | succ k => cases h
    exact ⟨[], .stay, rfl⟩
  | binary op l r ihl ihr =>
    cases k with
    | zero =>
      cases h
      exact ⟨[], .stay, rfl⟩
    | succ k =>
      rw [Expr.paths_binary_succ] at h
      -- The first link leads to the operand's root, the others are links of the operand.
      split at h
      next hk =>
        obtain ⟨below, hbelow, rfl⟩ := Option.map_eq_some_iff.mp h
        obtain ⟨via, hroute, hlength⟩ := ihl (i + 1) hbelow
        refine ⟨(i + 1) :: via, .cons (by simp [numbered]) ?_, by simp [hlength]⟩
        rw [show i + (k + 1) = i + 1 + k by omega]
        apply hroute.mono
        intro a b hlink
        simp [numbered, hlink]
      next hk =>
        obtain ⟨below, hbelow, rfl⟩ := Option.map_eq_some_iff.mp h
        obtain ⟨via, hroute, hlength⟩ := ihr (i + 1 + l.nodeCount) hbelow
        refine ⟨(i + 1 + l.nodeCount) :: via, .cons (by simp [numbered]) ?_, by simp [hlength]⟩
        rw [show i + (k + 1) = i + 1 + l.nodeCount + (k - l.nodeCount) by omega]
        apply hroute.mono
        intro a b hlink
        simp [numbered, hlink]

theorem parent_unique {t : Expr} {i a b child : Nat} (ha : (a, child) ∈ links (numbered i t))
    (hb : (b, child) ∈ links (numbered i t)) : a = b := by
  have hnodup : ((links (numbered i t)).map Prod.snd).Nodup := by
    have hall := (targets_numbered_perm t i).nodup_iff.mpr List.nodup_range'
    exact (List.nodup_cons.mp hall).2
  have hsame : (a, child) = (b, child) := List.inj_on_of_nodup_map hnodup ha hb rfl
  exact congrArg Prod.fst hsame

/-- Drawing and graph description show the same nodes.  For every node of the tree, counted in
    depth-first order, the drawing has a line that ends in a label, and this is the one label that
    a line of the graph description declares for the node's number.  Along the links that lines of
    the description make, there is exactly one route from node zero to the node, and before the
    label stand four characters for each of its links. -/
theorem drawing_agrees_with_document (t : Expr) (i : Fin t.nodeCount) :
    ∃ indent label via,
      t.drawing[i.val]? = some (indent ++ label) ∧
      (∀ label', Declares (document t) i label' ↔ label' = label) ∧
      (∀ via', Route (Linked (document t)) 0 i via' ↔ via' = via) ∧
      indent.length = 4 * via.length := by
  have hi : i.val < t.paths.length := by
    rw [Expr.length_paths]
    exact i.isLt
  have hpath := List.getElem?_eq_getElem hi
  obtain ⟨node, -, hnode, hline⟩ := Expr.drawing_getElem? hpath
  obtain ⟨via, hvia, hlength⟩ := exists_route_numbered 0 hpath
  have hroute : Route (Linked (document t)) 0 i via := by
    rw [Nat.zero_add] at hvia
    apply hvia.mono
    intro a b hlink
    exact (linked_document_iff t a b).mpr hlink
  refine ⟨_, _, via, hline, declares_document_iff hnode, ?_, by rw [length_guide, hlength]⟩
  intro via'
  constructor
  · intro hroute'
    refine Route.unique ?_ ?_ hroute' hroute
    · intro k hlink
      have hbounds := bounds_of_mem_links ((linked_document_iff t k 0).mp hlink)
      omega
    · intro a b c ha hb
      exact parent_unique ((linked_document_iff t a c).mp ha) ((linked_document_iff t b c).mp hb)
  · rintro rfl
    exact hroute

end BraceArith.Graph
