import BraceArith.Proofs.Expr.Preorder
import BraceArith.Proofs.Graph.Lines

/-!
# Numbers and links of an exported tree

The statements of a tree are written with a counter that hands out numbers while declarations and
links are interleaved.  A tree uses up exactly as many numbers as it has nodes, so the counter can
be left out: the node at place `k` of the depth-first order gets number `k`, counted from the
root's own number, and a right child comes behind the whole left subtree.

What the graph looks like is read off that form by induction on the tree: which nodes are declared
and in which order, which links leave a node and which lead to it, and that a link never mentions
a node before its declaration.

## Main definitions

- `numbered`: the statements of a tree, numbers computed from sizes
- `declarations`, `links`: what a list of statements declares and links, in order
- `LinksDeclared`: no link comes before the declarations of its ends

## Main statements

- `statements_eq_numbered`: the counter computes the numbers of `numbered`
- `linksFrom_numbered`: the links that leave a node
- `count_targets_numbered`: how many links lead to a node
-/

namespace BraceArith.Graph

/-! ## §1 Numbering without a counter -/

/-- The statements of a tree whose nodes are numbered from `i` on in depth-first order. -/
def numbered (i : Nat) : Expr → List Statement
  | t@(.literal _) => [.node i t.label]
  | t@(.binary _ left right) =>
    .node i t.label :: (numbered (i + 1) left ++ .edge i (i + 1) ::
      (numbered (i + 1 + left.nodeCount) right ++ [.edge i (i + 1 + left.nodeCount)]))

/-- A counter that starts right behind the root's number counts the nodes. -/
theorem statements_eq_numbered (t : Expr) (i : Nat) :
    statements i (i + 1) t = (numbered i t, i + t.nodeCount) := by
  induction t generalizing i with
  | literal _ => rfl
  | binary op left right ihleft ihright =>
    -- The left operand takes the numbers from `i + 1` on, the right one those behind.
    have hnext : i + 1 + left.nodeCount + right.nodeCount =
        i + (Expr.binary op left right).nodeCount := by
      simp only [Expr.nodeCount]
      omega
    simp only [statements, ihleft, ihright, numbered, hnext]
    simp

/-- The statements of a document, between its header and its footer. -/
def body (t : Expr) : List Statement :=
  numbered 0 t

theorem document_eq (t : Expr) :
    document t = header ++ "\n" ++ linesText (body t) ++ footer ++ "\n" := by
  rw [document, appendTo_eq, statements_eq_numbered t 0, body]

theorem lines_document_eq (t : Expr) :
    Text.lines (document t) =
      header.toList :: ((body t).map (·.text.toList) ++ [footer.toList]) := by
  rw [lines_document, statements_eq_numbered t 0, body]

/-! ## §2 Declarations -/

/-- The node and the label that a statement declares. -/
def Statement.declaration? : Statement → Option (Nat × String)
  | node id label => some (id, label)
  | edge _ _ => none

/-- The two ends of the link that a statement makes. -/
def Statement.link? : Statement → Option (Nat × Nat)
  | node _ _ => none
  | edge parent child => some (parent, child)

/-- The declared nodes with their labels, in order of appearance. -/
def declarations (ss : List Statement) : List (Nat × String) :=
  ss.filterMap Statement.declaration?

/-- The links, in order of appearance. -/
def links (ss : List Statement) : List (Nat × Nat) :=
  ss.filterMap Statement.link?

/-- The numbers of the declared nodes, in order of appearance. -/
def declaredIds (ss : List Statement) : List Nat :=
  (declarations ss).map Prod.fst

@[simp] theorem declarations_node (id : Nat) (label : String) (ss : List Statement) :
    declarations (.node id label :: ss) = (id, label) :: declarations ss := rfl

@[simp] theorem declarations_edge (parent child : Nat) (ss : List Statement) :
    declarations (.edge parent child :: ss) = declarations ss := rfl

@[simp] theorem declarations_append (ss ss' : List Statement) :
    declarations (ss ++ ss') = declarations ss ++ declarations ss' :=
  List.filterMap_append

@[simp] theorem declarations_nil : declarations [] = [] := rfl

@[simp] theorem links_node (id : Nat) (label : String) (ss : List Statement) :
    links (.node id label :: ss) = links ss := rfl

@[simp] theorem links_edge (parent child : Nat) (ss : List Statement) :
    links (.edge parent child :: ss) = (parent, child) :: links ss := rfl

@[simp] theorem links_append (ss ss' : List Statement) :
    links (ss ++ ss') = links ss ++ links ss' :=
  List.filterMap_append

@[simp] theorem links_nil : links [] = [] := rfl

theorem length_eq_declarations_add_links (ss : List Statement) :
    ss.length = (declarations ss).length + (links ss).length := by
  induction ss with
  | nil => rfl
  | cons s ss ih =>
    cases s with
    | node id label =>
      simp only [List.length_cons, declarations_node, links_node]
      omega
    | edge parent child =>
      simp only [List.length_cons, declarations_edge, links_edge]
      omega

/-- Numbers are declared in ascending order without a gap. -/
theorem declaredIds_numbered (t : Expr) (i : Nat) :
    declaredIds (numbered i t) = List.range' i t.nodeCount := by
  induction t generalizing i with
  | literal _ => rfl
  | binary op left right ihleft ihright =>
    simp only [declaredIds] at ihleft ihright ⊢
    simp only [numbered, declarations_node, declarations_append, declarations_edge,
      declarations_nil, List.append_nil, List.map_cons, List.map_append, ihleft, ihright,
      List.range'_append_1, Expr.nodeCount]
    rw [← List.range'_succ]
    congr 1
    omega

/-- Labels are declared in depth-first order. -/
theorem labels_numbered (t : Expr) (i : Nat) :
    (declarations (numbered i t)).map Prod.snd = t.preorder.map Expr.label := by
  induction t generalizing i with
  | literal _ => rfl
  | binary op left right ihleft ihright => simp [numbered, Expr.preorder, ihleft, ihright]

/-! ## §3 Links -/

/-- A link goes from a smaller to a larger number of the tree. -/
theorem bounds_of_mem_links {t : Expr} {i parent child : Nat}
    (h : (parent, child) ∈ links (numbered i t)) :
    i ≤ parent ∧ parent < child ∧ child < i + t.nodeCount := by
  induction t generalizing i with
  | literal _ => simp [numbered] at h
  | binary op left right ihleft ihright =>
    have hpos := right.nodeCount_pos
    have hpos' := left.nodeCount_pos
    simp only [numbered, links_node, links_append, links_edge, links_nil, List.mem_append,
      List.mem_cons, List.not_mem_nil, or_false, Prod.mk.injEq] at h
    simp only [Expr.nodeCount]
    rcases h with h | ⟨rfl, rfl⟩ | h | ⟨rfl, rfl⟩
    · have hbounds := ihleft h
      omega
    · omega
    · have hbounds := ihright h
      omega
    · omega

theorem length_links_numbered (t : Expr) (i : Nat) :
    (links (numbered i t)).length + 1 = t.nodeCount := by
  induction t generalizing i with
  | literal _ => rfl
  | binary op left right ihleft ihright =>
    simp only [numbered, links_node, links_append, links_edge, links_nil, List.length_append,
      List.length_cons, List.length_nil, Expr.nodeCount]
    have hleft := ihleft (i + 1)
    have hright := ihright (i + 1 + left.nodeCount)
    omega

/-- The links that leave node `k`, in order of appearance. -/
def linksFrom (k : Nat) (ss : List Statement) : List (Nat × Nat) :=
  (links ss).filter fun link => link.1 = k

/-- The links that a node with number `k` should have: one to its left child, right behind it, and
    one to its right child, behind the left subtree. -/
def childLinks (k : Nat) : Expr → List (Nat × Nat)
  | .literal _ => []
  | .binary _ left _ => [(k, k + 1), (k, k + 1 + left.nodeCount)]

@[simp] theorem linksFrom_append (k : Nat) (ss ss' : List Statement) :
    linksFrom k (ss ++ ss') = linksFrom k ss ++ linksFrom k ss' := by
  simp [linksFrom]

@[simp] theorem linksFrom_node (k id : Nat) (label : String) (ss : List Statement) :
    linksFrom k (.node id label :: ss) = linksFrom k ss := rfl

@[simp] theorem linksFrom_nil (k : Nat) : linksFrom k [] = [] := rfl

theorem linksFrom_edge (k parent child : Nat) (ss : List Statement) :
    linksFrom k (.edge parent child :: ss) =
      if parent = k then (parent, child) :: linksFrom k ss else linksFrom k ss := by
  simp [linksFrom, List.filter_cons]

/-- No link leaves a node whose number is not one of the tree's. -/
theorem linksFrom_numbered_of_outside {t : Expr} {i k : Nat} (h : k < i ∨ i + t.nodeCount ≤ k) :
    linksFrom k (numbered i t) = [] := by
  rw [linksFrom, List.filter_eq_nil_iff]
  rintro ⟨parent, child⟩ hmem hparent
  have hbounds := bounds_of_mem_links hmem
  have heq : parent = k := by simpa using hparent
  omega

/-- The links that leave the node at place `k` are those to its children. -/
theorem linksFrom_numbered {t s : Expr} {k : Nat} (i : Nat) (h : t.preorder[k]? = some s) :
    linksFrom (i + k) (numbered i t) = childLinks (i + k) s := by
  induction t generalizing i k with
  | literal value =>
    have hk := Expr.lt_nodeCount_of_preorder h
    obtain rfl : k = 0 := by simpa [Expr.nodeCount] using hk
    cases h
    rfl
  | binary op left right ihleft ihright =>
    cases k with
    | zero =>
      -- Both links of the root are its own; the subtrees' links start further behind.
      rw [Expr.preorder_zero] at h
      cases h
      simp only [numbered, linksFrom_node, linksFrom_append, linksFrom_edge, linksFrom_nil,
        Nat.add_zero, if_true, childLinks,
        linksFrom_numbered_of_outside (t := left) (i := i + 1) (k := i) (by omega),
        linksFrom_numbered_of_outside (t := right) (i := i + 1 + left.nodeCount) (k := i)
          (by omega)]
      simp
    | succ k =>
      have hroot : ¬ i = i + (k + 1) := by omega
      rw [Expr.preorder_binary_succ] at h
      simp only [numbered, linksFrom_node, linksFrom_append, linksFrom_edge, linksFrom_nil,
        if_neg hroot, List.append_nil]
      split at h
      next hk =>
        rw [linksFrom_numbered_of_outside (t := right) (by omega), List.append_nil,
          show i + (k + 1) = i + 1 + k by omega]
        exact ihleft (i + 1) h
      next hk =>
        rw [linksFrom_numbered_of_outside (t := left) (by omega), List.nil_append,
          show i + (k + 1) = i + 1 + left.nodeCount + (k - left.nodeCount) by omega]
        exact ihright (i + 1 + left.nodeCount) h

/-- The root's number and the ends of all links are the numbers of the tree, each once. -/
theorem targets_numbered_perm (t : Expr) (i : Nat) :
    (i :: (links (numbered i t)).map Prod.snd).Perm (List.range' i t.nodeCount) := by
  induction t generalizing i with
  | literal _ => exact List.Perm.refl _
  | binary op left right ihleft ihright =>
    have hleft := ihleft (i + 1)
    have hright := ihright (i + 1 + left.nodeCount)
    have hcount : (Expr.binary op left right).nodeCount = left.nodeCount + right.nodeCount + 1 := by
      simp only [Expr.nodeCount]
      omega
    rw [hcount, List.range'_succ, ← List.range'_append_1]
    refine List.Perm.cons i (List.Perm.trans ?_ (hleft.append hright))
    -- Each link to a child comes behind the child's own subtree; it is moved to the front.
    simp only [numbered, links_node, links_append, links_edge, links_nil, List.map_append,
      List.map_cons, List.map_nil]
    refine List.perm_middle.trans (List.Perm.cons (i + 1) ?_)
    exact (List.perm_append_singleton _ _).append_left _

theorem count_targets_numbered {t : Expr} {i k : Nat} (h : i < k) (hk : k < i + t.nodeCount) :
    ((links (numbered i t)).map Prod.snd).count k = 1 := by
  have hcount := (targets_numbered_perm t i).count_eq k
  rw [List.count_cons_of_ne (by omega), List.count_range_1'] at hcount
  rw [hcount, if_pos ⟨by omega, hk⟩]

/-! ## §4 Declarations before links -/

/-- Both ends of every link are declared before it, or are among `known`. -/
def LinksDeclared (known : List Nat) : List Statement → Prop
  | [] => True
  | .node id _ :: rest => LinksDeclared (known ++ [id]) rest
  | .edge parent child :: rest => parent ∈ known ∧ child ∈ known ∧ LinksDeclared known rest

/-- What comes later may use what was declared earlier. -/
theorem linksDeclared_append {known : List Nat} {ss ss' : List Statement} :
    LinksDeclared known (ss ++ ss') ↔
      LinksDeclared known ss ∧ LinksDeclared (known ++ declaredIds ss) ss' := by
  induction ss generalizing known with
  | nil => simp [LinksDeclared, declaredIds]
  | cons s ss ih =>
    cases s with
    | node id label => simp [LinksDeclared, ih, declaredIds]
    | edge parent child => simp [LinksDeclared, ih, declaredIds, and_assoc]

theorem linksDeclared_numbered (t : Expr) (i : Nat) (known : List Nat) :
    LinksDeclared known (numbered i t) := by
  induction t generalizing i known with
  | literal _ => trivial
  | binary op left right ihleft ihright =>
    have hleft : i + 1 ∈ declaredIds (numbered (i + 1) left) := by
      simp [declaredIds_numbered, left.nodeCount_pos]
    have hright : i + 1 + left.nodeCount ∈
        declaredIds (numbered (i + 1 + left.nodeCount) right) := by
      simp [declaredIds_numbered, right.nodeCount_pos]
    -- A link stands right behind the subtree it leads to, so that its end has been declared.
    simp only [numbered, LinksDeclared, linksDeclared_append]
    refine ⟨ihleft _ _, ?_, ?_, ihright _ _, ?_, ?_, trivial⟩
    · simp
    · simp [hleft]
    · simp
    · simp [hright]

theorem LinksDeclared.of_getElem? {ss : List Statement} {j parent child : Nat}
    (h : LinksDeclared [] ss) (hj : ss[j]? = some (.edge parent child)) :
    parent ∈ declaredIds (ss.take j) ∧ child ∈ declaredIds (ss.take j) := by
  obtain ⟨hlt, hget⟩ := List.getElem?_eq_some_iff.mp hj
  rw [← List.take_append_drop j ss, linksDeclared_append, List.drop_eq_getElem_cons hlt, hget] at h
  exact ⟨h.2.1, h.2.2.1⟩

/-! ## §5 The graph of a tree -/

/-- The graph description of a tree numbers and links its nodes.

    It is a header, `n` declarations mixed with `n - 1` links, and a footer, a line each.  Numbers
    and labels are declared in depth-first order.  From the node at place `i` lead the links to its
    children and no others, every link leads to a larger number, every number but the root's is the
    end of one link, and both ends of a link have been declared on lines before it. -/
theorem document_numbers_and_links (t : Expr) :
    document t = header ++ "\n" ++ linesText (body t) ++ footer ++ "\n" ∧
    Text.lines (document t) =
      header.toList :: ((body t).map (·.text.toList) ++ [footer.toList]) ∧
    (Text.lines (document t)).length = 2 * t.nodeCount + 1 ∧
    (declarations (body t)).length = t.nodeCount ∧
    (links (body t)).length = t.nodeCount - 1 ∧
    (declarations (body t)).map Prod.fst = List.range t.nodeCount ∧
    (declarations (body t)).map Prod.snd = t.preorder.map Expr.label ∧
    (∀ i op left right, t.preorder[i]? = some (.binary op left right) →
      (links (body t)).filter (fun link => link.1 = i) =
        [(i, i + 1), (i, i + 1 + left.nodeCount)]) ∧
    (∀ i value, t.preorder[i]? = some (.literal value) →
      (links (body t)).filter (fun link => link.1 = i) = []) ∧
    (∀ link ∈ links (body t), link.1 < link.2) ∧
    (∀ id, 1 ≤ id → id < t.nodeCount → ((links (body t)).map Prod.snd).count id = 1) ∧
    (∀ j parent child, (body t)[j]? = some (.edge parent child) →
      parent ∈ declaredIds ((body t).take j) ∧ child ∈ declaredIds ((body t).take j)) := by
  have hids : declaredIds (body t) = List.range t.nodeCount := by
    rw [body, declaredIds_numbered, List.range_eq_range']
  have hdeclared : (declarations (body t)).length = t.nodeCount := by
    rw [← List.length_map Prod.fst, ← declaredIds, hids, List.length_range]
  have hlinks : (links (body t)).length + 1 = t.nodeCount := length_links_numbered t 0
  have hbody : (body t).length = (declarations (body t)).length + (links (body t)).length :=
    length_eq_declarations_add_links (body t)
  have hfrom : ∀ i s, t.preorder[i]? = some s → linksFrom i (body t) = childLinks i s := by
    intro i s hs
    have h := linksFrom_numbered 0 hs
    rwa [Nat.zero_add] at h
  refine ⟨document_eq t, lines_document_eq t, ?_, hdeclared, by omega, hids, labels_numbered t 0,
    ?_, ?_, ?_, ?_, ?_⟩
  · simp only [lines_document_eq, List.length_cons, List.length_append, List.length_map,
      List.length_nil]
    omega
  · intro i op left right hs
    exact hfrom i _ hs
  · intro i value hs
    exact hfrom i _ hs
  · rintro ⟨parent, child⟩ hmem
    exact (bounds_of_mem_links hmem).2.1
  · intro id hid hlt
    exact count_targets_numbered (by omega) (by omega)
  · intro j parent child hj
    exact (linksDeclared_numbered t 0 []).of_getElem? hj

end BraceArith.Graph
