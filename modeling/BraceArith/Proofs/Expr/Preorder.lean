import BraceArith.Expr.Basic

/-!
# Nodes of a tree in depth-first order

Every view of a tree lists its nodes depth first, a parent before its children and the left child
before the right one.  A node is given by the subtree below it, so that its place in the list comes
with everything the views say about it.
-/

namespace BraceArith.Expr

/-- The nodes of a tree, each as the subtree below it, depth first. -/
def preorder : Expr → List Expr
  | t@(literal _) => [t]
  | t@(binary _ left right) => t :: (left.preorder ++ right.preorder)

@[simp] theorem length_preorder (t : Expr) : t.preorder.length = t.nodeCount := by
  induction t with
  | literal _ => rfl
  | binary _ left right ihleft ihright =>
    simp only [preorder, List.length_cons, List.length_append, ihleft, ihright, nodeCount]
    omega

/-- The root comes first. -/
theorem preorder_zero (t : Expr) : t.preorder[0]? = some t := by
  cases t <;> rfl

/-- After the root of an operation come the nodes of its left operand, then those of the right. -/
theorem preorder_binary_succ (op : Operator) (left right : Expr) (k : Nat) :
    (binary op left right).preorder[k + 1]? =
      if k < left.nodeCount then left.preorder[k]? else right.preorder[k - left.nodeCount]? := by
  rw [preorder, List.getElem?_cons_succ, List.getElem?_append, length_preorder]

theorem lt_nodeCount_of_preorder {t s : Expr} {k : Nat} (h : t.preorder[k]? = some s) :
    k < t.nodeCount := by
  obtain ⟨hk, -⟩ := List.getElem?_eq_some_iff.mp h
  rwa [length_preorder] at hk

end BraceArith.Expr
