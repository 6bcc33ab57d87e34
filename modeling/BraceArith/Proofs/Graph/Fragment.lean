import BraceArith.Proofs.Graph.Numbering

/-!
# Fragments of graph descriptions

A tree can be written into any text, under any root number and with any counter.  What is written
then is a fragment that depends on neither the text nor the history of the counter: it is the body
of the tree's own document, the root renamed to the given number and every other node moved on to
where the counter stands.  So trees that are written one after another with one counter have no
number in common.

## Main definitions

- `Statement.rename`: a statement with other numbers
- `fragment`: the body of a document under a root number and a counter
- `appendAll`, `fragments`: several trees, one after another

## Main statements

- `map_rename_numbered`: renaming a numbering is numbering from elsewhere
- `statements_eq_fragment`: the statements of a tree are a renamed body
- `appendAll_eq`, `declaredIds_fragments`: what several trees write
-/

namespace BraceArith.Graph

/-! ## §1 Renaming -/

/-- The statement with every number `i` replaced by `f i`. -/
def Statement.rename (f : Nat → Nat) : Statement → Statement
  | node id label => node (f id) label
  | edge parent child => edge (f parent) (f child)

/-- Renaming by a function that moves the numbers of a tree from `i` on to `j` on. -/
theorem map_rename_numbered {t : Expr} {i j : Nat} {f : Nat → Nat}
    (h : ∀ k < t.nodeCount, f (i + k) = j + k) :
    (numbered i t).map (Statement.rename f) = numbered j t := by
  induction t generalizing i j with
  | literal value =>
    have hroot : f i = j := h 0 (Expr.nodeCount_pos _)
    simp [numbered, Statement.rename, hroot, Expr.label]
  | binary op left right ihleft ihright =>
    have hcount : (Expr.binary op left right).nodeCount = 1 + left.nodeCount + right.nodeCount :=
      rfl
    have hroot : f i = j := h 0 (Expr.nodeCount_pos _)
    have hleft : ∀ k < left.nodeCount, f (i + 1 + k) = j + 1 + k := by
      intro k hk
      rw [Nat.add_assoc, Nat.add_assoc]
      apply h
      omega
    have hright : ∀ k < right.nodeCount,
        f (i + 1 + left.nodeCount + k) = j + 1 + left.nodeCount + k := by
      intro k hk
      have hk' := h (1 + left.nodeCount + k) (by omega)
      simpa only [Nat.add_assoc] using hk'
    -- A link leads to a child's own number, the first of the child's tree.
    have hleftRoot : f (i + 1) = j + 1 := hleft 0 left.nodeCount_pos
    have hrightRoot : f (i + 1 + left.nodeCount) = j + 1 + left.nodeCount :=
      hright 0 right.nodeCount_pos
    simp [numbered, Statement.rename, hroot, hleftRoot, hrightRoot, ihleft hleft, ihright hright,
      Expr.label]

/-! ## §2 One tree -/

/-- Where the nodes of a document go: node zero to `root`, and those behind it to the numbers from
    `next` on. -/
def renumber (root next : Nat) : Nat → Nat
  | 0 => root
  | i + 1 => next + i

/-- The body of a tree's document under a root number and a counter. -/
def fragment (root next : Nat) (t : Expr) : List Statement :=
  (body t).map (Statement.rename (renumber root next))

theorem renumber_one_add (root next i : Nat) : renumber root next (1 + i) = next + i := by
  rw [Nat.add_comm]
  rfl

theorem map_renumber_numbered (t : Expr) (root next i : Nat) :
    (numbered (1 + i) t).map (Statement.rename (renumber root next)) = numbered (next + i) t := by
  apply map_rename_numbered
  intro k _
  rw [Nat.add_assoc, renumber_one_add, Nat.add_assoc]

theorem statements_eq_fragment (t : Expr) (root next : Nat) :
    statements root next t = (fragment root next t, next + t.nodeCount - 1) := by
  have hcount := statements_snd t root next
  refine Prod.ext ?_ (by omega)
  cases t with
  | literal value => rfl
  | binary op left right =>
    -- Both subtrees are numbered without a gap from where the counter stands.
    have hleft : (numbered 1 left).map _ = _ := map_renumber_numbered left root next 0
    have hright := map_renumber_numbered right root next left.nodeCount
    have hroots : renumber root next 0 = root ∧ renumber root next 1 = next := ⟨rfl, rfl⟩
    simp [statements, statements_eq_numbered, fragment, body, numbered, Statement.rename, hleft,
      hright, hroots, renumber_one_add, Expr.label]

/-- Writing a tree writes its fragment behind the text. -/
theorem appendTo_eq_fragment (t : Expr) (sink : String) (root next : Nat) :
    appendTo sink root next t =
      (sink ++ linesText (fragment root next t), next + t.nodeCount - 1) := by
  rw [appendTo_eq, statements_eq_fragment]

/-! ## §3 Several trees -/

/-- Appends trees one after another, each under the next free number. -/
def appendAll (sink : String) (next : Nat) : List Expr → String × Nat
  | [] => (sink, next)
  | t :: ts => appendAll (appendTo sink next (next + 1) t).1 (appendTo sink next (next + 1) t).2 ts

/-- The fragments of trees that are written one after another. -/
def fragments (next : Nat) : List Expr → List Statement
  | [] => []
  | t :: ts => fragment next (next + 1) t ++ fragments (next + t.nodeCount) ts

/-- Number of nodes in all the trees. -/
def totalCount : List Expr → Nat
  | [] => 0
  | t :: ts => t.nodeCount + totalCount ts

theorem appendAll_eq (ts : List Expr) (sink : String) (next : Nat) :
    appendAll sink next ts = (sink ++ linesText (fragments next ts), next + totalCount ts) := by
  induction ts generalizing sink next with
  | nil => simp [appendAll, fragments, totalCount, linesText]
  | cons t ts ih =>
    have hnext : next + 1 + t.nodeCount - 1 = next + t.nodeCount := by omega
    rw [appendAll, appendTo_eq_fragment, ih, hnext, fragments, linesText_append, totalCount,
      String.append_assoc, Nat.add_assoc]

/-- A fragment whose root number comes right before the counter is numbered without a gap. -/
theorem fragment_succ (t : Expr) (next : Nat) : fragment next (next + 1) t = numbered next t := by
  have h := congrArg Prod.fst (statements_eq_fragment t next (next + 1))
  rwa [statements_eq_numbered, eq_comm] at h

/-- Trees that are written one after another take all numbers from the counter on, each once. -/
theorem declaredIds_fragments (ts : List Expr) (next : Nat) :
    declaredIds (fragments next ts) = List.range' next (totalCount ts) := by
  induction ts generalizing next with
  | nil => rfl
  | cons t ts ih =>
    have hfirst := declaredIds_numbered t next
    have hothers := ih (next + t.nodeCount)
    unfold declaredIds at hfirst hothers ⊢
    rw [fragments, fragment_succ, declarations_append, List.map_append, hfirst, hothers,
      List.range'_append_1, totalCount]

/-- Writing a tree into a text changes nothing in the text, and is independent of it.  Behind the
    text comes the body of the tree's own document, with node zero renamed to the given root number
    and every node `i` behind it to `next + i - 1`, where `next` is what the counter stood at; the
    counter moves on by one for each node but the root.

    Trees that are written one after another, each under the next number of one counter, declare
    every number once. -/
theorem appendTo_writes_renamed_body (t : Expr) (ts : List Expr) (sink : String)
    (root next : Nat) :
    document t = header ++ "\n" ++ linesText (body t) ++ footer ++ "\n" ∧
    appendTo sink root next t =
      (sink ++ linesText ((body t).map (Statement.rename (renumber root next))),
        next + t.nodeCount - 1) ∧
    appendAll sink next ts = (sink ++ linesText (fragments next ts), next + totalCount ts) ∧
    declaredIds (fragments next ts) = List.range' next (totalCount ts) ∧
    (declaredIds (fragments next ts)).Nodup := by
  have hids := declaredIds_fragments ts next
  refine ⟨document_eq t, appendTo_eq_fragment t sink root next, appendAll_eq ts sink next, hids, ?_⟩
  rw [hids]
  exact List.nodup_range'

end BraceArith.Graph
