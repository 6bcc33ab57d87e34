import BraceArith.Proofs.Grammar.RoundTrip
import BraceArith.Proofs.Graph.Numbering

/-!
# A graph description determines its tree

Going back from a document takes three steps.  Its lines are the lines of its statements; a line
says which statement it is; and the statements of a subtree can be told from what follows them,
because a declaration never comes right behind a subtree.  So two trees with the same document are
alike node by node, up to numbers that are written the same way, and trees that were read from a
line are equal, since digits are told apart by their text.

## Main definitions

- `Expr.Alike`: same shape, same operators, numbers with the same text

## Main statements

- `numbered_append_inj`: the statements of a subtree end where they end, whatever follows
- `document_eq_document_iff`: documents are equal exactly for trees that are alike
-/

namespace BraceArith

namespace Expr

/-! ## §1 Trees that are alike -/

/-- Two trees have the same shape, the same operators, and numbers with the same text. -/
inductive Alike : Expr → Expr → Prop
  | literal {x y : Float} : Decimal.text x = Decimal.text y → Alike (literal x) (literal y)
  | binary {op : Operator} {left left' right right' : Expr} :
      Alike left left' → Alike right right' → Alike (binary op left right) (binary op left' right')

theorem Alike.nodeCount_eq {a b : Expr} (h : a.Alike b) : a.nodeCount = b.nodeCount := by
  induction h with
  | literal _ => rfl
  | binary _ _ ihleft ihright => simp only [nodeCount, ihleft, ihright]

theorem Alike.numbered_eq {a b : Expr} (h : a.Alike b) (i : Nat) :
    Graph.numbered i a = Graph.numbered i b := by
  induction h generalizing i with
  | literal htext => simp [Graph.numbered, label, htext]
  | binary hleft hright ihleft ihright =>
    simp [Graph.numbered, label, ihleft, ihright, hleft.nodeCount_eq]

/-- Trees of digits that are alike are equal: a digit is known by its text. -/
theorem Alike.eq_of_hasDigitLiterals {a b : Expr} (h : a.Alike b) (ha : a.HasDigitLiterals)
    (hb : b.HasDigitLiterals) : a = b := by
  induction h with
  | literal htext =>
    obtain ⟨d, hd, rfl⟩ := ha
    obtain ⟨d', hd', rfl⟩ := hb
    have hchar : [Nat.digitChar d] = [Nat.digitChar d'] := by
      rw [← Grammar.chars_ofNat_digit d hd, ← Grammar.chars_ofNat_digit d' hd']
      exact String.ofList_injective htext
    have hdigits : ∀ d < 10, ∀ d' < 10, Nat.digitChar d = Nat.digitChar d' → d = d' := by decide
    rw [hdigits d hd d' hd' (List.cons.inj hchar).1]
  | binary _ _ ihleft ihright => rw [ihleft ha.1 hb.1, ihright ha.2 hb.2]

end Expr

theorem Operator.symbol_toString_inj {op op' : Operator}
    (h : op.symbol.toString = op'.symbol.toString) : op = op' := by
  have hsymbol : op.symbol = op'.symbol := by simpa using congrArg String.toList h
  have hread := congrArg Operator.ofChar? hsymbol
  simpa using hread

namespace Graph

/-! ## §2 Where the statements of a subtree end -/

/-- The list does not start with a declaration. -/
def NoNodeFirst (ss : List Statement) : Prop :=
  ∀ id label, ss.head? ≠ some (.node id label)

theorem noNodeFirst_edge (parent child : Nat) (ss : List Statement) :
    NoNodeFirst (.edge parent child :: ss) := by
  intro id label h
  simp at h

theorem noNodeFirst_nil : NoNodeFirst [] := by
  intro id label h
  simp at h

theorem numbered_append_ne_of_noNodeFirst {t : Expr} {i : Nat} {ss rest : List Statement}
    (h : NoNodeFirst ss) : ss ≠ numbered i t ++ rest := by
  rintro rfl
  cases t with
  | literal value => exact h i _ rfl
  | binary op left right => exact h i _ rfl

/-- Two trees whose statements agree up to where one of them ends are alike and end there both. -/
theorem numbered_append_inj {a b : Expr} {i : Nat} {x y : List Statement} (hx : NoNodeFirst x)
    (hy : NoNodeFirst y) (h : numbered i a ++ x = numbered i b ++ y) : a.Alike b ∧ x = y := by
  induction a generalizing b i x y with
  | literal value =>
    cases b with
    | literal value' =>
      simp only [numbered, List.singleton_append, List.cons.injEq, Statement.node.injEq,
        true_and] at h
      exact ⟨.literal h.1, h.2⟩
    | binary op left right =>
      -- Behind a number nothing is declared, behind an operator its left operand is.
      simp only [numbered, List.cons_append, List.nil_append, List.append_assoc,
        List.cons.injEq] at h
      exact absurd h.2 (numbered_append_ne_of_noNodeFirst hx)
  | binary op left right ihleft ihright =>
    cases b with
    | literal value =>
      simp only [numbered, List.cons_append, List.nil_append, List.append_assoc,
        List.cons.injEq] at h
      exact absurd h.2.symm (numbered_append_ne_of_noNodeFirst hy)
    | binary op' left' right' =>
      simp only [numbered, List.cons_append, List.append_assoc, List.cons.injEq,
        Statement.node.injEq, true_and] at h
      obtain ⟨hlabel, hrest⟩ := h
      obtain rfl := Operator.symbol_toString_inj hlabel
      obtain ⟨hleft, hrest⟩ := ihleft (noNodeFirst_edge _ _ _) (noNodeFirst_edge _ _ _) hrest
      -- The left operands have equally many nodes, so the right ones start with the same number.
      rw [hleft.nodeCount_eq, List.cons.injEq] at hrest
      obtain ⟨hright, hrest⟩ :=
        ihright (noNodeFirst_edge _ _ _) (noNodeFirst_edge _ _ _) hrest.2
      exact ⟨.binary hleft hright, (List.cons.inj hrest).2⟩

/-! ## §3 From documents to trees -/

theorem body_eq_of_document_eq {a b : Expr} (h : document a = document b) : body a = body b := by
  have hlines := congrArg Text.lines h
  rw [lines_document_eq, lines_document_eq] at hlines
  -- Without header and footer; then line by line, since a line says which statement it is.
  have htexts := List.append_cancel_right (List.cons.inj hlines).2
  refine (List.map_inj_right ?_).mp htexts
  intro s s' hs
  exact text_injective (String.toList_inj.mp hs)

theorem document_eq_document_iff {a b : Expr} : document a = document b ↔ a.Alike b := by
  constructor
  · intro h
    have hbody := body_eq_of_document_eq h
    have hend : numbered 0 a ++ [] = numbered 0 b ++ [] := by simpa [body] using hbody
    exact (numbered_append_inj noNodeFirst_nil noNodeFirst_nil hend).1
  · intro h
    rw [document_eq, document_eq, body, body, h.numbered_eq]

/-- Nothing is lost in a graph description.  Two trees have the same description exactly when they
    have the same shape, the same operators and numbers with the same text, so that trees which
    lines were read as are equal if their descriptions are. -/
theorem document_determines_tree (a b : Expr) :
    (document a = document b ↔ a.Alike b) ∧
    (∀ line line', parse line = .ok a → parse line' = .ok b → document a = document b →
      a = b) := by
  refine ⟨document_eq_document_iff, ?_⟩
  intro line line' ha hb h
  have halike := document_eq_document_iff.mp h
  exact halike.eq_of_hasDigitLiterals (Grammar.hasDigitLiterals_of_parse ha)
    (Grammar.hasDigitLiterals_of_parse hb)

end Graph

end BraceArith
