import BraceArith.Graph.Statement
import BraceArith.Proofs.Decimal.Alphabet
import BraceArith.Text.Lines

/-!
# Lines of a graph description

Labels are written between quotation marks as they are.  That does no harm: a label holds no line
feed, so each statement takes exactly one line, and a line says which statement it is, since a
number ends where its digits end and the two kinds of statement go on differently after the first
number.

## Main statements

- `lines_document`: the lines of a document are its header, its statements and its footer
- `text_injective`: different statements have different lines
-/

namespace BraceArith.Graph

/-! ## §1 One line for each statement -/

theorem toList_nodeName (id : Nat) :
    (nodeName id).toList = 'n' :: 'o' :: 'd' :: 'e' :: Nat.toDigits 10 id := by
  simp [nodeName]

theorem toList_text_node (id : Nat) (label : String) :
    (Statement.node id label).text.toList =
      ' ' :: ' ' :: (nodeName id).toList ++
        ' ' :: '[' :: 'l' :: 'a' :: 'b' :: 'e' :: 'l' :: '=' :: '"' ::
          (label.toList ++ ['"', ']', ';']) := by
  simp [Statement.text]

theorem toList_text_edge (parent child : Nat) :
    (Statement.edge parent child).text.toList =
      ' ' :: ' ' :: (nodeName parent).toList ++
        ' ' :: '-' :: '>' :: ' ' :: ((nodeName child).toList ++ [';']) := by
  simp [Statement.text]

theorem newline_not_mem_nodeName (id : Nat) : '\n' ∉ (nodeName id).toList := by
  intro h
  simp only [toList_nodeName, List.mem_cons] at h
  have hdigit : '\n' ∈ Nat.toDigits 10 id := by simpa using h
  have hisDigit := Nat.isDigit_of_mem_toDigits (by decide) (by decide) hdigit
  exact absurd hisDigit (by decide)

/-- A label has the characters of numbers and operators alone. -/
theorem not_mem_label {c : Char} (hnumber : Decimal.isNumberChar c = false)
    (hoperator : Operator.ofChar? c = none) (t : Expr) : c ∉ t.label.toList := by
  intro h
  cases t with
  | literal value =>
    rw [Decimal.isNumberChar_of_mem_text h] at hnumber
    cases hnumber
  | binary op left right =>
    have hc : c = op.symbol := by simpa [Expr.label] using h
    rw [hc, Operator.ofChar?_symbol] at hoperator
    cases hoperator

/-- No statement of a tree spreads over several lines. -/
theorem newline_not_mem_text {t : Expr} {root next : Nat} {s : Statement}
    (h : s ∈ (statements root next t).1) : '\n' ∉ s.text.toList := by
  have hnode : ∀ (id : Nat) (t : Expr), '\n' ∉ (Statement.node id t.label).text.toList := by
    intro id t
    have hlabel : '\n' ∉ t.label.toList := not_mem_label (by decide) (by decide) t
    simp [toList_text_node, newline_not_mem_nodeName, hlabel]
  have hedge : ∀ parent child, '\n' ∉ (Statement.edge parent child).text.toList := by
    intro parent child
    simp [toList_text_edge, newline_not_mem_nodeName]
  induction t generalizing root next with
  | literal value =>
    rw [List.mem_singleton.mp h]
    exact hnode root _
  | binary op left right ihleft ihright =>
    simp only [statements, List.cons_append, List.append_assoc, List.mem_cons, List.mem_append,
      List.not_mem_nil, or_false] at h
    rcases h with rfl | h | rfl | h | rfl
    · exact hnode root _
    · exact ihleft h
    · exact hedge root _
    · exact ihright h
    · exact hedge root _

theorem getLast?_text (s : Statement) : s.text.toList.getLast? = some ';' := by
  cases s with
  | node id label => simp [toList_text_node, List.getLast?_cons]
  | edge parent child => simp [toList_text_edge, List.getLast?_cons]

theorem lines_linesText {ss : List Statement} (h : ∀ s ∈ ss, '\n' ∉ s.text.toList)
    (rest : String) :
    Text.lines (linesText ss ++ rest) = ss.map (·.text.toList) ++ Text.lines rest := by
  induction ss with
  | nil => simp [linesText]
  | cons s ss ih =>
    have hs : '\n' ∉ s.text.toList := h s List.mem_cons_self
    have hss : ∀ s ∈ ss, '\n' ∉ s.text.toList := fun s' hs' => h s' (List.mem_cons_of_mem s hs')
    have hreturn : s.text.toList.getLast? ≠ some '\r' := by simp [getLast?_text]
    rw [linesText, Statement.line, String.append_assoc, Text.lines_append_newline hs hreturn, ih hss]
    rfl

/-- A document falls into its header, one line for each statement, and its footer. -/
theorem lines_document (t : Expr) :
    Text.lines (document t) =
      header.toList :: ((statements 0 1 t).1.map (·.text.toList) ++ [footer.toList]) := by
  have hheader : '\n' ∉ header.toList ∧ header.toList.getLast? ≠ some '\r' := by decide
  have hfooter : Text.lines (footer ++ "\n") = [footer.toList] := by decide
  rw [document, appendTo_eq]
  simp only [String.append_assoc]
  rw [← String.append_assoc, Text.lines_append_newline hheader.1 hheader.2,
    lines_linesText fun s hs => newline_not_mem_text hs, hfooter]

/-! ## §2 A line says which statement it is -/

theorem toDigits_append_inj {m n : Nat} {c d : Char} {x y : List Char} (hc : c.isDigit = false)
    (hd : d.isDigit = false)
    (h : Nat.toDigits 10 m ++ c :: x = Nat.toDigits 10 n ++ d :: y) : m = n ∧ c :: x = d :: y := by
  have hspan : ∀ (k : Nat) {e : Char} (z : List Char), e.isDigit = false →
      (Nat.toDigits 10 k ++ e :: z).takeWhile Char.isDigit = Nat.toDigits 10 k := by
    intro k e z he
    rw [List.takeWhile_append_of_pos fun a ha =>
      Nat.isDigit_of_mem_toDigits (by decide) (by decide) ha]
    simp [he]
  have hdigits : Nat.toDigits 10 m = Nat.toDigits 10 n := by
    rw [← hspan m x hc, ← hspan n y hd, h]
  refine ⟨?_, ?_⟩
  · rw [← Nat.ofDigitChars_ten_toDigits (n := m), hdigits, Nat.ofDigitChars_ten_toDigits]
  · rw [hdigits] at h
    exact List.append_cancel_left h

theorem text_node_ne_edge (id parent child : Nat) (label : String) :
    (Statement.node id label).text ≠ (Statement.edge parent child).text := by
  intro h
  have hchars := congrArg String.toList h
  simp only [toList_text_node, toList_text_edge, toList_nodeName, List.cons_append,
    List.cons.injEq, true_and] at hchars
  -- Behind the first number, a bracket opens in the one line and an arrow follows in the other.
  have hrest := (toDigits_append_inj (by decide) (by decide) hchars).2
  simp at hrest

/-- A line determines its statement, whatever the label. -/
theorem text_injective {s s' : Statement} (h : s.text = s'.text) : s = s' := by
  have hchars := congrArg String.toList h
  cases s with
  | node id label =>
    cases s' with
    | node id' label' =>
      simp only [toList_text_node, toList_nodeName, List.cons_append, List.cons.injEq,
        true_and] at hchars
      obtain ⟨rfl, hrest⟩ := toDigits_append_inj (by decide) (by decide) hchars
      simp only [List.cons.injEq, true_and] at hrest
      rw [String.toList_inj.mp (List.append_cancel_right hrest)]
    | edge parent child => exact absurd h (text_node_ne_edge id parent child label)
  | edge parent child =>
    cases s' with
    | node id label => exact absurd h.symm (text_node_ne_edge id parent child label)
    | edge parent' child' =>
      simp only [toList_text_edge, toList_nodeName, List.cons_append, List.cons.injEq,
        true_and] at hchars
      obtain ⟨rfl, hrest⟩ := toDigits_append_inj (by decide) (by decide) hchars
      simp only [List.cons.injEq, true_and] at hrest
      obtain ⟨rfl, -⟩ := toDigits_append_inj (by decide) (by decide) hrest
      rfl

end BraceArith.Graph
