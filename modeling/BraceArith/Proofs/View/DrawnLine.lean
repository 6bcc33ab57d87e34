import BraceArith.Proofs.Expr.Drawing
import BraceArith.View.Contents

/-!
# Colouring a drawing

A drawing is coloured line by line, from the text alone: neither the end of a guide nor the kind of
a node is handed on by the drawing.  The end of a guide can be told for every tree, since labels
have no character that guides are made of.  The kind of a node is guessed from its label, and the
guess is wrong for a number that has a sign or is not finite.  But lines are only ever read as
trees of digits, and for these it is right.

## Main statements

- `View.drawnLine?_guide_append`: a line is cut between its guide and its label
- `Decimal.isPlainNumber_text_iff`: which numbers are recognised by their text
- `Expr.HasDigitLiterals.isPlainNumber_label_iff`: in a tree of digits, all of them
-/

namespace BraceArith

/-! ## §1 Numbers -/

namespace Decimal

theorem Scaled.positional_ne_nil (d : Scaled) : d.positional ≠ [] := by
  unfold Scaled.positional
  simp only
  split
  · simp [Nat.toDigits_ne_nil]
  split
  · simp
  · simp

theorem Magnitude.chars_ne_nil (m : Magnitude) : m.chars ≠ [] := by
  cases m with
  | nan => simp [chars]
  | infinite => simp [chars]
  | zero => simp [chars]
  | finite b => exact b.shortest.positional_ne_nil

theorem text_ne_empty (x : Float) : text x ≠ "" := by
  intro hempty
  have hchars : charsOfBits x.toBits.toNat = [] := String.ofList_eq_empty_iff.mp hempty
  unfold charsOfBits at hchars
  simp only at hchars
  split at hchars
  · cases hchars
  · exact Magnitude.chars_ne_nil _ hchars

theorem Magnitude.isPlainNumber_chars_iff (m : Magnitude) :
    isPlainNumber m.chars = true ↔ m ≠ .nan ∧ m ≠ .infinite := by
  cases m with
  | nan => decide
  | infinite => decide
  | zero => decide
  | finite b =>
    have hplain : isPlainNumber b.shortest.positional = true := by
      rw [isPlainNumber, List.all_eq_true]
      intro c hc
      simpa using isDigit_or_eq_point_of_mem_positional hc
    simpa [chars] using hplain

/-- The text of a number has digits and points alone exactly if the number has no sign and is
    finite. -/
theorem isPlainNumber_text_iff (x : Float) :
    isPlainNumber (text x).toList = true ↔
      signBit x.toBits.toNat = false ∧
        Magnitude.ofBits x.toBits.toNat ≠ .nan ∧ Magnitude.ofBits x.toBits.toNat ≠ .infinite := by
  have hsign : ∀ chars, isPlainNumber ('-' :: chars) = false := fun _ => rfl
  rw [text, String.toList_ofList, chars, charsOfBits]
  cases hbit : signBit x.toBits.toNat with
  | false => simpa using Magnitude.isPlainNumber_chars_iff _
  | true =>
    by_cases hnan : Magnitude.ofBits x.toBits.toNat = .nan
    · simp [hnan, Magnitude.isPlainNumber_chars_iff]
    · simp [hnan, hsign]

/-- A negative number is taken for an operator. -/
example : isPlainNumber (text (-1)).toList = false := by decide +kernel

theorem isPlainNumber_text_digit {d : Nat} (h : d < 10) :
    isPlainNumber (text (Float.ofNat d)).toList = true := by
  have hdigits : ∀ d < 10, signBit (Float.ofNat d).toBits.toNat = false ∧
      Magnitude.ofBits (Float.ofNat d).toBits.toNat ≠ .nan ∧
      Magnitude.ofBits (Float.ofNat d).toBits.toNat ≠ .infinite := by decide +kernel
  exact (isPlainNumber_text_iff _).mpr (hdigits d h)

end Decimal

/-! ## §2 Labels -/

namespace Expr

theorem label_ne_empty (t : Expr) : t.label ≠ "" := by
  cases t with
  | literal value => exact Decimal.text_ne_empty value
  | binary op l r => simp [label, ← String.toList_inj]

theorem not_isPlainNumber_symbol (op : Operator) : isPlainNumber [op.symbol] = false := by
  cases op <;> decide

namespace HasDigitLiterals

theorem of_mem_preorder {t node : Expr} (h : t.HasDigitLiterals) (hmem : node ∈ t.preorder) :
    node.HasDigitLiterals := by
  induction t with
  | literal value =>
    rw [List.mem_singleton.mp hmem]
    exact h
  | binary op l r ihl ihr =>
    rcases List.mem_cons.mp hmem with rfl | hbelow
    · exact h
    · rcases List.mem_append.mp hbelow with hleft | hright
      · exact ihl h.1 hleft
      · exact ihr h.2 hright

/-- The label of a node says its kind if its number, if it has one, is a digit. -/
theorem isPlainNumber_label_iff {node : Expr} (h : node.HasDigitLiterals) :
    isPlainNumber node.label.toList = true ↔ ∃ value, node = .literal value := by
  cases node with
  | literal value =>
    obtain ⟨d, hd, rfl⟩ := h
    exact iff_of_true (Decimal.isPlainNumber_text_digit hd) ⟨_, rfl⟩
  | binary op l r => simp [label, not_isPlainNumber_symbol]

end HasDigitLiterals

theorem exists_eq_binary_iff (node : Expr) :
    (∃ op l r, node = .binary op l r) ↔ ¬ ∃ value, node = .literal value := by
  cases node <;> simp

end Expr

/-! ## §3 Coloured lines -/

namespace View

open BraceArith.Screen (Span Style)

theorem labelStyle_eq_number_iff (label : List Char) :
    labelStyle label = .ink Palette.number ↔ isPlainNumber label = true := by
  unfold labelStyle
  cases isPlainNumber label <;> decide

theorem labelStyle_eq_operator_iff (label : List Char) :
    labelStyle label = (Style.ink Palette.operator).bolder ↔ isPlainNumber label = false := by
  unfold labelStyle
  cases isPlainNumber label <;> decide

theorem drawnLine?_guide_append (path : List Side) (node : Expr) :
    drawnLine? (guide path ++ node.label) =
      some [.ofText (guide path) (.ink Palette.comment),
        .ofText node.label (labelStyle node.label.toList)] := by
  rw [drawnLine?, splitGuide?_eq, splitGuide_guide_append, String.ofList_toList,
    String.ofList_toList, Option.map_some]

/-- In a drawing, guides and labels are told apart, and labels are coloured by the kind of node.

    Let a line be read as the tree `t`.  Each line of the drawing of `t` belongs to the node at the
    same place of the depth-first order.  Cutting the line has an answer, two spans that together
    are the line: the guide of the path to the node, which has no characters but those of guides,
    and the label of the node, which is not empty.  The label is in the style of numbers exactly
    if the node is a number, and in the bold style of operators exactly if it is an operation. -/
theorem drawn_lines_coloured_by_kind (line : String) (t : Expr) (h : parse line = .ok t) :
    t.drawing.length = t.preorder.length ∧
    ∀ (i : Nat) drawn, t.drawing[i]? = some drawn →
      ∃ path node, t.paths[i]? = some path ∧ t.subtree? path = some node ∧
        t.preorder[i]? = some node ∧
        ∃ first second : Span,
          drawnLine? drawn = some [first, second] ∧ drawnLine drawn = [first, second] ∧
          first.chars ++ second.chars = drawn.toList ∧
          first.chars = (guide path).toList ∧
          (∀ c ∈ first.chars, c ∈ ['│', '├', '└', '─', ' ']) ∧
          second.chars = node.label.toList ∧ second.chars ≠ [] ∧
          (second.style = .ink Palette.number ↔ ∃ value, node = .literal value) ∧
          (second.style = (Style.ink Palette.operator).bolder ↔
            ∃ op l r, node = .binary op l r) := by
  refine ⟨by rw [t.length_drawing, t.length_preorder], ?_⟩
  intro i drawn hdrawn
  obtain ⟨path, hpath⟩ : ∃ path, t.paths[i]? = some path := by
    obtain ⟨hi, -⟩ := List.getElem?_eq_some_iff.mp hdrawn
    rw [t.length_drawing, ← t.length_paths] at hi
    exact ⟨_, List.getElem?_eq_getElem hi⟩
  obtain ⟨node, hsubtree, hnode, hline⟩ := Expr.drawing_getElem? hpath
  obtain rfl : guide path ++ node.label = drawn := Option.some.inj (hline.symm.trans hdrawn)
  have hsplit := drawnLine?_guide_append path node
  have hdigits : node.HasDigitLiterals :=
    (Grammar.hasDigitLiterals_of_parse h).of_mem_preorder (List.mem_of_getElem? hnode)
  have hkind := hdigits.isPlainNumber_label_iff
  refine ⟨path, node, hpath, hsubtree, hnode, _, _, hsplit, ?_, ?_, rfl, ?_, rfl, ?_, ?_, ?_⟩
  · rw [drawnLine, hsplit, Option.getD_some]
  · exact String.toList_append.symm
  · intro c hc
    simpa [isGuideChar, or_assoc] using isGuideChar_of_mem_guide hc
  · intro hnil
    exact node.label_ne_empty (String.toList_eq_nil_iff.mp hnil)
  · exact (labelStyle_eq_number_iff _).trans hkind
  · rw [Expr.exists_eq_binary_iff, ← hkind, Bool.not_eq_true]
    exact labelStyle_eq_operator_iff _

/-- Below a product, a difference is coloured as an operator and its right operand as a number. -/
theorem drawn_lines_coloured_in_product :
    let line := "2*\x7b1-3\x7d"
    let t : Expr := .binary .mul (.literal 2) (.binary .sub (.literal 1) (.literal 3))
    parse line = .ok t ∧ t.drawing[2]? = some "└── -" ∧ t.drawing[4]? = some "    └── 3" ∧
      (∃ first second, drawnLine? "└── -" = some [first, second] ∧ second.chars = ['-'] ∧
        second.style = (Style.ink Palette.operator).bolder) ∧
      (∃ first second, drawnLine? "    └── 3" = some [first, second] ∧
        first.chars = "    └── ".toList ∧ second.style = .ink Palette.number) := by
  intro line t
  have hstrip : Text.strip line = ['2', '*', '{', '1', '-', '3', '}'] := by decide +kernel
  have hparse : parse line = .ok t := by
    rw [parse, Cursor.ofText, hstrip]
    rfl
  have hminus : t.drawing[2]? = some "└── -" := by decide +kernel
  have hthree : t.drawing[4]? = some "    └── 3" := by decide +kernel
  obtain ⟨-, hlines⟩ := drawn_lines_coloured_by_kind line t hparse
  refine ⟨hparse, hminus, hthree, ?_, ?_⟩
  · obtain ⟨path, node, -, -, hnode, first, second, hspans, hcoloured⟩ := hlines 2 _ hminus
    obtain ⟨-, -, -, -, hlabel, -, -, hbinary⟩ := hcoloured
    obtain rfl := Option.some.inj hnode
    exact ⟨first, second, hspans, hlabel, hbinary.mpr ⟨_, _, _, rfl⟩⟩
  · obtain ⟨path, node, hpath, -, hnode, first, second, hspans, hcoloured⟩ := hlines 4 _ hthree
    obtain ⟨-, -, hguide, -, -, -, hliteral, -⟩ := hcoloured
    obtain rfl := Option.some.inj hpath
    obtain rfl := Option.some.inj hnode
    exact ⟨first, second, hspans, hguide, hliteral.mpr ⟨_, rfl⟩⟩

end View

end BraceArith
