import BraceArith.Proofs.Graph.Route
import BraceArith.View.Contents

/-!
# Colouring a graph description

A line is coloured piece by piece, each piece being cut off behind a number of bytes.  Whatever the
line, every cut falls between two characters and takes at least one, so the pieces come to an end
and make up the line.  In a graph description the pieces are the right ones: node names, labels and
arrows stay whole, and all else is coloured character by character.

## Main definitions

- `Lexes`: the text falls into the given lexemes
- `LongLexemes`: of the lexemes of the text, these have more than one character

## Main statements

- `exists_lexes`: every text falls into lexemes
- `lexes_iff`: they are the ones that are found
- `longLexemes_node`, `longLexemes_edge`: the long lexemes of a statement
-/

namespace BraceArith

namespace Graph

/-! ## §1 Falling into lexemes -/

/-- The text falls into the given lexemes. -/
inductive Lexes : String → List Lexeme → Prop
  | nil : Lexes "" []
  | cons {kind : LexemeKind} {first rest : String} {lexemes : List Lexeme}
      (hbegins : Begins kind first rest) (hrest : Lexes rest lexemes) :
      Lexes (first ++ rest) (⟨kind, first⟩ :: lexemes)

section

variable {text : String} {lexemes : List Lexeme}

theorem Lexes.lexemes?_eq (h : Lexes text lexemes) : lexemes? text = some lexemes := by
  induction h with
  | nil => simp [lexemes?]
  | @cons kind first rest lexemes hbegins _ ih =>
    have hne : first ++ rest ≠ "" := by
      intro hempty
      exact hbegins.ne_empty (String.append_eq_empty_iff.mp hempty).1
    rw [lexemes?, dif_neg hne]
    split
    next heq =>
      rw [hbegins.lexeme?_eq] at heq
      cases heq
      rw [ih]
      rfl
    next heq =>
      rw [hbegins.lexeme?_eq] at heq
      cases heq

/-- Every text falls into lexemes: while something is left, it starts with one. -/
theorem exists_lexes (text : String) : ∃ lexemes, Lexes text lexemes := by
  by_cases hempty : text = ""
  · exact ⟨[], hempty ▸ .nil⟩
  · obtain ⟨kind, first, rest, rfl, hbegins⟩ := exists_begins hempty
    -- The recursion ends by the same count of bytes that ends the cutting.
    have hless := utf8ByteSize_lt_of_lexeme? hempty hbegins.lexeme?_eq
    obtain ⟨lexemes, hrest⟩ := exists_lexes rest
    exact ⟨_, .cons hbegins hrest⟩
termination_by text.utf8ByteSize

theorem lexes_iff : Lexes text lexemes ↔ lexemes? text = some lexemes := by
  refine ⟨Lexes.lexemes?_eq, ?_⟩
  intro h
  obtain ⟨lexemes', hlexes⟩ := exists_lexes text
  rw [hlexes.lexemes?_eq] at h
  cases h
  exact hlexes

theorem Lexes.ne_empty (h : Lexes text lexemes) : ∀ lexeme ∈ lexemes, lexeme.text ≠ "" := by
  induction h with
  | nil => simp
  | cons hbegins _ ih =>
    intro lexeme hmem
    rcases List.mem_cons.mp hmem with rfl | hmem
    · exact hbegins.ne_empty
    · exact ih lexeme hmem

/-- No character is lost. -/
theorem Lexes.flatMap_eq (h : Lexes text lexemes) :
    lexemes.flatMap (·.text.toList) = text.toList := by
  induction h with
  | nil => rfl
  | cons _ _ ih => simp [ih]

theorem Lexes.length_le (h : Lexes text lexemes) : lexemes.length ≤ text.toList.length := by
  induction h with
  | nil => exact Nat.le_refl 0
  | @cons kind first rest lexemes hbegins _ ih =>
    have hpos : 0 < first.toList.length := by
      apply List.length_pos_of_ne_nil
      intro hnil
      exact hbegins.ne_empty (String.toList_eq_nil_iff.mp hnil)
    rw [String.toList_append, List.length_append, List.length_cons]
    omega

end

/-! ## §2 Lexemes of more than one character -/

/-- Whether the lexeme has more than one character. -/
def Lexeme.isLong (lexeme : Lexeme) : Bool :=
  1 < lexeme.text.toList.length

/-- Of the lexemes that the text falls into, these have more than one character. -/
def LongLexemes (text : String) (long : List Lexeme) : Prop :=
  ∃ lexemes, Lexes text lexemes ∧ lexemes.filter Lexeme.isLong = long

/-- Whether no lexeme but a single character starts with `c`. -/
def isPlain (c : Char) : Bool :=
  c ≠ 'n' && c ≠ '"' && c ≠ '-' && c ≠ 'd'

theorem begins_of_isPlain {c : Char} (h : isPlain c = true) (rest : String) :
    Begins .single (String.singleton c) rest := by
  simp only [isPlain, Bool.and_eq_true, decide_eq_true_eq] at h
  obtain ⟨⟨⟨hn, hmark⟩, hdash⟩, hd⟩ := h
  apply Begins.single
  simp [startsWith, List.isPrefixOf, hn.symm, hmark.symm, hdash.symm, hd.symm]

theorem begins_nodeName (id : Nat) {rest : String}
    (hrest : rest.toList.head?.all (fun c => !c.isDigit) = true) :
    Begins .name (nodeName id) rest := by
  refine Begins.name ?_ hrest
  rw [List.all_eq_true]
  intro c hc
  have hdigit : c ∈ Nat.toDigits 10 id := by simpa using hc
  exact Nat.isDigit_of_mem_toDigits (by decide) (by decide) hdigit

namespace LongLexemes

variable {rest : String} {long : List Lexeme}

theorem nil : LongLexemes "" [] :=
  ⟨[], .nil, rfl⟩

theorem cons (lexeme : Lexeme) (hbegins : Begins lexeme.kind lexeme.text rest)
    (hlong : lexeme.isLong = true) (h : LongLexemes rest long) :
    LongLexemes (lexeme.text ++ rest) (lexeme :: long) := by
  obtain ⟨lexemes, hlexes, rfl⟩ := h
  exact ⟨_, .cons hbegins hlexes, List.filter_cons_of_pos hlong⟩

theorem single {c : Char} (hbegins : Begins .single (String.singleton c) rest)
    (h : LongLexemes rest long) : LongLexemes (String.singleton c ++ rest) long := by
  obtain ⟨lexemes, hlexes, rfl⟩ := h
  refine ⟨_, .cons hbegins hlexes, ?_⟩
  simp [Lexeme.isLong]

/-- Plain characters stand on their own and leave the long lexemes as they are. -/
theorem plain (word : String) (hword : word.toList.all isPlain = true)
    (h : LongLexemes rest long) : LongLexemes (word ++ rest) long := by
  rw [← String.ofList_toList (s := word)]
  generalize word.toList = chars at hword
  induction chars with
  | nil => simpa using h
  | cons c chars ih =>
    rw [List.all_cons, Bool.and_eq_true] at hword
    rw [String.ofList_cons, String.append_assoc]
    exact single (begins_of_isPlain hword.1 _) (ih hword.2)

end LongLexemes

/-! ## §3 Lines of a graph description -/

theorem longLexemes_node (id : Nat) {label : String} (hlabel : '"' ∉ label.toList) :
    LongLexemes (Statement.node id label).text
      [⟨.name, nodeName id⟩, ⟨.quoted, "\"" ++ label ++ "\""⟩] := by
  have htext : (Statement.node id label).text =
      "  " ++ (nodeName id ++ (" [label=" ++ ("\"" ++ label ++ "\"" ++ ("];" ++ "")))) := by
    simp [← String.toList_inj, Statement.text]
  rw [htext]
  apply LongLexemes.plain "  " (by decide)
  -- The name is over at the blank, which is no digit.
  apply LongLexemes.cons ⟨.name, nodeName id⟩ (begins_nodeName id (by simp))
  · simp [Lexeme.isLong, toList_nodeName]
  apply LongLexemes.plain " [label=" (by decide)
  -- The label has no mark inside, so the next one closes it.
  apply LongLexemes.cons ⟨.quoted, "\"" ++ label ++ "\""⟩ (.closed hlabel _)
  · simp [Lexeme.isLong]
  exact LongLexemes.plain "];" (by decide) .nil

theorem longLexemes_edge (parent child : Nat) :
    LongLexemes (Statement.edge parent child).text
      [⟨.name, nodeName parent⟩, ⟨.arrow, "->"⟩, ⟨.name, nodeName child⟩] := by
  have htext : (Statement.edge parent child).text =
      "  " ++ (nodeName parent ++ (" " ++ ("->" ++ (" " ++ (nodeName child ++ (";" ++ "")))))) := by
    simp [← String.toList_inj, Statement.text]
  rw [htext]
  apply LongLexemes.plain "  " (by decide)
  apply LongLexemes.cons ⟨.name, nodeName parent⟩ (begins_nodeName parent (by simp))
  · simp [Lexeme.isLong, toList_nodeName]
  apply LongLexemes.plain " " (by decide)
  apply LongLexemes.cons ⟨.arrow, "->"⟩ (.arrow _)
  · decide
  apply LongLexemes.plain " " (by decide)
  apply LongLexemes.cons ⟨.name, nodeName child⟩ (begins_nodeName child (by simp))
  · simp [Lexeme.isLong, toList_nodeName]
  exact LongLexemes.plain ";" (by decide) .nil

theorem longLexemes_header : LongLexemes header [⟨.keyword, "digraph"⟩] := by
  have htext : header =
      "digraph" ++ (" Expressio" ++ (String.singleton 'n' ++ ("Tree \x7b" ++ ""))) := by decide
  rw [htext]
  apply LongLexemes.cons ⟨.keyword, "digraph"⟩ (.keyword _)
  · decide
  apply LongLexemes.plain " Expressio" (by decide)
  -- A node name could start here, but the word goes on in another way.
  apply LongLexemes.single (.single (by decide))
  exact LongLexemes.plain "Tree \x7b" (by decide) .nil

theorem longLexemes_footer : LongLexemes footer [] :=
  LongLexemes.plain footer (by decide) .nil

/-- A line of a document is its header, a statement of one of its nodes or links, or its footer. -/
theorem mem_lines_document {t : Expr} {line : List Char} (h : line ∈ Text.lines (document t)) :
    line = header.toList ∨
    (∃ i node, t.preorder[i]? = some node ∧ line = (Statement.node i node.label).text.toList) ∨
    (∃ parent child, line = (Statement.edge parent child).text.toList) ∨
    line = footer.toList := by
  simp only [lines_document_eq, List.mem_cons, List.mem_append, List.mem_map, List.not_mem_nil,
    or_false] at h
  rcases h with hheader | ⟨s, hs, rfl⟩ | hfooter
  · exact .inl hheader
  · cases s with
    | node id label =>
      -- Nodes are declared in preorder, so that a declaration stands at its own number.
      obtain ⟨j, hj⟩ := List.mem_iff_getElem?.mp (mem_declarations_iff.mpr hs)
      obtain ⟨rfl, hlabel⟩ := declaration_at_place hj
      obtain ⟨node, hnode, rfl⟩ := Option.map_eq_some_iff.mp hlabel
      exact .inr (.inl ⟨id, node, hnode, rfl⟩)
    | edge parent child => exact .inr (.inr (.inl ⟨parent, child, rfl⟩))
  · exact .inr (.inr (.inr hfooter))

end Graph

namespace View

open BraceArith.Graph

/-! ## §4 Coloured lines -/

/-- The spans of a coloured line that have more than one character. -/
def longSpans (line : List Char) : List Screen.Span :=
  (highlight line).filter fun span => 1 < span.chars.length

theorem highlight?_of_lexes {line : List Char} {lexemes : List Lexeme}
    (h : Lexes (String.ofList line) lexemes) :
    highlight? line = some (lexemes.map lexemeSpan) := by
  rw [highlight?, lexes_iff.mp h]
  rfl

theorem longSpans_of_longLexemes {text : String} {long : List Lexeme} (h : LongLexemes text long) :
    longSpans text.toList = long.map lexemeSpan := by
  obtain ⟨lexemes, hlexes, rfl⟩ := h
  rw [← String.ofList_toList (s := text)] at hlexes
  rw [longSpans, highlight, highlight?_of_lexes hlexes, Option.getD_some, List.filter_map]
  rfl

/-- Colouring a line loses nothing and cuts names, labels and arrows of a graph description as a
    whole.

    For every line whatsoever the colouring has an answer: no cut falls inside a character, each
    span has a character, so that there are no more spans than characters, and the spans together
    are the line.  For a line of a graph description, all spans are single characters except for
    the opening word in the header, name and quoted label in a declaration, and name, arrow and
    name in a link. -/
theorem highlight_keeps_line_and_words :
    (∀ line : List Char, ∃ spans, highlight? line = some spans ∧ highlight line = spans ∧
      (∀ span ∈ spans, span.chars ≠ []) ∧ spans.flatMap Screen.Span.chars = line ∧
      spans.length ≤ line.length) ∧
    (∀ t : Expr, ∀ line ∈ Text.lines (document t),
      (line = header.toList ∧ longSpans line = [.ofText "digraph" (.ink Palette.keyword)]) ∨
      (∃ i node, t.preorder[i]? = some node ∧ line = (Statement.node i node.label).text.toList ∧
        longSpans line =
          [.ofText (nodeName i) (.ink Palette.number),
           .ofText ("\"" ++ node.label ++ "\"") (.ink Palette.quoted)]) ∨
      (∃ i j, line = (Statement.edge i j).text.toList ∧
        longSpans line =
          [.ofText (nodeName i) (.ink Palette.number), .ofText "->" (.ink Palette.operator),
           .ofText (nodeName j) (.ink Palette.number)]) ∨
      (line = footer.toList ∧ longSpans line = [])) := by
  constructor
  · intro line
    obtain ⟨lexemes, hlexes⟩ := exists_lexes (String.ofList line)
    have hsome := highlight?_of_lexes hlexes
    refine ⟨lexemes.map lexemeSpan, hsome, by rw [highlight, hsome, Option.getD_some], ?_, ?_, ?_⟩
    · intro span hspan
      obtain ⟨lexeme, hmem, rfl⟩ := List.mem_map.mp hspan
      intro hnil
      exact hlexes.ne_empty lexeme hmem (String.toList_eq_nil_iff.mp hnil)
    · rw [List.flatMap_map]
      exact hlexes.flatMap_eq.trans String.toList_ofList
    · rw [List.length_map]
      simpa using hlexes.length_le
  · intro t line hline
    rcases mem_lines_document hline with rfl | ⟨i, node, hnode, rfl⟩ | ⟨i, j, rfl⟩ | rfl
    · refine .inl ⟨rfl, ?_⟩
      rw [longSpans_of_longLexemes longLexemes_header]
      rfl
    · have hlabel : '"' ∉ node.label.toList := not_mem_label (by decide) (by decide) node
      refine .inr (.inl ⟨i, node, hnode, rfl, ?_⟩)
      rw [longSpans_of_longLexemes (longLexemes_node i hlabel)]
      rfl
    · refine .inr (.inr (.inl ⟨i, j, rfl, ?_⟩))
      rw [longSpans_of_longLexemes (longLexemes_edge i j)]
      rfl
    · refine .inr (.inr (.inr ⟨rfl, ?_⟩))
      rw [longSpans_of_longLexemes longLexemes_footer]
      rfl

/-- The label of a difference is quoted, and no part of an arrow. -/
theorem highlight_keeps_label_of_difference :
    let line := (Statement.node 0 "-").text.toList
    line ∈ Text.lines (document (.binary .sub (.literal 1) (.literal 2))) ∧
      longSpans line =
        [.ofText "node0" (.ink Palette.number), .ofText "\"-\"" (.ink Palette.quoted)] := by
  intro line
  have hline : line ∈ Text.lines (document (.binary .sub (.literal 1) (.literal 2))) :=
    (text_mem_lines_document_iff _ (.node 0 "-")).mpr (List.mem_cons_self ..)
  refine ⟨hline, ?_⟩
  rcases highlight_keeps_line_and_words.2 _ line hline with
    ⟨hheader, -⟩ | ⟨i, node, -, htext, hlong⟩ | ⟨i, j, htext, -⟩ | ⟨hfooter, -⟩
  · exact absurd hheader (by decide)
  · have hsame := text_injective (String.toList_inj.mp htext)
    simp only [Statement.node.injEq] at hsame
    rw [hlong, ← hsame.1, ← hsame.2]
    rfl
  · exact absurd (String.toList_inj.mp htext) (text_node_ne_edge 0 i j "-")
  · exact absurd hfooter (by decide)

end View

end BraceArith
