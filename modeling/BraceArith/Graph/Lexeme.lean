import BraceArith.Text.Offset

/-!
# Lexemes of a graph description

For display, a line of a graph description is cut into lexemes: node names, quoted labels, arrows,
the word that opens the graph, and single characters for everything else.  The line is a text in
UTF-8.  Of what is left of it, the first lexeme is measured in bytes and cut off there, until
nothing is left.  A cut has no answer inside a character, and then the line has no lexemes; but
that never happens, since a lexeme is measured character by character.

## Main definitions

- `Lexeme`: a kind together with its text
- `extent?`: what the first lexeme is, and how many bytes it takes
- `lexeme?`: the first lexeme, and what follows it
- `lexemes?`: all lexemes of a line
- `Begins`: what it means for a text to start with a lexeme

## Main statements

- `Begins.lexeme?_eq`: a lexeme at the start of a text is found and cut off
- `exists_begins`: a text that is not empty starts with a lexeme
-/

namespace BraceArith.Graph

/-! ## §1 Types -/

/-- What a lexeme is. -/
inductive LexemeKind where
  /-- The word `node` and the digits after it. -/
  | name
  /-- From a quotation mark to the next one, or to the end of the line. -/
  | quoted
  /-- The arrow of a link. -/
  | arrow
  /-- The word that opens a graph. -/
  | keyword
  /-- Any other character, on its own. -/
  | single
deriving DecidableEq, Repr

/-- A piece of a line. -/
structure Lexeme where
  /-- What it is. -/
  kind : LexemeKind
  /-- Its text. -/
  text : String
deriving DecidableEq, Repr

/-! ## §2 One lexeme -/

/-- Whether `text` starts with `word`. -/
def startsWith (word text : String) : Bool :=
  word.toList.isPrefixOf text.toList

/-- Number of bytes of the digits that `text` starts with. -/
def digitBytes (text : String) : Nat :=
  text.utf8ByteSize - (String.ofList (text.toList.dropWhile Char.isDigit)).utf8ByteSize

/-- Number of bytes through the quotation mark that closes the one at the start of `text`; all
    bytes if there is none. -/
def quotedBytes? (text : String) : Option Nat :=
  (Text.cutAt? text 1).map fun (_, behind) =>
    match Text.firstOffset? behind '"' with
    | some offset => offset + 2
    | none => text.utf8ByteSize

/-- What lexeme a text that is not empty starts with, and how many bytes it takes. -/
def extent? (text : String) : Option (LexemeKind × Nat) :=
  if startsWith "node" text then
    some (.name, 4 + digitBytes (String.ofList (text.toList.drop 4)))
  else if startsWith "\"" text then (quotedBytes? text).map fun size => (.quoted, size)
  else if startsWith "->" text then some (.arrow, 2)
  else if startsWith "digraph" text then some (.keyword, 7)
  else some (.single, (text.toList.head?.map Char.utf8Size).getD 1)

/-- The lexeme that a text starts with, and what follows it. -/
def lexeme? (text : String) : Option (Lexeme × String) :=
  (extent? text).bind fun (kind, size) =>
    (Text.cutAt? text size).map fun (first, rest) => (⟨kind, first⟩, rest)

/-! ## §3 How a text starts -/

/-- The text `first ++ rest` starts with the lexeme `first` of the given kind.  A name takes all
    digits there are, and a quotation ends at the first mark there is. -/
inductive Begins : LexemeKind → String → String → Prop
  | name {digits rest : String} (hdigits : digits.toList.all Char.isDigit = true)
      (hrest : rest.toList.head?.all (fun c => !c.isDigit) = true) :
      Begins .name ("node" ++ digits) rest
  | closed {inner : String} (hinner : '"' ∉ inner.toList) (rest : String) :
      Begins .quoted ("\"" ++ inner ++ "\"") rest
  | unclosed {inner : String} (hinner : '"' ∉ inner.toList) : Begins .quoted ("\"" ++ inner) ""
  | arrow (rest : String) : Begins .arrow "->" rest
  | keyword (rest : String) : Begins .keyword "digraph" rest
  | single {c : Char} {rest : String}
      (hother : ∀ word ∈ ["node", "\"", "->", "digraph"],
        startsWith word (String.singleton c ++ rest) = false) :
      Begins .single (String.singleton c) rest

theorem startsWith_iff {word text : String} :
    startsWith word text = true ↔ ∃ rest, text = word ++ rest := by
  rw [startsWith, List.isPrefixOf_iff_prefix]
  constructor
  · rintro ⟨rest, hrest⟩
    exact ⟨String.ofList rest, by simp [← String.toList_inj, hrest]⟩
  · rintro ⟨rest, rfl⟩
    simp

theorem startsWith_append (word rest : String) : startsWith word (word ++ rest) = true :=
  startsWith_iff.mpr ⟨rest, rfl⟩

theorem digitBytes_append {digits rest : String} (hdigits : digits.toList.all Char.isDigit = true)
    (hrest : rest.toList.head?.all (fun c => !c.isDigit) = true) :
    digitBytes (digits ++ rest) = digits.utf8ByteSize := by
  have hdrop : (digits ++ rest).toList.dropWhile Char.isDigit = rest.toList := by
    rw [String.toList_append, List.dropWhile_append_of_pos (by simpa using hdigits)]
    cases h : rest.toList with
    | nil => rfl
    | cons c chars =>
      have hc : c.isDigit = false := by simpa [h] using hrest
      simp [hc]
  rw [digitBytes, hdrop, String.ofList_toList, String.utf8ByteSize_append, Nat.add_sub_cancel]

theorem extent?_node (rest : String) :
    extent? ("node" ++ rest) = some (.name, 4 + digitBytes rest) := by
  have hbehind : ("node" ++ rest).toList.drop 4 = rest.toList := by simp
  rw [extent?, if_pos (startsWith_append "node" rest), hbehind, String.ofList_toList]

theorem extent?_quote (behind : String) :
    extent? ("\"" ++ behind) =
      some (.quoted, match Text.firstOffset? behind '"' with
        | some offset => offset + 2
        | none => ("\"" ++ behind).utf8ByteSize) := by
  have hcut : Text.cutAt? ("\"" ++ behind) 1 = some ("\"", behind) :=
    Text.cutAt?_append "\"" behind
  have hnode : startsWith "node" ("\"" ++ behind) = false := by
    simp [startsWith, List.isPrefixOf]
  rw [extent?, hnode, if_pos (startsWith_append "\"" behind), quotedBytes?, hcut]
  rfl

section

variable {kind : LexemeKind} {first rest : String}

/-- A lexeme is measured by its bytes. -/
theorem Begins.extent?_eq (h : Begins kind first rest) :
    extent? (first ++ rest) = some (kind, first.utf8ByteSize) := by
  cases h with
  | name hdigits hrest =>
    rw [String.append_assoc, extent?_node, digitBytes_append hdigits hrest,
      String.utf8ByteSize_append]
    rfl
  | @closed inner hinner rest =>
    have hoffset : Text.firstOffset? (inner ++ "\"" ++ rest) '"' = some inner.utf8ByteSize :=
      Text.firstOffset?_append hinner rest
    have htext : "\"" ++ inner ++ "\"" ++ rest = "\"" ++ (inner ++ "\"" ++ rest) := by
      simp only [String.append_assoc]
    -- The offset is counted behind the first mark, and the second one is taken too.
    have hsize : ("\"" ++ inner ++ "\"").utf8ByteSize = inner.utf8ByteSize + 2 := by
      have hmark : "\"".utf8ByteSize = 1 := rfl
      rw [String.utf8ByteSize_append, String.utf8ByteSize_append, hmark]
      omega
    rw [htext, extent?_quote, hoffset, hsize]
  | unclosed hinner =>
    rw [String.append_empty, extent?_quote, Text.firstOffset?_eq_none hinner]
  | arrow rest =>
    have hsize : "->".utf8ByteSize = 2 := rfl
    simp [extent?, startsWith, hsize]
  | keyword rest =>
    have hsize : "digraph".utf8ByteSize = 7 := rfl
    simp [extent?, startsWith, hsize]
  | single hother =>
    simp only [List.mem_cons, List.not_mem_nil, or_false, forall_eq_or_imp, forall_eq] at hother
    obtain ⟨hname, hquoted, harrow, hkeyword⟩ := hother
    simp [extent?, hname, hquoted, harrow, hkeyword]

/-- A lexeme at the start of a text is found there and cut off. -/
theorem Begins.lexeme?_eq (h : Begins kind first rest) :
    lexeme? (first ++ rest) = some (⟨kind, first⟩, rest) := by
  simp only [lexeme?, h.extent?_eq, Option.bind_some, Text.cutAt?_append, Option.map_some]

theorem Begins.ne_empty (h : Begins kind first rest) : first ≠ "" := by
  cases h with
  | name => simp [← String.toList_inj]
  | closed => simp [← String.toList_inj]
  | unclosed => simp [← String.toList_inj]
  | arrow => decide
  | keyword => decide
  | single => simp [← String.toList_inj]

end

/-- Every text that is not empty starts with a lexeme. -/
theorem exists_begins {text : String} (hne : text ≠ "") :
    ∃ kind first rest, text = first ++ rest ∧ Begins kind first rest := by
  by_cases hname : startsWith "node" text = true
  · obtain ⟨behind, rfl⟩ := startsWith_iff.mp hname
    refine ⟨.name, "node" ++ String.ofList (behind.toList.takeWhile Char.isDigit),
      String.ofList (behind.toList.dropWhile Char.isDigit), ?_, .name ?_ ?_⟩
    · simp only [String.append_assoc, ← String.ofList_append, List.takeWhile_append_dropWhile,
        String.ofList_toList]
    · simp
    · have hhead := List.head?_dropWhile_not Char.isDigit behind.toList
      rw [String.toList_ofList]
      split at hhead
      next c hc => simp [hc, hhead]
      next hc => simp [hc]
  by_cases hquoted : startsWith "\"" text = true
  · obtain ⟨behind, rfl⟩ := startsWith_iff.mp hquoted
    by_cases hmark : '"' ∈ behind.toList
    · obtain ⟨inner, rest, hbehind, hinner⟩ := List.eq_append_cons_of_mem hmark
      refine ⟨.quoted, "\"" ++ String.ofList inner ++ "\"", String.ofList rest, ?_,
        .closed (by simpa using hinner) _⟩
      simp [← String.toList_inj, hbehind]
    · exact ⟨.quoted, "\"" ++ behind, "", String.append_empty.symm, .unclosed hmark⟩
  by_cases harrow : startsWith "->" text = true
  · obtain ⟨rest, rfl⟩ := startsWith_iff.mp harrow
    exact ⟨.arrow, "->", rest, rfl, .arrow rest⟩
  by_cases hkeyword : startsWith "digraph" text = true
  · obtain ⟨rest, rfl⟩ := startsWith_iff.mp hkeyword
    exact ⟨.keyword, "digraph", rest, rfl, .keyword rest⟩
  -- No word fits, and the first character stands on its own.
  obtain ⟨c, rest, hchars⟩ :=
    List.exists_cons_of_ne_nil fun hnil => hne (String.toList_eq_nil_iff.mp hnil)
  obtain rfl : text = String.singleton c ++ String.ofList rest := by
    simp [← String.toList_inj, hchars]
  exact ⟨.single, String.singleton c, String.ofList rest, rfl,
    .single (by simp [hname, hquoted, harrow, hkeyword])⟩

/-! ## §4 All lexemes -/

/-- Less is left behind a lexeme than before it. -/
theorem utf8ByteSize_lt_of_lexeme? {text rest : String} {lexeme : Lexeme} (hne : text ≠ "")
    (h : lexeme? text = some (lexeme, rest)) : rest.utf8ByteSize < text.utf8ByteSize := by
  obtain ⟨kind, first, rest', rfl, hbegins⟩ := exists_begins hne
  rw [hbegins.lexeme?_eq] at h
  cases h
  have hpos : 0 < first.utf8ByteSize :=
    Nat.pos_of_ne_zero fun hzero => hbegins.ne_empty (String.utf8ByteSize_eq_zero_iff.mp hzero)
  rw [String.utf8ByteSize_append]
  exact Nat.lt_add_of_pos_left hpos

/-- The lexemes of a line, from left to right. -/
def lexemes? (text : String) : Option (List Lexeme) :=
  if _ : text = "" then some []
  else
    match _ : lexeme? text with
    | some (first, rest) => (lexemes? rest).map (first :: ·)
    | none => none
termination_by text.utf8ByteSize
decreasing_by exact utf8ByteSize_lt_of_lexeme? ‹_› ‹_›

/-- A quotation that nothing closes takes the rest of the line; a name takes no other digits than
    those of ASCII. -/
example :
    lexemes? "node7٣\"∂" = some [⟨.name, "node7"⟩, ⟨.single, "٣"⟩, ⟨.quoted, "\"∂"⟩] := by
  decide +kernel

end BraceArith.Graph
