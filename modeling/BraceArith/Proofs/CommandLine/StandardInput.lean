import BraceArith.CommandLine.Program
import BraceArith.Proofs.Session.Cache

/-!
# A line from standard input

Line mode takes its line from the command line or, if there is none, from standard input.  The two
ways pass different texts on: what is read from standard input keeps its line end, and bytes may
follow that are no text at all.  None of that shows.  In UTF-8 the byte of a line feed occurs in no
other character, so the first line ends where its characters end; and a line end is a blank, which
has no influence on what comes of a line.

## Main statements

- `Text.fromUTF8?_bytes`, `Text.feed_not_mem_bytes`: the bytes of a text
- `exists_firstLine_eq`: the first line of standard input
- `evaluateLine_congr`: line mode does not see blanks
- `CommandLine.ofArguments_attached`: command lines that ask for line mode
-/

namespace BraceArith

namespace Text

/-! ## §1 Bytes of a text -/

/-- The bytes of a text in UTF-8. -/
def bytes (text : String) : List UInt8 :=
  text.toUTF8.data.toList

theorem bytes_append (a b : String) : bytes (a ++ b) = bytes a ++ bytes b := by
  simp [bytes]

/-- Bytes of a text read back as the text. -/
theorem fromUTF8?_bytes (text : String) :
    String.fromUTF8? ⟨(bytes text).toArray⟩ = some text := by
  have hbytes : (⟨(bytes text).toArray⟩ : ByteArray) = text.toByteArray := by simp [bytes]
  rw [hbytes, String.fromUTF8?, dif_pos text.isValidUTF8]
  rfl

theorem bytes_eq_flatMap (text : String) :
    bytes text = text.toList.flatMap String.utf8EncodeChar := by
  have hencode : text.toByteArray = text.toList.utf8Encode := by
    rw [← String.toByteArray_ofList, String.ofList_toList]
  rw [bytes, String.toUTF8_eq_toByteArray, hencode, List.utf8Encode, List.toList_data_toByteArray]

/-- The bytes of a character beyond ASCII are beyond ASCII too. -/
theorem le_toNat_of_mem_utf8EncodeChar {c : Char} (hc : 127 < c.val.toNat) :
    ∀ b ∈ String.utf8EncodeChar c, 128 ≤ b.toNat := by
  simp only [String.utf8EncodeChar, if_neg (Nat.not_le_of_lt hc)]
  -- Two, three or four bytes: each of them has 128 added to it at least.
  repeat' split
  all_goals
    simp only [List.mem_cons, List.not_mem_nil, or_false, forall_eq_or_imp, forall_eq,
      UInt8.toNat_ofNat']
    omega

theorem eq_newline_of_mem_utf8EncodeChar {c : Char} (h : 10 ∈ String.utf8EncodeChar c) :
    c = '\n' := by
  rcases Nat.lt_or_ge 127 c.val.toNat with hlong | hshort
  · exact absurd (le_toNat_of_mem_utf8EncodeChar hlong 10 h) (by decide)
  · simp only [String.utf8EncodeChar, if_pos hshort, List.mem_singleton] at h
    have hbyte := congrArg UInt8.toNat h
    rw [UInt8.toNat_ofNat_of_lt' (Nat.lt_of_le_of_lt hshort (by decide))] at hbyte
    exact Char.ext (UInt32.toNat_inj.mp hbyte.symm)

/-- A text without line feeds has no byte that looks like one. -/
theorem feed_not_mem_bytes {text : String} (h : '\n' ∉ text.toList) : 10 ∉ bytes text := by
  rw [bytes_eq_flatMap, List.mem_flatMap]
  rintro ⟨c, hc, hfeed⟩
  exact h (eq_newline_of_mem_utf8EncodeChar hfeed ▸ hc)

end Text

/-! ## §2 The first line -/

theorem firstLine_eq_self {line : List UInt8} (h : 10 ∉ line) : firstLine line = line := by
  induction line with
  | nil => rfl
  | cons b line ih =>
    rw [List.mem_cons, not_or] at h
    rw [firstLine, if_neg (Ne.symm h.1), ih h.2]

theorem firstLine_append_feed {line : List UInt8} (h : 10 ∉ line) (more : List UInt8) :
    firstLine (line ++ 10 :: more) = line ++ [10] := by
  induction line with
  | nil => rfl
  | cons b line ih =>
    rw [List.mem_cons, not_or] at h
    rw [List.cons_append, firstLine, if_neg (Ne.symm h.1), ih h.2]
    rfl

/-- The first line is read back as the text, or as the text and its line end. -/
theorem exists_firstLine_eq {text : String} (htext : '\n' ∉ text.toList) {tail : List UInt8}
    (htail : tail = [] ∨ ∃ more, tail = 10 :: more) :
    ∃ ending, Text.strip ending = [] ∧
      firstLine (Text.bytes text ++ tail) = Text.bytes (text ++ ending) := by
  have hfeed := Text.feed_not_mem_bytes htext
  rcases htail with rfl | ⟨more, rfl⟩
  · refine ⟨"", by decide, ?_⟩
    rw [List.append_nil, firstLine_eq_self hfeed, String.append_empty]
  · refine ⟨"\n", by decide, ?_⟩
    rw [firstLine_append_feed hfeed, Text.bytes_append]
    rfl

/-! ## §3 Blanks have no influence -/

/-- What is said about a line does not repeat it. -/
theorem Response.ofReport_withInput (path : String) (report : Report) (input : String) :
    ofReport path { report with input := input } = ofReport path report := by
  funext fault?
  cases fault? with
  | none => rfl
  | some fault => rfl

theorem evaluateLine_congr {a b : String} (h : Text.strip a = Text.strip b) (disk : Disk)
    (path : String) : evaluateLine disk path a = evaluateLine disk path b := by
  -- The outcomes differ in the line they keep, and no output shows that line.
  have hb := analyze_withInput h
  cases ha : analyze a with
  | error e =>
    rw [ha] at hb
    simp only [evaluateLine, lineResponse, ha, ← hb, Outcome.withInput]
  | ok report =>
    rw [ha] at hb
    simp only [evaluateLine, lineResponse, ha, ← hb, Outcome.withInput,
      Response.ofReport_withInput]

/-- The first line of standard input is evaluated like its text. -/
theorem evaluateInput_eq {text : String} (htext : '\n' ∉ text.toList) {tail : List UInt8}
    (htail : tail = [] ∨ ∃ more, tail = 10 :: more) (disk : Disk) (path : String) :
    evaluateInput disk path (Text.bytes text ++ tail) =
      ({ (evaluateLine disk path text).1 with
          stdout := prompt ++ (evaluateLine disk path text).1.stdout },
        (evaluateLine disk path text).2) := by
  -- What is read is the text with its line end; the line end is taken out as a blank.
  obtain ⟨ending, hending, hfirst⟩ := exists_firstLine_eq htext htail
  have hstrip : Text.strip (text ++ ending) = Text.strip text := by
    rw [Text.strip_append, hending, List.append_nil]
  simp only [evaluateInput, inputResponse, hfirst, Text.fromUTF8?_bytes]
  rw [← evaluateLine_congr hstrip, evaluateLine]

/-! ## §4 Command lines -/

namespace CommandLine

theorem splitEquals_append (name : List Char) (h : '=' ∉ name) (value : List Char) :
    Scan.splitEquals (name ++ '=' :: value) = (String.ofList name, some (String.ofList value)) := by
  have htake : (name ++ '=' :: value).takeWhile (· ≠ '=') = name := by
    rw [List.takeWhile_append_of_pos]
    · simp
    · intro c hc
      simpa using fun heq : c = '=' => h (heq ▸ hc)
  simp only [Scan.splitEquals, htake, List.drop_left]

theorem argument_output {path : String} (hpath : path ≠ "") :
    ({} : Scan).argument ("--output=" ++ path) = .ok { output := some path } := by
  have hchars : ("--output=" ++ path).toList =
      '-' :: '-' :: ("output".toList ++ '=' :: path.toList) := by simp
  have hsplit := splitEquals_append "output".toList (by decide) path.toList
  have hset : ({} : Scan).setOutput path = .ok { output := some path } := by
    have hvalue : path.isEmpty = false := by simpa using hpath
    rw [Scan.setOutput, hvalue]
    rfl
  rw [String.ofList_toList, String.ofList_toList] at hsplit
  simp only [Scan.argument, hchars, hsplit]
  rw [Scan.word, if_pos rfl]
  exact hset

/-- Command lines that ask for line mode, with an expression and without one. -/
theorem ofArguments_attached (text : String) {path : String} (hpath : path ≠ "") :
    Request.ofArguments ["--output=" ++ path, "--", text] = .ok (.evaluate (some text) path) ∧
      Request.ofArguments ["--output=" ++ path] = .ok (.evaluate none path) := by
  have hdash : "--output=" ++ path ≠ "--" := by simp [← String.toList_inj]
  have hscan (rest : List String) : ({} : Scan).arguments (("--output=" ++ path) :: rest) =
      ({ output := some path } : Scan).arguments rest := by
    rw [Scan.arguments, if_neg hdash, argument_output hpath]
    rfl
  constructor
  · rw [Request.ofArguments, hscan, Scan.arguments, if_pos rfl]
    rfl
  · rw [Request.ofArguments, hscan]
    rfl

/-- A line is evaluated alike from the command line and from standard input.

    Take a text without line feeds, any path and any disk, and a standard input that starts with
    the text and is over then, or goes on with a line feed and whatever bytes.  Both ways give the
    same exit code, the same standard error and the same disk, and the same standard output behind
    the prompt.  If the text starts with no expression, both exit with one, leave the disk as it
    was and print nothing but the prompt.

    These are the runs of the program in line mode: every command line that asks for line mode
    leads to one of them, and for every text and every path that is not empty there are such
    command lines. -/
theorem standard_input_evaluates_like_argument (disk : Disk) (path text : String)
    (htext : '\n' ∉ text.toList) (tail : List UInt8)
    (htail : tail = [] ∨ ∃ more, tail = 10 :: more) :
    let given := evaluateLine disk path text
    let asked := evaluateInput disk path (Text.bytes text ++ tail)
    asked.1.exitCode = given.1.exitCode ∧ asked.1.stderr = given.1.stderr ∧
    asked.2 = given.2 ∧ asked.1.stdout = "Enter expression: " ++ given.1.stdout ∧
    (∀ error, parse text = .error error →
      given.1.exitCode = 1 ∧ given.1.stdout = "" ∧ given.2 = disk ∧
      asked.1.exitCode = 1 ∧ asked.1.stdout = "Enter expression: " ∧ asked.2 = disk) ∧
    (∀ arguments input keys,
      Request.ofArguments arguments = .ok (.evaluate (some text) path) →
      run disk arguments input keys = given) ∧
    (∀ arguments keys, Request.ofArguments arguments = .ok (.evaluate none path) →
      run disk arguments (Text.bytes text ++ tail) keys = asked) ∧
    (path ≠ "" → ∃ arguments arguments',
      Request.ofArguments arguments = .ok (.evaluate (some text) path) ∧
      Request.ofArguments arguments' = .ok (.evaluate none path)) := by
  intro given asked
  have hasked : asked = ({ given.1 with stdout := prompt ++ given.1.stdout }, given.2) :=
    evaluateInput_eq htext htail disk path
  refine ⟨by rw [hasked], by rw [hasked], by rw [hasked], by rw [hasked]; rfl, ?_, ?_, ?_, ?_⟩
  · intro error herror
    have hgiven : given = (.failure error.display, disk) :=
      evaluateLine_of_error (analyze_of_error herror) disk path
    rw [hasked, hgiven]
    exact ⟨rfl, rfl, rfl, rfl, rfl, rfl⟩
  · intro arguments input keys hrequest
    simp only [run, Task.ofArguments, hrequest]
    rfl
  · intro arguments keys hrequest
    simp only [run, Task.ofArguments, hrequest]
    rfl
  · intro hpath
    exact ⟨_, _, ofArguments_attached text hpath⟩

/-- A line that is refused, ended by a carriage return and a line feed, with a byte behind it that
    is no text. -/
theorem standard_input_evaluates_like_refused_argument :
    let text := "1+\r"
    let given := run {} ["--output=t", "--", text] [] []
    let asked := run {} ["--output=t"] (Text.bytes text ++ [10, 255]) []
    '\n' ∉ text.toList ∧ asked.1.stderr = given.1.stderr ∧ given.1.stdout = "" ∧
      asked.1.stdout = "Enter expression: " ∧ asked.1.exitCode = 1 ∧ asked.2 = {} := by
  intro text given asked
  have hpath : "t" ≠ "" := by decide
  obtain ⟨-, hstderr, -, -, hrefused, hgiven, hasked, -⟩ :=
    standard_input_evaluates_like_argument {} "t" text (by decide) [10, 255] (.inr ⟨[255], rfl⟩)
  have hparse : ∃ error, parse text = .error error := by
    have hfails : (parse text).isOk = false := by decide +kernel
    cases h : parse text with
    | error error => exact ⟨error, rfl⟩
    | ok tree =>
      rw [h] at hfails
      cases hfails
  obtain ⟨error, herror⟩ := hparse
  obtain ⟨-, hquiet, -, hexit, hprompt, hdisk⟩ := hrefused error herror
  obtain ⟨hrequest, hrequest'⟩ := ofArguments_attached text hpath
  have hrun : given = _ := hgiven _ [] [] hrequest
  have hrun' : asked = _ := hasked _ [] hrequest'
  rw [hrun, hrun']
  exact ⟨by decide, hstderr, hquiet, hprompt, hexit, hdisk⟩

end CommandLine

end BraceArith
