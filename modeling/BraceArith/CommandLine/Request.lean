import BraceArith.Graph.Statement
import BraceArith.Text.Printable

/-!
# What the command line asks for

The arguments are read from left to right.  Options may stand before or after the expression; a
double dash ends them.  The output option takes a value, attached to it or as the next argument,
and what is wrong with it comes to light when the next option or the expression is met, or at the
end.

## Main definitions

- `Request`: what a command line asks for
- `UsageError`: why a command line is refused
- `Request.ofArguments`: reads the arguments
-/

namespace BraceArith.CommandLine

/-! ## §1 Requests and errors -/

/-- What a command line asks for. -/
inductive Request where
  /-- Print how the program is used. -/
  | help
  /-- Print the program's version. -/
  | version
  /-- Evaluate one line: the expression, or the first line of standard input if there is none. -/
  | evaluate (expression : Option String) (output : String)
  /-- Open the explorer. -/
  | explore (output : String)
deriving DecidableEq, Repr

/-- Why a command line is refused. -/
inductive UsageError where
  /-- An unknown option, or a second expression. -/
  | unexpectedArgument (argument : String)
  /-- The output option has no value, or an empty one. -/
  | missingOutput
  /-- The option is given twice. -/
  | repeated (option : String)
  /-- The option takes no value but has one attached. -/
  | unexpectedValue (option value : String)
deriving DecidableEq, Repr

/-- How messages name the output option. -/
def outputUsage : String := "--output <OUTPUT>"

/-- The error in words.  Of an argument only what can be shown is quoted. -/
def UsageError.message : UsageError → String
  | unexpectedArgument argument =>
    "error: unexpected argument '" ++ Text.printable argument ++ "' found"
  | missingOutput =>
    "error: a value is required for '" ++ outputUsage ++ "' but none was supplied"
  | repeated option => "error: the argument '" ++ option ++ "' cannot be used multiple times"
  | unexpectedValue option value =>
    "error: unexpected value '" ++ Text.printable value ++ "' for '" ++ option ++
      "' found; no more were expected"

/-! ## §2 The state of reading -/

/-- Why reading the arguments ends early. -/
inductive Stop where
  /-- They ask for help. -/
  | help
  /-- They ask for the version. -/
  | version
  /-- They are refused. -/
  | misuse (error : UsageError)
deriving DecidableEq, Repr

/-- An output option whose value has not been looked at. -/
inductive OpenOutput where
  /-- There is none. -/
  | none
  /-- The next argument may be its value. -/
  | awaiting
  /-- The argument after it is its value. -/
  | given (value : String)
deriving DecidableEq, Repr

/-- What has been read. -/
structure Scan where
  /-- The expression. -/
  expression : Option String := none
  /-- The value of the output option. -/
  output : Option String := none
  /-- Whether the explorer is asked for. -/
  explorer : Bool := false
  /-- An output option that is still open. -/
  pending : OpenOutput := .none
deriving DecidableEq, Repr

namespace Scan

/-- Takes `value` as the value of the output option. -/
def setOutput (s : Scan) (value : String) : Except Stop Scan :=
  if s.output.isSome then .error (.misuse (.repeated outputUsage))
  else if value.isEmpty then .error (.misuse .missingOutput)
  else .ok { s with output := some value }

/-- Closes an open output option. -/
def close (s : Scan) : Except Stop Scan :=
  match s.pending with
  | .none => .ok s
  | .awaiting => .error (.misuse .missingOutput)
  | .given value => { s with pending := .none }.setOutput value

/-- The output option with its value attached. -/
def attachOutput (s : Scan) (value : String) : Except Stop Scan := do
  (← s.close).setOutput value

/-- The output option on its own. -/
def openOutput (s : Scan) : Except Stop Scan := do
  return { ← s.close with pending := .awaiting }

/-- The option that asks for the explorer. -/
def setExplorer (s : Scan) : Except Stop Scan := do
  let s ← s.close
  if s.explorer then .error (.misuse (.repeated "--tui")) else .ok { s with explorer := true }

/-- An option that ends reading at once. -/
def stop (s : Scan) (reason : Stop) : Except Stop Scan := do
  let _ ← s.close
  .error reason

/-- An argument that is no option. -/
def setExpression (s : Scan) (argument : String) : Except Stop Scan :=
  if s.expression.isSome then .error (.misuse (.unexpectedArgument argument))
  else do return { ← s.close with expression := some argument }

/-! ## §3 One argument -/

/-- Options of one letter, bundled behind a dash.  The output option takes the rest of the bundle
    as its value, less one equals sign. -/
def letters (s : Scan) : List Char → Except Stop Scan
  | [] => .ok s
  | c :: rest =>
    if c = 'o' then
      match rest with
      | [] => s.openOutput
      | '=' :: value => s.attachOutput (String.ofList value)
      | value => s.attachOutput (String.ofList value)
    else if c = 't' then do (← s.setExplorer).letters rest
    else if c = 'h' then s.stop .help
    else if c = 'V' then s.stop .version
    else .error (.misuse (.unexpectedArgument ("-" ++ c.toString)))

/-- An option of one word behind two dashes, with the text attached to it by an equals sign. -/
def word (s : Scan) (name : String) (value? : Option String) : Except Stop Scan :=
  let option := "--" ++ name
  let flag (action : Except Stop Scan) : Except Stop Scan :=
    match value? with
    | none => action
    | some value => .error (.misuse (.unexpectedValue option value))
  if name = "output" then
    match value? with
    | some value => s.attachOutput value
    | none => s.openOutput
  else if name = "tui" then flag s.setExplorer
  else if name = "help" then flag (s.stop .help)
  else if name = "version" then flag (s.stop .version)
  else .error (.misuse (.unexpectedArgument option))

/-- The name of an option and the text behind its first equals sign. -/
def splitEquals (chars : List Char) : String × Option String :=
  let name := chars.takeWhile (· ≠ '=')
  match chars.drop name.length with
  | [] => (String.ofList name, none)
  | _ :: value => (String.ofList name, some (String.ofList value))

/-- One argument before the double dash. -/
def argument (s : Scan) (text : String) : Except Stop Scan :=
  match text.toList with
  | '-' :: '-' :: chars =>
    let (name, value?) := splitEquals chars
    s.word name value?
  | '-' :: c :: chars => s.letters (c :: chars)
  | _ =>
    if s.pending = .awaiting then .ok { s with pending := .given text } else s.setExpression text

/-! ## §4 All arguments -/

/-- All arguments; those after the double dash are no options. -/
def arguments (s : Scan) : List String → Except Stop Scan
  | [] => s.close
  | text :: rest =>
    if text = "--" then do (← rest.foldlM setExpression s).close
    else do (← s.argument text).arguments rest

end Scan

/-- What the arguments ask for. -/
def Request.ofArguments (arguments : List String) : Except UsageError Request :=
  match ({} : Scan).arguments arguments with
  | .error .help => .ok .help
  | .error .version => .ok .version
  | .error (.misuse e) => .error e
  | .ok scan =>
    let output := scan.output.getD Graph.defaultPath
    .ok (if scan.explorer then .explore output else .evaluate scan.expression output)

end BraceArith.CommandLine
