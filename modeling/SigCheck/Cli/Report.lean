import SigCheck.Diagnostic
import SigCheck.Event
import SigCheck.Fault
import SigCheck.Header.Parse
import SigCheck.Location
import SigCheck.Token.Scanner

/-!
# Reports

What the program says beside its output: lines of the log, files it could not use, and reports of
errors in a text.  A report has a heading, a place in the text and a message.
-/

namespace SigCheck

/-- The part of the program that notes an event. -/
def Event.component : Event → String
  | loadingHeader _ | headerFailed _ _ | enteringFunction _ | exitingFunction _ =>
    "jsig_typeck::program"
  | readingHeader _ => "jsig_driver::header_loader"
  | skippedNode _ | skippedFunction _ => "jsig_typeck::verifiers"

namespace Cli

/-- Why a file could not be read. -/
inductive ReadError where
  | notFound
  | isDirectory
  | notDirectory
  | nameTooLong
  /-- The file is not UTF-8 text. -/
  | notText
  | other (reason : String)
deriving DecidableEq, Repr

/-- What went wrong. -/
def ReadError.message : ReadError → String
  | notFound => "No such file or directory (os error 2)"
  | isDirectory => "Is a directory (os error 21)"
  | notDirectory => "Not a directory (os error 20)"
  | nameTooLong => "File name too long (os error 36)"
  | notText => "stream did not contain valid UTF-8"
  | other reason => reason

/-- A report of an error in a text. -/
structure Report where
  code : String
  title : String
  message : String
  file : String
  /-- Counted from 1. -/
  line : Nat
  /-- Counted from 1, in characters. -/
  column : Nat
deriving DecidableEq, Repr

namespace Report

/-- The first line of a report. -/
def heading (r : Report) : String := "[" ++ r.code ++ "] Error: " ++ r.title

/-- The place of a report. -/
def place (r : Report) : String :=
  "at " ++ r.file ++ ":" ++ toString r.line ++ ":" ++ toString r.column

/-- A report at a character offset. -/
def atOffset (code title message file : String) (source : Text) (offset : Nat) : Report :=
  let (line, column) := lineColumn source offset
  ⟨code, title, message, file, line, column⟩

/-- The report of a diagnostic, if its location has a range. -/
def ofDiagnostic? (file : String) (source : Text) (d : Diagnostic) : Option Report :=
  (d.loc.range? source).map fun range =>
    atOffset d.kind.tag "Type error" d.text file source range.1

/-- The report of a parse error. -/
def ofParseError (file : String) (source : Text) (e : ParseError) : Report :=
  atOffset "E1000" "Parse error" e.message file source (Text.charOffset source e.span.start)

/-- The reports of the errors among tokens. -/
def ofTokens (file : String) (source : Text) (tokens : List Token) : List Report :=
  (tokens.filter (·.kind == .error)).map fun t =>
    atOffset "E0001" "Lexical error" t.value file source (Text.charOffset source t.span.start)

end Report

/-- What the program says beside its output. -/
inductive Notice where
  | event (e : Event)
  | unreadableSource (e : ReadError)
  | unreadableTree (path : String) (e : ReadError)
  | malformedTree (path : String)
  | fault (f : Fault)
  | report (r : Report)

namespace Notice

/-- The colour of a level, as a terminal code. -/
def colour : Level → String
  | .warn => "\x1b[33m"
  | .debug => "\x1b[36m"

/-- The text of a notice. -/
def text : Notice → String
  | event e =>
    colour e.level ++ "[" ++ e.level.title ++ "]\x1b[0m " ++ e.component ++ ": " ++ e.message
  | unreadableSource e => "Error reading file: " ++ e.message
  | unreadableTree path e => "Error reading AST " ++ path ++ ": " ++ e.message
  | malformedTree path => "Error reading AST " ++ path ++ ": not a syntax tree in JSON"
  | fault f => "Internal checker fault: " ++ f.message
  | report r => r.heading ++ "\n" ++ r.place ++ "\n" ++ r.message

end Notice

end Cli

end SigCheck
