import SigCheck.Cli.Command
import SigCheck.Cli.Report
import SigCheck.Header.Layout
import SigCheck.Node.Read
import SigCheck.Path
import SigCheck.Text.Quoted
import SigCheck.Visit

/-!
# Running commands

A run of the program as a function of its command line and of the files it can read.
-/

namespace SigCheck.Cli

/-- The texts of files by their paths. -/
abbrev Files := String → Except ReadError String

/-- What a run of the program leaves behind. -/
structure Outcome where
  /-- The exit status: 0 for success, 1 for errors in the files, 2 for a fault or wrong usage, and
  101 for a number that is too large. -/
  status : Nat
  output : String
  notices : List Notice

/-! ### Checking a program -/

/-- The file with the tree of a program. -/
def treePath (input : String) (tree : Option String) : String :=
  tree.getD (Path.withExtension input "ast.json")

/-- Headers are read from the named file, or else from the file of their name. -/
def headerLoader (files : Files) (header : Option String) : Loader where
  load _ name :=
    match files (header.getD name) with
    | .ok source => Header.ofSource source
    | .error e => .error (.unreadable e.message)
  path? name := some (header.getD name)

/-- What a check found out about the header and the exports. -/
def summary (env : Env) : String :=
  let signatures := match env.header with
    | some h => "Header declares " ++ toString h.assignments.length ++ " signature(s)\n"
    | none => ""
  let exports := match env.exports with
    | some n => "module.exports: " ++ n.identifierName?.getD n.kind.title ++ "\n"
    | none => ""
  signatures ++ exports

/-- The events that are shown: all of them, or the warnings. -/
def shown (verbose : Bool) (log : List Event) : List Notice :=
  (log.filter fun e => verbose || e.level == .warn).map .event

/-- Checks the program with the given tree. -/
def checkTree (files : Files) (input source : String) (header : Option String) (verbose : Bool)
    (root : Node) : Outcome :=
  let (outcome, env) := (Env.start root input (headerLoader files header)).check
  let log := shown verbose env.log
  match outcome with
  | .error f => ⟨2, "", log ++ [.fault f]⟩
  | .ok _ =>
    let opening := if verbose then summary env else ""
    match env.errors with
    | [] => ⟨0, opening ++ "Type check passed!\n", log⟩
    | errors =>
      -- the run ends at the first location without a range
      let reports := errors.map (Report.ofDiagnostic? input source.toList)
      let notices := log ++ ((reports.takeWhile Option.isSome).filterMap id).map .report
      if reports.all Option.isSome then
        ⟨1, opening ++ "Found " ++ toString errors.length ++ " type error(s)\n", notices⟩
      else ⟨101, opening, notices⟩

/-- Checks a program against its header. -/
def check (files : Files) (input : String) (tree header : Option String) (verbose : Bool) :
    Outcome :=
  let outcome := match files input with
    | .error e => ⟨1, "", [.unreadableSource e]⟩
    | .ok source =>
      let path := treePath input tree
      match files path with
      | .error e => ⟨1, "", [.unreadableTree path e]⟩
      | .ok text =>
        match Node.ofText? text with
        | none => ⟨1, "", [.malformedTree path]⟩
        | some root => checkTree files input source header verbose root
  if verbose then
    { outcome with output := "Type checking: " ++ input ++ "\n" ++ outcome.output }
  else outcome

/-! ### Headers -/

/-- Does something with the text of a file. -/
def withSource (files : Files) (input : String) (act : String → Outcome) : Outcome :=
  match files input with
  | .error e => ⟨1, "", [.unreadableSource e]⟩
  | .ok source => act source

/-- Prints a header in its canonical layout. -/
def printed (indent : Nat) (h : Header) : Outcome :=
  match h.render? ⟨indent, 0⟩ with
  | some text => ⟨0, text ++ "\n", []⟩
  | none => ⟨101, "", []⟩

/-- Reads a header and prints it. -/
def printHeader (input : String) (indent : Nat) (source : String) : Outcome :=
  let tokens := tokenize source
  match Report.ofTokens input source.toList tokens with
  | [] =>
    match Header.ofTokens tokens with
    | .ok h => printed indent h
    | .error errors => ⟨1, "", errors.map fun e => .report (.ofParseError input source.toList e)⟩
  | reports => ⟨1, "", reports.map .report⟩

/-- A number in at least four places. -/
def index (n : Nat) : String :=
  let digits := toString n
  String.ofList (List.replicate (4 - digits.length) ' ') ++ digits

/-- The line of a token in a listing. -/
def tokenLine (positions : Bool) (i : Nat) (t : Token) : String :=
  let place := if positions then " | " ++ t.span.text else ""
  index i ++ " | " ++ t.kind.title ++ " | " ++ Text.quoted t.value ++ place ++ "\n"

/-- The lines of tokens from number `i` on, up to the end of the input. -/
def tokenLines (positions : Bool) : Nat → List Token → String
  | _, [] => ""
  | i, t :: ts =>
    if t.kind = .eof then "\n" ++ index i ++ " | " ++ t.kind.title ++ "\n"
    else tokenLine positions i t ++ tokenLines positions (i + 1) ts

/-- The line between the parts of a listing. -/
def rule : String := String.ofList (List.replicate 80 '=') ++ "\n"

/-- Lists the tokens of a header. -/
def listTokens (input : String) (positions : Bool) (source : String) : Outcome :=
  let tokens := tokenize source
  let listing := "Tokens for " ++ input ++ ":\n\n" ++ rule ++ tokenLines positions 0 tokens ++
    rule ++ "\nTotal tokens: " ++ toString tokens.length ++ "\n"
  match Report.ofTokens input source.toList tokens with
  | [] => ⟨0, listing, []⟩
  | reports =>
    ⟨1, listing ++ "\nLexer errors found: " ++ toString reports.length ++ "\n",
      reports.map .report⟩

/-! ### Requests -/

/-- The files a command may read. -/
def Command.files : Command → List String
  | check input tree headerFile _ =>
    [input, treePath input tree, headerFile.getD (Header.fileName input)]
  | header input _ | lex input _ => [input]

/-- Runs a command. -/
def Command.run (files : Files) : Command → Outcome
  | .check input tree headerFile verbose => Cli.check files input tree headerFile verbose
  | .header input indent => withSource files input (printHeader input indent)
  | .lex input positions => withSource files input (listTokens input positions)

/-- The name and the number of the program. -/
def version : String := "jsig 0.1.0"

/-- How the program is used. -/
def usage : String :=
  "Usage: jsig check INPUT [--ast FILE] [--header FILE] [--verbose]\n" ++
  "       jsig header INPUT [--indent N]\n" ++
  "       jsig lex INPUT [--positions]\n"

/-- Runs the program; a wrong command line ends it at once. -/
def run (files : Files) (args : List String) : Outcome :=
  match Request.parse? args with
  | some (.command c) => c.run files
  | some .version => ⟨0, version ++ "\n", []⟩
  | some .help => ⟨0, usage, []⟩
  | none => ⟨2, "", []⟩

end SigCheck.Cli
