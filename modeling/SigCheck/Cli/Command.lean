import SigCheck.Text.Measure

/-!
# The command line

A command line names a command, its input file and its options, in any order behind the name.  An
option is a switch, `--verbose` or `-v`, or a setting with a value, `--indent 2` or `--indent=2`.
Each is given at most once, and `--` ends the options.  The arguments are read from left to right,
so `help` counts unless something before it is wrong.
-/

namespace SigCheck.Cli

/-- What the program can be asked to do. -/
inductive Command where
  /-- Check a program against its header; the tree of the program and the header stand in files
  beside it unless other files are named. -/
  | check (input : String) (tree header : Option String) (verbose : Bool)
  /-- Print a header in its canonical layout. -/
  | header (input : String) (indent : Nat)
  /-- List the tokens of a header. -/
  | lex (input : String) (positions : Bool)
deriving DecidableEq, Repr

/-- A command line that is in order. -/
inductive Request where
  | command (c : Command)
  | version
  | help
deriving DecidableEq, Repr

/-- Why the arguments of a command are not read to their end. -/
inductive Stop where
  /-- They are wrong. -/
  | usage
  /-- They ask for help. -/
  | help
deriving DecidableEq, Repr

/-! ### Numbers -/

/-- A decimal numeral, with or without a plus sign, of a 64-bit word. -/
def readWord? (s : String) : Option Nat :=
  let digits := match s.toList with
    | '+' :: digits => digits
    | digits => digits
  if digits ≠ [] ∧ digits.all Char.isDigit then
    let n := digits.foldl (fun n c => 10 * n + (c.toNat - '0'.toNat)) 0
    if n < Nat.pow 2 64 then some n else none
  else none

/-! ### Options -/

/-- The options of a command. -/
structure Options where
  /-- Long names and letters of the switches. -/
  switches : List (String × Char)
  /-- Long names of the settings, each with the values it takes. -/
  settings : List (String × (String → Bool))

/-- The arguments read so far. -/
structure Arguments where
  input : Option String
  switches : List String
  settings : List (String × String)

namespace Arguments

/-- No arguments. -/
def none : Arguments := ⟨.none, [], []⟩

variable (args : Arguments)

/-- A switch is on. -/
def isOn (name : String) : Bool := args.switches.contains name

/-- The value of a setting. -/
def value? (name : String) : Option String := args.settings.lookup name

/-- Takes the input file, which is given once and has a name. -/
def takeInput (path : String) : Except Stop Arguments :=
  if args.input.isSome || path.isEmpty then .error .usage
  else .ok { args with input := some path }

/-- Takes a switch that is not on yet. -/
def takeSwitch (name : String) : Except Stop Arguments :=
  if args.isOn name then .error .usage
  else .ok { args with switches := name :: args.switches }

/-- Takes a setting that has no value yet. -/
def takeSetting (options : Options) (name value : String) : Except Stop Arguments :=
  match options.settings.lookup name with
  | some takes =>
    if (args.value? name).isSome || !takes value then .error .usage
    else .ok { args with settings := (name, value) :: args.settings }
  | .none => .error .usage

/-- Takes the switches of a row of letters. -/
def takeLetters (options : Options) : Text → Arguments → Except Stop Arguments
  | [], args => .ok args
  | 'h' :: _, _ => .error .help
  | c :: cs, args =>
    match options.switches.find? (·.2 == c) with
    | some (name, _) => do takeLetters options cs (← args.takeSwitch name)
    | .none => .error .usage

end Arguments

/-- A text that can stand as the value of a setting in an argument of its own. -/
def isValue (s : String) : Bool :=
  match s.toList with
  | '-' :: _ :: _ => false
  | _ => true

namespace Options

/-- Reads the arguments of a command. -/
def read (options : Options) : List String → Arguments → Except Stop Arguments
  | [], args => .ok args
  | a :: rest, args =>
    match a.toList with
    | ['-', '-'] => rest.foldlM Arguments.takeInput args
    | '-' :: '-' :: long =>
      let name := String.ofList (long.takeWhile (· != '='))
      match long.dropWhile (· != '=') with
      | _ :: value => do options.read rest (← args.takeSetting options name (String.ofList value))
      | [] =>
        if name = "help" then .error .help
        else if options.switches.any (·.1 == name) then do
          options.read rest (← args.takeSwitch name)
        else match rest with
          | [] => .error .usage
          | value :: rest =>
            if isValue value then do options.read rest (← args.takeSetting options name value)
            else .error .usage
    | '-' :: c :: cs => do options.read rest (← args.takeLetters options (c :: cs))
    | _ => do options.read rest (← args.takeInput a)

end Options

/-! ### Commands -/

/-- A path has at least one character. -/
def isPath (s : String) : Bool := !s.isEmpty

/-- The options of `check`. -/
def checkOptions : Options := ⟨[("verbose", 'v')], [("ast", isPath), ("header", isPath)]⟩

/-- The options of `header`. -/
def headerOptions : Options := ⟨[], [("indent", fun s => (readWord? s).isSome)]⟩

/-- The options of `lex`. -/
def lexOptions : Options := ⟨[("positions", 'p')], []⟩

/-- The request of a command with the given options. -/
def request (options : Options) (rest : List String) (command : String → Arguments → Command) :
    Option Request :=
  match options.read rest .none with
  | .ok args => args.input.map fun input => .command (command input args)
  | .error .help => some .help
  | .error .usage => none

namespace Request

/-- Reads a command line; wrong ones are refused. -/
def parse? : List String → Option Request
  | "check" :: rest => request checkOptions rest fun input args =>
    .check input (args.value? "ast") (args.value? "header") (args.isOn "verbose")
  | "header" :: rest => request headerOptions rest fun input args =>
    .header input (((args.value? "indent").bind readWord?).getD 0)
  | "lex" :: rest => request lexOptions rest fun input args =>
    .lex input (args.isOn "positions")
  | ["help"] | ["help", "check"] | ["help", "header"] | ["help", "lex"] | ["help", "help"] =>
    some .help
  | a :: _ =>
    if a = "--version" then some .version
    else if a = "--help" then some .help
    else match a.toList with
      | '-' :: 'V' :: _ => some .version
      | '-' :: 'h' :: _ => some .help
      | _ => none
  | [] => none

end Request

end SigCheck.Cli
