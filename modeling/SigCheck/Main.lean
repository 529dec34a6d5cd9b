import SigCheck.Cli.Run

/-!
# The program

Reads the files that the command line asks for, runs the command on them and prints what it says.
-/

namespace SigCheck.Cli

/-- The number of a system error, which may be given with a minus sign. -/
def errorNumber (code : UInt32) : UInt32 := min code (0 - code)

/-- The cause of a failed reading. -/
def ReadError.ofError : IO.Error → ReadError
  | .noFileOrDirectory _ _ _ => .notFound
  | .inappropriateType _ code reason =>
    if errorNumber code = 21 then .isDirectory
    else if errorNumber code = 20 then .notDirectory
    else .other reason
  | .invalidArgument _ code reason =>
    if errorNumber code = 36 then .nameTooLong else .other reason
  | e => .other (toString e)

/-- The text of a file. -/
def readText (path : String) : IO (Except ReadError String) := do
  try
    let bytes ← IO.FS.readBinFile path
    match String.fromUTF8? bytes with
    | some text => return .ok text
    | none => return .error .notText
  catch e => return .error (.ofError e)

/-- The files a command line asks for. -/
def readFiles (args : List String) : IO Files := do
  let paths := match Request.parse? args with
    | some (.command c) => c.files
    | _ => []
  let texts ← paths.mapM fun path => return (path, ← readText path)
  return fun path => (texts.lookup path).getD (.error .notFound)

end SigCheck.Cli

/-- Runs the program on a command line. -/
def main (args : List String) : IO UInt32 := do
  let outcome := SigCheck.Cli.run (← SigCheck.Cli.readFiles args) args
  IO.print outcome.output
  if (SigCheck.Cli.Request.parse? args).isNone then
    IO.eprint SigCheck.Cli.usage
  for notice in outcome.notices do
    IO.eprintln notice.text
  return outcome.status.toUInt32
