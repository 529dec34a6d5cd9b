import SigCheck.Text.Measure

/-!
# Paths

The name of the file that stands beside another one: the same path with another extension.
-/

namespace SigCheck.Path

/-- A path read from its end, without the separators and the `/.` that end it. -/
def dropTrailing : Text → Text
  | '/' :: rest => dropTrailing rest
  | '.' :: '/' :: rest => dropTrailing rest
  | rest => rest

/-- A path read from its end, as its file name and the folder before it.  A path that ends in `..`,
is `.` or has no names at all names no file. -/
def fileName? (path : Text) : Option (Text × Text) :=
  let body := dropTrailing path
  let name := body.takeWhile (· != '/')
  if name = [] ∨ name = ['.'] ∨ name = ['.', '.'] then none
  else some (name, body.dropWhile (· != '/'))

/-- A file name read from its end, as its extension, if it has one, and its stem.  A dot that starts
the name starts no extension. -/
def splitName (name : Text) : Option Text × Text :=
  match name.dropWhile (· != '.') with
  | '.' :: c :: rest => (some (name.takeWhile (· != '.')), c :: rest)
  | _ => (none, name)

/-- A path read from its end, with its extension taken off.  As many characters go as the extension
has, from the very end of the path. -/
def dropExtension (path : Text) : Text :=
  match fileName? path with
  | some (name, _) => path.drop ((splitName name).1.getD []).length
  | none => path

/-- The path with the extension of its file name replaced.  What is left without the old extension
must still name a file to get a new one, so a path that ends in `..` stays as it is, and so does the
`..` that is left of `..js`. -/
def withExtension (path extension : String) : String :=
  let left := dropExtension path.toList.reverse
  match fileName? left with
  | some (name, folder) =>
    String.ofList ((splitName name).2 ++ folder).reverse ++ "." ++ extension
  | none => String.ofList left.reverse

end SigCheck.Path
