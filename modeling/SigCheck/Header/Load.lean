import SigCheck.Header.Parse
import SigCheck.Header.Resolve

/-!
# Loading headers

A check gets the header of its program from a `Loader`, which knows what the names of headers stand
for.  It may be asked several times, and need not give the same answer each time.
-/

namespace SigCheck

/-- Why a header could not be loaded. -/
inductive LoadError where
  | missing (name : String)
  | unreadable (reason : String)
  | malformed (errors : List ParseError)
deriving DecidableEq, Repr

/-- What went wrong. -/
def LoadError.message : LoadError → String
  | missing name => "no header named " ++ name
  | unreadable reason => reason
  | malformed errors => String.intercalate "; " (errors.map ParseError.text)

/-- A source of headers. -/
structure Loader where
  /-- The header of the given name, when headers have been asked for so many times before. -/
  load : Nat → String → Except LoadError Header
  /-- The file that is read for the header of the given name, if there is one. -/
  path? : String → Option String

/-- The header in a text. -/
def Header.ofSource (source : String) : Except LoadError Header :=
  (Header.parse source).mapError .malformed

end SigCheck
