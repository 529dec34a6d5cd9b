/-!
# Log events

What the checker notes while it works: warnings about code it skips, and its progress.
-/

namespace SigCheck

/-- How important an event is. -/
inductive Level where
  | warn
  | debug
deriving DecidableEq, Repr

/-- The name of a level in the log. -/
def Level.title : Level → String
  | warn => "WARN"
  | debug => "DEBUG"

/-- The events of a check. -/
inductive Event where
  | loadingHeader (name : String)
  | readingHeader (path : String)
  | headerFailed (name reason : String)
  | enteringFunction (name : String)
  | exitingFunction (name : String)
  | skippedNode (line : Nat)
  | skippedFunction (line : Nat)
deriving DecidableEq, Repr

namespace Event

/-- The level of an event. -/
def level : Event → Level
  | skippedNode _ | skippedFunction _ => .warn
  | _ => .debug

/-- The text of an event. -/
def message : Event → String
  | loadingHeader name => "loading header " ++ name
  | readingHeader path => "reading header " ++ path
  | headerFailed name reason => "header " ++ name ++ " failed to load: " ++ reason
  | enteringFunction name => "entering function scope " ++ name
  | exitingFunction name => "exiting function scope " ++ name
  | skippedNode line => "skipping unsupported node at line " ++ toString line
  | skippedFunction line => "skipping anonymous function expression at line " ++ toString line

end Event

end SigCheck
