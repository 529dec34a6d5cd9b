import SigCheck.Ty.Equality

/-!
# Headers

A header is a list of statements: imports of type names, declarations of aliases, and assignments of
types to the names of a program.
-/

namespace SigCheck

/-- `import { A, B } from "dep"`. -/
structure Import where
  dependency : String
  types : List TypeExpr
deriving DecidableEq

/-- `type Name<A, B> : type`. -/
structure Declaration where
  name : String
  params : List TypeExpr
  type : TypeExpr
deriving DecidableEq

/-- `name : type`. -/
structure Assignment where
  name : String
  type : TypeExpr
deriving DecidableEq

/-- A statement of a header. -/
inductive Statement where
  | imports (i : Import)
  | declares (d : Declaration)
  | assigns (a : Assignment)
deriving DecidableEq

/-- A header. -/
structure Header where
  statements : List Statement
deriving DecidableEq

namespace Header

/-- The assignments of a header, in order. -/
def assignments (h : Header) : List Assignment :=
  h.statements.filterMap fun
    | .assigns a => some a
    | _ => none

/-- The declarations of a header, in order. -/
def declarations (h : Header) : List Declaration :=
  h.statements.filterMap fun
    | .declares d => some d
    | _ => none

end Header

end SigCheck
