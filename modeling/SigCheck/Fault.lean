/-!
# Faults

A fault is a comparison of types that the checker does not know how to make.  It is not an error in
the checked program, and ends the check.
-/

namespace SigCheck

/-- The cases that a comparison of types does not cover. -/
inductive Fault where
  /-- The declared type has a shape that nothing is compared with. -/
  | unsupportedParent (shape : String)
  /-- The declared type is a name that nothing declares. -/
  | nonBuiltinLiteral (name : String)
  /-- Two different builtin types that are never told apart. -/
  | builtinMismatch (expected actual : String)
  /-- The declared type is a builtin type that nothing is compared with. -/
  | unknownBuiltin (name : String)
  | genericArity (expected actual : Nat)
  | functionArgs (expected actual : Nat)
  | objectFields (expected actual : Nat)
deriving DecidableEq, Repr

namespace Fault

/-- What went wrong. -/
def message : Fault → String
  | unsupportedParent shape => "sub-type check is not implemented for " ++ shape ++ " parents"
  | nonBuiltinLiteral name => "sub-type check is not implemented for non-builtin literal " ++ name
  | builtinMismatch expected actual =>
    "impossible builtin mismatch: expected " ++ expected ++ " but got " ++ actual
  | unknownBuiltin name => "sub-type check is not implemented for builtin " ++ name
  | genericArity expected actual =>
    "generic arity mismatch: expected " ++ toString expected ++ " parameters but got " ++
      toString actual
  | functionArgs expected actual =>
    "function argument count mismatch: expected " ++ toString expected ++ " but got " ++
      toString actual
  | objectFields expected actual =>
    "object field count mismatch: expected " ++ toString expected ++ " but got " ++ toString actual

end Fault

end SigCheck
