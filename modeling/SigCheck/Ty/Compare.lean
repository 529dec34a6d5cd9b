import SigCheck.Fault
import SigCheck.Ty

/-!
# Comparing types

`Ty.compare` asks whether a value of an inferred type can be used where a type is declared.  The
shape of the declared type decides how: builtin names by name, generic types by base and parameters,
functions by result, receiver and arguments in this order, objects field by field.  The outcome is a
`Verdict`: compatible, the first pair of types that do not fit, or a fault.

Two object types that are the same instance are compatible without looking at their fields.  Which
identities are the same is a parameter of `Ty.compareBy`; a comparison that never takes two types
for the same instance looks at all fields.
-/

namespace SigCheck

variable {ι : Type}

/-- The outcome of a comparison. -/
inductive Verdict (ι : Type) where
  | compatible
  /-- The pair of types that do not fit. -/
  | mismatch (expected actual : Ty ι)
  | fault (f : Fault)

namespace Verdict

/-- The verdict of a first comparison, or of a second one if the first finds nothing. -/
def andThen : Verdict ι → Verdict ι → Verdict ι
  | compatible, next => next
  | v, _ => v

/-- The verdict with a mismatch reported for another pair. -/
def reportedAs (v : Verdict ι) (expected actual : Ty ι) : Verdict ι :=
  match v with
  | mismatch _ _ => mismatch expected actual
  | v => v

/-- The first verdict of a list that is not `compatible`. -/
def all : List (Verdict ι) → Verdict ι
  | [] => compatible
  | v :: vs => v.andThen (all vs)

end Verdict

namespace Ty

open Verdict

/-- A comparison with a declared type: the verdict on each inferred type. -/
abbrev Comparison (ι : Type) := Ty ι → Verdict ι

/-- Comparison with a declared named type. -/
def compareLiteral (parent : Ty ι) (name : String) (builtin : Bool) (child : Ty ι) : Verdict ι :=
  if !builtin then fault (.nonBuiltinLiteral name)
  else if name = moduleExports then compatible
  else match child.literalName? with
    | none => mismatch parent child
    | some actual =>
      if name = "Object" ∨ name = "Array" ∨ name = "void" then
        if actual = name then compatible else fault (.builtinMismatch name actual)
      else if name = "String" ∨ name = "Number" then
        if actual = name then compatible else mismatch parent child
      else fault (.unknownBuiltin name)

/-- Comparison with a declared generic type.  A parameter that does not fit is reported as the whole
pair. -/
def compareGeneric (parent : Ty ι) (base : Comparison ι) (params : List (Comparison ι))
    (child : Ty ι) : Verdict ι :=
  match child.shape with
  | .generic base' params' =>
    (base base').andThen <|
      if params.length = params'.length then
        (all (List.zipWith (· ·) params params')).reportedAs parent child
      else fault (.genericArity params.length params'.length)
  | _ => mismatch parent child

/-- Comparison of the receivers of two function types, which must both be declared or both be
missing. -/
def compareReceivers (parent child : Ty ι) : Option (Comparison ι) → Option (Ty ι) → Verdict ι
  | some receiver, some receiver' => receiver receiver'
  | none, none => compatible
  | _, _ => mismatch parent child

/-- Comparison with a declared function type. -/
def compareFunction (parent : Ty ι) (args : List (Comparison ι)) (receiver : Option (Comparison ι))
    (result : Comparison ι) (child : Ty ι) : Verdict ι :=
  match child.shape with
  | .function args' receiver' result' =>
    (result result').andThen <| (compareReceivers parent child receiver receiver').andThen <|
      if args.length = args'.length then all (List.zipWith (· ·) args args')
      else fault (.functionArgs args.length args'.length)
  | _ => mismatch parent child

/-- Comparison with a declared object type. -/
def compareObject (sameInstance : ι → ι → Bool) (parent : Ty ι) (id : ι)
    (fields : List (Field (Comparison ι))) (child : Ty ι) : Verdict ι :=
  match child.shape with
  | .object id' fields' =>
    if sameInstance id id' then compatible
    else if fields.length = fields'.length then
      all (List.zipWith (fun f f' => f.type f'.type) fields fields')
    else fault (.objectFields fields.length fields'.length)
  | _ => mismatch parent child

/-- The verdict on an inferred type where a type is declared, given which identities are the same
instance. -/
def compareBy (sameInstance : ι → ι → Bool) : Ty ι → Comparison ι :=
  fold fun parent shape _ child =>
    match shape with
    | .literal name builtin => compareLiteral parent name builtin child
    | .generic base params => compareGeneric parent base params child
    | .function args receiver result => compareFunction parent args receiver result child
    | .object id fields => compareObject sameInstance parent id fields child
    | .value _ | .union _ | .intersection _ | .tuple _ =>
      fault (.unsupportedParent parent.shape.title)

/-- The verdict on a type in use where a type is declared. -/
def compare (parent child : TypeInst) : Verdict Nat := compareBy (· == ·) parent child

end Ty

end SigCheck
