import SigCheck.Ty.Equality

/-!
# Instances of types

Taking a written type into use numbers its object types, each with a number not used before.  The
reference a type was expanded from is only ever shown, never compared, so it takes no numbers.
-/

namespace SigCheck

/-- Numbers the object types of a shape from the next free number on, the outer ones first. -/
def Shape.number {τ : Type} : Shape Unit (StateM Nat τ) → StateM Nat (Shape Nat τ)
  | .literal name builtin => return .literal name builtin
  | .value text => return .value text
  | .generic base params => do
    let base ← base
    let params ← params.mapM id
    return .generic base params
  | .function args receiver result => do
    let args ← args.mapM id
    let receiver ← match receiver with
      | none => pure none
      | some receiver => some <$> receiver
    let result ← result
    return .function args receiver result
  | .object _ fields => do
    let id ← getModify (· + 1)
    let fields ← fields.mapM fun f => do return ⟨f.key, f.optional, ← f.type⟩
    return .object id fields
  | .union members => do return .union (← members.mapM id)
  | .intersection members => do return .intersection (← members.mapM id)
  | .tuple items => do return .tuple (← items.mapM id)

/-- Takes a written type into use, with numbers from the next free one on. -/
def Ty.number : TypeExpr → StateM Nat TypeInst :=
  Ty.fold fun t shape _ => do
    let shape ← shape.number
    return ⟨shape, t.label, t.optional, t.raw.map (Ty.mapId fun _ => 0)⟩

end SigCheck
