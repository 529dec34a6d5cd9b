import SigCheck.Header

/-!
# Resolving aliases

A reference to an alias is replaced by the type the alias stands for, resolved in turn.  Inside the
expansion of an alias its own name is left as it is, so cyclic declarations do no harm; names with
parameters, undeclared names and the bases of generic types are left too.  A type that came from a
reference keeps that reference, so that it can be shown as it was written.
-/

namespace SigCheck

namespace Ty

/-- Replaces every reference in a type: a named type that is not builtin and no base of a generic
type.  The results for smaller types are delayed, so nothing is done for the base of a generic
type. -/
def mapReferences (reference : TypeExpr → String → TypeExpr) (t : TypeExpr) : TypeExpr :=
  fold (fun t (shape : Shape Unit (Unit → TypeExpr)) _ _ =>
    match t.shape, shape with
    | .literal name false, _ => reference t name
    | .generic base _, .generic _ params => { t with shape := .generic base (params.map (· ())) }
    | _, shape => { t with shape := shape.map (· ()) }) t ()

theorem mapReferences_eq (reference : TypeExpr → String → TypeExpr) (t : TypeExpr) :
    mapReferences reference t = match t.shape with
      | .literal name false => reference t name
      | .generic base params =>
        { t with shape := .generic base (params.map (mapReferences reference)) }
      | shape => { t with shape := shape.map (mapReferences reference) } := by
  obtain ⟨shape, label, optional, raw⟩ := t
  rw [mapReferences, fold_eq]
  cases shape with
  | literal name builtin => cases builtin <;> rfl
  | value text => rfl
  | generic base params => simp [Shape.map, mapReferences]
  | function args receiver result =>
    cases receiver <;> simp [Shape.map, mapReferences]
  | object id fields => simp [Shape.map, Field.map, mapReferences]
  | union members => simp [Shape.map, mapReferences]
  | intersection members => simp [Shape.map, mapReferences]
  | tuple items => simp [Shape.map, mapReferences]

end Ty

namespace Header

/-- The declaration of a name; a later one replaces an earlier one. -/
def declaration? (h : Header) (name : String) : Option Declaration :=
  (h.declarations.filter (·.name == name)).getLast?

/-- Resolves the references in a type, at most `n` aliases deep; the names in `visiting` are left
as they are. -/
def resolveWithin (h : Header) : Nat → List String → TypeExpr → TypeExpr
  | 0, _ => id
  | n + 1, visiting => Ty.mapReferences fun t name =>
    match h.declaration? name with
    | some d =>
      if d.params.isEmpty && !visiting.contains name then
        { h.resolveWithin n (name :: visiting) d.type with
          label := t.label, optional := t.optional, raw := some t }
      else t
    | none => t

/-- Resolves the references in a type; the names in `visiting` are left as they are.  Along one path
no name is expanded twice, so expansions are no deeper than there are declarations. -/
def resolve (h : Header) (visiting : List String) (t : TypeExpr) : TypeExpr :=
  h.resolveWithin h.declarations.length visiting t

/-- The names a header assigns types to, with their types resolved. -/
def signatures (h : Header) : List (String × TypeExpr) :=
  h.assignments.map fun a => (a.name, h.resolve [] a.type)

/-- The name of the header that belongs to a source file: `.js` at its end is replaced by `.hjs`. -/
def fileName (source : String) : String :=
  let name := source.toList
  let ending := ['.', 'j', 's']
  let stem := if ending.isSuffixOf name then name.take (name.length - ending.length) else name
  String.ofList (stem ++ ['.', 'h', 'j', 's'])

end Header

end SigCheck
