/-!
# Signature types

A type is a `Shape` over smaller types together with what surrounds it where it is written: a label
(the name of a parameter), whether it may be absent, and the reference it was expanded from, if it
came from an alias.

Two object types can have the same fields and still be different *instances*, so an object shape
carries an identity of type `ι`.  A type as a header writes it has no identities (`TypeExpr`, over
`Unit`); a type in use has numbered instances (`TypeInst`, over `Nat`).

All recursion over types goes through `Ty.fold`, whose equation is `Ty.fold_eq`; `Ty.induction` is
the matching induction principle.
-/

namespace SigCheck

/-- A field of an object type. -/
structure Field (τ : Type) where
  key : String
  optional : Bool
  type : τ
deriving DecidableEq

/-- The shapes of types, over smaller types `τ` and object identities `ι`. -/
inductive Shape (ι τ : Type) where
  /-- A named type, such as `String` or `Widget`. -/
  | literal (name : String) (builtin : Bool)
  /-- A value used as a type, such as `"x"` or `42`. -/
  | value (text : String)
  /-- A type applied to parameters, such as `Array<String>`. -/
  | generic (base : τ) (params : List τ)
  /-- A function type, with the type of its receiver if it declares one. -/
  | function (args : List τ) (receiver : Option τ) (result : τ)
  /-- A record; the order of its fields counts. -/
  | object (id : ι) (fields : List (Field τ))
  | union (members : List τ)
  | intersection (members : List τ)
  | tuple (items : List τ)
deriving DecidableEq

/-- A signature type. -/
structure Ty (ι : Type) where
  shape : Shape ι (Ty ι)
  /-- The name of the parameter this type belongs to. -/
  label : Option String
  optional : Bool
  /-- The reference this type was expanded from. -/
  raw : Option (Ty ι)

/-- A type as it is written in a header. -/
abbrev TypeExpr := Ty Unit

/-- A type in use, whose object types are numbered instances. -/
abbrev TypeInst := Ty Nat

variable {ι κ τ σ α : Type}

namespace Field

/-- Changes the type of a field. -/
def map (g : τ → σ) (f : Field τ) : Field σ := ⟨f.key, f.optional, g f.type⟩

@[simp] theorem key_map (g : τ → σ) (f : Field τ) : (f.map g).key = f.key := rfl

@[simp] theorem optional_map (g : τ → σ) (f : Field τ) : (f.map g).optional = f.optional := rfl

@[simp] theorem type_map (g : τ → σ) (f : Field τ) : (f.map g).type = g f.type := rfl

end Field

namespace Shape

/-- Changes the smaller types of a shape. -/
def map (g : τ → σ) : Shape ι τ → Shape ι σ
  | literal name builtin => literal name builtin
  | value text => value text
  | generic base params => generic (g base) (params.map g)
  | function args receiver result => function (args.map g) (receiver.map g) (g result)
  | object id fields => object id (fields.map (·.map g))
  | union members => union (members.map g)
  | intersection members => intersection (members.map g)
  | tuple items => tuple (items.map g)

/-- Changes the identity of an object shape. -/
def mapId (g : ι → κ) : Shape ι τ → Shape κ τ
  | literal name builtin => literal name builtin
  | value text => value text
  | generic base params => generic base params
  | function args receiver result => function args receiver result
  | object id fields => object (g id) fields
  | union members => union members
  | intersection members => intersection members
  | tuple items => tuple items

/-- The smaller types of a shape, in the order in which they are written. -/
def children : Shape ι τ → List τ
  | literal _ _ | value _ => []
  | generic base params => base :: params
  | function args receiver result => receiver.toList ++ args ++ [result]
  | object _ fields => fields.map (·.type)
  | union members | intersection members => members
  | tuple items => items

theorem children_map (g : τ → σ) (s : Shape ι τ) : (s.map g).children = s.children.map g := by
  cases s with
  | function args receiver result => cases receiver <;> simp [map, children]
  | _ => simp [map, children, Function.comp_def]

theorem map_map_congr {ρ : Type} {s : Shape ι τ} {g : τ → σ} {f : σ → ρ} {f' : τ → ρ}
    (h : ∀ c ∈ s.children, f (g c) = f' c) : (s.map g).map f = s.map f' := by
  cases s with
  | function args receiver result => cases receiver <;> simp_all [map, children]
  | _ => simp_all [map, children, Field.map]

theorem map_mapId (f : τ → σ) (g : ι → κ) (s : Shape ι τ) :
    (s.mapId g).map f = (s.map f).mapId g := by
  cases s <;> rfl

/-- The name of a shape in messages. -/
def title : Shape ι τ → String
  | literal _ _ => "typeLiteral"
  | value _ => "valueLiteral"
  | generic _ _ => "genericLiteral"
  | function _ _ _ => "function"
  | object _ _ => "object"
  | union _ => "unionType"
  | intersection _ => "intersectionType"
  | tuple _ => "tuple"

end Shape

namespace Ty

/-! ### Recursion and induction -/

mutual

/-- Recursion over types: `f` is given a type, its shape with the results for the smaller types, and
the result for the reference it was expanded from. -/
def fold (f : Ty ι → Shape ι α → Option α → α) : Ty ι → α
  | ⟨shape, label, optional, raw⟩ =>
    f ⟨shape, label, optional, raw⟩ (foldShape f shape) (foldOption f raw)

/-- The shape with the results of `fold` for its smaller types. -/
def foldShape (f : Ty ι → Shape ι α → Option α → α) : Shape ι (Ty ι) → Shape ι α
  | .literal name builtin => .literal name builtin
  | .value text => .value text
  | .generic base params => .generic (fold f base) (foldList f params)
  | .function args receiver result =>
    .function (foldList f args) (foldOption f receiver) (fold f result)
  | .object id fields => .object id (foldFields f fields)
  | .union members => .union (foldList f members)
  | .intersection members => .intersection (foldList f members)
  | .tuple items => .tuple (foldList f items)

/-- The results of `fold` for a list of types. -/
def foldList (f : Ty ι → Shape ι α → Option α → α) : List (Ty ι) → List α
  | [] => []
  | t :: ts => fold f t :: foldList f ts

/-- The results of `fold` for the types of fields. -/
def foldFields (f : Ty ι → Shape ι α → Option α → α) : List (Field (Ty ι)) → List (Field α)
  | [] => []
  | ⟨key, optional, type⟩ :: rest => ⟨key, optional, fold f type⟩ :: foldFields f rest

/-- The result of `fold` for a type that may be missing. -/
def foldOption (f : Ty ι → Shape ι α → Option α → α) : Option (Ty ι) → Option α
  | none => none
  | some t => some (fold f t)

end

section fold

variable (f : Ty ι → Shape ι α → Option α → α)

theorem foldList_eq (ts : List (Ty ι)) : foldList f ts = ts.map (fold f) := by
  induction ts with
  | nil => rfl
  | cons t ts ih => simp [foldList, ih]

theorem foldFields_eq (fields : List (Field (Ty ι))) :
    foldFields f fields = fields.map (·.map (fold f)) := by
  induction fields with
  | nil => rfl
  | cons field fields ih => simp [foldFields, Field.map, ih]

theorem foldOption_eq (t : Option (Ty ι)) : foldOption f t = t.map (fold f) := by
  cases t <;> rfl

theorem foldShape_eq (s : Shape ι (Ty ι)) : foldShape f s = s.map (fold f) := by
  cases s <;> simp [foldShape, Shape.map, foldList_eq, foldFields_eq, foldOption_eq]

theorem fold_eq (t : Ty ι) : fold f t = f t (t.shape.map (fold f)) (t.raw.map (fold f)) := by
  obtain ⟨shape, label, optional, raw⟩ := t
  simp [fold, foldShape_eq, foldOption_eq]

end fold

/-- The number of nodes of a type, references it was expanded from included. -/
def size : Ty ι → Nat :=
  fold fun _ shape raw => shape.children.foldr (· + ·) 0 + raw.getD 0 + 1

theorem size_eq (t : Ty ι) :
    t.size = (t.shape.children.map size).foldr (· + ·) 0 + (t.raw.map size).getD 0 + 1 := by
  rw [size, fold_eq]
  cases t.shape <;> simp [Shape.map, Shape.children, Field.map, Function.comp_def]
  rename_i receiver _
  cases receiver <;> simp

theorem size_le_sum {c : Ty ι} {ts : List (Ty ι)} (h : c ∈ ts) :
    c.size ≤ (ts.map size).foldr (· + ·) 0 := by
  induction ts with
  | nil => cases h
  | cons t ts ih =>
    simp only [List.map_cons, List.foldr_cons]
    rcases List.mem_cons.1 h with rfl | h
    · omega
    · have := ih h
      omega

theorem size_lt_of_mem_children {c t : Ty ι} (h : c ∈ t.shape.children) : c.size < t.size := by
  have := size_le_sum h
  rw [size_eq t]
  omega

theorem size_lt_of_raw {r t : Ty ι} (h : t.raw = some r) : r.size < t.size := by
  rw [size_eq t, h]
  simp only [Option.map_some, Option.getD_some]
  omega

/-- A property holds of every type if it passes from the smaller types of a type, and from the
reference it was expanded from, to the type. -/
theorem induction {P : Ty ι → Prop}
    (step : ∀ t : Ty ι, (∀ c ∈ t.shape.children, P c) → (∀ r, t.raw = some r → P r) → P t)
    (t : Ty ι) : P t := by
  induction hn : t.size using Nat.strongRecOn generalizing t with
  | ind n ih =>
    subst hn
    exact step t (fun c hc => ih _ (size_lt_of_mem_children hc) c rfl)
      (fun r hr => ih _ (size_lt_of_raw hr) r rfl)

/-! ### Building types -/

/-- The name of the builtin type that stands for anything a module may export. -/
def moduleExports : String := "Any:ModuleExports"

/-- The names of the types that need no declaration. -/
def builtinNames : List String :=
  ["String", "Number", "Boolean", "Object", "Array", "Function", "Error", "RegExp", "Date",
   "Buffer", "Any", "void", "null", "undefined", moduleExports]

/-- `name` needs no declaration. -/
def isBuiltinName (name : String) : Bool := builtinNames.contains name

/-- A type with no label, not optional and not expanded from anything. -/
def ofShape (shape : Shape ι (Ty ι)) : Ty ι := ⟨shape, none, false, none⟩

/-- The type called `name`. -/
def literal (name : String) : Ty ι := ofShape (.literal name (isBuiltinName name))

/-- The type of the value written `text`. -/
def value (text : String) : Ty ι := ofShape (.value text)

/-- The type as that of the parameter `label`. -/
def withLabel (t : Ty ι) (label : String) (optional : Bool) : Ty ι :=
  { t with label := some label, optional := optional }

/-! ### Looking at types -/

/-- The name of a named type. -/
def literalName? (t : Ty ι) : Option String :=
  match t.shape with
  | .literal name _ => some name
  | _ => none

/-- The type of functions that return nothing. -/
def isVoid (t : Ty ι) : Bool := t.literalName? == some "void"

/-- An object type with at least one field. -/
def isNonEmptyObject (t : Ty ι) : Bool :=
  match t.shape with
  | .object _ fields => !fields.isEmpty
  | _ => false

/-- The first field of an object type with the key `key`. -/
def field? (t : Ty ι) (key : String) : Option (Field (Ty ι)) :=
  match t.shape with
  | .object _ fields => fields.find? (·.key == key)
  | _ => none

end Ty

end SigCheck
