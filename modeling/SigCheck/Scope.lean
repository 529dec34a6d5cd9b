import SigCheck.Text.Uppercase
import SigCheck.Ty

/-!
# Scopes

Names are bound to types in scopes.  The scope of the program binds what every program can use, the
scope of the file what its header declares, and each function under check has a scope of its own,
which also collects what the body of the function does.  Scopes are kept in a list, and a scope
names its parent by the place of the parent in this list.

A function whose name starts with an uppercase letter is a constructor: what it declares as its
result is the type of its receiver.
-/

namespace SigCheck

/-- Where a binding comes from. -/
inductive Origin where
  /-- The function `require` of every program. -/
  | requireFunction
  /-- The object `module` of every program. -/
  | moduleObject
  | header
  | parameter
  /-- A variable of the program. -/
  | localVariable
deriving DecidableEq, Repr

/-- The name of an origin. -/
def Origin.title : Origin → String
  | requireFunction => "NodeRequire"
  | moduleObject => "NodeModule"
  | header => "Header"
  | parameter => "Parameter"
  | localVariable => "Local"

/-- What a name stands for. -/
structure Binding where
  type : TypeInst
  origin : Origin

/-- The names bound in a scope, each once. -/
abbrev Bindings := List (String × Binding)

namespace Bindings

/-- What a name stands for. -/
def find? (bs : Bindings) (name : String) : Option Binding := bs.lookup name

/-- Binds a name, in place of what it stood for before. -/
def insert (bs : Bindings) (name : String) (b : Binding) : Bindings :=
  (name, b) :: bs.filter (·.1 != name)

@[simp] theorem find?_nil (name : String) : find? [] name = none := rfl

theorem find?_insert (bs : Bindings) (name : String) (b : Binding) (other : String) :
    (bs.insert name b).find? other = if other = name then some b else bs.find? other := by
  by_cases h : other = name
  · subst h
    simp [find?, insert]
  · have hne : (other == name) = false := by simpa using h
    simp only [find?, insert, List.lookup_cons, hne, h, if_false]
    induction bs with
    | nil => rfl
    | cons e bs ih =>
      obtain ⟨key, value⟩ := e
      by_cases hk : key = name
      · subst hk
        simp only [List.filter, bne_self_eq_false, List.lookup_cons, hne]
        exact ih
      · have hk' : (key != name) = true := by simpa using hk
        simp only [List.filter, hk', List.lookup_cons]
        split
        · rfl
        · exact ih

end Bindings

/-- What a function gives: a plain function its result, a constructor its receiver. -/
inductive Role where
  | plain (result : TypeInst)
  | constructor (receiver : TypeInst)

/-- A name of a constructor. -/
def isConstructorName (name : String) : Bool := name.toList.head?.any Text.isUppercase

/-- A function under check, and what its body has been seen to do. -/
structure FunctionState where
  name : String
  role : Role
  /-- The body has a `return`. -/
  foundReturn : Bool
  /-- The fields assigned through `this`, in order. -/
  assigned : List String

namespace FunctionState

/-- A function whose declared result is `result`, before its body is looked at. -/
def start (name : String) (result : TypeInst) : FunctionState :=
  ⟨name, if isConstructorName name then .constructor result else .plain result, false, []⟩

/-- The declared result of a plain function. -/
def result? (f : FunctionState) : Option TypeInst :=
  match f.role with
  | .plain result => some result
  | .constructor _ => none

/-- The type of `this` in a constructor. -/
def receiver? (f : FunctionState) : Option TypeInst :=
  match f.role with
  | .plain _ => none
  | .constructor receiver => some receiver

/-- The function is a constructor. -/
def isConstructor (f : FunctionState) : Bool := f.receiver?.isSome

end FunctionState

/-- The classes of scopes. -/
inductive ScopeKind where
  | program
  | file
  | function (f : FunctionState)

/-- A scope. -/
structure Scope where
  kind : ScopeKind
  bindings : Bindings
  /-- The place of the parent scope in the list of scopes. -/
  parent : Option Nat

namespace Scope

/-- The function a scope belongs to. -/
def function? (s : Scope) : Option FunctionState :=
  match s.kind with
  | .function f => some f
  | _ => none

/-- Binds a name in a scope. -/
def bind (s : Scope) (name : String) (type : TypeInst) (origin : Origin) : Scope :=
  { s with bindings := s.bindings.insert name ⟨type, origin⟩ }

/-- The type of `require`: a function from strings to anything. -/
def requireType : TypeInst := .ofShape (.function [.literal "String"] none (.literal "Any"))

/-- The type of `module`: an object whose `exports` take anything.  All programs share this one
instance, which has the number 0. -/
def moduleType : TypeInst := .ofShape (.object 0 [⟨"exports", false, .literal Ty.moduleExports⟩])

/-- The scope of the program. -/
def program : Scope :=
  ((⟨.program, [], none⟩ : Scope).bind "require" requireType .requireFunction).bind "module"
    moduleType .moduleObject

/-- The scope of the file, whose parent is the scope of the program. -/
def file : Scope := ⟨.file, [], some 0⟩

/-- What a name stands for in the scope at place `i`: the binding in the nearest scope on the way
to the root, at most `n` scopes away. -/
def lookupWithin (scopes : List Scope) (name : String) : Nat → Nat → Option Binding
  | 0, _ => none
  | n + 1, i =>
    match scopes[i]? with
    | none => none
    | some s =>
      match s.bindings.find? name with
      | some b => some b
      | none => s.parent.bind (lookupWithin scopes name n)

/-- What a name stands for in the scope at place `i`. -/
def lookup (scopes : List Scope) (name : String) (i : Nat) : Option Binding :=
  lookupWithin scopes name scopes.length i

end Scope

end SigCheck
