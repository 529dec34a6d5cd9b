import SigCheck.Diagnostic
import SigCheck.Event
import SigCheck.Header.Load
import SigCheck.Node
import SigCheck.Scope
import SigCheck.Ty.Compare
import SigCheck.Ty.Instance
import SigCheck.Ty.Layout

/-!
# The state of a check

An `Env` holds what a check has found so far: the scopes, the diagnostics and the log.  A check
whose header could not be loaded is `fatal`, and does nothing any more.  Types taken into use get
their instance numbers from `nextInstance`.
-/

namespace SigCheck

/-- The state of the check of one program. -/
structure Env where
  /-- The program that is checked. -/
  root : Node
  fileName : String
  loader : Loader
  /-- How many times the loader has been asked for a header. -/
  loads : Nat
  scopes : List Scope
  /-- The place of the current scope. -/
  current : Nat
  errors : List Diagnostic
  fatal : Bool
  /-- The header, once it is loaded. -/
  header : Option Header
  /-- The value last assigned to `module.exports`. -/
  exports : Option Node
  log : List Event
  nextInstance : Nat

namespace Env

/-- The place of the scope of the file. -/
def fileScope : Nat := 1

/-- The state before a check. -/
def start (root : Node) (fileName : String) (loader : Loader) : Env where
  root := root
  fileName := fileName
  loader := loader
  loads := 0
  scopes := [Scope.program, Scope.file]
  current := fileScope
  errors := []
  fatal := false
  header := none
  exports := none
  log := []
  nextInstance := 1

variable (env : Env)

/-- Notes an event. -/
def note (event : Event) : Env := { env with log := env.log ++ [event] }

/-- Adds a diagnostic. -/
def report (d : Diagnostic) : Env := { env with errors := env.errors ++ [d] }

/-- What a name stands for in the current scope. -/
def lookup (name : String) : Option Binding := Scope.lookup env.scopes name env.current

/-- The current scope. -/
def currentScope? : Option Scope := env.scopes[env.current]?

/-- The function whose body is looked at. -/
def currentFunction? : Option FunctionState := env.currentScope?.bind Scope.function?

/-- Changes the current scope. -/
def modifyScope (f : Scope → Scope) : Env :=
  { env with scopes := env.scopes.modify env.current f }

/-- Binds a name in the current scope. -/
def bind (name : String) (type : TypeInst) (origin : Origin) : Env :=
  env.modifyScope (·.bind name type origin)

/-- Changes what is known of the function whose body is looked at. -/
def modifyFunction (f : FunctionState → FunctionState) : Env :=
  env.modifyScope fun s =>
    match s.kind with
    | .function state => { s with kind := .function (f state) }
    | _ => s

/-- Takes a written type into use. -/
def instantiate (t : TypeExpr) : TypeInst × Env :=
  let (t, next) := t.number.run env.nextInstance
  (t, { env with nextInstance := next })

/-! ### Headers and exports -/

/-- Binds the names a header assigns types to. -/
def bindSignatures : List (String × TypeExpr) → Env → Env
  | [], env => env
  | (name, type) :: rest, env =>
    let (type, env) := env.instantiate type
    bindSignatures rest (env.bind name type .header)

/-- Counts that the loader is asked for a header. -/
def countLoad : Env := { env with loads := env.loads + 1 }

/-- Loads the header of the program and binds its names in the current scope.  If it cannot be
loaded, the check is at its end. -/
def loadHeader : Env :=
  let name := Header.fileName env.fileName
  let answer := env.loader.load env.loads name
  let env := env.countLoad.note (.loadingHeader name)
  let env := match env.loader.path? name with
    | some path => env.note (.readingHeader path)
    | none => env
  match answer with
  | .ok header => { bindSignatures header.signatures env with header := some header }
  | .error e =>
    let env := env.note (.headerFailed name e.message)
    { env.report ⟨.headerLoadFailed name e.message, env.root.loc⟩ with fatal := true }

/-- Remembers the value of the last statement that assigns to `module.exports`, if there is one. -/
def setExports (body : List Node) : Env :=
  match (body.filterMap Node.exportedValue?).getLast? with
  | some value => { env with exports := some value }
  | none => env

/-! ### Functions -/

/-- Binds the parameters of a function to the declared types of its arguments, one by one. -/
def bindParams : List Node → List TypeInst → Scope → Scope
  | param :: params, arg :: args, s =>
    bindParams params args <| match param.identifierName? with
      | some name => s.bind name arg .parameter
      | none => s
  | _, _, s => s

/-- The declared arguments and result of a function.  A type that is no function type counts as the
result of a function without arguments. -/
def signature (type : TypeInst) : List TypeInst × TypeInst :=
  match type.shape with
  | .function args _ result => (args, result)
  | _ => ([], type)

/-- Enters the scope of a function. -/
def enterFunction (name : String) (params : List Node) (type : TypeInst) : Env :=
  let (args, result) := signature type
  let scope : Scope := ⟨.function (.start name result), [], some env.current⟩
  let env := env.note (.enteringFunction name)
  { env with
    scopes := env.scopes ++ [bindParams params args scope]
    current := env.scopes.length }

/-- Leaves the scope of a function, if the current one is such and the last. -/
def exitFunction : Option FunctionState × Env :=
  if env.current + 1 = env.scopes.length then
    match env.currentScope? with
    | some ⟨.function f, _, parent⟩ =>
      let env := env.note (.exitingFunction f.name)
      (some f, { env with
        scopes := env.scopes.dropLast
        current := parent.getD fileScope })
    | _ => (none, env)
  else (none, env)

end Env

end SigCheck
