import SigCheck.Env
import SigCheck.Literal

/-!
# Visiting a program

`visit` walks through the tree of a program, reports what does not fit the declared types, and gives
the type of a node where it can tell one.  It runs in `Visit`, which keeps the state of the check
also when a fault ends it.

What is done at a node is one definition for each kind that does more than visit its parts; it takes
the visits to the parts as arguments, so `walk` itself only says which parts are visited, and in
which order.  What is put around each node is left open there; in `visit` it is the test for a fatal
check.
-/

namespace SigCheck

/-- A step of a check: it changes the state, and gives a result or ends in a fault. -/
abbrev Visit (α : Type) := ExceptT Fault (StateM Env) α

namespace Visit

variable {α : Type}

/-- A visit to a node; it gives the type of the node if it can tell one. -/
abbrev Typed := Visit (Option TypeInst)

/-- Adds a diagnostic. -/
def report (kind : DiagnosticKind) (loc : Location) : Visit Unit := modify (·.report ⟨kind, loc⟩)

/-- Notes an event. -/
def note (event : Event) : Visit Unit := modify (·.note event)

/-- Does nothing once the check is fatal. -/
def unlessFatal (v : Typed) : Typed := do
  if (← get).fatal then return none else v

/-- Does a step, and gives its fault as a result. -/
def attempt (v : Visit α) : Visit (Except Fault α) := ExceptT.mk (Except.ok <$> v.run)

/-- Visits a part for what it does. -/
def andNothing (v : Visit α) : Typed := do
  let _ ← v
  return none

/-- Compares an inferred type with a declared one, and reports a mismatch. -/
def expect (loc : Location) (declared inferred : TypeInst) : Visit Unit :=
  match declared.compare inferred with
  | .compatible => return
  | .mismatch expected actual => report (.typeClassMismatch expected.text actual.text) loc
  | .fault f => throw f

/-! ### Functions -/

/-- The first key that is not the field assigned in its place, and that field. -/
def firstDeviation : List String → List String → Option (String × Option String)
  | [], _ => none
  | key :: _, [] => some (key, none)
  | key :: keys, field :: fields =>
    if field = key then firstDeviation keys fields else some (key, some field)

/-- The keys of an object type. -/
def keys (t : TypeInst) : List String :=
  match t.shape with
  | .object _ fields => fields.map (·.key)
  | _ => []

/-- The number of parameters is the declared number of arguments. -/
def checkParams (loc : Location) (name : String) (expected actual : Nat) : Visit Unit :=
  if expected < actual then report (.tooManyArgsInFunction name expected actual) loc
  else if actual < expected then report (.tooFewArgsInFunction name expected actual) loc
  else return

/-- What the body of a function did fits what the function gives. -/
def checkBody (loc : Location) (f : FunctionState) : Visit Unit :=
  match f.role with
  | .constructor receiver =>
    match firstDeviation (keys receiver) f.assigned with
    | some (key, other) =>
      report (.missingFieldInConstructor key (other.getD "nothing") f.name) loc
    | none => return
  | .plain result =>
    if !result.isVoid && !f.foundReturn then
      report (.missingReturnStatement result.text "void" f.name) loc
    else return

/-- Visits the body of a function in a scope of its own. -/
def inFunction (loc : Location) (name : String) (params : List Node) (type : TypeInst)
    (body : Typed) : Visit Unit := do
  modify (·.enterFunction name params type)
  let outcome ← attempt body
  let f ← modifyGet Env.exitFunction
  let _ ← liftExcept outcome
  match f with
  | some f => checkBody loc f
  | none => return

/-- A function with the given name, parameters and body. -/
def function (loc : Location) (name : String) (params : List Node) (body : Typed) : Typed := do
  match (← get).lookup name with
  | some ⟨type, _⟩ =>
    match type.shape with
    | .function args _ result =>
      checkParams loc name args.length params.length
      if isConstructorName name && !result.isNonEmptyObject then
        report (.constructorThisTypeMustBeObject name result.text) loc
      else
        inFunction loc name params type body
      return some type
    | _ => andNothing (report (.untypedFunctionFound name) loc)
  | none => andNothing (report (.untypedFunctionFound name) loc)

/-- A `return`, with or without an argument, whose type may be known. -/
def checkReturn (loc : Location) (hasArgument : Bool) (actual : Option TypeInst) : Visit Unit := do
  match (← get).currentFunction? with
  | none => return
  | some f =>
    modify (·.modifyFunction fun f => { f with foundReturn := true })
    match f.role with
    | .constructor _ =>
      report (.returnStatementInConstructor f.name ((actual.map Ty.text).getD "void")) loc
    | .plain result =>
      if result.isVoid then
        if hasArgument then
          report (.nonVoidReturnType "void" ((actual.map Ty.text).getD "unknown") f.name) loc
      else if hasArgument then
        match actual with
        | some actual => expect loc result actual
        | none => return
      else expect loc result (.literal "void")

/-! ### Variables and fields -/

/-- A variable is given a value of the given type: a name that the header declares must have that
type, any other name is bound to it. -/
def declare (loc : Location) (name : String) (inferred : TypeInst) : Visit Unit := do
  match (← get).lookup name with
  | some ⟨declared, .header⟩ => expect loc declared inferred
  | _ => modify (·.bind name inferred .localVariable)

/-- Notes an assignment to `this.field` in a constructor. -/
def assignField (field : String) : Visit Unit := do
  match (← get).currentFunction? with
  | some f =>
    if f.isConstructor then
      modify (·.modifyFunction fun f => { f with assigned := f.assigned ++ [field] })
  | none => return

/-- The type of a field of an object. -/
def member (loc : Location) (field : String) (object : TypeInst) : Typed :=
  match object.shape with
  | .union _ => andNothing (report (.unionFieldAccess field object.text) loc)
  | .object _ _ =>
    match object.field? field with
    | some f => return some f.type
    | none => andNothing (report (.nonExistentField field object.text) loc)
  | _ => return none

/-! ### Calls -/

/-- The name a callee is called by. -/
def calleeName (callee : Node) : String :=
  (callee.identifierName?.or (callee.member?.map (·.2))).getD ""

/-- The number of arguments is the declared number. -/
def checkArguments (loc : Location) (name : String) (expected actual : Nat) : Visit Unit :=
  if expected < actual then report (.tooManyArgsInNew name expected actual) loc
  else if actual < expected then report (.tooFewArgsInNew name expected actual) loc
  else return

/-- A call of a function of the given type. -/
def call (callee : Option TypeInst) (visitArguments : List TypeInst → Visit Unit) : Typed :=
  match callee with
  | some ⟨.function args _ result, _, _, _⟩ => do
    visitArguments args
    return some result
  | _ => andNothing (visitArguments [])

/-- A `new` call of a function of the given type. -/
def construct (loc : Location) (name : String) (count : Nat) (callee : Option TypeInst)
    (visitArguments : List TypeInst → Visit Unit) : Typed :=
  match callee with
  | none => andNothing (visitArguments [])
  | some type =>
    match type.shape with
    | .function args _ result =>
      if !isConstructorName name then
        andNothing (report (.constructorMustBePascalCase name type.text) loc)
      else if !result.isNonEmptyObject then
        andNothing (report (.callingNewOnPlainFunction name type.text) loc)
      else do
        checkArguments loc name args.length count
        visitArguments args
        return some result
    | _ => return none

/-! ### Nodes -/

section walk

variable (around : Typed → Typed)

mutual

/-- Walks through the tree of a node, with `around` put around what is done at each node. -/
def walk : Node → Typed
  | ⟨loc, kind⟩ => around <| match kind with
    | .program body => do
      modify (·.setExports body)
      modify (·.loadHeader)
      if (← get).fatal then return none else andNothing (walkAll body)
    | .functionDeclaration name params body =>
      andNothing (function loc name params (walk body))
    | .functionExpression (some name) params body => function loc name params (walk body)
    | .functionExpression none _ _ => andNothing (note (.skippedFunction loc.start.line))
    | .blockStatement body => andNothing (walkAll body)
    | .expressionStatement expression => andNothing (walk expression)
    | .returnStatement none => andNothing (checkReturn loc false none)
    | .returnStatement (some argument) => do
      let actual ← walk argument
      andNothing (checkReturn loc true actual)
    | .ifStatement test consequent alternate => do
      let _ ← walk test
      let _ ← walk consequent
      andNothing (walkOption alternate)
    | .forStatement init test update body => do
      walkOption init
      walkOption test
      walkOption update
      andNothing (walk body)
    | .forInStatement left right body | .forOfStatement left right body => do
      let _ ← walk left
      let _ ← walk right
      andNothing (walk body)
    | .whileStatement test body => do
      let _ ← walk test
      andNothing (walk body)
    | .doWhileStatement body test => do
      let _ ← walk body
      andNothing (walk test)
    | .switchStatement discriminant cases => do
      let _ ← walk discriminant
      andNothing (walkAll cases)
    | .switchCase test consequent => do
      walkOption test
      andNothing (walkAll consequent)
    | .tryStatement block handler finalizer => do
      let _ ← walk block
      walkOption handler
      andNothing (walkOption finalizer)
    | .catchClause _ body => andNothing (walk body)
    | .labeledStatement body => andNothing (walk body)
    | .variableDeclaration declarations _ => andNothing (walkAll declarations)
    | .variableDeclarator _ none => return none
    | .variableDeclarator ⟨_, .identifier name⟩ (some ⟨loc', .functionExpression _ params body⟩) =>
      andNothing (function loc' name params (walk body))
    | .variableDeclarator id (some init) => do
      match id.identifierName?, ← walk init with
      | some name, some inferred => andNothing (declare loc name inferred)
      | _, _ => return none
    | .assignmentExpression _ ⟨_, .identifier name⟩ ⟨loc', .functionExpression none params body⟩ =>
      function loc' name params (walk body)
    | .assignmentExpression _ left right => do
      match left.member? with
      | some (object, field) => if object.isThis then assignField field
      | none => pure ()
      let expected ← walk left
      let actual ← walk right
      match expected, actual with
      | some expected, some actual => expect loc expected actual
      | _, _ => pure ()
      return actual
    | .memberExpression object ⟨_, .identifier field⟩ false => do
      match ← walk object with
      | some type => member loc field type
      | none => return none
    | .memberExpression object _ _ => andNothing (walk object)
    | .callExpression callee arguments => do
      let type ← walk callee
      call type fun declared => walkArguments declared arguments
    | .newExpression callee arguments => do
      let type ← walk callee
      construct loc (calleeName callee) arguments.length type fun declared =>
        walkArguments declared arguments
    | .identifier name => return ((← get).lookup name).map (·.type)
    | .thisExpression => return (← get).currentFunction?.bind FunctionState.receiver?
    | .literal raw => return (raw.bind Literal.typeName?).map Ty.literal
    | .unsupported => andNothing (note (.skippedNode loc.start.line))

/-- Walks through nodes one after the other. -/
def walkAll : List Node → Visit Unit
  | [] => return
  | n :: ns => do
    let _ ← walk n
    walkAll ns

/-- Walks through a node that may be missing. -/
def walkOption : Option Node → Visit Unit
  | none => return
  | some n => do
    let _ ← walk n

/-- Walks through the arguments of a call, and compares each with the declared type in its place. -/
def walkArguments (declared : List TypeInst) : List Node → Visit Unit
  | [] => return
  | n :: ns => do
    let actual ← walk n
    match declared.head?, actual with
    | some expected, some actual => expect n.loc expected actual
    | _, _ => pure ()
    walkArguments declared.tail ns

end

end walk

/-- Visits a node.  Nothing is done any more once the check is fatal. -/
def visit : Node → Typed := walk unlessFatal

end Visit

namespace Env

/-- Visits a node. -/
def visit (env : Env) (n : Node) : Except Fault (Option TypeInst) × Env := (Visit.visit n).run env

/-- Compares an inferred type with a declared one, and reports a mismatch at `loc`. -/
def expect (env : Env) (loc : Location) (declared inferred : TypeInst) : Except Fault Unit × Env :=
  (Visit.expect loc declared inferred).run env

/-- Checks the whole program. -/
def check (env : Env) : Except Fault Unit × Env :=
  let (outcome, env) := env.visit env.root
  (outcome.map fun _ => (), env)

end Env

/-- The diagnostics of a program, or the fault that ended its check. -/
def checkProgram (root : Node) (fileName : String) (loader : Loader) :
    Except Fault (List Diagnostic) :=
  let (outcome, env) := (Env.start root fileName loader).check
  outcome.map fun _ => env.errors

end SigCheck
