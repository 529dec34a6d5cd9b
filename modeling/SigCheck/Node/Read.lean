import SigCheck.Json.Reader
import SigCheck.Node

/-!
# Reading syntax trees

A node is a JSON object.  Its `type` names its kind, or gives the number of the kind in `titles`;
a kind that is not listed makes the node unsupported.  The other entries are looked up by key: the
order of entries does not count, entries the kind does not declare are skipped, and a declared key
may occur only once.  Lists and smaller nodes are required unless they are optional, in which case
they may also be `null`.

A location and a position, and the identifier that names a function, may be written as an array of
their fields in place of an object.
-/

namespace SigCheck

namespace Node

/-- The kinds of nodes by number. -/
def titles : List String :=
  ["Program", "FunctionDeclaration", "FunctionExpression", "BlockStatement", "ExpressionStatement",
   "ReturnStatement", "IfStatement", "ForStatement", "ForInStatement", "ForOfStatement",
   "WhileStatement", "DoWhileStatement", "SwitchStatement", "SwitchCase", "TryStatement",
   "CatchClause", "LabeledStatement", "VariableDeclaration", "VariableDeclarator",
   "AssignmentExpression", "MemberExpression", "CallExpression", "NewExpression", "Identifier",
   "ThisExpression", "Literal"]

/-- The kind that the `type` of a node names. -/
def title? : Json → Option String
  | .string s => some s
  | .number (.natural n) => some (titles.getD n "Unsupported")
  | _ => none

/-- A position. -/
def position? (v : Json) : Option Position := do
  let (line, column) ← v.record2? "line" "column"
  return ⟨← line.natural?, ← column.natural?⟩

/-- A location. -/
def location? (v : Json) : Option Location := do
  let (start, stop) ← v.record2? "start" "end"
  return ⟨← position? start, ← position? stop⟩

/-- The name of an identifier. -/
def identifier? (v : Json) : Option String := do
  let name ← v.record1? "name"
  name.string?

/-- A value together with what it gives as a node and as a list of nodes. -/
structure Reading where
  value : Json
  node : Option Node
  nodes : Option (List Node)

/-- The entries of a node. -/
abbrev Entries := List (String × Reading)

namespace Entries

variable {α : Type} (entries : Entries)

/-- The entry `key`, which must be there. -/
def required (key : String) (read : Reading → Option α) : Option α := do
  let reading ← Json.unique? key entries
  (← reading) |> read

/-- The entry `key`, which may be missing or `null`. -/
def optional (key : String) (read : Reading → Option α) : Option (Option α) := do
  match ← Json.unique? key entries with
  | none => return none
  | some reading =>
    match reading.value with
    | .null => return none
    | _ => some <$> read reading

/-- The entry `key` as a node. -/
def node (key : String) : Option Node := entries.required key (·.node)

/-- The entry `key` as a list of nodes. -/
def nodes (key : String) : Option (List Node) := entries.required key (·.nodes)

/-- The entry `key` as a node that may be missing. -/
def node? (key : String) : Option (Option Node) := entries.optional key (·.node)

/-- The entry `key` as a string. -/
def string (key : String) : Option String := entries.required key (·.value.string?)

/-- The entry `key` as a Boolean that is false if it is missing. -/
def flag (key : String) : Option Bool := do
  match ← Json.unique? key entries with
  | none => return false
  | some reading => reading.value.bool?

/-- The kind of a node, given the name of the kind. -/
def kind (title : String) : Option (NodeKind Node) :=
  match title with
  | "Program" => do return .program (← entries.nodes "body")
  | "FunctionDeclaration" => do
    return .functionDeclaration (← entries.required "id" (identifier? ·.value))
      (← entries.nodes "params") (← entries.node "body")
  | "FunctionExpression" => do
    return .functionExpression (← entries.optional "id" (identifier? ·.value))
      (← entries.nodes "params") (← entries.node "body")
  | "BlockStatement" => do return .blockStatement (← entries.nodes "body")
  | "ExpressionStatement" => do return .expressionStatement (← entries.node "expression")
  | "ReturnStatement" => do return .returnStatement (← entries.node? "argument")
  | "IfStatement" => do
    return .ifStatement (← entries.node "test") (← entries.node "consequent")
      (← entries.node? "alternate")
  | "ForStatement" => do
    return .forStatement (← entries.node? "init") (← entries.node? "test")
      (← entries.node? "update") (← entries.node "body")
  | "ForInStatement" => do
    return .forInStatement (← entries.node "left") (← entries.node "right") (← entries.node "body")
  | "ForOfStatement" => do
    return .forOfStatement (← entries.node "left") (← entries.node "right") (← entries.node "body")
  | "WhileStatement" => do
    return .whileStatement (← entries.node "test") (← entries.node "body")
  | "DoWhileStatement" => do
    return .doWhileStatement (← entries.node "body") (← entries.node "test")
  | "SwitchStatement" => do
    return .switchStatement (← entries.node "discriminant") (← entries.nodes "cases")
  | "SwitchCase" => do
    return .switchCase (← entries.node? "test") (← entries.nodes "consequent")
  | "TryStatement" => do
    return .tryStatement (← entries.node "block") (← entries.node? "handler")
      (← entries.node? "finalizer")
  | "CatchClause" => do
    return .catchClause (← entries.node? "param") (← entries.node "body")
  | "LabeledStatement" => do return .labeledStatement (← entries.node "body")
  | "VariableDeclaration" => do
    return .variableDeclaration (← entries.nodes "declarations") (← entries.string "kind")
  | "VariableDeclarator" => do
    return .variableDeclarator (← entries.node "id") (← entries.node? "init")
  | "AssignmentExpression" => do
    return .assignmentExpression (← entries.string "operator") (← entries.node "left")
      (← entries.node "right")
  | "MemberExpression" => do
    return .memberExpression (← entries.node "object") (← entries.node "property")
      (← entries.flag "computed")
  | "CallExpression" => do
    return .callExpression (← entries.node "callee") (← entries.nodes "arguments")
  | "NewExpression" => do
    return .newExpression (← entries.node "callee") (← entries.nodes "arguments")
  | "Identifier" => do return .identifier (← entries.string "name")
  | "ThisExpression" => some .thisExpression
  | "Literal" => do return .literal (← entries.optional "raw" (·.value.string?))
  | _ => some .unsupported

/-- The node with the given entries. -/
def assemble : Option Node := do
  let title ← entries.required "type" (title? ·.value)
  let loc ← entries.optional "loc" (location? ·.value)
  return ⟨loc.getD .unknown, ← entries.kind title⟩

end Entries

mutual

/-- The node that a JSON value gives. -/
def ofJson? : Json → Option Node
  | .object entries => Entries.assemble (readEntries entries)
  | _ => none

/-- The list of nodes that a JSON value gives. -/
def listOfJson? : Json → Option (List Node)
  | .array items => allOfJson? items
  | _ => none

/-- The nodes that JSON values give, if all of them do. -/
def allOfJson? : List Json → Option (List Node)
  | [] => some []
  | v :: vs => do return (← ofJson? v) :: (← allOfJson? vs)

/-- Entries with what their values give. -/
def readEntries : List (String × Json) → Entries
  | [] => []
  | (key, v) :: rest => (key, ⟨v, ofJson? v, listOfJson? v⟩) :: readEntries rest

end

/-- Arrays and objects may be nested this deep. -/
def maxDepth : Nat := 127

/-- The node that a JSON text gives.  All parts of the text must be sound except in the location of
the outermost node, where only its declared fields are looked at. -/
def ofText? (text : String) : Option Node :=
  match Json.parse? text with
  | some (.object entries) =>
    if entries.all fun (key, v) => key == "loc" || v.isSound (maxDepth - 1) then
      ofJson? (.object entries)
    else none
  | _ => none

end Node

end SigCheck
