import SigCheck.Location

/-!
# Syntax trees of programs

The tree of a checked program, in the vocabulary of the ESTree format.  Only the kinds of nodes that
the checker reasons about are told apart; every other kind is `unsupported`.
-/

namespace SigCheck

/-- The kinds of nodes, over smaller nodes `ν`. -/
inductive NodeKind (ν : Type) where
  | program (body : List ν)
  | functionDeclaration (name : String) (params : List ν) (body : ν)
  | functionExpression (name : Option String) (params : List ν) (body : ν)
  | blockStatement (body : List ν)
  | expressionStatement (expression : ν)
  | returnStatement (argument : Option ν)
  | ifStatement (test consequent : ν) (alternate : Option ν)
  | forStatement (init test update : Option ν) (body : ν)
  | forInStatement (left right body : ν)
  | forOfStatement (left right body : ν)
  | whileStatement (test body : ν)
  | doWhileStatement (body test : ν)
  | switchStatement (discriminant : ν) (cases : List ν)
  | switchCase (test : Option ν) (consequent : List ν)
  | tryStatement (block : ν) (handler finalizer : Option ν)
  | catchClause (param : Option ν) (body : ν)
  | labeledStatement (body : ν)
  | variableDeclaration (declarations : List ν) (keyword : String)
  | variableDeclarator (id : ν) (init : Option ν)
  | assignmentExpression (operator : String) (left right : ν)
  | memberExpression (object property : ν) (computed : Bool)
  | callExpression (callee : ν) (arguments : List ν)
  | newExpression (callee : ν) (arguments : List ν)
  | identifier (name : String)
  | thisExpression
  | literal (raw : Option String)
  | unsupported

/-- A node: where it stands and what it is. -/
structure Node where
  loc : Location
  kind : NodeKind Node

namespace NodeKind

variable {ν : Type}

/-- The ESTree name of a kind of node. -/
def title : NodeKind ν → String
  | program _ => "Program"
  | functionDeclaration _ _ _ => "FunctionDeclaration"
  | functionExpression _ _ _ => "FunctionExpression"
  | blockStatement _ => "BlockStatement"
  | expressionStatement _ => "ExpressionStatement"
  | returnStatement _ => "ReturnStatement"
  | ifStatement _ _ _ => "IfStatement"
  | forStatement _ _ _ _ => "ForStatement"
  | forInStatement _ _ _ => "ForInStatement"
  | forOfStatement _ _ _ => "ForOfStatement"
  | whileStatement _ _ => "WhileStatement"
  | doWhileStatement _ _ => "DoWhileStatement"
  | switchStatement _ _ => "SwitchStatement"
  | switchCase _ _ => "SwitchCase"
  | tryStatement _ _ _ => "TryStatement"
  | catchClause _ _ => "CatchClause"
  | labeledStatement _ => "LabeledStatement"
  | variableDeclaration _ _ => "VariableDeclaration"
  | variableDeclarator _ _ => "VariableDeclarator"
  | assignmentExpression _ _ _ => "AssignmentExpression"
  | memberExpression _ _ _ => "MemberExpression"
  | callExpression _ _ => "CallExpression"
  | newExpression _ _ => "NewExpression"
  | identifier _ => "Identifier"
  | thisExpression => "ThisExpression"
  | literal _ => "Literal"
  | unsupported => "Unsupported"

/-- The smaller nodes of a node, in the order of its fields. -/
def children : NodeKind ν → List ν
  | program body | blockStatement body => body
  | functionDeclaration _ params body | functionExpression _ params body => params ++ [body]
  | expressionStatement expression => [expression]
  | returnStatement argument => argument.toList
  | ifStatement test consequent alternate => test :: consequent :: alternate.toList
  | forStatement init test update body =>
    init.toList ++ test.toList ++ update.toList ++ [body]
  | forInStatement left right body | forOfStatement left right body => [left, right, body]
  | whileStatement test body => [test, body]
  | doWhileStatement body test => [body, test]
  | switchStatement discriminant cases => discriminant :: cases
  | switchCase test consequent => test.toList ++ consequent
  | tryStatement block handler finalizer => block :: (handler.toList ++ finalizer.toList)
  | catchClause param body => param.toList ++ [body]
  | labeledStatement body => [body]
  | variableDeclaration declarations _ => declarations
  | variableDeclarator id init => id :: init.toList
  | assignmentExpression _ left right => [left, right]
  | memberExpression object property _ => [object, property]
  | callExpression callee arguments | newExpression callee arguments => callee :: arguments
  | identifier _ | thisExpression | literal _ | unsupported => []

end NodeKind

namespace Node

/-- The line a node starts on. -/
def line (n : Node) : Nat := n.loc.start.line

/-- The name of an identifier. -/
def identifierName? (n : Node) : Option String :=
  match n.kind with
  | .identifier name => some name
  | _ => none

/-- The object and the name of the field in a member expression `object.name`. -/
def member? (n : Node) : Option (Node × String) :=
  match n.kind with
  | .memberExpression object property false =>
    property.identifierName?.map fun name => (object, name)
  | _ => none

/-- The node is `this`. -/
def isThis (n : Node) : Bool :=
  match n.kind with
  | .thisExpression => true
  | _ => false

/-- The value of a statement that assigns to `module.exports`. -/
def exportedValue? (n : Node) : Option Node :=
  match n.kind with
  | .expressionStatement ⟨_, .assignmentExpression _ left right⟩ =>
    match left.member? with
    | some (object, name) =>
      if name = "exports" ∧ object.identifierName? = some "module" then some right else none
    | none => none
  | _ => none

end Node

end SigCheck
