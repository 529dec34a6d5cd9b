import SigCheck.Header
import SigCheck.Token.Scanner

/-!
# Reading headers

The grammar, over tokens:

* a header is a list of statements, each followed by at most one `;`;
* a statement is `import { names } from "dep"`, `type name<names> : type` or `name : type`;
* a type is a union of intersections of primary types; a primary type is a name, a name with
  parameters, a value, an object, a tuple, a function type or a type in parentheses.

A parser takes the tokens before the `eof` and gives a result and the tokens that follow, or says
what it expected and where it stopped.  It decides by the next tokens and never goes back.  Parsers
that repeat, and the parser of types, take a number that bounds their steps; the number of tokens is
enough, since every step takes a token.

After an error, reading goes on at the next place that looks like the start of a statement
(`Parse.resume`), so that one reading reports all errors.
-/

namespace SigCheck

/-- What a parser expected where it stopped. -/
inductive Expected where
  | statement
  | name
  | type
  | token (kind : TokenKind)
  | fieldEnd
  | arrow
deriving DecidableEq, Repr

/-- What was expected, and the token found in its place. -/
structure ParseError where
  expected : Expected
  found : Token
deriving DecidableEq, Repr

namespace ParseError

/-- What is wrong.  A token that is an error itself says so. -/
def message (e : ParseError) : String :=
  if e.found.kind = .error then e.found.value
  else match e.expected with
    | .statement => "Expected statement, found " ++ e.found.kind.title
    | .name => "Expected name, found " ++ e.found.kind.title
    | .type => "Expected type, found " ++ e.found.kind.title
    | .token kind => "Expected " ++ kind.title ++ ", found " ++ e.found.kind.title
    | .fieldEnd => "Expected ',' or '\x7d' in object type, found " ++ e.found.kind.title
    | .arrow => "Expected '=>' after argument list"

/-- Where it is wrong. -/
def span (e : ParseError) : Span := e.found.span

/-- The error as it is reported. -/
def text (e : ParseError) : String := "Parse error at " ++ e.span.text ++ ": " ++ e.message

end ParseError

/-- The outcome of a parser: a result and the tokens after it, or what it expected and the tokens
from where it stopped. -/
inductive Reply (α : Type) where
  | ok (result : α) (rest : List Token)
  | fail (expected : Expected) (rest : List Token)

/-- A reader of tokens. -/
def Parse (α : Type) := List Token → Reply α

namespace Parse

variable {α β : Type}

instance : Monad Parse where
  pure a := fun ts => .ok a ts
  bind p f := fun ts =>
    match p ts with
    | .ok a rest => f a rest
    | .fail expected rest => .fail expected rest

/-! ### Single tokens -/

/-- Stops. -/
def refuse (expected : Expected) : Parse α := fun ts => .fail expected ts

/-- The class of the next token. -/
def nextKind : List Token → TokenKind
  | [] => .eof
  | t :: _ => t.kind

/-- A token of the class `kind`. -/
def token (kind : TokenKind) : Parse Token
  | [] => .fail (.token kind) []
  | t :: ts => if t.kind = kind then .ok t ts else .fail (.token kind) (t :: ts)

/-- A token of the class `kind`, if there is one. -/
def accept (kind : TokenKind) : Parse Bool
  | [] => .ok false []
  | t :: ts => if t.kind = kind then .ok true ts else .ok false (t :: ts)

/-- A name, which may be a keyword. -/
def name : Parse String
  | [] => .fail .name []
  | t :: ts => if t.kind.isName then .ok t.value ts else .fail .name (t :: ts)

/-! ### Lists -/

/-- At most `n` times an item and what separates it from the next, until `close` or the end. -/
def itemsUntil (close : TokenKind) (item : Parse α) (separator : Parse Unit) : Nat → Parse (List α)
  | 0 => pure []
  | n + 1 => fun ts =>
    if ts.isEmpty || nextKind ts = close then .ok [] ts
    else (do
      let a ← item
      separator
      let as ← itemsUntil close item separator n
      return a :: as : Parse (List α)) ts

/-- Items up to the token `close`, which is taken too. -/
def enclosed (close : TokenKind) (item : Parse α) (separator : Parse Unit) : Parse (List α) :=
  fun ts => (do
    let items ← itemsUntil close item separator ts.length
    let _ ← token close
    return items : Parse (List α)) ts

/-- A comma, which may be missing before `close`. -/
def commaOr (close : TokenKind) : Parse Unit := fun ts =>
  if nextKind ts = close then .ok () ts
  else (do let _ ← token .comma; return : Parse Unit) ts

/-- At most `n` times the token `separator` and an item. -/
def following (separator : TokenKind) (item : Parse α) : Nat → Parse (List α)
  | 0 => pure []
  | n + 1 => do
    if ← accept separator then
      let a ← item
      let as ← following separator item n
      return a :: as
    else
      return []

/-- One or more items with the token `separator` between them. -/
def separated (separator : TokenKind) (item : Parse α) : Parse (List α) := do
  let first ← item
  let others ← fun ts => following separator item ts.length ts
  return first :: others

/-! ### Types -/

/-- The union of the members; of a single one, that member itself. -/
def unionOf : List TypeExpr → TypeExpr
  | [only] => only
  | members => .ofShape (.union members)

/-- The intersection of the members; of a single one, that member itself. -/
def intersectionOf : List TypeExpr → TypeExpr
  | [only] => only
  | members => .ofShape (.intersection members)

/-- A function type; a first argument labelled `this` is the receiver. -/
def functionOf (args : List TypeExpr) (result : TypeExpr) : TypeExpr :=
  match args with
  | [] => .ofShape (.function [] none result)
  | first :: others =>
    if first.label = some "this" then .ofShape (.function others (some first) result)
    else .ofShape (.function (first :: others) none result)

/-- The text of a string literal as a value. -/
def quotedValue (value : String) : String := "\"" ++ value ++ "\""

section types

variable (type : Parse TypeExpr)

/-- What follows a name in a type: its parameters, if there are any. -/
def named (name : String) : Parse TypeExpr :=
  if name = "true" ∨ name = "false" then return .value name
  else do
    if ← accept .less then
      let params ← separated .comma type
      let _ ← token .greater
      return .ofShape (.generic (.literal name) params)
    else
      return .literal name

/-- The key of a field: a name or a string. -/
def key : Parse String := fun ts =>
  match ts with
  | [] => name []
  | t :: rest => if t.kind = .string then .ok t.value rest else name (t :: rest)

/-- A field of an object type. -/
def field : Parse (Field TypeExpr) := do
  let key ← key
  let optional ← accept .question
  let _ ← token .colon
  let type ← type
  return ⟨key, optional, type⟩

/-- A comma or semicolon after a field; either may be missing before the closing brace. -/
def fieldEnd : Parse Unit
  | [] => .fail .fieldEnd []
  | t :: ts =>
    if t.kind = .comma ∨ t.kind = .semicolon then .ok () ts
    else if t.kind = .rbrace then .ok () (t :: ts)
    else .fail .fieldEnd (t :: ts)

/-- An object type after its opening brace. -/
def object : Parse TypeExpr := do
  let fields ← enclosed .rbrace (field type) fieldEnd
  return .ofShape (.object () fields)

/-- A tuple type after its opening bracket. -/
def tuple : Parse TypeExpr := do
  let items ← enclosed .rbracket type (commaOr .rbracket)
  return .ofShape (.tuple items)

/-- The type of an argument whose name has been read. -/
def labelled (label : String) (optional : Bool) : Parse TypeExpr := do
  let t ← type
  return t.withLabel label optional

/-- An argument of a function type, which may have a label. -/
def argument : Parse TypeExpr := fun ts =>
  match ts with
  | t :: u :: v :: rest =>
    if t.kind.isName ∧ u.kind = .colon then labelled type t.value false (v :: rest)
    else if t.kind.isName ∧ u.kind = .question ∧ v.kind = .colon then
      labelled type t.value true rest
    else type ts
  | [t, u] =>
    if t.kind.isName ∧ u.kind = .colon then labelled type t.value false []
    else type ts
  | _ => type ts

/-- What follows the arguments of a function type; without an arrow they must be a single type in
parentheses. -/
def afterArguments (args : List TypeExpr) : Parse TypeExpr := do
  if ← accept .arrow then
    let result ← type
    return functionOf args result
  else
    match args with
    | [only] => if only.label.isNone && !only.optional then return only else refuse .arrow
    | _ => refuse .arrow

/-- A function type, or a type in parentheses, after its opening parenthesis. -/
def parenthesis : Parse TypeExpr := do
  let args ← enclosed .rparen (argument type) (commaOr .rparen)
  afterArguments type args

/-- A type that is no union or intersection, unless in parentheses. -/
def primary : Parse TypeExpr
  | [] => .fail .type []
  | t :: ts =>
    match t.kind with
    | .name => named type t.value ts
    | .string => .ok (.value (quotedValue t.value)) ts
    | .number => .ok (.value t.value) ts
    | .lbrace => object type ts
    | .lbracket => tuple type ts
    | .lparen => parenthesis type ts
    | _ => .fail .type (t :: ts)

/-- A type, given how to read the types inside it. -/
def typeOver : Parse TypeExpr := do
  let members ← separated .pipe (intersectionOf <$> separated .amp (primary type))
  return unionOf members

end types

/-- A type in which other types are nested less than `n` deep. -/
def typeWithin : Nat → Parse TypeExpr
  | 0 => refuse .type
  | n + 1 => typeOver (typeWithin n)

/-- A type. -/
def type : Parse TypeExpr := fun ts => typeWithin ts.length ts

/-! ### Statements -/

/-- An import after its keyword. -/
def importNames : Parse Statement := do
  let _ ← token .lbrace
  let names ← enclosed .rbrace name (commaOr .rbrace)
  let _ ← token .fromKeyword
  let dependency ← token .string
  return .imports ⟨dependency.value, names.map .literal⟩

/-- The parameters of a declaration. -/
def params : Parse (List TypeExpr) := do
  if ← accept .less then
    let names ← separated .comma name
    let _ ← token .greater
    return names.map .literal
  else
    return []

/-- A declaration after its keyword. -/
def declaration : Parse Statement := do
  let name ← name
  let params ← params
  let _ ← token .colon
  let type ← type
  return .declares ⟨name, params, type⟩

/-- An assignment. -/
def assignment : Parse Statement := do
  let name ← name
  let _ ← token .colon
  let type ← type
  return .assigns ⟨name, type⟩

/-- A statement without the semicolon after it.  A keyword before a colon is a name. -/
def bareStatement : Parse Statement
  | [] => .fail .statement []
  | t :: ts =>
    if t.kind = .importKeyword ∧ nextKind ts ≠ .colon then importNames ts
    else if t.kind = .typeKeyword ∧ nextKind ts ≠ .colon then declaration ts
    else if t.kind.isName then assignment (t :: ts)
    else .fail .statement (t :: ts)

/-- A statement. -/
def statement : Parse Statement := do
  let s ← bareStatement
  let _ ← accept .semicolon
  return s

/-! ### Headers -/

/-- A token of the class `kind`, before one of the class `next` and after one of the class `last`,
looks like the start of a statement. -/
def startsStatement (last kind next : TokenKind) : Bool :=
  match kind with
  | .typeKeyword | .importKeyword => next != .colon
  | .name => next == .colon && !(last == .lbrace || last == .comma || last == .lparen)
  | _ => false

/-- The tokens from the next start of a statement on, after a token of the class `last`. -/
def resumeAfter : TokenKind → List Token → List Token
  | _, [] => []
  | last, t :: ts =>
    if last = .semicolon ∨ startsStatement last t.kind (nextKind ts) then t :: ts
    else resumeAfter t.kind ts

/-- The tokens from where reading goes on after an error; the one it stopped at is passed over. -/
def resume : List Token → List Token
  | [] => []
  | t :: ts => resumeAfter t.kind ts

/-- What was expected, and the tokens from where it was expected. -/
structure Failure where
  expected : Expected
  rest : List Token

/-- The statements and failures of a header, in order, at most `n` of them. -/
def statements : Nat → List Token → List (Except Failure Statement)
  | 0, _ => []
  | n + 1, ts =>
    if ts.isEmpty then []
    else match statement ts with
      | .ok s rest => .ok s :: statements n rest
      | .fail expected rest => .error ⟨expected, rest⟩ :: statements n (resume rest)

end Parse

/-- The `eof` token that ends a list of tokens; one without it ends behind its last token. -/
def eofToken (ts : List Token) : Token :=
  match ts.find? (·.kind = .eof) with
  | some t => t
  | none =>
    let last := (ts.getLast?.map (·.span.stop)).getD 0
    ⟨.eof, ⟨last, last, 0⟩, ""⟩

/-- The tokens before the first `eof`. -/
def beforeEof (ts : List Token) : List Token := ts.takeWhile (·.kind ≠ .eof)

/-- The error that a failure stands for in a list of tokens that ends with `eof`. -/
def Parse.Failure.error (eof : Token) (f : Parse.Failure) : ParseError :=
  ⟨f.expected, f.rest.head?.getD eof⟩

/-- Reads a header, or says all that is wrong with it. -/
def Header.ofTokens (ts : List Token) : Except (List ParseError) Header :=
  let body := beforeEof ts
  let results := Parse.statements body.length body
  let errors := results.filterMap fun
    | .error f => some (f.error (eofToken ts))
    | .ok _ => none
  let statements := results.filterMap fun
    | .ok s => some s
    | .error _ => none
  if errors.isEmpty then .ok ⟨statements⟩ else .error errors

/-- Reads the text of a header. -/
def Header.parse (source : String) : Except (List ParseError) Header :=
  Header.ofTokens (tokenize source)

end SigCheck
