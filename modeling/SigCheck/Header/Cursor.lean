import SigCheck.Header.Parse

/-!
# Reading headers with a cursor

`Header.ofTokens` takes lists of tokens apart, up to the first `eof`.  Here headers are read from an
array of all tokens, with a cursor: a reader looks at the token under the cursor, at the one before
it and at the two behind it, and moves the cursor on, unless it is at an `eof`.

A reader has no outcome (`none`) if it asks for a token that is not there, if it looks or goes where
it may not, or if a loop turns more often than it may.  Which places are allowed is part of what is
read (`Tape`).

That there always is an outcome, and that it is the one of `Header.ofTokens`, takes a proof; what
holds of lists by construction, such as that nothing behind the first `eof` is looked at, holds here
only because no reader asks for it.
-/

namespace SigCheck

/-- The tokens to read, and the places that may be looked at and gone to. -/
structure Tape where
  tokens : Array Token
  allowed : Nat → Bool

/-- A reader of tokens from a place on: it gives a result or an error, and the place where it
stopped. -/
def Cursor (α : Type) := Tape → Nat → Option (Except ParseError α × Nat)

namespace Cursor

open Parse (unionOf intersectionOf functionOf quotedValue)

variable {α : Type}

instance : Monad Cursor where
  pure a := fun _ place => some (.ok a, place)
  bind c f := fun tape place =>
    match c tape place with
    | none => none
    | some (.ok a, next) => f a tape next
    | some (.error e, stop) => some (.error e, stop)

/-! ### Looking and moving -/

/-- No outcome. -/
def stuck : Cursor α := fun _ _ => none

/-- Stops with an error. -/
def stop (e : ParseError) : Cursor α := fun _ place => some (.error e, place)

/-- The token at a place. -/
def tokenAt (i : Nat) : Cursor Token := fun tape place =>
  if tape.allowed i then tape.tokens[i]?.map fun t => (.ok t, place) else none

/-- The token under the cursor. -/
def current : Cursor Token := fun tape place =>
  tokenAt (min place (tape.tokens.size - 1)) tape place

/-- The token before the cursor. -/
def previous : Cursor Token := fun tape place =>
  tokenAt (min (place - 1) (tape.tokens.size - 1)) tape place

/-- The class of a token behind the cursor, if there is one. -/
def peek (offset : Nat) : Cursor (Option TokenKind) := fun tape place =>
  if tape.allowed (place + offset) then
    some (.ok (tape.tokens[place + offset]?.map (·.kind)), place)
  else none

/-- The cursor is at an `eof`, or behind all tokens. -/
def atEnd : Cursor Bool := fun tape place =>
  if tape.tokens.size ≤ place then some (.ok true, place)
  else (do return (← current).kind == .eof : Cursor Bool) tape place

/-- Moves the cursor. -/
def move : Cursor Unit := fun tape place =>
  if tape.allowed (place + 1) then some (.ok (), place + 1) else none

/-- Moves the cursor, unless it is at the end; gives the token before it. -/
def advance : Cursor Token := do
  if ← atEnd then previous
  else
    move
    previous

/-- The token under the cursor is of the class `kind`. -/
def check (kind : TokenKind) : Cursor Bool := do
  if ← atEnd then return false
  else return (← current).kind == kind

/-- The token under the cursor is a name. -/
def atName : Cursor Bool := do return (← current).kind.isName

/-! ### Single tokens -/

/-- Stops at the token under the cursor. -/
def refuse (expected : Expected) : Cursor α := do stop ⟨expected, ← current⟩

/-- A token of the class `kind`. -/
def token (kind : TokenKind) : Cursor Token := do
  if ← check kind then advance else refuse (.token kind)

/-- A token of the class `kind`, if there is one. -/
def accept (kind : TokenKind) : Cursor Bool := do
  if ← check kind then
    let _ ← advance
    return true
  else return false

/-- A name, which may be a keyword. -/
def name : Cursor String := do
  if ← atName then return (← advance).value else refuse .name

/-! ### Lists -/

/-- An item and what separates it from the next, until `close` or the end; at most `n` turns. -/
def itemsUntil (close : TokenKind) (item : Cursor α) (separator : Cursor Unit) :
    Nat → Cursor (List α)
  | 0 => stuck
  | n + 1 => do
    if ← check close then return []
    else if ← atEnd then return []
    else
      let a ← item
      separator
      let as ← itemsUntil close item separator n
      return a :: as

/-- The token `separator` and an item, as often as there is one; at most `n` turns. -/
def following (separator : TokenKind) (item : Cursor α) : Nat → Cursor (List α)
  | 0 => stuck
  | n + 1 => do
    if ← accept separator then
      let a ← item
      let as ← following separator item n
      return a :: as
    else return []

/-- A comma, which may be missing before `close`. -/
def commaOr (close : TokenKind) : Cursor Unit := do
  if ← check close then return
  else
    let _ ← token .comma

section bounded

-- how often a loop may turn
variable (n : Nat)

/-- Items up to the token `close`, which is taken too. -/
def enclosed (close : TokenKind) (item : Cursor α) (separator : Cursor Unit) :
    Cursor (List α) := do
  let items ← itemsUntil close item separator n
  let _ ← token close
  return items

/-- One or more items with the token `separator` between them. -/
def separated (separator : TokenKind) (item : Cursor α) : Cursor (List α) := do
  let first ← item
  let others ← following separator item n
  return first :: others

/-! ### Types -/

section types

variable (type : Cursor TypeExpr)

/-- The parameters of a generic type, after its name. -/
def generic (name : String) : Cursor TypeExpr := do
  let _ ← token .less
  let params ← separated n .comma type
  let _ ← token .greater
  return .ofShape (.generic (.literal name) params)

/-- What follows a name in a type: its parameters, if there are any. -/
def named (name : String) : Cursor TypeExpr := do
  if name = "true" ∨ name = "false" then return .value name
  else if ← check .less then generic n type name
  else return .literal name

/-- The key of a field: a name or a string. -/
def key : Cursor String := do
  if ← check .string then return (← advance).value else name

/-- A field of an object type. -/
def field : Cursor (Field TypeExpr) := do
  let key ← key
  let optional ← accept .question
  let _ ← token .colon
  let type ← type
  return ⟨key, optional, type⟩

/-- A comma or semicolon after a field; either may be missing before the closing brace. -/
def fieldEnd : Cursor Unit := do
  if (← check .comma) || (← check .semicolon) then
    let _ ← advance
  else if ← check .rbrace then return
  else refuse .fieldEnd

/-- An object type. -/
def object : Cursor TypeExpr := do
  let _ ← token .lbrace
  let fields ← enclosed n .rbrace (field type) fieldEnd
  return .ofShape (.object () fields)

/-- A tuple type. -/
def tuple : Cursor TypeExpr := do
  let _ ← token .lbracket
  let items ← enclosed n .rbracket type (commaOr .rbracket)
  return .ofShape (.tuple items)

/-- The argument under the cursor has a label: a name before a colon, or before a question mark and
a colon. -/
def atLabel : Cursor Bool := do
  if ← atName then
    match ← peek 1 with
    | some .colon => return true
    | some .question => return (← peek 2) == some .colon
    | _ => return false
  else return false

/-- An argument of a function type, which may have a label. -/
def argument : Cursor TypeExpr := do
  if ← atLabel then
    let label ← name
    let optional ← accept .question
    let _ ← token .colon
    let t ← type
    return t.withLabel label optional
  else type

/-- What follows the arguments of a function type; without an arrow they must be a single type in
parentheses. -/
def afterArguments (args : List TypeExpr) : Cursor TypeExpr := do
  if ← check .arrow then
    let _ ← token .arrow
    let result ← type
    return functionOf args result
  else
    match args with
    | [only] => if only.label.isNone && !only.optional then return only else refuse .arrow
    | _ => refuse .arrow

/-- A function type, or a type in parentheses. -/
def parenthesis : Cursor TypeExpr := do
  let _ ← token .lparen
  let args ← enclosed n .rparen (argument type) (commaOr .rparen)
  afterArguments type args

/-- A type that is no union or intersection, unless in parentheses. -/
def primary : Cursor TypeExpr := do
  match (← current).kind with
  | .name => named n type (← advance).value
  | .string => return .value (quotedValue (← advance).value)
  | .number => return .value (← advance).value
  | .lbrace => object n type
  | .lbracket => tuple n type
  | .lparen => parenthesis n type
  | _ => refuse .type

/-- A type, given how to read the types inside it. -/
def typeOver : Cursor TypeExpr := do
  let members ← separated n .pipe (do return intersectionOf (← separated n .amp (primary n type)))
  return unionOf members

end types

/-- A type in which other types are nested less than `depth` deep. -/
def typeWithin : Nat → Cursor TypeExpr
  | 0 => stuck
  | depth + 1 => typeOver n (typeWithin depth)

/-- A type. -/
def type : Cursor TypeExpr := typeWithin n n

/-! ### Statements -/

/-- An import. -/
def importNames : Cursor Statement := do
  let _ ← token .importKeyword
  let _ ← token .lbrace
  let names ← enclosed n .rbrace name (commaOr .rbrace)
  let _ ← token .fromKeyword
  let dependency ← token .string
  return .imports ⟨dependency.value, names.map .literal⟩

/-- The parameters of a declaration. -/
def params : Cursor (List TypeExpr) := do
  if ← accept .less then
    let names ← separated n .comma name
    let _ ← token .greater
    return names.map .literal
  else return []

/-- A declaration. -/
def declaration : Cursor Statement := do
  let _ ← token .typeKeyword
  let name ← name
  let params ← params n
  let _ ← token .colon
  let type ← type n
  return .declares ⟨name, params, type⟩

/-- An assignment. -/
def assignment : Cursor Statement := do
  let name ← name
  let _ ← token .colon
  let type ← type n
  return .assigns ⟨name, type⟩

/-- A statement without the semicolon after it.  A keyword before a colon is a name. -/
def bareStatement : Cursor Statement := do
  let named := (← peek 1) == some .colon
  let kind := (← current).kind
  if kind = .importKeyword ∧ named = false then importNames n
  else if kind = .typeKeyword ∧ named = false then declaration n
  else if ← atName then assignment n
  else refuse .statement

/-- A statement. -/
def statement : Cursor Statement := do
  let s ← bareStatement n
  let _ ← accept .semicolon
  return s

/-! ### Headers -/

/-- The token under the cursor looks like the start of a statement. -/
def startsStatement : Cursor Bool := do
  match (← current).kind with
  | .typeKeyword | .importKeyword => return (← peek 1) != some .colon
  | .name =>
    if (← peek 1) == some .colon then
      let last := (← previous).kind
      return !(last == .lbrace || last == .comma || last == .lparen)
    else return false
  | _ => return false

/-- Moves to the next start of a statement. -/
def resumeWithin : Nat → Cursor Unit
  | 0 => stuck
  | n + 1 => do
    if ← atEnd then return
    else if (← previous).kind = .semicolon then return
    else if ← startsStatement then return
    else
      let _ ← advance
      resumeWithin n

/-- Moves to where reading goes on after an error; the token it stopped at is passed over. -/
def resume : Cursor Unit := do
  let _ ← advance
  resumeWithin n

/-- The result or the error of a reader, as its result. -/
def attempt (c : Cursor α) : Cursor (Except ParseError α) := fun tape place =>
  (c tape place).map fun outcome => (.ok outcome.1, outcome.2)

/-- The statements and errors of a header, in order. -/
def statements : Nat → Cursor (List (Except ParseError Statement))
  | 0 => stuck
  | m + 1 => do
    if ← atEnd then return []
    else
      let result ← attempt (statement n)
      match result with
      | .ok _ => pure ()
      | .error _ => resume n
      let results ← statements m
      return result :: results

end bounded

end Cursor

/-- The tokens with an `eof` at their end. -/
def withEof (ts : List Token) : List Token :=
  if ts.getLast?.map (·.kind) = some .eof then ts
  else
    let last := (ts.getLast?.map (·.span.stop)).getD 0
    ts ++ [⟨.eof, ⟨last, last, 0⟩, ""⟩]

/-- The header of the statements that were read, or the errors if there are any. -/
def Header.ofResults (results : List (Except ParseError Statement)) :
    Except (List ParseError) Header :=
  let errors := results.filterMap fun
    | .error e => some e
    | .ok _ => none
  let statements := results.filterMap fun
    | .ok s => some s
    | .error _ => none
  if errors.isEmpty then .ok ⟨statements⟩ else .error errors

/-- Reads a header with a cursor that stays in the allowed places, in loops of at most `n` turns;
gives the place where the cursor is left, too. -/
def Header.readTokens (allowed : Nat → Bool) (n : Nat) (ts : List Token) :
    Option (Except (List ParseError) Header × Nat) :=
  match Cursor.statements n n ⟨(withEof ts).toArray, allowed⟩ 0 with
  | some (.ok results, place) => some (ofResults results, place)
  | _ => none

end SigCheck
