/-!
# JSON values

A JSON value as its text gives it: the entries of an object in order, a repeated key as often as it
is written.  Of a number only what the library asks of it is kept.  A text may also hold what no
reader of values can use, a number beyond the range of doubles or a string whose escapes are no
Unicode text; such parts are kept as `oversize` and `garbled`, and `Json.isSound` tells whether a
value is free of them and not nested too deeply.
-/

namespace SigCheck

/-- A JSON number. -/
inductive Number where
  /-- A non-negative integer of at most 64 bits, written without fraction and exponent. -/
  | natural (n : Nat)
  /-- Any other number in the range of doubles. -/
  | other
  /-- A number beyond the range of doubles. -/
  | oversize
deriving DecidableEq, Repr

/-- A JSON value. -/
inductive Json where
  | null
  | bool (b : Bool)
  | number (n : Number)
  | string (s : String)
  | array (items : List Json)
  | object (entries : List (String × Json))
  /-- A string, or an object with a key, whose escapes are no Unicode text. -/
  | garbled

namespace Json

mutual

/-- Every part of a value can be used, and its arrays and objects are nested at most `depth`
deep. -/
def isSound (depth : Nat) : Json → Bool
  | .null | .bool _ | .string _ => true
  | .number n => n != .oversize
  | .garbled => false
  | .array items => match depth with
    | 0 => false
    | depth + 1 => areSound depth items
  | .object entries => match depth with
    | 0 => false
    | depth + 1 => entriesAreSound depth entries

/-- Every value of a list is sound. -/
def areSound (depth : Nat) : List Json → Bool
  | [] => true
  | v :: vs => isSound depth v && areSound depth vs

/-- The value of every entry is sound. -/
def entriesAreSound (depth : Nat) : List (String × Json) → Bool
  | [] => true
  | (_, v) :: rest => isSound depth v && entriesAreSound depth rest

end

/-- The value of the entry with the key `key`, if there is one; nothing at all if there are
several. -/
def unique? {α : Type} (key : String) (entries : List (String × α)) : Option (Option α) :=
  match entries.filter (·.1 == key) with
  | [] => some none
  | [entry] => some (some entry.2)
  | _ => none

/-- A natural number. -/
def natural? : Json → Option Nat
  | .number (.natural n) => some n
  | _ => none

/-- A string. -/
def string? : Json → Option String
  | .string s => some s
  | _ => none

/-- A Boolean. -/
def bool? : Json → Option Bool
  | .bool b => some b
  | _ => none

/-- A record with the one field `key`: an object, or an array of one item. -/
def record1? (key : String) : Json → Option Json
  | .object entries => do
    let value ← unique? key entries
    value
  | .array [value] => some value
  | _ => none

/-- A record with the two fields `key₁` and `key₂`: an object, or an array of two items. -/
def record2? (key₁ key₂ : String) : Json → Option (Json × Json)
  | .object entries => do
    let first ← unique? key₁ entries
    let second ← unique? key₂ entries
    return (← first, ← second)
  | .array [first, second] => some (first, second)
  | _ => none

end Json

end SigCheck
