import SigCheck.Json.Value
import SigCheck.Text.Measure

/-!
# Reading JSON

`Json.parse?` reads a text of the JSON grammar, with nothing but blanks around one value.

A numeral is a natural number if it has no sign, fraction or exponent and fits in 64 bits.  Any
other numeral stands for a double: its digits are taken as long as they fit in 64 bits, the number
so taken and the power of ten that goes with it are rounded to 53 bits each, and the numeral is
oversize if their product is too large to be rounded to a finite double.
-/

namespace SigCheck

namespace Json

/-! ### Numbers -/

/-- The parts of a numeral: its sign, the digits before and behind the point, and the exponent. -/
structure Numeral where
  negative : Bool
  whole : List Nat
  fraction : Option (List Nat)
  exponent : Option Int

/-- The number with the given decimal digits. -/
def ofDigits (digits : List Nat) : Nat := digits.foldl (fun n d => n * 10 + d) 0

/-- The numbers of 64 bits are those below this one. -/
def wordLimit : Nat := Nat.pow 2 64

/-- Takes digits behind `n` as long as the number fits in 64 bits; the digits that are left. -/
def takeDigits (n : Nat) : List Nat → Nat × List Nat
  | [] => (n, [])
  | d :: ds => if n * 10 + d < wordLimit then takeDigits (n * 10 + d) ds else (n, d :: ds)

/-- Rounds to 53 bits; a number halfway between two goes to the even one. -/
def roundTo53 (n : Nat) : Nat :=
  if n < Nat.pow 2 53 then n
  else
    let unit := Nat.pow 2 (n.log2 - 52)
    let low := n / unit
    let rest := n % unit
    if unit < 2 * rest ∨ (unit = 2 * rest ∧ low % 2 = 1) then (low + 1) * unit else low * unit

/-- The least number that is not rounded to a finite double. -/
def doubleLimit : Nat := Nat.pow 2 1024 - Nat.pow 2 970

namespace Numeral

/-- The numeral stands for a number beyond the range of doubles. -/
def isOversize (n : Numeral) : Bool :=
  let (significand, dropped) := takeDigits 0 n.whole
  let fraction := n.fraction.getD []
  let (significand, ignored) := takeDigits significand fraction
  let exponent : Int :=
    dropped.length - (fraction.length - ignored.length : Nat) + n.exponent.getD 0
  significand ≠ 0 && match exponent with
    | .ofNat e =>
      308 < e || doubleLimit ≤ roundTo53 significand * roundTo53 (Nat.pow 10 e)
    | .negSucc _ => false

/-- The number a numeral stands for. -/
def number (n : Numeral) : Number :=
  if !n.negative && n.fraction.isNone && n.exponent.isNone && ofDigits n.whole < wordLimit then
    .natural (ofDigits n.whole)
  else if n.isOversize then .oversize
  else .other

end Numeral

/-- The value of a decimal digit. -/
def digit (c : Char) : Nat := c.toNat - '0'.toNat

/-- One or more digits. -/
def digits? (cs : Text) : Option (List Nat × Text) :=
  match cs.takeWhile Char.isDigit with
  | [] => none
  | ds => some (ds.map digit, cs.dropWhile Char.isDigit)

/-- The digits of a whole number, without leading zeros. -/
def whole? : Text → Option (List Nat × Text)
  | '0' :: cs => some ([0], cs)
  | cs => digits? cs

/-- The fraction of a numeral, if it has one. -/
def fraction? : Text → Option (Option (List Nat) × Text)
  | '.' :: cs => (digits? cs).map fun (ds, rest) => (some ds, rest)
  | cs => some (none, cs)

/-- The digits of an exponent behind its sign. -/
def signedExponent? : Text → Option (Int × Text)
  | '-' :: cs => (digits? cs).map fun (ds, rest) => (-(ofDigits ds : Int), rest)
  | '+' :: cs => (digits? cs).map fun (ds, rest) => ((ofDigits ds : Int), rest)
  | cs => (digits? cs).map fun (ds, rest) => ((ofDigits ds : Int), rest)

/-- The exponent of a numeral, if it has one. -/
def exponent? : Text → Option (Option Int × Text)
  | 'e' :: cs | 'E' :: cs => (signedExponent? cs).map fun (e, rest) => (some e, rest)
  | cs => some (none, cs)

/-- A numeral without its sign. -/
def unsigned? (negative : Bool) (cs : Text) : Option (Numeral × Text) := do
  let (whole, cs) ← whole? cs
  let (fraction, cs) ← fraction? cs
  let (exponent, cs) ← exponent? cs
  return (⟨negative, whole, fraction, exponent⟩, cs)

/-- A numeral. -/
def numeral? : Text → Option (Numeral × Text)
  | '-' :: cs => unsigned? true cs
  | cs => unsigned? false cs

/-! ### Strings -/

/-- An element of a string: a character, or a surrogate given by an escape. -/
inductive StringItem where
  | char (c : Char)
  | surrogate (n : Nat)

/-- The text that the elements of a string spell; surrogates must come in pairs, a high one before a
low one. -/
def spell : List StringItem → Option Text
  | [] => some []
  | .char c :: items => (spell items).map (c :: ·)
  | .surrogate high :: .surrogate low :: items =>
    if high < 0xDC00 ∧ 0xDC00 ≤ low then
      (spell items).map (Char.ofNat (0x10000 + (high - 0xD800) * 0x400 + (low - 0xDC00)) :: ·)
    else none
  | .surrogate _ :: _ => none

/-- The value of a hexadecimal digit. -/
def hexDigit? (c : Char) : Option Nat :=
  if c.isDigit then some (c.toNat - '0'.toNat)
  else if 'a' ≤ c ∧ c ≤ 'f' then some (c.toNat - 'a'.toNat + 10)
  else if 'A' ≤ c ∧ c ≤ 'F' then some (c.toNat - 'A'.toNat + 10)
  else none

/-- The element given by four hexadecimal digits. -/
def hexItem? (a b c d : Char) : Option StringItem := do
  let n := (((← hexDigit? a) * 16 + (← hexDigit? b)) * 16 + (← hexDigit? c)) * 16 + (← hexDigit? d)
  return if 0xD800 ≤ n ∧ n < 0xE000 then .surrogate n else .char (Char.ofNat n)

/-- The character that a backslash and `c` stand for. -/
def escape? : Char → Option Char
  | '"' => some '"'
  | '\\' => some '\\'
  | '/' => some '/'
  | 'b' => some '\x08'
  | 'f' => some '\x0c'
  | 'n' => some '\n'
  | 'r' => some '\r'
  | 't' => some '\t'
  | _ => none

/-- The elements of a string up to its closing quote, and what follows. -/
def stringItems? : Text → Option (List StringItem × Text)
  | [] => none
  | '"' :: cs => some ([], cs)
  | '\\' :: 'u' :: a :: b :: c :: d :: cs => do
    let item ← hexItem? a b c d
    let (items, rest) ← stringItems? cs
    return (item :: items, rest)
  | '\\' :: e :: cs => do
    let c ← escape? e
    let (items, rest) ← stringItems? cs
    return (.char c :: items, rest)
  | c :: cs => do
    if c.toNat < 0x20 ∨ c = '\\' then none
    else
      let (items, rest) ← stringItems? cs
      return (.char c :: items, rest)

/-! ### Values -/

/-- The blanks of JSON. -/
def isJsonBlank (c : Char) : Bool := c == ' ' || c == '\t' || c == '\n' || c == '\r'

/-- The text without the blanks in front. -/
def skipBlanks (cs : Text) : Text := cs.dropWhile isJsonBlank

/-- An object with the given entries, whose keys may be garbled. -/
def ofEntries (entries : List (Option Text × Json)) : Json :=
  match entries.mapM fun (key, value) => key.map fun k => (String.ofList k, value) with
  | some entries => .object entries
  | none => .garbled

mutual

/-- A value at the head of a text, and what follows; at most `n` steps deep. -/
def value? : Nat → Text → Option (Json × Text)
  | 0, _ => none
  | n + 1, cs =>
    match skipBlanks cs with
    | 'n' :: 'u' :: 'l' :: 'l' :: rest => some (.null, rest)
    | 't' :: 'r' :: 'u' :: 'e' :: rest => some (.bool true, rest)
    | 'f' :: 'a' :: 'l' :: 's' :: 'e' :: rest => some (.bool false, rest)
    | '"' :: rest => do
      let (items, rest) ← stringItems? rest
      match spell items with
      | some s => return (.string (String.ofList s), rest)
      | none => return (.garbled, rest)
    | '[' :: rest =>
      match skipBlanks rest with
      | ']' :: rest => some (.array [], rest)
      | _ => do
        let (items, rest) ← items? n rest
        return (.array items, rest)
    | '{' :: rest =>
      match skipBlanks rest with
      | '}' :: rest => some (.object [], rest)
      | _ => do
        let (entries, rest) ← entries? n rest
        return (ofEntries entries, rest)
    | cs => do
      let (numeral, rest) ← numeral? cs
      return (.number numeral.number, rest)

/-- The items of an array through its closing bracket. -/
def items? : Nat → Text → Option (List Json × Text)
  | 0, _ => none
  | n + 1, cs => do
    let (item, rest) ← value? n cs
    match skipBlanks rest with
    | ',' :: rest =>
      let (items, rest) ← items? n rest
      return (item :: items, rest)
    | ']' :: rest => return ([item], rest)
    | _ => none

/-- The entries of an object through its closing brace. -/
def entries? : Nat → Text → Option (List (Option Text × Json) × Text)
  | 0, _ => none
  | n + 1, cs =>
    match skipBlanks cs with
    | '"' :: rest => do
      let (key, rest) ← stringItems? rest
      match skipBlanks rest with
      | ':' :: rest =>
        let (value, rest) ← value? n rest
        match skipBlanks rest with
        | ',' :: rest =>
          let (entries, rest) ← entries? n rest
          return ((spell key, value) :: entries, rest)
        | '}' :: rest => return ([(spell key, value)], rest)
        | _ => none
      | _ => none
    | _ => none

end

/-- The value of a JSON text.  Two steps are taken for each character at most. -/
def parse? (text : String) : Option Json :=
  match value? (2 * text.length + 2) text.toList with
  | some (value, rest) => if (skipBlanks rest).isEmpty then some value else none
  | none => none

end Json

end SigCheck
