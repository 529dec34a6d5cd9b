import SigCheck.Text.Measure

/-!
# Literals of programs

The type of a literal is read off its text: a text that starts with a quote is a string, and a
numeral is a number.  Numerals are decimal, with an optional fraction and exponent, or hexadecimal,
octal or binary behind `0x`, `0o` or `0b`; underscores between digits do not count, nor does case.
-/

namespace SigCheck

namespace Literal

/-- A digit of the given radix, which is at most 16, in lower case. -/
def isDigitOf (radix : Nat) (c : Char) : Bool :=
  if c.isDigit then c.toNat - '0'.toNat < radix
  else 'a' ≤ c && c ≤ 'f' && c.toNat - 'a'.toNat + 10 < radix

/-- One or more digits of the given radix, and nothing else. -/
def isNumeralOf (radix : Nat) (digits : Text) : Bool :=
  !digits.isEmpty && digits.all (isDigitOf radix)

/-- The exponent of a decimal numeral, or nothing. -/
def isExponent : Text → Bool
  | [] => true
  | 'e' :: '+' :: digits | 'e' :: '-' :: digits => isNumeralOf 10 digits
  | 'e' :: digits => isNumeralOf 10 digits
  | _ => false

/-- A decimal numeral: digits with at most one point before, among or behind them, and at most one
exponent. -/
def isDecimal (t : Text) : Bool :=
  let whole := t.takeWhile Char.isDigit
  match t.dropWhile Char.isDigit with
  | '.' :: rest =>
    let fraction := rest.takeWhile Char.isDigit
    !(whole.isEmpty && fraction.isEmpty) && isExponent (rest.dropWhile Char.isDigit)
  | rest => !whole.isEmpty && isExponent rest

/-- The text of a numeral. -/
def isNumber (raw : Text) : Bool :=
  match (raw.filter (· != '_')).map Char.toLower with
  | '0' :: 'x' :: digits => isNumeralOf 16 digits
  | '0' :: 'o' :: digits => isNumeralOf 8 digits
  | '0' :: 'b' :: digits => isNumeralOf 2 digits
  | t => isDecimal t

/-- The name of the type of a literal, if it is a string or a number. -/
def typeName? (raw : String) : Option String :=
  match raw.toList with
  | '"' :: _ | '\'' :: _ => some "String"
  | t => if isNumber t then some "Number" else none

end Literal

end SigCheck
