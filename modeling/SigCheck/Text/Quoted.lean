import SigCheck.Text.Measure
import SigCheck.Text.Printable

/-!
# Quoted text

A text in double quotes, on one line and with nothing invisible: a quote and a backslash stand
behind a backslash, line feed, carriage return, tab and null have letters, and every other character
that cannot be shown is written as its code in hexadecimal.
-/

namespace SigCheck.Text

/-- One character of a quoted text. -/
def escape (c : Char) : Text :=
  match c with
  | '"' => ['\\', '"']
  | '\\' => ['\\', '\\']
  | '\n' => ['\\', 'n']
  | '\r' => ['\\', 'r']
  | '\t' => ['\\', 't']
  | '\x00' => ['\\', '0']
  | c => if isPrintable c then [c] else ['\\', 'u', '{'] ++ Nat.toDigits 16 c.toNat ++ ['}']

/-- A text in quotes. -/
def quoted (s : String) : String := String.ofList ('"' :: s.toList.flatMap escape ++ ['"'])

end SigCheck.Text
