import SigCheck.Text.Measure

/-!
# Locations in a source text

A position is a line, counted from 1, and a column, counted from 0 in characters.  Line 0 is the
line of a position that is not known.  Both are 64-bit numbers, and so is the offset of a position:
the characters before its line plus its column.  A position has no offset if that sum is too large.

`Location.range?` turns a location into a range of character offsets inside a text.  The lines of a
location end at line feeds.  A report counts more characters as line ends, so `lineColumn`, which
turns an offset into the place that a report names, does not undo it.
-/

namespace SigCheck

/-- A line and a column. -/
structure Position where
  line : Nat
  column : Nat
deriving DecidableEq, Repr

/-- From one position to another. -/
structure Location where
  start : Position
  stop : Position
deriving DecidableEq, Repr

namespace Location

/-- The location of what has none. -/
def unknown : Location := ⟨⟨0, 0⟩, ⟨0, 0⟩⟩

end Location

namespace Position

/-- The number of characters of a text before the line of a position. -/
def before (source : Text) (p : Position) : Nat :=
  (((Text.lines source).take (p.line - 1)).map List.length).foldr (· + ·) 0

/-- The character offset of a position, if it is a 64-bit number. -/
def offset? (source : Text) (p : Position) : Option Nat := word? (p.before source + p.column)

end Position

namespace Location

/-- The range of character offsets that a location covers, inside the text.  The offsets are cut at
the length of the text only after they have been added up. -/
def range? (source : Text) (loc : Location) : Option (Nat × Nat) := do
  let start ← loc.start.offset? source
  let stop ← loc.stop.offset? source
  let first := min start source.length
  return (first, max first (min stop source.length))

end Location

/-! ### Lines of a report -/

/-- A line of a report ends at a line feed, a carriage return, a vertical tab, a form feed, a next
line character, or a line or paragraph separator. -/
def isLineEnd (c : Char) : Bool :=
  c == '\n' || c == '\r' || c == '\x0b' || c == '\x0c' || c == '\u0085' || c == '\u2028' ||
    c == '\u2029'

/-- The line ends between the neighbours `c` and `d`: a carriage return and a line feed end it
together. -/
def endsLine (c d : Char) : Bool := isLineEnd c && !(c == '\r' && d == '\n')

/-- The line and column, both counted from 1, of a character offset.  A line end that ends the text
starts no new line. -/
def lineColumn : Text → Nat → Nat × Nat :=
  go 1 1
where
  /-- The walk through the text, at the given line and column. -/
  go (line column : Nat) : Text → Nat → Nat × Nat
    | [], _ | _ :: _, 0 => (line, column)
    | [_], _ + 1 => (line, column + 1)
    | c :: d :: rest, offset + 1 =>
      if endsLine c d then go (line + 1) 1 (d :: rest) offset
      else go line (column + 1) (d :: rest) offset

end SigCheck
