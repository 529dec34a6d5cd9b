import SigCheck.Text.RangeTable

/-!
# Blank characters

The Unicode property White_Space: tabs, line ends, the space and its wider and narrower kin.
-/

namespace SigCheck.Text

/-- The blank code points. -/
def blankTable : RangeTable :=
  [(0x9, 0xD), (0x20, 0x20), (0x85, 0x85), (0xA0, 0xA0), (0x1680, 0x1680), (0x2000, 0x200A),
   (0x2028, 0x2029), (0x202F, 0x202F), (0x205F, 0x205F), (0x3000, 0x3000)]

/-- `c` is blank. -/
def isBlank (c : Char) : Bool := blankTable.contains c.toNat

end SigCheck.Text
