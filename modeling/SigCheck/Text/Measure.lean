/-!
# Measures of text

A text is a list of characters.  Spans count the bytes of its UTF-8 form, layouts and reports count
characters; `byteSize` and `charOffset` lead from the one to the other.

Counts are 64-bit numbers.  Where two of them are added that need not both be counts of a text, the
sum may be too large (`word?`).
-/

namespace SigCheck

/-- A text as the list of its characters. -/
abbrev Text := List Char

/-- A sum or a product as a 64-bit number, if it is one. -/
def word? (n : Nat) : Option Nat := if n < UInt64.size then some n else none

@[simp] theorem word?_eq_some_iff {n k : Nat} : word? n = some k ↔ n < UInt64.size ∧ n = k := by
  simp [word?]

@[simp] theorem word?_eq_none_iff {n : Nat} : word? n = none ↔ UInt64.size ≤ n := by
  simp [word?]

namespace Text

/-- The number of bytes of a text in UTF-8. -/
def byteSize : Text → Nat
  | [] => 0
  | c :: cs => c.utf8Size + byteSize cs

/-- The number of characters of a text that start before the byte offset `byte`. -/
def charOffset : Text → Nat → Nat
  | [], _ => 0
  | _ :: _, 0 => 0
  | c :: cs, byte + 1 => charOffset cs (byte + 1 - c.utf8Size) + 1

@[simp] theorem byteSize_nil : byteSize [] = 0 := rfl

@[simp] theorem byteSize_cons (c : Char) (cs : Text) :
    byteSize (c :: cs) = c.utf8Size + byteSize cs := rfl

@[simp] theorem byteSize_append (s t : Text) : byteSize (s ++ t) = byteSize s + byteSize t := by
  induction s with
  | nil => simp
  | cons c cs ih => simp [ih, Nat.add_assoc]

@[simp] theorem charOffset_zero (t : Text) : charOffset t 0 = 0 := by
  cases t <;> rfl

/-- The first line of a text, without its line feed. -/
def firstLine (t : Text) : Text := t.takeWhile (· != '\n')

/-- The lines of a text, each with the line feed that ends it. -/
def lines : Text → List Text
  | [] => []
  | c :: cs =>
    if c = '\n' then [c] :: lines cs
    else match lines cs with
      | [] => [[c]]
      | l :: ls => (c :: l) :: ls

theorem flatten_lines (t : Text) : (lines t).flatten = t := by
  induction t with
  | nil => rfl
  | cons c cs ih =>
    simp only [lines]
    split
    · simp [ih]
    · split
      · rename_i h
        rw [h] at ih
        simp at ih
        simp [ih]
      · rename_i h
        rw [h] at ih
        simp at ih
        simp [ih]

end Text

end SigCheck
