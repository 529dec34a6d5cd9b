import SigCheck.Literal
import SigCheck.Proofs.Lexing

/-!
# Literals have the type of their class

The literals of a program are numbers, big integers, regular expressions, strings, and the words
`true`, `false` and `null`.  `Numeric`, `BigInt` and `RegExp` are their grammars, production by
production; a string is told by its quote alone.  `types_agree_with_grammar` says that numbers and
strings, and no other literals, are given a type.

Numerals are recognised without their separators and in lower case (`plain`), so the argument has
two halves:

* what `isNumber` takes is exactly a based numeral or a decimal one (`isNumber_iff`,
  `isDecimal_iff`), and the productions of `Numeric` lead there (`isNumber_of_numeric`);
* nothing else occurs in a numeral than hexadecimal digits, points, signs, and the letters `x` and
  `o` (`isNumeralChar_of_isNumber`).  The `n` behind a big integer, the `/` before a regular
  expression and a letter of each word are none of these, and neither is a quote.
-/

namespace SigCheck

namespace Literal

open Scan (IsDigits span_append digit_bounds)

/-! ### The grammar of numerals -/

/-- The octal digits. -/
def octalDigits : Text := ['0', '1', '2', '3', '4', '5', '6', '7']

/-- The decimal digits that are not octal. -/
def nonOctalDigits : Text := ['8', '9']

/-- The decimal digits. -/
def decimalDigits : Text := octalDigits ++ nonOctalDigits

/-- The bases that a letter behind a `0` stands for. -/
inductive Base where
  | binary
  | octal
  | hexadecimal

namespace Base

/-- The letter of a base, in either case. -/
def letters : Base → Text
  | binary => ['b', 'B']
  | octal => ['o', 'O']
  | hexadecimal => ['x', 'X']

/-- The digits of a base, in either case. -/
def digits : Base → Text
  | binary => ['0', '1']
  | octal => octalDigits
  | hexadecimal =>
    decimalDigits ++ ['a', 'b', 'c', 'd', 'e', 'f'] ++ ['A', 'B', 'C', 'D', 'E', 'F']

end Base

/-- One or more of the given digits; one underscore may stand between two of them. -/
inductive Digits (digits : Text) : Text → Prop
  | one {c} (hc : c ∈ digits) : Digits digits [c]
  | more {t c} (ht : Digits digits t) (hc : c ∈ digits) : Digits digits (t ++ [c])
  | separated {t c} (ht : Digits digits t) (hc : c ∈ digits) : Digits digits (t ++ ['_', c])

/-- A decimal integer without leading zeros. -/
inductive Integer : Text → Prop
  | zero : Integer ['0']
  | digit {c} (hc : c ∈ decimalDigits) (hzero : c ≠ '0') : Integer [c]
  | digits {c t} (hc : c ∈ decimalDigits) (hzero : c ≠ '0') (ht : Digits decimalDigits t) :
      Integer (c :: t)
  | separated {c t} (hc : c ∈ decimalDigits) (hzero : c ≠ '0') (ht : Digits decimalDigits t) :
      Integer (c :: '_' :: t)

/-- Octal digits behind a `0`. -/
inductive LegacyOctal : Text → Prop
  | first {c} (hc : c ∈ octalDigits) : LegacyOctal ['0', c]
  | more {t c} (ht : LegacyOctal t) (hc : c ∈ octalDigits) : LegacyOctal (t ++ [c])

/-- Digits behind a `0` that are not all octal. -/
inductive NonOctalDecimal : Text → Prop
  | first {c} (hc : c ∈ nonOctalDigits) : NonOctalDecimal ['0', c]
  | octal {t c} (ht : LegacyOctal t) (hc : c ∈ nonOctalDigits) : NonOctalDecimal (t ++ [c])
  | more {t c} (ht : NonOctalDecimal t) (hc : c ∈ decimalDigits) : NonOctalDecimal (t ++ [c])

/-- What may stand before the point of a decimal numeral. -/
inductive Whole : Text → Prop
  | integer {t} (ht : Integer t) : Whole t
  | nonOctal {t} (ht : NonOctalDecimal t) : Whole t

/-- An exponent, with a sign or without. -/
inductive Exponent : Text → Prop
  | unsigned {e t} (he : e ∈ ['e', 'E']) (ht : Digits decimalDigits t) : Exponent (e :: t)
  | signed {e sign t} (he : e ∈ ['e', 'E']) (hs : sign ∈ ['+', '-'])
      (ht : Digits decimalDigits t) : Exponent (e :: sign :: t)

/-- A decimal numeral, where the fraction behind a whole number and its point may be empty. -/
inductive Decimal : Text → Prop
  | point {whole fraction exponent} (hw : Whole whole)
      (hf : fraction = [] ∨ Digits decimalDigits fraction)
      (he : exponent = [] ∨ Exponent exponent) :
      Decimal (whole ++ '.' :: (fraction ++ exponent))
  | fraction {fraction exponent} (hf : Digits decimalDigits fraction)
      (he : exponent = [] ∨ Exponent exponent) : Decimal ('.' :: (fraction ++ exponent))
  | whole {whole exponent} (hw : Whole whole) (he : exponent = [] ∨ Exponent exponent) :
      Decimal (whole ++ exponent)

/-- A numeral in another base than ten. -/
inductive Based : Text → Prop
  | digits (base : Base) {letter t} (hl : letter ∈ base.letters) (ht : Digits base.digits t) :
      Based ('0' :: letter :: t)

/-- The literals that are numbers. -/
inductive Numeric : Text → Prop
  | decimal {t} (ht : Decimal t) : Numeric t
  | based {t} (ht : Based t) : Numeric t
  | legacyOctal {t} (ht : LegacyOctal t) : Numeric t

/-- The literals that are big integers: an integer in any base, with an `n` behind it. -/
inductive BigInt : Text → Prop
  | decimal {t} (ht : Integer t) : BigInt (t ++ ['n'])
  | based {t} (ht : Based t) : BigInt (t ++ ['n'])

/-! ### The grammar of regular expressions -/

/-- The characters that end a line. -/
def lineEnds : Text := ['\n', '\r', '\u2028', '\u2029']

/-- What stands between the brackets of a class of characters. -/
inductive ClassBody : Text → Prop
  | nil : ClassBody []
  | char {c t} (hc : c ∉ lineEnds) (hs : c ∉ [']', '\\']) (ht : ClassBody t) : ClassBody (c :: t)
  | escape {c t} (hc : c ∉ lineEnds) (ht : ClassBody t) : ClassBody ('\\' :: c :: t)

/-- A piece of a regular expression: a character that is not one of `special`, an escape, or a class
of characters. -/
inductive Piece (special : Text) : Text → Prop
  | char {c} (hc : c ∉ lineEnds) (hs : c ∉ special) : Piece special [c]
  | escape {c} (hc : c ∉ lineEnds) : Piece special ['\\', c]
  | charClass {t} (ht : ClassBody t) : Piece special ('[' :: (t ++ [']']))

/-- The literals that are regular expressions.  The first piece is not a `*`, which would start a
comment.  Any text may stand in place of the flags. -/
inductive RegExp : Text → Prop
  | pieces {first : Text} {rest : List Text} {flags : Text}
      (hfirst : Piece ['*', '\\', '/', '['] first)
      (hrest : ∀ t ∈ rest, Piece ['\\', '/', '['] t) :
      RegExp ('/' :: (first ++ (rest.flatten ++ '/' :: flags)))

/-! ### Without separators, in lower case -/

/-- The text without its separators, in lower case. -/
def plain (t : Text) : Text := (t.filter (· != '_')).map Char.toLower

@[simp] theorem plain_nil : plain [] = [] := rfl

@[simp] theorem plain_append (s t : Text) : plain (s ++ t) = plain s ++ plain t := by
  simp [plain]

theorem plain_cons {c : Char} (h : c ≠ '_') (t : Text) :
    plain (c :: t) = c.toLower :: plain t := by
  simp [plain, h]

theorem toLower_mem_plain {c : Char} {t : Text} (hc : c ∈ t) (h : c ≠ '_') :
    c.toLower ∈ plain t := by
  have hkept : c ∈ t.filter (· != '_') := List.mem_filter.2 ⟨hc, by simpa using h⟩
  exact List.mem_map_of_mem hkept

/-- Separators and case apart, the text is one or more digits of the class `p`. -/
def HasDigits (p : Char → Bool) (t : Text) : Prop :=
  plain t ≠ [] ∧ ∀ c ∈ plain t, p c = true

/-- In lower case, the character is a digit of the class `p`. -/
def isDigitIn (p : Char → Bool) (c : Char) : Bool := c != '_' && p c.toLower

namespace Base

/-- The letter of a base, in lower case. -/
def letter : Base → Char
  | binary => 'b'
  | octal => 'o'
  | hexadecimal => 'x'

/-- The number that a base is. -/
def radix : Base → Nat
  | binary => 2
  | octal => 8
  | hexadecimal => 16

end Base

variable {p : Char → Bool} {c : Char} {s t : Text} {radix : Nat}

theorem HasDigits.singleton (h : isDigitIn p c = true) : HasDigits p [c] := by
  have hc : c ≠ '_' ∧ p c.toLower = true := by simpa [isDigitIn] using h
  unfold HasDigits
  rw [plain_cons hc.1, plain_nil]
  exact ⟨List.cons_ne_nil _ _, List.forall_mem_singleton.2 hc.2⟩

theorem HasDigits.append (hs : HasDigits p s) (ht : HasDigits p t) : HasDigits p (s ++ t) := by
  unfold HasDigits
  rw [plain_append]
  exact ⟨List.append_ne_nil_of_left_ne_nil hs.1 _, List.forall_mem_append.2 ⟨hs.2, ht.2⟩⟩

theorem HasDigits.cons (hc : isDigitIn p c = true) (ht : HasDigits p t) : HasDigits p (c :: t) :=
  (HasDigits.singleton hc).append ht

theorem HasDigits.separator (ht : HasDigits p t) : HasDigits p ('_' :: t) := ht

theorem Digits.hasDigits {digits : Text} (hp : digits.all (isDigitIn p) = true)
    (h : Digits digits t) : HasDigits p t := by
  have hdigit := List.all_eq_true.1 hp
  induction h with
  | one hc => exact .singleton (hdigit _ hc)
  | more _ hc ih => exact ih.append (.singleton (hdigit _ hc))
  | separated _ hc ih => exact ih.append (HasDigits.singleton (hdigit _ hc)).separator

theorem all_isDigitIn_decimal : decimalDigits.all (isDigitIn Char.isDigit) = true := by decide

theorem isDigitIn_of_decimal (h : c ∈ decimalDigits) : isDigitIn Char.isDigit c = true :=
  List.all_eq_true.1 all_isDigitIn_decimal c h

theorem isDigitIn_of_octal (h : c ∈ octalDigits) : isDigitIn Char.isDigit c = true :=
  isDigitIn_of_decimal (List.mem_append_left _ h)

theorem isDigitIn_of_nonOctal (h : c ∈ nonOctalDigits) : isDigitIn Char.isDigit c = true :=
  isDigitIn_of_decimal (List.mem_append_right _ h)

theorem Digits.isDigits (h : Digits decimalDigits t) : IsDigits (plain t) :=
  h.hasDigits all_isDigitIn_decimal

theorem Integer.isDigits (h : Integer t) : IsDigits (plain t) := by
  cases h with
  | zero => exact HasDigits.singleton (isDigitIn_of_decimal (by decide))
  | digit hc => exact HasDigits.singleton (isDigitIn_of_decimal hc)
  | digits hc _ ht => exact HasDigits.cons (isDigitIn_of_decimal hc) ht.isDigits
  | separated hc _ ht =>
    exact HasDigits.cons (isDigitIn_of_decimal hc) (HasDigits.separator ht.isDigits)

theorem LegacyOctal.isDigits (h : LegacyOctal t) : IsDigits (plain t) := by
  induction h with
  | first hc =>
    exact HasDigits.cons (isDigitIn_of_decimal (by decide)) (.singleton (isDigitIn_of_octal hc))
  | more _ hc ih => exact HasDigits.append ih (.singleton (isDigitIn_of_octal hc))

theorem NonOctalDecimal.isDigits (h : NonOctalDecimal t) : IsDigits (plain t) := by
  induction h with
  | first hc =>
    exact HasDigits.cons (isDigitIn_of_decimal (by decide)) (.singleton (isDigitIn_of_nonOctal hc))
  | octal ht hc => exact HasDigits.append ht.isDigits (.singleton (isDigitIn_of_nonOctal hc))
  | more _ hc ih => exact HasDigits.append ih (.singleton (isDigitIn_of_decimal hc))

theorem Whole.isDigits (h : Whole t) : IsDigits (plain t) := by
  cases h with
  | integer ht => exact ht.isDigits
  | nonOctal ht => exact ht.isDigits

/-! ### What is recognised -/

theorem isNumeralOf_iff :
    isNumeralOf radix t = true ↔ t ≠ [] ∧ ∀ c ∈ t, isDigitOf radix c = true := by
  simp [isNumeralOf]

theorem isDigitOf_ten (c : Char) : isDigitOf 10 c = c.isDigit := by
  unfold isDigitOf
  split
  · rename_i h
    have hb := digit_bounds h
    have hzero : '0'.toNat = 48 := rfl
    simp only [h, decide_eq_true_eq, hzero]
    omega
  · rename_i h
    simp [h]

theorem isDigitOf_mono {radix' : Nat} (hle : radix ≤ radix') (h : isDigitOf radix c = true) :
    isDigitOf radix' c = true := by
  unfold isDigitOf at h ⊢
  split at h
  · rename_i hc
    rw [if_pos hc]
    rw [decide_eq_true_eq] at h ⊢
    exact Nat.lt_of_lt_of_le h hle
  · rename_i hc
    rw [if_neg hc]
    rw [Bool.and_eq_true, decide_eq_true_eq] at h ⊢
    exact ⟨h.1, Nat.lt_of_lt_of_le h.2 hle⟩

theorem isNumeralOf_ten_iff : isNumeralOf 10 t = true ↔ IsDigits t := by
  simp only [isNumeralOf_iff, isDigitOf_ten, IsDigits]

theorem isExponent_unsigned (h : IsDigits t) : isExponent ('e' :: t) = true := by
  obtain ⟨d, ds, rfl⟩ := List.exists_cons_of_ne_nil h.1
  have hd : d.isDigit = true := h.2 d List.mem_cons_self
  -- a digit is not taken for the sign
  have hplus : d ≠ '+' := by
    rintro rfl
    cases hd
  have hminus : d ≠ '-' := by
    rintro rfl
    cases hd
  simp [isExponent, hplus, hminus, isNumeralOf_ten_iff.2 h]

/-- An exponent is taken exactly if it is missing, or an `e`, a sign or none, and digits. -/
theorem isExponent_iff : isExponent t = true ↔
    t = [] ∨ ∃ sign digits, t = 'e' :: (sign ++ digits) ∧ sign ∈ [[], ['+'], ['-']] ∧
      IsDigits digits := by
  constructor
  · intro h
    unfold isExponent at h
    split at h
    · exact .inl rfl
    · exact .inr ⟨['+'], _, rfl, by decide, isNumeralOf_ten_iff.1 h⟩
    · exact .inr ⟨['-'], _, rfl, by decide, isNumeralOf_ten_iff.1 h⟩
    · exact .inr ⟨[], _, rfl, by decide, isNumeralOf_ten_iff.1 h⟩
    · cases h
  · rintro (rfl | ⟨sign, digits, rfl, hsign, hdigits⟩)
    · rfl
    · have hnumeral := isNumeralOf_ten_iff.2 hdigits
      simp only [List.mem_cons, List.not_mem_nil, or_false] at hsign
      rcases hsign with rfl | rfl | rfl
      · exact isExponent_unsigned hdigits
      · exact hnumeral
      · exact hnumeral

theorem isDigit_head_of_isExponent (h : isExponent t = true) :
    ∀ c ∈ t.head?, c.isDigit = false := by
  rcases isExponent_iff.1 h with rfl | ⟨sign, digits, rfl, -⟩
  · simp
  · rintro c hc
    obtain rfl : 'e' = c := by simpa using hc
    rfl

/-- The digits of a decimal numeral, with at most one point before, among or behind them. -/
inductive Significand : Text → Prop
  | whole {digits} (h : IsDigits digits) : Significand digits
  | point {whole fraction} (hw : ∀ c ∈ whole, c.isDigit = true)
      (hf : ∀ c ∈ fraction, c.isDigit = true) (hne : whole ≠ [] ∨ fraction ≠ []) :
      Significand (whole ++ '.' :: fraction)

theorem Significand.isDecimal_append (h : Significand s) (he : isExponent t = true) :
    isDecimal (s ++ t) = true := by
  have hhead := isDigit_head_of_isExponent he
  unfold isDecimal
  cases h with
  | whole hdigits =>
    obtain ⟨htake, hdrop⟩ := span_append hdigits.2 hhead
    rw [htake, hdrop]
    split
    · simp [isExponent] at he
    · simp [hdigits.1, he]
  | @point whole fraction hw hf hne =>
    have hpoint : ∀ c ∈ ('.' :: (fraction ++ t)).head?, c.isDigit = false := by simp
    obtain ⟨htake, hdrop⟩ := span_append hw hpoint
    obtain ⟨htake', hdrop'⟩ := span_append hf hhead
    rw [List.append_assoc, List.cons_append, htake, hdrop]
    simp only [htake', hdrop', he, Bool.and_true, Bool.not_eq_true', Bool.and_eq_false_iff,
      List.isEmpty_eq_false_iff]
    exact hne

/-- A decimal numeral is taken exactly if it is a significand with an exponent or none. -/
theorem isDecimal_iff : isDecimal t = true ↔
    ∃ significand exponent, t = significand ++ exponent ∧ Significand significand ∧
      isExponent exponent = true := by
  constructor
  · intro h
    have hsplit := List.takeWhile_append_dropWhile (p := Char.isDigit) (l := t)
    have hwhole : ∀ c ∈ t.takeWhile Char.isDigit, c.isDigit = true :=
      fun c hc => List.mem_takeWhile_imp hc
    unfold isDecimal at h
    split at h
    · rename_i rest hrest
      have hfraction : ∀ c ∈ rest.takeWhile Char.isDigit, c.isDigit = true :=
        fun c hc => List.mem_takeWhile_imp hc
      simp only [Bool.and_eq_true, Bool.not_eq_true', Bool.and_eq_false_iff,
        List.isEmpty_eq_false_iff] at h
      refine ⟨_, _, ?_, .point hwhole hfraction h.1, h.2⟩
      rw [List.append_assoc, List.cons_append, List.takeWhile_append_dropWhile, ← hrest, hsplit]
    · simp only [Bool.and_eq_true, Bool.not_eq_true', List.isEmpty_eq_false_iff] at h
      exact ⟨_, _, hsplit.symm, .whole ⟨h.1, hwhole⟩, h.2⟩
  · rintro ⟨significand, exponent, rfl, hs, he⟩
    exact hs.isDecimal_append he

namespace Base

theorem plain_letter {base : Base} (h : c ∈ base.letters) (t : Text) :
    plain ('0' :: c :: t) = '0' :: base.letter :: plain t := by
  have hall : base.letters.all (fun c => c != '_' && c.toLower == base.letter) = true := by
    cases base <;> decide
  have hc : c ≠ '_' ∧ c.toLower = base.letter := by simpa using List.all_eq_true.1 hall c h
  rw [plain_cons (by decide), plain_cons hc.1, hc.2]
  rfl

theorem all_isDigitIn (base : Base) :
    base.digits.all (isDigitIn (isDigitOf base.radix)) = true := by
  cases base <;> decide

end Base

theorem isDecimal_letter (base : Base) (t : Text) :
    isDecimal ('0' :: base.letter :: t) = false := by
  cases base <;> rfl

/-- A numeral is taken exactly if, without separators and in lower case, it is a numeral of the base
that its letter stands for, or a decimal one. -/
theorem isNumber_iff : isNumber t = true ↔
    (∃ base digits, plain t = '0' :: Base.letter base :: digits ∧
      isNumeralOf base.radix digits = true) ∨ isDecimal (plain t) = true := by
  constructor
  · intro h
    unfold isNumber at h
    split at h
    · exact .inl ⟨.hexadecimal, _, ‹_›, h⟩
    · exact .inl ⟨.octal, _, ‹_›, h⟩
    · exact .inl ⟨.binary, _, ‹_›, h⟩
    · exact .inr h
  · rintro (⟨base, digits, hplain, h⟩ | h)
    · rw [plain] at hplain
      unfold isNumber
      rw [hplain]
      cases base <;> exact h
    · unfold isNumber
      -- a decimal numeral has no letter behind a leading `0`
      have hletter (base : Base) (digits : Text) : plain t ≠ '0' :: base.letter :: digits := by
        intro hplain
        rw [hplain, isDecimal_letter] at h
        cases h
      split
      · exact absurd ‹_› (hletter .hexadecimal _)
      · exact absurd ‹_› (hletter .octal _)
      · exact absurd ‹_› (hletter .binary _)
      · exact h

-- Separators are not looked at, so more is taken than the grammar has.
example : isNumber ['1', '_', '_', '0'] = true := by decide

/-! ### Numerals are recognised -/

theorem Exponent.isExponent (h : Exponent t) : isExponent (plain t) = true := by
  have hletter {e : Char} (he : e ∈ ['e', 'E']) (t : Text) : plain (e :: t) = 'e' :: plain t := by
    simp only [List.mem_cons, List.not_mem_nil, or_false] at he
    rcases he with rfl | rfl <;> rfl
  rw [isExponent_iff]
  right
  cases h with
  | unsigned he ht => exact ⟨[], _, hletter he _, by decide, ht.isDigits⟩
  | @signed e sign t he hs ht =>
    simp only [List.mem_cons, List.not_mem_nil, or_false] at hs
    rcases hs with rfl | rfl
    · exact ⟨['+'], plain t, hletter he ('+' :: t), by decide, ht.isDigits⟩
    · exact ⟨['-'], plain t, hletter he ('-' :: t), by decide, ht.isDigits⟩

theorem isExponent_plain (h : t = [] ∨ Exponent t) : isExponent (plain t) = true := by
  rcases h with rfl | h
  · rfl
  · exact h.isExponent

theorem Decimal.isDecimal (h : Decimal t) : isDecimal (plain t) = true := by
  rw [isDecimal_iff]
  cases h with
  | @point whole fraction exponent hw hf he =>
    have hdigits : ∀ c ∈ plain fraction, c.isDigit = true := by
      rcases hf with rfl | hf
      · simp
      · exact hf.isDigits.2
    refine ⟨plain whole ++ '.' :: plain fraction, plain exponent, ?_, ?_, isExponent_plain he⟩
    · rw [plain_append, plain_cons (by decide), plain_append, List.append_assoc]
      rfl
    · exact .point hw.isDigits.2 hdigits (.inl hw.isDigits.1)
  | @fraction fraction exponent hf he =>
    refine ⟨[] ++ '.' :: plain fraction, plain exponent, ?_, ?_, isExponent_plain he⟩
    · rw [plain_cons (by decide), plain_append]
      rfl
    · exact .point (List.forall_mem_nil _) hf.isDigits.2 (.inr hf.isDigits.1)
  | @whole whole exponent hw he =>
    exact ⟨plain whole, plain exponent, plain_append _ _, .whole hw.isDigits, isExponent_plain he⟩

theorem LegacyOctal.isDecimal (h : LegacyOctal t) : isDecimal (plain t) = true :=
  isDecimal_iff.2 ⟨plain t, [], (List.append_nil _).symm, .whole h.isDigits, rfl⟩

theorem isNumber_of_numeric (h : Numeric t) : isNumber t = true := by
  rw [isNumber_iff]
  cases h with
  | decimal ht => exact .inr ht.isDecimal
  | based ht =>
    obtain ⟨base, hl, ht⟩ := ht
    have hdigits := ht.hasDigits base.all_isDigitIn
    exact .inl ⟨base, _, Base.plain_letter hl _, isNumeralOf_iff.2 hdigits⟩
  | legacyOctal ht => exact .inr ht.isDecimal

/-! ### The characters of numerals -/

/-- The characters that occur in numerals, in lower case. -/
def isNumeralChar (c : Char) : Bool := isDigitOf 16 c || ['.', '+', '-', 'x', 'o'].contains c

theorem isNumeralChar_of_isDigitOf (hle : radix ≤ 16) (h : isDigitOf radix c = true) :
    isNumeralChar c = true := by
  rw [isNumeralChar, isDigitOf_mono hle h, Bool.true_or]

theorem isNumeralChar_of_isDigit (h : c.isDigit = true) : isNumeralChar c = true :=
  isNumeralChar_of_isDigitOf (by decide) (isDigitOf_ten c ▸ h)

theorem isNumeralChar_of_isExponent (h : isExponent t = true) :
    ∀ c ∈ t, isNumeralChar c = true := by
  rcases isExponent_iff.1 h with rfl | ⟨sign, digits, rfl, hsign, hdigits⟩
  · exact List.forall_mem_nil _
  · have hchars : ∀ c ∈ digits, isNumeralChar c = true :=
      fun c hc => isNumeralChar_of_isDigit (hdigits.2 c hc)
    simp only [List.mem_cons, List.not_mem_nil, or_false] at hsign
    refine List.forall_mem_cons.2 ⟨by decide, List.forall_mem_append.2 ⟨?_, hchars⟩⟩
    rcases hsign with rfl | rfl | rfl
    · exact List.forall_mem_nil _
    · exact List.forall_mem_singleton.2 (by decide)
    · exact List.forall_mem_singleton.2 (by decide)

theorem isNumeralChar_of_significand (h : Significand t) : ∀ c ∈ t, isNumeralChar c = true := by
  cases h with
  | whole h => exact fun c hc => isNumeralChar_of_isDigit (h.2 c hc)
  | point hw hf =>
    refine List.forall_mem_append.2 ⟨?_, List.forall_mem_cons.2 ⟨by decide, ?_⟩⟩
    · exact fun c hc => isNumeralChar_of_isDigit (hw c hc)
    · exact fun c hc => isNumeralChar_of_isDigit (hf c hc)

theorem isNumeralChar_of_isNumber (h : isNumber t = true) :
    ∀ c ∈ plain t, isNumeralChar c = true := by
  rcases isNumber_iff.1 h with ⟨base, digits, hplain, hdigits⟩ | hdecimal
  · have hletter : isNumeralChar base.letter = true := by cases base <;> decide
    have hle : base.radix ≤ 16 := by cases base <;> decide
    rw [hplain]
    refine List.forall_mem_cons.2 ⟨by decide, List.forall_mem_cons.2 ⟨hletter, ?_⟩⟩
    exact fun c hc => isNumeralChar_of_isDigitOf hle ((isNumeralOf_iff.1 hdigits).2 c hc)
  · obtain ⟨significand, exponent, hplain, hs, he⟩ := isDecimal_iff.1 hdecimal
    rw [hplain]
    exact List.forall_mem_append.2
      ⟨isNumeralChar_of_significand hs, isNumeralChar_of_isExponent he⟩

/-- The character is no separator and does not occur in numerals, in either case. -/
def isForeign (c : Char) : Bool := c != '_' && !isNumeralChar c.toLower

theorem isNumber_eq_false (hc : c ∈ t) (h : isForeign c = true) : isNumber t = false := by
  have hforeign : c ≠ '_' ∧ isNumeralChar c.toLower = false := by simpa [isForeign] using h
  rw [Bool.eq_false_iff]
  intro hnumber
  have hchar := isNumeralChar_of_isNumber hnumber _ (toLower_mem_plain hc hforeign.1)
  rw [hforeign.2] at hchar
  cases hchar

/-! ### The types of literals -/

/-- The quotes that strings start with. -/
def quotes : Text := ['"', '\'']

variable {raw : String} {first : Char} {rest : Text}

theorem typeName?_of_quote (hraw : raw.toList = first :: rest) (h : first ∈ quotes) :
    typeName? raw = some "String" := by
  unfold typeName?
  rw [hraw]
  simp only [quotes, List.mem_cons, List.not_mem_nil, or_false] at h
  rcases h with rfl | rfl <;> rfl

theorem typeName?_of_not_quote (h : ∀ quote ∈ quotes, raw.toList.head? ≠ some quote) :
    typeName? raw = if isNumber raw.toList then some "Number" else none := by
  unfold typeName?
  split
  · rename_i hraw
    exact absurd (by rw [hraw]; rfl) (h '"' (by decide))
  · rename_i hraw
    exact absurd (by rw [hraw]; rfl) (h '\'' (by decide))
  · rfl

theorem typeName?_of_isNumber (h : isNumber raw.toList = true) :
    typeName? raw = some "Number" := by
  rw [typeName?_of_not_quote, if_pos h]
  intro quote hquote hhead
  have hall : quotes.all isForeign = true := by decide
  have hforeign := List.all_eq_true.1 hall quote hquote
  rw [isNumber_eq_false (List.mem_of_mem_head? hhead) hforeign] at h
  cases h

theorem typeName?_of_foreign (hraw : raw.toList = first :: rest) (hfirst : first ∉ quotes)
    (hc : c ∈ raw.toList) (hforeign : isForeign c = true) : typeName? raw = none := by
  rw [typeName?_of_not_quote, isNumber_eq_false hc hforeign]
  · rfl
  · rintro quote hquote hhead
    rw [hraw] at hhead
    obtain rfl : first = quote := by simpa using hhead
    exact hfirst hquote

theorem not_mem_quotes_of_decimal (h : c ∈ decimalDigits) : c ∉ quotes := by
  have hall : decimalDigits.all (fun c => !quotes.contains c) = true := by decide
  simpa using List.all_eq_true.1 hall c h

theorem Integer.exists_cons (h : Integer t) : ∃ c s, t = c :: s ∧ c ∈ decimalDigits := by
  cases h with
  | zero => exact ⟨_, _, rfl, by decide⟩
  | digit hc | digits hc | separated hc => exact ⟨_, _, rfl, hc⟩

theorem BigInt.exists_cons (h : BigInt t) : ∃ c s, t = c :: s ∧ c ∈ decimalDigits := by
  cases h with
  | decimal ht =>
    obtain ⟨c, s, rfl, hc⟩ := ht.exists_cons
    exact ⟨c, _, rfl, hc⟩
  | based ht =>
    obtain ⟨base, hl, ht⟩ := ht
    exact ⟨'0', _, rfl, by decide⟩

theorem BigInt.mem (h : BigInt t) : 'n' ∈ t := by
  cases h <;> exact List.mem_append_right _ List.mem_cons_self

theorem typeName?_of_bigInt (h : BigInt raw.toList) : typeName? raw = none := by
  obtain ⟨first, rest, hraw, hfirst⟩ := h.exists_cons
  exact typeName?_of_foreign hraw (not_mem_quotes_of_decimal hfirst) h.mem (by decide)

theorem typeName?_of_regExp (h : RegExp raw.toList) : typeName? raw = none := by
  generalize hraw : raw.toList = t at h
  obtain ⟨-, -⟩ := h
  exact typeName?_of_foreign (c := '/') hraw (by decide) (hraw ▸ List.mem_cons_self) (by decide)

theorem typeName?_of_word (h : raw ∈ ["true", "false", "null"]) : typeName? raw = none := by
  simp only [List.mem_cons, List.not_mem_nil, or_false] at h
  rcases h with rfl | rfl | rfl
  · exact typeName?_of_foreign (c := 't') rfl (by decide) (by decide) (by decide)
  · exact typeName?_of_foreign (c := 'l') rfl (by decide) (by decide) (by decide)
  · exact typeName?_of_foreign (c := 'n') rfl (by decide) (by decide) (by decide)

/-- **Literals have the type of their class**: every number has the type `Number`, every big
integer, regular expression and word has none, and every text that starts with a quote has the type
`String`. -/
theorem types_agree_with_grammar (raw : String) :
    (Numeric raw.toList → typeName? raw = some "Number") ∧
    (BigInt raw.toList ∨ RegExp raw.toList ∨ raw ∈ ["true", "false", "null"] →
      typeName? raw = none) ∧
    ((∃ quote ∈ quotes, raw.toList.head? = some quote) → typeName? raw = some "String") := by
  refine ⟨fun h => typeName?_of_isNumber (isNumber_of_numeric h), ?_, ?_⟩
  · rintro (h | h | h)
    · exact typeName?_of_bigInt h
    · exact typeName?_of_regExp h
    · exact typeName?_of_word h
  · rintro ⟨quote, hquote, hhead⟩
    obtain ⟨rest, hraw⟩ := List.head?_eq_some_iff.1 hhead
    exact typeName?_of_quote hraw hquote

/-- Digits that look like an exponent or a suffix, digits that are not octal behind a `0`, a big
integer, a regular expression with a `/` inside, and a string that holds a numeral. -/
theorem types_agree_with_grammar_lookalikes :
    (Numeric "0xE_b1".toList ∧ typeName? "0xE_b1" = some "Number") ∧
    (Numeric "08.5e-1_0".toList ∧ typeName? "08.5e-1_0" = some "Number") ∧
    (BigInt "0b1_0n".toList ∧ typeName? "0b1_0n" = none) ∧
    (RegExp "/[/]0/g".toList ∧ typeName? "/[/]0/g" = none) ∧
    ("'5'".toList.head? = some '\'' ∧ typeName? "'5'" = some "String") := by
  have hhex : Numeric "0xE_b1".toList :=
    .based (.digits .hexadecimal (by decide)
      (.more (.separated (.one (c := 'E') (by decide)) (by decide)) (by decide)))
  have hdecimal : Numeric "08.5e-1_0".toList :=
    .decimal (.point (.nonOctal (.first (c := '8') (by decide)))
      (.inr (.one (c := '5') (by decide)))
      (.inr (.signed (by decide) (by decide)
        (.separated (.one (c := '1') (by decide)) (by decide)))))
  have hbig : BigInt "0b1_0n".toList :=
    .based (.digits .binary (by decide) (.separated (.one (c := '1') (by decide)) (by decide)))
  have hregExp : RegExp "/[/]0/g".toList :=
    @RegExp.pieces _ [['0']] ['g'] (.charClass (.char (c := '/') (by decide) (by decide) .nil))
      (List.forall_mem_singleton.2 (.char (by decide) (by decide)))
  have hquote : "'5'".toList.head? = some '\'' := rfl
  exact ⟨⟨hhex, (types_agree_with_grammar _).1 hhex⟩,
    ⟨hdecimal, (types_agree_with_grammar _).1 hdecimal⟩,
    ⟨hbig, (types_agree_with_grammar _).2.1 (.inl hbig)⟩,
    ⟨hregExp, (types_agree_with_grammar _).2.1 (.inr (.inl hregExp))⟩,
    ⟨hquote, (types_agree_with_grammar _).2.2 ⟨'\'', by decide, hquote⟩⟩⟩

end Literal

end SigCheck
