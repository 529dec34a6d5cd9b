import Mathlib.Data.List.TakeWhile
import SigCheck.Node.Read

/-!
# Positions and character offsets

A position names a character by its line and its column, a range by its offset in the text.
`Position.ofOffset` counts line feeds to turn an offset into a position, and `Location.range?` cuts
the text into lines to turn positions into offsets.  The two agree at every offset, line feeds and
the end of the text included (`Location.range_inverts_positions`): the lines before the line of a
position are the text through the last line feed before it (`Text.length_flatten_take_lines`).

A range lies inside the text, also for positions that no offset has, since offsets are cut at the
length of the text.  But they are cut only after they have been added up, and a sum that takes more
than 64 bits stops the program.  `Location.range_exact_iff_fits` says when there is a range: exactly
if both sums fit.  A syntax tree may have columns for which they do not
(`Location.not_forall_fits`).
-/

namespace SigCheck

/-! ### Lines -/

namespace Text

/-- The offset just behind the last line feed of a text; 0 if there is none. -/
def lineStart (t : Text) : Nat := (t.reverse.dropWhile (· != '\n')).length

theorem lineStart_of_not_mem {t : Text} (h : '\n' ∉ t) : lineStart t = 0 := by
  rw [lineStart, List.length_eq_zero_iff, List.dropWhile_eq_nil_iff]
  intro c hc
  rw [bne_iff_ne]
  rintro rfl
  exact h (List.mem_reverse.1 hc)

theorem lineStart_cons {c : Char} {t : Text} (h : c = '\n' ∨ '\n' ∈ t) :
    lineStart (c :: t) = lineStart t + 1 := by
  rw [lineStart, List.reverse_cons, List.dropWhile_append]
  by_cases ht : '\n' ∈ t
  · have hne : (t.reverse.dropWhile (· != '\n')).isEmpty = false := by
      simpa [List.dropWhile_eq_nil_iff] using ht
    simp [hne, lineStart]
  · have hnil : t.reverse.dropWhile (· != '\n') = [] :=
      List.length_eq_zero_iff.1 (lineStart_of_not_mem ht)
    obtain rfl : c = '\n' := h.resolve_right ht
    simp [hnil, lineStart]

theorem lineStart_le (t : Text) : lineStart t ≤ t.length := by
  have hle := (List.dropWhile_sublist (l := t.reverse) (· != '\n')).length_le
  rwa [List.length_reverse] at hle

/-- As many lines as there are line feeds in `before` are the text through the last of them. -/
theorem length_flatten_take_lines (before after : Text) :
    ((lines (before ++ after)).take (before.count '\n')).flatten.length = lineStart before := by
  induction before with
  | nil => rfl
  | cons c cs ih =>
    by_cases hc : c = '\n'
    · subst hc
      rw [lineStart_cons (.inl rfl), ← ih]
      simp [lines, Nat.add_comm]
    · by_cases hcs : '\n' ∈ cs
      · -- the first line is one of those that are taken, and `c` stands in front of it
        obtain ⟨n, hn⟩ : ∃ n, cs.count '\n' = n + 1 :=
          Nat.exists_eq_succ_of_ne_zero (Nat.ne_of_gt (List.count_pos_iff.2 hcs))
        rw [lineStart_cons (.inr hcs), ← ih, List.count_cons_of_ne hc, hn]
        cases hlines : lines (cs ++ after) with
        | nil =>
          have htext := flatten_lines (cs ++ after)
          rw [hlines] at htext
          simp [List.append_eq_nil_iff.1 htext.symm] at hcs
        | cons l ls => simp [lines, hc, hlines]
      · have hmem : '\n' ∉ c :: cs := List.not_mem_cons_of_ne_of_not_mem (Ne.symm hc) hcs
        rw [lineStart_of_not_mem hmem, List.count_eq_zero_of_not_mem hmem]
        rfl

end Text

/-! ### Offsets -/

namespace Position

variable (source : Text)

/-- The position of the character at an offset: the line feeds before it give the line, and the
characters behind the last of them the column. -/
def ofOffset (i : Nat) : Position :=
  ⟨1 + (source.take i).count '\n', i - Text.lineStart (source.take i)⟩

/-- The offset of the position is a number of 64 bits. -/
def Fits (p : Position) : Prop := p.before source + p.column < UInt64.size

instance (p : Position) : Decidable (p.Fits source) := inferInstanceAs (Decidable (_ < _))

variable {source}

theorem before_eq (p : Position) :
    p.before source = ((Text.lines source).take (p.line - 1)).flatten.length := by
  rw [before, List.length_flatten]
  rfl

theorem before_le (source : Text) (p : Position) : p.before source ≤ source.length := by
  have hlines := congrArg List.flatten (List.take_append_drop (p.line - 1) (Text.lines source))
  rw [List.flatten_append, Text.flatten_lines] at hlines
  rw [before_eq]
  exact (List.prefix_append _ _).length_le.trans_eq (congrArg List.length hlines)

theorem Fits.offset?_eq {p : Position} (h : p.Fits source) :
    p.offset? source = some (p.before source + p.column) := if_pos h

theorem offset?_eq_none_iff {p : Position} : p.offset? source = none ↔ ¬p.Fits source :=
  word?_eq_none_iff.trans Nat.not_lt.symm

theorem fits_of_column {p : Position} (h : source.length + p.column < UInt64.size) :
    p.Fits source :=
  Nat.lt_of_le_of_lt (Nat.add_le_add_right (p.before_le source) _) h

theorem before_ofOffset (i : Nat) :
    (ofOffset source i).before source = Text.lineStart (source.take i) := by
  have hlines := Text.length_flatten_take_lines (source.take i) (source.drop i)
  rw [List.take_append_drop] at hlines
  rw [before_eq, ← hlines]
  simp [ofOffset]

/-- The characters before the line of an offset and its column make up the offset. -/
theorem before_add_column_ofOffset {i : Nat} (h : i ≤ source.length) :
    (ofOffset source i).before source + (ofOffset source i).column = i := by
  have hle := Text.lineStart_le (source.take i)
  rw [List.length_take_of_le h] at hle
  rw [before_ofOffset]
  exact Nat.add_sub_cancel' hle

theorem offset?_ofOffset {i : Nat} (h : i ≤ source.length) (hword : i < UInt64.size) :
    (ofOffset source i).offset? source = some i := by
  have hoffset := congrArg word? (before_add_column_ofOffset h)
  exact hoffset.trans (if_pos hword)

end Position

/-! ### Ranges -/

namespace Location

variable {source : Text}

/-- The range between two offsets, inside the text. -/
theorem range?_eq {loc : Location} {i j : Nat} (hstart : loc.start.offset? source = some i)
    (hstop : loc.stop.offset? source = some j) :
    loc.range? source = some (min i source.length,
      max (min i source.length) (min j source.length)) := by
  rw [range?, hstart, hstop]
  rfl

theorem range?_of_fits {loc : Location} (hstart : loc.start.Fits source)
    (hstop : loc.stop.Fits source) :
    loc.range? source = some (min (loc.start.before source + loc.start.column) source.length,
      max (min (loc.start.before source + loc.start.column) source.length)
        (min (loc.stop.before source + loc.stop.column) source.length)) :=
  range?_eq hstart.offset?_eq hstop.offset?_eq

theorem range?_eq_none_iff {loc : Location} :
    loc.range? source = none ↔ ¬(loc.start.Fits source ∧ loc.stop.Fits source) := by
  constructor
  · rintro hnone ⟨hstart, hstop⟩
    rw [range?_of_fits hstart hstop] at hnone
    cases hnone
  · intro h
    rcases not_and_or.1 h with hstart | hstop
    · rw [range?, Position.offset?_eq_none_iff.2 hstart]
      rfl
    · rw [range?, Position.offset?_eq_none_iff.2 hstop]
      cases loc.start.offset? source <;> rfl

/-- **Ranges invert positions.**  The range between the positions of two offsets of 64 bits is that
between the offsets, and whatever its positions are, a location has a range inside the text, as long
as their offsets are numbers of 64 bits. -/
theorem range_inverts_positions (source : Text) :
    (∀ i j, i ≤ j → j ≤ source.length → j < UInt64.size →
      range? source ⟨.ofOffset source i, .ofOffset source j⟩ = some (i, j)) ∧
    ∀ loc : Location, loc.start.Fits source → loc.stop.Fits source →
      ∃ first last, loc.range? source = some (first, last) ∧ first ≤ last ∧
        last ≤ source.length := by
  constructor
  · intro i j hij hj hword
    have hi : i ≤ source.length := Nat.le_trans hij hj
    have hstart := Position.offset?_ofOffset hi (Nat.lt_of_le_of_lt hij hword)
    have hstop := Position.offset?_ofOffset hj hword
    let loc : Location := ⟨.ofOffset source i, .ofOffset source j⟩
    have hrange : loc.range? source = some (min i source.length,
        max (min i source.length) (min j source.length)) := range?_eq hstart hstop
    rw [Nat.min_eq_left hi, Nat.min_eq_left hj, Nat.max_eq_right hij] at hrange
    exact hrange
  · intro loc hstart hstop
    exact ⟨_, _, range?_of_fits hstart hstop, Nat.le_max_left _ _,
      Nat.max_le.2 ⟨Nat.min_le_right _ _, Nat.min_le_right _ _⟩⟩

/-- A text with an empty line, a letter of two bytes and a line feed at its end, from the line feed
of the second line to the end. -/
theorem range_inverts_positions_blank_line :
    let source := "é\n\nab\n".toList
    (Position.ofOffset source 2 = ⟨2, 0⟩ ∧ Position.ofOffset source 6 = ⟨4, 0⟩) ∧
      (2 ≤ 6 ∧ 6 ≤ source.length ∧ 6 < UInt64.size) ∧
      range? source ⟨.ofOffset source 2, .ofOffset source 6⟩ = some (2, 6) :=
  ⟨by decide, by decide,
    (range_inverts_positions "é\n\nab\n".toList).1 2 6 (by decide) (by decide) (by decide)⟩

/-- **A range is exact or missing.**  A location has a range exactly if the offsets of both of its
positions fit in 64 bits, and then it starts at the offset of the start and ends at that of the end,
both cut at the length of the text and the end not before the start.  An offset does fit if the
column and the length of the text do together. -/
theorem range_exact_iff_fits (source : Text) (loc : Location) :
    (loc.range? source = none ↔ ¬(loc.start.Fits source ∧ loc.stop.Fits source)) ∧
    (loc.start.Fits source → loc.stop.Fits source →
      loc.range? source = some (min (loc.start.before source + loc.start.column) source.length,
        max (min (loc.start.before source + loc.start.column) source.length)
          (min (loc.stop.before source + loc.stop.column) source.length))) ∧
    ∀ p : Position, source.length + p.column < UInt64.size → p.Fits source :=
  ⟨range?_eq_none_iff, range?_of_fits, fun _ => Position.fits_of_column⟩

/-- The tree of a `this` in the second line, in the last column that a tree can have. -/
def lastColumn : String :=
  "\x7b\"type\":\"ThisExpression\",\"loc\":\x7b\"start\":\x7b\"line\":2,\"column\":" ++
    "18446744073709551615\x7d,\"end\":\x7b\"line\":2,\"column\":18446744073709551615\x7d\x7d\x7d"

/-- With two characters before the line, the last column is too far out, and the one before the
last but one is not. -/
theorem range_exact_iff_fits_last_column :
    let source := "a\nb".toList
    let last : Position := ⟨2, 18446744073709551615⟩
    let before : Position := ⟨2, 18446744073709551613⟩
    (¬last.Fits source ∧ before.Fits source) ∧
      range? source ⟨last, last⟩ = none ∧ range? source ⟨before, before⟩ = some (3, 3) := by
  intro source last before
  have hlast : ¬last.Fits source := by decide
  have hbefore : before.Fits source := by decide
  refine ⟨⟨hlast, hbefore⟩, ?_, ?_⟩
  · exact (range_exact_iff_fits source ⟨last, last⟩).1.2 fun h => hlast h.1
  · exact (range_exact_iff_fits source ⟨before, before⟩).2.1 hbefore hbefore

/-- The offsets in a tree need not fit, and then the location has no range. -/
theorem not_forall_fits :
    ¬∀ (text : String) (loc : Location) (source : Text),
      (Node.ofText? text).map Node.loc = some loc →
      (loc.start.Fits source ∧ loc.stop.Fits source) ∧
        (loc.range? source).map Prod.fst =
          some (min (loc.start.before source + loc.start.column) source.length) := by
  intro h
  have hlast := h lastColumn ⟨⟨2, 18446744073709551615⟩, ⟨2, 18446744073709551615⟩⟩
    "a\nb".toList (by decide +kernel)
  exact absurd hlast.2 (by decide)

end Location

end SigCheck
