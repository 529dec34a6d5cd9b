import SigCheck.Proofs.Lossless
import SigCheck.Proofs.Regularity

/-!
# Wrapping changes no word

A layout depends on the place where a type is put: on how deep it is indented, and on the columns
that are taken on its first line.  Its words do not (`Ty.words_of_layouts`), for any nesting of
types, as long as the texts that stand in it as they are, labels, names, values and keys, are each
the text of one token (`IsAtom`).

Layouts put such a text before blanks and punctuation only, and there it is still read as the one
token (`IsAtom.spelled`): a name or a numeral ends before them, and a string, whatever characters
and escapes it holds, ends at its closing quote.
-/

namespace SigCheck

open Scan Text

/-! ### Texts of one token -/

/-- The classes of tokens whose texts a type is written with: names, numbers and strings. -/
def TokenKind.isAtom (kind : TokenKind) : Bool := kind.isName || kind == .number || kind == .string

/-- The text is that of one name, number or string: the first token of the text is one, and reaches
from its start to its end. -/
def IsAtom (s : String) : Prop :=
  ∃ t, (tokenize s).head? = some t ∧ t.kind.isAtom = true ∧ t.span = ⟨0, byteSize s.toList, 0⟩

instance : DecidablePred IsAtom := fun s =>
  decidable_of_iff ((tokenize s).head?.any fun t =>
      t.kind.isAtom && t.span = ⟨0, byteSize s.toList, 0⟩) (by
    simp [IsAtom, Option.any_eq_true])

theorem Scanner.head?_tokens (s : Scanner) : s.tokens.head? = some s.next.1 := by
  unfold tokens
  cases s.rest.length with
  | zero => rfl
  | succ n =>
    rw [take]
    dsimp only
    split <;> rfl

theorem Text.eq_nil_of_byteSize {t : Text} (h : byteSize t = 0) : t = [] := by
  by_contra hne
  exact absurd h (Nat.ne_of_gt (byteSize_pos hne))

/-- The text of one token is the text of one lexeme, with no gap before it. -/
theorem IsAtom.exists_lexeme {s : String} (h : IsAtom s) : ∃ c cs, s.toList = c :: cs ∧
    (gap s.toList).2 = c :: cs ∧ (lexeme c cs).kind.isAtom = true ∧
      (lexeme c cs).text = c :: cs ∧ (lexeme c cs).rest = [] := by
  obtain ⟨t, hhead, hkind, hspan⟩ := h
  rw [tokenize, Scanner.head?_tokens] at hhead
  obtain rfl := Option.some.inj hhead
  cases hgap : (gap s.toList).2 with
  | nil =>
    rw [Scanner.next_of_nil (s := .start 0 s) hgap] at hkind
    cases hkind
  | cons c cs =>
    rw [Scanner.next_of_cons (s := .start 0 s) hgap] at hkind hspan
    obtain ⟨hstart, hstop, -⟩ := Span.mk.inj hspan
    rw [hstart, Nat.zero_add] at hstop
    have hnone : (gap s.toList).1 = [] := eq_nil_of_byteSize (Nat.eq_zero_of_add_eq_zero hstart).2
    have htext : s.toList = c :: cs := by
      rw [← gap_append s.toList, hnone, hgap, List.nil_append]
    have hall := lexeme_append c cs
    have hrest : (lexeme c cs).rest = [] := by
      have hsize := congrArg byteSize hall
      rw [byteSize_append, hstop, htext] at hsize
      exact eq_nil_of_byteSize (by omega)
    rw [hrest, List.append_nil] at hall
    exact ⟨c, cs, htext, rfl, hkind, hall, hrest⟩

/-- A string ends at its closing quote, whatever follows. -/
theorem spells_of_string {c : Char} {cs : Text} (hkind : (lexeme c cs).kind = .string)
    (hrest : (lexeme c cs).rest = []) :
    Spells (c :: cs) [(.string, String.ofList (lexeme c cs).value)] := by
  have hquote : c = '"' ∨ c = '\'' := by
    rcases lexeme_cases c cs with herror | ⟨-, hquote, -⟩ | ⟨hne, -⟩
    · rw [hkind] at herror
      cases herror
    · exact hquote
    · exact absurd hkind hne
  have hlexeme := lexeme_of_quote hquote
  rw [hlexeme] at hkind hrest
  intro after us _ hafter
  have hgap : gapItem? (c :: (cs ++ after)) = none := by
    obtain rfl | rfl := hquote <;>
      exact gapItem?_eq_none _ (by decide) (by decide) (by decide)
  have hstring : lexeme c (cs ++ after) = (string c cs).before after := by
    rw [hlexeme, string_append (by rw [hkind]; decide)]
  have hbehind : Lexes ((string c cs).before after).rest us := by
    rw [Lexeme.before, hrest]
    exact hafter
  rw [hlexeme]
  simpa [Lexeme.before, hkind] using Lexes.of_lexeme hgap hstring hbehind

theorem spellsOpen_of_name {c : Char} {cs : Text} (hkind : (lexeme c cs).kind.isName = true)
    (hblank : isBlank c = false) (htext : (lexeme c cs).text = c :: cs) :
    SpellsOpen (c :: cs) [(wordKind (c :: cs), String.ofList (c :: cs))] := by
  obtain ⟨hstart, hword⟩ := lexeme_eq_word hkind
  rw [hword] at htext
  have hall : (c :: cs).takeWhile isNameChar = c :: cs := htext
  have hwordText := isWordText_of_isNameStart hblank hstart cs
  rw [hall] at hwordText
  exact spellsOpen_of_isWordText hwordText

theorem spellsOpen_of_number {c : Char} {cs : Text} (hkind : (lexeme c cs).kind = .number)
    (htext : (lexeme c cs).text = c :: cs) :
    SpellsOpen (c :: cs) [(.number, String.ofList (c :: cs))] := by
  obtain ⟨hstart, hnumber⟩ := startsNumber_of_kind hkind
  have hnumeral := isNumeralText_number hstart
  rw [number_value, ← hnumber, htext] at hnumeral
  exact spellsOpen_of_isNumeralText hnumeral

/-- **The text of one token is read as that token** before all that does not go on with a name or a
numeral. -/
theorem IsAtom.spelled {s : String} (h : IsAtom s) : Spelled s := by
  obtain ⟨c, cs, htext, hgap, hkind, hall, hrest⟩ := h.exists_lexeme
  simp only [TokenKind.isAtom, Bool.or_eq_true, beq_iff_eq] at hkind
  obtain ⟨ws, hspells⟩ : ∃ ws, SpellsOpen s.toList ws := by
    rw [htext]
    rcases hkind with (hname | hnumber) | hstring
    · exact ⟨_, spellsOpen_of_name hname (isBlank_eq_false_of_gap hgap) hall⟩
    · exact ⟨_, spellsOpen_of_number hnumber hall⟩
    · exact ⟨_, (spells_of_string hstring hrest).spellsOpen⟩
  exact spelled_of_spellsOpen hspells

/-! ### Types -/

namespace Ty

variable {ι : Type}

/-- The texts that the type is written with: labels, names, values and keys.  A type that was
expanded from a reference is written as the reference. -/
def texts : Ty ι → List String :=
  fold fun t shape raw =>
    match raw with
    | some written => written
    | none => t.label.toList ++ (shape.texts ++ shape.children.flatten)

end Ty

end SigCheck
