import Mathlib.Data.List.TakeWhile
import Mathlib.Tactic.SplitIfs
import SigCheck.Token.Scanner

/-!
# The words of a text

A *word* is a token apart from where it stands.  `Scan.Lexes text words` says that a text is read as
the given words; every text is read as exactly one list of words, the one that `tokenize` gives
(`map_word_tokenize`).

A piece of text that is written before others is judged by what it adds to them: `Scan.Spells text
words` says that the words stand in front of the words of whatever follows, and `Scan.Spells.append`
puts pieces together.  A name or a numeral would run on into a name character or a point behind it,
so it only spells its word before a text that `Scan.Breaks`.
-/

namespace SigCheck

/-- A token apart from where it stands: its class and the text it stands for. -/
abbrev Word := TokenKind × String

/-- A token apart from where it stands. -/
def Token.word (t : Token) : Word := (t.kind, t.value)

namespace Scan

open Text

/-! ### Gaps and lexemes keep the text -/

theorem throughLine_append (t : Text) : (throughLine t).1 ++ (throughLine t).2 = t := by
  induction t with
  | nil => rfl
  | cons c cs ih =>
    simp only [throughLine]
    split
    · rfl
    · simp [ih]

theorem throughClose_append {t inside rest : Text} (h : throughClose t = some (inside, rest)) :
    inside ++ rest = t := by
  induction t generalizing inside with
  | nil => cases h
  | cons c cs ih =>
    simp only [throughClose] at h
    split at h
    · cases h
      exact congrArg (c :: ·) (List.take_append_drop 1 cs)
    · simp only [Option.map_eq_some_iff, Prod.mk.injEq] at h
      obtain ⟨⟨inside', rest'⟩, h', rfl, rfl⟩ := h
      simp [ih h']

theorem gapItem?_append {t item rest : Text} (h : gapItem? t = some (item, rest)) :
    item ++ rest = t := by
  unfold gapItem? at h
  split at h
  · cases h
  · split at h
    · cases h
      rfl
    · split at h
      · cases h
        simp [throughLine_append]
      · cases h
        simp [throughLine_append]
      · simp only [Option.map_eq_some_iff, Prod.mk.injEq] at h
        obtain ⟨⟨inside, after⟩, h', rfl, rfl⟩ := h
        simp [throughClose_append h']
      · cases h

theorem gapItems_append (n : Nat) (t : Text) :
    (gapItems n t).1.flatten ++ (gapItems n t).2 = t := by
  induction n generalizing t with
  | zero => rfl
  | succ n ih =>
    simp only [gapItems]
    split
    · rfl
    · rename_i item rest h
      simp [ih, gapItem?_append h]

theorem gap_append (t : Text) : (gap t).1 ++ (gap t).2 = t := gapItems_append _ t

theorem fraction_append (t : Text) : (fraction t).1 ++ (fraction t).2 = t := by
  unfold fraction
  split
  · split
    · simp
    · rfl
  · rfl

theorem numeral_append (t : Text) : (numeral t).1 ++ (numeral t).2 = t := by
  simp only [numeral, List.append_assoc, fraction_append, List.takeWhile_append_dropWhile]

theorem number_append (t : Text) : (number t).text ++ (number t).rest = t := by
  unfold number
  split <;> simp [numeral_append]

theorem quoted_append (quote : Char) (t : Text) :
    (quoted quote t).text ++ (quoted quote t).rest = t := by
  fun_induction quoted quote t with
  | case1 => rfl
  | case2 => rfl
  | case3 => rfl
  | case4 => rfl
  | case5 e es _ _ ih => simp [Quoted.cons, ih]
  | case6 c cs _ _ _ ih => simp [Quoted.cons, ih]

theorem symbol_append (c : Char) (cs : Text) :
    (symbol c cs).text ++ (symbol c cs).rest = c :: cs := by
  unfold symbol
  split
  · rfl
  · split <;> simp

theorem lexeme_append (c : Char) (cs : Text) :
    (lexeme c cs).text ++ (lexeme c cs).rest = c :: cs := by
  unfold lexeme
  split
  · simp only [string]
    split <;> simp [quoted_append]
  · split
    · exact number_append _
    · split
      · simp [word]
      · exact symbol_append c cs

theorem number_text_ne_nil {c : Char} {cs : Text} (h : startsNumber c cs = true) :
    (number (c :: cs)).text ≠ [] := by
  unfold number
  split
  · simp
  · rename_i hne
    have hc : c.isDigit = true := by
      simp only [startsNumber, Bool.or_eq_true, Bool.and_eq_true, beq_iff_eq] at h
      rcases h with h | ⟨rfl, -⟩
      · exact h
      · exact absurd rfl (hne cs)
    simp [numeral, hc]

theorem isNameChar_of_isNameStart {c : Char} (h : isNameStart c = true) : isNameChar c = true := by
  simp only [isNameStart, isNameChar, Bool.or_eq_true] at h ⊢
  exact .inl h

theorem lexeme_text_ne_nil (c : Char) (cs : Text) : (lexeme c cs).text ≠ [] := by
  unfold lexeme
  split
  · simp only [string]
    split <;> simp
  · split
    · rename_i h
      exact number_text_ne_nil h
    · split
      · rename_i h
        simp [word, isNameChar_of_isNameStart h]
      · unfold symbol
        split
        · simp
        · split <;> simp

theorem length_lexeme_rest_lt (c : Char) (cs : Text) :
    (lexeme c cs).rest.length < (c :: cs).length := by
  have h := congrArg List.length (lexeme_append c cs)
  have := List.length_pos_iff.2 (lexeme_text_ne_nil c cs)
  rw [List.length_append] at h
  omega

theorem length_gap_le (t : Text) : (gap t).2.length ≤ t.length := by
  have h := congrArg List.length (gap_append t)
  rw [List.length_append] at h
  omega

theorem lexeme_kind_ne_eof (c : Char) (cs : Text) : (lexeme c cs).kind ≠ .eof := by
  unfold lexeme
  split
  · simp only [string]
    split <;> simp
  · split
    · unfold number
      split <;> simp
    · split
      · simp only [word, wordKind]
        split_ifs <;> simp
      · unfold symbol
        split
        · rename_i kind h
          unfold punctuation? at h
          split at h <;> cases h <;> simp
        · split <;> simp

/-! ### Reading a text as words -/

/-- The text is read as the given words. -/
inductive Lexes : Text → List Word → Prop
  | nil {t : Text} (h : (gap t).2 = []) : Lexes t []
  | cons {t : Text} {c : Char} {cs : Text} {ws : List Word} (h : (gap t).2 = c :: cs)
      (rest : Lexes (lexeme c cs).rest ws) :
      Lexes t (((lexeme c cs).kind, String.ofList (lexeme c cs).value) :: ws)

theorem exists_lexes (t : Text) : ∃ ws, Lexes t ws := by
  induction hn : t.length using Nat.strongRecOn generalizing t with
  | ind n ih =>
    subst hn
    cases h : (gap t).2 with
    | nil => exact ⟨[], .nil h⟩
    | cons c cs =>
      have hgap := length_gap_le t
      rw [h] at hgap
      obtain ⟨ws, hws⟩ := ih _ (Nat.lt_of_lt_of_le (length_lexeme_rest_lt c cs) hgap) _ rfl
      exact ⟨_, .cons h hws⟩

theorem Lexes.length_le {t : Text} {ws : List Word} (h : Lexes t ws) : ws.length ≤ t.length := by
  induction h with
  | nil => exact Nat.zero_le _
  | @cons t c cs ws h _ ih =>
    have hgap := length_gap_le t
    have hlt := length_lexeme_rest_lt c cs
    rw [h] at hgap
    simp only [List.length_cons] at hgap hlt ⊢
    omega

theorem Lexes.kind_ne_eof {t : Text} {ws : List Word} (h : Lexes t ws) : ∀ w ∈ ws, w.1 ≠ .eof := by
  induction h with
  | nil => exact nofun
  | cons _ _ ih => exact List.forall_mem_cons.2 ⟨lexeme_kind_ne_eof _ _, ih⟩

theorem Lexes.map_word_take {t : Text} {ws : List Word} (h : Lexes t ws) (file offset n : Nat)
    (hn : ws.length ≤ n) :
    (Scanner.take n ⟨file, offset, t⟩).map Token.word = ws ++ [(.eof, "")] := by
  induction h generalizing offset n with
  | @nil t h =>
    have hnext : (Scanner.next ⟨file, offset, t⟩).1.word = (.eof, "") := by
      simp [Scanner.next, h, Token.word]
    have hkind : (Scanner.next ⟨file, offset, t⟩).1.kind = .eof := congrArg Prod.fst hnext
    cases n <;> simp [Scanner.take, hnext, hkind]
  | @cons t c cs ws h _ ih =>
    obtain ⟨n, rfl⟩ : ∃ m, n = m + 1 := ⟨n - 1, by simp only [List.length_cons] at hn; omega⟩
    simp only [Scanner.take, Scanner.next, h, lexeme_kind_ne_eof, if_false, List.map_cons]
    rw [ih _ n (Nat.le_of_succ_le_succ hn)]
    rfl

theorem Lexes.map_word_tokenize {source : String} {ws : List Word} (h : Lexes source.toList ws) :
    (tokenize source).map Token.word = ws ++ [(.eof, "")] :=
  h.map_word_take 0 0 _ h.length_le

theorem lexes_iff {source : String} {ws : List Word} :
    Lexes source.toList ws ↔ (tokenize source).map Token.word = ws ++ [(.eof, "")] := by
  constructor
  · exact Lexes.map_word_tokenize
  · intro h
    obtain ⟨us, hus⟩ := exists_lexes source.toList
    rw [hus.map_word_tokenize] at h
    exact List.append_cancel_right h ▸ hus

/-! ### Pieces of text -/

/-- Whatever follows in a text that meets `follow`, the piece `t` is read as the words `ws` in front
of it. -/
def SpellsBefore (follow : Text → Prop) (t : Text) (ws : List Word) : Prop :=
  ∀ rest us, follow rest → Lexes rest us → Lexes (t ++ rest) (ws ++ us)

/-- The piece `t` is read as the words `ws` in front of any text. -/
abbrev Spells : Text → List Word → Prop := SpellsBefore fun _ => True

/-- A name or a numeral ends before `rest`. -/
def Breaks (rest : Text) : Prop := ∀ c ∈ rest.head?, isNameChar c = false ∧ c ≠ '.'

/-- The piece `t` is read as the words `ws` in front of a text that does not go on with a name or a
numeral. -/
abbrev SpellsOpen : Text → List Word → Prop := SpellsBefore Breaks

variable {s t : Text} {ws us : List Word} {follow : Text → Prop}

theorem Spells.spellsOpen (h : Spells t ws) : SpellsOpen t ws := fun rest us _ hrest =>
  h rest us trivial hrest

theorem spells_nil : Spells [] [] := fun _ _ _ h => h

theorem Spells.append (hs : Spells s ws) (ht : SpellsBefore follow t us) :
    SpellsBefore follow (s ++ t) (ws ++ us) := by
  intro rest vs hf hrest
  rw [List.append_assoc, List.append_assoc]
  exact hs _ _ trivial (ht rest vs hf hrest)

theorem SpellsOpen.append (hs : SpellsOpen s ws) (hb : Breaks t) (hne : t ≠ [])
    (ht : SpellsBefore follow t us) : SpellsBefore follow (s ++ t) (ws ++ us) := by
  intro rest vs hf hrest
  rw [List.append_assoc, List.append_assoc]
  refine hs _ _ ?_ (ht rest vs hf hrest)
  obtain ⟨c, cs, rfl⟩ := List.exists_cons_of_ne_nil hne
  exact hb

theorem breaks_nil : Breaks [] := by
  intro c hc
  cases hc

theorem breaks_cons {c : Char} (h : isNameChar c = false) (hdot : c ≠ '.') (t : Text) :
    Breaks (c :: t) := by
  intro d hd
  obtain rfl : c = d := by simpa using hd
  exact ⟨h, hdot⟩

/-- Two pieces with a separator between them. -/
theorem SpellsOpen.separated {sep : Text} {seps : List Word} (hs : SpellsOpen s ws)
    (hsep : Spells sep seps) (hb : Breaks sep) (hne : sep ≠ []) (ht : SpellsBefore follow t us) :
    SpellsBefore follow (s ++ (sep ++ t)) (ws ++ (seps ++ us)) := by
  obtain ⟨c, cs, rfl⟩ := List.exists_cons_of_ne_nil hne
  exact hs.append hb (List.cons_ne_nil _ _) (hsep.append ht)

theorem Lexes.of_lexeme {c : Char} {cs : Text} {l : Lexeme} (hgap : gapItem? (c :: cs) = none)
    (hlex : lexeme c cs = l) (hrest : Lexes l.rest ws) :
    Lexes (c :: cs) ((l.kind, String.ofList l.value) :: ws) := by
  subst hlex
  refine .cons ?_ hrest
  simp [gap, gapItems, hgap]

theorem Lexes.exists_of_lexeme {c : Char} {cs : Text} (hgap : gapItem? (c :: cs) = none)
    (h : Lexes (c :: cs) ws) :
    ∃ us, ws = ((lexeme c cs).kind, String.ofList (lexeme c cs).value) :: us ∧
      Lexes (lexeme c cs).rest us := by
  have hnogap : (gap (c :: cs)).2 = c :: cs := by simp [gap, gapItems, hgap]
  cases h with
  | nil h => simp [hnogap] at h
  | cons h hrest =>
    obtain ⟨rfl, rfl⟩ := List.cons.inj (hnogap.symm.trans h)
    exact ⟨_, rfl, hrest⟩

theorem gap_cons_of_isBlank {c : Char} (h : isBlank c = true) (cs : Text) :
    gap (c :: cs) = (c :: (gap cs).1, (gap cs).2) := by
  simp [gap, gapItems, gapItem?, h]

theorem Lexes.cons_of_isBlank {c : Char} (h : isBlank c = true) (ht : Lexes t ws) :
    Lexes (c :: t) ws := by
  cases ht with
  | nil hg => exact .nil (by rw [gap_cons_of_isBlank h]; exact hg)
  | cons hg hrest => exact .cons (by rw [gap_cons_of_isBlank h]; exact hg) hrest

theorem Lexes.of_cons_isBlank {c : Char} (hc : isBlank c = true) (h : Lexes (c :: t) ws) :
    Lexes t ws := by
  cases h with
  | nil hg => exact .nil (by rw [gap_cons_of_isBlank hc] at hg; exact hg)
  | cons hg hrest => exact .cons (by rw [gap_cons_of_isBlank hc] at hg; exact hg) hrest

theorem spells_of_isBlank (h : t.all isBlank = true) : Spells t [] := by
  rw [List.all_eq_true] at h
  intro rest us _ hrest
  induction t with
  | nil => exact hrest
  | cons c cs ih =>
    exact (ih fun d hd => h d (List.mem_cons_of_mem _ hd)).cons_of_isBlank (h c List.mem_cons_self)

theorem spellsOpen_dropWhile_isBlank (h : SpellsOpen t ws) :
    SpellsOpen (t.dropWhile isBlank) ws := by
  intro rest us hb hrest
  have hlexes := h rest us hb hrest
  clear h
  induction t with
  | nil => exact hlexes
  | cons c cs ih =>
    cases hc : isBlank c with
    | true =>
      rw [List.dropWhile_cons_of_pos hc]
      exact ih (Lexes.of_cons_isBlank hc hlexes)
    | false =>
      rw [List.dropWhile_cons_of_neg (by simp [hc])]
      exact hlexes

theorem gapItem?_eq_none {c : Char} (cs : Text) (hb : isBlank c = false) (hminus : c ≠ '-')
    (hslash : c ≠ '/') : gapItem? (c :: cs) = none := by
  unfold gapItem?
  simp only [hb, Bool.false_eq_true, if_false]
  split <;> simp_all

/-! ### Punctuation -/

/-- Nothing but punctuation starts with a punctuation character. -/
theorem class_of_punctuation {c : Char} {kind : TokenKind} (h : punctuation? c = some kind) :
    (isBlank c = false ∧ c ≠ '-' ∧ c ≠ '/') ∧ (c ≠ '"' ∧ c ≠ '\'') ∧ c.isDigit = false ∧
      isNameChar c = false := by
  unfold punctuation? at h
  split at h <;> cases h <;> decide

theorem isNameStart_eq_false {c : Char} (h : isNameChar c = false) : isNameStart c = false := by
  rw [Bool.eq_false_iff]
  intro hs
  rw [isNameChar_of_isNameStart hs] at h
  cases h

theorem lexeme_of_punctuation {c : Char} {kind : TokenKind} (h : punctuation? c = some kind)
    (rest : Text) : lexeme c rest = ⟨kind, [c], [c], rest⟩ := by
  obtain ⟨⟨-, hminus, -⟩, hquote, hdigit, hname⟩ := class_of_punctuation h
  simp [lexeme, hquote, startsNumber, hdigit, hminus, isNameStart_eq_false hname, symbol, h]

theorem spells_punctuation {c : Char} {kind : TokenKind} (h : punctuation? c = some kind) :
    Spells [c] [(kind, String.ofList [c])] := by
  intro rest us _ hrest
  obtain ⟨⟨hblank, hminus, hslash⟩, -⟩ := class_of_punctuation h
  exact .of_lexeme (gapItem?_eq_none rest hblank hminus hslash) (lexeme_of_punctuation h rest) hrest

theorem spells_arrow : Spells ['=', '>'] [(.arrow, "=>")] := by
  intro rest us _ hrest
  exact .of_lexeme (gapItem?_eq_none _ (by decide) (by decide) (by decide)) rfl hrest

/-! ### Names -/

theorem span_append {p : Char → Bool} {t rest : Text} (ht : ∀ c ∈ t, p c = true)
    (hrest : ∀ c ∈ rest.head?, p c = false) :
    (t ++ rest).takeWhile p = t ∧ (t ++ rest).dropWhile p = rest := by
  rw [List.takeWhile_append_of_pos ht, List.dropWhile_append_of_pos ht]
  cases rest with
  | nil => simp
  | cons c cs => simp [hrest c rfl]

theorem digit_bounds {c : Char} (h : c.isDigit = true) : 48 ≤ c.toNat ∧ c.toNat ≤ 57 := by
  simp only [Char.isDigit, Bool.and_eq_true, decide_eq_true_eq, ge_iff_le,
    UInt32.le_iff_toNat_le] at h
  exact h

/-- Nothing but a name starts with a character that names start with. -/
theorem class_of_isNameStart {c : Char} (h : isNameStart c = true) :
    (c ≠ '-' ∧ c ≠ '/') ∧ (c ≠ '"' ∧ c ≠ '\'') ∧ c.isDigit = false := by
  have hne : ∀ d, isNameStart d = false → c ≠ d := by
    rintro d hd rfl
    rw [h] at hd
    cases hd
  refine ⟨⟨hne _ (by decide), hne _ (by decide)⟩, ⟨hne _ (by decide), hne _ (by decide)⟩, ?_⟩
  rw [Bool.eq_false_iff]
  intro hdigit
  have hlow := digit_bounds hdigit
  have halpha : c.isAlpha = false := by
    have hA : ¬ 'A'.val ≤ c.val := fun h => by
      have : 65 ≤ c.toNat := UInt32.le_iff_toNat_le.1 h
      omega
    have ha : ¬ 'a'.val ≤ c.val := fun h => by
      have : 97 ≤ c.toNat := UInt32.le_iff_toNat_le.1 h
      omega
    have hupper : c.isUpper = false := decide_eq_false fun h => hA h.1
    have hlower : c.isLower = false := Bool.and_eq_false_iff.2 (.inl (decide_eq_false ha))
    exact Bool.or_eq_false_iff.2 ⟨hupper, hlower⟩
  have hsign : c ≠ '_' ∧ c ≠ '$' := by
    constructor <;> rintro rfl <;> revert hdigit <;> decide
  simp [isNameStart, isAlphabetic, hsign, halpha, show c.toNat < 128 by omega] at h

/-- The text of a name or a keyword. -/
def IsWordText (t : Text) : Prop :=
  ∃ c cs, t = c :: cs ∧ isBlank c = false ∧ isNameStart c = true ∧ cs.all isNameChar = true

theorem spellsOpen_of_isWordText (h : IsWordText t) :
    SpellsOpen t [(wordKind t, String.ofList t)] := by
  obtain ⟨c, cs, rfl, hblank, hstart, hcs⟩ := h
  intro rest us hb hrest
  obtain ⟨⟨hminus, hslash⟩, hquote, hdigit⟩ := class_of_isNameStart hstart
  have hall : ∀ d ∈ c :: cs, isNameChar d = true :=
    List.forall_mem_cons.2 ⟨isNameChar_of_isNameStart hstart, List.all_eq_true.1 hcs⟩
  obtain ⟨htake, hdrop⟩ := span_append hall fun d hd => (hb d hd).1
  have hlex : lexeme c (cs ++ rest) = ⟨wordKind (c :: cs), c :: cs, c :: cs, rest⟩ := by
    rw [List.cons_append] at htake hdrop
    simp [lexeme, hquote, startsNumber, hdigit, hminus, hstart, word, htake, hdrop]
  exact .of_lexeme (gapItem?_eq_none _ hblank hminus hslash) hlex hrest

/-- A name or a keyword with a blank behind it. -/
theorem spells_word {kind : TokenKind} (h : IsWordText t) (hk : wordKind t = kind) :
    Spells (t ++ [' ']) [(kind, String.ofList t)] := by
  have hblank : Spells [' '] [] := spells_of_isBlank (by decide)
  have hword := hk ▸ spellsOpen_of_isWordText h
  exact hword.append (breaks_cons (by decide) (by decide) _) nofun hblank

theorem lexeme_eq_word {c : Char} {cs : Text} (h : (lexeme c cs).kind.isName = true) :
    isNameStart c = true ∧ lexeme c cs = word (c :: cs) := by
  unfold lexeme at h ⊢
  split at h
  · simp only [string] at h
    split at h <;> cases h
  · split at h
    · unfold number at h
      split at h <;> cases h
    · split at h
      · rename_i hquote hnumber hstart
        simp [hquote, hnumber, hstart]
      · unfold symbol at h
        split at h
        · rename_i kind hp
          unfold punctuation? at hp
          split at hp <;> cases hp <;> cases h
        · split at h <;> cases h

/-- A text that is read as itself, as one name, is made of name characters. -/
theorem Lexes.isWordText {kind : TokenKind} (h : Lexes t [(kind, String.ofList t)])
    (hk : kind.isName = true) : IsWordText t ∧ kind = wordKind t := by
  generalize hws : [(kind, String.ofList t)] = ws at h
  cases h with
  | nil => cases hws
  | @cons _ c cs _ hgap _ =>
    simp only [List.cons.injEq, Prod.mk.injEq, String.ofList_inj] at hws
    obtain ⟨⟨hkind, hvalue⟩, -⟩ := hws
    obtain ⟨hstart, hword⟩ := lexeme_eq_word (hkind ▸ hk)
    -- the word is no longer than what follows the gap, so there is no gap
    have hall : t = (c :: cs).takeWhile isNameChar := by rw [hvalue, hword]; rfl
    have hsplit := gap_append t
    rw [hgap] at hsplit
    have hpre : (c :: cs).takeWhile isNameChar = c :: cs :=
      (List.takeWhile_prefix _).eq_of_length_le (by
        rw [← hall, ← hsplit, List.length_append]
        omega)
    rw [hpre] at hall
    have hnogap : (gap t).1 = [] := by
      rw [← hall] at hsplit
      exact List.append_left_eq_self.1 hsplit
    refine ⟨⟨c, cs, hall, ?_, hstart, ?_⟩, ?_⟩
    · rw [Bool.eq_false_iff]
      intro hblank
      rw [hall, gap_cons_of_isBlank hblank] at hnogap
      cases hnogap
    · rw [List.all_eq_true]
      exact fun d hd => List.takeWhile_eq_self_iff.1 hpre d (List.mem_cons_of_mem _ hd)
    · rw [hkind, hword, word, hpre, hall]

/-! ### Numerals and strings -/

/-- One or more decimal digits. -/
def IsDigits (t : Text) : Prop := t ≠ [] ∧ ∀ c ∈ t, c.isDigit = true

/-- The text of a numeral: a sign or none, digits, and a fraction or none. -/
def IsNumeralText (t : Text) : Prop :=
  ∃ sign whole fraction, t = sign ++ (whole ++ fraction) ∧ (sign = [] ∨ sign = ['-']) ∧
    IsDigits whole ∧ (fraction = [] ∨ ∃ digits, fraction = '.' :: digits ∧ IsDigits digits)

theorem class_of_isDigit {c : Char} (h : c.isDigit = true) :
    (isBlank c = false ∧ c ≠ '-' ∧ c ≠ '/') ∧ (c ≠ '"' ∧ c ≠ '\'') ∧ isNameChar c = true := by
  have hb := digit_bounds h
  have hne : ∀ d : Char, d.isDigit = false → c ≠ d := by
    rintro d hd rfl
    rw [h] at hd
    cases hd
  refine ⟨⟨?_, hne _ (by decide), hne _ (by decide)⟩, ⟨hne _ (by decide), hne _ (by decide)⟩, ?_⟩
  · rw [Bool.eq_false_iff, isBlank, ne_eq, RangeTable.contains_iff]
    simp only [blankTable, List.mem_cons, List.not_mem_nil, or_false, exists_eq_or_imp,
      exists_eq_left]
    omega
  · simp [isNameChar, isNumeric, h, show c.toNat < 128 by omega]

theorem Breaks.isDigit_eq_false {rest : Text} (hb : Breaks rest) :
    ∀ c ∈ rest.head?, c.isDigit = false := by
  intro c hc
  rw [Bool.eq_false_iff]
  intro hdigit
  have hname := (hb c hc).1
  rw [(class_of_isDigit hdigit).2.2] at hname
  cases hname

theorem fraction_of_breaks {rest : Text} (hb : Breaks rest) : fraction rest = ([], rest) := by
  unfold fraction
  split
  · exact absurd rfl (hb '.' rfl).2
  · rfl

theorem fraction_append_of_breaks {digits rest : Text} (h : IsDigits digits) (hb : Breaks rest) :
    fraction ('.' :: digits ++ rest) = ('.' :: digits, rest) := by
  obtain ⟨htake, hdrop⟩ := span_append h.2 hb.isDigit_eq_false
  obtain ⟨hne, hall⟩ := h
  obtain ⟨d, ds, rfl⟩ := List.exists_cons_of_ne_nil hne
  simp only [List.cons_append] at htake hdrop ⊢
  simp [fraction, hall d List.mem_cons_self, htake, hdrop]

theorem numeral_append_of_breaks {whole fraction rest : Text} (hw : IsDigits whole)
    (hf : fraction = [] ∨ ∃ digits, fraction = '.' :: digits ∧ IsDigits digits)
    (hb : Breaks rest) : numeral (whole ++ fraction ++ rest) = (whole ++ fraction, rest) := by
  have hhead : ∀ c ∈ (fraction ++ rest).head?, c.isDigit = false := by
    rcases hf with rfl | ⟨digits, rfl, -⟩
    · exact hb.isDigit_eq_false
    · rintro c hc
      obtain rfl : '.' = c := by simpa using hc
      rfl
  obtain ⟨htake, hdrop⟩ := span_append hw.2 hhead
  have hfrac : Scan.fraction (fraction ++ rest) = (fraction, rest) := by
    rcases hf with rfl | ⟨digits, rfl, hdigits⟩
    · exact fraction_of_breaks hb
    · exact fraction_append_of_breaks hdigits hb
  rw [List.append_assoc, numeral, htake, hdrop, hfrac]

theorem spellsOpen_of_isNumeralText (h : IsNumeralText t) :
    SpellsOpen t [(.number, String.ofList t)] := by
  obtain ⟨sign, whole, fraction, rfl, hsign, hwhole, hfraction⟩ := h
  intro rest us hb hrest
  have hnum := numeral_append_of_breaks hwhole hfraction hb
  obtain ⟨hne, hall⟩ := hwhole
  obtain ⟨d, ds, rfl⟩ := List.exists_cons_of_ne_nil hne
  have hd : d.isDigit = true := hall d List.mem_cons_self
  obtain ⟨⟨hblank, hminus, hslash⟩, hquote, -⟩ := class_of_isDigit hd
  simp only [List.cons_append, List.append_assoc] at hnum ⊢
  rcases hsign with rfl | rfl
  · have hlex : lexeme d (ds ++ (fraction ++ rest)) =
        ⟨.number, d :: (ds ++ fraction), d :: (ds ++ fraction), rest⟩ := by
      simp only [lexeme, hquote, or_self, if_false, startsNumber, hd, Bool.true_or, if_true]
      unfold number
      split
      · rename_i h
        exact absurd (List.cons.inj h).1 hminus
      · simp [hnum]
    exact .of_lexeme (gapItem?_eq_none _ hblank hminus hslash) hlex hrest
  · have hgap : gapItem? ('-' :: d :: (ds ++ (fraction ++ rest))) = none := by
      unfold gapItem?
      simp only [show isBlank '-' = false by decide, Bool.false_eq_true, if_false]
      split <;> simp_all
    have hlex : lexeme '-' (d :: (ds ++ (fraction ++ rest))) =
        ⟨.number, '-' :: d :: (ds ++ fraction), '-' :: d :: (ds ++ fraction), rest⟩ := by
      simp [lexeme, startsNumber, hd, number, hnum]
    exact .of_lexeme hgap hlex hrest

/-- The text between the quotes of a string literal that stands for itself. -/
def IsPlainText (t : Text) : Prop := ∀ c ∈ t, c ≠ '"' ∧ c ≠ '\\' ∧ c ≠ '\n'

instance : DecidablePred IsPlainText := fun t => List.decidableBAll _ t

theorem quoted_append_of_isPlainText (h : IsPlainText t) (rest : Text) :
    quoted '"' (t ++ '"' :: rest) = ⟨t, t ++ ['"'], rest, true⟩ := by
  induction t with
  | nil => simp [quoted.eq_def]
  | cons c cs ih =>
    obtain ⟨⟨hquote, hslash, hline⟩, hcs⟩ := List.forall_mem_cons.1 h
    rw [List.cons_append, quoted.eq_def]
    simp [hquote, hline, hslash, ih hcs, Quoted.cons]

theorem spells_of_isPlainText (h : IsPlainText t) :
    Spells ('"' :: (t ++ ['"'])) [(.string, String.ofList t)] := by
  intro rest us _ hrest
  have hlex : lexeme '"' (t ++ '"' :: rest) =
      ⟨.string, t, '"' :: (t ++ ['"']), rest⟩ := by
    simp [lexeme, string, quoted_append_of_isPlainText h]
  have hgap : gapItem? ('"' :: (t ++ '"' :: rest)) = none :=
    gapItem?_eq_none _ (by decide) (by decide) (by decide)
  rw [List.cons_append, List.append_assoc]
  exact .of_lexeme hgap hlex hrest

end Scan

end SigCheck
