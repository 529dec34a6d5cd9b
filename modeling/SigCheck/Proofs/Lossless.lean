import Mathlib.Data.String.Basic
import SigCheck.Proofs.Concatenation

/-!
# Nothing is lost between the tokens

The tokens of a text and the gaps between them are the whole text.  `Scan.Gap` says what a gap is,
without the scanner: blanks and comments, each comment through the end of its line or its first
`*/`.  `Token.StandsBehind` says how a token stands in the text behind the place where the token
before it ends: the bytes between are a gap, both ends lie between two characters, and the token has
the value that its bytes stand for.

The scanner never leaves the text (`Scanner.At`), so every call of it gives such a token
(`Scanner.next_standsBehind`).  `Scanner.tokens_induction` goes through the list of all tokens one
call at a time, and `Scanner.tokens_lossless` puts the calls together.
-/

namespace SigCheck

namespace Scan

open Text

/-! ### Gaps -/

/-- An item of a gap, before the text `rest`. -/
inductive GapItem : Text → Text → Prop
  | blank {c : Char} (h : isBlank c = true) (rest : Text) : GapItem [c] rest
  /-- A comment through the line feed of its line. -/
  | line {mark : Char} {inside : Text} (hmark : mark = '-' ∨ mark = '/') (h : '\n' ∉ inside)
      (rest : Text) : GapItem (mark :: mark :: (inside ++ ['\n'])) rest
  /-- A comment in the last line of a text. -/
  | lastLine {mark : Char} {inside : Text} (hmark : mark = '-' ∨ mark = '/')
      (h : '\n' ∉ inside) : GapItem (mark :: mark :: inside) []
  /-- A comment through the first `*/` behind its start. -/
  | closed {inside : Text} (h : ¬['*', '/'] <:+: inside ++ ['*']) (rest : Text) :
      GapItem ('/' :: '*' :: (inside ++ ['*', '/'])) rest

/-- Gap items one after the other, before the text `rest`. -/
inductive Gap : Text → Text → Prop
  | nil (rest : Text) : Gap [] rest
  | cons {item items rest : Text} (hitem : GapItem item (items ++ rest)) (hitems : Gap items rest) :
      Gap (item ++ items) rest

/-- What `throughClose` reads ends at its first `*/`. -/
theorem throughClose_first {t text rest : Text} (h : throughClose t = some (text, rest)) :
    ∃ inside, text = inside ++ ['*', '/'] ∧ ¬['*', '/'] <:+: inside ++ ['*'] := by
  induction t generalizing text with
  | nil => cases h
  | cons c cs ih =>
    simp only [throughClose] at h
    split at h
    · rename_i hhere
      obtain ⟨rfl, hhead⟩ := hhere
      obtain ⟨cs, rfl⟩ := List.head?_eq_some_iff.1 hhead
      cases h
      exact ⟨[], rfl, fun hinfix => absurd hinfix.length_le (by simp)⟩
    · rename_i hnot
      simp only [Option.map_eq_some_iff, Prod.mk.injEq] at h
      obtain ⟨⟨text', rest'⟩, hclose, rfl, rfl⟩ := h
      obtain ⟨inside, htext, hinside⟩ := ih hclose
      refine ⟨c :: inside, by rw [htext, List.cons_append], fun hinfix => ?_⟩
      rcases List.infix_cons_iff.1 hinfix with hprefix | hinfix
      · -- the first two characters would have closed the comment before
        obtain ⟨rfl, hslash⟩ := List.cons_prefix_cons.1 hprefix
        have hcs := throughClose_append hclose
        rw [htext] at hcs
        refine hnot ⟨rfl, ?_⟩
        cases inside with
        | nil => exact absurd (List.cons_prefix_cons.1 hslash).1 (by decide)
        | cons d ds =>
          rw [← hcs, ← (List.cons_prefix_cons.1 hslash).1]
          rfl
      · exact hinside hinfix

theorem gapItem_of_gapItem? {t item rest : Text} (h : gapItem? t = some (item, rest)) :
    GapItem item rest := by
  have hitem : item ++ rest = t := gapItem?_append h
  rcases gapItem?_cases h with ⟨c, hblank, rfl⟩ | ⟨c, cs, hmark, rfl, rfl⟩ | ⟨cs, text, rfl, hclose⟩
  · obtain rfl : item = [c] := List.append_cancel_right (hitem.trans List.singleton_append.symm)
    exact .blank hblank rest
  · rw [gapItem?_lineComment hmark] at h
    obtain rfl : c :: c :: (throughLine cs).1 = item := congrArg Prod.fst (Option.some.inj h)
    rcases throughLine_cases cs with ⟨inside, hinside, htext⟩ | ⟨hcs, htext⟩
    · rw [htext]
      exact .line hmark hinside _
    · rw [htext]
      exact .lastLine hmark hcs
  · rw [gapItem?_closedComment hclose] at h
    obtain rfl : '/' :: '*' :: text = item := congrArg Prod.fst (Option.some.inj h)
    obtain ⟨inside, rfl, hinside⟩ := throughClose_first hclose
    exact .closed hinside rest

theorem gap_gapItems (n : Nat) (t : Text) : Gap (gapItems n t).1.flatten (gapItems n t).2 := by
  induction n generalizing t with
  | zero => exact .nil t
  | succ n ih =>
    simp only [gapItems]
    split
    · exact .nil t
    · rename_i item rest h
      refine .cons ?_ (ih rest)
      rw [gapItems_append]
      exact gapItem_of_gapItem? h

theorem gap_gap (t : Text) : Gap (gap t).1 (gap t).2 := gap_gapItems _ t

/-! ### Values -/

/-- The text between two quotes, and what it stands for: a backslash and a letter for a control
character, a backslash and any other character for that character. -/
inductive StringBody (quote : Char) : Text → Text → Prop
  | nil : StringBody quote [] []
  | lineFeed {t v : Text} (h : StringBody quote t v) :
      StringBody quote ('\\' :: 'n' :: t) ('\n' :: v)
  | carriageReturn {t v : Text} (h : StringBody quote t v) :
      StringBody quote ('\\' :: 'r' :: t) ('\r' :: v)
  | tab {t v : Text} (h : StringBody quote t v) : StringBody quote ('\\' :: 't' :: t) ('\t' :: v)
  | escaped {c : Char} {t v : Text} (hc : c ∉ ['n', 'r', 't']) (h : StringBody quote t v) :
      StringBody quote ('\\' :: c :: t) (c :: v)
  | plain {c : Char} {t v : Text} (hc : c ∉ [quote, '\\', '\n']) (h : StringBody quote t v) :
      StringBody quote (c :: t) (c :: v)

theorem StringBody.unescape {quote : Char} {t v : Text} (h : StringBody quote t v) (c : Char) :
    StringBody quote ('\\' :: c :: t) (Scan.unescape c :: v) := by
  unfold Scan.unescape
  split_ifs with hn hr ht
  · subst hn
    exact .lineFeed h
  · subst hr
    exact .carriageReturn h
  · subst ht
    exact .tab h
  · exact .escaped (by simp [hn, hr, ht]) h

theorem stringBody_quoted {quote : Char} {t : Text} (h : (quoted quote t).closed = true) :
    ∃ inside, (quoted quote t).text = inside ++ [quote] ∧
      StringBody quote inside (quoted quote t).value := by
  fun_induction quoted quote t with
  | case1 => cases h
  | case2 cs => exact ⟨[], rfl, .nil⟩
  | case3 => cases h
  | case4 => cases h
  | case5 e es _ _ ih =>
    obtain ⟨inside, htext, hbody⟩ := ih h
    exact ⟨'\\' :: e :: inside, by simp [Quoted.cons, htext], hbody.unescape e⟩
  | case6 c cs hquote hline hslash ih =>
    obtain ⟨inside, htext, hbody⟩ := ih h
    refine ⟨c :: inside, by simp [Quoted.cons, htext], .plain ?_ hbody⟩
    simp [hquote, hline, hslash]

theorem string_cases (quote : Char) (cs : Text) :
    (string quote cs).kind = .error ∨ (string quote cs).kind = .string ∧
      ∃ inside, (string quote cs).text = quote :: (inside ++ [quote]) ∧
        StringBody quote inside (string quote cs).value := by
  unfold string
  dsimp only
  split
  · rename_i hclosed
    obtain ⟨inside, htext, hbody⟩ := stringBody_quoted hclosed
    exact .inr ⟨rfl, inside, by rw [htext], hbody⟩
  · exact .inl rfl

theorem number_value (t : Text) : (number t).value = (number t).text := by
  unfold number
  split <;> rfl

theorem punctuation?_ne_string {c : Char} {kind : TokenKind} (h : punctuation? c = some kind) :
    kind ≠ .string := by
  unfold punctuation? at h
  split at h <;> cases h <;> simp

theorem wordKind_ne_string (t : Text) : wordKind t ≠ .string := by
  unfold wordKind
  split_ifs <;> simp

theorem symbol_cases (c : Char) (cs : Text) : (symbol c cs).kind = .error ∨
    (symbol c cs).kind ≠ .string ∧ (symbol c cs).value = (symbol c cs).text := by
  unfold symbol
  split
  · rename_i kind hp
    exact .inr ⟨punctuation?_ne_string hp, rfl⟩
  · split
    · exact .inr ⟨by simp, rfl⟩
    · exact .inl rfl
    · exact .inl rfl

/-- A lexeme is an error, a string literal, or stands for its own text. -/
theorem lexeme_cases (c : Char) (cs : Text) :
    (lexeme c cs).kind = .error ∨
    ((lexeme c cs).kind = .string ∧ (c = '"' ∨ c = '\'') ∧
      ∃ inside, (lexeme c cs).text = c :: (inside ++ [c]) ∧
        StringBody c inside (lexeme c cs).value) ∨
    ((lexeme c cs).kind ≠ .string ∧ (lexeme c cs).value = (lexeme c cs).text) := by
  unfold lexeme
  split_ifs with hquote hnumber hname
  · exact (string_cases c cs).imp_right fun ⟨hkind, hbody⟩ => .inl ⟨hkind, hquote, hbody⟩
  · refine .inr (.inr ⟨?_, number_value _⟩)
    unfold number
    split <;> simp
  · exact .inr (.inr ⟨wordKind_ne_string _, rfl⟩)
  · exact (symbol_cases c cs).imp_right .inr

end Scan

/-! ### Places in a source text -/

/-- The characters of a source text from one byte to another. -/
def Text.slice (source : String) (start stop : Nat) : Text :=
  (String.Pos.Raw.extract source ⟨start⟩ ⟨stop⟩).toList

theorem Text.byteSize_eq (t : Text) : byteSize t = String.utf8Len t := by
  induction t with
  | nil => rfl
  | cons c cs ih => rw [byteSize_cons, ih, String.utf8Len_cons, Nat.add_comm]

theorem Text.byteSize_pos {t : Text} (h : t ≠ []) : 0 < byteSize t := by
  obtain ⟨c, cs, rfl⟩ := List.exists_cons_of_ne_nil h
  have := c.utf8Size_pos
  rw [byteSize_cons]
  omega

section slices

open Text

variable {source : String} {before t after : Text} (h : source.toList = before ++ (t ++ after))
include h

theorem Text.slice_eq : slice source (byteSize before) (byteSize before + byteSize t) = t := by
  have hsource : source = String.ofList (before ++ t ++ after) := by
    rw [List.append_assoc, ← h, String.ofList_toList]
  rw [slice, hsource, byteSize_eq, byteSize_eq, String.extract_of_valid, String.toList_ofList]

theorem Text.isValid_byteSize : String.Pos.Raw.IsValid source ⟨byteSize before⟩ := by
  refine String.Pos.Raw.isValid_iff_exists_append.2
    ⟨String.ofList before, String.ofList (t ++ after), ?_, ?_⟩
  · rw [← String.ofList_append, ← h, String.ofList_toList]
  · rw [String.rawEndPos_ofList, byteSize_eq]

end slices

theorem Text.slice_rest {source : String} {before rest : Text}
    (h : source.toList = before ++ rest) :
    slice source (byteSize before) source.utf8ByteSize = rest := by
  have hsize : source.utf8ByteSize = byteSize before + byteSize rest := by
    rw [← String.utf8Len_toList, ← byteSize_eq, h, byteSize_append]
  rw [← rest.append_nil] at h
  rw [hsize]
  exact slice_eq h

/-- The token stands in the source text behind the byte `before`, where the token before it ends. -/
structure Token.StandsBehind (source : String) (file before : Nat) (t : Token) : Prop where
  file_eq : t.span.file = file
  start_valid : String.Pos.Raw.IsValid source ⟨t.span.start⟩
  stop_valid : String.Pos.Raw.IsValid source ⟨t.span.stop⟩
  before_le : before ≤ t.span.start
  start_lt : t.kind ≠ .eof → t.span.start < t.span.stop
  gap : Scan.Gap (Text.slice source before t.span.start)
    (Text.slice source t.span.start source.utf8ByteSize)
  value : t.kind ≠ .error → t.kind ≠ .string →
    t.value.toList = Text.slice source t.span.start t.span.stop
  string : t.kind = .string → ∃ quote inside, (quote = '"' ∨ quote = '\'') ∧
    Text.slice source t.span.start t.span.stop = quote :: (inside ++ [quote]) ∧
    Scan.StringBody quote inside t.value.toList

/-- A token over the text `t`, with the gap `skipped` before it. -/
theorem Token.standsBehind_of_append {source : String} {before skipped t after : Text}
    (hsource : source.toList = before ++ (skipped ++ (t ++ after)))
    (hgap : Scan.Gap skipped (t ++ after)) (file : Nat) {kind : TokenKind} (value : Text)
    (hempty : kind ≠ .eof → t ≠ []) (hvalue : kind ≠ .error → kind ≠ .string → value = t)
    (hstring : kind = .string → ∃ quote inside, (quote = '"' ∨ quote = '\'') ∧
      t = quote :: (inside ++ [quote]) ∧ Scan.StringBody quote inside value) :
    let first := Text.byteSize before + Text.byteSize skipped
    Token.StandsBehind source file (Text.byteSize before)
      ⟨kind, ⟨first, first + Text.byteSize t, file⟩, String.ofList value⟩ := by
  have hfirst : Text.byteSize before + Text.byteSize skipped = Text.byteSize (before ++ skipped) :=
    (Text.byteSize_append _ _).symm
  have hrest : source.toList = (before ++ skipped) ++ (t ++ after) := by
    rw [hsource, List.append_assoc]
  have hbehind : source.toList = (before ++ skipped ++ t) ++ (after ++ []) := by
    rw [hrest, List.append_assoc (before ++ skipped), List.append_nil]
  -- the three slices: the gap, the token, and all from the token on
  have hskipped := Text.slice_eq hsource
  have ht := Text.slice_eq hrest
  have hall := Text.slice_rest hrest
  have hstop := Text.isValid_byteSize hbehind
  rw [Text.byteSize_append] at hstop
  dsimp only
  rw [hfirst] at hskipped ⊢
  refine ⟨rfl, Text.isValid_byteSize hrest, hstop, ?_, fun hkind => ?_, ?_, fun he hs => ?_,
    fun hkind => ?_⟩ <;> dsimp only
  · rw [← hfirst]
    exact Nat.le_add_right _ _
  · exact Nat.lt_add_of_pos_right (Text.byteSize_pos (hempty hkind))
  · rw [hskipped, hall]
    exact hgap
  · rw [ht, String.toList_ofList, hvalue he hs]
  · rw [ht, String.toList_ofList]
    exact hstring hkind

/-! ### Calls of the scanner -/

namespace Scanner

open Scan Text

variable {s : Scanner} {source : String}

theorem next_of_nil (h : (gap s.rest).2 = []) :
    let last := s.offset + byteSize (gap s.rest).1
    s.next = (⟨.eof, ⟨last, last, s.file⟩, ""⟩, ⟨s.file, last, []⟩) := by
  simp [next, h]

theorem next_of_cons {c : Char} {cs : Text} (h : (gap s.rest).2 = c :: cs) :
    let l := lexeme c cs
    let first := s.offset + byteSize (gap s.rest).1
    let last := first + byteSize l.text
    s.next = (⟨l.kind, ⟨first, last, s.file⟩, String.ofList l.value⟩, ⟨s.file, last, l.rest⟩) := by
  simp [next, h]

/-- The scanner stands in the source text, before what it has not read. -/
def At (source : String) (s : Scanner) : Prop :=
  ∃ before, source.toList = before ++ s.rest ∧ s.offset = byteSize before

theorem at_start (file : Nat) (source : String) : At source (start file source) := ⟨[], rfl, rfl⟩

/-- A call leads from one place in the source text to another, and gives the token between. -/
theorem next_standsBehind (h : At source s) :
    s.next.1.StandsBehind source s.file s.offset ∧ At source s.next.2 ∧
      s.next.2.file = s.file ∧ s.next.2.offset = s.next.1.span.stop := by
  obtain ⟨before, hsource, hoffset⟩ := h
  have hgap := gap_gap s.rest
  rw [← gap_append s.rest] at hsource
  cases hrest : (gap s.rest).2 with
  | nil =>
    rw [hrest] at hsource hgap
    rw [next_of_nil hrest, hoffset]
    refine ⟨?_, ⟨before ++ (gap s.rest).1, ?_, (byteSize_append _ _).symm⟩, rfl, rfl⟩
    · exact Token.standsBehind_of_append hsource hgap s.file [] (absurd rfl) (fun _ _ => rfl)
        (fun hkind => absurd hkind (by decide))
    · rw [hsource, List.append_assoc]
  | cons c cs =>
    rw [hrest, ← lexeme_append c cs] at hsource hgap
    rw [next_of_cons hrest, hoffset]
    refine ⟨?_, ⟨before ++ ((gap s.rest).1 ++ (lexeme c cs).text), ?_, ?_⟩, rfl, rfl⟩
    · refine Token.standsBehind_of_append hsource hgap s.file _ (fun _ => lexeme_text_ne_nil c cs)
        (fun herror hstring => ?_) fun hstring => ?_
      · rcases lexeme_cases c cs with h | ⟨h, -⟩ | ⟨-, hvalue⟩
        · exact absurd h herror
        · exact absurd h hstring
        · exact hvalue
      · rcases lexeme_cases c cs with h | ⟨-, hquote, inside, hbody⟩ | ⟨h, -⟩
        · rw [hstring] at h
          cases h
        · exact ⟨c, inside, hquote, hbody⟩
        · exact absurd hstring h
    · simp [hsource]
    · simp [Nat.add_assoc]

/-! ### All tokens -/

theorem kind_next : s.next.1.kind = .eof ↔ (gap s.rest).2 = [] := by
  cases hrest : (gap s.rest).2 with
  | nil => simp [next_of_nil hrest]
  | cons c cs => simp [next_of_cons hrest, lexeme_kind_ne_eof]

theorem kind_next_of_nil (h : s.rest = []) : s.next.1.kind = .eof := by
  rw [kind_next, h]
  rfl

theorem length_rest_next (h : s.next.1.kind ≠ .eof) : s.next.2.rest.length < s.rest.length := by
  obtain ⟨c, cs, hrest⟩ := List.exists_cons_of_ne_nil (mt kind_next.2 h)
  have hle := length_gap_le s.rest
  have hlt := length_lexeme_rest_lt c cs
  rw [hrest] at hle
  rw [next_of_cons hrest]
  exact Nat.lt_of_lt_of_le hlt hle

theorem take_eq_of_le {n m : Nat} (hn : s.rest.length ≤ n) (hm : s.rest.length ≤ m) :
    take n s = take m s := by
  induction n generalizing m s with
  | zero =>
    have heof : s.next.1.kind = .eof := kind_next_of_nil (List.length_eq_zero_iff.1 (by omega))
    cases m <;> simp [take, heof]
  | succ n ih =>
    cases m with
    | zero =>
      have heof : s.next.1.kind = .eof := kind_next_of_nil (List.length_eq_zero_iff.1 (by omega))
      simp [take, heof]
    | succ m =>
      simp only [take]
      split
      · rfl
      · rename_i hne
        have := length_rest_next hne
        rw [ih (m := m) (by omega) (by omega)]

theorem tokens_of_eof (h : s.next.1.kind = .eof) : s.tokens = [s.next.1] := by
  unfold tokens
  cases s.rest.length <;> simp [take, h]

theorem tokens_of_ne_eof (h : s.next.1.kind ≠ .eof) : s.tokens = s.next.1 :: s.next.2.tokens := by
  have hlt := length_rest_next h
  obtain ⟨n, hn⟩ : ∃ n, s.rest.length = n + 1 := ⟨s.rest.length - 1, by omega⟩
  simp only [tokens, hn, take, h, if_false]
  rw [take_eq_of_le (m := s.next.2.rest.length) (by omega) le_rfl]

/-- What holds of all tokens from a place on, call by call. -/
theorem tokens_induction {P : Scanner → List Token → Prop}
    (eof : ∀ s : Scanner, s.next.1.kind = .eof → P s [s.next.1])
    (token : ∀ s : Scanner, s.next.1.kind ≠ .eof → P s.next.2 s.next.2.tokens →
      P s (s.next.1 :: s.next.2.tokens)) (s : Scanner) : P s s.tokens := by
  induction hn : s.rest.length using Nat.strongRecOn generalizing s with
  | ind n ih =>
    subst hn
    by_cases h : s.next.1.kind = .eof
    · rw [tokens_of_eof h]
      exact eof s h
    · rw [tokens_of_ne_eof h]
      exact token s h (ih _ (length_rest_next h) _ rfl)

/-- The token at the end of a source text. -/
def endToken (file : Nat) (source : String) : Token :=
  ⟨.eof, ⟨source.utf8ByteSize, source.utf8ByteSize, file⟩, ""⟩

theorem next_of_eof (h : At source s) (heof : s.next.1.kind = .eof) :
    s.next = (endToken s.file source, ⟨s.file, source.utf8ByteSize, []⟩) := by
  obtain ⟨before, hsource, hoffset⟩ := h
  have hrest := kind_next.1 heof
  have hall := gap_append s.rest
  rw [hrest, List.append_nil] at hall
  have hsize : s.offset + byteSize (gap s.rest).1 = source.utf8ByteSize := by
    rw [← String.utf8Len_toList, ← byteSize_eq, hsource, byteSize_append, hoffset, hall]
  rw [next_of_nil hrest, hsize]
  rfl

theorem tokens_eq_append (h : At source s) :
    ∃ ts, s.tokens = ts ++ [endToken s.file source] ∧ ∀ t ∈ ts, t.kind ≠ .eof := by
  refine tokens_induction (P := fun s ts => At source s →
    ∃ us, ts = us ++ [endToken s.file source] ∧ ∀ t ∈ us, t.kind ≠ .eof) ?_ ?_ s h
  · intro s heof h
    exact ⟨[], by rw [next_of_eof h heof]; rfl, List.forall_mem_nil _⟩
  · intro s hne ih h
    obtain ⟨-, hafter, hfile, -⟩ := next_standsBehind h
    obtain ⟨us, htokens, hus⟩ := ih hafter
    exact ⟨s.next.1 :: us, by rw [htokens, hfile]; rfl, List.forall_mem_cons.2 ⟨hne, hus⟩⟩

/-- Every token stands behind the one before it. -/
theorem tokens_standBehind (h : At source s) :
    ∀ p ∈ List.zip (s.offset :: s.tokens.map (·.span.stop)) s.tokens,
      p.2.StandsBehind source s.file p.1 := by
  refine tokens_induction (P := fun s ts => At source s →
    ∀ p ∈ List.zip (s.offset :: ts.map (·.span.stop)) ts,
      p.2.StandsBehind source s.file p.1) ?_ ?_ s h
  · intro s _ h
    exact List.forall_mem_singleton.2 (next_standsBehind h).1
  · intro s _ ih h
    obtain ⟨hstands, hafter, hfile, hoffset⟩ := next_standsBehind h
    refine List.forall_mem_cons.2 ⟨hstands, ?_⟩
    have hrest := ih hafter
    rw [hfile, hoffset] at hrest
    exact hrest

/-! ### Single calls -/

/-- The tokens of `k` calls one after the other, and the place after them. -/
def calls : Nat → Scanner → List Token × Scanner
  | 0, s => ([], s)
  | k + 1, s =>
    let (tokens, last) := calls k s.next.2
    (s.next.1 :: tokens, last)

theorem calls_of_next_eq {t : Token} (h : s.next = (t, s)) (k : Nat) :
    (s.calls k).1 = List.replicate k t := by
  induction k with
  | zero => rfl
  | succ k ih =>
    simp only [calls, h, List.replicate_succ]
    rw [ih]

theorem calls_length_tokens (h : At source s) (k : Nat) :
    (s.calls (s.tokens.length + k)).1 =
      s.tokens ++ List.replicate k (endToken s.file source) := by
  refine tokens_induction (P := fun s ts => At source s →
    (s.calls (ts.length + k)).1 = ts ++ List.replicate k (endToken s.file source)) ?_ ?_ s h
  · intro s heof h
    have hnext := next_of_eof h heof
    have hstays : Scanner.next ⟨s.file, source.utf8ByteSize, []⟩ =
        (endToken s.file source, ⟨s.file, source.utf8ByteSize, []⟩) := rfl
    rw [List.length_singleton, Nat.add_comm, calls]
    dsimp only
    rw [hnext]
    dsimp only
    rw [calls_of_next_eq hstays]
    rfl
  · intro s _ ih h
    obtain ⟨-, hafter, hfile, -⟩ := next_standsBehind h
    rw [List.length_cons, Nat.add_right_comm, calls]
    dsimp only
    rw [ih hafter, hfile]
    rfl

theorem calls_append_tokens {k : Nat} (h : k < s.tokens.length) :
    (s.calls k).1 ++ (s.calls k).2.tokens = s.tokens := by
  induction k generalizing s with
  | zero => rfl
  | succ k ih =>
    have hne : s.next.1.kind ≠ .eof := by
      intro heof
      rw [tokens_of_eof heof] at h
      simp at h
    rw [tokens_of_ne_eof hne] at h ⊢
    have hrest := ih (Nat.lt_of_succ_lt_succ h)
    simp only [calls, List.cons_append]
    rw [hrest]

/-- **Nothing is lost and nothing is made up between a text and its tokens.** -/
theorem tokens_lossless (file : Nat) (source : String) :
    let s := start file source
    (∃ ts, s.tokens = ts ++ [endToken file source] ∧ ∀ t ∈ ts, t.kind ≠ .eof) ∧
    (∀ p ∈ List.zip (0 :: s.tokens.map (·.span.stop)) s.tokens,
      p.2.StandsBehind source file p.1) ∧
    (∀ k, (s.calls (s.tokens.length + k)).1 =
      s.tokens ++ List.replicate k (endToken file source)) ∧
    ∀ k, k < s.tokens.length → (s.calls k).1 ++ (s.calls k).2.tokens = s.tokens := by
  have h := at_start file source
  exact ⟨tokens_eq_append h, tokens_standBehind h, calls_length_tokens h,
    fun _ => calls_append_tokens⟩

/-- A name of two bytes, a string with an escape, and a comment in the last line. -/
theorem tokens_lossless_accent :
    let source := "é : 'a\\n' -- π"
    let s := start 7 source
    s.tokens = [⟨.name, ⟨0, 2, 7⟩, "é"⟩, ⟨.colon, ⟨3, 4, 7⟩, ":"⟩, ⟨.string, ⟨5, 10, 7⟩, "a\n"⟩,
        endToken 7 source] ∧
      Gap (slice source 10 16) [] ∧ (s.calls 2).1 ++ (s.calls 2).2.tokens = s.tokens ∧
      (s.calls 6).1 = s.tokens ++ [endToken 7 source, endToken 7 source] := by
  intro source s
  have htokens : s.tokens = [⟨.name, ⟨0, 2, 7⟩, "é"⟩, ⟨.colon, ⟨3, 4, 7⟩, ":"⟩,
      ⟨.string, ⟨5, 10, 7⟩, "a\n"⟩, endToken 7 source] := by decide +kernel
  obtain ⟨-, hstands, hmore, hfewer⟩ := tokens_lossless 7 source
  have hcomment := (hstands (10, endToken 7 source) (by rw [htokens]; decide +kernel)).gap
  have hlong := hmore 2
  rw [htokens] at hlong
  exact ⟨htokens, hcomment, hfewer 2 (by rw [htokens]; decide), by rw [htokens]; exact hlong⟩

end Scanner

end SigCheck
