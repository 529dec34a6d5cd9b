import SigCheck.Proofs.Lossless

/-!
# Blanks between tokens

Blanks may be put in front of any token of a text, the end included, and the words of the text stay
the same (`tokenize_insertAt_blanks`), whether it is well formed or not.

`Scan.TokenStart before rest` says that a token of the text `before ++ rest` starts in front of
`rest`: between it and the start of the text there are whole gap items and whole lexemes.  With
blanks there, each of them stays as it is (`Scan.lexeme_before_blank`, `Scan.gapItem?_before`),
unless it reaches the end of the text without an end of its own.  Then the blanks become a part of
it: of a comment to the end of the line, of a comment that is not closed, or of a string that is not
closed, where a backslash may escape the first of them.  But blanks hold no end of a comment or a
string, and what is left of them is a gap.
-/

namespace SigCheck

namespace Scan

open Text

variable {s blanks : Text} {c quote : Char} {cs : Text}

/-! ### Strings and comments without an end -/

theorem quoted_rest_of_open (h : (quoted quote s).closed = false) :
    (quoted quote s).rest = [] ∨ (quoted quote s).rest.head? = some '\n' := by
  fun_induction quoted quote s with
  | case1 => exact .inl rfl
  | case2 => cases h
  | case3 => exact .inr rfl
  | case4 => exact .inl rfl
  | case5 e es _ _ ih => exact ih h
  | case6 c cs _ _ _ ih => exact ih h

theorem closed_of_blanks (hquote : isBlank quote = false) (h : blanks.all isBlank = true) :
    (quoted quote blanks).closed = false := by
  induction blanks with
  | nil => rfl
  | cons b bs ih =>
    simp only [List.all_cons, Bool.and_eq_true] at h
    have hb : b ≠ quote := by
      rintro rfl
      rw [h.1] at hquote
      cases hquote
    by_cases hline : b = '\n'
    · subst hline
      rw [quoted_line hb]
    · have hslash : b ≠ '\\' := by
        rintro rfl
        exact absurd h.1 (by decide)
      rw [quoted_plain hb hline hslash]
      exact ih h.2

/-- A string that has no end has none with blanks behind it. -/
theorem closed_append_blanks (hquote : isBlank quote = false) (hblanks : blanks.all isBlank = true)
    (hopen : (quoted quote s).closed = false) (hrest : (quoted quote s).rest = []) :
    (quoted quote (s ++ blanks)).closed = false ∧ (quoted quote (s ++ blanks)).rest <:+ blanks := by
  fun_induction quoted quote s with
  | case1 => exact ⟨closed_of_blanks hquote hblanks, quoted_rest_suffix blanks⟩
  | case2 => cases hopen
  | case3 => cases hrest
  | case4 hne =>
    -- the backslash escapes the first blank
    cases blanks with
    | nil =>
      rw [List.append_nil, quoted_backslash hne]
      exact ⟨rfl, List.suffix_refl []⟩
    | cons b bs =>
      rw [List.singleton_append, quoted_escape hne]
      rw [List.all_cons, Bool.and_eq_true] at hblanks
      exact ⟨closed_of_blanks hquote hblanks.2,
        (quoted_rest_suffix bs).trans (List.suffix_cons b bs)⟩
  | case5 e es hne _ ih =>
    rw [List.cons_append, List.cons_append, quoted_escape hne]
    exact ih hopen hrest
  | case6 c cs hne hline hslash ih =>
    rw [List.cons_append, quoted_plain hne hline hslash]
    exact ih hopen hrest

theorem throughClose_of_blanks (h : blanks.all isBlank = true) : throughClose blanks = none := by
  induction blanks with
  | nil => rfl
  | cons b bs ih =>
    rw [List.all_cons, Bool.and_eq_true] at h
    have hstar : b ≠ '*' := by
      rintro rfl
      exact absurd h.1 (by decide)
    simp [throughClose, hstar, ih h.2]

/-- A comment that is not closed is not closed by blanks behind it. -/
theorem throughClose_append_blanks (hblanks : blanks.all isBlank = true)
    (h : throughClose s = none) : throughClose (s ++ blanks) = none := by
  induction s with
  | nil => exact throughClose_of_blanks hblanks
  | cons c cs ih =>
    simp only [throughClose] at h
    split at h
    · cases h
    · rename_i hopen
      have hopen' : ¬(c = '*' ∧ (cs ++ blanks).head? = some '/') := by
        cases cs with
        | nil =>
          rintro ⟨-, hhead⟩
          obtain ⟨bs, rfl⟩ := List.head?_eq_some_iff.1 hhead
          rw [List.all_cons, Bool.and_eq_true] at hblanks
          exact absurd hblanks.1 (by decide)
        | cons d ds => exact hopen
      rw [List.cons_append, throughClose, if_neg hopen', ih (Option.map_eq_none_iff.1 h)]
      rfl

/-- Blanks do not end what has no end, and what it leaves of them is blank. -/
theorem IsOpen.append_blanks (h : IsOpen c cs) (hrest : (lexeme c cs).rest = [])
    (hblanks : blanks.all isBlank = true) :
    IsOpen c (cs ++ blanks) ∧ (lexeme c (cs ++ blanks)).rest <:+ blanks := by
  rcases h with ⟨hquote, hclosed⟩ | ⟨rfl, hstar⟩
  · have hblank : isBlank c = false := by
      rcases hquote with rfl | rfl <;> decide
    simp only [lexeme_of_quote hquote, string, hclosed] at hrest ⊢
    obtain ⟨hclosed', hsuffix⟩ := closed_append_blanks hblank hblanks hclosed hrest
    simp only [hclosed']
    exact ⟨.inl ⟨hquote, hclosed'⟩, hsuffix⟩
  · have hstar' : (cs ++ blanks).head? = some '*' := by
      obtain ⟨ds, rfl⟩ := List.head?_eq_some_iff.1 hstar
      rfl
    rw [lexeme_slash, symbol_comment hstar']
    exact ⟨.inr ⟨rfl, hstar'⟩, List.nil_suffix⟩

theorem gapItem?_append_blanks (hblanks : blanks.all isBlank = true) (hopen : IsOpen c cs)
    (hgap : gapItem? (c :: cs) = none) : gapItem? (c :: (cs ++ blanks)) = none := by
  rcases hopen with ⟨hquote, -⟩ | ⟨rfl, hstar⟩
  · rcases hquote with rfl | rfl <;> exact gapItem?_eq_none _ (by decide) (by decide) (by decide)
  · obtain ⟨ds, rfl⟩ := List.head?_eq_some_iff.1 hstar
    have hblank : isBlank '/' = false := by decide
    have hclose : throughClose ds = none := by simpa [gapItem?, hblank] using hgap
    simp [gapItem?, hblank, throughClose_append_blanks hblanks hclose]

/-! ### Where tokens start -/

/-- A token of the text `before ++ rest` starts in front of `rest`. -/
inductive TokenStart : Text → Text → Prop
  | here {rest : Text} (h : gapItem? rest = none) : TokenStart [] rest
  | item {item before rest : Text}
      (hitem : gapItem? (item ++ (before ++ rest)) = some (item, before ++ rest))
      (h : TokenStart before rest) : TokenStart (item ++ before) rest
  | token {c : Char} {cs before rest : Text} (hgap : gapItem? (c :: cs) = none)
      (hrest : (lexeme c cs).rest = before ++ rest) (h : TokenStart before rest) :
      TokenStart ((lexeme c cs).text ++ before) rest

variable {before rest : Text} {ws : List Word}

theorem TokenStart.gapItem?_eq_none (h : TokenStart before rest) : gapItem? rest = none := by
  induction h with
  | here h => exact h
  | item _ _ ih => exact ih
  | token _ _ _ ih => exact ih

theorem lexes_of_blanks (h : blanks.all isBlank = true) (hws : Lexes [] ws) : Lexes blanks ws := by
  have hlexes := spells_of_isBlank h [] ws trivial hws
  rwa [List.append_nil, List.nil_append] at hlexes

theorem all_of_suffix {t : Text} (ht : t <:+ blanks) (h : blanks.all isBlank = true) :
    t.all isBlank = true :=
  List.all_eq_true.2 fun b hb => List.all_eq_true.1 h b (ht.subset hb)

theorem IsOpen.rest_eq_nil (h : IsOpen c cs) (hgap : gapItem? (lexeme c cs).rest = none) :
    (lexeme c cs).rest = [] := by
  rcases h with ⟨hquote, hclosed⟩ | ⟨rfl, hstar⟩
  · simp only [lexeme_of_quote hquote, string, hclosed] at hgap ⊢
    rcases quoted_rest_of_open hclosed with hrest | hline
    · exact hrest
    · obtain ⟨ds, hrest⟩ := List.head?_eq_some_iff.1 hline
      simp [hrest, gapItem?_of_isBlank (show isBlank '\n' = true by decide)] at hgap
  · rw [lexeme_slash, symbol_comment hstar]

/-- A lexeme without an end goes on through the blanks behind it. -/
theorem Lexes.append_blanks_of_isOpen (hws : Lexes (c :: s) ws) (hopen : IsOpen c s)
    (hgap : gapItem? (c :: s) = none) (hrest : (lexeme c s).rest = [])
    (hblanks : blanks.all isBlank = true) : Lexes (c :: (s ++ blanks)) ws := by
  obtain ⟨us, rfl, hus⟩ := hws.exists_of_lexeme hgap
  obtain ⟨hopen', hsuffix⟩ := hopen.append_blanks hrest hblanks
  obtain ⟨hkind, hvalue⟩ := lexeme_of_isOpen hopen
  obtain ⟨hkind', hvalue'⟩ := lexeme_of_isOpen hopen'
  rw [hrest] at hus
  have hnew := Lexes.of_lexeme (gapItem?_append_blanks hblanks hopen hgap) rfl
    (lexes_of_blanks (all_of_suffix hsuffix hblanks) hus)
  rwa [hkind', hvalue', ← hkind, ← hvalue] at hnew

/-- Any other lexeme ends before a blank. -/
theorem Lexes.before_blank {b : Char} {t : Text} (hb : isBlank b = true)
    (hws : Lexes (c :: (s ++ rest)) ws) (hgap : gapItem? (c :: (s ++ rest)) = none)
    (hrest : (lexeme c (s ++ rest)).rest = before ++ rest)
    (hopen : before ≠ [] ∨ ¬IsOpen c (s ++ rest))
    (ht : ∀ us, Lexes (before ++ rest) us → Lexes (before ++ b :: t) us) :
    Lexes (c :: (s ++ b :: t)) ws := by
  obtain ⟨us, rfl, hus⟩ := hws.exists_of_lexeme hgap
  rw [hrest] at hus
  have hcomment : ¬(c = '/' ∧ (s ++ rest).head? = some '*') := by
    rintro ⟨rfl, hstar⟩
    rw [lexeme_slash, symbol_comment hstar] at hrest
    rcases hopen with hne | hopen
    · exact hne (List.append_eq_nil_iff.1 hrest.symm).1
    · exact hopen (.inr ⟨rfl, hstar⟩)
  have hgap' := gapItem?_before_eq_none hb hgap hcomment t
  have hnew := lexeme_before_blank hb hrest hopen t
  exact .of_lexeme (l := (lexeme c (s ++ rest)).withRest (before ++ b :: t)) hgap' hnew (ht us hus)

/-- **Blanks in front of a token change no word.** -/
theorem TokenStart.lexes (h : TokenStart before rest) (hblanks : blanks.all isBlank = true)
    (hws : Lexes (before ++ rest) ws) : Lexes (before ++ (blanks ++ rest)) ws := by
  induction h generalizing ws with
  | here => exact spells_of_isBlank hblanks _ ws trivial hws
  | @item item before rest hitem hstart ih =>
    rw [List.append_assoc] at hws
    have hrest := (lexes_iff_of_gapItem? hitem).1 hws
    rw [← List.append_assoc] at hitem
    rcases gapItem?_before hitem with hnew | ⟨rfl, rfl, hnew⟩
    · exact (lexes_iff_of_gapItem? (hnew _)).2 (ih hrest)
    · -- a comment in the last line, up to a line feed among the blanks
      obtain ⟨item', hnew⟩ := hnew (blanks ++ [])
      refine (lexes_iff_of_gapItem? hnew).2 (lexes_of_blanks (all_of_suffix ?_ hblanks) hrest)
      rw [List.append_nil]
      exact ⟨_, throughLine_append blanks⟩
  | @token c cs before rest hgap hrest hstart ih =>
    -- the text of the lexeme and `before` are `c` and a text `s` behind it
    obtain ⟨s, hs, rfl⟩ : ∃ s, (lexeme c cs).text ++ before = c :: s ∧ cs = s ++ rest := by
      have hall := lexeme_append c cs
      obtain ⟨d, ds, htext⟩ := List.exists_cons_of_ne_nil (lexeme_text_ne_nil c cs)
      rw [hrest, htext, List.cons_append] at hall
      obtain ⟨rfl, rfl⟩ := List.cons.inj hall
      exact ⟨ds ++ before, by rw [htext]; rfl, by rw [List.append_assoc]⟩
    rw [hs, List.cons_append] at hws ⊢
    by_cases hopen : before = [] ∧ IsOpen c (s ++ rest)
    · obtain ⟨rfl, hopen⟩ := hopen
      have hnil := hopen.rest_eq_nil (hrest ▸ hstart.gapItem?_eq_none)
      obtain rfl : rest = [] := hrest.symm.trans hnil
      rw [List.append_nil] at hws hgap hopen hnil ⊢
      exact hws.append_blanks_of_isOpen hopen hgap hnil hblanks
    · cases blanks with
      | nil => exact hws
      | cons b bs =>
        rw [List.all_cons, Bool.and_eq_true] at hblanks
        exact hws.before_blank hblanks.1 hgap hrest (Decidable.not_and_iff_or_not.1 hopen)
          fun us => ih

/-! ### Starts of tokens -/

theorem tokenStart_gapItems {n : Nat} {t : Text} (h : (gapItems n t).2 = before ++ rest)
    (hstart : TokenStart before rest) :
    TokenStart ((gapItems n t).1.flatten ++ before) rest := by
  induction n generalizing t with
  | zero => exact hstart
  | succ n ih =>
    simp only [gapItems] at h ⊢
    split at h
    · rename_i hnone
      simpa [hnone] using hstart
    · rename_i item after hitem
      have hafter := gapItems_append n after
      dsimp only at h ⊢
      rw [h, ← List.append_assoc] at hafter
      rw [List.flatten_cons, List.append_assoc]
      refine .item ?_ (ih h)
      rw [hafter, gapItem?_append hitem, hitem]

end Scan

/-! ### The tokens of a text -/

namespace Scanner

open Scan Text

variable {s : Scanner} {byte : Nat}

/-- A token starts at the byte, in what the scanner has not read. -/
def StartsToken (s : Scanner) (byte : Nat) : Prop :=
  ∃ before rest, s.rest = before ++ rest ∧ byte = s.offset + byteSize before ∧
    TokenStart before rest

theorem startsToken_next (s : Scanner) : s.StartsToken s.next.1.span.start := by
  refine ⟨(gap s.rest).1, (gap s.rest).2, (gap_append _).symm, ?_, ?_⟩
  · cases hrest : (gap s.rest).2 with
    | nil => rw [next_of_nil hrest]
    | cons c cs => rw [next_of_cons hrest]
  · have hstart := tokenStart_gapItems (n := s.rest.length) (t := s.rest) (List.nil_append _).symm
      (.here (gapItem?_gap s.rest))
    rwa [List.append_nil] at hstart

theorem StartsToken.of_next (hne : s.next.1.kind ≠ .eof) (h : s.next.2.StartsToken byte) :
    s.StartsToken byte := by
  obtain ⟨c, cs, hrest⟩ := List.exists_cons_of_ne_nil (mt kind_next.2 hne)
  obtain ⟨before, rest, hbehind, hbyte, hstart⟩ := h
  rw [next_of_cons hrest] at hbehind hbyte
  have hgap : gapItem? (c :: cs) = none := hrest ▸ gapItem?_gap s.rest
  have hall : (gap s.rest).2 = ((lexeme c cs).text ++ before) ++ rest := by
    rw [hrest, List.append_assoc, ← hbehind, lexeme_append]
  refine ⟨(gap s.rest).1 ++ ((lexeme c cs).text ++ before), rest, ?_, ?_, ?_⟩
  · rw [List.append_assoc, ← hall, gap_append]
  · simp [hbyte, Nat.add_assoc]
  · exact tokenStart_gapItems hall (.token hgap hbehind hstart)

/-- Every token starts where its span does. -/
theorem startsToken_of_mem (s : Scanner) : ∀ t ∈ s.tokens, s.StartsToken t.span.start := by
  refine tokens_induction (P := fun s ts => ∀ t ∈ ts, s.StartsToken t.span.start) ?_ ?_ s
  · exact fun s _ => List.forall_mem_singleton.2 (startsToken_next s)
  · exact fun s hne ih =>
      List.forall_mem_cons.2 ⟨startsToken_next s, fun t ht => (ih t ht).of_next hne⟩

end Scanner

open Scan

/-- The source text with a piece put in at a byte offset. -/
def Text.insertAt (source : String) (byte : Nat) (piece : String) : String :=
  String.ofList (slice source 0 byte) ++ piece ++
    String.ofList (slice source byte source.utf8ByteSize)

theorem Text.toList_insertAt {source : String} {before rest : Text}
    (h : source.toList = before ++ rest) (piece : String) :
    (insertAt source (byteSize before) piece).toList = before ++ (piece.toList ++ rest) := by
  have hfirst : slice source (byteSize []) (byteSize [] + byteSize before) = before :=
    slice_eq h
  rw [byteSize_nil, Nat.zero_add] at hfirst
  simp [insertAt, hfirst, slice_rest h]

/-- **Blanks in front of a token are not significant.**  Whatever the source text is, blanks that
are put in where one of its tokens starts, or at its end, change no word. -/
theorem tokenize_insertAt_blanks (source blanks : String)
    (hblanks : blanks.toList.all Text.isBlank = true) (t : Token) (ht : t ∈ tokenize source) :
    (tokenize (Text.insertAt source t.span.start blanks)).map Token.word =
      (tokenize source).map Token.word := by
  obtain ⟨before, rest, hsource, hbyte, hstart⟩ := Scanner.startsToken_of_mem _ t ht
  obtain ⟨ws, hws⟩ := exists_lexes source.toList
  have hinserted : Lexes (Text.insertAt source t.span.start blanks).toList ws := by
    rw [hbyte, Scanner.start, Nat.zero_add, Text.toList_insertAt hsource]
    exact hstart.lexes hblanks (hsource ▸ hws)
  rw [hws.map_word_tokenize, hinserted.map_word_tokenize]

/-- A backslash at the end of a string that is not closed escapes the line feed behind it. -/
theorem tokenize_insertAt_blanks_backslash :
    let source := "x='\\"
    "\n\t".toList.all Text.isBlank = true ∧ Scanner.endToken 0 source ∈ tokenize source ∧
      Text.insertAt source (Scanner.endToken 0 source).span.start "\n\t" = "x='\\\n\t" ∧
      (tokenize "x='\\\n\t").map Token.word = (tokenize source).map Token.word := by
  intro source
  have hblanks : "\n\t".toList.all Text.isBlank = true := by decide +kernel
  have heof : Scanner.endToken 0 source ∈ tokenize source := by decide +kernel
  have hinserted : Text.insertAt source (Scanner.endToken 0 source).span.start "\n\t" =
      "x='\\\n\t" := by decide +kernel
  have hwords := tokenize_insertAt_blanks source "\n\t" hblanks _ heof
  rw [hinserted] at hwords
  exact ⟨hblanks, heof, hinserted, hwords⟩

end SigCheck
