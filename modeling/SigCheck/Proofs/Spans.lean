import SigCheck.Proofs.Lossless
import SigCheck.Proofs.Recovery

/-!
# Spans are reported at their characters

Spans count bytes and reports count characters.  `Text.charOffset` leads from the one to the other:
it never goes back as the byte offset grows, and between two characters it is the number of
characters before (`Text.charOffset_append`).

So a span that starts and ends between characters is reported at the characters that its bytes
encode (`Span.marks_of_isValid`).  The span of a token is one, whatever its class, and the span of a
parse error is that of the token where reading stopped, which is a token of the text also if it is
the end (`Header.found_mem_of_parse`).
-/

namespace SigCheck

/-! ### Character offsets -/

namespace Text

theorem charOffset_cons {byte : Nat} (h : 0 < byte) (c : Char) (cs : Text) :
    charOffset (c :: cs) byte = charOffset cs (byte - c.utf8Size) + 1 := by
  obtain ⟨n, rfl⟩ := Nat.exists_eq_succ_of_ne_zero (Nat.ne_of_gt h)
  rfl

/-- Between two characters, the offset is the number of characters before. -/
theorem charOffset_append (before after : Text) :
    charOffset (before ++ after) (byteSize before) = before.length := by
  induction before with
  | nil => exact charOffset_zero after
  | cons c cs ih =>
    have hpos : 0 < byteSize (c :: cs) := byteSize_pos (List.cons_ne_nil c cs)
    rw [List.cons_append, charOffset_cons hpos, byteSize_cons, Nat.add_sub_cancel_left, ih]
    rfl

theorem charOffset_mono (t : Text) {m n : Nat} (h : m ≤ n) : charOffset t m ≤ charOffset t n := by
  induction t generalizing m n with
  | nil => exact Nat.le_refl 0
  | cons c cs ih =>
    by_cases hm : m = 0
    · rw [hm, charOffset_zero]
      exact Nat.zero_le _
    · have hpos : 0 < m := Nat.pos_of_ne_zero hm
      rw [charOffset_cons hpos, charOffset_cons (Nat.lt_of_lt_of_le hpos h)]
      exact Nat.succ_le_succ (ih (Nat.sub_le_sub_right h _))

theorem charOffset_le (t : Text) (byte : Nat) : charOffset t byte ≤ t.length := by
  induction t generalizing byte with
  | nil => exact Nat.le_refl 0
  | cons c cs ih =>
    by_cases hbyte : byte = 0
    · rw [hbyte, charOffset_zero]
      exact Nat.zero_le _
    · rw [charOffset_cons (Nat.pos_of_ne_zero hbyte)]
      exact Nat.succ_le_succ (ih _)

end Text

/-! ### Spans -/

open Text

/-- The span is reported inside the source text, at the characters that its bytes encode. -/
structure Span.Marks (source : String) (s : Span) : Prop where
  start_le : charOffset source.toList s.start ≤ charOffset source.toList s.stop
  stop_le : charOffset source.toList s.stop ≤ source.length
  decoded : (source.toByteArray.extract s.start s.stop).utf8Decode? =
    some (source.toList.extract (charOffset source.toList s.start)
      (charOffset source.toList s.stop)).toArray

variable {source : String}

theorem Text.size_utf8Encode (t : Text) : t.utf8Encode.size = byteSize t := by
  rw [← String.toByteArray_ofList, String.size_toByteArray, String.utf8ByteSize_ofList, byteSize_eq]

/-- The bytes of a piece of the source text are those that encode it. -/
theorem Text.extract_toByteArray {before t after : Text}
    (h : source.toList = before ++ (t ++ after)) :
    source.toByteArray.extract (byteSize before) (byteSize before + byteSize t) = t.utf8Encode := by
  rw [← String.utf8Encode_toList, h, List.utf8Encode_append, List.utf8Encode_append,
    ← size_utf8Encode, ← size_utf8Encode, ← Nat.add_zero before.utf8Encode.size, Nat.add_assoc,
    ByteArray.extract_append_size_add]
  exact ByteArray.extract_append_eq_left (Nat.zero_add _)

/-- A byte offset between two characters is the size of the characters before it. -/
theorem Text.byteSize_take_charOffset {byte : Nat} (h : String.Pos.Raw.IsValid source ⟨byte⟩) :
    byteSize (source.toList.take (charOffset source.toList byte)) = byte := by
  obtain ⟨before, after, rfl, hbyte⟩ := String.Pos.Raw.isValid_iff_exists_append.1 h
  have hsize : byte = byteSize before.toList := by
    rw [byteSize_eq, String.utf8Len_toList]
    exact congrArg String.Pos.Raw.byteIdx hbyte
  rw [String.toList_append, hsize, charOffset_append, List.take_left]

theorem Span.marks_of_isValid {s : Span} (hstart : String.Pos.Raw.IsValid source ⟨s.start⟩)
    (hstop : String.Pos.Raw.IsValid source ⟨s.stop⟩) (h : s.start ≤ s.stop) : s.Marks source := by
  have hle := charOffset_mono source.toList h
  refine ⟨hle, charOffset_le _ _, ?_⟩
  have hfirst := byteSize_take_charOffset hstart
  have hlast := byteSize_take_charOffset hstop
  generalize charOffset source.toList s.start = i at hle hfirst
  generalize charOffset source.toList s.stop = j at hle hlast
  -- the text before the span, the text of the span, and the text behind it
  have htake : source.toList.take i ++ source.toList.extract i j = source.toList.take j := by
    obtain ⟨k, rfl⟩ := Nat.exists_eq_add_of_le hle
    rw [List.extract_eq_take_drop, Nat.add_sub_cancel_left, List.take_add]
  have hsource : source.toList =
      source.toList.take i ++ (source.toList.extract i j ++ source.toList.drop j) := by
    rw [← List.append_assoc, htake, List.take_append_drop]
  have hsize : s.start + byteSize (source.toList.extract i j) = s.stop := by
    rw [← hfirst, ← byteSize_append, htake, hlast]
  have hbytes := extract_toByteArray hsource
  rw [hfirst, hsize] at hbytes
  rw [hbytes, List.utf8Decode?_utf8Encode]

/-- Every token marks its characters. -/
theorem Scanner.tokens_mark {s : Scanner} (h : At source s) :
    ∀ t ∈ s.tokens, t.span.Marks source := by
  refine tokens_induction (P := fun s ts => At source s → ∀ t ∈ ts, t.span.Marks source) ?_ ?_ s h
  · intro s heof h
    have hstands := (next_standsBehind h).1
    refine List.forall_mem_singleton.2
      (Span.marks_of_isValid hstands.start_valid hstands.stop_valid ?_)
    rw [next_of_eof h heof]
    exact Nat.le_refl _
  · intro s hne ih h
    obtain ⟨hstands, hafter, -⟩ := next_standsBehind h
    refine List.forall_mem_cons.2 ⟨?_, ih hafter⟩
    exact Span.marks_of_isValid hstands.start_valid hstands.stop_valid
      (Nat.le_of_lt (hstands.start_lt hne))

/-! ### Parse errors -/

theorem eofToken_mem {ts : List Token} {t : Token} (ht : t ∈ ts) (hkind : t.kind = .eof) :
    eofToken ts ∈ ts := by
  unfold eofToken
  split
  · rename_i found hfound
    exact List.mem_of_find?_eq_some hfound
  · rename_i hnone
    exact absurd (decide_eq_true hkind) (List.find?_eq_none.1 hnone t ht)

/-- Reading stops at a token of the text, which may be its end. -/
theorem Header.found_mem_of_parse {errors : List ParseError}
    (h : Header.parse source = .error errors) : ∀ e ∈ errors, e.found ∈ tokenize source := by
  obtain ⟨-, herrors⟩ := ofTokens_eq_error.1 h
  intro e he
  have hfound := (Parse.run_statements _ (beforeEof (tokenize source)) le_rfl).found_sublist
    (eofToken (tokenize source))
  rw [← herrors] at hfound
  rcases List.mem_append.1 (hfound.subset (List.mem_map_of_mem he)) with hbefore | heof
  · exact (List.takeWhile_sublist _).subset hbefore
  · obtain ⟨ts, htokens, -⟩ := Scanner.tokens_eq_append (Scanner.at_start 0 source)
    have hend : Scanner.endToken 0 source ∈ tokenize source := by
      rw [tokenize, htokens]
      exact List.mem_append_right ts List.mem_cons_self
    rw [List.mem_singleton.1 heof]
    exact eofToken_mem hend rfl

/-- **Spans are reported at the right characters.**  The span of every token and of every parse
error marks its characters, character offsets never go back, and between two characters they are
the number of characters before. -/
theorem Text.spans_marked (source : String) :
    (∀ file, ∀ t ∈ (Scanner.start file source).tokens, t.span.Marks source) ∧
    (∀ errors, Header.parse source = .error errors → ∀ e ∈ errors, e.span.Marks source) ∧
    (∀ m n, m ≤ n → charOffset source.toList m ≤ charOffset source.toList n) ∧
    ∀ before after : String, source = before ++ after →
      charOffset source.toList before.utf8ByteSize = before.length := by
  have htokens := fun file => Scanner.tokens_mark (Scanner.at_start file source)
  refine ⟨htokens, fun errors herrors e he => ?_, fun m n => charOffset_mono _, ?_⟩
  · exact htokens 0 e.found (Header.found_mem_of_parse herrors e he)
  · rintro before after rfl
    rw [String.toList_append, ← String.utf8Len_toList, ← byteSize_eq, charOffset_append,
      String.length_toList]

/-- A string that does not end, behind a letter of two bytes and with one in it. -/
theorem Text.spans_marked_accent :
    let source := "ß : 'é"
    (⟨.error, ⟨5, 8, 0⟩, "Unterminated string literal"⟩ : Token) ∈ tokenize source ∧
    ∃ e, Header.parse source = .error [e] ∧ e.span = ⟨5, 8, 0⟩ ∧ e.span.Marks source ∧
      source.toList.extract (charOffset source.toList 5) (charOffset source.toList 8) =
        ['\'', 'é'] := by
  have herrors : Header.parse "ß : 'é" = .error
      [⟨.type, ⟨.error, ⟨5, 8, 0⟩, "Unterminated string literal"⟩⟩] := by decide +kernel
  exact ⟨by decide +kernel, _, herrors, rfl,
    (spans_marked "ß : 'é").2.1 _ herrors _ List.mem_cons_self, by decide +kernel⟩

end SigCheck
