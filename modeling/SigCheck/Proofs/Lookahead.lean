import SigCheck.Proofs.Lexing

/-!
# Where a lexeme ends

What stands behind a lexeme tells where it ends: a name ends before a character that is no name
character, a numeral before a point without a digit behind it.  So nothing at all, or anything that
starts with a blank, leaves a lexeme as it is.  This module says so for every class of lexemes, and
for a lexeme that ends anywhere before the place where the text is changed: if the first lexeme of
`s ++ r` leaves `left ++ r` behind, then that of `s ++ b :: t` leaves `left ++ b :: t`, and is the
same lexeme otherwise (`Scan.lexeme_before_blank`).

Only a string literal or a comment without an end (`Scan.IsOpen`) could go on through the blank.
-/

namespace SigCheck

/-! ### Blanks -/

/-- The code points of a table, one by one. -/
def RangeTable.points (t : RangeTable) : List Nat :=
  t.flatMap fun r => List.range' r.1 (r.2 + 1 - r.1)

theorem RangeTable.mem_points {t : RangeTable} {n : Nat} (h : t.contains n = true) :
    n ∈ t.points := by
  obtain ⟨r, hr, hlow, hhigh⟩ := contains_iff.1 h
  refine List.mem_flatMap.2 ⟨r, hr, List.mem_range'_1.2 ⟨hlow, ?_⟩⟩
  omega

namespace Scan

open Text

variable {s r left : Text} {b : Char}

/-- No lexeme but an error holds a blank, unless it is a string. -/
theorem class_of_isBlank (h : isBlank b = true) : isNameChar b = false ∧ b.isDigit = false ∧
    b ∉ ['.', '-', '>', '*', '/', '"', '\'', '\\'] := by
  have hall : ∀ n ∈ blankTable.points, isNameChar (Char.ofNat n) = false ∧
      (Char.ofNat n).isDigit = false ∧
        Char.ofNat n ∉ ['.', '-', '>', '*', '/', '"', '\'', '\\'] := by decide +kernel
  have hb := hall b.toNat (RangeTable.mem_points h)
  rwa [Char.ofNat_toNat] at hb

/-! ### Names and numerals -/

theorem eq_nil_of_suffix {x : Text} (hx : x <:+ r) (h : x = left ++ r) : left = [] ∧ x = r := by
  have hlen := hx.length_le
  rw [h, List.length_append] at hlen
  obtain rfl : left = [] := List.length_eq_zero_iff.1 (by omega)
  exact ⟨rfl, h⟩

theorem span_before {p : Char → Bool} (hp : p b = false)
    (h : (s ++ r).dropWhile p = left ++ r) (t : Text) :
    (s ++ b :: t).takeWhile p = (s ++ r).takeWhile p ∧
      (s ++ b :: t).dropWhile p = left ++ b :: t := by
  induction s with
  | nil =>
    obtain ⟨rfl, hdrop⟩ := eq_nil_of_suffix (List.dropWhile_suffix p) h
    have htake := List.takeWhile_append_dropWhile (p := p) (l := r)
    rw [show r.dropWhile p = r from hdrop] at htake
    have hnil : r.takeWhile p = [] := List.append_left_eq_self.1 htake
    simp [hp, hnil]
  | cons c cs ih =>
    by_cases hc : p c = true
    · rw [List.cons_append, List.dropWhile_cons_of_pos hc] at h
      simpa [hc] using ih h
    · rw [List.cons_append, List.dropWhile_cons_of_neg hc] at h
      obtain rfl : c :: cs = left := List.append_cancel_right h
      simp [hc]

theorem fraction_of_head?_ne (h : s.head? ≠ some '.') : fraction s = ([], s) := by
  unfold fraction
  split
  · exact absurd rfl h
  · rfl

theorem fraction_point (t : Text) : fraction ('.' :: t) =
    if t.takeWhile Char.isDigit = [] then ([], '.' :: t)
    else ('.' :: t.takeWhile Char.isDigit, t.dropWhile Char.isDigit) := by
  cases t with
  | nil => rfl
  | cons c cs => by_cases hc : c.isDigit = true <;> simp [fraction, hc]

theorem fraction_before (hb : isBlank b = true) (h : (fraction (s ++ r)).2 = left ++ r) (t : Text) :
    fraction (s ++ b :: t) = ((fraction (s ++ r)).1, left ++ b :: t) := by
  obtain ⟨-, hdigit, hmarks⟩ := class_of_isBlank hb
  cases s with
  | nil =>
    have hall := fraction_append r
    obtain ⟨rfl, hrest⟩ := eq_nil_of_suffix ⟨_, hall⟩ h
    have hdot : (b :: t).head? ≠ some '.' := by
      rintro ⟨⟩
      exact hmarks (by decide)
    rw [hrest] at hall
    rw [List.nil_append, List.nil_append, fraction_of_head?_ne hdot,
      List.append_left_eq_self.1 hall]
  | cons c cs =>
    by_cases hc : c = '.'
    · subst hc
      rw [List.cons_append, fraction_point] at h ⊢
      rw [List.cons_append, fraction_point]
      by_cases hnone : (cs ++ r).takeWhile Char.isDigit = []
      · -- no digit behind the point, and none with the blank there
        have hdrop := List.takeWhile_append_dropWhile (p := Char.isDigit) (l := cs ++ r)
        rw [hnone, List.nil_append] at hdrop
        obtain ⟨htake, -⟩ := span_before hdigit hdrop t
        rw [if_pos hnone] at h ⊢
        obtain rfl : '.' :: cs = left := List.append_cancel_right h
        rw [htake, if_pos hnone]
        rfl
      · rw [if_neg hnone] at h ⊢
        obtain ⟨htake, hdrop⟩ := span_before hdigit h t
        rw [htake, hdrop, if_neg hnone]
    · have hne : ∀ u : Text, (c :: u).head? ≠ some '.' := by
        intro u heq
        exact hc (Option.some.inj heq)
      rw [List.cons_append, fraction_of_head?_ne (hne _)] at h ⊢
      obtain rfl : c :: cs = left := List.append_cancel_right h
      rw [List.cons_append, fraction_of_head?_ne (hne _)]
      rfl

theorem numeral_before (hb : isBlank b = true) (h : (numeral (s ++ r)).2 = left ++ r) (t : Text) :
    numeral (s ++ b :: t) = ((numeral (s ++ r)).1, left ++ b :: t) := by
  -- the digits end inside `s` too, since the fraction does
  have hsuffix : r <:+ (s ++ r).dropWhile Char.isDigit := by
    refine (List.suffix_append left r).trans ?_
    rw [← h]
    exact ⟨_, fraction_append _⟩
  obtain ⟨mid, hmid⟩ := hsuffix
  obtain ⟨htake, hdrop⟩ := span_before (class_of_isBlank hb).2.1 hmid.symm t
  simp only [numeral, ← hmid] at h
  simp only [numeral, htake, hdrop, ← hmid, fraction_before hb h t]

/-- The lexeme with something else behind it. -/
def Lexeme.withRest (l : Lexeme) (t : Text) : Lexeme := { l with rest := t }

theorem number_eq {c : Char} (h : c ≠ '-') (cs : Text) : number (c :: cs) =
    ⟨.number, (numeral (c :: cs)).1, (numeral (c :: cs)).1, (numeral (c :: cs)).2⟩ := by
  unfold number
  split
  · rename_i heq
    exact absurd (List.cons.inj heq).1 h
  · rfl

theorem number_before (hb : isBlank b = true) {c : Char}
    (h : (number (c :: (s ++ r))).rest = left ++ r) (t : Text) :
    number (c :: (s ++ b :: t)) = (number (c :: (s ++ r))).withRest (left ++ b :: t) := by
  by_cases hc : c = '-'
  · subst hc
    simp only [number, Lexeme.withRest] at h ⊢
    rw [numeral_before hb h t]
  · rw [number_eq hc] at h ⊢
    rw [number_eq hc, ← List.cons_append, numeral_before hb h t]
    rfl

theorem word_before (hb : isBlank b = true) (h : (word (s ++ r)).rest = left ++ r) (t : Text) :
    word (s ++ b :: t) = (word (s ++ r)).withRest (left ++ b :: t) := by
  obtain ⟨htake, hdrop⟩ := span_before (class_of_isBlank hb).1 h t
  simp only [word, Lexeme.withRest, htake, hdrop]

/-! ### Strings -/

section quoted

variable {quote : Char}

theorem quoted_close (cs : Text) : quoted quote (quote :: cs) = ⟨[], [quote], cs, true⟩ := by
  rw [quoted.eq_def]
  exact if_pos rfl

theorem quoted_line (h : '\n' ≠ quote) (cs : Text) :
    quoted quote ('\n' :: cs) = ⟨[], [], '\n' :: cs, false⟩ := by
  rw [quoted.eq_def]
  simp [h]

theorem quoted_backslash (h : '\\' ≠ quote) : quoted quote ['\\'] = ⟨[], ['\\'], [], false⟩ := by
  rw [quoted.eq_def]
  simp [h]

theorem quoted_escape (h : '\\' ≠ quote) (e : Char) (es : Text) :
    quoted quote ('\\' :: e :: es) = (quoted quote es).cons (unescape e) ['\\', e] := by
  rw [quoted.eq_def]
  simp [h]

theorem quoted_plain {c : Char} (hquote : c ≠ quote) (hline : c ≠ '\n') (hslash : c ≠ '\\')
    (cs : Text) : quoted quote (c :: cs) = (quoted quote cs).cons c [c] := by
  rw [quoted.eq_def]
  simp [hquote, hline, hslash]

theorem quoted_rest_suffix (t : Text) : (quoted quote t).rest <:+ t := ⟨_, quoted_append quote t⟩

theorem quoted_text_ne_nil (h : (quoted quote s).closed = true) : (quoted quote s).text ≠ [] := by
  fun_induction quoted quote s with
  | case1 => cases h
  | case2 => exact List.cons_ne_nil _ _
  | case3 => cases h
  | case4 => exact List.cons_ne_nil _ _
  | case5 => exact List.cons_ne_nil _ _
  | case6 => exact List.cons_ne_nil _ _

/-- Nothing that stands behind the end of a string counts. -/
theorem quoted_before (h : (quoted quote (s ++ r)).rest = left ++ r)
    (hend : left ≠ [] ∨ (quoted quote (s ++ r)).closed = true) (t : Text) :
    quoted quote (s ++ t) = { quoted quote (s ++ r) with rest := left ++ t } := by
  fun_induction quoted quote s with
  | case1 =>
    obtain ⟨rfl, hrest⟩ := eq_nil_of_suffix (quoted_rest_suffix r) h
    have hall := quoted_append quote r
    rw [hrest] at hall
    exact absurd (List.append_left_eq_self.1 hall)
      (quoted_text_ne_nil (hend.resolve_left (absurd rfl)))
  | case2 cs =>
    rw [List.cons_append, quoted_close] at h ⊢
    obtain rfl : cs = left := List.append_cancel_right h
    rw [List.cons_append, quoted_close]
  | case3 cs hquote =>
    rw [List.cons_append, quoted_line hquote] at h ⊢
    obtain rfl : '\n' :: cs = left := List.append_cancel_right h
    rw [List.cons_append, quoted_line hquote]
    rfl
  | case4 hquote =>
    -- the backslash would escape what follows it
    cases r with
    | nil =>
      rw [List.append_nil, quoted_backslash hquote] at h hend
      rcases hend with hne | hclosed
      · exact absurd (List.append_eq_nil_iff.1 h.symm).1 hne
      · cases hclosed
    | cons e es =>
      rw [List.singleton_append, quoted_escape hquote] at h
      have hle : (quoted quote es).rest.length ≤ es.length := (quoted_rest_suffix es).length_le
      have hlen : (quoted quote es).rest.length = _ := congrArg List.length h
      rw [List.length_append, List.length_cons] at hlen
      omega
  | case5 e es hquote _ ih =>
    rw [List.cons_append, List.cons_append, quoted_escape hquote] at h hend ⊢
    rw [List.cons_append, List.cons_append, quoted_escape hquote, ih h hend]
    rfl
  | case6 c cs hquote hline hslash ih =>
    rw [List.cons_append, quoted_plain hquote hline hslash] at h hend ⊢
    rw [List.cons_append, quoted_plain hquote hline hslash, ih h hend]
    rfl

end quoted

/-! ### Lexemes -/

/-- The string literal or comment that starts with `c` before `cs` has no end. -/
def IsOpen (c : Char) (cs : Text) : Prop :=
  (c = '"' ∨ c = '\'') ∧ (quoted c cs).closed = false ∨ c = '/' ∧ cs.head? = some '*'

instance (c : Char) (cs : Text) : Decidable (IsOpen c cs) := inferInstanceAs (Decidable (_ ∨ _))

theorem string_before {quote : Char} (h : (string quote (s ++ r)).rest = left ++ r)
    (hend : left ≠ [] ∨ (quoted quote (s ++ r)).closed = true) (t : Text) :
    string quote (s ++ t) = (string quote (s ++ r)).withRest (left ++ t) := by
  have hrest : (quoted quote (s ++ r)).rest = left ++ r := by
    rw [← h, string]
    split <;> rfl
  simp only [string, quoted_before hrest hend t]
  split <;> rfl

theorem symbol_eq {c : Char} (h : punctuation? c = none) (cs : Text) : symbol c cs =
    if c = '=' ∧ cs.head? = some '>' then ⟨.arrow, ['=', '>'], ['=', '>'], cs.tail⟩
    else if c = '/' ∧ cs.head? = some '*' then ⟨.error, unterminatedComment, '/' :: cs, []⟩
    else ⟨.error, unexpected c, [c], cs⟩ := by
  unfold symbol
  rw [h]
  dsimp only
  split
  · rfl
  · rfl
  · rename_i harrow hcomment
    rw [if_neg, if_neg]
    · rintro ⟨rfl, hhead⟩
      obtain ⟨ds, rfl⟩ := List.head?_eq_some_iff.1 hhead
      exact hcomment ds rfl rfl
    · rintro ⟨rfl, hhead⟩
      obtain ⟨ds, rfl⟩ := List.head?_eq_some_iff.1 hhead
      exact harrow ds rfl rfl

theorem symbol_comment {cs : Text} (h : cs.head? = some '*') :
    symbol '/' cs = ⟨.error, unterminatedComment, '/' :: cs, []⟩ := by
  rw [symbol_eq rfl, if_neg (fun harrow => absurd harrow.1 (by decide)), if_pos ⟨rfl, h⟩]

theorem head?_before {d : Char} (hd : b ≠ d) (h : (s ++ r).head? ≠ some d) (t : Text) :
    (s ++ b :: t).head? ≠ some d := by
  cases s with
  | nil =>
    intro heq
    exact hd (Option.some.inj heq)
  | cons c cs => exact h

theorem symbol_before (hb : isBlank b = true) {c : Char}
    (hopen : ¬(c = '/' ∧ (s ++ r).head? = some '*')) (h : (symbol c (s ++ r)).rest = left ++ r)
    (t : Text) : symbol c (s ++ b :: t) = (symbol c (s ++ r)).withRest (left ++ b :: t) := by
  obtain ⟨-, -, hmarks⟩ := class_of_isBlank hb
  have hmark : ∀ d ∈ ['.', '-', '>', '*', '/', '"', '\'', '\\'], b ≠ d := by
    rintro d hd rfl
    exact hmarks hd
  cases hp : punctuation? c with
  | some kind =>
    have hsymbol : ∀ u, symbol c u = ⟨kind, [c], [c], u⟩ := fun u => by simp [symbol, hp]
    rw [hsymbol] at h ⊢
    obtain rfl : s = left := List.append_cancel_right h
    rw [hsymbol]
    rfl
  | none =>
    rw [symbol_eq hp] at h ⊢
    rw [symbol_eq hp]
    by_cases harrow : c = '=' ∧ (s ++ r).head? = some '>'
    · rw [if_pos harrow] at h ⊢
      cases s with
      | nil =>
        obtain ⟨rs, rfl⟩ := List.head?_eq_some_iff.1 harrow.2
        have hlen : rs.length = _ := congrArg List.length h
        rw [List.length_append, List.length_cons] at hlen
        omega
      | cons d ds =>
        have harrow' : c = '=' ∧ (d :: ds ++ b :: t).head? = some '>' := harrow
        obtain rfl : ds = left := List.append_cancel_right h
        rw [if_pos harrow']
        rfl
    · have harrow' : ¬(c = '=' ∧ (s ++ b :: t).head? = some '>') := fun hand =>
        head?_before (hmark '>' (by decide)) (fun heq => harrow ⟨hand.1, heq⟩) t hand.2
      have hopen' : ¬(c = '/' ∧ (s ++ b :: t).head? = some '*') := fun hand =>
        head?_before (hmark '*' (by decide)) (fun heq => hopen ⟨hand.1, heq⟩) t hand.2
      rw [if_neg harrow, if_neg hopen] at h ⊢
      obtain rfl : s = left := List.append_cancel_right h
      rw [if_neg harrow', if_neg hopen']
      rfl

theorem lexeme_of_quote {c : Char} (h : c = '"' ∨ c = '\'') (cs : Text) :
    lexeme c cs = string c cs := if_pos h

theorem lexeme_slash (cs : Text) : lexeme '/' cs = symbol '/' cs := by
  simp [lexeme, startsNumber, show isNameStart '/' = false by decide]

/-- A string literal or comment without an end is an error, whose text does not depend on how far it
goes. -/
theorem lexeme_of_isOpen {c : Char} {cs : Text} (h : IsOpen c cs) : (lexeme c cs).kind = .error ∧
    (lexeme c cs).value = if c = '/' then unterminatedComment else unterminatedString := by
  rcases h with ⟨hquote, hclosed⟩ | ⟨rfl, hstar⟩
  · have hslash : c ≠ '/' := by
      rcases hquote with rfl | rfl <;> decide
    simp [lexeme_of_quote hquote, string, hclosed, hslash]
  · rw [lexeme_slash, symbol_comment hstar]
    exact ⟨rfl, rfl⟩

theorem startsNumber_before (hb : isBlank b = true) {c : Char}
    (h : (lexeme c (s ++ r)).rest = left ++ r) (t : Text) :
    startsNumber c (s ++ b :: t) = startsNumber c (s ++ r) := by
  cases s with
  | cons d ds => rfl
  | nil =>
    -- a sign before a digit would not end before it
    have hsign : ¬(c = '-' ∧ r.head?.any Char.isDigit = true) := by
      rintro ⟨rfl, hdigit⟩
      obtain ⟨d, hhead, hd⟩ := (Option.any_eq_true _ _).1 hdigit
      obtain ⟨ds, rfl⟩ := List.head?_eq_some_iff.1 hhead
      have hnumber : lexeme '-' (d :: ds) = number ('-' :: d :: ds) := by
        simp [lexeme, startsNumber, hd]
      rw [List.nil_append, hnumber] at h
      have hall := numeral_append (d :: ds)
      obtain ⟨-, hrest⟩ := eq_nil_of_suffix ⟨_, hall⟩ h
      rw [show (numeral (d :: ds)).2 = d :: ds from hrest] at hall
      have hnil := List.append_left_eq_self.1 hall
      simp [numeral, hd] at hnil
    have hb' : b.isDigit = false := (class_of_isBlank hb).2.1
    by_cases hc : c = '-' <;> simp_all [startsNumber]

/-- **A blank ends every lexeme**: what stands behind the end of a lexeme may be replaced by a blank
and any text behind it. -/
theorem lexeme_before_blank (hb : isBlank b = true) {c : Char}
    (h : (lexeme c (s ++ r)).rest = left ++ r) (hopen : left ≠ [] ∨ ¬IsOpen c (s ++ r)) (t : Text) :
    lexeme c (s ++ b :: t) = (lexeme c (s ++ r)).withRest (left ++ b :: t) := by
  have hnumber := startsNumber_before hb h t
  unfold lexeme at h ⊢
  rw [hnumber]
  split
  · rename_i hquote
    rw [if_pos hquote] at h
    refine string_before h (hopen.imp_right fun hopen => ?_) (b :: t)
    by_contra hclosed
    exact hopen (.inl ⟨hquote, Bool.eq_false_iff.2 hclosed⟩)
  · rename_i hquote
    rw [if_neg hquote] at h
    split
    · rename_i hstarts
      rw [if_pos hstarts] at h
      exact number_before hb h t
    · rename_i hstarts
      rw [if_neg hstarts] at h
      split
      · rename_i hname
        rw [if_pos hname] at h
        exact word_before (s := c :: s) hb h t
      · rename_i hname
        rw [if_neg hname] at h
        refine symbol_before hb (fun hcomment => ?_) h t
        rcases hopen with hne | hopen
        · obtain ⟨rfl, hhead⟩ := hcomment
          rw [symbol_comment hhead] at h
          exact hne (List.append_eq_nil_iff.1 h.symm).1
        · exact hopen (.inr hcomment)

/-! ### Gaps, item by item -/

/-- The ways to be a gap item: a blank, a comment to the end of the line, or a closed comment. -/
theorem gapItem?_cases {item rest : Text} (h : gapItem? t = some (item, rest)) :
    (∃ c, isBlank c = true ∧ t = c :: rest) ∨
    (∃ c cs, (c = '-' ∨ c = '/') ∧ t = c :: c :: cs ∧ rest = (throughLine cs).2) ∨
      ∃ cs inside, t = '/' :: '*' :: cs ∧ throughClose cs = some (inside, rest) := by
  unfold gapItem? at h
  split at h
  · cases h
  · split at h
    · cases h
      exact .inl ⟨_, ‹_›, rfl⟩
    · split at h
      · cases h
        exact .inr (.inl ⟨_, _, .inl rfl, rfl, rfl⟩)
      · cases h
        exact .inr (.inl ⟨_, _, .inr rfl, rfl, rfl⟩)
      · simp only [Option.map_eq_some_iff, Prod.mk.injEq] at h
        obtain ⟨⟨inside, after⟩, hclose, -, rfl⟩ := h
        exact .inr (.inr ⟨_, inside, rfl, hclose⟩)
      · cases h

theorem gapItem?_of_isBlank {c : Char} (h : isBlank c = true) (cs : Text) :
    gapItem? (c :: cs) = some ([c], cs) := by
  simp [gapItem?, h]

theorem gapItem?_lineComment {c : Char} (h : c = '-' ∨ c = '/') (cs : Text) :
    gapItem? (c :: c :: cs) = some (c :: c :: (throughLine cs).1, (throughLine cs).2) := by
  rcases h with rfl | rfl
  · simp [gapItem?, show isBlank '-' = false by decide]
  · simp [gapItem?, show isBlank '/' = false by decide]

theorem gapItem?_closedComment {cs inside rest : Text} (h : throughClose cs = some (inside, rest)) :
    gapItem? ('/' :: '*' :: cs) = some ('/' :: '*' :: inside, rest) := by
  simp [gapItem?, show isBlank '/' = false by decide, h]

theorem length_rest_lt_of_gapItem? {item rest : Text} (h : gapItem? t = some (item, rest)) :
    rest.length < t.length := by
  rcases gapItem?_cases h with ⟨c, -, rfl⟩ | ⟨c, cs, -, rfl, rfl⟩ | ⟨cs, inside, rfl, hclose⟩
  · simp
  · have hlen := congrArg List.length (throughLine_append cs)
    simp only [List.length_append, List.length_cons] at hlen ⊢
    omega
  · have hlen := congrArg List.length (throughClose_append hclose)
    simp only [List.length_append, List.length_cons] at hlen ⊢
    omega

theorem gapItems_eq_of_le {n m : Nat} (hn : t.length ≤ n) (hm : t.length ≤ m) :
    gapItems n t = gapItems m t := by
  induction n generalizing m t with
  | zero =>
    obtain rfl : t = [] := List.length_eq_zero_iff.1 (by omega)
    cases m <;> rfl
  | succ n ih =>
    cases m with
    | zero =>
      obtain rfl : t = [] := List.length_eq_zero_iff.1 (by omega)
      rfl
    | succ m =>
      simp only [gapItems]
      cases h : gapItem? t with
      | none => rfl
      | some found =>
        obtain ⟨item, rest⟩ := found
        have := length_rest_lt_of_gapItem? h
        simp only
        rw [ih (m := m) (by omega) (by omega)]

theorem gapItem?_gapItems {t : Text} {n : Nat} (hn : t.length ≤ n) :
    gapItem? (gapItems n t).2 = none := by
  induction n generalizing t with
  | zero =>
    obtain rfl : t = [] := List.length_eq_zero_iff.1 (by omega)
    rfl
  | succ n ih =>
    simp only [gapItems]
    cases h : gapItem? t with
    | none => exact h
    | some found =>
      obtain ⟨item, rest⟩ := found
      have := length_rest_lt_of_gapItem? h
      exact ih (by omega)

theorem gapItem?_gap (t : Text) : gapItem? (gap t).2 = none := gapItem?_gapItems le_rfl

theorem gap_eq_of_gapItem? {item rest : Text} (h : gapItem? t = some (item, rest)) :
    (gap t).2 = (gap rest).2 := by
  have hlt := length_rest_lt_of_gapItem? h
  obtain ⟨n, hn⟩ : ∃ n, t.length = n + 1 := ⟨t.length - 1, by omega⟩
  simp only [gap, hn, gapItems, h]
  rw [gapItems_eq_of_le (m := rest.length) (by omega) le_rfl]

theorem lexes_iff_of_gapItem? {item rest : Text} (h : gapItem? t = some (item, rest)) :
    Lexes t ws ↔ Lexes rest ws := by
  have hgap := gap_eq_of_gapItem? h
  constructor <;> intro hlexes
  · cases hlexes with
    | nil hnil => exact .nil (hgap ▸ hnil)
    | cons hcons hrest => exact .cons (hgap ▸ hcons) hrest
  · cases hlexes with
    | nil hnil => exact .nil (hgap.trans hnil)
    | cons hcons hrest => exact .cons (hgap.trans hcons) hrest

/-! ### Where gap items end -/

theorem throughLine_cases (t : Text) :
    (∃ inside, '\n' ∉ inside ∧ (throughLine t).1 = inside ++ ['\n']) ∨
      '\n' ∉ t ∧ throughLine t = (t, []) := by
  induction t with
  | nil => exact .inr ⟨List.not_mem_nil, rfl⟩
  | cons c cs ih =>
    by_cases hc : c = '\n'
    · exact .inl ⟨[], List.not_mem_nil, by simp [throughLine, hc]⟩
    · rcases ih with ⟨inside, hinside, htext⟩ | ⟨hcs, htext⟩
      · refine .inl ⟨c :: inside, ?_, by simp [throughLine, hc, htext]⟩
        exact List.not_mem_cons_of_ne_of_not_mem (Ne.symm hc) hinside
      · refine .inr ⟨?_, by simp [throughLine, hc, htext]⟩
        exact List.not_mem_cons_of_ne_of_not_mem (Ne.symm hc) hcs

theorem throughLine_inside {inside : Text} (h : '\n' ∉ inside) (t : Text) :
    throughLine (inside ++ t) = (inside ++ (throughLine t).1, (throughLine t).2) := by
  induction inside with
  | nil => rfl
  | cons c cs ih =>
    obtain ⟨hc, hcs⟩ := not_or.1 (mt List.mem_cons.2 h)
    simp [throughLine, Ne.symm hc, ih hcs]

theorem throughClose_ne_nil {t inside rest : Text} (h : throughClose t = some (inside, rest)) :
    inside ≠ [] := by
  cases t with
  | nil => cases h
  | cons c cs =>
    simp only [throughClose] at h
    split at h
    · cases h
      exact List.cons_ne_nil _ _
    · simp only [Option.map_eq_some_iff, Prod.mk.injEq] at h
      obtain ⟨_, _, rfl, _⟩ := h
      exact List.cons_ne_nil _ _

theorem throughClose_inside {cs inside rest : Text} (h : throughClose cs = some (inside, rest))
    (t : Text) : throughClose (inside ++ t) = some (inside, t) := by
  induction cs generalizing inside with
  | nil => cases h
  | cons c cs ih =>
    simp only [throughClose] at h
    split at h
    · rename_i hclose
      obtain ⟨rfl, hhead⟩ := hclose
      obtain ⟨cs, rfl⟩ := List.head?_eq_some_iff.1 hhead
      cases h
      simp [throughClose]
    · rename_i hopen
      simp only [Option.map_eq_some_iff, Prod.mk.injEq] at h
      obtain ⟨⟨inside', rest'⟩, h', rfl, rfl⟩ := h
      -- the character behind `c` is the same as before
      have hopen' : ¬(c = '*' ∧ (inside' ++ t).head? = some '/') := by
        obtain ⟨d, ds, hinside⟩ := List.exists_cons_of_ne_nil (throughClose_ne_nil h')
        rw [← throughClose_append h', hinside] at hopen
        rw [hinside]
        exact hopen
      rw [List.cons_append, throughClose, if_neg hopen', ih h']
      rfl

/-- What stands behind the end of a gap item does not count.  A comment to the end of the line that
is the end of the text goes on through the line that follows. -/
theorem gapItem?_before {item : Text} (h : gapItem? (s ++ r) = some (item, left ++ r)) :
    (∀ t, gapItem? (s ++ t) = some (item, left ++ t)) ∨
      left = [] ∧ r = [] ∧ ∀ t, ∃ item', gapItem? (s ++ t) = some (item', (throughLine t).2) := by
  have hitem : s = item ++ left := by
    have hall := gapItem?_append h
    rw [← List.append_assoc] at hall
    exact (List.append_cancel_right hall).symm
  rw [hitem]
  rcases gapItem?_cases h with ⟨c, hc, heq⟩ | ⟨c, cs, hc, heq, hrest⟩ | ⟨cs, inside, heq, hclose⟩
  · rw [heq, gapItem?_of_isBlank hc] at h
    obtain rfl : [c] = item := congrArg Prod.fst (Option.some.inj h)
    exact .inl fun t => gapItem?_of_isBlank hc _
  · rw [heq, gapItem?_lineComment hc] at h
    obtain rfl : c :: c :: (throughLine cs).1 = item := congrArg Prod.fst (Option.some.inj h)
    rcases throughLine_cases cs with ⟨inside, hinside, htext⟩ | ⟨hcs, htext⟩
    · left
      intro t
      have hline := throughLine_inside hinside ('\n' :: (left ++ t))
      rw [htext]
      simpa [throughLine, hline] using gapItem?_lineComment hc (inside ++ '\n' :: (left ++ t))
    · right
      rw [htext] at hrest ⊢
      obtain ⟨rfl, rfl⟩ := List.append_eq_nil_iff.1 hrest
      refine ⟨rfl, rfl, fun t => ⟨c :: c :: (throughLine (cs ++ t)).1, ?_⟩⟩
      rw [List.append_nil, List.cons_append, List.cons_append, gapItem?_lineComment hc,
        throughLine_inside hcs]
  · rw [heq, gapItem?_closedComment hclose] at h
    obtain rfl : '/' :: '*' :: inside = item := congrArg Prod.fst (Option.some.inj h)
    left
    intro t
    rw [List.append_assoc]
    exact gapItem?_closedComment (throughClose_inside hclose _)

/-- No gap item starts where a lexeme does, also with a blank behind it. -/
theorem gapItem?_before_eq_none (hb : isBlank b = true) {c : Char}
    (hgap : gapItem? (c :: (s ++ r)) = none) (hopen : ¬(c = '/' ∧ (s ++ r).head? = some '*'))
    (t : Text) : gapItem? (c :: (s ++ b :: t)) = none := by
  obtain ⟨-, -, hmarks⟩ := class_of_isBlank hb
  cases hnew : gapItem? (c :: (s ++ b :: t)) with
  | none => rfl
  | some found =>
    obtain ⟨item, rest⟩ := found
    rcases gapItem?_cases hnew with ⟨d, hd, heq⟩ | ⟨d, ds, hd, heq, -⟩ | ⟨ds, inside, heq, -⟩
    · obtain ⟨rfl, -⟩ := List.cons.inj heq
      rw [gapItem?_of_isBlank hd] at hgap
      cases hgap
    · obtain ⟨rfl, heq⟩ := List.cons.inj heq
      cases s with
      | nil =>
        obtain ⟨rfl, -⟩ := List.cons.inj heq
        rcases hd with rfl | rfl <;> exact absurd (by decide) hmarks
      | cons e es =>
        obtain ⟨rfl, -⟩ := List.cons.inj heq
        rw [List.cons_append, gapItem?_lineComment hd] at hgap
        cases hgap
    · obtain ⟨rfl, hbehind⟩ := List.cons.inj heq
      cases s with
      | nil =>
        obtain ⟨rfl, -⟩ := List.cons.inj hbehind
        exact absurd (by decide) hmarks
      | cons e es =>
        obtain ⟨rfl, -⟩ := List.cons.inj hbehind
        exact absurd ⟨rfl, rfl⟩ hopen

end Scan

end SigCheck
