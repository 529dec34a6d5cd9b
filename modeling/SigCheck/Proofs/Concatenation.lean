import SigCheck.Proofs.Lookahead
import SigCheck.Proofs.RoundTrip

/-!
# Headers one after the other

Two headers that can be read can also be read as one text, with a line feed between them, and the
statements of the two are then the statements of the whole (`Header.parse_append`).  Nothing at the
end of the first text reaches into the second:

* a comment that is still open ends at the line feed, and so does every other gap or lexeme, unless
  it is an error (`Scan.Lexes.append_line`);
* a header that can be read has no error among its words (`Grammar.Derives.noError`);
* the statements of two derivations have one derivation together (`Grammar.Derives.append_header`),
  since a statement starts with a name, with which no type can go on.
-/

namespace SigCheck

namespace Scan

open Text

variable {s t : Text} {ws us : List Word}

/-! ### A line feed ends every gap item and every lexeme -/

/-- In front of a line feed, a gap item is read as before, or it is the last one, a comment that the
line feed ends. -/
theorem gapItem?_append_line {item rest : Text} (h : gapItem? s = some (item, rest)) (t : Text) :
    (∃ item', gapItem? (s ++ '\n' :: t) = some (item', rest ++ '\n' :: t)) ∨
      rest = [] ∧ ∃ item', gapItem? (s ++ '\n' :: t) = some (item', t) := by
  rw [← s.append_nil, ← rest.append_nil] at h
  rcases gapItem?_before h with hnew | ⟨hrest, -, hnew⟩
  · exact .inl ⟨item, hnew _⟩
  · exact .inr ⟨hrest, hnew ('\n' :: t)⟩

/-- The lexeme with `t` behind what follows it. -/
def Lexeme.before (l : Lexeme) (t : Text) : Lexeme := { l with rest := l.rest ++ t }

theorem string_append {quote : Char} (h : (string quote s).kind ≠ .error) (t : Text) :
    string quote (s ++ t) = (string quote s).before t := by
  have hclosed : (quoted quote s).closed = true := by
    by_contra hopen
    simp [string, hopen] at h
  have hrest : (string quote (s ++ [])).rest = (string quote s).rest ++ [] := by
    rw [List.append_nil, List.append_nil]
  have hstring := string_before hrest (.inr (by rwa [List.append_nil])) t
  rwa [List.append_nil] at hstring

/-- A lexeme that is no error is the same in front of a line feed. -/
theorem lexeme_append_line {c : Char} (h : (lexeme c s).kind ≠ .error) (t : Text) :
    lexeme c (s ++ '\n' :: t) = (lexeme c s).before ('\n' :: t) := by
  have hrest : (lexeme c (s ++ [])).rest = (lexeme c s).rest ++ [] := by
    rw [List.append_nil, List.append_nil]
  have hopen : ¬IsOpen c (s ++ []) := by
    rw [List.append_nil]
    exact fun hopen => h (lexeme_of_isOpen hopen).1
  have hlexeme := lexeme_before_blank (b := '\n') (by decide) hrest (.inr hopen) t
  rwa [List.append_nil] at hlexeme

/-- In front of a line feed, no gap item starts where a lexeme that is no error does. -/
theorem gapItem?_append_line_eq_none {c : Char} (hgap : gapItem? (c :: s) = none)
    (h : (lexeme c s).kind ≠ .error) (t : Text) : gapItem? (c :: (s ++ '\n' :: t)) = none := by
  rw [← s.append_nil] at hgap
  refine gapItem?_before_eq_none (by decide) hgap (fun hcomment => ?_) t
  rw [List.append_nil] at hcomment
  exact h (lexeme_of_isOpen (.inr hcomment)).1

/-- No word is an error. -/
def NoError (ws : List Word) : Prop := ∀ w ∈ ws, w.1 ≠ .error

@[simp] theorem noError_nil : NoError [] := by simp [NoError]

@[simp] theorem noError_cons {w : Word} : NoError (w :: ws) ↔ w.1 ≠ .error ∧ NoError ws :=
  List.forall_mem_cons

@[simp] theorem noError_append : NoError (ws ++ us) ↔ NoError ws ∧ NoError us :=
  List.forall_mem_append

/-- **A line feed starts the reading anew**: the words of a text in which nothing is an error stay
the same in front of a line feed, and the words of what follows stand behind them. -/
theorem Lexes.append_line (hs : Lexes s ws) (herror : NoError ws) (ht : Lexes t us) :
    Lexes (s ++ '\n' :: t) (ws ++ us) := by
  -- by induction on what is left of `s`, one gap item or lexeme at a time
  induction hn : s.length using Nat.strongRecOn generalizing s ws with
  | ind n ih =>
    subst hn
    cases hgap : gapItem? s with
    | some found =>
      obtain ⟨item, rest⟩ := found
      have hrest : Lexes rest ws := (lexes_iff_of_gapItem? hgap).1 hs
      rcases gapItem?_append_line hgap t with ⟨item', hnew⟩ | ⟨rfl, item', hnew⟩
      · exact (lexes_iff_of_gapItem? hnew).2
          (ih _ (length_rest_lt_of_gapItem? hgap) hrest herror rfl)
      · obtain rfl : ws = [] := List.length_eq_zero_iff.1 (Nat.le_zero.1 hrest.length_le)
        exact (lexes_iff_of_gapItem? hnew).2 ht
    | none =>
      cases s with
      | nil =>
        obtain rfl : ws = [] := List.length_eq_zero_iff.1 (Nat.le_zero.1 hs.length_le)
        exact ht.cons_of_isBlank (by decide)
      | cons c cs =>
        obtain ⟨ws, rfl, hrest⟩ := hs.exists_of_lexeme hgap
        obtain ⟨hkind, herror⟩ := noError_cons.1 herror
        have hlexes := ih _ (length_lexeme_rest_lt c cs) hrest herror rfl
        have hnew := lexeme_append_line hkind t
        exact .of_lexeme (l := (lexeme c cs).before ('\n' :: t))
          (gapItem?_append_line_eq_none hgap hkind t) hnew hlexes

end Scan

namespace Grammar

open Scan

variable {α : Type} {longest : Bool} {e e' : Ending} {ws us : List Word}

/-! ### Derivations have no errors -/

section words

variable {separator : TokenKind} {separators : List TokenKind} {item : Forms α} {as : List α}
  (hi : ∀ a e ws, item a e ws → NoError ws)
include hi

theorem Members.noError (hs : separator ≠ .error) (h : Members longest separator item as e ws) :
    NoError ws := by
  induction h with
  | last h => exact hi _ _ _ h
  | more h _ _ ih => simp [hi _ _ _ h, hs, ih]

theorem Listed.noError (hs : .error ∉ separators) (h : Listed separators item as ws) :
    NoError ws := by
  induction h with
  | nil => simp
  | last h => exact hi _ _ _ h
  | @more _ _ _ kind _ _ _ h hk _ ih =>
    have hkind : kind ≠ .error := by
      rintro rfl
      exact hs hk
    simp [hi _ _ _ h, hkind, ih]

end words

theorem Name.noError {v : String} (h : Name v e ws) : NoError ws := by
  cases h <;> simp

theorem Key.noError {v : String} (h : Key v e ws) : NoError ws := by
  cases h with
  | name h => exact h.noError
  | string => simp

theorem Maybe.noError {kind : TokenKind} {b : Bool} (hk : kind ≠ .error) (h : Maybe kind b ws) :
    NoError ws := by
  cases h <;> simp [hk]

theorem Params.noError {names : List String} (h : Params names ws) : NoError ws := by
  cases h with
  | absent => simp
  | present h => simp [h.noError (fun _ _ _ => Name.noError) (by decide)]

/-- **No phrase has an error among its words.** -/
theorem Derives.noError {p : Phrase} (h : Derives longest p e ws) : NoError ws := by
  induction h with
  | rule _ h ih =>
    cases h with
    | type h => exact ih _ _ _ h
    | union h _ => exact h.noError (fun _ => ih _) (by decide)
    | member h => exact ih _ _ _ h
    | intersection h _ => exact h.noError (fun _ => ih _) (by decide)
    | boolean | named | string | number => simp
    | generic _ h => simp [h.noError (fun _ => ih _) (by decide)]
    | object h => simp [h.noError (fun _ => ih _) (by decide)]
    | tuple h => simp [h.noError (fun _ => ih _) (by decide)]
    | function h _ hresult =>
      simp [h.noError (fun _ => ih _) (by decide), ih _ _ _ hresult]
    | method h _ hresult =>
      simp [h.noError (fun _ => ih _) (by decide), ih _ _ _ hresult]
    | parenthesis h hc => simp [ih _ _ _ h, hc.noError (by decide)]
    | field hk hq ht => simp [hk.noError, hq.noError (by decide), ih _ _ _ ht]
    | argument h => exact ih _ _ _ h
    | labelled hn hq ht => simp [hn.noError, hq.noError (by decide), ih _ _ _ ht]
    | imports h => simp [h.noError (fun _ _ _ => Name.noError) (by decide)]
    | declares hn hp ht => simp [hn.noError, hp.noError, ih _ _ _ ht]
    | assigns hn ht => simp [hn.noError, ih _ _ _ ht]
    | nil => simp
    | cons h hs rest => simp [ih _ _ _ h, hs.noError (by decide), ih _ _ _ rest]

/-- The statements of two headers have one derivation together. -/
theorem Derives.append_header {ss ss' : List Statement} (h : Derives longest (.header ss) e ws)
    (h' : Derives longest (.header ss') .closed us) :
    Derives longest (.header (ss ++ ss')) .closed (ws ++ us) := by
  induction ss generalizing e ws with
  | nil =>
    cases h with
    | rule _ h =>
      cases h
      exact h'
  | cons s ss ih =>
    cases h with
    | rule hsub h =>
      cases h with
      | cons hs hsemi hrest =>
        rw [List.append_assoc, List.append_assoc]
        exact .of (.cons (hsub _ _ _ hs) hsemi (ih (hsub _ _ _ hrest)))

end Grammar

namespace Header

open Grammar Scan

/-- A header is read from the words of its text. -/
theorem parse_eq_ok_iff {source : String} {h : Header} : Header.parse source = .ok h ↔
    ∃ ws, Lexes source.toList ws ∧ Derives true (.header h.statements) .closed ws := by
  obtain ⟨ws, hws⟩ := exists_lexes source.toList
  have hwords : (beforeEof (tokenize source)).map Token.word = ws :=
    map_word_beforeEof hws.map_word_tokenize hws.kind_ne_eof
  rw [parse, ofTokens_eq_ok_iff, hwords]
  constructor
  · exact fun hd => ⟨ws, hws, hd⟩
  · rintro ⟨us, hus, hd⟩
    rw [← map_word_beforeEof hus.map_word_tokenize hus.kind_ne_eof, hwords] at hd
    exact hd

/-- **Reading headers one after the other** gives the statements of the first and then those of the
second, whatever the first text ends with. -/
theorem parse_append (source₁ source₂ : String) (h₁ h₂ : Header)
    (hparse₁ : Header.parse source₁ = .ok h₁) (hparse₂ : Header.parse source₂ = .ok h₂) :
    Header.parse (source₁ ++ "\n" ++ source₂) = .ok ⟨h₁.statements ++ h₂.statements⟩ := by
  obtain ⟨ws₁, hlexes₁, hd₁⟩ := parse_eq_ok_iff.1 hparse₁
  obtain ⟨ws₂, hlexes₂, hd₂⟩ := parse_eq_ok_iff.1 hparse₂
  have hlexes : Lexes (source₁ ++ "\n" ++ source₂).toList (ws₁ ++ ws₂) := by
    simpa using hlexes₁.append_line hd₁.noError hlexes₂
  exact parse_eq_ok_iff.2 ⟨ws₁ ++ ws₂, hlexes, hd₁.append_header hd₂⟩

/-- The first text ends within a comment and without a semicolon, the second starts with a keyword
that is a name there. -/
theorem parse_append_comment :
    Header.parse "f : () => A -- to be" = .ok
      ⟨[.assigns ⟨"f", .ofShape (.function [] none (.literal "A"))⟩]⟩ ∧
    Header.parse "type : B" = .ok ⟨[.assigns ⟨"type", .literal "B"⟩]⟩ ∧
    Header.parse ("f : () => A -- to be" ++ "\n" ++ "type : B") = .ok
      ⟨[.assigns ⟨"f", .ofShape (.function [] none (.literal "A"))⟩,
        .assigns ⟨"type", .literal "B"⟩]⟩ := by
  have h₁ : Header.parse "f : () => A -- to be" = .ok
      ⟨[.assigns ⟨"f", .ofShape (.function [] none (.literal "A"))⟩]⟩ := by decide +kernel
  have h₂ : Header.parse "type : B" = .ok ⟨[.assigns ⟨"type", .literal "B"⟩]⟩ := by decide +kernel
  exact ⟨h₁, h₂, parse_append _ _ _ _ h₁ h₂⟩

end Header

end SigCheck
