import SigCheck.Text.Alphabetic
import SigCheck.Text.Blank
import SigCheck.Text.Measure
import SigCheck.Text.Numeric
import SigCheck.Token

/-!
# Scanning a header into tokens

Between tokens a header may hold a *gap*: blanks, comments that run to the end of the line (`--` and
`//`), and closed comments `/* ... */`.  `gapItem?` reads one such item and `gap` all of them; what
follows is read by `lexeme`, one function for each class of token.  A lexeme keeps the characters it
was read from, so the spans of the tokens are the byte sizes of what was read.

An unclosed `/*` comment is no gap item; it is an error lexeme that reaches to the end of the text.
-/

namespace SigCheck

namespace Scan

open Text

/-! ### Gaps -/

/-- The text through its first line feed, and what follows. -/
def throughLine : Text → Text × Text
  | [] => ([], [])
  | c :: cs =>
    if c = '\n' then ([c], cs)
    else
      let (line, rest) := throughLine cs
      (c :: line, rest)

/-- The text through its first `*/`, and what follows; nothing if there is none. -/
def throughClose : Text → Option (Text × Text)
  | [] => none
  | c :: cs =>
    if c = '*' ∧ cs.head? = some '/' then some (c :: cs.take 1, cs.drop 1)
    else (throughClose cs).map fun (inside, rest) => (c :: inside, rest)

/-- One gap item at the head of a text, and what follows. -/
def gapItem? : Text → Option (Text × Text)
  | [] => none
  | c :: cs =>
    if isBlank c then some ([c], cs)
    else match c, cs with
      | '-', '-' :: rest =>
        let (line, after) := throughLine rest
        some ('-' :: '-' :: line, after)
      | '/', '/' :: rest =>
        let (line, after) := throughLine rest
        some ('/' :: '/' :: line, after)
      | '/', '*' :: rest =>
        (throughClose rest).map fun (inside, after) => ('/' :: '*' :: inside, after)
      | _, _ => none

/-- At most `n` gap items at the head of a text, and what follows them. -/
def gapItems : Nat → Text → List Text × Text
  | 0, cs => ([], cs)
  | n + 1, cs =>
    match gapItem? cs with
    | none => ([], cs)
    | some (item, rest) =>
      let (items, after) := gapItems n rest
      (item :: items, after)

/-- The gap at the head of a text, and what follows it.  Every item takes a character, so a text
has no more items than characters. -/
def gap (cs : Text) : Text × Text :=
  let (items, rest) := gapItems cs.length cs
  (items.flatten, rest)

/-! ### Lexemes -/

/-- A token as it is read: its class, the text it stands for, the characters it covers and the
characters after it. -/
structure Lexeme where
  kind : TokenKind
  value : Text
  text : Text
  rest : Text

/-- A name can start with `c`. -/
def isNameStart (c : Char) : Bool := c == '_' || c == '$' || isAlphabetic c

/-- A name can go on with `c`. -/
def isNameChar (c : Char) : Bool := c == '_' || c == '$' || isAlphabetic c || isNumeric c

/-- The class of a word. -/
def wordKind (word : Text) : TokenKind :=
  if word = ['t', 'y', 'p', 'e'] then .typeKeyword
  else if word = ['i', 'm', 'p', 'o', 'r', 't'] then .importKeyword
  else if word = ['f', 'r', 'o', 'm'] then .fromKeyword
  else .name

/-- A name or keyword: the longest run of name characters. -/
def word (cs : Text) : Lexeme :=
  let text := cs.takeWhile isNameChar
  ⟨wordKind text, text, text, cs.dropWhile isNameChar⟩

/-- The digits after a decimal point, with the point: there are some only if a digit follows it. -/
def fraction : Text → Text × Text
  | '.' :: c :: cs =>
    if c.isDigit then ('.' :: (c :: cs).takeWhile Char.isDigit, (c :: cs).dropWhile Char.isDigit)
    else ([], '.' :: c :: cs)
  | cs => ([], cs)

/-- A numeral without its sign: digits and at most one fraction. -/
def numeral (cs : Text) : Text × Text :=
  let (tail, rest) := fraction (cs.dropWhile Char.isDigit)
  (cs.takeWhile Char.isDigit ++ tail, rest)

/-- A number literal, which may start with a minus sign. -/
def number : Text → Lexeme
  | '-' :: cs =>
    let (text, rest) := numeral cs
    ⟨.number, '-' :: text, '-' :: text, rest⟩
  | cs =>
    let (text, rest) := numeral cs
    ⟨.number, text, text, rest⟩

/-- What a backslash and `c` stand for. -/
def unescape (c : Char) : Char :=
  if c = 'n' then '\n' else if c = 'r' then '\r' else if c = 't' then '\t' else c

/-- The inside of a string literal and its closing quote, as far as they could be read. -/
structure Quoted where
  value : Text
  text : Text
  rest : Text
  closed : Bool

/-- Puts the characters `text`, which stand for `c`, in front of what was read. -/
def Quoted.cons (c : Char) (text : Text) (q : Quoted) : Quoted :=
  { q with value := c :: q.value, text := text ++ q.text }

/-- The text after an opening quote `quote`: to its closing quote, or to the end of the line or of
the text if there is none. -/
def quoted (quote : Char) : Text → Quoted
  | [] => ⟨[], [], [], false⟩
  | c :: cs =>
    if c = quote then ⟨[], [c], cs, true⟩
    else if c = '\n' then ⟨[], [], c :: cs, false⟩
    else if c = '\\' then
      match cs with
      | [] => ⟨[], [c], [], false⟩
      | e :: es => (quoted quote es).cons (unescape e) [c, e]
    else (quoted quote cs).cons c [c]

/-- The text of an error token for a string literal that does not end. -/
def unterminatedString : Text := "Unterminated string literal".toList

/-- The text of an error token for a comment that does not end. -/
def unterminatedComment : Text := "Unterminated multi-line comment".toList

/-- The text of an error token for a character that starts no token. -/
def unexpected (c : Char) : Text := "Unexpected character: ".toList ++ [c]

/-- A string literal, whose opening quote is `quote`. -/
def string (quote : Char) (cs : Text) : Lexeme :=
  let q := quoted quote cs
  if q.closed then ⟨.string, q.value, quote :: q.text, q.rest⟩
  else ⟨.error, unterminatedString, quote :: q.text, q.rest⟩

/-- The class of a punctuation character. -/
def punctuation? : Char → Option TokenKind
  | '|' => some .pipe
  | '&' => some .amp
  | '?' => some .question
  | '(' => some .lparen
  | ')' => some .rparen
  | '{' => some .lbrace
  | '}' => some .rbrace
  | '[' => some .lbracket
  | ']' => some .rbracket
  | '<' => some .less
  | '>' => some .greater
  | ',' => some .comma
  | ':' => some .colon
  | ';' => some .semicolon
  | _ => none

/-- Punctuation, or an error token. -/
def symbol (c : Char) (cs : Text) : Lexeme :=
  match punctuation? c with
  | some kind => ⟨kind, [c], [c], cs⟩
  | none =>
    match c, cs with
    | '=', '>' :: rest => ⟨.arrow, ['=', '>'], ['=', '>'], rest⟩
    | '/', '*' :: rest => ⟨.error, unterminatedComment, '/' :: '*' :: rest, []⟩
    | _, _ => ⟨.error, unexpected c, [c], cs⟩

/-- A numeral starts here: at a digit, or at a minus sign before one. -/
def startsNumber (c : Char) (cs : Text) : Bool :=
  c.isDigit || (c == '-' && (cs.head?.any Char.isDigit))

/-- The lexeme at the head of a text that starts with `c` and no gap. -/
def lexeme (c : Char) (cs : Text) : Lexeme :=
  if c = '"' ∨ c = '\'' then string c cs
  else if startsNumber c cs then number (c :: cs)
  else if isNameStart c then word (c :: cs)
  else symbol c cs

end Scan

/-! ### The scanner -/

/-- A position in a source text: its file number, the byte offset, and the text from there on. -/
structure Scanner where
  file : Nat
  offset : Nat
  rest : Text

namespace Scanner

open Scan Text

/-- The start of a source text. -/
def start (file : Nat) (source : String) : Scanner := ⟨file, 0, source.toList⟩

/-- The next token and the position after it.  At the end of the text it is the `eof` token, and
the position stays there. -/
def next (s : Scanner) : Token × Scanner :=
  let (skipped, rest) := gap s.rest
  let first := s.offset + byteSize skipped
  match rest with
  | [] => (⟨.eof, ⟨first, first, s.file⟩, ""⟩, ⟨s.file, first, []⟩)
  | c :: cs =>
    let l := lexeme c cs
    let last := first + byteSize l.text
    (⟨l.kind, ⟨first, last, s.file⟩, String.ofList l.value⟩, ⟨s.file, last, l.rest⟩)

/-- The tokens through the first `eof`, at most `n` of them before it. -/
def take : Nat → Scanner → List Token
  | 0, s => [s.next.1]
  | n + 1, s =>
    let (token, after) := s.next
    if token.kind = .eof then [token] else token :: take n after

/-- All tokens through the `eof`.  Every other token takes a character. -/
def tokens (s : Scanner) : List Token := take s.rest.length s

end Scanner

/-- The tokens of a source text. -/
def tokenize (source : String) : List Token := (Scanner.start 0 source).tokens

end SigCheck
