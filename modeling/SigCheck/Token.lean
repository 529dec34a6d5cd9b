/-!
# Tokens of a signature header

A header is a sequence of tokens: names, keywords, literals and punctuation.  A text that is no
token becomes an `error` token, whose value says what is wrong with it, and the end of the header
is a token too, so that every position in a header has a token to point at.
-/

namespace SigCheck

/-- The classes of tokens. -/
inductive TokenKind where
  | typeKeyword
  | importKeyword
  | fromKeyword
  | number
  | string
  | name
  | pipe
  | amp
  | arrow
  | question
  | lparen
  | rparen
  | lbrace
  | rbrace
  | lbracket
  | rbracket
  | less
  | greater
  | comma
  | colon
  | semicolon
  | eof
  | error
deriving DecidableEq, Repr

namespace TokenKind

/-- The name of a token class in messages and listings. -/
def title : TokenKind → String
  | typeKeyword => "Type"
  | importKeyword => "Import"
  | fromKeyword => "From"
  | number => "NumberLiteral"
  | string => "StringLiteral"
  | name => "Identifier"
  | pipe => "Pipe"
  | amp => "Amp"
  | arrow => "FatArrow"
  | question => "Question"
  | lparen => "LParen"
  | rparen => "RParen"
  | lbrace => "LBrace"
  | rbrace => "RBrace"
  | lbracket => "LBracket"
  | rbracket => "RBracket"
  | less => "Lt"
  | greater => "Gt"
  | comma => "Comma"
  | colon => "Colon"
  | semicolon => "Semicolon"
  | eof => "Eof"
  | error => "Error"

/-- The keywords; they may still be used as names of fields and parameters. -/
def isKeyword : TokenKind → Bool
  | typeKeyword | importKeyword | fromKeyword => true
  | _ => false

/-- A name, or a keyword used as one. -/
def isName (k : TokenKind) : Bool := k == name || k.isKeyword

end TokenKind

/-- The bytes `start` to `stop` (excluded) of the source text numbered `file`. -/
structure Span where
  start : Nat
  stop : Nat
  file : Nat
deriving DecidableEq, Repr

/-- The text of a span in messages. -/
def Span.text (s : Span) : String := toString s.start ++ ".." ++ toString s.stop

/-- A token: its class, where it stands, and the text it stands for. -/
structure Token where
  kind : TokenKind
  span : Span
  value : String
deriving DecidableEq, Repr

end SigCheck
