import DeclaredEnv.Toml.Reader

/-!
# Blanks, comments and strings of a document

* `blanks`, `newline`, `comment` — what stands between the parts of a line and between lines.
* `basicString`, `literalString` — strings on one line, in double and in single quotes.
* `multilineBasic`, `multilineLiteral` — strings between three quotes.  A line break counts as a
  line feed, however it is written, and the first one is left out.
* `string` — any of the four.
-/

namespace DeclaredEnv.Toml

open Reader

/-- A space or a tab. -/
def isSpace (c : Char) : Bool := c == ' ' || c == '\t'

/-- A character that text may hold as it is: a tab, or none of the controls of ASCII. -/
def isPlain (c : Char) : Bool := c == '\t' || (decide (32 ≤ c.toNat) && c.toNat != 127)

/-- Spaces and tabs. -/
def blanks : Reader Unit := do
  let _ ← takeWhile isSpace

/-- A line feed, with or without a carriage return. -/
def newline : Reader Unit := char '\n' <|> word ['\r', '\n']

/-- A comment, up to the end of its line. -/
def comment : Reader Unit := do
  char '#'
  let _ ← takeWhile isPlain

/-- Blanks and a comment, up to the end of the line or of the text. -/
def lineEnd : Reader Unit := do
  blanks
  let _ ← optional comment
  newline <|> atEnd

/-- One space or tab. -/
def space : Reader Unit := do
  let _ ← one isSpace

/-- Blanks, line breaks and comments. -/
def spread : Reader Unit := do
  let _ ← many (space <|> newline <|> (do comment; newline))

/-- An ASCII hexadecimal digit. -/
def isHexDigit (c : Char) : Bool :=
  c.isDigit || (decide ('a' ≤ c) && decide (c ≤ 'f')) || (decide ('A' ≤ c) && decide (c ≤ 'F'))

/-- The value of a hexadecimal digit. -/
def hexDigitValue (c : Char) : Nat :=
  if c.isDigit then c.toNat - '0'.toNat
  else if 'a' ≤ c then c.toNat - 'a'.toNat + 10
  else c.toNat - 'A'.toNat + 10

/-- The number that digits write in a base. -/
def numberInBase (base : Nat) (digits : List Char) : Nat :=
  digits.foldl (fun n c => n * base + hexDigitValue c) 0

/-- The character at a code point, unless it is a surrogate or too large. -/
def charAt? (n : Nat) : Option Char := if n.isValidChar then some (Char.ofNat n) else none

/-- A character by its code point in `count` hexadecimal digits. -/
def codePoint (count : Nat) : Reader Char := do
  let digits ← exactly isHexDigit count
  given (charAt? (numberInBase 16 digits))

/-- A backslash with what it stands for. -/
def escape : Reader Char := do
  char '\\'
  match ← one fun _ => true with
  | 'b' => pure '\x08'
  | 't' => pure '\t'
  | 'n' => pure '\n'
  | 'f' => pure '\x0c'
  | 'r' => pure '\r'
  | '"' => pure '"'
  | '\\' => pure '\\'
  | 'u' => codePoint 4
  | 'U' => codePoint 8
  | _ => failure

/-- A string in double quotes on one line. -/
def basicString : Reader String := do
  char '"'
  let cs ← many (one (fun c => isPlain c && c != '"' && c != '\\') <|> escape)
  char '"'
  pure (String.ofList cs)

/-- A string in single quotes on one line. -/
def literalString : Reader String := do
  char '\''
  let cs ← takeWhile fun c => isPlain c && c != '\''
  char '\''
  pure (String.ofList cs)

/-- A line break inside a string. -/
def innerBreak : Reader (List Char) := do
  newline
  pure ['\n']

/-- A backslash at the end of a line, with the blanks and line breaks after it. -/
def continuation : Reader (List Char) := do
  char '\\'
  blanks
  newline
  let _ ← many (space <|> newline)
  pure []

/-- One or two quotes that are not part of three. -/
def fewQuotes (quote : Char) : Reader (List Char) := do
  let quotes ← takeWhile (· == quote)
  if quotes.length = 1 ∨ quotes.length = 2 then pure quotes else failure

/-- The three quotes at the end of a string, after up to two that belong to it. -/
def closingQuotes (quote : Char) : Reader (List Char) := do
  let quotes ← takeWhile (· == quote)
  if 3 ≤ quotes.length ∧ quotes.length ≤ 5 then pure (quotes.drop 3) else failure

/-- A string between three quotes, made of pieces. -/
def multiline (quote : Char) (piece : Reader (List Char)) : Reader String := do
  word [quote, quote, quote]
  let _ ← optional newline
  let pieces ← many (piece <|> innerBreak <|> fewQuotes quote)
  let last ← closingQuotes quote
  pure (String.ofList (pieces.flatten ++ last))

/-- A piece of one character. -/
def single (r : Reader Char) : Reader (List Char) := do
  let c ← r
  pure [c]

/-- A string between three double quotes. -/
def multilineBasic : Reader String :=
  multiline '"'
    (single (one fun c => isPlain c && c != '"' && c != '\\') <|> continuation <|> single escape)

/-- A string between three single quotes. -/
def multilineLiteral : Reader String :=
  multiline '\'' (single (one fun c => isPlain c && c != '\''))

/-- A string in any of its four forms. -/
def string : Reader String := multilineBasic <|> multilineLiteral <|> basicString <|> literalString

end DeclaredEnv.Toml
