import DeclaredEnv.Text.LetterCase.Context
import DeclaredEnv.Text.LetterCase.Lower
import DeclaredEnv.Text.LetterCase.Upper

/-!
# Small and capital letters of a text

* `lower`, `upper` — the full mapping of one character; either can be longer than it.
* `lowercase` — a whole text in small letters.  A capital sigma at the end of a word becomes `ς`,
  any other `σ`.
* `asciiLowercase` — only `A` to `Z` change.
-/

namespace DeclaredEnv.Text

/-- The small form of a character, apart from the rule for the end of a word. -/
def lower (c : Char) : List Char :=
  if c = 'İ' then ['i', '\u0307'] else [(shifted? lowerRuns c).getD c]

/-- The capital form of a character. -/
def upper (c : Char) : List Char :=
  match upperExpansions.lookup c.toNat with
  | some form => form.map Char.ofNat
  | none => [(shifted? upperRuns c).getD c]

/-- The first character that is not looked through has case. -/
def meetsCased (s : List Char) : Bool :=
  match s.dropWhile isCaseIgnorable with
  | c :: _ => isCased c
  | [] => false

/-- A letter after `before` (nearest first) and in front of `after` ends a word. -/
def endsWord (before after : List Char) : Bool := meetsCased before && !meetsCased after

/-- `rest` in small letters, where `before` is what precedes it, nearest first. -/
def lowercaseAfter (before : List Char) : (rest : List Char) → List Char
  | [] => []
  | c :: rest =>
    (if c = 'Σ' then [if endsWord before rest then 'ς' else 'σ'] else lower c) ++
      lowercaseAfter (c :: before) rest

/-- The text in small letters. -/
def lowercase (s : List Char) : List Char := lowercaseAfter [] s

/-- The text with `A` to `Z` in small letters and all else as it was. -/
def asciiLowercase (s : List Char) : List Char := s.map Char.toLower

end DeclaredEnv.Text
