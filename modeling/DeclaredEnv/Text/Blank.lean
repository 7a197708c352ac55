import DeclaredEnv.Text.Ranges

/-!
# Blank characters and trimming

* `isBlank` — the property White_Space of all of Unicode, which counts U+0085, U+00A0 and U+3000 and
  does not count U+200B or U+FEFF.
* `trim` — a text without the blanks at its two ends.

Principal result: `trim_append` — a text is its trimmed part between two runs of blanks.
-/

namespace DeclaredEnv.Text

/-- Code points with the property White_Space. -/
def blankRanges : List (Nat × Nat) :=
  [(9, 13), (32, 32), (133, 133), (160, 160), (5760, 5760), (8192, 8202), (8232, 8233),
   (8239, 8239), (8287, 8287), (12288, 12288)]

/-- The character is white space. -/
def isBlank (c : Char) : Bool := inRanges blankRanges c

/-- The text from its first character on that is not blank. -/
def trimLeft (s : List Char) : List Char := s.dropWhile isBlank

/-- The text up to its last character that is not blank. -/
def trimRight (s : List Char) : List Char := (s.reverse.dropWhile isBlank).reverse

/-- The text without the blanks at its two ends. -/
def trim (s : List Char) : List Char := trimRight (trimLeft s)

theorem trimRight_append (s : List Char) :
    trimRight s ++ (s.reverse.takeWhile isBlank).reverse = s := by
  rw [trimRight, ← List.reverse_append, List.takeWhile_append_dropWhile, List.reverse_reverse]

/-- Only blanks are taken off. -/
theorem trim_append (s : List Char) :
    s.takeWhile isBlank ++ trim s ++ ((trimLeft s).reverse.takeWhile isBlank).reverse = s := by
  rw [List.append_assoc, trim, trimRight_append, trimLeft, List.takeWhile_append_dropWhile]

end DeclaredEnv.Text
