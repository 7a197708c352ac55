import DeclaredEnv.Number.Shortest

/-!
# The text of a double

* `FloatLayout` — the choices a number format makes: where positional notation ends, whether a whole
  number shows a fraction, whether a positive exponent has a sign, and where ties go.
* `FloatLayout.text` — the text of a double in a layout.
-/

namespace DeclaredEnv.Number

/-- The choices of a number format. -/
structure FloatLayout where
  /-- The least and the greatest exponent of the leading digit in positional notation, if bounded.
  -/
  positional : Option (Int × Int)
  /-- What follows a whole number in positional notation. -/
  wholeEnding : List Char
  /-- What stands before a positive exponent. -/
  exponentSign : List Char
  tie : Tie

/-- The digits with the point `-exponent` places from the right. -/
def positionalText (ending digits : List Char) (exponent : Int) : List Char :=
  if 0 ≤ exponent then digits ++ List.replicate exponent.toNat '0' ++ ending
  else
    let places := (-exponent).toNat
    if places < digits.length then
      digits.take (digits.length - places) ++ '.' :: digits.drop (digits.length - places)
    else '0' :: '.' :: List.replicate (places - digits.length) '0' ++ digits

/-- One digit, the others after a point, and the exponent of the first. -/
def scientificText (exponentSign digits : List Char) (exponent : Int) : List Char :=
  let mantissa := match digits with
    | [] => []
    | [d] => [d]
    | d :: rest => d :: '.' :: rest
  mantissa ++ 'e' :: (if 0 < exponent then exponentSign else []) ++ integerText exponent

namespace FloatLayout

/-- The exponent of the leading digit is written positionally. -/
def isPositional (l : FloatLayout) (leading : Int) : Bool :=
  match l.positional with
  | none => true
  | some (low, high) => decide (low ≤ leading) && decide (leading ≤ high)

/-- The text of a decimal. -/
def decimalText (l : FloatLayout) (d : Decimal) : List Char :=
  let digits := naturalText d.coefficient
  if l.isPositional d.leading then positionalText l.wholeEnding digits d.exponent
  else scientificText l.exponentSign digits d.leading

/-- The text of a double. -/
def text (l : FloatLayout) : Binary64 → List Char
  | .finite negative rank _ =>
    (if negative then ['-'] else []) ++ l.decimalText (shortest l.tie rank)
  | .infinite negative => (if negative then ['-'] else []) ++ ['i', 'n', 'f']
  | .nan => ['N', 'a', 'N']

end FloatLayout

end DeclaredEnv.Number
