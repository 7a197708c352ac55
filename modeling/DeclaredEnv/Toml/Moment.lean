import DeclaredEnv.Toml.Scalar

/-!
# Dates and times in place of tables

A table whose first key is `momentKey` stands for the date or time that the string under this key
writes.  Its other keys do not count, and the document has no meaning if there is no such string.

* `isMomentText` — a date or time as a string, in the same form as a value of a document.
* `Value.withMoments?`, `fieldsWithMoments?` — a value, or the fields of a table, with each table
  of this kind replaced.
-/

namespace DeclaredEnv.Toml

open Reader

/-- The key that makes a table a date or a time. -/
def momentKey : String := "$__toml_private_datetime"

/-- The text is a date, a time of day, or both. -/
def isMomentText (text : String) : Bool :=
  ((do datetime; atEnd : Reader Unit).run text.toList).isSome

/-- The value in place of a table with such a first key, if the string under it is a moment. -/
def momentOf? : Value → Option Value
  | .scalar (.string text) => if isMomentText text then some (.scalar .datetime) else none
  | _ => none

mutual

/-- The value with each table that stands for a moment replaced. -/
def Value.withMoments? : Value → Option Value
  | .scalar s => some (.scalar s)
  | .array items => (itemsWithMoments? items).map .array
  | .table fields =>
    match fields.head? with
    | some (key, first) =>
      if key = momentKey then momentOf? first else (fieldsWithMoments? fields).map .table
    | none => some (.table [])

/-- The items of an array with each table that stands for a moment replaced. -/
def itemsWithMoments? : List Value → Option (List Value)
  | [] => some []
  | v :: rest => do
    let v ← v.withMoments?
    let rest ← itemsWithMoments? rest
    pure (v :: rest)

/-- The fields of a table with each table among their values that stands for a moment replaced. -/
def fieldsWithMoments? : List (String × Value) → Option (List (String × Value))
  | [] => some []
  | (key, v) :: rest => do
    let v ← v.withMoments?
    let rest ← fieldsWithMoments? rest
    pure ((key, v) :: rest)

end

end DeclaredEnv.Toml
