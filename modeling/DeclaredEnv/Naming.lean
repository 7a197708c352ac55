import DeclaredEnv.Text.LetterCase

/-!
# Names for generated code

* `className` — `user-service` becomes `UserServiceConfig`.
* `fieldName` — `DATABASE-URL` becomes `database_url`.
* `propertyName` — `DATABASE` becomes `database_config`.
-/

namespace DeclaredEnv

open Text

/-- The characters between the words of a name. -/
def isSeparator (c : Char) : Bool := c == '_' || c == '-'

/-- The parts of a name between its separators, the empty ones included. -/
def nameParts : List Char → List (List Char)
  | [] => [[]]
  | c :: rest =>
    match nameParts rest with
    | [] => [[c]]
    | part :: parts => if isSeparator c then [] :: part :: parts else (c :: part) :: parts

/-- A word in small letters with a capital form of its first character. -/
def capitalized (word : List Char) : List Char :=
  match lowercase word with
  | [] => []
  | c :: rest => upper c ++ rest

/-- The name of a class: the words of the name, each capitalized. -/
def className (name : String) : String :=
  String.ofList ((nameParts name.toList).flatMap capitalized ++ "Config".toList)

/-- The name of a field: small letters, and `_` between the words. -/
def fieldName (name : String) : String :=
  String.ofList ((lowercase name.toList).map fun c => if c = '-' then '_' else c)

/-- The name of a property that holds a subject. -/
def propertyName (subject : String) : String := fieldName subject ++ "_config"

end DeclaredEnv
