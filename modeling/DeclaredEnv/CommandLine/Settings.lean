import DeclaredEnv.Evaluation

/-!
# The settings of a process

A process starts with a list of entries, each of which is some bytes.

* `Setting`, `Setting.ofEntry?` — a name and a value, parted by an equals sign.
* `settingsOf` — the settings of a list of entries.
* `firstText?` — the value of one name, which log lines depend on: the first one counts.
* `environmentOf` — the settings that schemas are evaluated against: the last one of a name counts.
-/

namespace DeclaredEnv.CommandLine

/-- A name and a value. -/
structure Setting where
  name : List UInt8
  value : List UInt8
  deriving DecidableEq, Repr

/-- The byte of an equals sign. -/
def equalsSign : UInt8 := 61

/--
The setting of an entry: the first equals sign after the first byte ends the name.  An entry without
one sets nothing.
-/
def Setting.ofEntry? : List UInt8 → Option Setting
  | [] => none
  | first :: rest =>
    match rest.dropWhile (· != equalsSign) with
    | [] => none
    | _ :: value => some ⟨first :: rest.takeWhile (· != equalsSign), value⟩

/-- The text that bytes write. -/
def textOfBytes? (bytes : List UInt8) : Option String := String.fromUTF8? ⟨bytes.toArray⟩

/-- The settings of a list of entries. -/
def settingsOf (entries : List (List UInt8)) : List Setting := entries.filterMap Setting.ofEntry?

/-- The value of the first setting with a name, if it is text. -/
def firstText? (settings : List Setting) (name : String) : Option String :=
  (settings.find? (·.name == name.toUTF8.data.toList)).bind fun s => textOfBytes? s.value

/-- The name and the value of a setting, if both are text. -/
def Setting.texts? (s : Setting) : Option (String × String) := do
  let name ← textOfBytes? s.name
  let value ← textOfBytes? s.value
  pure (name, value)

/-- The environment of the settings that are text. -/
def environmentOf (settings : List Setting) : Environment :=
  .ofPairs (settings.filterMap Setting.texts?)

end DeclaredEnv.CommandLine
