/-!
# Files and directories

* `FileTree` — a file, or a directory with named parts.
* `FileSystem` — the tree from the root on, and the directory where relative paths begin.
* `FileSystem.readText`, `FileSystem.write` — reading and writing a file by its path.
* `FileError` — why either fails.
-/

namespace DeclaredEnv.CommandLine

/-- A file or a directory. -/
inductive FileTree where
  | file (content : ByteArray)
  | directory (parts : List (String × FileTree))

/-- The tree from the root on, and the directory where relative paths begin. -/
structure FileSystem where
  root : FileTree
  current : List String

/-- Why a file cannot be read or written. -/
inductive FileError where
  | notFound
  | notDirectory
  | isDirectory
  | nameTooLong
  /-- The content of the file is no text. -/
  | notText
  /-- Anything else, in words. -/
  | other (reason : String)
  deriving DecidableEq, Repr

/-- The error in words. -/
def FileError.message : FileError → String
  | .notFound => "No such file or directory (os error 2)"
  | .notDirectory => "Not a directory (os error 20)"
  | .isDirectory => "Is a directory (os error 21)"
  | .nameTooLong => "File name too long (os error 36)"
  | .notText => "stream did not contain valid UTF-8"
  | .other reason => reason

/-- The part of a directory with a name. -/
def partNamed? (name : String) (parts : List (String × FileTree)) : Option FileTree :=
  parts.lookup name

/-- Put a part into a directory, in place of one of the same name. -/
def putPart (name : String) (tree : FileTree) : List (String × FileTree) → List (String × FileTree)
  | [] => [(name, tree)]
  | (n, t) :: rest => if n = name then (n, tree) :: rest else (n, t) :: putPart name tree rest

namespace FileTree

/-- The tree at a place below this one. -/
def at? : List String → FileTree → Option FileTree
  | [], t => some t
  | _ :: _, .file _ => none
  | name :: place, .directory parts =>
    match partNamed? name parts with
    | some t => t.at? place
    | none => none

/-- This tree with another one at a place below it, if the directories to the place are there. -/
def put : FileTree → (place : List String) → (other : FileTree) → FileTree
  | _, [], other => other
  | .file content, _ :: _, _ => .file content
  | .directory parts, [name], other => .directory (putPart name other parts)
  | .directory parts, name :: place, other =>
    match partNamed? name parts with
    | some t => .directory (putPart name (t.put place other) parts)
    | none => .directory parts

end FileTree

/-- The parts of a path between its slashes. -/
def pathParts : List Char → List (List Char)
  | [] => [[]]
  | c :: rest =>
    match pathParts rest with
    | [] => [[c]]
    | part :: parts => if c == '/' then [] :: part :: parts else (c :: part) :: parts

/-- The path ends in a slash, which only a directory's can. -/
def endsInSlash (path : String) : Bool := path.toList.getLast? == some '/'

/-- The names that a path goes through. -/
def pathNames (path : String) : List String :=
  ((pathParts path.toList).filter (!·.isEmpty)).map String.ofList

namespace FileSystem

/-- The place where a path begins. -/
def start (fs : FileSystem) (path : String) : List String :=
  match path.toList with
  | '/' :: _ => []
  | _ => fs.current

/-- Follow names from a place. -/
def follow (fs : FileSystem) : (place : List String) → (names : List String) →
    Except FileError (List String)
  | place, [] => .ok place
  | place, name :: names =>
    match fs.root.at? place with
    | some (.directory parts) =>
      if name = "." then fs.follow place names
      else if name = ".." then fs.follow place.dropLast names
      else if 255 < name.utf8ByteSize then .error .nameTooLong
      else
        match partNamed? name parts with
        | some _ => fs.follow (place ++ [name]) names
        | none => .error .notFound
    | some (.file _) => .error .notDirectory
    | none => .error .notFound

/-- The place that a path names. -/
def locate (fs : FileSystem) (path : String) : Except FileError (List String) :=
  if path.isEmpty then .error .notFound
  else if 4096 ≤ path.utf8ByteSize then .error .nameTooLong
  else fs.follow (fs.start path) (pathNames path ++ if endsInSlash path then ["."] else [])

/-- The text of a file.  A path that leads nowhere is not found, for whatever reason. -/
def readText (fs : FileSystem) (path : String) : Except FileError String :=
  match fs.locate path with
  | .error _ => .error .notFound
  | .ok place =>
    match fs.root.at? place with
    | some (.file content) =>
      match String.fromUTF8? content with
      | some text => .ok text
      | none => .error .notText
    | some (.directory _) => .error .isDirectory
    | none => .error .notFound

/--
Write a file, which is added if its directory is there.  A path whose last part is a slash or dots
is a directory's, whether there is one or not.
-/
def write (fs : FileSystem) (path text : String) : Except FileError FileSystem :=
  if path.isEmpty then .error .notFound
  else if 4096 ≤ path.utf8ByteSize then .error .nameTooLong
  else
    match (pathNames path).getLast? with
    | none => .error .isDirectory
    | some name =>
      match fs.follow (fs.start path) (pathNames path).dropLast with
      | .error e => .error e
      | .ok place =>
        match fs.root.at? place with
        | none => .error .notFound
        | some (.file _) => .error .notDirectory
        | some (.directory parts) =>
          if name = "." ∨ name = ".." ∨ endsInSlash path then .error .isDirectory
          else if 255 < name.utf8ByteSize then .error .nameTooLong
          else
            match partNamed? name parts with
            | some (.directory _) => .error .isDirectory
            | _ => .ok { fs with root := fs.root.put (place ++ [name]) (.file text.toUTF8) }

end FileSystem

end DeclaredEnv.CommandLine
