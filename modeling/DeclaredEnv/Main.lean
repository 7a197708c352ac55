import DeclaredEnv.CommandLine.Program

/-!
# The command-line program

* `main` — reads the arguments, the environment and the source, and prints the response.
-/

namespace DeclaredEnv.CommandLine

/-- The error of a system call in words. -/
def fileErrorOf : IO.Error → FileError
  | .noFileOrDirectory .. => .notFound
  | .inappropriateType _ code _ => if code = 21 then .isDirectory else .notDirectory
  | .permissionDenied _ code _ => .other s!"Permission denied (os error {code})"
  | e => .other (toString e)

/-- The text of a file. -/
def readFile (path : String) : IO (Except FileError String) := do
  try
    let content ← IO.FS.readBinFile path
    match String.fromUTF8? content with
    | some text => return .ok text
    | none => return .error .notText
  catch e =>
    match fileErrorOf e with
    | .notDirectory => return .error .notFound
    | other => return .error other

/-- What comes of a source.  This program has no access to the web. -/
def fetchSource (settings : List Setting) (source : String) : IO (Fetched SourceError) := do
  if isUrl source then
    let delivered := noWeb settings source
    return ⟨delivered.lines, delivered.text.mapError .web⟩
  else return ⟨"", (← readFile source).mapError .file⟩

/-- The parts of a block of bytes between its zeros. -/
def zeroParts (block : ByteArray) : List (List UInt8) :=
  block.data.toList.foldr (fun b parts =>
    match parts with
    | [] => [[b]]
    | part :: rest => if b = 0 then [] :: part :: rest else (b :: part) :: rest) [[]]

/-- The entries that the process started with. -/
def processEntries : IO (List (List UInt8)) := do
  try
    return zeroParts (← IO.FS.readBinFile "/proc/self/environ")
  catch _ => return []

/-- Write the file that a response asks for. -/
def writeOutput (r : Response) : IO Response := do
  match r.output with
  | none => return r
  | some (path, text) =>
    try
      IO.FS.writeFile path text
      return r
    catch e => return r.notWritten path (fileErrorOf e)

end DeclaredEnv.CommandLine

open DeclaredEnv DeclaredEnv.CommandLine in
/-- Run the program and give its exit code. -/
def main (args : List String) : IO UInt32 := do
  let response ← match Request.ofArguments? args with
    | none => pure (usageResponse (Wording.plain.usage args))
    | some .version => pure versionResponse
    | some .help => pure (helpResponse (Wording.plain.help args))
    | some (.command verbose command) => do
      let settings := settingsOf (← processEntries)
      let document ← fetchSource settings command.source
      pure (command.respond .plain verbose (.ofSettings settings) (environmentOf settings) document)
  let response ← writeOutput response
  IO.print response.stdout
  IO.eprint response.stderr
  return UInt32.ofNat response.exit
