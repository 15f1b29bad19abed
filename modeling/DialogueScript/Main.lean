import DialogueScript.Checker
import DialogueScript.Json.Printer
import DialogueScript.Protocol.Frame
import DialogueScript.Server.Stream

/-!
# The programs

One executable is both programs: under the name of the checker it checks files, under any other name it is the server.
The programs themselves work on a `Disk`; here the places of the real disk that they look at are copied to one. The
server looks again before every message and twice a second while it waits, and every difference it finds is a change.
-/

namespace DialogueScript

namespace Programs

/-! ## The real disk -/

/-- Whether a directory is at a path. -/
def isDirectoryAt (path : String) : IO Bool := do
  try
    let _ ← IO.FS.realPath (path ++ "/.")
    return true
  catch _ => return false

/-- What is at a location of the real disk. -/
def entryAt (l : Location) : IO (Option Entry) := do
  let path := (Location.path l).text
  if ← isDirectoryAt path then return some .directory
  try
    let content ← IO.FS.readBinFile path
    return some (.file content)
  catch _ => return none

/-- The differences between a disk and the real one at the places that some paths pass. -/
def changes (d : Disk) (paths : List Path) : IO (List Disk.Change) := do
  let places := paths.flatMap fun p => Disk.places p.steps (if p.isAbsolute then [] else d.workingDirectory)
  let mut found := []
  for l in places.eraseDups do
    let before := d.get? l
    let now ← entryAt l
    if now != before then
      match now with
      | some e => found := Disk.Change.put l e :: found
      | none => found := Disk.Change.remove l :: found
  return found.reverse

/-- The location of the real working directory. -/
def workingDirectory : IO Location := do
  let path ← IO.currentDir
  return (Path.ofText path.toString).steps.filterMap fun step =>
    match step with
    | .down name => some name
    | _ => none

/-- A disk with what is at the places that some paths pass. -/
def diskFor (paths : List Path) : IO Disk := do
  let here ← workingDirectory
  let empty : Disk := { entries := [], workingDirectory := here }
  let found ← changes empty (Location.path here :: paths)
  return found.foldl Disk.apply empty

/-- The environment variables that matter. -/
def environment : IO Environment := do
  let home ← IO.getEnv "HOME"
  let configHome ← IO.getEnv "XDG_CONFIG_HOME"
  return { home := home, configHome := configHome }

/-- The paths that a program looks at when it starts in a directory. -/
def startPaths (p : Program) (e : Environment) (here : Location) (args : List String) : List Path :=
  let settings := e.userFile?.toList ++ [Startup.workspaceFile (Location.path here)]
  match CommandLine.read p args with
  | .ok (options, files) => options.config.toList.map Path.ofText ++ settings ++ files.map Path.ofText
  | .error _ => settings

/-! ## The server -/

/-- Reads bytes until there are `count` of them or the input ends. -/
partial def readBytes (input : IO.FS.Stream) (count : Nat) (got : ByteArray) : IO ByteArray := do
  if got.size ≥ count then return got
  let more ← input.read (count - got.size).toUSize
  if more.isEmpty then return got
  readBytes input count (got ++ more)

/-- Reads the lines of a head and gives the length of the body; nothing when the input ends before the empty line. -/
partial def readHead (input : IO.FS.Stream) (length : Option Nat) : IO (Option (Option Nat)) := do
  let line ← input.getLine
  if line.isEmpty then return none
  let text := trim line.toList
  if text.isEmpty then return some length
  readHead input (length <|> Frame.length? text)

/-- Stands for bytes that are no text, and is no message either. -/
def noText : String := "\uFFFD"

/-- Reads a frame and gives its body; nothing when the input ends. -/
def readBody (input : IO.FS.Stream) : IO (Option (List Char)) := do
  match ← readHead input none with
  | none => return none
  | some none => return some noText.toList
  | some (some count) =>
    let bytes ← readBytes input count ByteArray.empty
    if bytes.size < count then return none
    return some ((String.fromUTF8? bytes).getD noText).toList

/-- Writes frames. -/
def writeFrames (output : IO.FS.Stream) (bodies : List Json) : IO Unit := do
  for body in bodies do
    output.putStr (Frame.encode body.render)
  output.flush

/-- Takes the changes of the settings files of a workspace. -/
def lookAround (output : IO.FS.Stream) (s : Stream) (root : Option Path) : IO Stream := do
  let mut stream := s
  for change in ← changes s.session.disk (s.session.server.startup.watchedFiles root) do
    let (next, bodies) := stream.notice change
    writeFrames output bodies
    stream := next
  return stream

/-- Looks around twice a second until the next body is there. -/
partial def await (output : IO.FS.Stream) (s : Stream) (body : Task (Except IO.Error (Option (List Char))))
    (ticks : Nat) : IO Stream := do
  if ← IO.hasFinished body then return s
  let s ← if ticks % 100 == 99 then lookAround output s s.session.server.root else pure s
  IO.sleep 5
  await output s body (ticks + 1)

/-- Answers frame after frame until the input ends or the server reads no further. The body is taken once to learn the
workspace it leads to, and again with the disk as it is there. -/
partial def serve (input output : IO.FS.Stream) (s : Stream) : IO Unit := do
  if !s.reading then return
  let reader ← IO.asTask (readBody input) .dedicated
  let s ← await output s reader 0
  match ← IO.ofExcept reader.get with
  | none => return
  | some body =>
    let s ← lookAround output s (s.take body).1.session.server.root
    let (s, bodies) := s.take body
    writeFrames output bodies
    serve input output s

/-! ## Both programs -/

/-- Prints an outcome and gives the exit code. -/
def conclude (p : Program) (r : Outcome) : IO UInt32 := do
  IO.print r.output
  if r.exitCode == 2 then IO.eprintln (p.usageLine ++ "\n\nFor more information, try '--help'.")
  match r.failure with
  | some message => IO.eprintln ("Error: " ++ message)
  | none => pure ()
  return r.exitCode.toUInt32

/-- The program that runs under a path. -/
def programAt (path : Path) : Program :=
  if path.fileName? = some (Name.ofText Program.checker.name) then .checker else .server

end Programs

end DialogueScript

open DialogueScript Programs in
/-- Runs the program by whose name it is called. -/
def main (args : List String) : IO UInt32 := do
  let app ← IO.appPath
  let program := programAt (.ofText app.toString)
  let e ← environment
  let d ← diskFor (startPaths program e (← workingDirectory) args)
  match program with
  | .checker => conclude .checker (Checker.run d e args)
  | .server =>
    match Stream.begin d e args with
    | .error r => conclude .server r
    | .ok s =>
      serve (← IO.getStdin) (← IO.getStdout) s
      return 0
