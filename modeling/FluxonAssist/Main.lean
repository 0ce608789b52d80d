import FluxonAssist.CommandLine
import FluxonAssist.Files.Tree
import FluxonAssist.Json.Reader
import FluxonAssist.Protocol.Decode
import FluxonAssist.Protocol.Frame

/-!
# The program

Reads messages from standard input, hands them to the server and writes its answers to standard
output. Before each message the clock is advanced by the time that has passed, and the catalog files
that a load could try are looked at.
-/
set_option autoImplicit false
namespace FluxonAssist.Program

/-- What is read from a path of the real file system; `none` if the path does not exist. -/
def look (path : String) : IO (Option (Except ReadFailure String)) := do
  try
    return some (FileItem.ofBytes (← IO.FS.readBinFile path)).read
  catch error =>
    match error with
    | .noFileOrDirectory .. => return none
    | .inappropriateType .. => return some (.error .isDirectory)
    | _ => return some (.error (.other (toString error)))

/-- The disk that shows the given paths and nothing else. -/
def diskOf (paths : List String) : IO Disk := do
  let mut rows : List (String × Except ReadFailure String) := []
  for path in paths do
    if let some content ← look path then
      rows := (path, content) :: rows
  let seen := rows
  return {
    has := fun path => (seen.lookup path).isSome
    read := fun path => (seen.lookup path).getD (.error .missing) }

def candidatePaths (server : Server) (override : Option String) (request : Request) : List String :=
  let settings := match request with
    | .configure payload => [Settings.ofPayload (some payload), server.engine.settings]
    | _ => [server.engine.settings]
  server.fallback ::
    settings.map fun settings => settings.resolvedCatalogPath override server.root

def mayLoad : Request → Bool
  | .ready => true
  | .configure _ => true
  | .command _ => true
  | _ => false

def send (output : IO.FS.Stream) (message : Json) : IO Unit := do
  output.putStr (Protocol.frame message)
  output.flush

/-- Reads the header lines of a message and gives its length; `none` at the end of the input. -/
partial def readLength (input : IO.FS.Stream) (length : Option Nat) : IO (Option Nat) := do
  let line ← input.getLine
  if line.isEmpty then return none
  else if (line.toList.filter fun c => c != '\r' && c != '\n').isEmpty then
    return some (length.getD 0)
  else readLength input ((Protocol.contentLength? line).or length)

partial def readOctets (input : IO.FS.Stream) (count : Nat) (done : ByteArray) : IO ByteArray := do
  if count ≤ done.size then return done
  else
    let more ← input.read (USize.ofNat (count - done.size))
    if more.isEmpty then return done else readOctets input count (done ++ more)

/-- Answers messages until the input ends or the client asks for the exit. -/
partial def serve (input output : IO.FS.Stream) (server : Server) (time : Nat) : IO Unit := do
  let some length ← readLength input none | return
  let body ← readOctets input length ByteArray.empty
  let now ← IO.monoMsNow
  let server := server.elapse (now - time)
  match ((String.fromUTF8? body).bind Json.parse?).bind Protocol.incoming? with
  | none => serve input output server now
  | some message =>
    if message.method = "exit" then return
    match Protocol.request? message.method message.params with
    | none =>
      if let some id := message.id then send output (Protocol.notUnderstood id)
      serve input output server now
    | some request =>
      let override ← IO.getEnv "FLUXON_CATALOG_PATH"
      let disk ← diskOf (if mayLoad request then candidatePaths server override request else [])
      let (reply, messages, server) := server.step ⟨disk, override⟩ request
      for text in messages do
        send output (Protocol.showMessage text)
      if let some id := message.id then send output (Protocol.response id reply)
      serve input output server now

def fallbackBeside (program : String) : String :=
  let directory := (program.toList.reverse.dropWhile fun c => c != '/').reverse
  String.ofList directory ++ Settings.fallbackBesideProgram

end FluxonAssist.Program

open FluxonAssist in
def main (arguments : List String) : IO UInt32 := do
  match CommandLine.parse arguments with
  | .error error =>
    IO.eprintln error.message
    return 2
  | .ok .showHelp =>
    IO.print CommandLine.help
    return 0
  | .ok .showVersion =>
    IO.println (Protocol.serverName ++ " " ++ Protocol.serverVersion)
    return 0
  | .ok (.serve options) =>
    let program ← IO.appPath
    let fallback := options.fallbackCatalog.getD (Program.fallbackBeside (toString program))
    Program.serve (← IO.getStdin) (← IO.getStdout) { fallback } (← IO.monoMsNow)
    return 0
