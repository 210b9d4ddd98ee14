import QueryNav.CommandLine
import QueryNav.Json.Reader
import QueryNav.Server.Wire

/-! The program. It reads the arguments, looks at the disk where the library says that it matters, and
prints; as a language server it exchanges framed values over its standard streams. -/

namespace QueryNav.Main

open Server

def isFolder (path : Text) : IO Bool := do
  try
    let _ ← IO.FS.realPath (String.ofList (path ++ ['/', '.']))
    return true
  catch _ => return false

/-- Puts what stands at a place onto the picture of the disk, if anything does. -/
def look (disk : Disk) (place : Place) : IO Disk := do
  let path := (Disk.pathOf place).text
  if ← isFolder path then return disk.addFolder place
  try
    let bytes ← IO.FS.readBinFile (String.ofList path)
    return disk.addFile place bytes
  catch _ => return disk

/-- Puts everything on the way to a path onto the picture of the disk. -/
def observe (disk : Disk) (path : Path) : IO Disk := do
  if path.text.contains (Char.ofNat 0) then return disk
  let start := if path.isAbsolute then [] else disk.workingFolder
  let mut disk := disk
  let mut place : Place := start
  for piece in Text.pieces '/' path.text do
    if piece = ['.', '.'] then place := place.dropLast
    else if !Path.isFiller piece then
      place := place ++ [piece]
      disk ← look disk place
  return disk

def observeAll (disk : Disk) (paths : List Path) : IO Disk := paths.foldlM observe disk

/-- A picture of the disk that shows nothing but the working folder. -/
def workingDisk : IO Disk := do
  let here ← IO.currentDir
  let place := (Text.pieces '/' (toString here).toList).filter fun name => !Path.isFiller name
  return { Disk.empty.addFolder place with workingFolder := place }

/-- The picture of the disk for a report on a file. -/
def reportDisk (path : Path) : IO Disk := do
  let disk ← observe (← workingDisk) path
  match disk.canonical path with
  | .ok absolute =>
    match disk.readText absolute with
    | .ok text => observeAll disk (Project.probes .standard absolute text.lines)
    | .error _ => return disk
  | .error _ => return disk

/-- The picture of the disk for a request. -/
def requestDisk (state : State) : Request → IO Disk
  | .definition parameters => do
    let disk ← workingDisk
    match Parameters.cursor? parameters with
    | some (uri, _) =>
      match uri.toPath?, state.documents.get? uri.text with
      | some path, some document =>
        observeAll disk (Project.probes state.settings.layout path (Buffer.lines document.text))
      | _, _ => return disk
    | none => return disk
  | _ => workingDisk

/-- Writes a value behind the header that tells its length. -/
def send (json : Json) : IO Unit := do
  let body := (String.ofList (json.print .compact)).toUTF8
  let sink ← IO.getStdout
  sink.putStr ("Content-Length: " ++ toString body.size ++ "\r\n\r\n")
  sink.write body
  sink.flush

/-- The length that a header line tells. -/
def lengthIn? (line : String) : Option Nat := do
  let rest ← Text.after? "content-length:".toList (line.toList.map Text.lowerAscii)
  (String.ofList (Text.trim rest)).toNat?

/-- Reads the header of a value up to the empty line; none at the end of the input. -/
partial def readHeader (source : IO.FS.Stream) (length? : Option Nat) : IO (Option Nat) := do
  let line ← source.getLine
  if line.isEmpty then return none
  if (Text.trim line.toList).isEmpty then
    match length? with
    | some length => return some length
    | none => readHeader source none
  else readHeader source ((lengthIn? line).or length?)

/-- Reads a number of bytes, or as many as there are. -/
partial def readBytes (source : IO.FS.Stream) (count : Nat) (done : ByteArray) : IO ByteArray := do
  if count ≤ done.size then return done
  let more ← source.read (count - done.size).toUSize
  if more.isEmpty then return done
  readBytes source count (done ++ more)

/-- Reads the next envelope; none at the end of the input. What is no envelope is skipped. -/
partial def receive : IO (Option Wire.Incoming) := do
  let source ← IO.getStdin
  match ← readHeader source none with
  | none => return none
  | some length =>
    let body ← readBytes source length ByteArray.empty
    match (String.fromUTF8? body).bind fun text => Json.read? text.toList with
    | some json =>
      match Wire.Incoming.ofJson? json with
      | some incoming => return some incoming
      | none => receive
    | none => receive

/-- Hands a message over, and sends what comes of it; a reply goes under the identifier of its request. -/
def handle (state : State) (disk : Disk) (message : Message) (id : Json) : IO State := do
  let (next, outcome) := state.step disk message
  if let .handled reply? sent := outcome then
    sent.forM fun message => send (Wire.clientJson message)
    reply?.forM fun reply => send (Wire.replyJson id reply)
  return next

/-- Serves the editor until the session or the input ends. -/
partial def serve (state : State) : IO Unit := do
  if state.phase = .exited then return
  match ← receive with
  | none => return
  | some (.request id method parameters) =>
    match Wire.request? method parameters with
    | some request => serve (← handle state (← requestDisk state request) (.request request) id)
    | none =>
      send (Wire.unknownMethodJson id)
      serve state
  | some (.notification method parameters) =>
    match Wire.notification? method parameters with
    | some notification => serve (← handle state (← workingDisk) (.notification notification) .null)
    | none => serve state
  | some (.answer number answer) => serve (← handle state (← workingDisk) (.answer number answer) .null)

def run (arguments : List Text) : IO UInt32 := do
  let disk ← match CommandLine.task arguments with
    | .ok (.analyze path _) => reportDisk path
    | _ => workingDisk
  match CommandLine.outcome? disk arguments with
  | some outcome =>
    IO.print (String.ofList outcome.output)
    IO.eprint (String.ofList outcome.errors)
    return outcome.exitCode.toUInt32
  | none =>
    serve .fresh
    return 0

end QueryNav.Main

def main (arguments : List String) : IO UInt32 :=
  QueryNav.Main.run (arguments.map String.toList)
