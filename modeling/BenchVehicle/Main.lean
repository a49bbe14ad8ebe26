import BenchVehicle.Session

/-!
# The command line

Sets a bench up from the configuration file named by the first argument or by the environment, and
performs one command a line of the standard input. All that is decided is decided in `Session`;
here files, clock and streams are read and answers written.
-/

namespace BenchVehicle.Program

/-- What is said of the settings in the environment. -/
def environment : IO Environment := do
  return { overrideEnabled := ← IO.getEnv "VHAL_SIM_OVERRIDE_ENABLED"
           overrideDir := ← IO.getEnv "VHAL_SIM_OVERRIDE_DIR" }

/-- The bytes of a file, if it is there. -/
def content? (path : String) : IO (Option ByteArray) := do
  try return some (← IO.FS.readBinFile path)
  catch _ => return none

/-- The regular files of a directory, if it is there. -/
def filesOf? (dir : String) : IO (Option (List OverrideFile)) := do
  try
    let entries ← ((← IO.currentDir) / dir).readDir
    let files ← entries.toList.filterMapM fun entry => do
      return (← content? entry.path.toString).map fun content => { name := entry.fileName, content }
    return some files
  catch _ => return none

/-- The configuration of the file at a path, or the usual one. -/
def configuration (path : Option String) : IO (Except ConfigError Config) := do
  let c ← match path with
    | some path => pure (Config.ofFile path (← content? path))
    | none => pure (.ok {})
  let e ← environment
  return c.map (Config.apply e)

/-- Nanoseconds since the start. -/
def elapsed (start : Nat) : IO Int64 := return Int64.ofNat ((← IO.monoNanosNow) - start)

/-- Performs the commands of the lines that have ended, up to one that is no text or goes down. Gives
the bytes of the line that has not ended. -/
partial def performLines (start : Nat) (bytes : List UInt8) (s : Session) :
    IO (Option (List UInt8 × Session)) := do
  if !bytes.contains 10 then return some (bytes, s)
  else
    let (line, rest) := Session.splitLine bytes
    let s := s.waitUntil (← elapsed start) 100000
    match (String.fromUTF8? ⟨line.toArray⟩).bind s.perform? with
    | none => return none
    | some (printed, s) =>
      IO.print printed
      (← IO.getStdout).flush
      performLines start rest s

/-- Performs the commands of a stream until it ends. `pending` holds the bytes of a line that has
not ended. -/
partial def serve (start : Nat) (input : IO.FS.Stream) (pending : List UInt8) (s : Session) :
    IO UInt32 := do
  let chunk ← input.read 4096
  if chunk.isEmpty then
    let (printed, finished) := s.performAll pending
    IO.print printed
    return if finished then 0 else 1
  else
    match ← performLines start (pending ++ chunk.toList) s with
    | some (pending, s) => serve start input pending s
    | none => return 1

/-- Sets a bench up and serves the standard input. -/
def run (arguments : List String) : IO UInt32 := do
  let start ← IO.monoNanosNow
  let path := arguments.head?.or (← IO.getEnv "VHAL_SIM_CONFIG")
  match ← configuration path with
  | .error e =>
    IO.eprintln ("Error: " ++ e.message)
    return 1
  | .ok c =>
    let files ← filesOf? c.settings.overrideDir
    serve start (← IO.getStdin) [] (Session.start c files (.ticking (← elapsed start)))

end BenchVehicle.Program

/-- The program. -/
def main (arguments : List String) : IO UInt32 := BenchVehicle.Program.run arguments
