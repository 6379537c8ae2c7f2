/-
# The program

The command line itself: it reads the arguments, the environment and the files they name, and carries
the request out on the real streams.  All decisions are those of `MonkeyTokens.Command` and, byte by
byte, of `Session.receive`; this file only asks for bytes and lets the steps of a script happen one
after the other.
-/
import MonkeyTokens.Command
import Std.Time

namespace MonkeyTokens

/-! ## 1. Faults -/

/-- The number of a system fault; it may arrive negated. -/
def faultCode (code : UInt32) : Nat :=
  code.toInt32.toInt.natAbs

/-- The fault that an exception reports. -/
def Fault.ofException (e : IO.Error) : Fault :=
  match e with
  | .noFileOrDirectory .. => .system .notFound
  | .permissionDenied .. => .system .permissionDenied
  | .inappropriateType _ code _ =>
    .system (if faultCode code = 20 then .notADirectory else .isADirectory)
  | .resourceExhausted .. => .system .storageFull
  | .resourceVanished .. => .system .brokenPipe
  | .otherError code details => .system ⟨faultCode code, "Uncategorized", details⟩
  | e => .stream (toString e)

/-- What stands at a path. -/
def entryAt (path : String) : IO Entry := do
  try
    return .file (← IO.FS.readBinFile path).toList
  catch e =>
    match Fault.ofException e with
    | .system fault =>
      if fault = .notFound ∨ fault = .notADirectory then return .absent (.system fault)
      else return .blocked (.system fault)
    | fault => return .blocked fault

/-! ## 2. What the program runs in -/

/-- The variables that the program asks for. -/
def variableNames : List String :=
  ["HOME", "XDG_CONFIG_HOME", "MONKEY_CONFIG", "MONKEY_VERBOSE", "MONKEY_NO_COLOR", "RUST_LOG",
    "USER", "USERNAME"]

/-- The environment, as far as the program asks for it. -/
def readEnvironment : IO Environment := do
  let pairs ← variableNames.filterMapM fun name => do
    return (← IO.getEnv name).map (name, ·)
  return fun name => pairs.lookup name

/-- The files that a request may ask for. -/
def Request.paths (r : Request) (env : Environment) : List String :=
  let source :=
    match r.action with
    | .dump path .. => sourceFile? path
    | .session .. => none
  r.config.toList ++ Settings.places env none ++ source.toList

/-- What stands at each of some paths. -/
def readFiles (paths : List String) : IO FileSystem := do
  let pairs ← paths.mapM fun path => do return (path, ← entryAt path)
  return fun path => (pairs.lookup path).getD (.absent (.system .notFound))

/-! ## 3. Steps on the real streams -/

/-- The time, for a log line. -/
def timeStamp : IO String := do
  let now := Std.Time.DateTime.ofTimestamp (← Std.Time.Timestamp.now) .UTC
  return now.format "uuuu-MM-dd'T'HH:mm:ss.SSSSSS'Z'"

/-- Where steps happen. -/
structure Stage where
  request : Request
  environment : Environment
  filter : Filter

/-- Lets one step happen. -/
def Stage.perform (stage : Stage) (step : Step) : ExceptT Error IO Unit := do
  match step with
  | .report e =>
    let time ← timeStamp
    match stage.request.logLine? stage.filter time e with
    | some line => (← IO.getStderr).putStrLn line
    | none => pure ()
  | .write part bytes =>
    let out ← IO.getStdout
    let written ← (out.write bytes.toByteArray *> out.flush).toBaseIO
    match written with
    | .ok () => pure ()
    | .error e => throw (part.error (.ofException e))

/-- Lets a script happen. -/
def Stage.play {α : Type} (stage : Stage) (script : Script α) : ExceptT Error IO α := do
  script.steps.forM stage.perform
  ExceptT.mk (pure script.result)

/-- Asks the input for at most `limit` bytes.  If there are none, the ending says why. -/
def askBytes (input : IO.FS.Stream) (limit : USize) : IO (Array UInt8 × Ending) := do
  match ← (input.read limit).toBaseIO with
  | .error e => return (#[], .broken (.ofException e))
  | .ok chunk => return (chunk.data, .endOfInput)

/-- Asks the input for a byte. -/
def askByte (input : IO.FS.Stream) : IO Received := do
  let (bytes, ending) ← askBytes input 1
  return match bytes[0]? with
    | some b => .byte b
    | none => .ending ending

/-- Holds a session.  What is to be done about a byte is done before the next one is asked for; on a
whole input that comes to the script of the session (`session_byte_by_byte`). -/
def Stage.hold (stage : Stage) (s : Session) (input : IO.FS.Stream) : ExceptT Error IO Unit := do
  s.greet.forM stage.perform
  let mut progress := Session.Progress.start
  repeat
    match ← stage.play (s.receive progress (← askByte input)) with
    | some further => progress := further
    | none => break

/-- Reads all that is left of the input. -/
def readAll (input : IO.FS.Stream) : IO Input := do
  let mut bytes := #[]
  let mut ending := Ending.endOfInput
  repeat
    let (more, reason) ← askBytes input 65536
    if more.isEmpty then
      ending := reason
      break
    bytes := bytes ++ more
  return ⟨bytes.toList, ending⟩

/-- Carries a request out. -/
def Stage.run (stage : Stage) : ExceptT Error IO Unit := do
  let files ← readFiles (stage.request.paths stage.environment)
  let host : Host := ⟨stage.environment, none, files, ⟨[], .endOfInput⟩⟩
  let (task, before) ← ExceptT.mk (pure (stage.request.task host))
  before.forM stage.perform
  match task with
  | .session s => stage.hold s (← IO.getStdin)
  | .dump path .. =>
    let input ← if (sourceFile? path).isSome then pure host.input
      else do readAll (← IO.getStdin)
    stage.play (task.script files input)

end MonkeyTokens

open MonkeyTokens in
/-- The program, on the words behind its name. -/
def main (words : List String) : IO UInt32 := do
  let environment ← readEnvironment
  let stderr ← IO.getStderr
  match Request.read environment words with
  | .error stop =>
    let report := stop.report
    (← IO.getStdout).write report.output.toByteArray
    report.log.forM stderr.putStrLn
    return UInt32.ofNat report.exitCode
  | .ok request =>
    match ← (Stage.run ⟨request, environment, request.filter environment⟩).run with
    | .ok () => return 0
    | .error e =>
      stderr.putStrLn e.line
      return 1
