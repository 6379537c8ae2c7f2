/-
# The command

What the program does with its arguments in the surroundings it runs in (`Host`), and what becomes
visible of it: an exit code, the output, and the lines of the log (`Report`).

A request is carried out as a script.  Settings come first: if they fail, no source is read and
nothing is written.  Options go before settings, and settings before defaults (`Action.task`).  The
log has no part in the output or the exit code; it shows those of the script's events that its
filter admits, and the error if there is one.
-/
import MonkeyTokens.Command.Search
import MonkeyTokens.Dump
import MonkeyTokens.Event.Filter.Clause
import MonkeyTokens.Event.Line
import MonkeyTokens.Session

namespace MonkeyTokens

/-! ## 1. Tasks -/

/-- What the program runs in.  Its paths, like the words of the command line and the variables of the
environment, are strings; what is not UTF-8 is not among them. -/
structure Host where
  environment : Environment
  /-- The directory of the account, where the environment names none. -/
  account : Option String
  files : FileSystem
  input : Input

/-- What is left to do once the settings are known. -/
inductive Task where
  | session (s : Session)
  | dump (path : Option String) (format : Format) (denyIllegal : Bool)

/-- The task of an action under settings, for a user. -/
def Action.task (settings : Settings) (user : String) : Action → Task
  | .session prompt noGreeting format =>
    .session
      { prompt := prompt.getD settings.prompt
        greeting := settings.greeting && !noGreeting
        user
        format := format.getD settings.format }
  | .dump path format denyIllegal => .dump path (format.getD settings.format) denyIllegal

/-- The path is a lone hyphen; slashes and dots behind it lead nowhere else. -/
def isHyphen (path : String) : Bool :=
  match path.splitOn "/" with
  | "-" :: names => names.all fun name => name == "" || name == "."
  | _ => false

/-- The file that a dump reads; without one, or with a lone hyphen, it reads the input. -/
def sourceFile? (path : Option String) : Option String :=
  path.filter (!isHyphen ·)

/-- The bytes of the input, all of them. -/
def Input.all (input : Input) : Except Error Bytes :=
  match input.ending with
  | .endOfInput => .ok input.bytes
  | .broken fault => .error (.io fault)

/-- The bytes of a source file. -/
def readSource (files : FileSystem) (path : String) : Except Error Bytes :=
  (files path).read.mapError fun fault => .fileOperation (path ++ ": " ++ fault.message)

/-! ## 2. Scripts of tasks -/

/-- The dump of bytes that may not have been there. -/
def dumpRead (format : Format) (denyIllegal : Bool) (source : Except Error Bytes) : Script Unit :=
  match source with
  | .ok bytes => (dump format denyIllegal bytes).discard
  | .error e => .fail e

/-- The script of a task. -/
def Task.script (files : FileSystem) (input : Input) : Task → Script Unit
  | .session s => s.script input
  | .dump path format denyIllegal =>
    match sourceFile? path with
    | some path =>
      (dumpRead format denyIllegal (readSource files path)).after [.report (.readingSource path)]
    | none => dumpRead format denyIllegal input.all

/-- The user of a host, as the banner names him. -/
def Host.user (host : Host) : String :=
  greetedName (host.environment "USER") (host.environment "USERNAME")

/-- What is done before the task itself: the settings are found. -/
def Request.task (r : Request) (host : Host) : Except Error (Task × List Step) := do
  let (settings, path) ←
    Settings.find host.files r.config (Settings.places host.environment host.account)
  return (r.action.task settings host.user,
    path.toList.map fun path => .report (.loadedConfiguration path))

/-- The script of a request. -/
def Request.script (r : Request) (host : Host) : Script Unit :=
  match r.task host with
  | .error e => .fail e
  | .ok (task, before) => (task.script host.files host.input).after before

/-! ## 3. The log -/

/-- The filter of a request: everything but the finest where it is to be verbose, else what the
environment asks for, if that can be read. -/
def Request.filter (r : Request) (env : Environment) : Filter :=
  if r.verbose then .upTo .debug
  else ((env "RUST_LOG").bind Filter.ofText?).getD (.upTo .info)

/-- The log line of an event, if it is to be logged. -/
def Request.logLine? (r : Request) (filter : Filter) (time : String) (e : Event) : Option String :=
  if filter.admits e then some (e.line time (!r.noColor)) else none

/-- The line that ends the log of a failing command. -/
def Error.line (e : Error) : String :=
  "Error: " ++ e.diagnostic

/-! ## 4. Reports -/

/-- What becomes visible of a run. -/
structure Report where
  exitCode : Nat
  output : Bytes
  /-- The entries of the log, each on a line of its own; a path with a line feed in it makes more
  than one line of its entry. -/
  log : List String

/-- The version that every scope tells. -/
def versionNumber : String := "0.1.0"

/-- An entry of a help text: a name, and what it is for. -/
def helpEntry (name summary : String) : String :=
  "  " ++ name ++ "\n          " ++ summary ++ "\n"

/-- How an option is written. -/
def Opt.usage (o : Opt) : String :=
  let long := "--" ++ o.long?.getD ""
  let names := o.short?.elim long fun c => "-" ++ String.singleton c ++ ", " ++ long
  match o with
  | .parameter _ => names ++ " <VALUE>"
  | _ => names

/-- How a scope is used, and its subcommands or operands. -/
def Scope.usage : Scope → String
  | .program =>
    "monkey [OPTIONS] [COMMAND]\n\nCommands:\n" ++ helpEntry "repl" Scope.repl.summary ++
      helpEntry "tokenize" Scope.tokenize.summary ++ helpEntry "help" Opt.help.summary
  | .repl => "monkey repl [OPTIONS]\n"
  | .tokenize =>
    "monkey tokenize [OPTIONS] [INPUT]\n\nArguments:\n" ++
      helpEntry "[INPUT]" (Opt.parameter .input).summary

/-- The help of a scope.  Which subcommands, operands and options there are and what is said of them
is the program's; how that is laid out is this module's own. -/
def Scope.help (scope : Scope) : String :=
  let options := Opt.all.filter scope.allows
  scope.summary ++ "\n\nUsage: " ++ scope.usage ++ "\nOptions:\n" ++
    String.join (options.map fun o => helpEntry o.usage o.summary)

/-- The report of a command line that asks for no work. -/
def Stop.report : Stop → Report
  | .usage e => ⟨2, [], ["error: " ++ e.message]⟩
  | .help scope => ⟨0, Text.utf8String scope.help, []⟩
  | .version scope => ⟨0, Text.utf8String (scope.title ++ " " ++ versionNumber ++ "\n"), []⟩

/-- The report of a request, with the same time on every log line. -/
def Request.report (r : Request) (host : Host) (time : String) : Report :=
  let script := r.script host
  let lines := script.events.filterMap (r.logLine? (r.filter host.environment) time)
  match script.result with
  | .ok () => ⟨0, script.output, lines⟩
  | .error e => ⟨1, script.output, lines ++ [e.line]⟩

/-- Runs the program. -/
def run (host : Host) (time : String) (words : List String) : Report :=
  match Request.read host.environment words with
  | .error stop => stop.report
  | .ok request => request.report host time

end MonkeyTokens
