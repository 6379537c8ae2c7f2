/-
# Arguments

The words behind the program's name.  They are read from left to right in a scope, the program's
first and then that of a subcommand, and each scope has its options (`Scope.allows`); the options
that concern logging and settings are known in all of them.

An option is written in one of four ways, `--name value`, `--name=value`, `-n value` and `-nvalue`
(or `-n=value`); flags, which take no value, may share one hyphen.  Behind `--` every word is an
operand.  No option stands twice in one scope.

Asking for help or for the version stops the reading where it is asked for (`Stop`).  A value that
stands as a word of its own is judged only when the next option of its scope turns up, or at the end
of the scope (`Given.settle`): so `-F bad -V` is refused, but the version of a subcommand is told
before the values in front of the subcommand are judged.
-/
import MonkeyTokens.Record

namespace MonkeyTokens

/-! ## 1. Scopes and options -/

/-- Where a word stands: behind the program's name, or behind that of a subcommand. -/
inductive Scope where
  | program
  | repl
  | tokenize
  deriving DecidableEq

/-- Options without a value. -/
inductive Flag where
  | verbose
  | noColor
  | noGreeting
  | denyIllegal
  deriving DecidableEq

/-- Options and operands with a value. -/
inductive Parameter where
  | config
  | prompt
  | format
  | input
  deriving DecidableEq

/-- What an option asks for. -/
inductive Opt where
  | help
  | version
  | flag (f : Flag)
  | parameter (p : Parameter)
  deriving DecidableEq

namespace Opt

def all : List Opt :=
  [.help, .version, .flag .verbose, .flag .noColor, .flag .noGreeting, .flag .denyIllegal,
    .parameter .config, .parameter .prompt, .parameter .format]

/-- The name of an option behind two hyphens; operands have none. -/
def long? : Opt → Option String
  | .help => some "help"
  | .version => some "version"
  | .flag .verbose => some "verbose"
  | .flag .noColor => some "no-color"
  | .flag .noGreeting => some "no-greeting"
  | .flag .denyIllegal => some "deny-illegal"
  | .parameter .config => some "config"
  | .parameter .prompt => some "prompt"
  | .parameter .format => some "format"
  | .parameter .input => none

/-- The letter of an option behind one hyphen. -/
def short? : Opt → Option Char
  | .help => some 'h'
  | .version => some 'V'
  | .flag .verbose => some 'v'
  | .parameter .config => some 'c'
  | .parameter .prompt => some 'p'
  | .parameter .format => some 'F'
  | _ => none

/-- What an option is for. -/
def summary : Opt → String
  | .help => "Print help"
  | .version => "Print version"
  | .flag .verbose => "Enable verbose output"
  | .flag .noColor => "Disable color output"
  | .flag .noGreeting => "Do not print the welcome banner"
  | .flag .denyIllegal => "Exit with an error if the source contains illegal characters"
  | .parameter .config => "Path to configuration file"
  | .parameter .prompt => "Prompt shown before each line (default: from config)"
  | .parameter .format => "Token output format (default: from config)"
  | .parameter .input => "Source file to tokenize (\"-\" or omitted for stdin)"

end Opt

/-- The options that a scope knows. -/
def Scope.allows : Scope → Opt → Bool
  | _, .help | _, .version | _, .flag .verbose | _, .flag .noColor | _, .parameter .config => true
  | .repl, .parameter .prompt | .repl, .flag .noGreeting | .repl, .parameter .format => true
  | .tokenize, .parameter .format | .tokenize, .flag .denyIllegal => true
  | _, _ => false

/-- The option of a scope with a name. -/
def Scope.long? (scope : Scope) (name : String) : Option Opt :=
  Opt.all.find? fun o => scope.allows o && o.long? == some name

/-- The option of a scope with a letter. -/
def Scope.short? (scope : Scope) (letter : Char) : Option Opt :=
  Opt.all.find? fun o => scope.allows o && o.short? == some letter

/-- The scope that a subcommand opens. -/
def Scope.ofName? (word : String) : Option Scope :=
  if word = "repl" then some .repl else if word = "tokenize" then some .tokenize else none

/-- What a scope is for. -/
def Scope.summary : Scope → String
  | .program => "REPL and tokenizer for the Monkey programming language"
  | .repl => "Start the interactive REPL"
  | .tokenize => "Print every token of a source file"

/-- The name under which a scope tells its version. -/
def Scope.title : Scope → String
  | .program => "monkey"
  | .repl => "monkey-repl"
  | .tokenize => "monkey-tokenize"

/-! ## 2. Why reading stops -/

/-- Why a command line, or the environment where it stands in for one, is refused. -/
inductive UsageError where
  | unexpected (word : String)
  | missingValue (p : Parameter)
  | valueOfFlag (name : String)
  | repeated (name : String)
  | invalidValue (value : String)
  deriving DecidableEq

/-- The text of a refusal.  What is at fault and why is decided by the reading; the wording is this
module's own, and nobody is to rely on it. -/
def UsageError.message : UsageError → String
  | .unexpected word => "unexpected argument '" ++ word ++ "'"
  | .missingValue p => "a value is required for '--" ++ ((Opt.parameter p).long?.getD "") ++ "'"
  | .valueOfFlag name => "'--" ++ name ++ "' takes no value"
  | .repeated name => "'" ++ name ++ "' cannot be used twice"
  | .invalidValue value => "invalid value '" ++ value ++ "'"

/-- An end of the reading before the last word. -/
inductive Stop where
  | usage (e : UsageError)
  | help (scope : Scope)
  | version (scope : Scope)
  deriving DecidableEq

def Stop.unexpected {α : Type} (word : String) : Except Stop α :=
  .error (.usage (.unexpected word))

/-! ## 3. What was given in a scope -/

/-- The options and operands of one scope. -/
structure Given where
  flags : List Flag := []
  config : Option String := none
  prompt : Option String := none
  format : Option Format := none
  input : Option String := none
  /-- A value that has not been judged yet. -/
  pending : Option (Parameter × String) := none
  deriving DecidableEq

namespace Given

def invalid {α : Type} (value : String) : Except Stop α :=
  .error (.usage (.invalidValue value))

/-- Takes a value, if its parameter has none so far and the value can be one: a path is not empty
and a format is the name of one. -/
def store (g : Given) (p : Parameter) (value : String) : Except Stop Given :=
  match p with
  | .config =>
    if g.config.isSome then .error (.usage (.repeated "--config"))
    else if value.isEmpty then invalid value
    else .ok { g with config := some value }
  | .prompt =>
    if g.prompt.isSome then .error (.usage (.repeated "--prompt"))
    else .ok { g with prompt := some value }
  | .format =>
    if g.format.isSome then .error (.usage (.repeated "--format"))
    else
      match Format.ofName? value with
      | some f => .ok { g with format := some f }
      | none => invalid value
  | .input =>
    if value.isEmpty then invalid value else .ok { g with input := some value }

/-- Judges the value that has not been judged yet. -/
def settle (g : Given) : Except Stop Given :=
  match g.pending with
  | none => .ok g
  | some (p, value) => { g with pending := none }.store p value

/-- Takes a value that stands in the same word as its option. -/
def take (g : Given) (p : Parameter) (value : String) : Except Stop Given := do
  (← g.settle).store p value

/-- Takes a flag. -/
def mark (g : Given) (f : Flag) : Except Stop Given := do
  let g ← g.settle
  if g.flags.contains f then
    .error (.usage (.repeated ("--" ++ ((Opt.flag f).long?.getD ""))))
  else return { g with flags := f :: g.flags }

/-- Takes an operand, of which only the source of a dump is one. -/
def operand (g : Given) (scope : Scope) (word : String) : Except Stop Given := do
  match scope, g.input, g.pending with
  | .tokenize, none, some (.input, _) => Stop.unexpected word
  | .tokenize, none, _ => return { ← g.settle with pending := some (.input, word) }
  | _, _, _ => Stop.unexpected word

end Given

/-! ## 4. Single words -/

/-- What a word looks like, before it is known whether there is such an option. -/
inductive Word where
  | separator
  | long (name : String) (value : Option String)
  | short (letters : List Char)
  | plain

/-- A lone hyphen is no option. -/
def Word.ofText (text : String) : Word :=
  match text.toList with
  | ['-', '-'] => .separator
  | '-' :: '-' :: cs =>
    .long (String.ofList (cs.takeWhile (· != '=')))
      (match cs.dropWhile (· != '=') with
        | [] => none
        | _ :: value => some (String.ofList value))
  | '-' :: c :: cs => .short (c :: cs)
  | _ => .plain

/-- How the next word is read. -/
inductive Mode where
  /-- As an option, a subcommand or an operand. -/
  | any
  /-- As the value of a parameter. -/
  | value (p : Parameter)
  /-- As an operand. -/
  | operand

/-- Takes an option by its name, with the value in the same word if there is one. -/
def readLong (scope : Scope) (g : Given) (name : String) (value : Option String) :
    Except Stop (Given × Mode) :=
  match scope.long? name, value with
  | none, _ => Stop.unexpected ("--" ++ name)
  | some (.parameter p), some v => do return (← g.take p v, .any)
  | some (.parameter p), none => do return (← g.settle, .value p)
  | some _, some _ => .error (.usage (.valueOfFlag name))
  | some (.flag f), none => do return (← g.mark f, .any)
  | some .help, none => do let _ ← g.settle; .error (.help scope)
  | some .version, none => do let _ ← g.settle; .error (.version scope)

/-- Takes the options of a word with one hyphen. -/
def readShort (scope : Scope) (g : Given) : List Char → Except Stop (Given × Mode)
  | [] => .ok (g, .any)
  | letter :: rest =>
    match scope.short? letter with
    | none => Stop.unexpected (String.ofList ['-', letter])
    | some (.parameter p) =>
      match rest with
      | [] => do return (← g.settle, .value p)
      | '=' :: value => do return (← g.take p (String.ofList value), .any)
      | value => do return (← g.take p (String.ofList value), .any)
    | some (.flag f) => do readShort scope (← g.mark f) rest
    | some .help => do let _ ← g.settle; .error (.help scope)
    | some .version => do let _ ← g.settle; .error (.version scope)

/-- What stands behind the word `help`: nothing, or a subcommand. -/
def readHelp : List String → Stop
  | [] => .help .program
  | word :: rest =>
    match Scope.ofName? word, rest with
    | some scope, [] => .help scope
    | none, [] => if word = "help" then .help .program else .usage (.unexpected word)
    | _, _ => .usage (.unexpected word)

/-! ## 5. All words -/

/-- The words of one scope, and the subcommand that ends it with the words behind. -/
structure Reading where
  given : Given
  subcommand : Option (Scope × List String)

/-- Reads the words of a scope. -/
def readWords (scope : Scope) : Mode → Given → List String → Except Stop Reading
  | .value p, _, [] => .error (.usage (.missingValue p))
  | _, g, [] => .ok ⟨g, none⟩
  | .value p, g, word :: words =>
    match Word.ofText word with
    | .plain => readWords scope .any { g with pending := some (p, word) } words
    | _ => .error (.usage (.missingValue p))
  | .operand, g, word :: words => do
    readWords scope .operand (← g.operand scope word) words
  | .any, g, word :: words =>
    match Word.ofText word with
    | .separator => readWords scope .operand g words
    | .long name value => do
      let (g, mode) ← readLong scope g name value
      readWords scope mode g words
    | .short letters => do
      let (g, mode) ← readShort scope g letters
      readWords scope mode g words
    | .plain =>
      if scope = .program then
        match Scope.ofName? word with
        | some sub => .ok ⟨g, some (sub, words)⟩
        | none => if word = "help" then .error (readHelp words) else Stop.unexpected word
      else do readWords scope .any (← g.operand scope word) words

end MonkeyTokens
