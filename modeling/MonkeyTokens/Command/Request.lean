/-
# Requests

What a command line and the environment ask for together.  The options of logging and settings may
stand in front of a subcommand or behind it, and where they do not stand at all the environment is
asked; the nearest to the subcommand counts.  In each scope that a command line uses, the environment
has to make sense for the options that the scope leaves out, even if the other scope has them.
-/
import MonkeyTokens.Command.Arguments

namespace MonkeyTokens

/-- The variables of the environment.  Names and values are strings: a variable whose value is not
UTF-8 has no place here, and neither has a word of a command line that is not. -/
abbrev Environment := String → Option String

/-- What is to be done, with the options that override settings. -/
inductive Action where
  | session (prompt : Option String) (noGreeting : Bool) (format : Option Format)
  | dump (input : Option String) (format : Option Format) (denyIllegal : Bool)
  deriving DecidableEq

/-- A valid command line, read in its environment. -/
structure Request where
  verbose : Bool
  noColor : Bool
  config : Option String
  action : Action
  deriving DecidableEq

/-! ## 1. The environment -/

/-- What the environment says where a command line says nothing. -/
structure Surroundings where
  verbose : Bool
  noColor : Bool
  config : Option String

/-- A switch in the environment is `true`, `false` or absent. -/
def Environment.switch (env : Environment) (name : String) : Except Stop Bool :=
  match env name with
  | none | some "false" => .ok false
  | some "true" => .ok true
  | some value => Given.invalid value

/-- Reads the environment for the options that a scope leaves out. -/
def Surroundings.read (env : Environment) (g : Given) : Except Stop Surroundings := do
  let verbose ← if g.flags.contains .verbose then pure false else env.switch "MONKEY_VERBOSE"
  let noColor ← if g.flags.contains .noColor then pure false else env.switch "MONKEY_NO_COLOR"
  let config ←
    match g.config, env "MONKEY_CONFIG" with
    | none, some "" => Given.invalid ""
    | _, path => pure path
  return { verbose, noColor, config }

/-! ## 2. Putting the scopes together -/

/-- What a scope asks to be done. -/
def Given.action (g : Given) : Scope → Action
  | .tokenize => .dump g.input g.format (g.flags.contains .denyIllegal)
  | _ => .session g.prompt (g.flags.contains .noGreeting) g.format

/-- The request of scopes, the innermost first, in what surrounds them. -/
def Request.ofScopes (scopes : List Given) (s : Surroundings) (action : Action) : Request where
  verbose := scopes.any (·.flags.contains .verbose) || s.verbose
  noColor := scopes.any (·.flags.contains .noColor) || s.noColor
  config := (scopes.findSome? (·.config)).or s.config
  action

/-- Reads a command line.  Without a subcommand a session is asked for. -/
def Request.read (env : Environment) (words : List String) : Except Stop Request := do
  let outer ← readWords .program .any {} words
  match outer.subcommand with
  | none =>
    let g ← outer.given.settle
    return .ofScopes [g] (← Surroundings.read env g) (g.action .program)
  | some (scope, words) =>
    let inner ← (← readWords scope .any {} words).given.settle
    let fromInner ← Surroundings.read env inner
    let g ← outer.given.settle
    let fromOuter ← Surroundings.read env g
    let s : Surroundings :=
      { verbose := fromInner.verbose || fromOuter.verbose
        noColor := fromInner.noColor || fromOuter.noColor
        config := fromInner.config.or fromOuter.config }
    return .ofScopes [inner, g] s (inner.action scope)

end MonkeyTokens
