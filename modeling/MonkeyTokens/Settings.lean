/-
# Settings

Three settings with defaults: the prompt and the greeting of a session, and the format of records.
A settings file is a TOML document with the sections `repl` and `output`; each setting is looked up
on its own, a missing one has its default, and all other keys are ignored (`Settings.ofTable`).

A section need not be a table.  It may be an array with the values of its keys in order, and a date
or time stands for a section without any of them (`Section.ofValue?`).
-/
import MonkeyTokens.Event
import MonkeyTokens.Error
import MonkeyTokens.Files
import MonkeyTokens.Record
import MonkeyTokens.Toml.Document

namespace MonkeyTokens

/-- What can be set. -/
structure Settings where
  prompt : String := ">> "
  greeting : Bool := true
  format : Format := .text
  deriving DecidableEq

namespace Settings

/-! ## 1. Sections -/

/-- A part of a settings file, as the lookup of a setting by its name and its place in order. -/
abbrev Section := String → Nat → Option Toml.Value

/-- The section that a value stands for. -/
def Section.ofValue? : Toml.Value → Option Section
  | .table entries => some fun name _ => Toml.Table.get? entries name
  | .array items => some fun _ place => items[place]?
  | .dateTime _ => some fun _ _ => none
  | _ => none

/-- The section of a document with a given name; one that is missing holds nothing. -/
def section? (name : String) (document : Toml.Table) : Option Section :=
  match document.get? name with
  | none => some fun _ _ => none
  | some v => Section.ofValue? v

/-! ## 2. Single settings -/

def stringOf? : Toml.Value → Option String
  | .string s => some s
  | _ => none

def booleanOf? : Toml.Value → Option Bool
  | .boolean b => some b
  | _ => none

/-- A value without any content. -/
def isEmptyCollection : Toml.Value → Bool
  | .table entries => entries.isEmpty
  | .array items => items.isEmpty
  | _ => false

/-- A format is given by its name, or as a table with that name as its only key and nothing
under it. -/
def formatOf? : Toml.Value → Option Format
  | .string s => Format.ofName? s
  | .table [(name, content)] => if isEmptyCollection content then Format.ofName? name else none
  | _ => none

/-- A setting: its default where it is not given, and nothing where it is given and is not what it
has to be. -/
def setting {α : Type} (given : Option Toml.Value) (read : Toml.Value → Option α) (fallback : α) :
    Option α :=
  match given with
  | none => some fallback
  | some v => read v

/-! ## 3. Documents -/

/-- Why a document holds no settings: what is wrong, by its place. -/
inductive Refusal where
  | document (e : Toml.Error)
  | value (place : String)

def Refusal.message : Refusal → String
  | .document e => e.message
  | .value place => "unexpected value of " ++ place

/-- The settings that a document gives. -/
def ofTable (document : Toml.Table) : Except Refusal Settings := do
  let orRefuse {α : Type} (place : String) (a : Option α) : Except Refusal α :=
    a.elim (.error (.value place)) .ok
  let base : Settings := {}
  let repl ← orRefuse "repl" (section? "repl" document)
  let prompt ← orRefuse "repl.prompt" (setting (repl "prompt" 0) stringOf? base.prompt)
  let greeting ← orRefuse "repl.greeting" (setting (repl "greeting" 1) booleanOf? base.greeting)
  let output ← orRefuse "output" (section? "output" document)
  let format ← orRefuse "output.format" (setting (output "format" 0) formatOf? base.format)
  return { prompt, greeting, format }

/-- The settings that a text gives. -/
def ofText (text : String) : Except Refusal Settings := do
  match Toml.parse text with
  | .error e => .error (.document e)
  | .ok document => ofTable document

/-! ## 4. Files -/

/-- Reads the settings from a file. -/
def load (files : FileSystem) (path : String) : Except Error Settings := do
  if !(files path).isPresent then
    throw (.configuration ("Configuration file not found: " ++ path))
  match (files path).read with
  | .error fault => throw (.io fault)
  | .ok bytes =>
    match Text.utf8? bytes with
    | none => throw (.io .notUtf8)
    | some text =>
      match ofText text with
      | .error refusal =>
        throw (.configuration ("Failed to parse configuration: " ++ refusal.message))
      | .ok settings => return settings

end Settings

end MonkeyTokens
