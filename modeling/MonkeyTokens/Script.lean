/-
# Scripts: what is written and reported, in order

A command that writes is described before it is performed: as the list of its steps, each a piece of
output or an event, and the result it comes to when every step succeeds.  `Script.deliver` performs
a script on a sink that may have room for a limited number of bytes.  The first piece that does not
fit is cut, its failure becomes the result, and no later step is performed; so all that a failing
sink can do to a command is said here once, and the commands themselves do not know of it.
-/
import MonkeyTokens.Error
import MonkeyTokens.Event

namespace MonkeyTokens

/-! ## 1. Pieces and steps -/

/-- What a piece of output is part of, which decides the error when it cannot be written. -/
inductive Part where
  /-- A JSON object. -/
  | object
  /-- Anything else: plain records, prompts, and the line feed behind a JSON object. -/
  | plain
  deriving DecidableEq

/-- The error of a piece that a sink refused. -/
def Part.error (fault : Fault) : Part → Error
  | .object => .json { reason := fault.message }
  | .plain => .io fault

/-- One thing a command does. -/
inductive Step where
  | write (part : Part) (bytes : Bytes)
  | report (event : Event)
  deriving DecidableEq

/-- A command: its steps, and the result behind the last one. -/
structure Script (α : Type) where
  steps : List Step
  result : Except Error α

/-! ## 2. The run that nothing stops -/

/-- All that a list of steps writes. -/
def Step.output : List Step → Bytes
  | [] => []
  | .write _ bytes :: rest => bytes ++ Step.output rest
  | .report _ :: rest => Step.output rest

/-- All that a list of steps reports. -/
def Step.events : List Step → List Event
  | [] => []
  | .write .. :: rest => Step.events rest
  | .report e :: rest => e :: Step.events rest

/-- All that a command writes to a sink that never fails. -/
def Script.output {α : Type} (s : Script α) : Bytes :=
  Step.output s.steps

/-- All that a command reports when its sink never fails. -/
def Script.events {α : Type} (s : Script α) : List Event :=
  Step.events s.steps

/-! ## 3. Scripts made of scripts -/

namespace Script

/-- A script behind other steps. -/
def after {α : Type} (steps : List Step) (s : Script α) : Script α :=
  ⟨steps ++ s.steps, s.result⟩

/-- A script without its result. -/
def discard {α : Type} (s : Script α) : Script Unit :=
  ⟨s.steps, s.result.map fun _ => ()⟩

/-- The script that only fails. -/
def fail {α : Type} (e : Error) : Script α :=
  ⟨[], .error e⟩

end Script

/-! ## 4. The run on a sink -/

/-- Where output goes: how many bytes there is room for (any number if absent), and the fault of a
write beyond that. -/
structure Sink where
  room : Option Nat
  fault : Fault

/-- A sink that takes everything. -/
def Sink.unlimited : Sink := ⟨none, .stream ""⟩

/-- What became of a command. -/
structure Delivery (α : Type) where
  written : Bytes
  events : List Event
  result : Except Error α

/-- Performs steps on a sink with room for `room` bytes.  A piece that fits is written whole; of the
first piece that does not, as much is written as fits. -/
def deliverSteps {α : Type} (fault : Fault) (result : Except Error α) :
    Nat → List Step → Delivery α
  | _, [] => ⟨[], [], result⟩
  | room, .report e :: rest =>
    let d := deliverSteps fault result room rest
    { d with events := e :: d.events }
  | room, .write part bytes :: rest =>
    if bytes.length ≤ room then
      let d := deliverSteps fault result (room - bytes.length) rest
      { d with written := bytes ++ d.written }
    else ⟨bytes.take room, [], .error (part.error fault)⟩

/-- Where there is room for everything, nothing is cut. -/
theorem deliverSteps_of_le {α : Type} (fault : Fault) (result : Except Error α) (room : Nat)
    (steps : List Step) (h : (Step.output steps).length ≤ room) :
    deliverSteps fault result room steps = ⟨Step.output steps, Step.events steps, result⟩ := by
  induction steps generalizing room with
  | nil => rfl
  | cons step rest ih =>
    cases step with
    | report e =>
      have := ih room (by simpa [Step.output] using h)
      simp [deliverSteps, this, Step.output, Step.events]
    | write part bytes =>
      have hlen : bytes.length + (Step.output rest).length ≤ room := by
        simpa [Step.output] using h
      have := ih (room - bytes.length) (by omega)
      simp [deliverSteps, this, Step.output, Step.events, show bytes.length ≤ room by omega]

/-- What is written is the beginning of the output that there is room for. -/
theorem written_deliverSteps {α : Type} (fault : Fault) (result : Except Error α) (room : Nat)
    (steps : List Step) :
    (deliverSteps fault result room steps).written = (Step.output steps).take room := by
  induction steps generalizing room with
  | nil => simp [deliverSteps, Step.output]
  | cons step rest ih =>
    cases step with
    | report e => simpa [deliverSteps, Step.output] using ih room
    | write part bytes =>
      by_cases hb : bytes.length ≤ room
      · simp [deliverSteps, Step.output, hb, ih, List.take_append, List.take_of_length_le hb]
      · have : room - bytes.length = 0 := by omega
        simp [deliverSteps, Step.output, hb, List.take_append, this]

/-- Performs a command on a sink. -/
def Script.deliver {α : Type} (sink : Sink) (s : Script α) : Delivery α :=
  match sink.room with
  | none => ⟨s.output, s.events, s.result⟩
  | some room => deliverSteps sink.fault s.result room s.steps

end MonkeyTokens
