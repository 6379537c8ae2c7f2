/-
# Log filters

Which events reach the log.  A filter is a list of directives, each a threshold for the events whose
origin has a name that begins with a given text and, if the directive asks for one, that have a field
of a given name; the empty text makes it a threshold for all origins.  Of the directives that speak
of an event the most specific one decides, and of two that are equally specific the later one
(`Filter.governing?`).  An event that no directive speaks of is not logged.
-/
import MonkeyTokens.Event

namespace MonkeyTokens

/-- A threshold for the events from origins whose names begin with `scope` that have the field, if
one is asked for.  Without a threshold, nothing passes. -/
structure Directive where
  scope : String
  field : Option String
  threshold : Option Level
  deriving DecidableEq

/-- Directives in the order in which they were given. -/
abbrev Filter := List Directive

namespace Directive

/-- A threshold for all events. -/
def universal (threshold : Option Level) : Directive :=
  ⟨"", none, threshold⟩

/-- The directive speaks of an event. -/
def covers (d : Directive) (e : Event) : Bool :=
  d.scope.toList.isPrefixOf e.origin.name.toList && d.field.all e.hasField

/-- The directive lets events of a level pass. -/
def admits (d : Directive) (l : Level) : Bool :=
  d.threshold.any (·.admits l)

/-- `d` is as specific as `b` or more so: a longer scope is more specific than a shorter one, and of
two scopes of one length the one with a field, or with the field that is later in the alphabet. -/
def specializes (d b : Directive) : Bool :=
  b.scope.length < d.scope.length ||
    (b.scope.length == d.scope.length &&
      match b.field, d.field with
      | none, _ => true
      | some _, none => false
      | some m, some n => !decide (n < m))

end Directive

namespace Filter

/-- Everything up to a level, whatever its origin. -/
def upTo (l : Level) : Filter :=
  [.universal (some l)]

/-- The directive that decides on an event. -/
def governing? (f : Filter) (e : Event) : Option Directive :=
  (f.filter (·.covers e)).foldl (fun best d =>
    match best with
    | none => some d
    | some b => if d.specializes b then some d else best) none

/-- The event passes. -/
def admits (f : Filter) (e : Event) : Bool :=
  (f.governing? e).any (·.admits e.level)

@[simp] theorem admits_upTo (l : Level) (e : Event) : (upTo l).admits e = l.admits e.level := by
  simp [upTo, admits, governing?, Directive.universal, Directive.covers, Directive.admits]

end Filter

end MonkeyTokens
