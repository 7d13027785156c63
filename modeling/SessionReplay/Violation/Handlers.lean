import SessionReplay.Violation.Log

/-! Handlers of violation logs. A handler is made of a handle and keeps a clone of it, and whatever
it is told of is reported through that clone. -/
namespace SessionReplay

inductive LogUse where
  | direct (handle : Nat) (action : LogAction)
  /-- Makes a handler of a handle. -/
  | handler (handle : Nat)
  /-- Tells one of the handlers of a violation. -/
  | tell (handler : Nat) (violation : Violation)

structure LogKeeping where
  bench : LogBench
  /-- The handle that each handler keeps. -/
  handlers : List Nat := []

namespace LogKeeping

/-- One empty log behind one handle. -/
def initial : LogKeeping := { bench := .initial }

def cell? (keeping : LogKeeping) (handle : Nat) : Option Nat :=
  keeping.bench.logs.cellOf[handle]?

/-- How many handles there are, which is the number of the next one. -/
def handles (keeping : LogKeeping) : Nat := keeping.bench.logs.cellOf.length

def act (keeping : LogKeeping) (handle : Nat) (action : LogAction) : LogKeeping :=
  { keeping with bench := (keeping.bench.perform handle action).1 }

/-- Of an unknown handle no handler is made. -/
def handler (keeping : LogKeeping) (handle : Nat) : LogKeeping :=
  match keeping.cell? handle with
  | none => keeping
  | some _ =>
    { keeping.act handle .clone with handlers := keeping.handlers ++ [keeping.handles] }

def tell (keeping : LogKeeping) (handler : Nat) (violation : Violation) : LogKeeping :=
  match keeping.handlers[handler]? with
  | none => keeping
  | some handle => keeping.act handle (.report violation)

def perform (keeping : LogKeeping) : LogUse → LogKeeping × LogAnswer
  | .direct handle action => (keeping.act handle action, (keeping.bench.perform handle action).2)
  | .handler handle => (keeping.handler handle, .nothing)
  | .tell handler violation => (keeping.tell handler violation, .nothing)

def after (keeping : LogKeeping) : List LogUse → LogKeeping
  | [] => keeping
  | use :: rest => (keeping.perform use).1.after rest

end LogKeeping
end SessionReplay
