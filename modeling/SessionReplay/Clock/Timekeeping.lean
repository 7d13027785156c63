import SessionReplay.Clock.Bench
import SessionReplay.Dispatcher

/-! Clocks that dispatchers go on with. A dispatcher that is built on a clock holds a handle of its
own for it. It moves the clock through that handle when it dispatches an event, and everybody's
records go to one log. -/
namespace SessionReplay

inductive ClockUse (τ : Type) where
  | direct (action : ClockAction)
  /-- Builds a dispatcher on a clone of a handle. -/
  | attach (handle : Nat) (transport : τ) (channel : ErrorChannel) (config : Config)
  /-- Dispatches an event through one of the dispatchers. -/
  | dispatch (dispatcher : Nat) (event : Event)

structure Timekeeping (τ : Type) where
  bench : ClockBench
  /-- The dispatchers, each behind the handle that it holds. -/
  dispatchers : List (Nat × Dispatcher τ) := []

namespace Timekeeping
variable {τ : Type}

/-- One clock behind one handle. -/
def startingAt (start : Word) : Timekeeping τ := { bench := .startingAt start }

def clock? (keeping : Timekeeping τ) (handle : Nat) : Option Clock :=
  keeping.bench.clocks.get? handle

section Uses
variable [Transport τ]

def attach (keeping : Timekeeping τ) (handle : Nat) (transport : τ) (channel : ErrorChannel)
    (config : Config) : Timekeeping τ :=
  match keeping.clock? handle with
  | none => keeping
  | some clock =>
    { bench := { keeping.bench with clocks := keeping.bench.clocks.clone handle }
      dispatchers := keeping.dispatchers ++
        [(keeping.bench.clocks.cellOf.length, .withClock transport clock channel config)] }

/-- The dispatcher finds the clock as others left it, and leaves it to others as it is then. -/
def dispatch (keeping : Timekeeping τ) (index : Nat) (event : Event) : Timekeeping τ :=
  match keeping.dispatchers[index]? with
  | none => keeping
  | some (handle, dispatcher) =>
    match keeping.clock? handle with
    | none => keeping
    | some clock =>
      let (next, _) := { dispatcher with clock }.dispatch event
      { bench := { keeping.bench with
          clocks := keeping.bench.clocks.modify handle fun _ => next.clock
          records := keeping.bench.records ++
            next.trail.records.extract dispatcher.trail.records.size }
        dispatchers := keeping.dispatchers.set index (handle, next) }

/-- The answer is what a clock read before it was moved directly. -/
def perform (keeping : Timekeeping τ) : ClockUse τ → Timekeeping τ × Option Word
  | .direct action =>
    let (bench, before) := keeping.bench.perform action
    ({ keeping with bench }, before)
  | .attach handle transport channel config =>
    (keeping.attach handle transport channel config, none)
  | .dispatch index event => (keeping.dispatch index event, none)

def after (keeping : Timekeeping τ) : List (ClockUse τ) → Timekeeping τ
  | [] => keeping
  | use :: rest => (keeping.perform use).1.after rest

end Uses
end Timekeeping
end SessionReplay
