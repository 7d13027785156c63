import SessionReplay.Clock
import SessionReplay.LogRecord
import SessionReplay.Shared

/-! Clocks that are read and moved through several handles, and views of them in
milliseconds. -/
namespace SessionReplay

inductive ClockAction where
  | advance (handle : Nat) (stamp : Word)
  /-- Adds a handle for the same clock. -/
  | clone (handle : Nat)
  /-- Adds an independent clock. -/
  | fresh (start : Word)
  /-- Adds a view in milliseconds of the clock behind a handle. -/
  | viewMillis (handle : Nat)

structure ClockBench where
  clocks : Shared Clock
  /-- The handle that each view reads. -/
  views : List Nat := []
  records : Array LogRecord := #[]

namespace ClockBench

def startingAt (start : Word) : ClockBench := { clocks := .single ⟨start⟩ }

/-- Moves a clock forward and answers what it read before. -/
def advance (bench : ClockBench) (handle : Nat) (stamp : Word) : ClockBench × Option Word :=
  match bench.clocks.get? handle with
  | none => (bench, none)
  | some clock =>
    ({ bench with
        clocks := bench.clocks.modify handle (·.advance stamp)
        records := bench.records.push (.clockAdvanced clock.now stamp) }, some clock.now)

def perform (bench : ClockBench) : ClockAction → ClockBench × Option Word
  | .advance handle stamp => bench.advance handle stamp
  | .clone handle => ({ bench with clocks := bench.clocks.clone handle }, none)
  | .fresh start => ({ bench with clocks := bench.clocks.fresh ⟨start⟩ }, none)
  | .viewMillis handle => ({ bench with views := bench.views ++ [handle] }, none)

def millis (bench : ClockBench) : List Word :=
  bench.views.filterMap fun handle => (bench.clocks.get? handle).map Clock.millis

end ClockBench
end SessionReplay
