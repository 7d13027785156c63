import SessionReplay.Dispatcher
import SessionReplay.Shared
import SessionReplay.Transport.Inline
import SessionReplay.Transport.Simulated

/-! Simulated transports on a bench, without a dispatcher of their own. A source
dispatcher in front of a transport that accepts everything frames the messages; its
operations are the ones that registered transports complete. -/
namespace SessionReplay

inductive BenchAction where
  /-- Plays a message through the source and hands it to the transport as well. -/
  | enqueue (event : MessageEvent)
  | enqueueConnect (event : ConnectEvent)
  /-- Gives the transport the means to complete operations of the source. -/
  | register
  /-- Adds a handle for the same transport. -/
  | clone
  | request (request : Request)

inductive BenchAnswer where
  | nothing
  /-- The message was accepted, was refused, or did not frame. -/
  | accepted (accepted : Option Bool)
  | request (answer : RequestAnswer)

structure Bench where
  source : Dispatcher Inline
  transports : Shared Simulated

namespace Bench

/-- One transport, and a source that nothing has passed through yet. -/
def initial : Bench where
  source := .new {} .collecting {}
  transports := .single {}

def transport? (bench : Bench) (handle : Nat) : Option Simulated :=
  bench.transports.get? handle

def replace (bench : Bench) (handle : Nat) (transport : Simulated) (operations : Operations) :
    Bench where
  source := { bench.source with operations }
  transports := bench.transports.modify handle fun _ => transport

def enqueue (bench : Bench) (handle : Nat) (event : MessageEvent) : Bench × Option Bool :=
  let (source, _) := bench.source.onMessage event
  let bench := { bench with source }
  match event.window, bench.transport? handle with
  | .ok window, some transport =>
    let (transport, operations, accepted) :=
      transport.enqueueMessage source.operations (.ofEvent event window)
    (bench.replace handle transport operations, some accepted)
  | _, _ => (bench, none)

def perform (bench : Bench) (handle : Nat) : BenchAction → Bench × BenchAnswer
  | .enqueue event =>
    let (bench, accepted) := bench.enqueue handle event
    (bench, .accepted accepted)
  | .enqueueConnect event =>
    ({ bench with transports := bench.transports.modify handle (·.enqueueConnect event) },
      .nothing)
  | .register =>
    ({ bench with
        transports := bench.transports.modify handle ({ · with registered := true }) }, .nothing)
  | .clone => ({ bench with transports := bench.transports.clone handle }, .nothing)
  | .request request =>
    match bench.transport? handle with
    | none => (bench, .nothing)
    | some transport =>
      let (transport, operations, answer) := transport.request bench.source.operations request
      (bench.replace handle transport operations, .request answer)

end Bench
end SessionReplay
