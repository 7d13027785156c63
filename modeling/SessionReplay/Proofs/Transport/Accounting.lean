import SessionReplay.Proofs.Dispatcher.Ledger
import SessionReplay.Proofs.Shared.Cells
import SessionReplay.Proofs.Transport.Requests
import SessionReplay.Transport.Bench

/-! What completing messages promises, and when the promise is kept. A transport that can signal
keeps it, and so does one that has nothing to complete. Where messages wait and nothing can be
signalled, the oldest of them leaves the queue all the same: it is forgotten. Over any use of a
transport through any of its handles, every accepted message was completed, was forgotten or waits
still. -/
namespace SessionReplay

def Request.completes : Request → Bool
  | .completeNext | .completeAll => true
  | _ => false

namespace Simulated
variable {transport : Simulated}

/-- The oldest message is named and leaves the queue, and where nothing waits nothing happens.
Completing everything names as many messages as wait and leaves none. -/
structure Completes (transport : Simulated) : Prop where
  oldest : ∀ operations connection rest, transport.awaiting.toList = connection :: rest →
    ∃ awaiting after, awaiting.toList = rest ∧
      transport.completeNext operations = ({ transport with awaiting }, after, some connection)
  nothing : ∀ operations, transport.awaiting.toList = [] →
    transport.completeNext operations = (transport, operations, none)
  everything : ∀ operations, ∃ awaiting after, awaiting.toList = [] ∧
    transport.completeAll operations =
      ({ transport with awaiting }, after, transport.awaiting.toList.length)

/-- Where nothing can be signalled, the first message ends the loop. -/
theorem completeAll_of_unregistered (unregistered : transport.registered = false)
    (waiting : transport.awaiting.toList = connection :: rest) (operations : Operations) :
    ∃ awaiting, awaiting.toList = rest ∧
      transport.completeAll operations = ({ transport with awaiting }, operations, 0) := by
  obtain ⟨awaiting, left, silent⟩ := completeNext_of_unregistered unregistered waiting operations
  refine ⟨awaiting, left, ?_⟩
  rw [completeAll, ← Queue.length_toList, waiting, List.length_cons, completeUpTo, silent]

theorem completeAll_of_nil (nothing : transport.awaiting.toList = []) (operations : Operations) :
    transport.completeAll operations = (transport, operations, 0) := by
  rw [completeAll, ← Queue.length_toList, nothing]
  rfl

theorem completes_of_registered (registered : transport.registered = true) :
    transport.Completes where
  oldest operations connection rest waiting := by
    obtain ⟨awaiting, left, named⟩ := completeNext_of_cons registered waiting operations
    exact ⟨awaiting, operations.finish, left, named⟩
  nothing operations waiting := completeNext_of_nil waiting operations
  everything operations := by
    obtain ⟨awaiting, left, completed⟩ := completeAll_eq registered operations
    exact ⟨awaiting, _, left, completed⟩

theorem completes_of_nil (nothing : transport.awaiting.toList = []) : transport.Completes where
  oldest operations connection rest waiting := by
    rw [nothing] at waiting
    contradiction
  nothing operations _ := completeNext_of_nil nothing operations
  everything operations :=
    ⟨transport.awaiting, operations, nothing, by rw [completeAll_of_nil nothing, nothing]; rfl⟩

theorem not_completes (unregistered : transport.registered = false)
    (waiting : transport.awaiting.toList = connection :: rest) : ¬transport.Completes := by
  intro completes
  let operations := Operations.idle .collecting
  obtain ⟨_, _, -, named⟩ := completes.oldest operations connection rest waiting
  obtain ⟨_, -, silent⟩ := completeNext_of_unregistered unregistered waiting operations
  rw [silent] at named
  exact absurd (congrArg (·.2.2) named) (Option.some_ne_none connection).symm

/-- Messages that wait where nothing can be signalled are all that stands against the promise. -/
theorem completes_iff :
    transport.Completes ↔ transport.registered = true ∨ transport.awaiting.toList = [] := by
  constructor
  · intro completes
    cases registered : transport.registered with
    | true => exact .inl rfl
    | false =>
      cases waiting : transport.awaiting.toList with
      | nil => exact .inr rfl
      | cons connection rest => exact absurd completes (not_completes registered waiting)
  · rintro (registered | nothing)
    · exact completes_of_registered registered
    · exact completes_of_nil nothing

def forgottenBy (transport : Simulated) : Request → List ConnectionId
  | .completeNext | .completeAll =>
    if transport.registered then [] else transport.awaiting.toList.take 1
  | _ => []

theorem named_of_unregistered (unregistered : transport.registered = false)
    (operations : Operations) (request : Request) : transport.named operations request = [] := by
  have silent : (transport.completeNext operations).2.2 = none := by
    cases waiting : transport.awaiting.toList with
    | nil => rw [completeNext_of_nil waiting]
    | cons connection rest =>
      obtain ⟨_, -, silent⟩ := completeNext_of_unregistered unregistered waiting operations
      rw [silent]
  cases request with
  | completeNext => rw [named, silent]; rfl
  | completeAll =>
    rw [named]
    cases transport.awaiting.size with
    | zero => rfl
    | succ limit =>
      rw [namedUpTo]
      split
      · rfl
      · next given => rw [given] at silent; contradiction
  | completeSpurious | refuseNext | answer => rfl

/-- What leaves the queue was named or is forgotten. -/
theorem awaiting_request (transport : Simulated) (operations : Operations) (request : Request) :
    transport.awaiting.toList = transport.named operations request ++
      transport.forgottenBy request ++
        (transport.request operations request).1.awaiting.toList := by
  cases registered : transport.registered with
  | true =>
    rw [named_eq registered]
    cases request with
    | completeNext =>
      cases waiting : transport.awaiting.toList with
      | nil => simp [forgottenBy, Simulated.request, completeNext_of_nil, waiting]
      | cons connection rest =>
        obtain ⟨awaiting, left, named⟩ := completeNext_of_cons registered waiting operations
        simp [forgottenBy, registered, Simulated.request, named, left]
    | completeAll =>
      obtain ⟨awaiting, left, completed⟩ := completeAll_eq registered operations
      simp [forgottenBy, registered, Simulated.request, completed, left]
    | completeSpurious | refuseNext | answer => rfl
  | false =>
    rw [named_of_unregistered registered]
    cases request with
    | completeNext =>
      cases waiting : transport.awaiting.toList with
      | nil => simp [forgottenBy, Simulated.request, completeNext_of_nil, waiting]
      | cons connection rest =>
        obtain ⟨awaiting, left, silent⟩ :=
          completeNext_of_unregistered registered waiting operations
        simp [forgottenBy, registered, Simulated.request, silent, left, waiting]
    | completeAll =>
      cases waiting : transport.awaiting.toList with
      | nil => simp [forgottenBy, Simulated.request, completeAll_of_nil, waiting]
      | cons connection rest =>
        obtain ⟨awaiting, left, silent⟩ :=
          completeAll_of_unregistered registered waiting operations
        simp [forgottenBy, registered, Simulated.request, silent, left, waiting]
    | completeSpurious | refuseNext | answer => rfl

theorem forgottenBy_eq_nil_iff {request : Request} (completes : request.completes = true) :
    transport.forgottenBy request = [] ↔ transport.Completes := by
  have forgotten : transport.forgottenBy request =
      if transport.registered then [] else transport.awaiting.toList.take 1 := by
    cases request with
    | completeNext | completeAll => rfl
    | completeSpurious | refuseNext | answer => contradiction
  rw [forgotten, completes_iff]
  cases transport.registered <;> simp

/-- Every message that was taken was completed, was forgotten or waits. -/
def Balanced (completed forgotten : List ConnectionId) (transport : Simulated) : Prop :=
  transport.ledger.connections.Perm (completed ++ forgotten ++ transport.awaiting.toList)

section Balanced
variable {completed forgotten : List ConnectionId}
  (balanced : transport.Balanced completed forgotten)
include balanced

theorem Balanced.enqueueMessage (operations : Operations) (message : FramedMessage) :
    (transport.enqueueMessage operations message).1.Balanced completed forgotten := by
  unfold Simulated.enqueueMessage
  split
  · exact balanced
  · have more := balanced.append_right [message.connection]
    simpa [Balanced, ledger, Ledger.connections] using more

theorem Balanced.request (operations : Operations) (request : Request) :
    (transport.request operations request).1.Balanced
      (completed ++ transport.named operations request)
      (forgotten ++ transport.forgottenBy request) := by
  have ledger : (transport.request operations request).1.ledger.connections =
      transport.ledger.connections := by
    cases request with
    | completeNext => exact congrArg Ledger.connections (transport.ledger_completeNext operations)
    | completeAll => exact congrArg Ledger.connections (transport.ledger_completeAll operations)
    | completeSpurious | refuseNext | answer => rfl
  have left := transport.awaiting_request operations request
  rw [Balanced, left] at balanced
  rw [Balanced, ledger, List.perm_iff_count]
  intro connection
  rw [balanced.count_eq]
  simp only [List.count_append]
  omega

end Balanced
end Simulated

namespace Bench

def completedBy (bench : Bench) (handle : Nat) : BenchAction → List ConnectionId
  | .request request =>
    (bench.transport? handle).elim [] (·.named bench.source.operations request)
  | _ => []

def forgottenBy (bench : Bench) (handle : Nat) : BenchAction → List ConnectionId
  | .request request => (bench.transport? handle).elim [] (·.forgottenBy request)
  | _ => []

def after (bench : Bench) : List (Nat × BenchAction) → Bench
  | [] => bench
  | (handle, action) :: rest => (bench.perform handle action).1.after rest

def completed (bench : Bench) : List (Nat × BenchAction) → List ConnectionId
  | [] => []
  | (handle, action) :: rest =>
    bench.completedBy handle action ++ (bench.perform handle action).1.completed rest

def forgotten (bench : Bench) : List (Nat × BenchAction) → List ConnectionId
  | [] => []
  | (handle, action) :: rest =>
    bench.forgottenBy handle action ++ (bench.perform handle action).1.forgotten rest

/-- One transport is on the bench, and its books balance. -/
def Balanced (bench : Bench) (completed forgotten : List ConnectionId) : Prop :=
  ∃ transport, bench.transports.cells = [transport] ∧ transport.Balanced completed forgotten

section Perform
variable {bench : Bench} {complete lost : List ConnectionId}
  (balanced : bench.Balanced complete lost)
include balanced

theorem Balanced.enqueue (handle : Nat) (event : MessageEvent) :
    (bench.enqueue handle event).1.Balanced complete lost := by
  obtain ⟨transport, single, books⟩ := balanced
  unfold Bench.enqueue
  dsimp only
  split
  · next window reached framed found =>
    apply Shared.modify_of_single single books
    intro read
    obtain rfl := Option.some.inj (read.symm.trans found)
    exact books.enqueueMessage _ _
  · exact ⟨transport, single, books⟩

theorem Balanced.request (handle : Nat) (request : Request) :
    (bench.perform handle (.request request)).1.Balanced
      (complete ++ bench.completedBy handle (.request request))
      (lost ++ bench.forgottenBy handle (.request request)) := by
  obtain ⟨transport, single, books⟩ := balanced
  have reached : bench.transport? handle =
      if handle < bench.transports.cellOf.length then some transport else none :=
    Shared.get?_of_single single handle
  by_cases known : handle < bench.transports.cellOf.length
  · rw [if_pos known] at reached
    have after := books.request bench.source.operations request
    simp only [perform, completedBy, forgottenBy, reached, Option.elim]
    refine ⟨_, Shared.cells_modify_of_single single handle _, ?_⟩
    rw [if_pos known]
    exact after
  · rw [if_neg known] at reached
    simp only [perform, completedBy, forgottenBy, reached, Option.elim, List.append_nil]
    exact ⟨transport, single, books⟩

theorem Balanced.perform (handle : Nat) (action : BenchAction) :
    (bench.perform handle action).1.Balanced (complete ++ bench.completedBy handle action)
      (lost ++ bench.forgottenBy handle action) := by
  have quiet {next : Bench} (still : next.Balanced complete lost) :
      next.Balanced (complete ++ []) (lost ++ []) := by
    rwa [List.append_nil, List.append_nil]
  cases action with
  | request request => exact balanced.request handle request
  | enqueue event => exact quiet (balanced.enqueue handle event)
  | enqueueConnect event =>
    obtain ⟨transport, single, books⟩ := balanced
    exact quiet (Shared.modify_of_single single books fun _ => books)
  | register =>
    obtain ⟨transport, single, books⟩ := balanced
    exact quiet (Shared.modify_of_single single books fun _ => books)
  | clone =>
    obtain ⟨transport, single, books⟩ := balanced
    exact quiet ⟨transport, (bench.transports.cells_clone handle).trans single, books⟩

theorem Balanced.after (actions : List (Nat × BenchAction)) :
    (bench.after actions).Balanced (complete ++ bench.completed actions)
      (lost ++ bench.forgotten actions) := by
  induction actions generalizing bench complete lost with
  | nil =>
    rw [completed, forgotten, List.append_nil, List.append_nil]
    exact balanced
  | cons step rest ih =>
    have later := ih (balanced.perform step.1 step.2)
    rw [List.append_assoc, List.append_assoc] at later
    exact later

end Perform

theorem balanced_initial : initial.Balanced [] [] :=
  ⟨{}, rfl, List.Perm.refl []⟩

/-- At an action nothing is forgotten if and only if it is no request to complete messages, or one
that can be met. -/
theorem forgottenBy_eq_nil_iff (bench : Bench) (handle : Nat) (action : BenchAction) :
    bench.forgottenBy handle action = [] ↔
      ∀ request transport, action = .request request → request.completes = true →
        bench.transport? handle = some transport → transport.Completes := by
  constructor
  · rintro none request transport rfl completes reached
    rw [forgottenBy, reached] at none
    exact (Simulated.forgottenBy_eq_nil_iff completes).mp none
  · intro met
    cases action with
    | request request =>
      rw [forgottenBy]
      cases reached : bench.transport? handle with
      | none => rfl
      | some transport =>
        cases completes : request.completes with
        | true =>
          exact (Simulated.forgottenBy_eq_nil_iff completes).mpr
            (met request transport rfl completes reached)
        | false => cases request <;> first | contradiction | rfl
    | enqueue | enqueueConnect | register | clone => rfl

/-- Nothing is forgotten if and only if every request to complete messages could be met when it was
made. -/
theorem forgotten_eq_nil_iff (bench : Bench) (actions : List (Nat × BenchAction)) :
    bench.forgotten actions = [] ↔
      ∀ earlier handle request transport,
        earlier ++ [(handle, .request request)] <+: actions → request.completes = true →
        (bench.after earlier).transport? handle = some transport → transport.Completes := by
  induction actions generalizing bench with
  | nil =>
    refine iff_of_true rfl ?_
    intro earlier handle request transport made
    exact absurd (List.prefix_nil.mp made) (by simp)
  | cons step rest ih =>
    obtain ⟨handle, action⟩ := step
    rw [forgotten, List.append_eq_nil_iff, forgottenBy_eq_nil_iff, ih]
    constructor
    · rintro ⟨now, later⟩ earlier other request transport made completes reached
      cases earlier with
      | nil =>
        obtain ⟨same, -⟩ := List.cons_prefix_cons.mp made
        obtain ⟨rfl, rfl⟩ := Prod.mk.inj same
        exact now request transport rfl completes reached
      | cons first earlier =>
        obtain ⟨rfl, within⟩ := List.cons_prefix_cons.mp made
        exact later earlier other request transport within completes reached
    · intro always
      constructor
      · rintro request transport rfl completes reached
        exact always [] handle request transport (by simp) completes reached
      · intro earlier other request transport made completes reached
        exact always ((handle, action) :: earlier) other request transport
          (List.cons_prefix_cons.mpr ⟨rfl, made⟩) completes reached

/-- Whatever is done with a transport through its handles, they all reach the same one. Every
message that it accepted was completed, was forgotten or waits, and none was forgotten if and only
if every request to complete messages came when it could be met: when completions could be
signalled or nothing was waiting. Completing everything ends in any case. -/
theorem accepted_messages_accounted (actions : List (Nat × BenchAction)) :
    let bench := initial.after actions
    ∃ transport,
      (∀ handle, bench.transport? handle =
        if handle < bench.transports.cellOf.length then some transport else none) ∧
      (transport.messages.toList.map FramedMessage.connection).Perm
        (initial.completed actions ++ initial.forgotten actions ++ transport.awaiting.toList) ∧
      (initial.forgotten actions = [] ↔
        ∀ earlier handle request reached,
          earlier ++ [(handle, .request request)] <+: actions → request.completes = true →
          (initial.after earlier).transport? handle = some reached → reached.Completes) ∧
      (transport.Completes ↔ transport.registered = true ∨ transport.awaiting.toList = []) ∧
      ∀ operations,
        let (last, final, count) := transport.completeAll operations
        let names := transport.named operations .completeAll
        Simulated.Drains transport operations names last final ∧ count = names.length := by
  obtain ⟨transport, single, books⟩ := balanced_initial.after actions
  exact ⟨transport, Shared.get?_of_single single, books, initial.forgotten_eq_nil_iff actions,
    Simulated.completes_iff, transport.drains_completeAll⟩

/-- A message that waits before completions can be signalled is gone after a request to complete
it, and nobody is told. Of two such messages the second waits on, although all were to be
completed. -/
theorem messages_forgotten :
    let event : MessageEvent :=
      { timestamp := 1, owner := 0, connection := 5, messageType := 0,
        buffer := List.replicate 64 7, initialOffset := 16, offset := 30, length := 10 }
    let one := initial.after [(0, .enqueue event)]
    let two := one.after [(0, .enqueue event)]
    (∃ transport, one.transport? 0 = some transport ∧ transport.awaiting.toList = [5] ∧
      ¬transport.Completes ∧ ∀ operations, ∃ next, next.awaiting.toList = [] ∧
        transport.completeNext operations = (next, operations, none)) ∧
    (∃ transport, two.transport? 0 = some transport ∧ transport.awaiting.toList = [5, 5] ∧
      ¬transport.Completes ∧ ∀ operations, ∃ next, next.awaiting.toList = [5] ∧
        transport.completeAll operations = (next, operations, 0)) := by
  intro event one two
  have reading {bench : Bench} {waiting : List ConnectionId}
      (read : (bench.transport? 0).map (fun transport =>
        (transport.registered, transport.awaiting.toList)) = some (false, waiting)) :
      ∃ transport, bench.transport? 0 = some transport ∧ transport.registered = false ∧
        transport.awaiting.toList = waiting := by
    obtain ⟨transport, reached, same⟩ := Option.map_eq_some_iff.mp read
    exact ⟨transport, reached, Prod.mk.inj same⟩
  constructor
  · obtain ⟨transport, reached, unregistered, waiting⟩ := @reading one [5] (by decide)
    refine ⟨transport, reached, waiting, Simulated.not_completes unregistered waiting, ?_⟩
    intro operations
    obtain ⟨awaiting, left, silent⟩ :=
      Simulated.completeNext_of_unregistered unregistered waiting operations
    exact ⟨_, left, silent⟩
  · obtain ⟨transport, reached, unregistered, waiting⟩ := @reading two [5, 5] (by decide)
    refine ⟨transport, reached, waiting, Simulated.not_completes unregistered waiting, ?_⟩
    intro operations
    obtain ⟨awaiting, left, silent⟩ :=
      Simulated.completeAll_of_unregistered unregistered waiting operations
    exact ⟨_, left, silent⟩

end Bench
end SessionReplay
