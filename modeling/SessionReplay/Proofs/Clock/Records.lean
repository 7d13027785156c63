import SessionReplay.Proofs.Dispatcher.Dispatch
import SessionReplay.Transport.Inline

/-! What dispatching an event does to the clock and what the log says of it. Whatever the event and
whatever becomes of it, the clock moves to its stamp, and exactly one record is about the clock. -/
namespace SessionReplay

def LogRecord.isClock : LogRecord → Bool
  | clockAdvanced .. => true
  | _ => false

namespace Trail

/-- The log only grew, and of the new records these were made by clocks. -/
def Logs (made : List LogRecord) (before after : Trail) : Prop :=
  ∃ more, after.records.toList = before.records.toList ++ more ∧
    more.filter LogRecord.isClock = made

section Logs
variable {first second third : Trail}

theorem Logs.trans (one : Logs made first second) (two : Logs more second third) :
    Logs (made ++ more) first third := by
  obtain ⟨records, grown, filtered⟩ := one
  obtain ⟨further, grownToo, filteredToo⟩ := two
  refine ⟨records ++ further, ?_, ?_⟩
  · rw [grownToo, grown, List.append_assoc]
  · rw [List.filter_append, filtered, filteredToo]

/-- Nothing more was logged in a clock's name. -/
theorem Logs.quietly (one : Logs made first second) (two : Logs [] second third) :
    Logs made first third := by
  have both := one.trans two
  rwa [List.append_nil] at both

theorem Logs.extract (logs : Logs made first second) :
    (second.records.extract first.records.size).toList.filter LogRecord.isClock = made := by
  obtain ⟨more, grown, filtered⟩ := logs
  have length : second.records.size - first.records.toList.length = more.length := by
    rw [← Array.length_toList, grown, List.length_append, Nat.add_sub_cancel_left]
  have new : (second.records.extract first.records.size).toList = more := by
    rw [Array.toList_extract, List.extract_eq_take_drop, grown,
      ← @Array.length_toList _ first.records, List.drop_left, length, List.take_length]
  rw [new, filtered]

theorem logs_refl (trail : Trail) : Logs [] trail trail :=
  ⟨[], (List.append_nil _).symm, rfl⟩

theorem logs_note (trail : Trail) (record : LogRecord) :
    Logs ([record].filter LogRecord.isClock) trail (trail.note record) :=
  ⟨[record], Array.toList_push, rfl⟩

theorem logs_report (trail : Trail) (violation : Violation) :
    Logs [] trail (trail.report violation) := by
  refine ⟨(trail.channel.record? violation).toList, ?_, ?_⟩
  · show (_ ++ Option.toArray _).toList = _
    rw [Array.toList_append, Option.toList_toArray]
  · cases trail.channel <;> rfl

end Logs
end Trail

namespace Operations
variable (operations : Operations)

theorem logs_reportAll (found : List Violation) :
    Trail.Logs [] operations.trail (operations.reportAll found).trail := by
  induction found generalizing operations with
  | nil => exact operations.trail.logs_refl
  | cons violation rest ih => exact (operations.trail.logs_report violation).trans (ih _)

theorem logs_start : Trail.Logs [] operations.trail operations.start.trail := by
  have noted := operations.trail.logs_note (.operationStarted operations.inFlight)
  unfold start
  split
  · exact noted.quietly (Trail.logs_report ..)
  · exact noted

theorem logs_finish : Trail.Logs [] operations.trail operations.finish.trail := by
  have noted := operations.trail.logs_note (.operationEnded operations.inFlight)
  unfold finish
  split
  · exact noted
  · exact noted.quietly (Trail.logs_report ..)

end Operations

/-- The transport logs nothing in a clock's name while it is handed an event. -/
structure Transport.Timeless (τ : Type) [Transport τ] : Prop where
  message : ∀ (transport : τ) operations message,
    Trail.Logs [] operations.trail (enqueueMessage transport operations message).2.1.trail
  connect : ∀ (transport : τ) operations event,
    Trail.Logs [] operations.trail (enqueueConnect transport operations event).2.trail

theorem Simulated.timeless : Transport.Timeless Simulated where
  message transport operations message := by
    simp only [Transport.enqueueMessage, Simulated.enqueueMessage]
    split
    · exact operations.trail.logs_note _
    · exact operations.trail.logs_refl
  connect _ operations _ := operations.trail.logs_refl

theorem Inline.timeless : Transport.Timeless Inline where
  message transport operations message := by
    simp only [Transport.enqueueMessage, Inline.enqueueMessage]
    split
    · exact operations.logs_finish
    · exact operations.trail.logs_refl
  connect transport operations event := by
    simp only [Transport.enqueueConnect, Inline.enqueueConnect]
    split
    · exact operations.logs_finish
    · exact operations.trail.logs_refl

namespace Dispatcher
variable {τ : Type} (dispatcher : Dispatcher τ)

theorem logs_receive (record : LogRecord) (other : record.isClock = false) (stamp : Word) :
    Trail.Logs [.clockAdvanced dispatcher.now stamp] dispatcher.trail
      (dispatcher.receive record stamp).trail := by
  have noted := dispatcher.trail.logs_note record
  rw [List.filter_cons_of_neg (by simp [other]), List.filter_nil] at noted
  exact noted.trans (Trail.logs_note _ (.clockAdvanced dispatcher.now stamp))

theorem logs_checkOwner (owner : OwnerId) :
    Trail.Logs [] dispatcher.trail (dispatcher.checkOwner owner).trail := by
  show Trail.Logs [] _ (dispatcher.checkOwner owner).operations.trail
  rw [operations_checkOwner]
  exact Operations.logs_reportAll ..

theorem logs_opened (event : MessageEvent) :
    Trail.Logs [.clockAdvanced dispatcher.now event.timestamp] dispatcher.trail
      (dispatcher.opened event).trail :=
  ((dispatcher.logs_receive (.messageReceived event) rfl event.timestamp).quietly
    (logs_checkOwner ..)).quietly (Operations.logs_start _)

section Events
variable [Transport τ]

theorem clock_onMessage (event : MessageEvent) :
    (dispatcher.onMessage event).1.clock = dispatcher.clock.advance event.timestamp := by
  cases framed : event.window with
  | error fault => rw [onMessage_of_error framed]; rfl
  | ok window =>
    cases accepted : ((dispatcher.opened event).forward (.ofEvent event window)).2 with
    | true => rw [onMessage_of_handed framed (Prod.ext rfl accepted)]; rfl
    | false => rw [onMessage_of_refused framed (Prod.ext rfl accepted)]; rfl

/-- An event of any kind moves the clock to its stamp. -/
theorem clock_dispatch (event : Event) :
    (dispatcher.dispatch event).1.clock = dispatcher.clock.advance event.timestamp := by
  cases event with
  | message event => exact dispatcher.clock_onMessage event
  | connect event => rfl
  | heartbeat event => rfl

variable (timeless : Transport.Timeless τ)
include timeless

theorem logs_onMessage (event : MessageEvent) :
    Trail.Logs [.clockAdvanced dispatcher.now event.timestamp] dispatcher.trail
      (dispatcher.onMessage event).1.trail := by
  have opened := dispatcher.logs_opened event
  cases framed : event.window with
  | error fault =>
    rw [onMessage_of_error framed]
    exact opened.quietly (Trail.logs_report ..)
  | ok window =>
    have handed := opened.quietly (timeless.message (dispatcher.opened event).transport _
      (.ofEvent event window))
    cases accepted : ((dispatcher.opened event).forward (.ofEvent event window)).2 with
    | true =>
      rw [onMessage_of_handed framed (Prod.ext rfl accepted)]
      exact handed
    | false =>
      rw [onMessage_of_refused framed (Prod.ext rfl accepted)]
      have noted := handed.trans (Trail.logs_note _ (.refusedDownstream event.connection window))
      exact noted.quietly (Trail.logs_report ..)

theorem logs_onConnect (event : ConnectEvent) :
    Trail.Logs [.clockAdvanced dispatcher.now event.timestamp] dispatcher.trail
      (dispatcher.onConnect event).1.trail := by
  let started := (dispatcher.receive (.connectReceived event) event.timestamp).start
  have opened : Trail.Logs _ dispatcher.trail started.trail :=
    (dispatcher.logs_receive (.connectReceived event) rfl event.timestamp).quietly
      (Operations.logs_start _)
  have expected : Trail.Logs [] started.trail (started.expect event.connection).trail := by
    unfold expect
    cases started.pending with
    | none => exact started.trail.logs_refl
    | some unread => exact started.trail.logs_note _
  exact (opened.quietly expected).quietly (timeless.connect ..)

/-- An event leaves one record about the clock: what it read, and the stamp of the event. -/
theorem logs_dispatch (event : Event) :
    Trail.Logs [.clockAdvanced dispatcher.now event.timestamp] dispatcher.trail
      (dispatcher.dispatch event).1.trail := by
  cases event with
  | message event => exact dispatcher.logs_onMessage timeless event
  | connect event => exact dispatcher.logs_onConnect timeless event
  | heartbeat event =>
    exact (dispatcher.logs_receive (.heartbeatReceived event) rfl event.timestamp).quietly
      (logs_checkOwner ..)

end Events
end Dispatcher
end SessionReplay
