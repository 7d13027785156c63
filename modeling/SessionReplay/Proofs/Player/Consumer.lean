import SessionReplay.Player
import SessionReplay.Proofs.Dispatcher.Completed

/-! A consumer as the events see it: at every event it may complete some of the oldest
messages, before the event and after it. How many, and when, is a matter of policies and
draws; what follows of whatever it does is not. -/
namespace SessionReplay
open Operations (isOpen breaches completions)

/-- The part of a replay that completions take part in. -/
structure Standing where
  inFlight : Bool
  /-- The messages that wait to be completed, the oldest first. -/
  awaiting : List ConnectionId
  violations : List Violation

namespace Standing

def perform (standing : Standing) (calls : List Operations.Call) : Standing :=
  { standing with
    inFlight := isOpen standing.inFlight calls
    violations := standing.violations ++ breaches standing.inFlight calls }

def complete (standing : Standing) (ended : Nat) : Standing :=
  { standing.perform (completions ended) with awaiting := standing.awaiting.drop ended }

def dispatch (standing : Standing) (owners : Owners) (event : Event) (outcome : Outcome) :
    Standing where
  inFlight := event.opensOperation || standing.inFlight
  awaiting := standing.awaiting ++ event.accepted outcome
  violations := standing.violations ++ event.findings owners standing.inFlight outcome

/-- After a connect its id is taken, and after other events messages are completed. -/
def follow (standing : Standing) (ended : Nat) : Event → Standing
  | .connect _ => standing.perform [.finish]
  | _ => standing.complete ended

end Standing

/-- The chance in a hundred that the consumer leaves messages waiting when an operation
is about to open. -/
def CompletionPolicy.skipChance : CompletionPolicy → Nat
  | .immediate | .deferred => 0
  | .lagging skipPercent => skipPercent.toNat

/-- One event with what the consumer does about it. A consumer that never skips lets
nothing wait when an operation opens. -/
inductive Consumes (policy : CompletionPolicy) (owners : Owners) :
    Standing → Event × Outcome → Standing → Prop where
  | opening (opens : event.opensOperation = true)
    (early : ended ≤ before.awaiting.length)
    (settled : policy.skipChance = 0 → ended = before.awaiting.length)
    (late : more ≤ ((before.complete ended).dispatch owners event outcome).awaiting.length) :
    Consumes policy owners before (event, outcome)
      (((before.complete ended).dispatch owners event outcome).follow more event)
  | heartbeat
    (late : more ≤ (before.dispatch owners (.heartbeat event) .observed).awaiting.length) :
    Consumes policy owners before (.heartbeat event, .observed)
      ((before.dispatch owners (.heartbeat event) .observed).complete more)

inductive Consumed (policy : CompletionPolicy) (owners : Owners) :
    Standing → List (Event × Outcome) → Standing → Prop where
  | refl (standing) : Consumed policy owners standing [] standing
  | next : Consumes policy owners before entry between →
    Consumed policy owners between rest after → Consumed policy owners before (entry :: rest) after

theorem Consumed.trans (first : Consumed policy owners before past between)
    (second : Consumed policy owners between more after) :
    Consumed policy owners before (past ++ more) after := by
  induction first with
  | refl => exact second
  | next head tail ih => exact .next head (ih second)

namespace Dispatcher

def standing (dispatcher : Dispatcher Simulated) : Standing :=
  ⟨dispatcher.inFlight, dispatcher.awaiting, dispatcher.violations⟩

/-- Violations are kept, completions can be signalled and no connection id waits: so it
is before and after every event that a player plays. -/
structure Ready (dispatcher : Dispatcher Simulated) : Prop where
  channel : dispatcher.channel = .collecting
  registered : dispatcher.transport.registered = true
  pending : dispatcher.pending = none

theorem Completed.standing (completed : Completed before ended after)
    (collecting : before.channel = .collecting) :
    after.standing = before.standing.complete ended := by
  unfold Dispatcher.standing
  rw [completed.inFlight, completed.awaiting, completed.violations, collecting]
  rfl

theorem Dispatched.standing (dispatched : Dispatched before event outcome after)
    (collecting : before.channel = .collecting) :
    after.standing = before.standing.dispatch before.owners event outcome := by
  unfold Dispatcher.standing
  rw [dispatched.inFlight, dispatched.awaiting, dispatched.violations, collecting]
  rfl

theorem standing_taken (dispatcher : Dispatcher Simulated)
    (collecting : dispatcher.channel = .collecting) :
    dispatcher.taken.standing = dispatcher.standing.perform [.finish] := by
  have found : dispatcher.taken.violations = dispatcher.violations ++
      dispatcher.channel.kept (Operations.breach dispatcher.inFlight .finish) :=
    Operations.violations_finish _
  unfold standing
  rw [found, collecting, ErrorChannel.kept_collecting, ← List.append_nil (Operations.breach _ _)]
  rfl

theorem Completed.ready (completed : Completed before ended after) (ready : before.Ready) :
    after.Ready :=
  ⟨(congrArg Setting.channel completed.setting).trans ready.channel,
    (congrArg Setting.registered completed.setting).trans ready.registered,
    completed.pending.trans ready.pending⟩

end Dispatcher

namespace Player
open Dispatcher

/-- A player that only completed messages, and perhaps drew for it. -/
structure Tended (before : Player) (ended : Nat) (after : Player) : Prop where
  completed : Completed before.dispatcher ended after.dispatcher
  policy : after.policy = before.policy
  turnSize : after.turnSize = before.turnSize

section Tended
variable {player : Player}

theorem tended_refl : Tended player 0 player := ⟨completed_refl, rfl, rfl⟩

theorem tended_completeNext (registered : player.dispatcher.transport.registered = true) :
    Tended player (min 1 player.dispatcher.awaiting.length) player.completeNext :=
  ⟨(completed_next registered).2, rfl, rfl⟩

theorem tended_completeAll (registered : player.dispatcher.transport.registered = true) :
    Tended player player.dispatcher.awaiting.length player.completeAll.1 :=
  ⟨(completed_all registered).2, rfl, rfl⟩

theorem tended_settle (registered : player.dispatcher.transport.registered = true) :
    ∃ ended, Tended player ended player.settle ∧
      (player.policy.skipChance = 0 → ended = player.dispatcher.awaiting.length) := by
  have all := tended_completeAll registered
  unfold settle
  cases policy : player.policy with
  | immediate => exact ⟨_, all, fun _ => rfl⟩
  | deferred => exact ⟨_, all, fun _ => rfl⟩
  | lagging skipPercent =>
    dsimp only
    split
    · next skipped =>
      refine ⟨0, ⟨completed_note _, policy.symm, rfl⟩, ?_⟩
      intro never
      exact absurd skipped (by rw [show skipPercent.toNat = 0 from never]; omega)
    · have drawn := @tended_completeAll { player with draws := player.draws.percent.2 } registered
      exact ⟨_, ⟨drawn.completed, policy.symm, rfl⟩, fun _ => rfl⟩

theorem tended_afterMessage (registered : player.dispatcher.transport.registered = true)
    (outcome : Outcome) :
    ∃ ended, Tended player ended (player.afterMessage outcome) := by
  unfold afterMessage
  split
  · exact ⟨_, tended_completeNext registered⟩
  · exact ⟨0, tended_refl⟩

theorem tended_afterHeartbeat (registered : player.dispatcher.transport.registered = true) :
    ∃ ended, Tended player ended player.afterHeartbeat := by
  unfold afterHeartbeat
  split
  · exact ⟨0, tended_refl⟩
  · dsimp only
    split
    · have drawn := @tended_completeAll { player with draws := player.draws.coin.2 } registered
      exact ⟨_, drawn.completed, rfl, rfl⟩
    · exact ⟨0, completed_refl, rfl, rfl⟩

end Tended
end Player
end SessionReplay
