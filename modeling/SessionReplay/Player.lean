import SessionReplay.Player.Report
import SessionReplay.Player.Turns
import SessionReplay.Random.Draws
import SessionReplay.Transport.Simulated

/-! Plays scripts through a dispatcher in turns of bounded length, starting to count
anew with each turn and looking at the count after it. Between events the player acts
as the consumer that completes what was forwarded. All its choices come from seeded
draws, so equal seeds play equally. -/
namespace SessionReplay

/-- When the consumer completes forwarded messages. -/
inductive CompletionPolicy where
  /-- Each as soon as it is accepted. -/
  | immediate
  /-- At some heartbeats, and always before the next operation opens. -/
  | deferred
  /-- Like `deferred`, but the completion before an operation is skipped with this
  chance in a hundred. -/
  | lagging (skipPercent : UInt8)
  deriving DecidableEq

structure Player where
  dispatcher : Dispatcher Simulated
  policy : CompletionPolicy
  draws : Draws
  turnSize : Nat

namespace Player

/-- The name under which the player itself observes the rate probe. -/
def probeName : String := "probe"

/-- A player whose turns are as long as the configured limit. -/
def new (config : Config) (policy : CompletionPolicy) (seed : UInt64) : Player where
  dispatcher := (Dispatcher.new {} .collecting config).setObserver (some probeName)
  policy := policy
  draws := .ofSeed seed
  turnSize := max config.fragmentLimit.toNat 1

/-- Plays turns of another length than the configured limit. -/
def withTurnSize (player : Player) (size : Nat) : Player :=
  { player with turnSize := max size 1 }

@[inline] def withDispatcher (player : Player) (dispatcher : Dispatcher Simulated) : Player :=
  { player with dispatcher }

def completeNext (player : Player) : Player :=
  let (transport, operations, _) :=
    player.dispatcher.transport.completeNext player.dispatcher.operations
  player.withDispatcher { player.dispatcher with transport, operations }

def completeAll (player : Player) : Player × Nat :=
  let (transport, operations, count) :=
    player.dispatcher.transport.completeAll player.dispatcher.operations
  (player.withDispatcher { player.dispatcher with transport, operations }, count)

def refuseNext (player : Player) (count : Nat) : Player :=
  player.withDispatcher
    { player.dispatcher with transport := player.dispatcher.transport.refuseNext count }

def installRoster (player : Player) (roster : Roster) : Player :=
  player.withDispatcher (player.dispatcher.installRoster roster)

def changeShared (player : Player) (register unregister : List OwnerId) : Player :=
  let owners := register.foldl (fun owners owner => (owners.registerShared (.bare owner)).1)
    player.dispatcher.owners
  let owners := unregister.foldl (fun owners owner => (owners.unregisterShared owner).1) owners
  player.withDispatcher { player.dispatcher with owners }

/-- Completes what is waiting before an operation opens, unless the consumer lags. -/
def settle (player : Player) : Player :=
  match player.policy with
  | .immediate | .deferred => player.completeAll.1
  | .lagging skipPercent =>
    let (chance, draws) := player.draws.percent
    let player := { player with draws }
    if chance < skipPercent.toNat then
      player.withDispatcher
        (player.dispatcher.note (.flushSkipped player.dispatcher.transport.awaiting.size))
    else player.completeAll.1

def afterConnect (player : Player) (report : Report) : Player × Report :=
  let (dispatcher, taken) := player.dispatcher.takeConnection
  let player := player.withDispatcher dispatcher
  match taken with
  | .ok connection =>
    (player, { report with connections := report.connections.push connection })
  | .error _ => (player, report)

/-- Completes a message at once, if it was taken and that is the policy. -/
def afterMessage (player : Player) (outcome : Outcome) : Player :=
  if outcome = .forwarded ∧ player.policy = .immediate then player.completeNext else player

/-- Tosses a coin at a heartbeat and completes what is waiting if it says so. -/
def afterHeartbeat (player : Player) : Player :=
  if player.policy = .immediate then player
  else
    let (flush, draws) := player.draws.coin
    let player := { player with draws }
    if flush then player.completeAll.1 else player

def playEvent (player : Player) (report : Report) (event : Event) : Player × Report :=
  let player := if event.opensOperation then player.settle else player
  let (dispatcher, outcome) := player.dispatcher.dispatch event
  let player := player.withDispatcher dispatcher
  let report := report.record outcome
  match event with
  | .connect _ => player.afterConnect report
  | .message _ => (player.afterMessage outcome, report)
  | .heartbeat _ => (player.afterHeartbeat, report)

def playEvents (player : Player) (report : Report) (events : List Event) : Player × Report :=
  events.foldl (fun (player, report) event => player.playEvent report event) (player, report)

/-- Plays one turn: the count starts anew and is looked at in the end. -/
def playTurn (player : Player) (report : Report) (turn : List Event) : Player × Report :=
  let (player, report) :=
    (player.withDispatcher player.dispatcher.resetCount).playEvents report turn
  (player.withDispatcher player.dispatcher.checkConfiguredLimit.1,
    { report with turns := report.turns + 1 })

def finish (player : Player) : Player :=
  let (player, completed) := player.completeAll
  player.withDispatcher (player.dispatcher.note (.drained completed))

/-- Moves what was reported and observed out of the dispatcher. -/
def collect (player : Player) (report : Report) : Player × Report :=
  let dispatcher := player.dispatcher
  let trail := { dispatcher.trail with violations := #[] }
  (player.withDispatcher
    { dispatcher with operations := { dispatcher.operations with trail }, observed := #[] },
    { report with
      finalTime := dispatcher.now
      violations := dispatcher.trail.violations.toList
      overLimit := dispatcher.observed.toList.map Prod.snd })

/-- Plays a script from beginning to end and completes what is left. -/
def run (player : Player) (events : List Event) : Player × Report :=
  let (player, report) := (turnsOf player.turnSize events).foldl
    (fun (player, report) turn => player.playTurn report turn) (player, ({} : Report))
  player.finish.collect report

end Player
end SessionReplay
