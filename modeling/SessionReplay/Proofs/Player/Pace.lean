import SessionReplay.Proofs.Player.Course

/-! How a player paces its completions. Draws and what waits decide it, and nothing else does:
turns, counts, clock and log have no part in it. So the violations of a run are found by going
through the events once, with what became of them. -/
namespace SessionReplay

/-- The part of a player that decides when messages are completed. -/
structure Pace where
  draws : Draws
  standing : Standing

namespace Pace

def drain (pace : Pace) : Pace := { pace with standing := pace.standing.drain }

def collect (pace : Pace) : Pace :=
  { pace with standing := { pace.standing with violations := [] } }

def completeNext (pace : Pace) : Pace :=
  { pace with standing := pace.standing.complete (min 1 pace.standing.awaiting.length) }

def settle (pace : Pace) : CompletionPolicy → Pace
  | .immediate | .deferred => pace.drain
  | .lagging skipPercent =>
    let (chance, draws) := pace.draws.percent
    if chance < skipPercent.toNat then { pace with draws } else { pace with draws }.drain

def dispatch (pace : Pace) (owners : Owners) (event : Event) (outcome : Outcome) : Pace :=
  { pace with standing := pace.standing.dispatch owners event outcome }

def afterMessage (pace : Pace) (policy : CompletionPolicy) (outcome : Outcome) : Pace :=
  if outcome = .forwarded ∧ policy = .immediate then pace.completeNext else pace

def afterConnect (pace : Pace) : Pace :=
  { pace with standing := pace.standing.perform [.finish] }

def afterHeartbeat (pace : Pace) (policy : CompletionPolicy) : Pace :=
  if policy = .immediate then pace
  else
    let (flush, draws) := pace.draws.coin
    if flush then { pace with draws }.drain else { pace with draws }

/-- One event, of which `outcome` became. -/
def play (policy : CompletionPolicy) (owners : Owners) (pace : Pace) : Event × Outcome → Pace
  | (.message event, outcome) =>
    ((pace.settle policy).dispatch owners (.message event) outcome).afterMessage policy outcome
  | (.connect event, outcome) =>
    ((pace.settle policy).dispatch owners (.connect event) outcome).afterConnect
  | (.heartbeat event, outcome) =>
    (pace.dispatch owners (.heartbeat event) outcome).afterHeartbeat policy

end Pace

namespace Player
open Dispatcher

def pace (player : Player) : Pace := ⟨player.draws, player.dispatcher.standing⟩

section Consumer
variable {player : Player} (collecting : player.dispatcher.channel = .collecting)
  (registered : player.dispatcher.transport.registered = true)
include collecting registered

theorem pace_completeNext : player.completeNext.pace = player.pace.completeNext := by
  have completed := (tended_completeNext registered).completed
  exact congrArg (Pace.mk player.draws) (completed.standing collecting)

theorem pace_completeAll : player.completeAll.1.pace = player.pace.drain := by
  have completed := (tended_completeAll registered).completed
  exact congrArg (Pace.mk player.draws) (completed.standing collecting)

theorem pace_settle : player.settle.pace = player.pace.settle player.policy := by
  unfold Player.settle Pace.settle
  cases player.policy with
  | immediate => exact pace_completeAll collecting registered
  | deferred => exact pace_completeAll collecting registered
  | lagging skipPercent =>
    have drawn := @pace_completeAll { player with draws := player.draws.percent.2 }
      collecting registered
    dsimp only
    split
    · next skipped => exact (if_pos skipped).symm
    · next flushed => exact drawn.trans (if_neg flushed).symm

theorem pace_afterMessage (outcome : Outcome) :
    (player.afterMessage outcome).pace = player.pace.afterMessage player.policy outcome := by
  unfold Player.afterMessage Pace.afterMessage
  split
  · exact pace_completeNext collecting registered
  · rfl

theorem pace_afterHeartbeat :
    player.afterHeartbeat.pace = player.pace.afterHeartbeat player.policy := by
  unfold Player.afterHeartbeat Pace.afterHeartbeat
  split
  · rfl
  · have drawn := @pace_completeAll { player with draws := player.draws.coin.2 }
      collecting registered
    dsimp only
    split
    · next flushed => exact drawn.trans (if_pos flushed).symm
    · next kept => exact (if_neg kept).symm

end Consumer

section One
variable {player : Player} (ready : player.dispatcher.Ready)
include ready

theorem pace_offered (event : Event) :
    (player.offered event).pace = player.pace.dispatch player.dispatcher.owners event
      (event.fate player.dispatcher.transport.refusals) := by
  have standing := (player.dispatcher.dispatched event).standing ready.channel
  rw [outcome_dispatch] at standing
  exact congrArg (Pace.mk player.draws) standing

theorem pace_settle_offered (event : Event) :
    (player.settle.offered event).pace =
      (player.pace.settle player.policy).dispatch player.dispatcher.owners event
        (event.fate player.dispatcher.transport.refusals) := by
  obtain ⟨ended, tended, -⟩ := @tended_settle player ready.registered
  have owners : player.settle.dispatcher.owners = player.dispatcher.owners :=
    congrArg Setting.owners tended.completed.setting
  rw [pace_offered (tended.completed.ready ready), owners, tended.completed.refusals,
    pace_settle ready.channel ready.registered]

theorem pace_playEvent (report : Report) (event : Event) :
    (player.playEvent report event).1.pace =
      player.pace.play player.policy player.dispatcher.owners
        (event, event.fate player.dispatcher.transport.refusals) := by
  obtain ⟨ended, tended, -⟩ := @tended_settle player ready.registered
  have advanced := tended.advanced ready event
  have offered := pace_settle_offered ready event
  cases event with
  | message event =>
    have fate := player.settle.dispatcher.outcome_dispatch (.message event)
    rw [tended.completed.refusals] at fate
    have played := pace_afterMessage advanced.channel advanced.registered
      (player.settle.dispatcher.dispatch (.message event)).2
    have policy : (player.settle.offered (.message event)).policy = player.policy := tended.policy
    rw [offered, policy] at played
    exact played.trans (congrArg (Pace.afterMessage _ player.policy) fate)
  | connect event =>
    have standing := (player.settle.offered (.connect event)).dispatcher.standing_taken
      advanced.channel
    rw [playEvent_connect ready]
    refine (congrArg (Pace.mk _) standing).trans ?_
    exact congrArg Pace.afterConnect offered
  | heartbeat event =>
    have idle := (@tended_refl player).advanced ready (.heartbeat event)
    have played := pace_afterHeartbeat idle.channel idle.registered
    rw [pace_offered ready] at played
    exact played

end One

section Runs
variable {player : Player}

theorem pace_playEvents (ready : player.dispatcher.Ready) (report : Report)
    (events : List Event) :
    (player.playEvents report events).1.pace =
      (replayed player.dispatcher.transport.refusals events).foldl
        (Pace.play player.policy player.dispatcher.owners) player.pace := by
  induction events generalizing player report with
  | nil => rfl
  | cons event rest ih =>
    have one := (playedOne ready report event).played
    have later := ih one.ready (player.playEvent report event).2
    have owners : (player.playEvent report event).1.dispatcher.owners = player.dispatcher.owners :=
      congrArg Arrangement.owners one.arrangement
    have policy : (player.playEvent report event).1.policy = player.policy :=
      congrArg Arrangement.policy one.arrangement
    rw [pace_playEvent ready, owners, policy, one.refusals] at later
    exact later

theorem pace_playTurn (ready : player.dispatcher.Ready) (report : Report) (turn : List Event) :
    (player.playTurn report turn).1.pace =
      (replayed player.dispatcher.transport.refusals turn).foldl
        (Pace.play player.policy player.dispatcher.owners) player.pace := by
  have reset := (played_resetCount ready report).ready
  refine Eq.trans ?_ (pace_playEvents reset report turn)
  -- the look at the count is a note in the log and a word to the probe
  unfold playTurn checkConfiguredLimit checkCount
  dsimp only
  split <;> rfl

/-- Where turns begin and end does not matter. -/
theorem pace_playTurns (ready : player.dispatcher.Ready) (report : Report)
    (probing : player.dispatcher.observer = some probeName) (turns : List (List Event)) :
    (player.playTurns report turns).1.pace =
      (replayed player.dispatcher.transport.refusals turns.flatten).foldl
        (Pace.play player.policy player.dispatcher.owners) player.pace := by
  induction turns generalizing player report with
  | nil => rfl
  | cons turn rest ih =>
    have first := (played_turn ready report probing turn).1
    have observer := (congrArg Arrangement.observer first.arrangement).trans probing
    have later := ih first.ready (player.playTurn report turn).2 observer
    have owners : (player.playTurn report turn).1.dispatcher.owners = player.dispatcher.owners :=
      congrArg Arrangement.owners first.arrangement
    have policy : (player.playTurn report turn).1.policy = player.policy :=
      congrArg Arrangement.policy first.arrangement
    rw [pace_playTurn ready, owners, policy, first.refusals] at later
    rw [List.flatten_cons, replayed_append, List.foldl_append]
    exact later

/-- The pace at the end of a run, before what was reported is moved out. -/
theorem Follows.pace_finish {course : Course} (follows : Follows course player)
    (events : List Event) :
    (player.playTurns {} (turnsOf player.turnSize events)).1.completeAll.1.pace =
      ((replayed course.refusals events).foldl (Pace.play player.policy course.owners)
        player.pace).drain := by
  have turned := (played_turns follows.ready ({} : Report) follows.observer
    (turnsOf player.turnSize events)).1
  have paced := pace_playTurns follows.ready {} follows.observer (turnsOf player.turnSize events)
  rw [pace_completeAll turned.ready.channel turned.ready.registered, paced, flatten_turnsOf,
    follows.refusals, follows.owners]

/-- The whole report of a run is settled by its events and by the pace. -/
theorem Follows.report_run {course : Course} (follows : Follows course player)
    (events : List Event) :
    (player.run events).2 = course.report events
      ((replayed course.refusals events).foldl (Pace.play player.policy course.owners)
        player.pace).drain.standing.violations := by
  obtain ⟨last, -, -, -, -, reported⟩ := follows.run events
  have violations : (player.run events).2.violations = _ :=
    congrArg (fun pace => pace.standing.violations) (follows.pace_finish events)
  rw [reported] at violations ⊢
  exact congrArg (course.report events) violations

theorem Follows.pace_run {course : Course} (follows : Follows course player)
    (events : List Event) :
    (player.run events).1.pace =
      ((replayed course.refusals events).foldl (Pace.play player.policy course.owners)
        player.pace).drain.collect :=
  congrArg Pace.collect (follows.pace_finish events)

end Runs
end Player
end SessionReplay
