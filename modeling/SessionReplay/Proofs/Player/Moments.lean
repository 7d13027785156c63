import SessionReplay.Proofs.Player.Pace

/-! A run event by event: whether what waited was completed at an event, and what dispatching it
reported. The moments are taken along the run itself, turn after turn; the pace tells them without
the turns. Completions report nothing but that they were unmatched, so all other violations of a run
are found in its moments. -/
namespace SessionReplay
open Operations (breaches completions)

/-- Does a consumer complete what waits, with these draws to come? It does so before an event that
opens an operation and after a heartbeat. -/
def CompletionPolicy.flushes (policy : CompletionPolicy) (draws : Draws) (event : Event) : Bool :=
  if event.opensOperation then
    match policy with
    | .immediate | .deferred => true
    | .lagging skipPercent => !(draws.percent.1 < skipPercent.toNat)
  else policy ≠ .immediate && draws.coin.1

structure Moment where
  event : Event
  /-- What waited was completed. -/
  flushed : Bool
  /-- What dispatching the event reported. -/
  reported : List Violation

namespace Player

def facing (player : Player) (event : Event) : Player :=
  if event.opensOperation then player.settle else player

def moment (player : Player) (event : Event) : Moment where
  event
  flushed := player.policy.flushes player.draws event
  reported := ((player.facing event).offered event).dispatcher.violations.drop
    (player.facing event).dispatcher.violations.length

def momentsOf (player : Player) (report : Report) : List Event → List Moment
  | [] => []
  | event :: rest =>
    let (next, later) := player.playEvent report event
    player.moment event :: next.momentsOf later rest

/-- The moments of turns, of which each begins with a count of nothing. -/
def momentsOfTurns (player : Player) (report : Report) : List (List Event) → List Moment
  | [] => []
  | turn :: rest =>
    let (next, later) := player.playTurn report turn
    (player.withDispatcher player.dispatcher.resetCount).momentsOf report turn ++
      next.momentsOfTurns later rest

def moments (player : Player) (events : List Event) : List Moment :=
  player.momentsOfTurns {} (turnsOf player.turnSize events)

end Player

namespace Pace

def facing (policy : CompletionPolicy) (pace : Pace) (event : Event) : Pace :=
  if event.opensOperation then pace.settle policy else pace

def moment (policy : CompletionPolicy) (owners : Owners) (pace : Pace) (entry : Event × Outcome) :
    Moment where
  event := entry.1
  flushed := policy.flushes pace.draws entry.1
  reported := entry.1.findings owners (pace.facing policy entry.1).standing.inFlight entry.2

def moments (policy : CompletionPolicy) (owners : Owners) : Pace → List (Event × Outcome) →
    List Moment
  | _, [] => []
  | pace, entry :: rest =>
    pace.moment policy owners entry :: (pace.play policy owners entry).moments policy owners rest

/-- What waits is completed before an operation opens, or everything stays as it is. -/
theorem standing_facing (policy : CompletionPolicy) (pace : Pace) {event : Event}
    (opens : event.opensOperation = true) :
    (pace.facing policy event).standing =
      if policy.flushes pace.draws event then pace.standing.drain else pace.standing := by
  unfold facing settle CompletionPolicy.flushes
  rw [if_pos opens, if_pos opens]
  cases policy with
  | immediate => rfl
  | deferred => rfl
  | lagging skipPercent =>
    dsimp only
    split
    · next skipped => simp [skipped]
    · next flushed => simp [flushed, drain]

theorem map_event_moments (policy : CompletionPolicy) (owners : Owners) (pace : Pace)
    (history : List (Event × Outcome)) :
    (pace.moments policy owners history).map Moment.event = history.map Prod.fst := by
  induction history generalizing pace with
  | nil => rfl
  | cons entry rest ih => exact congrArg (entry.1 :: ·) (ih _)

theorem moments_append (policy : CompletionPolicy) (owners : Owners) (pace : Pace)
    (history more : List (Event × Outcome)) :
    pace.moments policy owners (history ++ more) =
      pace.moments policy owners history ++
        (history.foldl (play policy owners) pace).moments policy owners more := by
  induction history generalizing pace with
  | nil => rfl
  | cons entry rest ih => exact congrArg (_ :: ·) (ih _)

end Pace

def apartFromCompletions (found : List Violation) : List Violation :=
  found.filter (· ≠ .unmatchedCompletion)

theorem apartFromCompletions_append (found more : List Violation) :
    apartFromCompletions (found ++ more) =
      apartFromCompletions found ++ apartFromCompletions more :=
  List.filter_append ..

theorem Event.apartFromCompletions_findings (event : Event) (owners : Owners) (wasOpen : Bool)
    (outcome : Outcome) :
    apartFromCompletions (event.findings owners wasOpen outcome) =
      event.findings owners wasOpen outcome := by
  apply List.filter_eq_self.mpr
  intro violation found
  rw [decide_eq_true_eq]
  rintro rfl
  exact Event.not_mem_findings rfl Violation.noConfusion _ _ found

namespace Standing

/-- Completions report nothing but that they were unmatched. -/
theorem apart_finishes (standing : Standing) (count : Nat) :
    apartFromCompletions (standing.perform (completions count)).violations =
      apartFromCompletions standing.violations := by
  have unmatched : ∀ (wasOpen : Bool) (violation : Violation),
      violation ∈ breaches wasOpen (completions count) → violation = .unmatchedCompletion := by
    intro wasOpen violation found
    induction count generalizing wasOpen with
    | zero => contradiction
    | succ count ih =>
      rcases List.mem_append.mp found with now | later
      · cases wasOpen with
        | true => contradiction
        | false => exact List.mem_singleton.mp now
      · exact ih _ later
  refine (apartFromCompletions_append _ _).trans ?_
  have none : apartFromCompletions (breaches standing.inFlight (completions count)) = [] := by
    apply List.filter_eq_nil_iff.mpr
    intro violation found
    rw [unmatched _ violation found]
    decide
  rw [none, List.append_nil]

theorem apart_complete (standing : Standing) (ended : Nat) :
    apartFromCompletions (standing.complete ended).violations =
      apartFromCompletions standing.violations :=
  standing.apart_finishes ended

end Standing

namespace Pace
variable {policy : CompletionPolicy} {owners : Owners}

theorem apart_facing (pace : Pace) (event : Event) :
    apartFromCompletions (pace.facing policy event).standing.violations =
      apartFromCompletions pace.standing.violations := by
  unfold facing settle
  split
  · split
    · exact pace.standing.apart_complete _
    · exact pace.standing.apart_complete _
    · dsimp only
      split
      · rfl
      · exact pace.standing.apart_complete _
  · rfl

theorem apart_dispatch (pace : Pace) (entry : Event × Outcome) :
    apartFromCompletions
        ((pace.facing policy entry.1).dispatch owners entry.1 entry.2).standing.violations =
      apartFromCompletions pace.standing.violations ++
        (pace.moment policy owners entry).reported := by
  refine (apartFromCompletions_append _ _).trans ?_
  rw [apart_facing, Event.apartFromCompletions_findings]
  rfl

theorem apart_play (pace : Pace) (entry : Event × Outcome) :
    apartFromCompletions (pace.play policy owners entry).standing.violations =
      apartFromCompletions pace.standing.violations ++
        (pace.moment policy owners entry).reported := by
  rw [← apart_dispatch]
  obtain ⟨event, outcome⟩ := entry
  cases event with
  | message event =>
    show apartFromCompletions (Pace.afterMessage _ policy outcome).standing.violations = _
    unfold afterMessage
    split
    · exact Standing.apart_complete _ _
    · rfl
  | connect event => exact Standing.apart_finishes _ 1
  | heartbeat event =>
    show apartFromCompletions (Pace.afterHeartbeat _ policy).standing.violations = _
    unfold afterHeartbeat
    split
    · rfl
    · dsimp only
      split
      · exact Standing.apart_complete _ _
      · rfl

theorem apart_plays (pace : Pace) (history : List (Event × Outcome)) :
    apartFromCompletions (history.foldl (play policy owners) pace).standing.violations =
      apartFromCompletions pace.standing.violations ++
        (pace.moments policy owners history).flatMap Moment.reported := by
  induction history generalizing pace with
  | nil => exact (List.append_nil _).symm
  | cons entry rest ih =>
    rw [List.foldl_cons, ih, apart_play, List.append_assoc]
    rfl

end Pace

namespace Player
open Dispatcher

section Moments
variable {player : Player}

theorem pace_facing (ready : player.dispatcher.Ready) (event : Event) :
    (player.facing event).pace = player.pace.facing player.policy event := by
  unfold facing Pace.facing
  split
  · exact pace_settle ready.channel ready.registered
  · rfl

theorem pace_facing_offered (ready : player.dispatcher.Ready) (event : Event) :
    ((player.facing event).offered event).pace =
      (player.pace.facing player.policy event).dispatch player.dispatcher.owners event
        (event.fate player.dispatcher.transport.refusals) := by
  unfold facing Pace.facing
  split
  · exact pace_settle_offered ready event
  · exact pace_offered ready event

theorem moment_eq (ready : player.dispatcher.Ready) (event : Event) :
    player.moment event = player.pace.moment player.policy player.dispatcher.owners
      (event, event.fate player.dispatcher.transport.refusals) := by
  have before := congrArg (·.standing.violations) (pace_facing ready event)
  have after := congrArg (·.standing.violations) (pace_facing_offered ready event)
  have added : ((player.facing event).offered event).dispatcher.violations =
      (player.facing event).dispatcher.violations ++
        event.findings player.dispatcher.owners
          (player.pace.facing player.policy event).standing.inFlight
          (event.fate player.dispatcher.transport.refusals) :=
    after.trans (congrArg (· ++ _) before.symm)
  rw [moment, added, List.drop_left]
  rfl

theorem momentsOf_eq (ready : player.dispatcher.Ready) (report : Report) (events : List Event) :
    player.momentsOf report events = player.pace.moments player.policy player.dispatcher.owners
      (replayed player.dispatcher.transport.refusals events) := by
  induction events generalizing player report with
  | nil => rfl
  | cons event rest ih =>
    have one := (playedOne ready report event).played
    have later := ih one.ready (player.playEvent report event).2
    have owners : (player.playEvent report event).1.dispatcher.owners = player.dispatcher.owners :=
      congrArg Arrangement.owners one.arrangement
    have policy : (player.playEvent report event).1.policy = player.policy :=
      congrArg Arrangement.policy one.arrangement
    rw [pace_playEvent ready, owners, policy, one.refusals] at later
    rw [momentsOf, moment_eq ready]
    exact congrArg _ later

theorem momentsOfTurns_eq (ready : player.dispatcher.Ready) (report : Report)
    (probing : player.dispatcher.observer = some probeName) (turns : List (List Event)) :
    player.momentsOfTurns report turns = player.pace.moments player.policy
      player.dispatcher.owners
      (replayed player.dispatcher.transport.refusals turns.flatten) := by
  induction turns generalizing player report with
  | nil => rfl
  | cons turn rest ih =>
    have reset := (played_resetCount ready report).ready
    have first := (played_turn ready report probing turn).1
    have observer := (congrArg Arrangement.observer first.arrangement).trans probing
    have later := ih first.ready (player.playTurn report turn).2 observer
    have owners : (player.playTurn report turn).1.dispatcher.owners = player.dispatcher.owners :=
      congrArg Arrangement.owners first.arrangement
    have policy : (player.playTurn report turn).1.policy = player.policy :=
      congrArg Arrangement.policy first.arrangement
    rw [pace_playTurn ready, owners, policy, first.refusals] at later
    rw [List.flatten_cons, replayed_append, Pace.moments_append, ← later]
    exact congrArg (· ++ _) (momentsOf_eq reset report turn)

theorem Follows.moments_eq {course : Course} (follows : Follows course player)
    (events : List Event) :
    player.moments events = player.pace.moments player.policy course.owners
      (replayed course.refusals events) := by
  have same := momentsOfTurns_eq follows.ready {} follows.observer
    (turnsOf player.turnSize events)
  rwa [flatten_turnsOf, follows.owners, follows.refusals] at same

/-- Everything a run reports is reported at one of its moments, but for unmatched completions. -/
theorem Follows.violations_run {course : Course} (follows : Follows course player)
    (events : List Event) :
    apartFromCompletions (player.run events).2.violations =
      (player.moments events).flatMap Moment.reported := by
  have violations := congrArg Report.violations (follows.report_run events)
  have nothing : player.pace.standing.violations = [] := follows.violations
  rw [violations, follows.moments_eq]
  show apartFromCompletions (Standing.drain _).violations = _
  rw [Standing.drain, Standing.apart_complete, Pace.apart_plays, nothing]
  rfl

end Moments
end Player
end SessionReplay
