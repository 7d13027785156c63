import Mathlib.Data.List.Induction
import SessionReplay.Proofs.Player.Events

/-! The course of a player through runs and what is asked of it between them. The course
knows of no policy, seed or queue: it says where every player stands that came this way,
and what its next run reports but for the violations. -/
namespace SessionReplay

/-- What the probe is told about a turn, if its count exceeds the limit. -/
def overLimit (limit : Nat) (turn : List Event) : Option Nat :=
  let count := min turn.length Dispatcher.countCap
  if count ≤ limit then none else some count

inductive Move where
  | run (events : List Event)
  | refuseNext (count : Nat)
  /-- Puts a registry of any kind in place, and a table to be shared. -/
  | install (owners : Owners)
  | changeShared (register unregister : List OwnerId)

def Standing.drain (standing : Standing) : Standing :=
  standing.complete standing.awaiting.length

structure Course where
  config : Config
  turnSize : Nat
  owners : Owners := {}
  refusals : Nat := 0
  now : Word
  /-- Every event that was played, with what became of it. -/
  history : List (Event × Outcome) := []

namespace Course

def start (config : Config) (size : Nat) : Course :=
  { config, turnSize := max size 1, now := config.initialTime }

def run (course : Course) (events : List Event) : Course :=
  { course with
    refusals := refusalsAfter course.refusals events
    now := (events.map Event.timestamp).foldl max course.now
    history := course.history ++ replayed course.refusals events }

def changeShared (course : Course) (register unregister : List OwnerId) : Course :=
  let registered := register.foldl
    (fun owners owner => (owners.registerShared (.bare owner)).1) course.owners
  { course with
    owners := unregister.foldl (fun owners owner => (owners.unregisterShared owner).1) registered }

def after (course : Course) : Move → Course
  | .run events => course.run events
  | .refuseNext count => { course with refusals := count }
  | .install owners => { course with owners }
  | .changeShared register unregister => course.changeShared register unregister

def through (course : Course) (moves : List Move) : Course := moves.foldl after course

def report (course : Course) (events : List Event) (violations : List Violation) : Report :=
  let turns := turnsOf course.turnSize events
  { ({} : Report).tally (replayed course.refusals events) with
    turns := turns.length
    overLimit := turns.filterMap (overLimit course.config.fragmentLimit.toNat)
    finalTime := (course.run events).now
    violations }

end Course

namespace Player
open Dispatcher

def playTurns (player : Player) (report : Report) (turns : List (List Event)) : Player × Report :=
  turns.foldl (fun (player, report) turn => player.playTurn report turn) (player, report)

section Turns
variable {player : Player}

theorem played_resetCount (ready : player.dispatcher.Ready) (report : Report) :
    Played player report [] (player.withDispatcher player.dispatcher.resetCount) report :=
  ⟨rfl, ⟨ready.channel, ready.registered, ready.pending⟩, rfl, rfl,
    by rw [replayed, Report.tally_nil], .refl _⟩

/-- The look at the count after a turn, with what the probe is told. -/
theorem played_checkCount (ready : player.dispatcher.Ready) (report : Report)
    (probing : player.dispatcher.observer = some probeName)
    (counted : player.dispatcher.count = min turn.length countCap) :
    let checked := player.withDispatcher player.dispatcher.checkConfiguredLimit.1
    Played player report [] checked { report with turns := report.turns + 1 } ∧
      checked.dispatcher.observed.toList = player.dispatcher.observed.toList ++
        ((overLimit player.dispatcher.config.fragmentLimit.toNat turn).toList.map
          (probeName, ·)) := by
  have tallied : ({ report with turns := report.turns + 1 } : Report) =
      { report.tally [] with turns := report.turns + 1 } := by rw [Report.tally_nil]
  unfold checkConfiguredLimit checkCount overLimit
  rw [← counted]
  by_cases within : player.dispatcher.count ≤ player.dispatcher.config.fragmentLimit.toNat
  · simp only [if_pos within]
    exact ⟨⟨rfl, ⟨ready.channel, ready.registered, ready.pending⟩, rfl, rfl, tallied, .refl _⟩,
      (List.append_nil _).symm⟩
  · simp only [if_neg within, probing]
    exact ⟨⟨by rw [arrangement, arrangement, probing]; rfl,
      ⟨ready.channel, ready.registered, ready.pending⟩, rfl, rfl, tallied, .refl _⟩,
      Array.toList_push⟩

theorem played_turn (ready : player.dispatcher.Ready) (report : Report)
    (probing : player.dispatcher.observer = some probeName) (turn : List Event) :
    Played player report turn (player.playTurn report turn).1 (player.playTurn report turn).2 ∧
      (player.playTurn report turn).1.dispatcher.observed.toList =
        player.dispatcher.observed.toList ++
          ((overLimit player.dispatcher.config.fragmentLimit.toNat turn).toList.map
            (probeName, ·)) ∧
      (player.playTurn report turn).2.turns = report.turns + 1 := by
  have reset := played_resetCount ready report
  obtain ⟨events, count, observed, turns⟩ :=
    played_events reset.ready (Nat.zero_le _) report turn
  have arrangement := events.arrangement.trans reset.arrangement
  have config := congrArg Arrangement.config arrangement
  have observer := (congrArg Arrangement.observer arrangement).trans probing
  have counted := count.trans (congrArg (min · countCap) (Nat.zero_add turn.length))
  obtain ⟨checked, told⟩ := played_checkCount events.ready
    ((player.withDispatcher player.dispatcher.resetCount).playEvents report turn).2 observer counted
  have played := (reset.trans events).trans checked
  rw [List.nil_append, List.append_nil] at played
  refine ⟨played, told.trans ?_, congrArg (· + 1) turns⟩
  rw [observed, show Dispatcher.config _ = player.dispatcher.config from config]
  rfl

/-- Turns are played like their events in a row; the probe is told of those that exceed
the limit. -/
theorem played_turns (ready : player.dispatcher.Ready) (report : Report)
    (probing : player.dispatcher.observer = some probeName) (turns : List (List Event)) :
    Played player report turns.flatten (player.playTurns report turns).1
        (player.playTurns report turns).2 ∧
      (player.playTurns report turns).1.dispatcher.observed.toList =
        player.dispatcher.observed.toList ++
          (turns.filterMap (overLimit player.dispatcher.config.fragmentLimit.toNat)).map
            (probeName, ·) ∧
      (player.playTurns report turns).2.turns = report.turns + turns.length := by
  induction turns generalizing player report with
  | nil => exact ⟨played_refl ready report, (List.append_nil _).symm, rfl⟩
  | cons turn rest ih =>
    obtain ⟨first, told, counted⟩ := played_turn ready report probing turn
    have config : (player.playTurn report turn).1.dispatcher.config = player.dispatcher.config :=
      congrArg Arrangement.config first.arrangement
    have observer := (congrArg Arrangement.observer first.arrangement).trans probing
    obtain ⟨played, observed, turns⟩ := ih first.ready (player.playTurn report turn).2 observer
    refine ⟨first.trans played, ?_, ?_⟩
    · refine observed.trans ?_
      rw [told, config, List.append_assoc, ← List.map_append]
      congr 2
      cases exceeded : overLimit player.dispatcher.config.fragmentLimit.toNat turn <;>
        simp [exceeded]
    · refine turns.trans ?_
      rw [counted, List.length_cons]
      omega

end Turns

def fresh (config : Config) (policy : CompletionPolicy) (seed : UInt64) (size : Nat) : Player :=
  (Player.new config policy seed).withTurnSize size

def make (player : Player) : Move → Player × Option Report
  | .run events =>
    let (player, report) := player.run events
    (player, some report)
  | .refuseNext count => (player.refuseNext count, none)
  | .install owners => (player.withDispatcher (player.dispatcher.installOwners owners), none)
  | .changeShared register unregister => (player.changeShared register unregister, none)

/-- The player after some moves, and the reports on the runs among them, in order. -/
def makeAll (player : Player) (moves : List Move) : Player × List Report :=
  moves.foldl (fun (player, reports) move =>
    let (next, report) := player.make move
    (next, reports ++ report.toList)) (player, [])

theorem makeAll_concat (player : Player) (moves : List Move) (move : Move) :
    player.makeAll (moves ++ [move]) =
      let (reached, reports) := player.makeAll moves
      ((reached.make move).1, reports ++ (reached.make move).2.toList) := by
  simp only [makeAll, List.foldl_append, List.foldl_cons, List.foldl_nil]

/-- A player between two runs on a course: nothing waits and nothing is left to report. -/
structure Follows (course : Course) (player : Player) : Prop where
  ready : player.dispatcher.Ready
  owners : player.dispatcher.owners = course.owners
  config : player.dispatcher.config = course.config
  observer : player.dispatcher.observer = some probeName
  turnSize : player.turnSize = course.turnSize
  refusals : player.dispatcher.transport.refusals = course.refusals
  now : player.dispatcher.now = course.now
  observed : player.dispatcher.observed = #[]
  violations : player.dispatcher.violations = []
  awaiting : player.dispatcher.awaiting = []

section Runs
variable {course : Course} {player : Player}

theorem finish_drained (ready : player.dispatcher.Ready) :
    player.finish.arrangement = player.arrangement ∧ player.finish.dispatcher.Ready ∧
      player.finish.dispatcher.now = player.dispatcher.now ∧
      player.finish.dispatcher.transport.refusals = player.dispatcher.transport.refusals ∧
      player.finish.dispatcher.observed = player.dispatcher.observed ∧
      player.finish.dispatcher.standing = player.dispatcher.standing.drain := by
  have tended := @tended_completeAll player ready.registered
  have completed := tended.completed
  have after := completed.ready ready
  exact ⟨tended.arrangement, ⟨after.channel, after.registered, after.pending⟩, completed.now,
    completed.refusals, congrArg Setting.observed completed.setting,
    completed.standing ready.channel⟩

theorem Follows.run (follows : Follows course player) (events : List Event) :
    ∃ last, Consumed player.policy course.owners ⟨player.dispatcher.inFlight, [], []⟩
        (replayed course.refusals events) last ∧
      Follows (course.run events) (player.run events).1 ∧
      (player.run events).1.policy = player.policy ∧
      (player.run events).1.dispatcher.inFlight = last.drain.inFlight ∧
      (player.run events).2 = course.report events last.drain.violations := by
  have turned := played_turns follows.ready ({} : Report) follows.observer
    (turnsOf player.turnSize events)
  have ran : player.run events =
      (player.playTurns {} (turnsOf player.turnSize events)).1.finish.collect
        (player.playTurns {} (turnsOf player.turnSize events)).2 := rfl
  rw [ran]
  rw [flatten_turnsOf, follows.config, follows.turnSize] at turned
  rw [follows.turnSize]
  generalize player.playTurns {} (turnsOf course.turnSize events) = reached at turned ⊢
  obtain ⟨between, middle⟩ := reached
  obtain ⟨played, observed, turns⟩ := turned
  obtain ⟨same, ready, now, refusals, told, standing⟩ := finish_drained played.ready
  have arrangement := same.trans played.arrangement
  have time := now.trans played.now
  have left := refusals.trans played.refusals
  have consumed := played.consumed
  have reported := played.report
  rw [follows.now] at time
  rw [follows.refusals] at left consumed reported
  refine ⟨between.dispatcher.standing, ?_, ?_, congrArg Arrangement.policy arrangement,
    congrArg Standing.inFlight standing, ?_⟩
  · rw [follows.owners, Dispatcher.standing, follows.awaiting, follows.violations] at consumed
    exact consumed
  · have awaiting := congrArg Standing.awaiting standing
    exact ⟨⟨ready.channel, ready.registered, ready.pending⟩,
      (congrArg Arrangement.owners arrangement).trans follows.owners,
      (congrArg Arrangement.config arrangement).trans follows.config,
      (congrArg Arrangement.observer arrangement).trans follows.observer,
      (congrArg Arrangement.turnSize arrangement).trans follows.turnSize,
      left, time, rfl, rfl, awaiting.trans List.drop_length⟩
  · have violations := congrArg Standing.violations standing
    have exceeded : between.finish.dispatcher.observed.toList.map Prod.snd =
        (turnsOf course.turnSize events).filterMap
          (overLimit course.config.fragmentLimit.toNat) := by
      rw [told, observed, follows.observed, List.nil_append, List.map_map]
      exact List.map_id _
    have counted := turns.trans (Nat.zero_add _)
    rw [counted] at reported
    rw [collect, exceeded, time, reported]
    exact congrArg (course.report events) violations

theorem follows_start (config : Config) (policy : CompletionPolicy) (seed : UInt64)
    (size : Nat) : Follows (Course.start config size) (fresh config policy seed size) :=
  ⟨⟨rfl, rfl, rfl⟩, rfl, rfl, rfl, rfl, rfl, rfl, rfl, rfl, rfl⟩

/-- Between runs only the course changes: the policy stays, and nothing is completed. -/
theorem Follows.make (follows : Follows course player) (move : Move) :
    Follows (course.after move) (player.make move).1 ∧
      (player.make move).1.policy = player.policy := by
  cases move with
  | run events =>
    obtain ⟨last, consumed, after, policy, inFlight, reported⟩ := follows.run events
    exact ⟨after, policy⟩
  | refuseNext count =>
    exact ⟨⟨⟨follows.ready.channel, follows.ready.registered, follows.ready.pending⟩,
      follows.owners, follows.config, follows.observer, follows.turnSize, rfl, follows.now,
      follows.observed, follows.violations, follows.awaiting⟩, rfl⟩
  | install owners =>
    exact ⟨⟨⟨follows.ready.channel, follows.ready.registered, follows.ready.pending⟩,
      rfl, follows.config, follows.observer, follows.turnSize, follows.refusals, follows.now,
      follows.observed, follows.violations, follows.awaiting⟩, rfl⟩
  | changeShared register unregister =>
    have owners : ((player.make (.changeShared register unregister)).1).dispatcher.owners =
        (course.changeShared register unregister).owners := by
      unfold Course.changeShared
      rw [← follows.owners]
      rfl
    exact ⟨⟨⟨follows.ready.channel, follows.ready.registered, follows.ready.pending⟩,
      owners, follows.config, follows.observer, follows.turnSize, follows.refusals, follows.now,
      follows.observed, follows.violations, follows.awaiting⟩, rfl⟩

theorem follows_through (config : Config) (policy : CompletionPolicy) (seed : UInt64)
    (size : Nat) (moves : List Move) :
    let player := ((fresh config policy seed size).makeAll moves).1
    Follows ((Course.start config size).through moves) player ∧ player.policy = policy := by
  induction moves using List.reverseRecOn with
  | nil => exact ⟨follows_start config policy seed size, rfl⟩
  | append_singleton moves move ih =>
    obtain ⟨follows, kept⟩ := ih
    obtain ⟨after, same⟩ := follows.make move
    rw [makeAll_concat, Course.through, List.foldl_append]
    exact ⟨after, same.trans kept⟩

end Runs
end Player
end SessionReplay
