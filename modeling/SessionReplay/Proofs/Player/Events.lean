import SessionReplay.Proofs.Player.Consumer

/-! What playing events in a row does, whatever the consumer does meanwhile. What becomes
of an event depends on its offsets and on the refusals that are left, so the whole report
but for its violations is settled by the events. -/
namespace SessionReplay

/-- What becomes of events in a row while so many messages are still to be refused. -/
def replayed : Nat → List Event → List (Event × Outcome)
  | _, [] => []
  | refusals, event :: rest =>
    (event, event.fate refusals) :: replayed (event.refusalsLeft refusals) rest

def refusalsAfter (refusals : Nat) (events : List Event) : Nat :=
  events.foldl Event.refusalsLeft refusals

theorem replayed_append (refusals : Nat) (events more : List Event) :
    replayed refusals (events ++ more) =
      replayed refusals events ++ replayed (refusalsAfter refusals events) more := by
  induction events generalizing refusals with
  | nil => rfl
  | cons event rest ih =>
    have later := ih (event.refusalsLeft refusals)
    exact congrArg (List.cons (event, event.fate refusals)) later

theorem map_fst_replayed (refusals : Nat) (events : List Event) :
    (replayed refusals events).map Prod.fst = events := by
  induction events generalizing refusals with
  | nil => rfl
  | cons event rest ih => exact congrArg (List.cons event) (ih _)

theorem mem_replayed (member : entry ∈ replayed refusals events) :
    entry.1 ∈ events ∧ ∃ left, entry.2 = entry.1.fate left := by
  induction events generalizing refusals with
  | nil => contradiction
  | cons event rest ih =>
    rcases List.mem_cons.mp member with rfl | later
    · exact ⟨List.mem_cons_self, refusals, rfl⟩
    · obtain ⟨played, left, became⟩ := ih later
      exact ⟨List.mem_cons_of_mem _ played, left, became⟩

theorem exists_mem_replayed (refusals : Nat) (member : event ∈ events) :
    ∃ left, (event, event.fate left) ∈ replayed refusals events := by
  rw [← map_fst_replayed refusals events] at member
  obtain ⟨entry, played, rfl⟩ := List.mem_map.mp member
  obtain ⟨_, left, became⟩ := mem_replayed played
  exact ⟨left, by rw [← became]; exact played⟩

def Report.tally (report : Report) (history : List (Event × Outcome)) : Report :=
  let became (outcome : Outcome) := (history.map Prod.snd).count outcome
  { report with
    dispatched := report.dispatched + history.length
    forwarded := report.forwarded + became .forwarded
    refused := report.refused + became .refused
    dropped := report.dropped + became .dropped
    observed := report.observed + became .observed
    connections := report.connections ++
      (history.filterMap fun (event, _) => event.announced none).toArray }

theorem Report.tally_nil (report : Report) : report.tally [] = report := by
  simp [tally]

theorem Report.tally_append (report : Report) (history more : List (Event × Outcome)) :
    report.tally (history ++ more) = (report.tally history).tally more := by
  simp [tally, Nat.add_assoc]

theorem Report.record_eq (report : Report) (outcome : Outcome) (event : Event)
    (quiet : event.announced none = none) :
    report.record outcome = report.tally [(event, outcome)] := by
  cases outcome <;> simp [record, tally, quiet]

namespace Player
open Dispatcher

/-- What playing never changes. -/
structure Arrangement where
  owners : Owners
  config : Config
  observer : Option String
  policy : CompletionPolicy
  turnSize : Nat

def arrangement (player : Player) : Arrangement where
  owners := player.dispatcher.owners
  config := player.dispatcher.config
  observer := player.dispatcher.observer
  policy := player.policy
  turnSize := player.turnSize

/-- A player to whose dispatcher an event was given, before the consumer acts on it. -/
def offered (player : Player) (event : Event) : Player :=
  player.withDispatcher (player.dispatcher.dispatch event).1

/-- One event was dispatched; what waits or was reported is left open. -/
structure Advanced (before : Player) (event : Event) (after : Player) : Prop where
  arrangement : after.arrangement = before.arrangement
  observed : after.dispatcher.observed = before.dispatcher.observed
  channel : after.dispatcher.channel = .collecting
  registered : after.dispatcher.transport.registered = true
  now : after.dispatcher.now = max before.dispatcher.now event.timestamp
  count : after.dispatcher.count = min (before.dispatcher.count + 1) countCap
  refusals : after.dispatcher.transport.refusals =
    event.refusalsLeft before.dispatcher.transport.refusals

theorem Tended.arrangement (tended : Tended before ended after) :
    after.arrangement = before.arrangement := by
  have setting := tended.completed.setting
  have owners : after.dispatcher.owners = _ := congrArg Setting.owners setting
  have config : after.dispatcher.config = _ := congrArg Setting.config setting
  have observer : after.dispatcher.observer = _ := congrArg Setting.observer setting
  unfold Player.arrangement
  rw [owners, config, observer, tended.policy, tended.turnSize]
  rfl

theorem Tended.advanced (tended : Tended before ended between) (ready : before.dispatcher.Ready)
    (event : Event) :
    Advanced before event (between.offered event) := by
  have completed := tended.completed
  have dispatched := between.dispatcher.dispatched event
  have setting := dispatched.setting.trans completed.setting
  refine ⟨?_, congrArg Setting.observed setting, ?_, ?_, ?_, ?_, ?_⟩
  · rw [← tended.arrangement]
    unfold Player.arrangement offered withDispatcher
    have owners : (between.dispatcher.dispatch event).1.owners = _ :=
      congrArg Setting.owners dispatched.setting
    have config : (between.dispatcher.dispatch event).1.config = _ :=
      congrArg Setting.config dispatched.setting
    have observer : (between.dispatcher.dispatch event).1.observer = _ :=
      congrArg Setting.observer dispatched.setting
    simp only [owners, config, observer]
    rfl
  · exact (congrArg Setting.channel setting).trans ready.channel
  · exact (congrArg Setting.registered setting).trans ready.registered
  · exact dispatched.now.trans (by rw [completed.now])
  · exact dispatched.count.trans (by rw [completed.count])
  · exact dispatched.refusals.trans (by rw [completed.refusals])

theorem Advanced.tended (advanced : Advanced before event between)
    (tended : Tended between ended after) : Advanced before event after := by
  have completed := tended.completed
  have setting := completed.setting
  exact ⟨tended.arrangement.trans advanced.arrangement,
    (congrArg Setting.observed setting).trans advanced.observed,
    (congrArg Setting.channel setting).trans advanced.channel,
    (congrArg Setting.registered setting).trans advanced.registered,
    completed.now.trans advanced.now, completed.count.trans advanced.count,
    completed.refusals.trans advanced.refusals⟩

/-- The effect of one event, with what the consumer does about it. -/
structure PlayedOne (before : Player) (report : Report) (event : Event) (after : Player)
    (later : Report) : Prop where
  advanced : Advanced before event after
  pending : after.dispatcher.pending = none
  report : later = report.tally [(event, event.fate before.dispatcher.transport.refusals)]
  consumes : Consumes before.policy before.dispatcher.owners before.dispatcher.standing
    (event, event.fate before.dispatcher.transport.refusals) after.dispatcher.standing

section One
variable {player : Player}

theorem offered_standing (tended : Tended player ended between)
    (ready : player.dispatcher.Ready) (event : Event) :
    (between.offered event).dispatcher.standing =
      (player.dispatcher.standing.complete ended).dispatch player.dispatcher.owners event
        (event.fate player.dispatcher.transport.refusals) := by
  have completed := tended.completed
  have owners : between.dispatcher.owners = player.dispatcher.owners :=
    congrArg Setting.owners completed.setting
  have fate := between.dispatcher.outcome_dispatch event
  have dispatched := between.dispatcher.dispatched event
  have standing := dispatched.standing (completed.ready ready).channel
  rw [completed.standing ready.channel, owners, fate, completed.refusals] at standing
  exact standing

theorem offered_pending (tended : Tended player ended between)
    (ready : player.dispatcher.Ready) (event : Event) :
    (between.offered event).dispatcher.pending = event.announced none := by
  rw [← ready.pending, ← tended.completed.pending]
  exact (between.dispatcher.dispatched event).pending

theorem played_message (ready : player.dispatcher.Ready) (report : Report)
    (event : MessageEvent) :
    PlayedOne player report (.message event) (player.playEvent report (.message event)).1
      (player.playEvent report (.message event)).2 := by
  obtain ⟨ended, tended, settled⟩ := @tended_settle player ready.registered
  have advanced := tended.advanced ready (.message event)
  have fate := player.settle.dispatcher.outcome_dispatch (.message event)
  rw [tended.completed.refusals] at fate
  obtain ⟨more, after⟩ := @tended_afterMessage (player.settle.offered (.message event))
    advanced.registered (player.settle.dispatcher.dispatch (.message event)).2
  refine ⟨advanced.tended after, ?_, ?_, ?_⟩
  · exact after.completed.pending.trans (offered_pending tended ready (.message event))
  · rw [← fate]
    exact report.record_eq _ _ rfl
  · have standing := offered_standing tended ready (.message event)
    have last := after.completed.standing advanced.channel
    have enough := after.completed.enough
    rw [show Dispatcher.awaiting _ = Standing.awaiting _ from
      congrArg Standing.awaiting standing] at enough
    rw [standing] at last
    rw [show (player.playEvent report (.message event)).1.dispatcher.standing = _ from last]
    exact .opening rfl tended.completed.enough settled enough

theorem played_heartbeat (ready : player.dispatcher.Ready) (report : Report)
    (event : Heartbeat) :
    PlayedOne player report (.heartbeat event) (player.playEvent report (.heartbeat event)).1
      (player.playEvent report (.heartbeat event)).2 := by
  have idle := @tended_refl player
  have advanced := idle.advanced ready (.heartbeat event)
  obtain ⟨more, after⟩ := @tended_afterHeartbeat (player.offered (.heartbeat event))
    advanced.registered
  refine ⟨advanced.tended after, ?_, report.record_eq .observed (.heartbeat event) rfl, ?_⟩
  · exact after.completed.pending.trans (offered_pending idle ready (.heartbeat event))
  · have dispatched := player.dispatcher.dispatched (.heartbeat event)
    have met : (player.offered (.heartbeat event)).dispatcher.standing = _ :=
      dispatched.standing ready.channel
    have last := after.completed.standing advanced.channel
    have enough := after.completed.enough
    rw [show Dispatcher.awaiting _ = Standing.awaiting _ from
      congrArg Standing.awaiting met] at enough
    rw [met] at last
    rw [show (player.playEvent report (.heartbeat event)).1.dispatcher.standing = _ from last]
    exact .heartbeat enough

/-- The connection id of a connect is taken at once. -/
theorem playEvent_connect (ready : player.dispatcher.Ready) (report : Report)
    (event : ConnectEvent) :
    player.playEvent report (.connect event) =
      ((player.settle.offered (.connect event)).withDispatcher
          (player.settle.offered (.connect event)).dispatcher.taken,
        report.tally [(.connect event, .forwarded)]) := by
  obtain ⟨ended, tended, -⟩ := @tended_settle player ready.registered
  have taken := takeConnection_of_some (offered_pending tended ready (.connect event))
  show (player.settle.offered (.connect event)).afterConnect (report.record .forwarded) = _
  simp only [afterConnect, taken]
  simp [Report.record, Report.tally, Event.announced]

theorem played_connect (ready : player.dispatcher.Ready) (report : Report)
    (event : ConnectEvent) :
    PlayedOne player report (.connect event) (player.playEvent report (.connect event)).1
      (player.playEvent report (.connect event)).2 := by
  obtain ⟨ended, tended, settled⟩ := @tended_settle player ready.registered
  have advanced := tended.advanced ready (.connect event)
  have standing := offered_standing tended ready (.connect event)
  rw [playEvent_connect ready]
  refine ⟨?_, rfl, rfl, ?_⟩
  · exact ⟨advanced.arrangement, advanced.observed,
      (Operations.channel_finish _).trans advanced.channel, advanced.registered, advanced.now,
      advanced.count, advanced.refusals⟩
  · have last := (player.settle.offered (.connect event)).dispatcher.standing_taken advanced.channel
    rw [standing] at last
    show Consumes _ _ _ _ (player.settle.offered (.connect event)).dispatcher.taken.standing
    rw [last]
    exact .opening rfl tended.completed.enough settled (Nat.zero_le _)

theorem playedOne (ready : player.dispatcher.Ready) (report : Report) (event : Event) :
    PlayedOne player report event (player.playEvent report event).1
      (player.playEvent report event).2 := by
  cases event with
  | message event => exact played_message ready report event
  | connect event => exact played_connect ready report event
  | heartbeat event => exact played_heartbeat ready report event

end One
/-- The effect of events in a row, of whatever turns they are part. -/
structure Played (before : Player) (report : Report) (events : List Event) (after : Player)
    (later : Report) : Prop where
  arrangement : after.arrangement = before.arrangement
  ready : after.dispatcher.Ready
  now : after.dispatcher.now = (events.map Event.timestamp).foldl max before.dispatcher.now
  refusals : after.dispatcher.transport.refusals =
    refusalsAfter before.dispatcher.transport.refusals events
  report : later = { report.tally (replayed before.dispatcher.transport.refusals events) with
    turns := later.turns }
  consumed : Consumed before.policy before.dispatcher.owners before.dispatcher.standing
    (replayed before.dispatcher.transport.refusals events) after.dispatcher.standing

theorem PlayedOne.played (one : PlayedOne before begun event after later) :
    Played before begun [event] after later := by
  have advanced := one.advanced
  refine ⟨advanced.arrangement, ⟨advanced.channel, advanced.registered, one.pending⟩,
    advanced.now, advanced.refusals, ?_, .next one.consumes (.refl _)⟩
  rw [one.report]
  rfl

theorem Played.trans (first : Played before begun events between middle)
    (second : Played between middle more after later) :
    Played before begun (events ++ more) after later := by
  have arrangement := first.arrangement
  have owners : between.dispatcher.owners = before.dispatcher.owners :=
    congrArg Arrangement.owners arrangement
  have policy : between.policy = before.policy := congrArg Arrangement.policy arrangement
  refine ⟨second.arrangement.trans arrangement, second.ready, ?_, ?_, ?_, ?_⟩
  · rw [second.now, first.now, List.map_append, List.foldl_append]
  · rw [second.refusals, first.refusals, refusalsAfter, refusalsAfter, refusalsAfter,
      List.foldl_append]
  · rw [second.report, first.report, first.refusals, replayed_append, Report.tally_append]
    rfl
  · have last := second.consumed
    rw [owners, policy, first.refusals] at last
    rw [replayed_append]
    exact first.consumed.trans last

section Rows
variable {player : Player}

theorem played_refl (ready : player.dispatcher.Ready) (report : Report) :
    Played player report [] player report :=
  ⟨rfl, ready, rfl, rfl, by rw [replayed, Report.tally_nil], .refl _⟩

/-- Events in a row are all counted, and the observer is told nothing meanwhile. -/
theorem played_events (ready : player.dispatcher.Ready)
    (capped : player.dispatcher.count ≤ countCap) (report : Report) (events : List Event) :
    Played player report events (player.playEvents report events).1
        (player.playEvents report events).2 ∧
      (player.playEvents report events).1.dispatcher.count =
        min (player.dispatcher.count + events.length) countCap ∧
      (player.playEvents report events).1.dispatcher.observed = player.dispatcher.observed ∧
      (player.playEvents report events).2.turns = report.turns := by
  induction events generalizing player report with
  | nil => exact ⟨played_refl ready report, (Nat.min_eq_left capped).symm, rfl, rfl⟩
  | cons event rest ih =>
    have one := playedOne ready report event
    have counted := one.advanced.count
    obtain ⟨played, count, observed, turns⟩ := ih one.played.ready
      (by rw [counted]; exact Nat.min_le_right _ _) (player.playEvent report event).2
    refine ⟨one.played.trans played, ?_, observed.trans one.advanced.observed, ?_⟩
    · refine count.trans ?_
      rw [counted, List.length_cons]
      omega
    · refine turns.trans ?_
      rw [one.report]
      rfl

end Rows
end Player
end SessionReplay
