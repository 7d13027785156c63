import SessionReplay.Proofs.Dispatcher.Ledger
import SessionReplay.Proofs.Frame.Window
import SessionReplay.Proofs.Player.Course

/-! What a player delivers to its transport. Turns, policies and draws decide when messages are
completed, and none of them reaches the ledger: a run enters its events there, in order. -/
namespace SessionReplay

/-- What is read off a message, be it in a log buffer or forwarded. -/
structure Reading where
  connection : ConnectionId
  isResend : Bool
  framed : Bytes
  content : Bytes

def FramedMessage.reading (message : FramedMessage) : Reading where
  connection := message.connection
  isResend := message.isResend
  framed := message.framed
  content := message.content

/-- The bytes of a message where its recorded offsets place them. -/
def MessageEvent.reading (event : MessageEvent) : Reading where
  connection := event.connection
  isResend := event.isResendRequest
  framed := event.buffer.extract (event.initialOffset.toNat - messageHeaderLength.toNat)
    (event.offset.toNat + event.length.toNat)
  content := event.buffer.extract event.offset.toNat (event.offset.toNat + event.length.toNat)

def Event.usable? : Event → Option MessageEvent
  | .message event =>
    match event.window with
    | .ok _ => some event
    | .error _ => none
  | _ => none

namespace Event
variable {event : MessageEvent}

theorem usable?_of_ok (framed : event.window = .ok window) :
    (message event).usable? = some event := by
  simp only [usable?, framed]

theorem usable?_of_error (unframed : event.window = .error fault) :
    (message event).usable? = none := by
  simp only [usable?, unframed]

theorem covers_of_usable? {event : Event} {found : MessageEvent}
    (usable : event.usable? = some found) : ∃ window : FrameWindow, window.Covers found := by
  cases event with
  | message event =>
    cases framed : event.window with
    | error fault =>
      rw [usable?_of_error framed] at usable
      contradiction
    | ok window =>
      rw [usable?_of_ok framed] at usable
      obtain rfl := Option.some.inj usable
      exact ⟨window, MessageEvent.covers_of_window framed⟩
  | connect event => contradiction
  | heartbeat event => contradiction

/-- A message is forwarded as it was recorded. -/
theorem reading_cutOut? (event : Event) :
    event.cutOut?.map FramedMessage.reading = event.usable?.map MessageEvent.reading := by
  cases event with
  | message event =>
    cases framed : event.window with
    | error fault => rw [cutOut?_of_error framed, usable?_of_error framed]; rfl
    | ok window =>
      have covers := MessageEvent.covers_of_window framed
      have same : (FramedMessage.ofEvent event window).reading = event.reading := by
        unfold FramedMessage.reading MessageEvent.reading
        rw [covers.framed_eq, covers.content_eq]
        rfl
      rw [cutOut?_of_ok framed, usable?_of_ok framed]
      exact congrArg some same
  | connect event => rfl
  | heartbeat event => rfl

end Event

theorem readings_cutOut? (events : List Event) :
    (events.filterMap Event.cutOut?).map FramedMessage.reading =
      (events.filterMap Event.usable?).map MessageEvent.reading := by
  rw [List.map_filterMap, List.map_filterMap]
  exact congrArg (events.filterMap ·) (funext Event.reading_cutOut?)

theorem length_cutOut? (events : List Event) :
    (events.filterMap Event.cutOut?).length = (events.filterMap Event.usable?).length := by
  have same := congrArg List.length (readings_cutOut? events)
  rwa [List.length_map, List.length_map] at same

/-- Messages are refused as long as refusals are left, and only those that are usable. -/
theorem count_refused_replayed (refusals : Nat) (events : List Event) :
    ((replayed refusals events).map Prod.snd).count .refused =
      min refusals (events.filterMap Event.usable?).length := by
  -- a usable message takes one of the refusals with it, so the rest is played with fewer
  induction events generalizing refusals with
  | nil => simp [replayed]
  | cons event rest ih =>
    rw [replayed, List.map_cons, List.count_cons, ih]
    cases event with
    | message event =>
      cases framed : event.window with
      | error fault =>
        rw [List.filterMap_cons_none (Event.usable?_of_error framed), Event.refusalsLeft,
          Event.fate_of_error framed]
        rfl
      | ok window =>
        rw [List.filterMap_cons_some (Event.usable?_of_ok framed), Event.refusalsLeft,
          Event.fate_of_ok framed, List.length_cons]
        cases refusals with
        | zero => simp
        | succ left => simp
    | connect event => rfl
    | heartbeat event => rfl

/-- Connection ids are announced by connects and by nothing else. -/
theorem announced_replayed (refusals : Nat) (events : List Event) :
    (replayed refusals events).filterMap (fun (event, _) => event.announced none) =
      (events.filterMap Event.connect?).map ConnectEvent.connection := by
  have announced (event : Event) :
      event.announced none = event.connect?.map ConnectEvent.connection := by
    cases event <;> rfl
  have played : ((replayed refusals events).map Prod.fst).filterMap (Event.announced none) =
      (replayed refusals events).filterMap fun (event, _) => event.announced none :=
    List.filterMap_map
  rw [map_fst_replayed] at played
  rw [List.map_filterMap, ← funext announced]
  exact played.symm

namespace Player
open Dispatcher

def ledger (player : Player) : Ledger := player.dispatcher.transport.ledger

section Consumer
variable (player : Player)

theorem ledger_completeNext : player.completeNext.ledger = player.ledger :=
  Simulated.ledger_completeNext _ _

theorem ledger_completeAll : player.completeAll.1.ledger = player.ledger :=
  Simulated.ledger_completeAll _ _

theorem ledger_settle : player.settle.ledger = player.ledger := by
  unfold settle
  cases player.policy with
  | immediate => exact player.ledger_completeAll
  | deferred => exact player.ledger_completeAll
  | lagging skipPercent =>
    dsimp only
    split
    · rfl
    · exact ledger_completeAll { player with draws := player.draws.percent.2 }

theorem ledger_afterMessage (outcome : Outcome) :
    (player.afterMessage outcome).ledger = player.ledger := by
  unfold afterMessage
  split
  · exact player.ledger_completeNext
  · rfl

theorem ledger_afterConnect (report : Report) :
    (player.afterConnect report).1.ledger = player.ledger := by
  unfold afterConnect takeConnection
  cases player.dispatcher.pending <;> rfl

theorem ledger_afterHeartbeat : player.afterHeartbeat.ledger = player.ledger := by
  unfold afterHeartbeat
  split
  · rfl
  · dsimp only
    split
    · exact ledger_completeAll { player with draws := player.draws.coin.2 }
    · rfl

theorem ledger_offered (event : Event) :
    (player.offered event).ledger = player.ledger.enter [event] :=
  player.dispatcher.ledger_dispatch event

end Consumer

section Runs
variable (player : Player) (report : Report)

theorem ledger_playEvent (event : Event) :
    (player.playEvent report event).1.ledger = player.ledger.enter [event] := by
  have settled := player.settle.ledger_offered event
  rw [player.ledger_settle] at settled
  cases event with
  | message event => exact (ledger_afterMessage _ _).trans settled
  | connect event => exact (ledger_afterConnect _ _).trans settled
  | heartbeat event =>
    exact (ledger_afterHeartbeat _).trans (player.ledger_offered (.heartbeat event))

theorem ledger_playEvents (events : List Event) :
    (player.playEvents report events).1.ledger = player.ledger.enter events := by
  induction events generalizing player report with
  | nil => exact player.ledger.enter_nil.symm
  | cons event rest ih =>
    have later := ih (player.playEvent report event).1 (player.playEvent report event).2
    rw [ledger_playEvent, ← Ledger.enter_append] at later
    exact later

theorem ledger_playTurn (turn : List Event) :
    (player.playTurn report turn).1.ledger = player.ledger.enter turn := by
  have played := (player.withDispatcher player.dispatcher.resetCount).ledger_playEvents report turn
  refine Eq.trans ?_ played
  unfold playTurn checkConfiguredLimit checkCount
  dsimp only
  split <;> rfl

theorem ledger_playTurns (turns : List (List Event)) :
    (player.playTurns report turns).1.ledger = player.ledger.enter turns.flatten := by
  induction turns generalizing player report with
  | nil => exact player.ledger.enter_nil.symm
  | cons turn rest ih =>
    have later := ih (player.playTurn report turn).1 (player.playTurn report turn).2
    rw [ledger_playTurn, ← Ledger.enter_append] at later
    exact later

/-- How events are cut into turns does not matter to what is delivered. -/
theorem ledger_run (events : List Event) :
    (player.run events).1.ledger = player.ledger.enter events := by
  have turned := player.ledger_playTurns {} (turnsOf player.turnSize events)
  rw [flatten_turnsOf] at turned
  exact (ledger_completeAll (player.playTurns {} (turnsOf player.turnSize events)).1).trans turned

end Runs

/-- A run delivers the messages that can be cut out, less the first ones as many as are to be
refused, and all connects, each once and in the order of the script. The connection ids that it
reports are those of the connects. -/
theorem faithful_delivery (config : Config) (policy : CompletionPolicy) (seed : UInt64)
    (size budget : Nat) (events : List Event) :
    let ran := ((fresh config policy seed size).refuseNext budget).run events
    let transport := ran.1.dispatcher.transport
    let usable := events.filterMap Event.usable?
    transport.messages.toList.map FramedMessage.reading =
        (usable.drop budget).map MessageEvent.reading ∧
      (∀ event ∈ usable, messageHeaderLength ≤ event.initialOffset ∧
        event.initialOffset.toNat - messageHeaderLength.toNat ≤ event.offset.toNat ∧
        event.offset.toNat + event.length.toNat ≤ event.buffer.length) ∧
      transport.refused = min budget usable.length ∧
      ran.2.refused = min budget usable.length ∧
      transport.connects.toList = events.filterMap Event.connect? ∧
      ran.2.connections.toList =
        (events.filterMap Event.connect?).map ConnectEvent.connection := by
  intro ran transport usable
  have follows := ((follows_start config policy seed size).make (.refuseNext budget)).1
  obtain ⟨last, -, -, -, -, reported⟩ := follows.run events
  have entered := ((fresh config policy seed size).refuseNext budget).ledger_run events
  have offered : (events.filterMap Event.cutOut?).length = usable.length := length_cutOut? events
  refine ⟨?_, ?_, ?_, ?_, ?_, ?_⟩
  · have messages : transport.messages.toList = (events.filterMap Event.cutOut?).drop budget :=
      congrArg Ledger.messages entered
    rw [messages, List.map_drop, readings_cutOut?, List.map_drop]
  · intro event member
    obtain ⟨entry, -, found⟩ := List.mem_filterMap.mp member
    obtain ⟨window, covers⟩ := Event.covers_of_usable? found
    obtain ⟨header, payload, -, -, -, within⟩ := covers
    exact ⟨UInt64.le_iff_toNat_le.mpr (by omega), by omega, within⟩
  · have refused := congrArg Ledger.refused entered
    rw [← offered]
    exact refused.trans (Nat.zero_add _)
  · have refused := congrArg Report.refused reported
    rw [← count_refused_replayed]
    exact refused.trans (Nat.zero_add _)
  · exact congrArg Ledger.connects entered
  · have connections := congrArg (fun report => report.connections.toList) reported
    rw [← announced_replayed budget events]
    refine connections.trans ?_
    show (#[] ++ _).toList = _
    rw [Array.toList_append]
    rfl

end Player
end SessionReplay
