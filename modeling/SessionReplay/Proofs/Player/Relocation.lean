import Mathlib.Data.List.Forall2
import SessionReplay.Proofs.Player.Delivery
import SessionReplay.Proofs.Player.Pace

/-! Where a message lies in its log buffer. A message that is moved, with its offsets, to another
place of another buffer is the same to a player: the same is delivered and the same is reported. -/
namespace SessionReplay

/-- The same event, but that a framed message may lie elsewhere. -/
inductive Event.Relocated : Event → Event → Prop where
  | same (event : Event) : Relocated event event
  | moved {first second : MessageEvent} {window other : FrameWindow}
    (covers : window.Covers first) (coversToo : other.Covers second)
    (timestamp : second.timestamp = first.timestamp) (owner : second.owner = first.owner)
    (reading : second.reading = first.reading) :
    Relocated (.message first) (.message second)

namespace Event.Relocated
variable {first second : Event} (relocated : first.Relocated second)
include relocated

theorem timestamp_eq : second.timestamp = first.timestamp := by
  cases relocated with
  | same => rfl
  | moved _ _ timestamp => exact timestamp

theorem connect?_eq : second.connect? = first.connect? := by
  cases relocated <;> rfl

theorem reading_eq : second.usable?.map MessageEvent.reading =
    first.usable?.map MessageEvent.reading := by
  cases relocated with
  | same => rfl
  | moved covers coversToo _ _ reading =>
    rw [usable?_of_ok (MessageEvent.window_of_covers covers),
      usable?_of_ok (MessageEvent.window_of_covers coversToo)]
    exact congrArg some reading

theorem fate_eq (refusals : Nat) : second.fate refusals = first.fate refusals := by
  cases relocated with
  | same => rfl
  | moved covers coversToo =>
    rw [fate_of_ok (MessageEvent.window_of_covers covers),
      fate_of_ok (MessageEvent.window_of_covers coversToo)]

theorem refusalsLeft_eq (refusals : Nat) :
    second.refusalsLeft refusals = first.refusalsLeft refusals := by
  rw [refusalsLeft, refusalsLeft, relocated.fate_eq]

theorem accepted_eq (outcome : Outcome) : second.accepted outcome = first.accepted outcome := by
  cases relocated with
  | same => rfl
  | moved _ _ _ _ reading =>
    have connection := congrArg Reading.connection reading
    cases outcome with
    | forwarded => exact congrArg (fun connection => [connection]) connection
    | _ => rfl

theorem outcomeFindings_eq (outcome : Outcome) :
    second.outcomeFindings outcome = first.outcomeFindings outcome := by
  cases relocated with
  | same => rfl
  | moved covers coversToo _ _ reading =>
    have connection := congrArg Reading.connection reading
    cases outcome with
    | dropped =>
      simp only [outcomeFindings, MessageEvent.window_of_covers covers,
        MessageEvent.window_of_covers coversToo]
    | refused => exact congrArg (fun connection => [Violation.messageRefused connection]) connection
    | _ => rfl

theorem findings_eq (owners : Owners) (wasOpen : Bool) (outcome : Outcome) :
    second.findings owners wasOpen outcome = first.findings owners wasOpen outcome := by
  have outcomeFindings := relocated.outcomeFindings_eq outcome
  cases relocated with
  | same => rfl
  | moved _ _ _ owner =>
    have ownerFindings := congrArg owners.findings owner
    rw [findings, findings, outcomeFindings]
    exact congrArg (· ++ _ ++ _) ownerFindings

theorem play_eq (policy : CompletionPolicy) (owners : Owners) (pace : Pace) (outcome : Outcome) :
    pace.play policy owners (second, outcome) = pace.play policy owners (first, outcome) := by
  have dispatch (pace : Pace) :
      pace.dispatch owners second outcome = pace.dispatch owners first outcome := by
    unfold Pace.dispatch Standing.dispatch
    rw [relocated.accepted_eq, relocated.findings_eq]
    cases relocated <;> rfl
  cases relocated with
  | same => rfl
  | moved => exact congrArg (Pace.afterMessage · policy outcome) (dispatch _)

end Event.Relocated

abbrev RelocatedAll (events others : List Event) : Prop :=
  List.Forall₂ Event.Relocated events others

namespace RelocatedAll
variable {events others : List Event} (relocated : RelocatedAll events others)
include relocated

/-- What is read of each event alone and is the same wherever it lies is the same for all. -/
theorem filterMap_eq {α : Type} (read : Event → Option α)
    (same : ∀ first second, first.Relocated second → read second = read first) :
    others.filterMap read = events.filterMap read := by
  induction relocated with
  | nil => rfl
  | cons head tail ih => rw [List.filterMap_cons, List.filterMap_cons, same _ _ head, ih]

theorem timestamps_eq : others.map Event.timestamp = events.map Event.timestamp := by
  induction relocated with
  | nil => rfl
  | cons head tail ih => rw [List.map_cons, List.map_cons, head.timestamp_eq, ih]

theorem outcomes_eq (refusals : Nat) :
    (replayed refusals others).map Prod.snd = (replayed refusals events).map Prod.snd := by
  induction relocated generalizing refusals with
  | nil => rfl
  | cons head tail ih =>
    rw [replayed, replayed, List.map_cons, List.map_cons, head.fate_eq, head.refusalsLeft_eq, ih]

theorem foldl_play_eq (policy : CompletionPolicy) (owners : Owners) (refusals : Nat)
    (pace : Pace) :
    (replayed refusals others).foldl (Pace.play policy owners) pace =
      (replayed refusals events).foldl (Pace.play policy owners) pace := by
  induction relocated generalizing refusals pace with
  | nil => rfl
  | cons head tail ih =>
    rw [replayed, replayed, List.foldl_cons, List.foldl_cons, head.fate_eq,
      head.refusalsLeft_eq, head.play_eq, ih]

theorem tally_eq (report : Report) (refusals : Nat) :
    report.tally (replayed refusals others) = report.tally (replayed refusals events) := by
  have outcomes := relocated.outcomes_eq refusals
  have length := congrArg List.length outcomes
  rw [List.length_map, List.length_map] at length
  have connects := relocated.filterMap_eq Event.connect? fun _ _ one => one.connect?_eq
  unfold Report.tally
  rw [announced_replayed, announced_replayed, outcomes, length, connects]

theorem readings_eq :
    (others.filterMap Event.cutOut?).map FramedMessage.reading =
      (events.filterMap Event.cutOut?).map FramedMessage.reading := by
  rw [readings_cutOut?, readings_cutOut?, List.map_filterMap, List.map_filterMap]
  exact relocated.filterMap_eq _ fun _ _ one => one.reading_eq

end RelocatedAll

theorem lengths_turnsOf {α : Type} (size : Nat) {items others : List α}
    (same : others.length = items.length) :
    (turnsOf size others).map List.length = (turnsOf size items).map List.length := by
  fun_induction turnsOf size items generalizing others with
  | case1 => rw [List.eq_nil_of_length_eq_zero same, turnsOf_nil]
  | case2 first rest ih =>
    cases others with
    | nil => contradiction
    | cons other more =>
      have same : more.length = rest.length := Nat.succ.inj same
      rw [turnsOf_cons, List.map_cons, List.map_cons, ih (by simp [same])]
      simp [same]

namespace Player
variable {course : Course} {player : Player}

theorem report_relocated (course : Course) (relocated : RelocatedAll events others)
    (violations : List Violation) :
    course.report others violations = course.report events violations := by
  have lengths := lengths_turnsOf course.turnSize relocated.length_eq.symm
  have turns := congrArg List.length lengths
  rw [List.length_map, List.length_map] at turns
  -- the probe goes by how long a turn is, not by what is in it
  have overLimit (events : List Event) :
      (turnsOf course.turnSize events).filterMap (overLimit course.config.fragmentLimit.toNat) =
        ((turnsOf course.turnSize events).map List.length).filterMap fun length =>
          if min length Dispatcher.countCap ≤ course.config.fragmentLimit.toNat then none
          else some (min length Dispatcher.countCap) := by
    rw [List.filterMap_map]
    rfl
  simp only [Course.report, Course.run, overLimit, lengths, turns, relocated.tally_eq,
    relocated.timestamps_eq]

/-- Where messages lie in their buffers shows neither in the report nor in what is delivered. -/
theorem Follows.run_relocated (follows : Follows course player)
    (relocated : RelocatedAll events others) :
    (player.run others).2 = (player.run events).2 ∧
      (player.run others).1.ledger.messages.map FramedMessage.reading =
        (player.run events).1.ledger.messages.map FramedMessage.reading := by
  constructor
  · rw [follows.report_run, follows.report_run, relocated.foldl_play_eq,
      report_relocated course relocated]
  · rw [ledger_run, ledger_run]
    simp only [Ledger.enter, List.map_append, List.map_drop, relocated.readings_eq]

end Player
end SessionReplay
