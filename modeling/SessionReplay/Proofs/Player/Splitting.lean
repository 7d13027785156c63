import SessionReplay.Proofs.Player.Delivery
import SessionReplay.Proofs.Player.Honouring
import SessionReplay.Proofs.Player.Turns

/-! A replay in two parts. The end of a run completes what waits, and a consumer that honours the
contract would have completed it anyway before anybody looked; so the place of the cut shows in
nothing but the turns, and not even there if it falls between two of them. -/
namespace SessionReplay

/-- The report on two runs as if they were one. -/
def Report.followedBy (report next : Report) : Report where
  dispatched := report.dispatched + next.dispatched
  forwarded := report.forwarded + next.forwarded
  refused := report.refused + next.refused
  dropped := report.dropped + next.dropped
  observed := report.observed + next.observed
  connections := report.connections ++ next.connections
  turns := report.turns + next.turns
  overLimit := report.overLimit ++ next.overLimit
  finalTime := next.finalTime
  violations := report.violations ++ next.violations

theorem refusalsAfter_append (refusals : Nat) (events more : List Event) :
    refusalsAfter refusals (events ++ more) =
      refusalsAfter (refusalsAfter refusals events) more :=
  List.foldl_append

theorem audit_append (owners : Owners) (earlier history more : List (Event × Outcome)) :
    audit owners earlier (history ++ more) =
      audit owners earlier history ++ audit owners (earlier ++ history) more := by
  induction history generalizing earlier with
  | nil => rw [List.nil_append, audit, List.nil_append, List.append_nil]
  | cons entry rest ih =>
    rw [List.cons_append, audit, audit, ih, List.append_assoc, List.append_assoc]
    rfl

namespace Course
variable (course : Course) (events more : List Event)

theorem run_append : course.run (events ++ more) = (course.run events).run more := by
  simp only [run, refusalsAfter_append, replayed_append, List.map_append, List.foldl_append,
    List.append_assoc]

theorem apartFromTurns_report_append (violations others : List Violation) :
    (course.report (events ++ more) (violations ++ others)).apartFromTurns =
      ((course.report events violations).followedBy
        ((course.run events).report more others)).apartFromTurns := by
  have time := congrArg Course.now (course.run_append events more)
  simp only [report, time, replayed_append, Report.tally, Report.followedBy, Report.apartFromTurns]
  simp [run]

theorem report_append (full : course.turnSize ∣ events.length)
    (violations others : List Violation) :
    course.report (events ++ more) (violations ++ others) =
      (course.report events violations).followedBy ((course.run events).report more others) := by
  apply Report.eq_of_apartFromTurns (course.apartFromTurns_report_append events more _ _)
  · show (turnsOf course.turnSize (events ++ more)).length = _
    rw [turnsOf_append full more, List.length_append]
    rfl
  · show (turnsOf course.turnSize (events ++ more)).filterMap _ = _
    rw [turnsOf_append full more, List.filterMap_append]
    rfl

end Course

namespace Player
variable {course : Course} {player : Player} {policy : CompletionPolicy}

/-- Two runs in a row by a player on a course, and one run over the same events. -/
theorem Follows.run_append (follows : Follows course player)
    (honours : player.policy.skipChance = 0)
    (standing : player.dispatcher.inFlight = leftOpen course.history) (events more : List Event) :
    let first := player.run events
    let second := first.1.run more
    let whole := player.run (events ++ more)
    (∃ violations others, first.2 = course.report events violations ∧
        second.2 = (course.run events).report more others ∧
        whole.2 = course.report (events ++ more) (violations ++ others)) ∧
      second.1.ledger = whole.1.ledger ∧
      second.1.dispatcher.inFlight = whole.1.dispatcher.inFlight := by
  intro first second whole
  obtain ⟨_, _, after, kept, _, _⟩ := follows.run events
  obtain ⟨reported, between⟩ := follows.run_honoured honours standing events
  obtain ⟨continued, last⟩ := after.run_honoured (by rw [kept]; exact honours) between more
  obtain ⟨joined, alike⟩ := follows.run_honoured honours standing (events ++ more)
  refine ⟨⟨_, _, reported, continued, ?_⟩, ?_, ?_⟩
  · rw [replayed_append, audit_append] at joined
    exact joined
  · rw [ledger_run, ledger_run, ledger_run, Ledger.enter_append]
  · rw [last, alike, Course.run_append]

/-- A consumer that honours the contract may be interrupted anywhere. Two runs leave the transport
and the operation as one run over the same events does, and their reports join to its report, turns
apart; where the first one fills its turns, turns and all. -/
theorem split_replay (config : Config) (policy : CompletionPolicy)
    (honours : policy.skipChance = 0) (seed : UInt64) (size : Nat) (moves : List Move)
    (events more : List Event) :
    let player := ((fresh config policy seed size).makeAll moves).1
    let first := player.run events
    let second := first.1.run more
    let whole := player.run (events ++ more)
    whole.2.apartFromTurns = (first.2.followedBy second.2).apartFromTurns ∧
      (player.turnSize ∣ events.length → whole.2 = first.2.followedBy second.2) ∧
      second.1.ledger = whole.1.ledger ∧
      second.1.dispatcher.inFlight = whole.1.dispatcher.inFlight := by
  intro player first second whole
  obtain ⟨follows, kept⟩ := follows_through config policy seed size moves
  have standing := inFlight_through config honours seed size moves
  obtain ⟨⟨violations, others, reported, continued, joined⟩, ledger, inFlight⟩ :=
    follows.run_append (by rw [kept]; exact honours) standing events more
  refine ⟨?_, ?_, ledger, inFlight⟩
  · rw [joined, reported, continued]
    exact Course.apartFromTurns_report_append _ events more violations others
  · intro full
    rw [joined, reported, continued]
    exact Course.report_append _ events more (follows.turnSize ▸ full) violations others

/-- A message that was refused before the cut leaves its operation open for the connect that comes
after it. -/
theorem split_at_open_operation :
    let player := ((fresh {} (.lagging 0) 7 1).makeAll [.refuseNext 1]).1
    let refused := [.message ⟨3, 0, 1, 0x44, List.replicate 8 0, 8, 8, 0⟩]
    let connect := [.connect ⟨5, 0, 2, "", []⟩]
    let first := player.run refused
    let second := first.1.run connect
    let whole := player.run (refused ++ connect)
    (CompletionPolicy.lagging 0).skipChance = 0 ∧ player.turnSize ∣ refused.length ∧
      whole.2.violations = [.messageRefused 1, .overlappingOperation] ∧
      whole.2 = first.2.followedBy second.2 ∧
      second.1.ledger = whole.1.ledger ∧
      second.1.dispatcher.inFlight = whole.1.dispatcher.inFlight := by
  intro player refused connect first second whole
  obtain ⟨-, joined, ledger, inFlight⟩ :=
    split_replay {} (.lagging 0) rfl 7 1 [.refuseNext 1] refused connect
  have full : player.turnSize ∣ refused.length := Nat.dvd_refl 1
  refine ⟨rfl, full, ?_, joined full, ledger, inFlight⟩
  exact (congrArg Report.violations
    (report_honoured {} rfl 7 1 [.refuseNext 1] (refused ++ connect))).trans (by decide)

end Player
end SessionReplay
