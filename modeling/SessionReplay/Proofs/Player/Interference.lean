import SessionReplay.Proofs.Player.Delivery

/-! How far the consumer reaches. Policy and seed decide which events find an operation open and
which completions find none, and they decide nothing else: two players that were asked the same
differ in those reports alone. -/
namespace SessionReplay

def apartFromOperations (violations : List Violation) : List Violation :=
  violations.filter fun violation => !violation.concernsOperation

theorem apartFromOperations_append (violations more : List Violation) :
    apartFromOperations (violations ++ more) =
      apartFromOperations violations ++ apartFromOperations more :=
  List.filter_append ..

theorem apartFromOperations_breaches (wasOpen : Bool) (calls : List Operations.Call) :
    apartFromOperations (Operations.breaches wasOpen calls) = [] := by
  apply List.filter_eq_nil_iff.mpr
  intro found reported
  rcases Operations.mem_breaches _ reported with rfl | rfl <;> decide

theorem apartFromOperations_of_named {violations : List Violation}
    (named : ∀ found ∈ violations, found.anonymous = false) :
    apartFromOperations violations = violations := by
  apply List.filter_eq_self.mpr
  intro found reported
  rw [Violation.concernsOperation_of_named (named found reported)]
  rfl

/-- What an event is found guilty of, whether or not an operation is open. -/
def Event.ownFindings (owners : Owners) (event : Event) (outcome : Outcome) : List Violation :=
  event.ownerFindings owners ++ event.outcomeFindings outcome

theorem Event.apart_findings (owners : Owners) (wasOpen : Bool) (event : Event)
    (outcome : Outcome) :
    apartFromOperations (event.findings owners wasOpen outcome) =
      event.ownFindings owners outcome := by
  have owner : apartFromOperations (event.ownerFindings owners) = event.ownerFindings owners :=
    apartFromOperations_of_named fun _ reported => named_of_mem_ownerFindings reported
  have lost : apartFromOperations (event.outcomeFindings outcome) = event.outcomeFindings outcome :=
    apartFromOperations_of_named fun _ reported => named_of_mem_outcomeFindings reported
  have overlap : apartFromOperations (event.overlapFindings wasOpen) = [] := by
    unfold overlapFindings
    split <;> rfl
  rw [findings, apartFromOperations_append, apartFromOperations_append, owner, overlap, lost,
    List.append_nil]
  rfl

def ownFindings (owners : Owners) (history : List (Event × Outcome)) : List Violation :=
  history.flatMap fun (event, outcome) => event.ownFindings owners outcome

namespace Standing

theorem apart_perform (standing : Standing) (calls : List Operations.Call) :
    apartFromOperations (standing.perform calls).violations =
      apartFromOperations standing.violations := by
  show apartFromOperations (standing.violations ++ _) = _
  rw [apartFromOperations_append, apartFromOperations_breaches, List.append_nil]

theorem apart_follow (standing : Standing) (ended : Nat) (event : Event) :
    apartFromOperations (standing.follow ended event).violations =
      apartFromOperations standing.violations := by
  cases event with
  | message event => exact standing.apart_perform _
  | connect event => exact standing.apart_perform _
  | heartbeat event => exact standing.apart_perform _

theorem apart_dispatch (standing : Standing) (owners : Owners) (event : Event)
    (outcome : Outcome) :
    apartFromOperations (standing.dispatch owners event outcome).violations =
      apartFromOperations standing.violations ++ event.ownFindings owners outcome := by
  show apartFromOperations (standing.violations ++ _) = _
  rw [apartFromOperations_append, Event.apart_findings]

end Standing

/-- Whatever a consumer does about an event shows in the reports about operations only. -/
theorem Consumes.apart (consumes : Consumes policy owners before (event, outcome) after) :
    apartFromOperations after.violations =
      apartFromOperations before.violations ++ event.ownFindings owners outcome := by
  cases consumes with
  | opening opens early settled late =>
    rw [Standing.apart_follow, Standing.apart_dispatch]
    exact congrArg (· ++ _) (before.apart_perform _)
  | heartbeat late => exact (Standing.apart_perform _ _).trans (before.apart_dispatch owners _ _)

theorem Consumed.apart (consumed : Consumed policy owners before history after) :
    apartFromOperations after.violations =
      apartFromOperations before.violations ++ ownFindings owners history := by
  induction consumed with
  | refl => exact (List.append_nil _).symm
  | next head tail ih => rw [ih, head.apart, List.append_assoc]; rfl

def Report.apart (report : Report) : Report :=
  { report with violations := apartFromOperations report.violations }

def Ledger.after (ledger : Ledger) : Move → Ledger
  | .run events => ledger.enter events
  | .refuseNext count => { ledger with refusals := count }
  | .install _ | .changeShared .. => ledger

namespace Player

section Runs
variable {course : Course} {player other : Player}

/-- Apart from operations, a run reports what its course says of its events. -/
theorem Follows.apart_run (follows : Follows course player) (events : List Event) :
    (player.run events).2.apart =
      course.report events (ownFindings course.owners (replayed course.refusals events)) := by
  obtain ⟨last, consumed, -, -, -, reported⟩ := follows.run events
  have drained : apartFromOperations last.drain.violations = apartFromOperations last.violations :=
    last.apart_perform _
  rw [reported]
  show course.report events (apartFromOperations last.drain.violations) = _
  rw [drained, consumed.apart]
  rfl

/-- Players on the same course answer a move alike, apart from operations. -/
theorem Follows.apart_make (follows : Follows course player) (twin : Follows course other)
    (move : Move) :
    (other.make move).2.map Report.apart = (player.make move).2.map Report.apart := by
  cases move with
  | run events => exact congrArg some ((twin.apart_run events).trans (follows.apart_run events).symm)
  | refuseNext count => rfl
  | install owners => rfl
  | changeShared register unregister => rfl

end Runs

theorem ledger_make (player : Player) (move : Move) :
    (player.make move).1.ledger = player.ledger.after move := by
  cases move with
  | run events => exact player.ledger_run events
  | refuseNext count => rfl
  | install owners => rfl
  | changeShared register unregister => rfl

theorem ledger_makeAll (player : Player) (moves : List Move) :
    (player.makeAll moves).1.ledger = moves.foldl Ledger.after player.ledger := by
  induction moves using List.reverseRecOn with
  | nil => rfl
  | append_singleton moves move ih =>
    rw [makeAll_concat, List.foldl_append, ← ih]
    exact ledger_make _ move

theorem apart_makeAll (config : Config) (size : Nat) (moves : List Move)
    (policy other : CompletionPolicy) (seed otherSeed : UInt64) :
    ((fresh config other otherSeed size).makeAll moves).2.map Report.apart =
      ((fresh config policy seed size).makeAll moves).2.map Report.apart := by
  induction moves using List.reverseRecOn with
  | nil => rfl
  | append_singleton moves move ih =>
    obtain ⟨follows, -⟩ := follows_through config policy seed size moves
    obtain ⟨twin, -⟩ := follows_through config other otherSeed size moves
    have answered := congrArg Option.toList (follows.apart_make twin move)
    rw [Option.toList_map, Option.toList_map] at answered
    rw [makeAll_concat, makeAll_concat, List.map_append, List.map_append, ih, answered]

/-- Whatever is asked of two players that differ in policy and seed only, their reports differ
in nothing but what they say about the single operation, and their transports hold the same. -/
theorem policy_interference (config : Config) (size : Nat) (moves : List Move)
    (policy other : CompletionPolicy) (seed otherSeed : UInt64) :
    let (player, reports) := (fresh config policy seed size).makeAll moves
    let (twin, twinReports) := (fresh config other otherSeed size).makeAll moves
    twinReports.map Report.apart = reports.map Report.apart ∧
      twin.dispatcher.transport.messages = player.dispatcher.transport.messages ∧
      twin.dispatcher.transport.connects = player.dispatcher.transport.connects ∧
      twin.dispatcher.transport.refused = player.dispatcher.transport.refused := by
  have entered := ledger_makeAll (fresh config policy seed size) moves
  have same := (ledger_makeAll (fresh config other otherSeed size) moves).trans entered.symm
  exact ⟨apart_makeAll config size moves policy other seed otherSeed,
    Array.toList_inj.mp (congrArg Ledger.messages same),
    Array.toList_inj.mp (congrArg Ledger.connects same), congrArg Ledger.refused same⟩

end Player
end SessionReplay
