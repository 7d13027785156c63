import SessionReplay.Proofs.Player.Course

/-! What every consumer preserves, however it lags. No start can be matched with its
completion, since whichever completion comes next is taken for it; but overlaps and an
open operation on one side, unmatched completions and waiting messages on the other,
differ only by the messages that nobody will complete. -/
namespace SessionReplay
open Operations (isOpen breaches completions)

def lost (history : List (Event × Outcome)) : Nat :=
  (history.map Prod.snd).count .refused + (history.map Prod.snd).count .dropped

theorem lost_cons (entry : Event × Outcome) (rest : List (Event × Outcome)) :
    lost (entry :: rest) = lost [entry] + lost rest := by
  simp only [lost, List.map_cons, List.map_nil, List.count_cons, List.count_nil]
  omega

namespace Standing

def balance (standing : Standing) : Int :=
  standing.violations.count .overlappingOperation + standing.inFlight.toNat -
    standing.violations.count .unmatchedCompletion - standing.awaiting.length

/-- An operation is open only while a message waits that may complete it. -/
def Vouched (standing : Standing) : Prop :=
  standing.inFlight = true → standing.awaiting ≠ []

section Balance
variable {standing : Standing}

theorem balance_perform (calls : List Operations.Call) :
    (standing.perform calls).balance =
      standing.balance + calls.count .start - calls.count .finish := by
  have counted := Operations.count_breaches standing.inFlight calls
  unfold balance perform
  dsimp only
  rw [List.count_append, List.count_append]
  omega

/-- Every message that is completed takes its operation along. -/
theorem balance_complete (enough : ended ≤ standing.awaiting.length) :
    (standing.complete ended).balance = standing.balance := by
  have performed := @balance_perform standing (completions ended)
  have finishes : (completions ended).count .finish = ended := List.count_replicate_self
  have starts : (completions ended).count .start = 0 := by simp [List.count_replicate]
  have left : (standing.awaiting.drop ended).length = standing.awaiting.length - ended :=
    List.length_drop
  unfold balance complete perform at *
  dsimp only at *
  omega

theorem balance_dispatch (owners : Owners) (event : Event) (outcome : Outcome) :
    (standing.dispatch owners event outcome).balance =
      standing.balance + event.opensOperation.toNat - (event.accepted outcome).length := by
  have overlaps := @Event.count_overlaps event owners standing.inFlight outcome
  have unmatched : (event.findings owners standing.inFlight outcome).count
      .unmatchedCompletion = 0 :=
    List.count_eq_zero.mpr (Event.not_mem_findings rfl Violation.noConfusion _ _)
  unfold balance dispatch
  rw [List.count_append, List.count_append, List.length_append, overlaps, unmatched]
  cases event.opensOperation <;> cases standing.inFlight <;> simp <;> omega

end Balance
end Standing

/-- A message that is refused or dropped is lost for the consumer; nothing else is. -/
theorem Consumes.balance
    (consumes : Consumes policy owners before (event, event.fate refusals) after) :
    after.balance = before.balance + lost [(event, event.fate refusals)] := by
  generalize became : event.fate refusals = outcome at consumes ⊢
  cases consumes with
  | opening opens early settled late =>
    cases event with
    | message event =>
      refine (Standing.balance_complete late).trans ((Standing.balance_dispatch _ _ _).trans ?_)
      rw [Standing.balance_complete early]
      rcases Event.fate_message event refusals with fate | fate | fate <;>
        rw [← became, fate] <;> simp [Event.accepted, Event.opensOperation, lost]
    | connect event =>
      subst became
      refine (Standing.balance_perform _).trans ?_
      rw [Standing.balance_dispatch, Standing.balance_complete early]
      simp [Event.accepted, Event.opensOperation, Event.fate, lost]
    | heartbeat event => contradiction
  | heartbeat late =>
    refine (Standing.balance_complete late).trans ((Standing.balance_dispatch _ _ _).trans ?_)
    simp [Event.accepted, Event.opensOperation, lost]

theorem Consumed.balance
    (consumed : Consumed policy owners before (replayed refusals events) after) :
    after.balance = before.balance + lost (replayed refusals events) := by
  induction events generalizing refusals before with
  | nil =>
    cases consumed with
    | refl => simp [replayed, lost]
  | cons event rest ih =>
    cases consumed with
    | next head tail =>
      have total := lost_cons (event, event.fate refusals)
        (replayed (event.refusalsLeft refusals) rest)
      rw [ih tail, head.balance, replayed]
      omega

namespace Standing

theorem Vouched.complete {standing : Standing} (vouched : standing.Vouched) (ended : Nat) :
    (standing.complete ended).Vouched := by
  cases ended with
  | zero => exact vouched
  | succ ended =>
    intro stillOpen
    have closed : (standing.complete (ended + 1)).inFlight = false := by
      show isOpen standing.inFlight (completions (ended + 1)) = false
      rw [completions, List.replicate_succ', Operations.isOpen_append]
      rfl
    rw [closed] at stillOpen
    contradiction

/-- In the end nothing waits, so nothing vouches for an open operation. -/
theorem Vouched.drain {standing : Standing} (vouched : standing.Vouched) :
    standing.drain.inFlight = false := by
  have none : standing.drain.awaiting = [] := List.drop_length
  cases open? : standing.drain.inFlight with
  | false => rfl
  | true => exact absurd none (vouched.complete _ open?)

end Standing

theorem Consumes.vouched
    (consumes : Consumes policy owners before (event, event.fate refusals) after)
    (vouched : before.Vouched) (kept : lost [(event, event.fate refusals)] = 0) :
    after.Vouched := by
  generalize became : event.fate refusals = outcome at consumes kept
  cases consumes with
  | opening opens early settled late =>
    cases event with
    | message event =>
      rcases Event.fate_message event refusals with fate | fate | fate
      · have accepted : (Event.message event).accepted outcome = [event.connection] := by
          rw [← became, fate]
          rfl
        apply Standing.Vouched.complete
        intro _
        simp [Standing.dispatch, accepted]
      · rw [← became, fate] at kept
        contradiction
      · rw [← became, fate] at kept
        contradiction
    | connect event => exact fun stillOpen => Bool.noConfusion stillOpen
    | heartbeat event => contradiction
  | heartbeat late =>
    apply Standing.Vouched.complete
    intro stillOpen
    have waiting := vouched stillOpen
    simp [Standing.dispatch, waiting]

theorem Consumed.vouched
    (consumed : Consumed policy owners before (replayed refusals events) after)
    (vouched : before.Vouched) (kept : lost (replayed refusals events) = 0) : after.Vouched := by
  induction events generalizing refusals before with
  | nil =>
    cases consumed with
    | refl => exact vouched
  | cons event rest ih =>
    cases consumed with
    | next head tail =>
      have total := lost_cons (event, event.fate refusals)
        (replayed (event.refusalsLeft refusals) rest)
      rw [replayed, total] at kept
      exact ih tail (head.vouched vouched (by omega)) (by omega)

namespace Standing

theorem not_mem_perform {standing : Standing} (absent : .noConnectPending ∉ standing.violations)
    (calls : List Operations.Call) :
    .noConnectPending ∉ (standing.perform calls).violations := by
  intro reported
  rcases List.mem_append.mp reported with before | breach
  · exact absent before
  · rcases Operations.mem_breaches _ breach with found | found <;> contradiction

theorem not_mem_dispatch {standing : Standing} (absent : .noConnectPending ∉ standing.violations)
    (owners : Owners) (event : Event) (outcome : Outcome) :
    .noConnectPending ∉ (standing.dispatch owners event outcome).violations := by
  intro reported
  rcases List.mem_append.mp reported with before | found
  · exact absent before
  · exact Event.not_mem_findings rfl Violation.noConfusion _ _ found

theorem not_mem_follow {standing : Standing} (absent : .noConnectPending ∉ standing.violations)
    (ended : Nat) (event : Event) :
    .noConnectPending ∉ (standing.follow ended event).violations := by
  cases event with
  | message event => exact not_mem_perform absent _
  | connect event => exact not_mem_perform absent _
  | heartbeat event => exact not_mem_perform absent _

end Standing

/-- A consumer asks for connection ids only where there is one. -/
theorem Consumed.not_mem (consumed : Consumed policy owners before history after)
    (absent : .noConnectPending ∉ before.violations) :
    .noConnectPending ∉ after.violations := by
  induction consumed with
  | refl => exact absent
  | next head tail ih =>
    apply ih
    cases head with
    | opening opens early settled late =>
      apply Standing.not_mem_follow
      apply Standing.not_mem_dispatch
      exact Standing.not_mem_perform absent _
    | heartbeat late =>
      exact Standing.not_mem_perform (Standing.not_mem_dispatch absent owners _ _) _

namespace Player
open Dispatcher

def total (count : Report → Nat) (reports : List Report) : Nat :=
  reports.foldl (fun sum report => sum + count report) 0

def reportedTimes (violation : Violation) (reports : List Report) : Nat :=
  total (·.violations.count violation) reports

theorem total_concat (count : Report → Nat) (reports : List Report) (report : Report) :
    total count (reports ++ [report]) = total count reports + count report := by
  simp [total]

section Sessions
variable {course : Course} {player : Player}

theorem Follows.run_balance (follows : Follows course player) (events : List Event) :
    let report := (player.run events).2
    report.violations.count .overlappingOperation +
          (player.run events).1.dispatcher.inFlight.toNat =
        report.violations.count .unmatchedCompletion + (report.refused + report.dropped) +
          player.dispatcher.inFlight.toNat ∧
      .noConnectPending ∉ report.violations ∧
      (player.dispatcher.inFlight = false → report.refused + report.dropped = 0 →
        (player.run events).1.dispatcher.inFlight = false) := by
  obtain ⟨last, consumed, -, -, inFlight, reported⟩ := follows.run events
  have balance := consumed.balance
  have drained := Standing.balance_complete (Nat.le_refl last.awaiting.length)
  have lost : (player.run events).2.refused + (player.run events).2.dropped =
      lost (replayed course.refusals events) := by
    rw [reported]
    simp [Course.report, Report.tally, SessionReplay.lost]
  refine ⟨?_, ?_, ?_⟩
  · have nothing : last.drain.awaiting.length = 0 := by
      rw [show last.drain.awaiting = [] from List.drop_length]
      rfl
    rw [lost, reported, inFlight]
    show last.drain.violations.count _ + _ = last.drain.violations.count _ + _ + _
    rw [show last.complete _ = last.drain from rfl, balance] at drained
    unfold Standing.balance at drained
    simp at drained
    omega
  · rw [reported]
    exact Standing.not_mem_perform (consumed.not_mem List.not_mem_nil) _
  · intro closed kept
    rw [inFlight]
    apply Standing.Vouched.drain
    refine consumed.vouched ?_ (by rw [← lost]; exact kept)
    intro stillOpen
    rw [closed] at stillOpen
    contradiction

/-- What the reports of a session add up to when the player is done with its moves. -/
structure Conserved (player : Player) (reports : List Report) : Prop where
  never : ∀ report ∈ reports, .noConnectPending ∉ report.violations
  balance : reportedTimes .overlappingOperation reports + player.dispatcher.inFlight.toNat =
    reportedTimes .unmatchedCompletion reports +
      (total Report.refused reports + total Report.dropped reports)
  closed : total Report.refused reports + total Report.dropped reports = 0 →
    player.dispatcher.inFlight = false

theorem Conserved.run (conserved : Conserved player reports) (follows : Follows course player)
    (events : List Event) :
    Conserved (player.run events).1 (reports ++ [(player.run events).2]) := by
  obtain ⟨balance, never, closed⟩ := follows.run_balance events
  have before := conserved.balance
  refine ⟨?_, ?_, ?_⟩
  · intro report member
    rcases List.mem_append.mp member with earlier | last
    · exact conserved.never report earlier
    · rw [List.mem_singleton.mp last]
      exact never
  · simp only [reportedTimes, total_concat] at before balance ⊢
    omega
  · intro kept
    rw [total_concat, total_concat] at kept
    exact closed (conserved.closed (by omega)) (by omega)

theorem conserved_moves (config : Config) (policy : CompletionPolicy) (seed : UInt64)
    (size : Nat) (moves : List Move) :
    let (player, reports) := (fresh config policy seed size).makeAll moves
    Conserved player reports := by
  induction moves using List.reverseRecOn with
  | nil => exact ⟨fun _ member => absurd member List.not_mem_nil, rfl, fun _ => rfl⟩
  | append_singleton moves move ih =>
    rw [makeAll_concat]
    cases move with
    | run events =>
      exact ih.run (follows_through config policy seed size moves).1 events
    | refuseNext count =>
      show Conserved _ (_ ++ [])
      rw [List.append_nil]
      exact ⟨ih.never, ih.balance, ih.closed⟩
    | install owners =>
      show Conserved _ (_ ++ [])
      rw [List.append_nil]
      exact ⟨ih.never, ih.balance, ih.closed⟩
    | changeShared register unregister =>
      show Conserved _ (_ ++ [])
      rw [List.append_nil]
      exact ⟨ih.never, ih.balance, ih.closed⟩

/-- Whatever the consumer does, nothing waits between runs and no connection id is asked
for in vain. Over all runs, overlaps and an open operation make up for the unmatched
completions and the messages that were refused or dropped. -/
theorem operation_conservation (config : Config) (policy : CompletionPolicy) (seed : UInt64)
    (size : Nat) (moves : List Move) :
    let player := ((fresh config policy seed size).makeAll moves).1
    let reports := ((fresh config policy seed size).makeAll moves).2
    player.dispatcher.awaiting = [] ∧ player.dispatcher.pending = none ∧
      (∀ report ∈ reports, .noConnectPending ∉ report.violations) ∧
      reportedTimes .overlappingOperation reports + player.dispatcher.inFlight.toNat =
        reportedTimes .unmatchedCompletion reports + total Report.refused reports +
          total Report.dropped reports ∧
      (total Report.refused reports = 0 → total Report.dropped reports = 0 →
        player.dispatcher.inFlight = false ∧
          reportedTimes .overlappingOperation reports =
            reportedTimes .unmatchedCompletion reports) := by
  intro player reports
  have follows := (follows_through config policy seed size moves).1
  have conserved : Conserved player reports := conserved_moves config policy seed size moves
  have balance := conserved.balance
  refine ⟨follows.awaiting, follows.ready.pending, conserved.never, by omega, ?_⟩
  intro refused dropped
  have closed := conserved.closed (by omega)
  rw [closed, Bool.toNat_false] at balance
  exact ⟨closed, by omega⟩

end Sessions
end Player
end SessionReplay
