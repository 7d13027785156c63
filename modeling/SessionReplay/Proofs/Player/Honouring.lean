import SessionReplay.Proofs.Player.Audit

/-! Replays with a consumer that honours the contract. Policy and seed leave no trace in
their reports: what a run reports is settled by its course and its events. -/
namespace SessionReplay

/-- A message is dropped if and only if its offsets are unusable, so that a flawless
history can be told from its events but for the refusals. -/
theorem flawless_iff (owners : Owners) (refusals : Nat) (events : List Event) :
    (∀ entry ∈ replayed refusals events,
        entry.1.ownerFindings owners = [] ∧ entry.2 ≠ .refused ∧ entry.2 ≠ .dropped) ↔
      (∀ event, .message event ∈ events → ∃ window, event.window = .ok window) ∧
        .refused ∉ (replayed refusals events).map Prod.snd ∧
        ∀ event ∈ events, event.kind ≠ .connect →
          event.owner = engineOwner ∨ event.owner ∈ owners.liveIds := by
  constructor
  · intro flawless
    refine ⟨?_, ?_, ?_⟩
    · intro event member
      obtain ⟨left, played⟩ := exists_mem_replayed refusals member
      obtain ⟨_, _, kept⟩ := flawless _ played
      cases framed : event.window with
      | ok window => exact ⟨window, rfl⟩
      | error fault => exact absurd (Event.fate_of_error framed left) kept
    · intro refused
      obtain ⟨entry, played, became⟩ := List.mem_map.mp refused
      exact (flawless entry played).2.1 became
    · intro event member
      obtain ⟨left, played⟩ := exists_mem_replayed refusals member
      exact (event.ownerFindings_eq_nil_iff owners).mp (flawless _ played).1
  · rintro ⟨framed, taken, known⟩ entry played
    obtain ⟨member, left, became⟩ := mem_replayed played
    refine ⟨(entry.1.ownerFindings_eq_nil_iff owners).mpr (known _ member), ?_, ?_⟩
    · intro refused
      exact taken (List.mem_map.mpr ⟨entry, played, refused⟩)
    · rw [became]
      obtain ⟨event, outcome⟩ := entry
      cases event with
      | message event =>
        obtain ⟨window, usable⟩ := framed event member
        rw [Event.fate_of_ok usable]
        split <;> simp
      | connect event => simp [Event.fate]
      | heartbeat event => simp [Event.fate]

namespace Player
open Dispatcher

section Honouring
variable {course : Course} {player : Player} {policy : CompletionPolicy}

theorem Follows.run_honoured (follows : Follows course player)
    (honours : player.policy.skipChance = 0)
    (standing : player.dispatcher.inFlight = leftOpen course.history) (events : List Event) :
    (player.run events).2 = course.report events
        (audit course.owners course.history (replayed course.refusals events)) ∧
      (player.run events).1.dispatcher.inFlight = leftOpen (course.run events).history := by
  obtain ⟨last, consumed, -, -, inFlight, reported⟩ := follows.run events
  rw [standing] at consumed
  obtain ⟨honoured, found⟩ := Honoured.idle.consumed honours consumed
  rw [honoured.drain] at inFlight reported
  rw [found] at reported
  exact ⟨reported, inFlight⟩

/-- Between runs an operation is open just if a message left it open. -/
theorem inFlight_through (config : Config) (honours : policy.skipChance = 0) (seed : UInt64)
    (size : Nat) (moves : List Move) :
    ((fresh config policy seed size).makeAll moves).1.dispatcher.inFlight =
      leftOpen ((Course.start config size).through moves).history := by
  induction moves using List.reverseRecOn with
  | nil => rfl
  | append_singleton moves move ih =>
    obtain ⟨follows, kept⟩ := follows_through config policy seed size moves
    rw [makeAll_concat, Course.through, List.foldl_append]
    cases move with
    | run events => exact (follows.run_honoured (by rw [kept]; exact honours) ih events).2
    | refuseNext count => exact ih
    | install owners => exact ih
    | changeShared register unregister => exact ih

theorem report_honoured (config : Config) (honours : policy.skipChance = 0) (seed : UInt64)
    (size : Nat) (moves : List Move) (events : List Event) :
    let course := (Course.start config size).through moves
    (((fresh config policy seed size).makeAll moves).1.run events).2 = course.report events
      (audit course.owners course.history (replayed course.refusals events)) := by
  obtain ⟨follows, kept⟩ := follows_through config policy seed size moves
  have standing := inFlight_through config honours seed size moves
  exact (follows.run_honoured (by rw [kept]; exact honours) standing events).1

/-- Whatever went before, a run with a consumer that honours the contract reports exactly
its audit. Completions are never misuse, no other such policy and no seed gives another
report, and a run that finds no operation open is clean if and only if its messages are
framed and taken and its owners known. -/
theorem honouring_audit (config : Config) (policy : CompletionPolicy)
    (honours : policy.skipChance = 0) (seed : UInt64) (size : Nat) (moves : List Move)
    (events : List Event) :
    let player := ((fresh config policy seed size).makeAll moves).1
    let course := (Course.start config size).through moves
    let history := replayed course.refusals events
    let report := (player.run events).2
    report.violations = audit course.owners course.history history ∧
      report = course.report events report.violations ∧
      .unmatchedCompletion ∉ report.violations ∧
      (∀ (other : CompletionPolicy) (otherSeed : UInt64), other.skipChance = 0 →
        (((fresh config other otherSeed size).makeAll moves).1.run events).2 = report) ∧
      (player.dispatcher.inFlight = false →
        (report.isClean = true ↔
          (∀ event, .message event ∈ events → ∃ window, event.window = .ok window) ∧
            report.refused = 0 ∧
            ∀ event ∈ events, event.kind ≠ .connect →
              event.owner = engineOwner ∨ event.owner ∈ course.owners.liveIds)) := by
  intro player course history report
  have reported : report = course.report events (audit course.owners course.history history) :=
    report_honoured config honours seed size moves events
  have violations : report.violations = audit course.owners course.history history :=
    congrArg Report.violations reported
  refine ⟨violations, ?_, ?_, ?_, ?_⟩
  · rw [violations]
    exact reported
  · rw [violations]
    exact unmatched_not_mem_audit _ _
  · intro other otherSeed alike
    rw [reported]
    exact report_honoured config alike otherSeed size moves events
  · intro closed
    have nothing : leftOpen course.history = false :=
      (inFlight_through config honours seed size moves).symm.trans closed
    have refused : report.refused = 0 ↔ .refused ∉ history.map Prod.snd := by
      rw [reported]
      show 0 + (history.map Prod.snd).count .refused = 0 ↔ _
      rw [Nat.zero_add, List.count_eq_zero]
    rw [Report.isClean, violations, List.isEmpty_iff, refused, audit_eq_nil_iff nothing,
      flawless_iff]

/-- A message that was refused in an earlier run leaves its operation to a connect, which
would otherwise be clean, here and with a consumer that could lag but never does. -/
theorem audit_of_connect :
    CompletionPolicy.deferred.skipChance = 0 ∧ (CompletionPolicy.lagging 0).skipChance = 0 ∧
      (let refused := [.refuseNext 1, .run [.message ⟨3, 0, 1, 0x44, List.replicate 8 0, 8, 8, 0⟩]]
        let connect := [.connect ⟨5, 0, 2, "", []⟩]
        (((fresh {} .deferred 7 2).makeAll refused).1.run connect).2.violations =
            [.overlappingOperation] ∧
          (((fresh {} (.lagging 0) 9 2).makeAll refused).1.run connect).2 =
            (((fresh {} .deferred 7 2).makeAll refused).1.run connect).2 ∧
          ((fresh {} .deferred 7 2).makeAll []).1.dispatcher.inFlight = false ∧
          (((fresh {} .deferred 7 2).makeAll []).1.run connect).2.isClean = true) := by
  refine ⟨rfl, rfl, ?_, ?_, rfl, ?_⟩
  · refine (honouring_audit {} .deferred rfl 7 2 _ _).1.trans ?_
    decide
  · exact (honouring_audit {} .deferred rfl 7 2 _ _).2.2.2.1 (.lagging 0) 9 rfl
  · obtain ⟨-, reported, -, -, clean⟩ :=
      honouring_audit {} .deferred rfl 7 2 [] [.connect ⟨5, 0, 2, "", []⟩]
    refine (clean rfl).mpr ⟨?_, congrArg Report.refused reported, ?_⟩
    · intro event member
      simp at member
    · intro event member message
      rw [List.mem_singleton.mp member] at message
      exact absurd rfl message

end Honouring
end Player
end SessionReplay
