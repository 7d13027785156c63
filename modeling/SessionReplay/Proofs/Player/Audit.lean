import SessionReplay.Proofs.Player.Course

/-! The audit of a replay whose consumer honours the contract: everything that is
forwarded is completed before the next operation opens. At most one message waits at any
time, so an event finds an operation open only if it was left open by a message that was
refused or dropped, and the audit can be read off the events. -/
namespace SessionReplay
open Operations (isOpen breaches completions)

/-- The last event that opened an operation was a message that nobody will complete. -/
def leftOpen (history : List (Event × Outcome)) : Bool :=
  match (history.filter fun (event, _) => event.opensOperation).getLast? with
  | some (_, outcome) => outcome = .refused ∨ outcome = .dropped
  | none => false

/-- Everything to report about events that follow others, event by event. -/
def audit (owners : Owners) : List (Event × Outcome) → List (Event × Outcome) → List Violation
  | _, [] => []
  | earlier, (event, outcome) :: rest =>
    event.findings owners (leftOpen earlier) outcome ++
      audit owners (earlier ++ [(event, outcome)]) rest

section History
variable (earlier : List (Event × Outcome))

theorem leftOpen_opening {event : Event} (opens : event.opensOperation = true)
    (outcome : Outcome) :
    leftOpen (earlier ++ [(event, outcome)]) =
      decide (outcome = .refused ∨ outcome = .dropped) := by
  simp [leftOpen, opens]

theorem leftOpen_heartbeat (event : Heartbeat) (outcome : Outcome) :
    leftOpen (earlier ++ [(.heartbeat event, outcome)]) = leftOpen earlier := by
  simp [leftOpen, Event.opensOperation]

end History

/-- How things stand with a consumer that honours the contract: either nothing waits, and
an operation is open just if it was left open, or the one message waits whose operation is
open. -/
inductive Honoured : Bool → Standing → Prop where
  | idle : Honoured stuck ⟨stuck, [], violations⟩
  | awaited : Honoured false ⟨true, [connection], violations⟩

namespace Honoured

/-- Completing what waits is never misuse. -/
theorem complete (honoured : Honoured stuck standing)
    (enough : ended ≤ standing.awaiting.length) :
    Honoured stuck (standing.complete ended) ∧
      (standing.complete ended).violations = standing.violations := by
  cases honoured with
  | idle =>
    obtain rfl := Nat.le_zero.mp enough
    exact ⟨.idle, List.append_nil _⟩
  | awaited =>
    rcases Nat.le_one_iff_eq_zero_or_eq_one.mp enough with rfl | rfl
    · exact ⟨.awaited, List.append_nil _⟩
    · exact ⟨.idle, List.append_nil _⟩

theorem complete_all (honoured : Honoured stuck standing) :
    standing.complete standing.awaiting.length = ⟨stuck, [], standing.violations⟩ := by
  cases honoured with
  | idle => simp [Standing.complete, Standing.perform, breaches]
  | awaited =>
    simp [Standing.complete, Standing.perform, breaches, Operations.breach, isOpen]

/-- A message waits if it was taken, and leaves its operation open if it was not. -/
theorem message (stuck : Bool) (violations : List Violation) (owners : Owners)
    (event : MessageEvent) (refusals : Nat) :
    let outcome := (Event.message event).fate refusals
    Honoured (decide (outcome = .refused ∨ outcome = .dropped))
      ((⟨stuck, [], violations⟩ : Standing).dispatch owners (.message event) outcome) := by
  dsimp only
  rcases Event.fate_message event refusals with became | became | became
  · rw [became]
    exact .awaited
  · rw [became]
    exact .idle
  · rw [became]
    exact .idle

/-- A heartbeat is not told whether an operation is open. -/
theorem heartbeat (honoured : Honoured stuck standing) (owners : Owners) (event : Heartbeat) :
    Honoured stuck (standing.dispatch owners (.heartbeat event) .observed) ∧
      (standing.dispatch owners (.heartbeat event) .observed).violations =
        standing.violations ++ (Event.heartbeat event).findings owners stuck .observed := by
  cases honoured with
  | idle => exact ⟨.idle, rfl⟩
  | awaited => exact ⟨.awaited, rfl⟩

/-- One event reports what the audit says, and leaves things in order for the next. -/
theorem consumes {before after : Standing} (honours : policy.skipChance = 0)
    (honoured : Honoured (leftOpen earlier) before)
    (consumes : Consumes policy owners before (event, event.fate refusals) after) :
    Honoured (leftOpen (earlier ++ [(event, event.fate refusals)])) after ∧
      after.violations = before.violations ++
        event.findings owners (leftOpen earlier) (event.fate refusals) := by
  generalize became : event.fate refusals = outcome at consumes ⊢
  cases consumes with
  | opening opens early settled late =>
    obtain rfl := settled honours
    rw [honoured.complete_all] at late ⊢
    rw [leftOpen_opening _ opens]
    cases event with
    | message event =>
      subst became
      have offered := message (leftOpen earlier) before.violations owners event refusals
      obtain ⟨after, quiet⟩ := offered.complete late
      exact ⟨after, quiet⟩
    | connect event =>
      subst became
      exact ⟨.idle, List.append_nil _⟩
    | heartbeat event => contradiction
  | heartbeat late =>
    rw [leftOpen_heartbeat]
    obtain ⟨met, found⟩ := honoured.heartbeat owners _
    obtain ⟨after, quiet⟩ := met.complete late
    exact ⟨after, quiet.trans found⟩

theorem consumed (honours : policy.skipChance = 0)
    (honoured : Honoured (leftOpen earlier) before)
    (consumed : Consumed policy owners before (replayed refusals events) after) :
    Honoured (leftOpen (earlier ++ replayed refusals events)) after ∧
      after.violations = before.violations ++ audit owners earlier (replayed refusals events) := by
  induction events generalizing refusals earlier before with
  | nil =>
    cases consumed with
    | refl =>
      rw [replayed, audit, List.append_nil, List.append_nil]
      exact ⟨honoured, rfl⟩
  | cons event rest ih =>
    cases consumed with
    | next head tail =>
      obtain ⟨between, found⟩ := honoured.consumes honours head
      obtain ⟨last, more⟩ := ih between tail
      rw [List.append_assoc] at last
      refine ⟨last, ?_⟩
      rw [more, found, replayed, audit, List.append_assoc]

theorem drain (honoured : Honoured stuck standing) :
    standing.drain = ⟨stuck, [], standing.violations⟩ :=
  honoured.complete_all

end Honoured

section Audit
variable {owners : Owners}

/-- Completions are never misuse here. -/
theorem unmatched_not_mem_audit (earlier history : List (Event × Outcome)) :
    .unmatchedCompletion ∉ audit owners earlier history := by
  induction history generalizing earlier with
  | nil => exact List.not_mem_nil
  | cons entry rest ih =>
    intro reported
    rcases List.mem_append.mp reported with now | later
    · exact Event.not_mem_findings rfl Violation.noConfusion _ _ now
    · exact ih _ later

theorem outcomeFindings_eq_nil_iff (event : Event) (refusals : Nat) :
    event.outcomeFindings (event.fate refusals) = [] ↔
      event.fate refusals ≠ .refused ∧ event.fate refusals ≠ .dropped := by
  cases event with
  | message event =>
    cases framed : event.window with
    | error fault =>
      rw [Event.fate_of_error framed]
      simp [Event.outcomeFindings, framed]
    | ok window =>
      rw [Event.fate_of_ok framed]
      split <;> simp [Event.outcomeFindings]
  | connect event => simp [Event.outcomeFindings, Event.fate]
  | heartbeat event => simp [Event.outcomeFindings, Event.fate]

theorem leftOpen_concat (closed : leftOpen earlier = false) (event : Event)
    (taken : outcome ≠ .refused) (framed : outcome ≠ .dropped) :
    leftOpen (earlier ++ [(event, outcome)]) = false := by
  have opening (opens : event.opensOperation = true) :
      leftOpen (earlier ++ [(event, outcome)]) = false := by
    rw [leftOpen_opening earlier opens]
    simp [taken, framed]
  cases event with
  | message event => exact opening rfl
  | connect event => exact opening rfl
  | heartbeat event => rw [leftOpen_heartbeat, closed]

/-- Where nothing was left open, there is nothing to report if and only if every owner is
known and no message is refused or dropped. -/
theorem audit_eq_nil_iff (closed : leftOpen earlier = false) (refusals : Nat)
    (events : List Event) :
    audit owners earlier (replayed refusals events) = [] ↔
      ∀ entry ∈ replayed refusals events,
        entry.1.ownerFindings owners = [] ∧ entry.2 ≠ .refused ∧ entry.2 ≠ .dropped := by
  induction events generalizing refusals earlier with
  | nil => simp [replayed, audit]
  | cons event rest ih =>
    have quiet : event.overlapFindings false = [] := by simp [Event.overlapFindings]
    rw [replayed, audit, List.append_eq_nil_iff, closed, Event.findings, quiet,
      List.append_nil, List.append_eq_nil_iff, outcomeFindings_eq_nil_iff, List.forall_mem_cons]
    apply and_congr_right
    rintro ⟨known, taken, framed⟩
    exact ih (leftOpen_concat closed event taken framed) _

end Audit
end SessionReplay
