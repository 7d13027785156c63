import SessionReplay.Proofs.Player.Interference
import SessionReplay.Proofs.Player.Pace
import SessionReplay.Proofs.Player.Turns

/-! How far the length of turns reaches. It decides how many turns there are and which of them are
reported to the probe. Two players that differ in it alone draw, complete and report alike, and at
the end of a run nothing tells them apart. -/
namespace SessionReplay

/-- The probe is told how long the long turns were, as long as they can be counted. -/
theorem filterMap_overLimit (limit : Nat) (turns : List (List Event))
    (short : ∀ turn ∈ turns, turn.length < UInt32.size) :
    turns.filterMap (overLimit limit) = (turns.map List.length).filter (limit < ·) := by
  induction turns with
  | nil => rfl
  | cons turn rest ih =>
    obtain ⟨countable, later⟩ := List.forall_mem_cons.mp short
    have count : min turn.length Dispatcher.countCap = turn.length := by
      unfold Dispatcher.countCap
      omega
    rw [List.map_cons, List.filter_cons, ← ih later]
    by_cases long : limit < turn.length
    · have told : overLimit limit turn = some turn.length := by
        simp [overLimit, count, long]
      rw [List.filterMap_cons_some told]
      simp [long]
    · have quiet : overLimit limit turn = none := by
        simpa [overLimit, count] using long
      rw [List.filterMap_cons_none quiet]
      simp [long]

namespace Course

theorem through_resized (config : Config) (size other : Nat) (moves : List Move) :
    (start config other).through moves =
      { (start config size).through moves with turnSize := max other 1 } := by
  induction moves using List.reverseRecOn with
  | nil => rfl
  | append_singleton moves move ih =>
    unfold through at ih ⊢
    rw [List.foldl_append, List.foldl_append, ih]
    cases move <;> rfl

theorem setting_through (config : Config) (size : Nat) (moves : List Move) :
    ((start config size).through moves).config = config ∧
      ((start config size).through moves).turnSize = max size 1 := by
  induction moves using List.reverseRecOn with
  | nil => exact ⟨rfl, rfl⟩
  | append_singleton moves move ih =>
    unfold through at ih ⊢
    rw [List.foldl_append]
    cases move <;> exact ih

end Course

namespace Player

def started (config : Config) (policy : CompletionPolicy) (seed : UInt64) : Option Nat → Player
  | none => .new config policy seed
  | some size => (Player.new config policy seed).withTurnSize size

theorem started_eq (config : Config) (policy : CompletionPolicy) (seed : UInt64)
    (told : Option Nat) :
    started config policy seed told =
      fresh config policy seed (told.getD config.fragmentLimit.toNat) := by
  cases told <;> rfl

/-- The players have the same clock, operation and draws, and transports that hold the same: what was
taken and refused, what is still to be refused, and what waits to be completed. -/
structure Alike (player other : Player) : Prop where
  ledger : other.ledger = player.ledger
  awaiting : other.dispatcher.awaiting = player.dispatcher.awaiting
  registered : other.dispatcher.transport.registered = player.dispatcher.transport.registered
  now : other.dispatcher.now = player.dispatcher.now
  inFlight : other.dispatcher.inFlight = player.dispatcher.inFlight
  draws : other.draws = player.draws

section Resized
variable (config : Config) (policy : CompletionPolicy) (seed : UInt64) (size other : Nat)
  (moves : List Move)

theorem pace_resized :
    ((fresh config policy seed other).makeAll moves).1.pace =
      ((fresh config policy seed size).makeAll moves).1.pace := by
  induction moves using List.reverseRecOn with
  | nil => rfl
  | append_singleton moves move ih =>
    obtain ⟨follows, kept⟩ := follows_through config policy seed size moves
    obtain ⟨twin, same⟩ := follows_through config policy seed other moves
    rw [makeAll_concat, makeAll_concat]
    cases move with
    | run events =>
      have paced := follows.pace_run events
      have resized := twin.pace_run events
      rw [kept] at paced
      rw [same, ih, Course.through_resized config size] at resized
      exact resized.trans paced.symm
    | refuseNext count => exact ih
    | install owners => exact ih
    | changeShared register unregister => exact ih

theorem alike_resized :
    Alike ((fresh config policy seed size).makeAll moves).1
      ((fresh config policy seed other).makeAll moves).1 := by
  obtain ⟨follows, -⟩ := follows_through config policy seed size moves
  obtain ⟨twin, -⟩ := follows_through config policy seed other moves
  have pace := pace_resized config policy seed size other moves
  refine ⟨?_, congrArg (·.standing.awaiting) pace, ?_, ?_, congrArg (·.standing.inFlight) pace,
    congrArg Pace.draws pace⟩
  · rw [ledger_makeAll, ledger_makeAll]
    rfl
  · rw [twin.ready.registered, follows.ready.registered]
  · rw [twin.now, follows.now, Course.through_resized config size]

theorem report_resized (events : List Event) :
    (((fresh config policy seed other).makeAll moves).1.run events).2.apartFromTurns =
      (((fresh config policy seed size).makeAll moves).1.run events).2.apartFromTurns := by
  obtain ⟨follows, kept⟩ := follows_through config policy seed size moves
  obtain ⟨twin, same⟩ := follows_through config policy seed other moves
  rw [twin.report_run, follows.report_run, same, kept, pace_resized config policy seed size other,
    Course.through_resized config size]
  rfl

theorem turns_run (events : List Event) :
    let report := (((fresh config policy seed size).makeAll moves).1.run events).2
    let turns := turnsOf (max size 1) events
    report.turns = turns.length ∧
      report.overLimit = turns.filterMap (overLimit config.fragmentLimit.toNat) := by
  intro report turns
  obtain ⟨follows, -⟩ := follows_through config policy seed size moves
  obtain ⟨kept, sized⟩ := Course.setting_through config size moves
  obtain ⟨_, _, _, _, _, reported⟩ := follows.run events
  constructor
  · refine (congrArg Report.turns reported).trans ?_
    show (turnsOf _ events).length = _
    rw [sized]
  · refine (congrArg Report.overLimit reported).trans ?_
    show (turnsOf _ events).filterMap (overLimit _) = _
    rw [sized, kept]

end Resized

/-- The length of turns decides how many there are and of which ones the probe is told, and nothing
else. It is told of those that are longer than the limit, in order: of all full ones or of none, and
perhaps of the last. Players told different lengths report alike apart from turns and end alike. -/
theorem turn_accounting (config : Config) (policy : CompletionPolicy) (seed : UInt64)
    (told other : Option Nat) (moves : List Move) (events : List Event) :
    let limit := config.fragmentLimit.toNat
    let size := max (told.getD limit) 1
    let count := events.length
    let ran := ((started config policy seed told).makeAll moves).1.run events
    let twin := ((started config policy seed other).makeAll moves).1.run events
    ran.2.turns = count ⌈/⌉ size ∧
      ((∀ turn ∈ turnsOf size events, turn.length < UInt32.size) →
        ran.2.overLimit = ((turnsOf size events).map List.length).filter (limit < ·) ∧
          ran.2.overLimit =
            (if limit < size then List.replicate (count / size) size else []) ++
              if limit < count % size then [count % size] else []) ∧
      twin.2.apartFromTurns = ran.2.apartFromTurns ∧ Alike ran.1 twin.1 := by
  intro limit size count ran twin
  have positive : 0 < size := by omega
  obtain ⟨turns, overLimit⟩ := turns_run config policy seed (told.getD limit) moves events
  have reported := report_resized config policy seed (told.getD limit) (other.getD limit) moves
    events
  have alike := alike_resized config policy seed (told.getD limit) (other.getD limit)
    (moves ++ [.run events])
  rw [makeAll_concat, makeAll_concat] at alike
  rw [← started_eq] at turns overLimit
  rw [← started_eq, ← started_eq] at reported alike
  refine ⟨turns.trans (length_turnsOf positive events), ?_, reported, alike⟩
  intro short
  rw [filterMap_overLimit limit _ short] at overLimit
  exact ⟨overLimit, overLimit.trans (longTurns_turnsOf positive limit events)⟩

/-- With a limit of zero every turn is reported, be it full or the last. -/
theorem turn_accounting_zero_limit :
    let config : Config := Config.withFragmentLimit {} 0
    let beat := Event.heartbeat ⟨3, 0⟩
    let events := [beat, beat, beat]
    let ran := (started config .deferred 7 (some 2)).run events
    let twin := (started config .deferred 7 none).run events
    (∀ turn ∈ turnsOf 2 events, turn.length < UInt32.size) ∧
      ran.2.turns = 2 ∧ ran.2.overLimit = [2, 1] ∧
      twin.2.apartFromTurns = ran.2.apartFromTurns ∧ Alike ran.1 twin.1 := by
  intro config beat events ran twin
  obtain ⟨turns, told, reported, alike⟩ :=
    turn_accounting config .deferred 7 (some 2) none [] events
  have short : ∀ turn ∈ turnsOf 2 events, turn.length < UInt32.size := by
    simp [events, turnsOf_cons, UInt32.size]
  exact ⟨short, turns.trans (by decide), (told short).2.trans (by decide), reported, alike⟩

end Player
end SessionReplay
