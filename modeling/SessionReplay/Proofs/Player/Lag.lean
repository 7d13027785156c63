import Mathlib.Data.Bool.Basic
import Mathlib.Data.List.Forall2
import SessionReplay.Proofs.Player.Conservation
import SessionReplay.Proofs.Player.Moments

/-! What lag does to overlaps, as long as no message is lost. An operation is open exactly since the
last message, unless something was completed; so an overlap is a skipped completion after a message.
Draws are the same however they turn out, so of two consumers the one that skips more often has an
operation open whenever the other has. -/
namespace SessionReplay

namespace Moment

/-- The same event, at which the second run overlaps if the first does. -/
structure Milder (one other : Moment) : Prop where
  event : one.event = other.event
  overlaps : one.reported.count .overlappingOperation ≤ other.reported.count .overlappingOperation

theorem count_overlaps_le (milder : List.Forall₂ Milder moments others) :
    (moments.flatMap Moment.reported).count .overlappingOperation ≤
      (others.flatMap Moment.reported).count .overlappingOperation := by
  induction milder with
  | nil => exact Nat.le_refl _
  | cons first rest ih =>
    rw [List.flatMap_cons, List.flatMap_cons, List.count_append, List.count_append]
    exact Nat.add_le_add first.overlaps ih

end Moment

/-- The last event that opened an operation was a message, and no heartbeat completed it. -/
def Unfinished (past : List Moment) : Prop :=
  ∃ before message between, past = before ++ message :: between ∧
    message.event.kind = .message ∧
    ∀ moment ∈ between, moment.event.kind = .heartbeat ∧ moment.flushed = false

theorem not_unfinished_nil : ¬Unfinished [] := by
  rintro ⟨before, message, between, split, -⟩
  simp at split

theorem unfinished_concat (past : List Moment) (moment : Moment) :
    Unfinished (past ++ [moment]) ↔ moment.event.kind = .message ∨
      moment.event.kind = .heartbeat ∧ moment.flushed = false ∧ Unfinished past := by
  constructor
  · rintro ⟨before, message, between, split, opened, idle⟩
    rcases List.eq_nil_or_concat between with rfl | ⟨earlier, last, rfl⟩
    · obtain ⟨-, same⟩ := List.append_inj' split rfl
      rw [List.cons.inj same |>.1]
      exact .inl opened
    · have grown : past ++ [moment] = (before ++ message :: earlier) ++ [last] := by
        simpa using split
      obtain ⟨rfl, same⟩ := List.append_inj' grown rfl
      obtain rfl := List.singleton_inj.mp same
      obtain ⟨beats, kept⟩ := idle moment (by simp)
      exact .inr ⟨beats, kept, before, message, earlier, rfl, opened,
        fun each member => idle each (by simp [member])⟩
  · rintro (opened | ⟨beats, kept, before, message, between, rfl, opened, idle⟩)
    · exact ⟨past, moment, [], rfl, opened, by simp⟩
    · refine ⟨before, message, between ++ [moment], by simp, opened, ?_⟩
      intro each member
      rcases List.mem_append.mp member with earlier | last
      · exact idle each earlier
      · rw [List.mem_singleton.mp last]
        exact ⟨beats, kept⟩

def Draws.after (draws : Draws) (event : Event) : Draws :=
  if event.opensOperation then draws.percent.2 else draws.coin.2

namespace Pace
variable {owners : Owners} {skip : UInt8} {pace : Pace}

/-- Every event takes the same from the draws, whatever comes of it. -/
theorem draws_play (pace : Pace) (entry : Event × Outcome) :
    (pace.play (.lagging skip) owners entry).draws = pace.draws.after entry.1 := by
  have settled : (pace.settle (.lagging skip)).draws = pace.draws.percent.2 := by
    unfold settle
    dsimp only
    split <;> rfl
  obtain ⟨event, outcome⟩ := entry
  cases event with
  | message event =>
    simpa [play, afterMessage, dispatch, Draws.after, Event.opensOperation] using settled
  | connect event => exact settled
  | heartbeat event =>
    simp only [play, afterHeartbeat]
    split
    · contradiction
    · split <;> rfl

theorem draws_plays (pace : Pace) (history : List (Event × Outcome)) :
    (history.foldl (play (.lagging skip) owners) pace).draws =
      (history.map Prod.fst).foldl Draws.after pace.draws := by
  induction history generalizing pace with
  | nil => rfl
  | cons entry rest ih =>
    rw [List.foldl_cons, ih, draws_play]
    rfl

/-- What was completed before an operation opens leaves none open. -/
theorem inFlight_facing (vouched : pace.standing.Vouched) {event : Event}
    (opens : event.opensOperation = true) :
    (pace.facing (.lagging skip) event).standing.inFlight =
      (pace.standing.inFlight && !(CompletionPolicy.lagging skip).flushes pace.draws event) := by
  rw [standing_facing _ _ opens]
  split
  · next flushed => rw [vouched.drain, flushed, Bool.not_true, Bool.and_false]
  · next skipped =>
    rw [Bool.not_eq_true] at skipped
    rw [skipped, Bool.not_false, Bool.and_true]

theorem vouched_heartbeat (vouched : pace.standing.Vouched) (event : Heartbeat)
    (outcome : Outcome) :
    (pace.dispatch owners (.heartbeat event) outcome).standing.Vouched := by
  intro opened
  have waiting := vouched opened
  simpa [dispatch, Standing.dispatch, Event.accepted] using waiting

/-- At a heartbeat what waits is completed, or everything stays as it is. -/
theorem standing_heartbeat (event : Heartbeat) (outcome : Outcome) :
    (pace.play (.lagging skip) owners (.heartbeat event, outcome)).standing =
      let dispatched := (pace.dispatch owners (.heartbeat event) outcome).standing
      if (CompletionPolicy.lagging skip).flushes pace.draws (.heartbeat event) then
        dispatched.drain
      else dispatched := by
  by_cases flush : pace.draws.coin.1 = true <;>
    simp [play, afterHeartbeat, CompletionPolicy.flushes, Event.opensOperation, dispatch, flush,
      drain]

/-- The operation after an event: a message opens it, a connect ends it at once, and a heartbeat
completes it or leaves it as it was. -/
theorem inFlight_play (vouched : pace.standing.Vouched) (entry : Event × Outcome) :
    (pace.play (.lagging skip) owners entry).standing.inFlight =
      match entry.1 with
      | .message _ => true
      | .connect _ => false
      | .heartbeat _ => pace.standing.inFlight &&
        !(CompletionPolicy.lagging skip).flushes pace.draws entry.1 := by
  obtain ⟨event, outcome⟩ := entry
  cases event with
  | message event => simp [play, afterMessage, dispatch, Standing.dispatch, Event.opensOperation]
  | connect event => rfl
  | heartbeat event =>
    have dispatched : (pace.dispatch owners (.heartbeat event) outcome).standing.Vouched :=
      vouched_heartbeat vouched event outcome
    have closed := dispatched.drain
    rw [standing_heartbeat]
    dsimp only
    split
    · next flushed => rw [closed, flushed, Bool.not_true, Bool.and_false]
    · next kept =>
      rw [Bool.not_eq_true] at kept
      rw [kept, Bool.not_false, Bool.and_true]
      rfl

/-- A message that is not lost vouches for the operation that it opens. -/
theorem vouched_play (vouched : pace.standing.Vouched) (entry : Event × Outcome)
    (kept : entry.1.kind = .message → entry.2 = .forwarded) :
    (pace.play (.lagging skip) owners entry).standing.Vouched := by
  obtain ⟨event, outcome⟩ := entry
  cases event with
  | message event =>
    obtain rfl : outcome = .forwarded := kept rfl
    intro opened
    simp [play, afterMessage, dispatch, Standing.dispatch, Event.accepted]
  | connect event => exact fun opened => Bool.noConfusion opened
  | heartbeat event =>
    have dispatched : (pace.dispatch owners (.heartbeat event) outcome).standing.Vouched :=
      vouched_heartbeat vouched event outcome
    rw [standing_heartbeat]
    dsimp only
    split
    · exact dispatched.complete _
    · exact dispatched

theorem vouched_plays (vouched : pace.standing.Vouched) {history : List (Event × Outcome)}
    (kept : ∀ entry ∈ history, entry.1.kind = .message → entry.2 = .forwarded) :
    (history.foldl (play (.lagging skip) owners) pace).standing.Vouched := by
  induction history generalizing pace with
  | nil => exact vouched
  | cons entry rest ih =>
    obtain ⟨now, later⟩ := List.forall_mem_cons.mp kept
    exact ih (vouched_play vouched entry now) later

/-- Nothing is open, nothing waits and nothing is left to report. -/
def resting (draws : Draws) : Pace := ⟨draws, ⟨false, [], []⟩⟩

theorem vouched_resting (draws : Draws) : (resting draws).standing.Vouched :=
  fun opened => Bool.noConfusion opened

theorem collect_drain (vouched : pace.standing.Vouched) :
    pace.drain.collect = resting pace.draws := by
  have closed := vouched.drain
  have nothing : pace.standing.drain.awaiting = [] := List.drop_length
  simp [drain, collect, resting, closed, nothing]

/-- An overlap is reported where an operation is open and its completion was skipped. -/
theorem overlaps_moment (vouched : pace.standing.Vouched) (entry : Event × Outcome) :
    (pace.moment (.lagging skip) owners entry).reported.count .overlappingOperation =
      (entry.1.opensOperation && (pace.standing.inFlight &&
        !(CompletionPolicy.lagging skip).flushes pace.draws entry.1)).toNat := by
  refine (Event.count_overlaps _ _).trans ?_
  cases opens : entry.1.opensOperation with
  | true => rw [inFlight_facing vouched opens]
  | false => rfl

/-- An operation is open just if a message is unfinished. -/
structure Tells (pace : Pace) (past : List Moment) : Prop where
  vouched : pace.standing.Vouched
  told : pace.standing.inFlight = true ↔ Unfinished past

theorem Tells.play (tells : Tells pace past) (entry : Event × Outcome)
    (kept : entry.1.kind = .message → entry.2 = .forwarded) :
    Tells (pace.play (.lagging skip) owners entry)
      (past ++ [pace.moment (.lagging skip) owners entry]) := by
  refine ⟨vouched_play tells.vouched entry kept, ?_⟩
  rw [inFlight_play tells.vouched, unfinished_concat]
  obtain ⟨event, outcome⟩ := entry
  cases event with
  | message event => exact iff_of_true rfl (.inl rfl)
  | connect event => simp [moment, Event.kind]
  | heartbeat event => simp [moment, Event.kind, tells.told, and_comm]

/-- An event that opens an operation overlaps with an unfinished message, if nothing was completed
before it. -/
theorem Tells.overlap (tells : Tells pace past) (entry : Event × Outcome)
    (opens : entry.1.opensOperation = true) :
    .overlappingOperation ∈ (pace.moment (.lagging skip) owners entry).reported ↔
      (pace.moment (.lagging skip) owners entry).flushed = false ∧ Unfinished past := by
  show _ ↔ (CompletionPolicy.lagging skip).flushes pace.draws entry.1 = false ∧ _
  rw [← List.count_pos_iff, overlaps_moment tells.vouched, opens, ← tells.told]
  cases pace.standing.inFlight <;>
    cases (CompletionPolicy.lagging skip).flushes pace.draws entry.1 <;> simp

theorem Tells.overlaps {history : List (Event × Outcome)} {before later : List Moment}
    {met : Moment} (tells : Tells pace past)
    (kept : ∀ entry ∈ history, entry.1.kind = .message → entry.2 = .forwarded)
    (split : pace.moments (.lagging skip) owners history = before ++ met :: later)
    (opens : met.event.opensOperation = true) :
    .overlappingOperation ∈ met.reported ↔ met.flushed = false ∧ Unfinished (past ++ before) := by
  induction history generalizing pace past before with
  | nil => simp [moments] at split
  | cons entry rest ih =>
    obtain ⟨now, following⟩ := List.forall_mem_cons.mp kept
    cases before with
    | nil =>
      rw [moments, List.nil_append] at split
      obtain ⟨rfl, -⟩ := List.cons.inj split
      rw [List.append_nil]
      exact tells.overlap entry opens
    | cons first before =>
      -- the moment of this event moves from the split to the past
      rw [moments, List.cons_append] at split
      obtain ⟨rfl, rest⟩ := List.cons.inj split
      have next := ih (tells.play entry now) following rest
      rwa [List.append_assoc] at next

/-- Of two consumers that draw the same, the second has an operation open whenever the first has. -/
structure Lags (few many : Pace) : Prop where
  draws : few.draws = many.draws
  vouched : few.standing.Vouched
  vouchedToo : many.standing.Vouched
  opened : few.standing.inFlight = true → many.standing.inFlight = true

section Lags
variable {less more : UInt8} {few many : Pace} (le : less ≤ more) (lags : Lags few many)
include le lags

/-- What the second consumer completes the first completes too. -/
theorem Lags.flushes (event : Event)
    (flushed : (CompletionPolicy.lagging more).flushes many.draws event = true) :
    (CompletionPolicy.lagging less).flushes few.draws event = true := by
  unfold CompletionPolicy.flushes at flushed ⊢
  rw [lags.draws]
  split at flushed
  · next opens =>
    rw [UInt8.le_iff_toNat_le] at le
    simp only [opens, if_true, Bool.not_eq_true', decide_eq_false_iff_not] at flushed ⊢
    omega
  · next quiet =>
    rw [if_neg quiet]
    simpa using flushed

/-- What stays open with the first consumer stays open with the second. -/
theorem Lags.stays (event : Event)
    (kept : (few.standing.inFlight &&
      !(CompletionPolicy.lagging less).flushes few.draws event) = true) :
    (many.standing.inFlight &&
      !(CompletionPolicy.lagging more).flushes many.draws event) = true := by
  rw [Bool.and_eq_true, Bool.not_eq_true'] at kept ⊢
  obtain ⟨before, skipped⟩ := kept
  refine ⟨lags.opened before, ?_⟩
  rw [← Bool.not_eq_true]
  intro flushed
  rw [lags.flushes le event flushed] at skipped
  contradiction

theorem Lags.play (entry : Event × Outcome)
    (kept : entry.1.kind = .message → entry.2 = .forwarded) :
    Lags (few.play (.lagging less) owners entry) (many.play (.lagging more) owners entry) := by
  refine ⟨?_, vouched_play lags.vouched entry kept, vouched_play lags.vouchedToo entry kept, ?_⟩
  · rw [draws_play, draws_play, lags.draws]
  · have stays := lags.stays le entry.1
    rw [inFlight_play lags.vouched, inFlight_play lags.vouchedToo]
    obtain ⟨event, outcome⟩ := entry
    cases event with
    | message event => exact id
    | connect event => exact id
    | heartbeat event => exact stays

theorem Lags.overlaps (entry : Event × Outcome) :
    (few.moment (.lagging less) owners entry).reported.count .overlappingOperation ≤
      (many.moment (.lagging more) owners entry).reported.count .overlappingOperation := by
  have stays := lags.stays le entry.1
  rw [overlaps_moment lags.vouched, overlaps_moment lags.vouchedToo]
  cases entry.1.opensOperation with
  | false => exact Nat.zero_le _
  | true =>
    rw [Bool.true_and, Bool.true_and]
    exact Bool.toNat_le_toNat (Bool.le_iff_imp.mpr stays)

theorem Lags.moments {history : List (Event × Outcome)}
    (kept : ∀ entry ∈ history, entry.1.kind = .message → entry.2 = .forwarded) :
    List.Forall₂ Moment.Milder (few.moments (.lagging less) owners history)
      (many.moments (.lagging more) owners history) := by
  induction history generalizing few many with
  | nil => exact .nil
  | cons entry rest ih =>
    obtain ⟨now, later⟩ := List.forall_mem_cons.mp kept
    exact .cons ⟨rfl, lags.overlaps le entry⟩ (ih (lags.play le entry now) later)

end Lags
end Pace

def AllFramed (events : List Event) : Prop :=
  ∀ event, .message event ∈ events → ∃ window, event.window = .ok window

/-- No message is refused or dropped, now or later. -/
def Move.Lossless : Move → Prop
  | .run events => AllFramed events
  | .refuseNext count => count = 0
  | .install _ | .changeShared .. => True

theorem refusalsAfter_zero (events : List Event) : refusalsAfter 0 events = 0 := by
  induction events with
  | nil => rfl
  | cons event rest ih => rwa [refusalsAfter, List.foldl_cons, event.refusalsLeft_zero]

/-- Where nothing is to be refused, framed messages are forwarded. -/
theorem forwarded_replayed {events : List Event} (framed : AllFramed events) :
    ∀ entry ∈ replayed 0 events, entry.1.kind = .message → entry.2 = .forwarded := by
  induction events with
  | nil => nofun
  | cons event rest ih =>
    rw [replayed, event.refusalsLeft_zero]
    refine List.forall_mem_cons.mpr
      ⟨?_, ih fun event member => framed event (List.mem_cons_of_mem _ member)⟩
    intro opened
    cases event with
    | message event =>
      obtain ⟨window, usable⟩ := framed event List.mem_cons_self
      exact Event.fate_of_ok usable 0
    | connect event => contradiction
    | heartbeat event => contradiction

namespace Player

theorem count_overlaps_run {course : Course} {player : Player} (follows : Follows course player)
    (events : List Event) :
    (player.run events).2.violations.count .overlappingOperation =
      ((player.moments events).flatMap Moment.reported).count .overlappingOperation := by
  rw [← follows.violations_run events]
  exact (List.count_filter rfl).symm

section Lagging
variable (config : Config) (seed : UInt64) (size : Nat) {moves : List Move}
  (lossless : ∀ move ∈ moves, move.Lossless)
include lossless

theorem refusals_lossless : ((Course.start config size).through moves).refusals = 0 := by
  induction moves using List.reverseRecOn with
  | nil => rfl
  | append_singleton moves move ih =>
    have before := ih fun move member => lossless move (List.mem_append_left _ member)
    have last := lossless move (by simp)
    rw [Course.through, List.foldl_append]
    cases move with
    | run events =>
      exact (congrArg (refusalsAfter · events) before).trans (refusalsAfter_zero events)
    | refuseNext count => exact last
    | install owners => exact before
    | changeShared register unregister => exact before

/-- Nothing but the draws is left of moves at which no message was lost, and those do not depend on
how often completions are skipped. -/
theorem pace_lossless : ∃ draws, ∀ skip : UInt8,
    ((fresh config (.lagging skip) seed size).makeAll moves).1.pace = .resting draws := by
  induction moves using List.reverseRecOn with
  | nil => exact ⟨.ofSeed seed, fun _ => rfl⟩
  | append_singleton moves move ih =>
    have earlier := fun move member => lossless move (List.mem_append_left _ member)
    have last := lossless move (by simp)
    obtain ⟨draws, reached⟩ := ih earlier
    cases move with
    | run events =>
      refine ⟨events.foldl Draws.after draws, fun skip => ?_⟩
      obtain ⟨follows, policy⟩ := follows_through config (.lagging skip) seed size moves
      have ran := follows.pace_run events
      rw [refusals_lossless config size earlier, policy, reached skip] at ran
      rw [makeAll_concat]
      refine ran.trans ?_
      -- every message that waits vouches for the open operation, so completing all of them ends it
      have kept := forwarded_replayed last
      rw [Pace.collect_drain (Pace.vouched_plays (Pace.vouched_resting draws) kept),
        Pace.draws_plays, map_fst_replayed]
      rfl
    | refuseNext | install | changeShared =>
      refine ⟨draws, fun skip => ?_⟩
      rw [makeAll_concat]
      exact reached skip

/-- The more often a consumer skips completions, the more events overlap, as long as no message is
lost. An event at which the one that skips less often reports an overlap is one at which the other
reports it too. And with either of them an event that opens an operation overlaps if and only if
completing what waits was skipped, the last event that opened an operation was a message, and no
heartbeat between them completed it. -/
theorem lag_adds_overlaps (events : List Event) (framed : AllFramed events)
    (few many : UInt8) (le : few ≤ many) :
    let player (skip : UInt8) := ((fresh config (.lagging skip) seed size).makeAll moves).1
    List.Forall₂ (fun one other => one.event = other.event ∧
        (.overlappingOperation ∈ one.reported → .overlappingOperation ∈ other.reported))
      ((player few).moments events) ((player many).moments events) ∧
    ((player few).run events).2.violations.count .overlappingOperation ≤
      ((player many).run events).2.violations.count .overlappingOperation ∧
    ∀ skip,
      ((player skip).moments events).map Moment.event = events ∧
      apartFromCompletions ((player skip).run events).2.violations =
        ((player skip).moments events).flatMap Moment.reported ∧
      ∀ past moment later, (player skip).moments events = past ++ moment :: later →
        moment.event.opensOperation = true →
        (.overlappingOperation ∈ moment.reported ↔ moment.flushed = false ∧ Unfinished past) := by
  intro player
  let course := (Course.start config size).through moves
  have follows (skip : UInt8) : Follows course (player skip) :=
    (follows_through config (.lagging skip) seed size moves).1
  obtain ⟨draws, reached⟩ := pace_lossless config seed size lossless
  have moments (skip : UInt8) : (player skip).moments events =
      (Pace.resting draws).moments (.lagging skip) course.owners (replayed 0 events) := by
    have policy := (follows_through config (.lagging skip) seed size moves).2
    have refusals : course.refusals = 0 := refusals_lossless config size lossless
    rw [(follows skip).moments_eq, refusals, reached skip]
    exact congrArg (Pace.moments · _ _ _) policy
  have kept := forwarded_replayed framed
  have closed := Pace.vouched_resting draws
  have lags : Pace.Lags (.resting draws) (.resting draws) := ⟨rfl, closed, closed, id⟩
  have tells : (Pace.resting draws).Tells [] :=
    ⟨closed, iff_of_false Bool.noConfusion not_unfinished_nil⟩
  have milder : List.Forall₂ Moment.Milder ((player few).moments events)
      ((player many).moments events) := by
    rw [moments few, moments many]
    exact lags.moments le kept
  refine ⟨?_, ?_, ?_⟩
  · refine milder.imp fun one other both => ⟨both.event, fun overlap => ?_⟩
    have counted := List.count_pos_iff.mpr overlap
    exact List.count_pos_iff.mp (Nat.lt_of_lt_of_le counted both.overlaps)
  · rw [count_overlaps_run (follows few), count_overlaps_run (follows many)]
    exact Moment.count_overlaps_le milder
  · intro skip
    refine ⟨?_, (follows skip).violations_run events, ?_⟩
    · rw [moments, Pace.map_event_moments, map_fst_replayed]
    · intro past moment later split opens
      rw [moments] at split
      exact tells.overlaps kept split opens

end Lagging

/-- Of two messages in a row the second overlaps just if the completion of the first was skipped. -/
theorem lag_between_two_messages :
    let message : MessageEvent := ⟨3, 0, 1, 0x44, List.replicate 8 0, 8, 8, 0⟩
    let events := [Event.message message, .message message]
    let moves : List Move := [.install {}, .run events]
    let player (skip : UInt8) := ((fresh {} (.lagging skip) 7 2).makeAll moves).1
    (∀ move ∈ moves, move.Lossless) ∧ AllFramed events ∧ (0 : UInt8) ≤ 100 ∧
      ((player 0).run events).2.violations.count .overlappingOperation ≤
        ((player 100).run events).2.violations.count .overlappingOperation ∧
      ∃ first second, (player 100).moments events = [first, second] ∧
        (.overlappingOperation ∈ second.reported ↔ second.flushed = false) := by
  intro message events moves player
  have framed : AllFramed events := by
    intro event member
    have same : event = message := by simpa [events] using member
    rw [same]
    exact ⟨⟨0, 8, 0, 8⟩, by decide⟩
  have lossless : ∀ move ∈ moves, move.Lossless := by
    intro move member
    rcases List.mem_cons.mp member with rfl | later
    · trivial
    · rw [List.mem_singleton.mp later]
      exact framed
  obtain ⟨-, count, each⟩ :=
    lag_adds_overlaps {} 7 2 lossless events framed 0 100 (by decide)
  refine ⟨lossless, framed, by decide, count, ?_⟩
  obtain ⟨same, -, overlaps⟩ := each 100
  obtain ⟨first, rest, split, opened, more⟩ := List.map_eq_cons_iff.mp same
  obtain ⟨second, rfl, opens⟩ := List.map_eq_singleton_iff.mp more
  refine ⟨first, second, split, ?_⟩
  rw [overlaps [first] second [] split (by rw [opens]; rfl)]
  have unfinished := (unfinished_concat [] first).mpr (.inl (by rw [opened]; rfl))
  exact and_iff_left unfinished

end Player
end SessionReplay
