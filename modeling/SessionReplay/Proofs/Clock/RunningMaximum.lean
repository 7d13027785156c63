import SessionReplay.Proofs.Clock.Latest
import SessionReplay.Proofs.Clock.Offers

/-! Clocks that are reached through many handles and moved by many hands. Each reads the latest of
what it began with and of all stamps that were offered to it, no matter through which handle, by
which dispatcher and in which order. -/
namespace SessionReplay
namespace Timekeeping
variable {τ : Type}

/-- The clocks that there are and those that uses begin, each as it was first. -/
def begun (keeping : Timekeeping τ) (uses : List (ClockUse τ)) : List Clock :=
  keeping.cells ++ uses.filterMap ClockUse.begun?

theorem begun_cons (keeping : Timekeeping τ) (use : ClockUse τ) (rest : List (ClockUse τ)) :
    keeping.begun (use :: rest) =
      keeping.cells ++ (use.begun?.toList ++ rest.filterMap ClockUse.begun?) := by
  cases begun : use.begun? <;> simp [Timekeeping.begun, begun]

/-- Every dispatcher holds a handle that is there. -/
def Held (keeping : Timekeeping τ) : Prop :=
  ∀ kept ∈ keeping.dispatchers, ∃ cell, keeping.cell? kept.1 = some cell

theorem held_startingAt (initial : Word) : (startingAt initial : Timekeeping τ).Held :=
  fun _ member => nomatch member

/-- A view reads whole milliseconds of what its handle reads. -/
theorem millis_eq (keeping : Timekeeping τ) :
    keeping.bench.millis.map UInt64.toNat =
      (keeping.bench.views.filterMap keeping.now?).map (·.toNat / 1000000) := by
  rw [ClockBench.millis, List.map_filterMap, List.map_filterMap]
  refine congrFun (congrArg _ (funext fun handle => ?_)) _
  rw [Option.map_map, now?, Option.map_map]
  rfl

variable [Transport τ] {keeping : Timekeeping τ} {handle cell : Nat}

def offered (keeping : Timekeeping τ) (cell : Nat) : List (ClockUse τ) → List Word
  | [] => []
  | use :: rest => keeping.offeredBy cell use ++ (keeping.perform use).1.offered cell rest

/-- What the clock of a cell was shown: what it began with, and then what uses offered. -/
def shown? (keeping : Timekeeping τ) (cell : Nat) (uses : List (ClockUse τ)) :
    Option (List Word) :=
  (keeping.begun uses)[cell]?.map (·.now :: keeping.offered cell uses)

def madeFor (keeping : Timekeeping τ) (cell : Nat) : List (ClockUse τ) → List LogRecord
  | [] => []
  | use :: rest =>
    (if (keeping.offer? use).any (·.1 = cell) then keeping.made use else []) ++
      (keeping.perform use).1.madeFor cell rest

/-- How a handle serves that reaches a cell whose clock reads `now`. -/
structure Serves (keeping : Timekeeping τ) (handle cell : Nat) (now : Word) : Prop where
  reads : keeping.now? handle = some now
  /-- A stamp that is offered through it goes to the cell, and it answers what it read before. -/
  answers : ∀ stamp, keeping.offer? (.direct (.advance handle stamp)) = some (cell, stamp) ∧
    (keeping.perform (.direct (.advance handle stamp))).2 = some now
  /-- What is done to the clocks of other cells is nothing to it. -/
  apart : ∀ use, (∀ stamp, keeping.offer? use ≠ some (cell, stamp)) →
    (keeping.perform use).1.now? handle = some now
  /-- A clone of it reaches the same cell, and so does the handle of a dispatcher built on it. -/
  cloned : (keeping.perform (.direct (.clone handle))).1.cell? keeping.handles = some cell ∧
    ∀ transport channel config,
      let next := (keeping.perform (.attach handle transport channel config)).1
      next.holder? keeping.dispatchers.length = some keeping.handles ∧
        next.cell? keeping.handles = some cell
  /-- It stays with its cell, and what it reads never decreases. -/
  onward : ∀ more, (keeping.after more).cell? handle = some cell ∧
    ∃ later, (keeping.after more).now? handle = some later ∧ now ≤ later
  /-- Offers have the same effect in any order. -/
  unordered : ∀ more shuffled, shuffled.Perm more → (∀ use ∈ more, use.offers = true) →
    (keeping.after shuffled).now? handle = (keeping.after more).now? handle

section Steps
variable {use : ClockUse τ}

/-- A clock that is there advances to what it is offered, and one that is begun later does not see
it. -/
theorem begun_perform (use : ClockUse τ) (rest : List (ClockUse τ)) (cell : Nat) :
    ((keeping.perform use).1.begun rest)[cell]? =
      (keeping.begun (use :: rest))[cell]?.map (·.offered (keeping.offeredBy cell use)) := by
  rw [begun_cons, begun]
  cases offered : keeping.offer? use with
  | none =>
    rw [(perform_of_none offered).1, offeredBy_of_none offered, List.append_assoc]
    exact Option.map_id'.symm
  | some offer =>
    obtain ⟨target, stamp⟩ := offer
    obtain ⟨handle, reached, kind⟩ := exists_of_offer? offered
    obtain ⟨clock, kept, -⟩ := exists_of_cell? reached
    have inside := (List.getElem?_eq_some_iff.mp kept).1
    have none : use.begun? = none := by
      obtain rfl | ⟨index, event, dispatcher, rfl, -⟩ := kind <;> rfl
    rw [cells_perform_of_some offered, none, offeredBy_of_some offered, Option.toList_none,
      List.nil_append, List.getElem?_append, List.getElem?_append, List.length_modify,
      List.getElem?_modify]
    by_cases here : target = cell
    · subst here
      simp [inside, Clock.offered]
    · simp [here, Clock.offered]

/-- What a use has logged for a clock is what the clock tells of the stamp offered by it. -/
theorem made_for_cell (timeless : Transport.Timeless τ)
    (began : (keeping.begun (use :: rest))[cell]? = some clock) :
    (if (keeping.offer? use).any (·.1 = cell) then keeping.made use else []) =
      clock.told (keeping.offeredBy cell use) := by
  cases offered : keeping.offer? use with
  | none =>
    rw [offeredBy_of_none offered]
    rfl
  | some offer =>
    obtain ⟨target, stamp⟩ := offer
    rw [offeredBy_of_some offered, Option.any_some]
    by_cases here : target = cell
    · subst here
      obtain ⟨handle, reached, -⟩ := exists_of_offer? offered
      obtain ⟨found, kept, -⟩ := exists_of_cell? reached
      rw [begun, List.getElem?_append_left (List.getElem?_eq_some_iff.mp kept).1, kept] at began
      cases began
      simp [made_of_some timeless offered kept, Clock.told]
    · simp [here, Clock.told]

theorem Held.perform (held : keeping.Held) (use : ClockUse τ) :
    (keeping.perform use).1.Held := by
  intro kept member
  have onward (old : kept ∈ keeping.dispatchers) :
      ∃ cell, (keeping.perform use).1.cell? kept.1 = some cell := by
    obtain ⟨cell, reached⟩ := held kept old
    exact ⟨cell, cell?_perform reached use⟩
  cases use with
  | direct action => exact onward member
  | attach handle transport channel config =>
    cases reached : keeping.cell? handle with
    | none =>
      simp only [Timekeeping.perform, attach, clock?_eq_none reached] at member
      exact onward member
    | some cell =>
      obtain ⟨clock, -, found⟩ := exists_of_cell? reached
      rw [perform_attach found] at member
      rcases List.mem_append.mp member with old | new
      · exact onward old
      · cases List.mem_singleton.mp new
        exact ⟨cell, (attached reached transport channel config).2⟩
  | dispatch index event =>
    have same := (@perform_of_offers _ keeping (.dispatch index event) _ rfl).2
    have old : kept.1 ∈ keeping.dispatchers.map Prod.fst :=
      same ▸ List.mem_map_of_mem member
    obtain ⟨other, standing, same⟩ := List.mem_map.mp old
    obtain ⟨cell, reached⟩ := held other standing
    exact ⟨cell, cell?_perform (same ▸ reached) _⟩

end Steps

section Runs

theorem getElem?_after (uses : List (ClockUse τ)) (cell : Nat) :
    (keeping.after uses).cells[cell]? =
      (keeping.begun uses)[cell]?.map (·.offered (keeping.offered cell uses)) := by
  induction uses generalizing keeping with
  | nil =>
    rw [begun, List.filterMap_nil, List.append_nil]
    exact Option.map_id'.symm
  | cons use rest ih =>
    rw [after, ih, begun_perform, Option.map_map]
    refine congrFun (congrArg _ (funext fun clock => ?_)) _
    exact (Clock.offered_append ..).symm

theorem cell?_after (reached : keeping.cell? handle = some cell) (uses : List (ClockUse τ)) :
    (keeping.after uses).cell? handle = some cell := by
  induction uses generalizing keeping with
  | nil => exact reached
  | cons use rest ih => exact ih (cell?_perform reached use)

theorem Held.after (held : keeping.Held) (uses : List (ClockUse τ)) :
    (keeping.after uses).Held := by
  induction uses generalizing keeping with
  | nil => exact held
  | cons use rest ih => exact ih (held.perform use)

/-- What becomes of a clock through which a handle reads. -/
theorem clock?_after (reached : keeping.cell? handle = some cell)
    (found : keeping.clock? handle = some clock) (uses : List (ClockUse τ)) :
    (keeping.after uses).clock? handle = some (clock.offered (keeping.offered cell uses)) := by
  obtain ⟨first, began, read⟩ := exists_of_cell? reached
  cases found.symm.trans read
  obtain ⟨last, kept, readThen⟩ := exists_of_cell? (cell?_after reached uses)
  rw [getElem?_after, begun, List.getElem?_append_left (List.getElem?_eq_some_iff.mp began).1,
    began] at kept
  cases kept
  exact readThen

/-- A handle reads the latest that its clock was shown. -/
theorem now?_after (uses : List (ClockUse τ))
    (reached : (keeping.after uses).cell? handle = some cell) :
    ∃ shown now, keeping.shown? cell uses = some shown ∧
      (keeping.after uses).now? handle = some now ∧ Clock.IsLatest now shown := by
  obtain ⟨clock, kept, found⟩ := exists_of_cell? reached
  rw [getElem?_after] at kept
  obtain ⟨first, began, rfl⟩ := Option.map_eq_some_iff.mp kept
  refine ⟨_, _, congrArg (Option.map _) began, congrArg (Option.map _) found, ?_⟩
  exact first.isLatest_offered _

theorem madeFor_eq (timeless : Transport.Timeless τ) (uses : List (ClockUse τ))
    (began : (keeping.begun uses)[cell]? = some clock) :
    keeping.madeFor cell uses = clock.told (keeping.offered cell uses) := by
  induction uses generalizing keeping clock with
  | nil => rfl
  | cons use rest ih =>
    have onward : ((keeping.perform use).1.begun rest)[cell]? =
        some (clock.offered (keeping.offeredBy cell use)) := by
      rw [begun_perform, began, Option.map_some]
    rw [madeFor, made_for_cell timeless began, ih onward, offered, Clock.told_append]

/-- Nothing but offers: who offers which stamp to which cell is settled from the beginning. -/
theorem offered_of_offers (uses : List (ClockUse τ)) (offers : ∀ use ∈ uses, use.offers = true)
    (cell : Nat) : keeping.offered cell uses = uses.flatMap (keeping.offeredBy cell) := by
  induction uses generalizing keeping with
  | nil => rfl
  | cons use rest ih =>
    obtain ⟨offer, later⟩ := List.forall_mem_cons.mp offers
    obtain ⟨cells, holders⟩ := @perform_of_offers _ keeping use _ offer
    have same : (keeping.perform use).1.offeredBy cell = keeping.offeredBy cell := by
      funext other
      rw [offeredBy, offer?_congr cells holders, offeredBy]
    rw [offered, ih later, same, List.flatMap_cons]

theorem serves (reached : keeping.cell? handle = some cell)
    (found : keeping.clock? handle = some clock) : keeping.Serves handle cell clock.now where
  reads := congrArg (Option.map _) found
  answers stamp := by
    refine ⟨congrArg (Option.map _) reached, ?_⟩
    rw [perform_advance found]
  apart use other := by
    have none : keeping.offered cell [use] = [] := by
      rw [offered, offered, List.append_nil, offeredBy_of_elsewhere other]
    have read := clock?_after reached found [use]
    rw [none] at read
    exact congrArg (Option.map _) read
  cloned := ⟨cell?_clone reached, attached reached⟩
  onward more := by
    refine ⟨cell?_after reached more, _, congrArg (Option.map _) (clock?_after reached found more),
      clock.le_offered _⟩
  unordered more shuffled perm offers := by
    have offersToo : ∀ use ∈ shuffled, use.offers = true :=
      fun use member => offers use (perm.mem_iff.mp member)
    have same : (keeping.offered cell shuffled).Perm (keeping.offered cell more) := by
      rw [offered_of_offers shuffled offersToo, offered_of_offers more offers]
      exact perm.flatMap_right _
    rw [now?, clock?_after reached found, now?, clock?_after reached found]
    exact congrArg some ((clock.isLatest_offered _).eq_of_perm (clock.isLatest_offered _)
      (same.cons _))

end Runs

/-- A clock is a running maximum that all its handles share. A handle reads the latest of what its
clock began with and of the stamps that were offered to that clock since, directly or by
dispatchers, in whatever order; views read its whole milliseconds. Of each offer one record is made,
and each record of a clock begins where the one before it ended. -/
theorem shared_running_maximum (initial : Word) (uses : List (ClockUse τ)) :
    let start : Timekeeping τ := .startingAt initial
    let keeping := start.after uses
    (∀ handle cell, keeping.cell? handle = some cell →
      ∃ shown now, start.shown? cell uses = some shown ∧ Clock.IsLatest now shown ∧
        keeping.Serves handle cell now ∧
        ∀ otherInitial others otherHandle otherCell shuffled,
          let other : Timekeeping τ := .startingAt otherInitial
          (other.after others).cell? otherHandle = some otherCell →
          other.shown? otherCell others = some shuffled → shuffled.Perm shown →
          (other.after others).now? otherHandle = some now) ∧
    (∀ index handle, keeping.holder? index = some handle →
      ∃ cell, keeping.cell? handle = some cell ∧
        ∀ event, keeping.offer? (.dispatch index event) = some (cell, event.timestamp)) ∧
    (∀ first,
      let next := (keeping.perform (.direct (.fresh first))).1
      next.cell? keeping.handles = some keeping.cells.length ∧
        next.now? keeping.handles = some first) ∧
    keeping.bench.millis.map UInt64.toNat =
      (keeping.bench.views.filterMap keeping.now?).map (·.toNat / 1000000) ∧
    (∀ use, keeping.offer? use = none → keeping.made use = []) ∧
    (Transport.Timeless τ → ∀ cell clock, (start.begun uses)[cell]? = some clock →
      let stamps := start.offered cell uses
      let records := start.madeFor cell uses
      records.IsChain LogRecord.Precedes ∧ records.length = stamps.length ∧
        ∀ earlier stamp later, stamps = earlier ++ stamp :: later →
          ∃ old, records[earlier.length]? = some (.clockAdvanced old stamp) ∧
            Clock.IsLatest old (clock.now :: earlier) ∧
            (LogRecord.clockAdvanced old stamp).fields = [("old", toString old),
              ("new", toString stamp), ("back", toString (decide (stamp < old)))]) := by
  intro start keeping
  refine ⟨?_, ?_, fresh_perform, keeping.millis_eq, fun use none => made_of_none none, ?_⟩
  · intro handle cell reached
    obtain ⟨shown, now, sum, read, latest⟩ := now?_after uses reached
    obtain ⟨clock, found, rfl⟩ := Option.map_eq_some_iff.mp read
    refine ⟨shown, clock.now, sum, latest, serves reached found, ?_⟩
    intro otherInitial others otherHandle otherCell shuffled other reachedToo sumToo perm
    obtain ⟨shown', now', same, read', latest'⟩ := now?_after others reachedToo
    cases sumToo.symm.trans same
    rw [read', latest.eq_of_perm latest' perm]
  · intro index handle holding
    obtain ⟨⟨holder, dispatcher⟩, standing, rfl⟩ := Option.map_eq_some_iff.mp holding
    obtain ⟨cell, reached⟩ :=
      (held_startingAt initial).after uses _ (List.mem_of_getElem? standing)
    refine ⟨cell, reached, fun event => ?_⟩
    rw [offer?, holding, Option.bind_some, reached, Option.map_some]
  · intro timeless cell clock began stamps records
    have told : records = clock.told stamps := madeFor_eq timeless uses began
    rw [told]
    refine ⟨clock.isChain_told stamps, clock.length_told stamps, ?_⟩
    intro earlier stamp later made
    exact ⟨_, clock.getElem?_told made, clock.isLatest_offered earlier, rfl⟩

/-- A dispatcher on a clone, and a clock of its own beside it. The heartbeat moves the first clock
for all its handles, and the stamp from before it does nothing. -/
theorem shared_running_maximum_of_dispatcher :
    let uses : List (ClockUse Simulated) := [.attach 0 {} .silent {}, .direct (.fresh 7),
      .dispatch 0 (.heartbeat { timestamp := 2000000, owner := 0 }), .direct (.viewMillis 0),
      .direct (.advance 0 3)]
    let start : Timekeeping Simulated := .startingAt 5
    let keeping := start.after uses
    (∃ now, Clock.IsLatest now [5, 2000000, 3] ∧ keeping.Serves 0 0 now ∧
      keeping.bench.millis.map UInt64.toNat = [2]) ∧
      (∃ now, Clock.IsLatest now [7] ∧ keeping.Serves 2 1 now) ∧
      (start.madeFor 0 uses).IsChain LogRecord.Precedes ∧ (start.madeFor 0 uses).length = 2 := by
  intro uses start keeping
  obtain ⟨reads, -, -, views, -, records⟩ := @shared_running_maximum Simulated _ 5 uses
  obtain ⟨shown, now, sum, latest, serves, -⟩ := reads 0 0 rfl
  obtain ⟨shownToo, nowToo, sumToo, latestToo, servesToo, -⟩ := reads 2 1 rfl
  obtain ⟨chain, length, -⟩ := records Simulated.timeless 0 ⟨5⟩ rfl
  cases sum
  cases sumToo
  exact ⟨⟨now, latest, serves, views.trans (by decide)⟩, ⟨nowToo, latestToo, servesToo⟩, chain,
    length⟩

end Timekeeping
end SessionReplay
