import SessionReplay.Clock.Timekeeping
import SessionReplay.Proofs.Clock.Records
import SessionReplay.Proofs.Shared.Cells

/-! What one use of clocks does that are reached through many handles. It offers a stamp to the
clock in at most one cell; that clock advances and says so, and all the others stay as they are. -/
namespace SessionReplay
namespace ClockUse
variable {τ : Type}

def begun? : ClockUse τ → Option Clock
  | direct (.fresh start) => some ⟨start⟩
  | _ => none

/-- The use does nothing but offer a stamp. -/
def offers : ClockUse τ → Bool
  | direct (.advance ..) | dispatch .. => true
  | _ => false

end ClockUse

namespace Timekeeping
variable {τ : Type}

/-- Every clock, at the cell that it is kept in. -/
def cells (keeping : Timekeeping τ) : List Clock := keeping.bench.clocks.cells

def cell? (keeping : Timekeeping τ) (handle : Nat) : Option Nat :=
  keeping.bench.clocks.cellOf[handle]?

/-- How many handles there are, which is the number of the next one. -/
def handles (keeping : Timekeeping τ) : Nat := keeping.bench.clocks.cellOf.length

def now? (keeping : Timekeeping τ) (handle : Nat) : Option Word :=
  (keeping.clock? handle).map Clock.now

def holder? (keeping : Timekeeping τ) (index : Nat) : Option Nat :=
  keeping.dispatchers[index]?.map Prod.fst

/-- The cell to which a use offers a stamp, and the stamp. -/
def offer? (keeping : Timekeeping τ) : ClockUse τ → Option (Nat × Word)
  | .direct (.advance handle stamp) => (keeping.cell? handle).map (·, stamp)
  | .dispatch index event =>
    ((keeping.holder? index).bind keeping.cell?).map (·, event.timestamp)
  | _ => none

def offeredBy (keeping : Timekeeping τ) (cell : Nat) (use : ClockUse τ) : List Word :=
  match keeping.offer? use with
  | none => []
  | some (target, stamp) => if target = cell then [stamp] else []

/-- The records that a use makes in a clock's name. -/
def made [Transport τ] (keeping : Timekeeping τ) (use : ClockUse τ) : List LogRecord :=
  ((keeping.perform use).1.bench.records.toList.drop keeping.bench.records.size).filter
    LogRecord.isClock

section Steps
variable {keeping : Timekeeping τ} {handle cell : Nat} {stamp : Word} {clock : Clock}
  {use : ClockUse τ}

/-- A handle reads the clock of the cell that it reaches. -/
theorem exists_of_cell? (reached : keeping.cell? handle = some cell) :
    ∃ clock, keeping.cells[cell]? = some clock ∧ keeping.clock? handle = some clock :=
  Shared.exists_of_cellOf reached

theorem clock?_eq_none (unknown : keeping.cell? handle = none) : keeping.clock? handle = none :=
  Shared.get?_eq_none unknown

/-- Stamps are offered directly through a handle, or by a dispatcher through the one it holds. -/
theorem exists_of_offer? (offered : keeping.offer? use = some (cell, stamp)) :
    ∃ handle, keeping.cell? handle = some cell ∧ (use = .direct (.advance handle stamp) ∨
      ∃ index event dispatcher, use = .dispatch index event ∧ event.timestamp = stamp ∧
        keeping.dispatchers[index]? = some (handle, dispatcher)) := by
  cases use with
  | direct action =>
    cases action with
    | advance handle candidate =>
      obtain ⟨target, reached, same⟩ := Option.map_eq_some_iff.mp offered
      cases same
      exact ⟨handle, reached, .inl rfl⟩
    | clone handle => contradiction
    | fresh start => contradiction
    | viewMillis handle => contradiction
  | attach handle transport channel config => contradiction
  | dispatch index event =>
    obtain ⟨target, holding, same⟩ := Option.map_eq_some_iff.mp offered
    obtain ⟨handle, held, reached⟩ := Option.bind_eq_some_iff.mp holding
    obtain ⟨⟨handle, dispatcher⟩, standing, rfl⟩ := Option.map_eq_some_iff.mp held
    cases same
    exact ⟨handle, reached, .inr ⟨index, event, dispatcher, rfl, rfl, standing⟩⟩

theorem offeredBy_of_some (offered : keeping.offer? use = some (target, stamp)) (cell : Nat) :
    keeping.offeredBy cell use = if target = cell then [stamp] else [] := by
  rw [offeredBy, offered]

theorem offeredBy_of_elsewhere (elsewhere : ∀ stamp, keeping.offer? use ≠ some (cell, stamp)) :
    keeping.offeredBy cell use = [] := by
  unfold offeredBy
  split
  · rfl
  · next target stamp offered =>
    exact if_neg fun same => elsewhere stamp (offered.trans (by rw [same]))

theorem offeredBy_of_none (none : keeping.offer? use = none) (cell : Nat) :
    keeping.offeredBy cell use = [] :=
  offeredBy_of_elsewhere (by simp [none])

/-- What is offered depends on who holds which handle for which cell. -/
theorem offer?_congr {other : Timekeeping τ}
    (cells : other.bench.clocks.cellOf = keeping.bench.clocks.cellOf)
    (holders : other.dispatchers.map Prod.fst = keeping.dispatchers.map Prod.fst)
    (use : ClockUse τ) : other.offer? use = keeping.offer? use := by
  have reached (handle : Nat) : other.cell? handle = keeping.cell? handle := by
    rw [cell?, cells, cell?]
  have held (index : Nat) : other.holder? index = keeping.holder? index := by
    rw [holder?, ← List.getElem?_map, holders, List.getElem?_map, holder?]
  cases use with
  | direct action => cases action <;> simp only [offer?, reached]
  | attach handle transport channel config => rfl
  | dispatch index event => simp only [offer?, held, funext reached]

variable [Transport τ]

theorem perform_advance (found : keeping.clock? handle = some clock) (stamp : Word) :
    keeping.perform (.direct (.advance handle stamp)) =
      ({ keeping with bench := { keeping.bench with
          clocks := keeping.bench.clocks.modify handle (·.advance stamp)
          records := keeping.bench.records.push (.clockAdvanced clock.now stamp) } },
        some clock.now) := by
  have read : keeping.bench.clocks.get? handle = some clock := found
  simp only [perform, ClockBench.perform, ClockBench.advance, read]

theorem perform_dispatch {dispatcher : Dispatcher τ}
    (standing : keeping.dispatchers[index]? = some (handle, dispatcher))
    (found : keeping.clock? handle = some clock) (event : Event) :
    let next := ({ dispatcher with clock }.dispatch event).1
    keeping.perform (.dispatch index event) =
      ({ bench := { keeping.bench with
           clocks := keeping.bench.clocks.modify handle fun _ => clock.advance event.timestamp
           records := keeping.bench.records ++
             next.trail.records.extract dispatcher.trail.records.size }
         dispatchers := keeping.dispatchers.set index (handle, next) }, none) := by
  simp only [perform, dispatch, standing, found, Dispatcher.clock_dispatch]

/-- Where no stamp is offered, clocks stay as they are and log nothing. At most one is begun. -/
theorem perform_of_none (none : keeping.offer? use = none) :
    (keeping.perform use).1.cells = keeping.cells ++ use.begun?.toList ∧
      (keeping.perform use).1.bench.records = keeping.bench.records := by
  cases use with
  | direct action =>
    cases action with
    | advance handle stamp =>
      have unknown : keeping.bench.clocks.get? handle = .none :=
        clock?_eq_none (Option.map_eq_none_iff.mp none)
      simp [cells, perform, ClockBench.perform, ClockBench.advance, unknown, ClockUse.begun?]
    | clone handle => exact ⟨(Shared.cells_clone ..).trans (List.append_nil _).symm, rfl⟩
    | fresh start => exact ⟨rfl, rfl⟩
    | viewMillis handle => exact ⟨(List.append_nil _).symm, rfl⟩
  | attach handle transport channel config =>
    cases read : keeping.clock? handle with
    | none => simp [cells, perform, attach, read, ClockUse.begun?]
    | some clock => simp [cells, perform, attach, read, Shared.cells_clone, ClockUse.begun?]
  | dispatch index event =>
    have still : keeping.dispatch index event = keeping := by
      unfold dispatch
      cases standing : keeping.dispatchers[index]? with
      | none => rfl
      | some kept =>
        obtain ⟨handle, dispatcher⟩ := kept
        cases reached : keeping.cell? handle with
        | none => simp only [clock?_eq_none reached]
        | some cell => simp [offer?, holder?, standing, reached] at none
    simp [cells, perform, still, ClockUse.begun?]

/-- A clock that is offered a stamp advances to it, and the other clocks stay as they are. -/
theorem cells_perform_of_some (offered : keeping.offer? use = some (cell, stamp)) :
    (keeping.perform use).1.cells = keeping.cells.modify cell (·.advance stamp) := by
  obtain ⟨handle, reached, rfl | ⟨index, event, dispatcher, rfl, rfl, standing⟩⟩ :=
    exists_of_offer? offered
  all_goals obtain ⟨clock, -, found⟩ := exists_of_cell? reached
  · rw [perform_advance found]
    exact Shared.cells_modify reached _
  · rw [perform_dispatch standing found]
    refine (Shared.modify_congr found ?_).trans (Shared.cells_modify reached (·.advance _))
    rfl

/-- One record is made of an offer: what the clock read before, and the stamp. -/
theorem made_of_some (timeless : Transport.Timeless τ)
    (offered : keeping.offer? use = some (cell, stamp)) (kept : keeping.cells[cell]? = some clock) :
    keeping.made use = [.clockAdvanced clock.now stamp] := by
  obtain ⟨handle, reached, rfl | ⟨index, event, dispatcher, rfl, rfl, standing⟩⟩ :=
    exists_of_offer? offered
  all_goals
    obtain ⟨other, keptToo, found⟩ := exists_of_cell? reached
    cases kept.symm.trans keptToo
  · rw [made, perform_advance found, Array.toList_push, ← Array.length_toList, List.drop_left]
    rfl
  · rw [made, perform_dispatch standing found, Array.toList_append, ← Array.length_toList,
      List.drop_left]
    exact (Dispatcher.logs_dispatch { dispatcher with clock } timeless event).extract

theorem made_of_none (none : keeping.offer? use = none) : keeping.made use = [] := by
  rw [made, (perform_of_none none).2, ← Array.length_toList, List.drop_length]
  rfl

/-- Handles stay with their cells, whatever is done. -/
theorem cell?_perform (reached : keeping.cell? handle = some cell) (use : ClockUse τ) :
    (keeping.perform use).1.cell? handle = some cell := by
  have modified (other : Nat) (change : Clock → Clock) :
      (keeping.bench.clocks.modify other change).cellOf[handle]? = some cell := by
    rw [Shared.cellOf_modify]
    exact reached
  have cloned (other : Nat) : (keeping.bench.clocks.clone other).cellOf[handle]? = some cell :=
    Shared.cellOf_clone_of_reached reached other
  cases use with
  | direct action =>
    cases action with
    | advance other stamp =>
      cases read : keeping.clock? other with
      | none =>
        have unknown : keeping.bench.clocks.get? other = none := read
        simp only [perform, ClockBench.perform, ClockBench.advance, unknown]
        exact reached
      | some clock =>
        rw [perform_advance read]
        exact modified ..
    | clone other => exact cloned other
    | fresh start => exact Shared.cellOf_append reached _
    | viewMillis other => exact reached
  | attach other transport channel config =>
    cases read : keeping.clock? other with
    | none => simp only [perform, attach, read, reached]
    | some clock =>
      simp only [perform, attach, read]
      exact cloned other
  | dispatch index event =>
    cases standing : keeping.dispatchers[index]? with
    | none => simp only [perform, dispatch, standing, reached]
    | some kept =>
      obtain ⟨other, dispatcher⟩ := kept
      cases read : keeping.clock? other with
      | none => simp only [perform, dispatch, standing, read, reached]
      | some clock =>
        rw [perform_dispatch standing read]
        exact modified ..

/-- The new handle reaches the cell of the one that it was made of. -/
theorem cell?_clone (reached : keeping.cell? handle = some cell) :
    (keeping.perform (.direct (.clone handle))).1.cell? keeping.handles = some cell :=
  Shared.cellOf_clone_new reached

/-- A clock of its own has a cell of its own, which the new handle reaches. -/
theorem fresh_perform (first : Word) :
    let next := (keeping.perform (.direct (.fresh first))).1
    next.cell? keeping.handles = some keeping.cells.length ∧
      next.now? keeping.handles = some first := by
  constructor
  · exact List.getElem?_concat_length
  · exact congrArg (Option.map Clock.now) (Shared.get?_fresh ..)

theorem perform_attach (found : keeping.clock? handle = some clock) (transport : τ)
    (channel : ErrorChannel) (config : Config) :
    (keeping.perform (.attach handle transport channel config)).1 =
      { (keeping.perform (.direct (.clone handle))).1 with
        dispatchers := keeping.dispatchers ++
          [(keeping.handles, .withClock transport clock channel config)] } := by
  simp only [perform, attach, found, ClockBench.perform, handles]

/-- A dispatcher that is built on a clock holds a handle that reaches its cell. -/
theorem attached (reached : keeping.cell? handle = some cell) (transport : τ)
    (channel : ErrorChannel) (config : Config) :
    let next := (keeping.perform (.attach handle transport channel config)).1
    next.holder? keeping.dispatchers.length = some keeping.handles ∧
      next.cell? keeping.handles = some cell := by
  obtain ⟨clock, -, found⟩ := exists_of_cell? reached
  intro next
  have built : next = _ := perform_attach found transport channel config
  rw [built]
  constructor
  · rw [holder?, List.getElem?_concat_length]
    rfl
  · exact cell?_clone reached

/-- An offer makes no handle and no dispatcher. -/
theorem perform_of_offers (offers : use.offers = true) :
    (keeping.perform use).1.bench.clocks.cellOf = keeping.bench.clocks.cellOf ∧
      (keeping.perform use).1.dispatchers.map Prod.fst = keeping.dispatchers.map Prod.fst := by
  cases use with
  | direct action =>
    cases action with
    | advance handle stamp =>
      cases read : keeping.clock? handle with
      | none =>
        have unknown : keeping.bench.clocks.get? handle = none := read
        simp only [perform, ClockBench.perform, ClockBench.advance, unknown, and_self]
      | some clock =>
        rw [perform_advance read]
        exact ⟨Shared.cellOf_modify .., rfl⟩
    | clone handle => contradiction
    | fresh start => contradiction
    | viewMillis handle => contradiction
  | attach handle transport channel config => contradiction
  | dispatch index event =>
    cases standing : keeping.dispatchers[index]? with
    | none => simp only [perform, dispatch, standing, and_self]
    | some kept =>
      obtain ⟨handle, dispatcher⟩ := kept
      cases read : keeping.clock? handle with
      | none => simp only [perform, dispatch, standing, read, and_self]
      | some clock =>
        rw [perform_dispatch standing read]
        refine ⟨Shared.cellOf_modify .., ?_⟩
        have held : (keeping.dispatchers.map Prod.fst)[index]? = some handle := by
          rw [List.getElem?_map, standing, Option.map_some]
        obtain ⟨inside, same⟩ := List.getElem?_eq_some_iff.mp held
        rw [List.map_set]
        exact same ▸ List.set_getElem_self inside

end Steps
end Timekeeping
end SessionReplay
