import Mathlib.Data.List.Induction
import SessionReplay.Proofs.Owner.Lookup

/-! Whether the two directions of a table of owners agree. The index never names an
owner that does not list the connection. Conversely a listed connection is held by
the owner that lists it, exactly as long as registrations bring no connection that
somebody holds already: such a registration takes over the index entry and leaves
the list of the former holder as it was. -/
namespace SessionReplay

namespace OwnerTable

/-- The holder of a connection lists it. -/
def Grounded (table : OwnerTable) : Prop :=
  ∀ owner connection, table.holder? connection = some owner → table.Lists owner connection

/-- Lists and index agree: a listed connection is held by the owner that lists it,
so no connection is listed twice. -/
structure InStep (table : OwnerTable) : Prop where
  held : ∀ owner connection, table.Lists owner connection →
    table.holder? connection = some owner
  alone : ∀ owner other connection, table.Lists owner connection →
    table.Lists other connection → owner = other

theorem InStep.of_held {table : OwnerTable}
    (held : ∀ owner connection, table.Lists owner connection →
      table.holder? connection = some owner) : table.InStep where
  held := held
  alone owner other connection listed listedToo :=
    Option.some.inj ((held owner connection listed).symm.trans (held other connection listedToo))

/-- The connections that a change brings into the table from outside, if the table
lets it, are held by nobody. -/
def BringsFree (table : OwnerTable) : OwnerChange → Prop
  | .register info => table.contains info.owner = false →
      ∀ connection ∈ info.connections, table.holder? connection = none
  | _ => True

section Register
variable {table : OwnerTable} {info : OwnerInfo}

theorem Grounded.register (grounded : table.Grounded) : (table.register info).1.Grounded := by
  cases live : table.contains info.owner with
  | true => rwa [register_of_live live]
  | false =>
    intro owner connection holds
    rw [holder?_register live] at holds
    rw [lists_register live]
    split at holds
    · next brought => exact Or.inl ⟨(Option.some.inj holds).symm, brought⟩
    · exact Or.inr (grounded owner connection holds)

theorem InStep.register (inStep : table.InStep) (free : table.BringsFree (.register info)) :
    (table.register info).1.InStep := by
  cases live : table.contains info.owner with
  | true => rwa [register_of_live live]
  | false =>
    apply InStep.of_held
    intro owner connection listed
    rw [holder?_register live]
    rcases (lists_register live owner connection).mp listed with ⟨rfl, brought⟩ | before
    · rw [if_pos brought]
    · have holds := inStep.held owner connection before
      have other : connection ∉ info.connections := by
        intro brought
        rw [free live connection brought] at holds
        contradiction
      rw [if_neg other, holds]

/-- A held connection that is brought in again stays on the list of its former holder. -/
theorem bringsFree_of_register (grounded : table.Grounded)
    (inStep : (table.register info).1.InStep) : table.BringsFree (.register info) := by
  intro live connection brought
  cases held : table.holder? connection with
  | none => rfl
  | some holder =>
    have listed := grounded holder connection held
    have same := inStep.alone holder info.owner connection
      ((lists_register live _ _).mpr (Or.inr listed))
      ((lists_register live _ _).mpr (Or.inl ⟨rfl, brought⟩))
    exact absurd (same ▸ listed) (not_lists_of_absent live connection)

end Register

section Unregister
variable {table : OwnerTable} {owner : OwnerId}

theorem Grounded.unregister (grounded : table.Grounded) :
    (table.unregister owner).1.Grounded := by
  cases live : table.get? owner with
  | none => rwa [unregister_of_absent live]
  | some info =>
    intro other connection holds
    rw [holder?_unregister live] at holds
    split at holds
    · contradiction
    · next kept =>
      have listed := grounded other connection holds
      refine (lists_unregister live other connection).mpr ⟨?_, listed⟩
      rintro rfl
      obtain ⟨found, lookup, member⟩ := listed
      obtain rfl := Option.some.inj (live.symm.trans lookup)
      exact kept member

theorem InStep.unregister (inStep : table.InStep) : (table.unregister owner).1.InStep := by
  cases live : table.get? owner with
  | none => rwa [unregister_of_absent live]
  | some info =>
    apply InStep.of_held
    intro other connection listed
    obtain ⟨different, before⟩ := (lists_unregister live other connection).mp listed
    have kept : connection ∉ info.connections := fun member =>
      different (inStep.alone other owner connection before ⟨info, live, member⟩)
    rw [holder?_unregister live, if_neg kept]
    exact inStep.held other connection before

end Unregister

section Assign
variable {table : OwnerTable} {owner : OwnerId} {connection : ConnectionId}

theorem Grounded.assign (grounded : table.Grounded) :
    (table.assign owner connection).1.Grounded := by
  cases live : table.contains owner with
  | false => rwa [assign_of_absent live]
  | true =>
    intro other each holds
    rw [holder?_assign live] at holds
    rw [lists_assign live]
    split at holds
    · next same => exact Or.inl ⟨(Option.some.inj holds).symm, same⟩
    · next different => exact Or.inr ⟨grounded other each holds, fun both => different both.1⟩

theorem InStep.assign (inStep : table.InStep) : (table.assign owner connection).1.InStep := by
  cases live : table.contains owner with
  | false => rwa [assign_of_absent live]
  | true =>
    apply InStep.of_held
    intro other each listed
    rw [holder?_assign live]
    rcases (lists_assign live connection other each).mp listed with ⟨rfl, same⟩ | ⟨before, kept⟩
    · rw [if_pos same]
    · have holds := inStep.held other each before
      have different : each ≠ connection := by
        rintro rfl
        exact kept ⟨rfl, holds⟩
      rw [if_neg different, holds]

end Assign

section Release
variable {table : OwnerTable} {connection : ConnectionId}

theorem Grounded.release (grounded : table.Grounded) :
    (table.release connection).1.Grounded := by
  intro owner each holds
  rw [holder?_release] at holds
  split at holds
  · contradiction
  · next different =>
    exact (lists_release connection owner each).mpr
      ⟨grounded owner each holds, fun both => different both.1⟩

theorem InStep.release (inStep : table.InStep) : (table.release connection).1.InStep := by
  apply InStep.of_held
  intro owner each listed
  obtain ⟨before, kept⟩ := (lists_release connection owner each).mp listed
  have holds := inStep.held owner each before
  have different : each ≠ connection := by
    rintro rfl
    exact kept ⟨rfl, holds⟩
  rw [holder?_release, if_neg different, holds]

end Release

section Changes
variable {table : OwnerTable}

theorem Grounded.perform (grounded : table.Grounded) (change : OwnerChange) :
    (table.perform change).1.Grounded := by
  cases change with
  | register info => exact grounded.register
  | unregister owner => exact grounded.unregister
  | assign owner connection => exact grounded.assign
  | release connection => exact grounded.release
  | get | holder | contains => exact grounded

/-- One change keeps lists and index in step if and only if it brings nothing that
is held. -/
theorem inStep_perform_iff (grounded : table.Grounded) (inStep : table.InStep)
    (change : OwnerChange) : (table.perform change).1.InStep ↔ table.BringsFree change := by
  cases change with
  | register info => exact ⟨bringsFree_of_register grounded, inStep.register⟩
  | unregister owner => exact iff_of_true inStep.unregister trivial
  | assign owner connection => exact iff_of_true inStep.assign trivial
  | release connection => exact iff_of_true inStep.release trivial
  | get | holder | contains => exact iff_of_true inStep trivial

theorem not_lists_empty (owner : OwnerId) (connection : ConnectionId) :
    ¬ empty.Lists owner connection := by
  rintro ⟨info, found, _⟩
  simp [get?, empty] at found

theorem after_concat (changes : List OwnerChange) (change : OwnerChange) :
    after (changes ++ [change]) = ((after changes).perform change).1 := by
  simp only [after, List.foldl_append, List.foldl_cons, List.foldl_nil]

theorem grounded_after (changes : List OwnerChange) : (after changes).Grounded := by
  induction changes using List.reverseRecOn with
  | nil =>
    intro owner connection holds
    simp [after, holder?, empty] at holds
  | append_singleton changes change ih =>
    rw [after_concat]
    exact ih.perform change

/-- Lists and index agree at every moment if and only if every registration that is
accepted brings only connections that nobody holds at that moment. -/
theorem inStep_throughout_iff (changes : List OwnerChange) :
    (∀ earlier, earlier <+: changes → (after earlier).InStep) ↔
      ∀ earlier change, earlier ++ [change] <+: changes → (after earlier).BringsFree change := by
  constructor
  · intro always earlier change reached
    apply (inStep_perform_iff (grounded_after earlier)
      (always earlier ((List.prefix_append _ _).trans reached)) change).mp
    rw [← after_concat]
    exact always _ reached
  · intro free earlier
    induction earlier using List.reverseRecOn with
    | nil =>
      intro _
      exact InStep.of_held fun owner connection listed =>
        absurd listed (not_lists_empty owner connection)
    | append_singleton earlier change ih =>
      intro reached
      rw [after_concat]
      exact (inStep_perform_iff (grounded_after earlier)
        (ih ((List.prefix_append _ _).trans reached)) change).mpr (free earlier change reached)

/-- Two owners that arrive with the same connection are both listed with it, and when
the first of them leaves, the connection of the second is held by nobody. -/
theorem held_connection_lost :
    let carried : ConnectionSet := .insert ∅ 5
    let arrivals : List OwnerChange :=
      [.register ⟨1, "first", 1, carried⟩, .register ⟨2, "second", 2, carried⟩]
    let departure := arrivals ++ [.unregister 1]
    ((after arrivals).Lists 1 5 ∧ (after arrivals).holder? 5 = some 2 ∧
      ¬ (after arrivals).InStep) ∧
    ((after departure).Lists 2 5 ∧ (after departure).holder? 5 = none ∧
      ¬ (after departure).InStep) := by
  intro carried arrivals departure
  have listedFirst : (after arrivals).Lists 1 5 :=
    ⟨⟨1, "first", 1, carried⟩, by decide, by decide⟩
  have listedSecond : (after departure).Lists 2 5 :=
    ⟨⟨2, "second", 2, carried⟩, by decide, by decide⟩
  have taken : (after arrivals).holder? 5 = some 2 := by decide
  have lost : (after departure).holder? 5 = none := by decide
  refine ⟨⟨listedFirst, taken, fun inStep => ?_⟩, ⟨listedSecond, lost, fun inStep => ?_⟩⟩
  · have held := inStep.held 1 5 listedFirst
    rw [taken] at held
    contradiction
  · have held := inStep.held 2 5 listedSecond
    rw [lost] at held
    contradiction

end Changes
end OwnerTable
end SessionReplay
