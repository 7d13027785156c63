import SessionReplay.Proofs.Owner.Holding
import SessionReplay.Proofs.Owner.Ownership

/-! What a change to a table of owners leaves alone: everything about a connection that it is not
about, and everything else about an owner that it does not name. A change that declines leaves the
whole table as it was. -/
namespace SessionReplay

/-- The change was refused, or it found nothing. -/
def OwnerAnswer.Declines : OwnerAnswer → Prop
  | .flag done => done = false
  | .info found => found = none
  | .owner found => found = none

namespace OwnerChange

def Names : OwnerChange → OwnerId → Prop
  | .register info, owner => owner = info.owner
  | .unregister gone, owner => owner = gone
  | .assign taker _, owner => owner = taker
  | .get each, owner | .contains each, owner => owner = each
  | .release _, _ | .holder _, _ => False

/-- The connection is named, or a new owner brings it, or a departing owner holds it. -/
def Concerns (table : OwnerTable) : OwnerChange → ConnectionId → Prop
  | .register info, connection => connection ∈ info.connections
  | .unregister gone, connection => table.holder? connection = some gone
  | .assign _ moved, connection | .release moved, connection => connection = moved
  | .holder each, connection => connection = each
  | .get _, _ | .contains _, _ => False

end OwnerChange

namespace OwnerTable
variable {table : OwnerTable} {change : OwnerChange}

section Declines

theorem register_answer (info : OwnerInfo) :
    (table.register info).2 = !table.contains info.owner := by
  cases live : table.contains info.owner <;> simp [register, live]

theorem unregister_answer (owner : OwnerId) :
    (table.unregister owner).2 = table.get? owner := by
  cases found : table.get? owner <;> simp [unregister, found]

theorem assign_answer (owner : OwnerId) (connection : ConnectionId) :
    (table.assign owner connection).2 = table.contains owner := by
  cases live : table.contains owner <;> simp [assign, live]

theorem release_answer (connection : ConnectionId) :
    (table.release connection).2 = table.holder? connection := by
  cases held : table.holder? connection <;> simp [release, held]

theorem perform_of_declines (declines : (table.perform change).2.Declines) :
    (table.perform change).1 = table := by
  cases change with
  | register info =>
    have live : table.contains info.owner = true := by
      simpa [perform, OwnerAnswer.Declines, register_answer] using declines
    exact congrArg Prod.fst (register_of_live live)
  | unregister owner =>
    have absent : table.get? owner = none := (unregister_answer owner).symm.trans declines
    exact congrArg Prod.fst (unregister_of_absent absent)
  | assign owner connection =>
    have absent : table.contains owner = false :=
      (assign_answer owner connection).symm.trans declines
    exact congrArg Prod.fst (assign_of_absent absent connection)
  | release connection =>
    have free : table.holder? connection = none := (release_answer connection).symm.trans declines
    exact congrArg Prod.fst (release_of_free free)
  | get | holder | contains => rfl

end Declines

/-- A connection that the change is not about has the same holder and is on the same lists. An
owner that it does not name is registered if it was, under the same name and session; and if it
holds none of the connections in question, with its whole list. -/
structure Undisturbed (table : OwnerTable) (change : OwnerChange) (next : OwnerTable) : Prop where
  holder : ∀ connection, ¬ change.Concerns table connection →
    next.holder? connection = table.holder? connection
  lists : ∀ owner connection, ¬ change.Concerns table connection →
    (next.Lists owner connection ↔ table.Lists owner connection)
  registrant : ∀ owner, ¬ change.Names owner →
    (next.get? owner).map OwnerInfo.registrant = (table.get? owner).map OwnerInfo.registrant
  info : ∀ owner, ¬ change.Names owner →
    (∀ connection, change.Concerns table connection → table.holder? connection ≠ some owner) →
    next.get? owner = table.get? owner

namespace Undisturbed

theorem refl (table : OwnerTable) (change : OwnerChange) : table.Undisturbed change table :=
  ⟨fun _ _ => rfl, fun _ _ _ => Iff.rfl, fun _ _ => rfl, fun _ _ _ => rfl⟩

theorem register (info : OwnerInfo) :
    table.Undisturbed (.register info) (table.register info).1 := by
  cases live : table.contains info.owner with
  | true =>
    rw [register_of_live live]
    exact .refl ..
  | false =>
    have same (owner : OwnerId) (unnamed : owner ≠ info.owner) :
        (table.register info).1.get? owner = table.get? owner := by
      rw [get?_register live, if_neg unnamed]
    refine ⟨?_, ?_, ?_, fun owner unnamed _ => same owner unnamed⟩
    · intro connection apart
      rw [holder?_register live]
      exact if_neg apart
    · intro owner connection apart
      rw [lists_register live]
      exact or_iff_right fun brought => apart brought.2
    · intro owner unnamed
      rw [same owner unnamed]

theorem unregister (inStep : table.InStep) (gone : OwnerId) :
    table.Undisturbed (.unregister gone) (table.unregister gone).1 := by
  cases found : table.get? gone with
  | none =>
    rw [unregister_of_absent found]
    exact .refl ..
  | some info =>
    have same (owner : OwnerId) (unnamed : owner ≠ gone) :
        (table.unregister gone).1.get? owner = table.get? owner := by
      rw [get?_unregister found, if_neg unnamed]
    refine ⟨?_, ?_, ?_, fun owner unnamed _ => same owner unnamed⟩
    · intro connection apart
      have unlisted : connection ∉ info.connections := fun listed =>
        apart (inStep.held gone connection ⟨info, found, listed⟩)
      rw [holder?_unregister found, if_neg unlisted]
    · intro owner connection apart
      rw [lists_unregister found]
      refine and_iff_right_of_imp ?_
      rintro listed rfl
      exact apart (inStep.held owner connection listed)
    · intro owner unnamed
      rw [same owner unnamed]

theorem assign (taker : OwnerId) (moved : ConnectionId) :
    table.Undisturbed (.assign taker moved) (table.assign taker moved).1 := by
  cases live : table.contains taker with
  | false =>
    rw [assign_of_absent live]
    exact .refl ..
  | true =>
    refine ⟨?_, ?_, ?_, ?_⟩
    · intro connection apart
      rw [holder?_assign live]
      exact if_neg apart
    · intro owner connection apart
      have different : connection ≠ moved := apart
      rw [lists_assign live]
      simp [different]
    · intro owner _
      exact map_get?_assign table taker owner moved fun _ _ => rfl
    · intro owner unnamed apart
      exact get?_assign_of_other unnamed (apart moved rfl)

theorem release (moved : ConnectionId) :
    table.Undisturbed (.release moved) (table.release moved).1 := by
  refine ⟨?_, ?_, ?_, ?_⟩
  · intro connection apart
    rw [holder?_release]
    exact if_neg apart
  · intro owner connection apart
    have different : connection ≠ moved := apart
    rw [lists_release]
    simp [different]
  · intro owner _
    exact map_get?_release table owner moved fun _ _ => rfl
  · intro owner _ apart
    exact get?_release_of_other (apart moved rfl)

theorem perform (inStep : table.InStep) (change : OwnerChange) :
    table.Undisturbed change (table.perform change).1 := by
  cases change with
  | register info => exact .register info
  | unregister gone => exact .unregister inStep gone
  | assign taker moved => exact .assign taker moved
  | release moved => exact .release moved
  | get | holder | contains => exact .refl ..

end Undisturbed
end OwnerTable
end SessionReplay
