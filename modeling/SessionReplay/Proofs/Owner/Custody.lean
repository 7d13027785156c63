import SessionReplay.Proofs.Owner.Holding

/-! Who holds a connection. Every registration is filed under the owner that it names, and so the
index of a table leads from a connection to the registration of its holder, even in a table whose
lists have fallen behind the index. -/
namespace SessionReplay.OwnerTable
variable {table : OwnerTable}

/-- A registration is found under the owner that it names and under no other. -/
def Filed (table : OwnerTable) : Prop :=
  ∀ owner info, table.get? owner = some info → info.owner = owner

namespace Filed

theorem of_map_eq {next : OwnerTable} (filed : table.Filed)
    (same : ∀ owner, (next.get? owner).map OwnerInfo.owner =
      (table.get? owner).map OwnerInfo.owner) : next.Filed := by
  intro owner info lookup
  have kept := same owner
  rw [lookup] at kept
  obtain ⟨before, found, named⟩ := Option.map_eq_some_iff.mp kept.symm
  rw [← named]
  exact filed owner before found

theorem register (filed : table.Filed) (info : OwnerInfo) : (table.register info).1.Filed := by
  cases live : table.contains info.owner with
  | true => rwa [register_of_live live]
  | false =>
    intro owner found lookup
    rw [get?_register live] at lookup
    split at lookup
    · next same => rw [same, Option.some.inj lookup]
    · exact filed owner found lookup

theorem unregister (filed : table.Filed) (owner : OwnerId) :
    (table.unregister owner).1.Filed := by
  cases live : table.get? owner with
  | none => rwa [unregister_of_absent live]
  | some info =>
    intro other found lookup
    rw [get?_unregister live] at lookup
    split at lookup
    · contradiction
    · exact filed other found lookup

theorem perform (filed : table.Filed) (change : OwnerChange) : (table.perform change).1.Filed := by
  cases change with
  | register info => exact filed.register info
  | unregister owner => exact filed.unregister owner
  | assign owner connection =>
    exact filed.of_map_eq fun other =>
      map_get?_assign table owner other connection fun _ _ => rfl
  | release connection =>
    exact filed.of_map_eq fun other => map_get?_release table other connection fun _ _ => rfl
  | get | holder | contains => exact filed

end Filed

theorem filed_after (changes : List OwnerChange) : (after changes).Filed := by
  induction changes using List.reverseRecOn with
  | nil =>
    intro owner info lookup
    simp [after, get?, empty] at lookup
  | append_singleton changes change ih =>
    rw [after_concat]
    exact ih.perform change

/-- Whatever was done to a table, the holder of a connection is registered, under its own id, and
has the connection on its list. -/
theorem holder_is_registered (changes : List OwnerChange) (connection : ConnectionId)
    (owner : OwnerId) (holds : (after changes).holder? connection = some owner) :
    (after changes).contains owner = true ∧
      ∃ info, (after changes).get? owner = some info ∧ info.owner = owner ∧
        connection ∈ info.connections := by
  obtain ⟨info, lookup, listed⟩ := grounded_after changes owner connection holds
  refine ⟨?_, info, lookup, filed_after changes owner info lookup, listed⟩
  rw [contains_eq_isSome, lookup]
  rfl

/-- The second of two owners that brought the same connection holds it, while the first still
lists it. -/
theorem holder_of_shared_connection :
    let carried : ConnectionSet := .insert ∅ 5
    let arrivals : List OwnerChange :=
      [.register ⟨1, "first", 1, carried⟩, .register ⟨2, "second", 2, carried⟩]
    (after arrivals).Lists 1 5 ∧ (after arrivals).holder? 5 = some 2 ∧
      (after arrivals).contains 2 = true ∧
      ∃ info, (after arrivals).get? 2 = some info ∧ info.owner = 2 ∧ 5 ∈ info.connections := by
  intro carried arrivals
  have listed : (after arrivals).Lists 1 5 := ⟨⟨1, "first", 1, carried⟩, by decide, by decide⟩
  have holds : (after arrivals).holder? 5 = some 2 := by decide
  exact ⟨listed, holds, holder_is_registered arrivals 5 2 holds⟩

end SessionReplay.OwnerTable
