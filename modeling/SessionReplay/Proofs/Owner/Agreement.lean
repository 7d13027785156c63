import SessionReplay.Proofs.Owner.Custody
import SessionReplay.Proofs.Owner.Live
import SessionReplay.Proofs.Owner.Undisturbed

/-! A table of owners and the one map of who owns what. As long as every registration that is
accepted brings only free connections, the two give the same answers for ever. Such a table can be
read from either side: an owner lists a connection just when it holds it. -/
namespace SessionReplay

namespace OwnerTable
variable {table : OwnerTable} {ownership : Ownership}

/-- Every registration that was accepted brought only connections that nobody held. -/
def ArrivalsFree (changes : List OwnerChange) : Prop :=
  ∀ earlier change, earlier ++ [change] <+: changes → (after earlier).BringsFree change

theorem arrivalsFree_nil : ArrivalsFree [] := by
  intro earlier change reached
  simpa using List.prefix_nil.mp reached

theorem arrivalsFree_concat_iff (changes : List OwnerChange) (change : OwnerChange) :
    ArrivalsFree (changes ++ [change]) ↔
      ArrivalsFree changes ∧ (after changes).BringsFree change := by
  constructor
  · intro free
    refine ⟨?_, free changes change (List.prefix_refl _)⟩
    intro earlier each reached
    exact free earlier each (reached.trans (List.prefix_append _ _))
  · rintro ⟨free, last⟩ earlier each reached
    rcases List.prefix_concat_iff.mp reached with whole | before
    · obtain ⟨rfl, same⟩ := List.append_inj' whole rfl
      rwa [List.singleton_inj.mp same]
    · exact free earlier each before

/-- The table says of every owner and of every connection what the one map says. -/
structure Shows (table : OwnerTable) (ownership : Ownership) : Prop where
  filed : table.Filed
  grounded : table.Grounded
  inStep : table.InStep
  registrant : ∀ owner, (table.get? owner).map OwnerInfo.registrant = ownership.live[owner]?
  holder : ∀ connection, table.holder? connection = ownership.holder? connection

namespace Shows

theorem empty : OwnerTable.empty.Shows .empty where
  filed := filed_after []
  grounded := grounded_after []
  inStep := InStep.of_held fun owner connection listed =>
    absurd listed (not_lists_empty owner connection)
  registrant owner := by simp [OwnerTable.empty, Ownership.empty, OwnerTable.get?]
  holder connection := by
    simp [OwnerTable.empty, Ownership.empty, OwnerTable.holder?, Ownership.holder?]

theorem contains (shows : table.Shows ownership) (owner : OwnerId) :
    table.contains owner = ownership.contains owner := by
  rw [contains_eq_isSome, Ownership.contains_eq_isSome, ← shows.registrant, Option.isSome_map]

theorem mem_live_iff (shows : table.Shows ownership) (owner : OwnerId) :
    owner ∈ ownership.live ↔ table.contains owner = true := by
  rw [shows.contains]
  exact Std.ExtTreeMap.mem_iff_contains

theorem mem_connections_iff (shows : table.Shows ownership) {owner : OwnerId} {info : OwnerInfo}
    (found : table.get? owner = some info) (connection : ConnectionId) :
    connection ∈ info.connections ↔ table.holder? connection = some owner := by
  constructor
  · intro listed
    exact shows.inStep.held owner connection ⟨info, found, listed⟩
  · intro holds
    obtain ⟨same, lookup, listed⟩ := shows.grounded owner connection holds
    rwa [← Option.some.inj (lookup.symm.trans found)]

theorem get? (shows : table.Shows ownership) (owner : OwnerId) :
    table.get? owner = ownership.get? owner := by
  unfold Ownership.get?
  rw [← shows.registrant]
  cases found : table.get? owner with
  | none => rfl
  | some info =>
    obtain rfl := shows.filed owner info found
    have held : info.connections = ownership.connectionsOf info.owner := by
      apply Std.ExtTreeSet.ext_mem
      intro connection
      rw [Ownership.mem_connectionsOf, ← shows.holder, shows.mem_connections_iff found]
    simp only [Option.map_some, OwnerInfo.registrant, ← held]

theorem answer (shows : table.Shows ownership) (change : OwnerChange) :
    (table.perform change).2 = (ownership.perform change).2 := by
  cases change with
  | register info =>
    have same : (table.register info).2 = (ownership.register info).2 := by
      rw [register_answer, Ownership.register_answer, shows.contains]
    exact congrArg OwnerAnswer.flag same
  | unregister owner =>
    have same : (table.unregister owner).2 = (ownership.unregister owner).2 := by
      rw [unregister_answer, Ownership.unregister_answer, shows.get?]
    exact congrArg OwnerAnswer.info same
  | assign owner connection =>
    have same : (table.assign owner connection).2 = (ownership.assign owner connection).2 := by
      rw [assign_answer, Ownership.assign_answer, shows.contains]
    exact congrArg OwnerAnswer.flag same
  | release connection =>
    have same : (table.release connection).2 = (ownership.release connection).2 :=
      (release_answer connection).trans (shows.holder connection)
    exact congrArg OwnerAnswer.owner same
  | get owner => exact congrArg OwnerAnswer.info (shows.get? owner)
  | holder connection => exact congrArg OwnerAnswer.owner (shows.holder connection)
  | contains owner => exact congrArg OwnerAnswer.flag (shows.contains owner)

theorem ownerIds (shows : table.Shows ownership) : table.ownerIds = ownership.ownerIds := by
  have ascending : ownership.ownerIds.Pairwise (· < ·) := by
    refine Std.ExtTreeMap.ordered_keys.imp ?_
    intro owner other before
    exact Std.compare_eq_lt.mp before
  apply table.ownerIds_ascending.eq_of_mem_iff ascending
  intro owner
  have live := shows.mem_live_iff owner
  unfold OwnerTable.ownerIds Ownership.ownerIds
  rw [Std.TreeMap.mem_keys, Std.ExtTreeMap.mem_keys, live]
  exact Std.TreeMap.mem_iff_contains

theorem size (shows : table.Shows ownership) : table.size = ownership.size := by
  have counted := congrArg List.length shows.ownerIds
  rwa [OwnerTable.ownerIds, Ownership.ownerIds, Std.TreeMap.length_keys,
    Std.ExtTreeMap.length_keys] at counted

theorem isEmpty (shows : table.Shows ownership) : table.isEmpty = ownership.isEmpty := by
  have counted : table.owners.size = ownership.live.size := shows.size
  unfold OwnerTable.isEmpty Ownership.isEmpty
  rw [Std.TreeMap.isEmpty_eq_size_eq_zero, Std.ExtTreeMap.isEmpty_eq_size_beq_zero, counted]

section Steps
variable {info : OwnerInfo} {owner : OwnerId} {connection : ConnectionId}

theorem register (shows : table.Shows ownership) (free : table.BringsFree (.register info)) :
    (table.register info).1.Shows (ownership.register info).1 := by
  cases live : table.contains info.owner with
  | true =>
    rwa [register_of_live live, Ownership.register_of_live ((shows.mem_live_iff _).mpr live)]
  | false =>
    have absent : info.owner ∉ ownership.live := by simp [shows.mem_live_iff, live]
    refine ⟨shows.filed.register info, shows.grounded.register, shows.inStep.register free, ?_, ?_⟩
    · intro other
      rw [get?_register live, Ownership.live_register absent, ← shows.registrant]
      split <;> rfl
    · intro each
      rw [OwnerTable.holder?_register live, Ownership.holder?_register absent, shows.holder]

theorem unregister (shows : table.Shows ownership) :
    (table.unregister owner).1.Shows (ownership.unregister owner).1 := by
  cases found : table.get? owner with
  | none =>
    have absent : owner ∉ ownership.live := by
      simp [shows.mem_live_iff, contains_eq_isSome, found]
    rwa [unregister_of_absent found, Ownership.unregister_of_absent absent]
  | some info =>
    have live : owner ∈ ownership.live := by
      simp [shows.mem_live_iff, contains_eq_isSome, found]
    refine ⟨shows.filed.unregister owner, shows.grounded.unregister, shows.inStep.unregister,
      ?_, ?_⟩
    · intro other
      rw [get?_unregister found, Ownership.live_unregister live, ← shows.registrant]
      split <;> rfl
    · intro each
      rw [OwnerTable.holder?_unregister found, Ownership.holder?_unregister live, ← shows.holder]
      exact if_congr (shows.mem_connections_iff found each) rfl rfl

theorem assign (shows : table.Shows ownership) :
    (table.assign owner connection).1.Shows (ownership.assign owner connection).1 := by
  cases live : table.contains owner with
  | false =>
    have absent : owner ∉ ownership.live := by simp [shows.mem_live_iff, live]
    rwa [assign_of_absent live, Ownership.assign_of_absent absent]
  | true =>
    refine ⟨shows.filed.perform (.assign owner connection), shows.grounded.assign,
      shows.inStep.assign, ?_, ?_⟩
    · intro other
      rw [Ownership.live_assign, ← shows.registrant]
      exact map_get?_assign table owner other connection fun _ _ => rfl
    · intro each
      rw [OwnerTable.holder?_assign live,
        Ownership.holder?_assign ((shows.mem_live_iff owner).mpr live), shows.holder]

theorem release (shows : table.Shows ownership) :
    (table.release connection).1.Shows (ownership.release connection).1 := by
  refine ⟨shows.filed.perform (.release connection), shows.grounded.release,
    shows.inStep.release, ?_, ?_⟩
  · intro other
    exact (map_get?_release table other connection fun _ _ => rfl).trans (shows.registrant other)
  · intro each
    rw [OwnerTable.holder?_release, Ownership.holder?_release, shows.holder]

theorem perform (shows : table.Shows ownership) {change : OwnerChange}
    (free : table.BringsFree change) :
    (table.perform change).1.Shows (ownership.perform change).1 := by
  cases change with
  | register info => exact shows.register free
  | unregister owner => exact shows.unregister
  | assign owner connection => exact shows.assign
  | release connection => exact shows.release
  | get | holder | contains => exact shows

end Steps

theorem after (changes : List OwnerChange) (free : ArrivalsFree changes) :
    (OwnerTable.after changes).Shows (.after changes) := by
  induction changes using List.reverseRecOn with
  | nil => exact empty
  | append_singleton changes change ih =>
    obtain ⟨before, last⟩ := (arrivalsFree_concat_iff changes change).mp free
    rw [OwnerTable.after_concat, Ownership.after_concat]
    exact (ih before).perform last

end Shows

/-- A table to which every registration that was accepted brought only free connections answers
every change like the one map of who owns what, and lists the owners of that map, ascending. Its
next change leaves alone what it is not about, and everything if it declines. -/
theorem table_shows_ownership (changes : List OwnerChange) (free : ArrivalsFree changes) :
    let table := OwnerTable.after changes
    let ownership := Ownership.after changes
    (∀ change, (table.perform change).2 = (ownership.perform change).2) ∧
      (table.ownerIds = ownership.ownerIds ∧ table.ownerIds.Pairwise (· < ·) ∧
        table.size = ownership.size ∧ table.isEmpty = ownership.isEmpty) ∧
      ∀ change, table.Undisturbed change (table.perform change).1 ∧
        ((table.perform change).2.Declines → (table.perform change).1 = table) := by
  intro table ownership
  have shows : table.Shows ownership := Shows.after changes free
  refine ⟨shows.answer, ⟨shows.ownerIds, table.ownerIds_ascending, shows.size, shows.isEmpty⟩, ?_⟩
  intro change
  exact ⟨.perform shows.inStep change, perform_of_declines⟩

/-- An owner arrives with a connection and another takes it: the second one leaves with it, and
the first keeps an empty list. -/
theorem table_shows_moved_connection :
    let carried : ConnectionSet := .insert ∅ 5
    let moves : List OwnerChange :=
      [.register ⟨1, "first", 1, carried⟩, .register ⟨2, "second", 2, ∅⟩, .assign 2 5]
    let table := OwnerTable.after moves
    let ownership := Ownership.after moves
    (ArrivalsFree moves ∧ table.holder? 5 = some 2 ∧
      (table.perform (.unregister 2)).2 = .info (some ⟨2, "second", 2, carried⟩)) ∧
    (∀ change, (table.perform change).2 = (ownership.perform change).2) ∧
      (table.ownerIds = ownership.ownerIds ∧ table.ownerIds.Pairwise (· < ·) ∧
        table.size = ownership.size ∧ table.isEmpty = ownership.isEmpty) ∧
      ∀ change, table.Undisturbed change (table.perform change).1 ∧
        ((table.perform change).2.Declines → (table.perform change).1 = table) := by
  intro carried moves table ownership
  have free : ArrivalsFree moves := by
    refine (arrivalsFree_concat_iff [_, _] _).mpr ⟨?_, trivial⟩
    refine (arrivalsFree_concat_iff [_] _).mpr ⟨?_, ?_⟩
    · refine (arrivalsFree_concat_iff [] _).mpr ⟨arrivalsFree_nil, ?_⟩
      intro _ connection _
      simp [OwnerTable.after, OwnerTable.empty, OwnerTable.holder?]
    · intro _ connection brought
      simp at brought
  exact ⟨⟨free, by decide, by decide⟩, table_shows_ownership moves free⟩

end OwnerTable
end SessionReplay
