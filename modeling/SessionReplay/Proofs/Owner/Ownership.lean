import Std.Data.ExtTreeMap.Lemmas
import SessionReplay.Owner.Change

/-! Who owns what, as one map. No owner has a list here: a connection maps to the live owner that
holds it, and what an owner holds is read off that map. -/
namespace SessionReplay

/-- What an owner is registered with besides its connections. -/
structure Registrant where
  name : String
  session : Int32
  deriving DecidableEq

def OwnerInfo.registrant (info : OwnerInfo) : Registrant := ⟨info.name, info.session⟩

/-- The live owners, and one partial function from connections to them. -/
structure Ownership where
  live : Std.ExtTreeMap OwnerId Registrant
  held : Std.ExtTreeMap ConnectionId OwnerId
  held_live : ∀ (connection : ConnectionId) (owner : OwnerId),
    held[connection]? = some owner → owner ∈ live

namespace Ownership
variable (ownership : Ownership)

theorem getElem?_insertMany (held : Std.ExtTreeMap ConnectionId OwnerId)
    (connections : ConnectionSet) (owner : OwnerId) (connection : ConnectionId) :
    (held.insertMany (connections.toList.map (·, owner)))[connection]? =
      if connection ∈ connections then some owner else held[connection]? := by
  by_cases member : connection ∈ connections
  · rw [if_pos member]
    refine Std.ExtTreeMap.getElem?_insertMany_list_of_mem Std.ReflCmp.compare_self ?_
      (List.mem_map.mpr ⟨connection, Std.ExtTreeSet.mem_toList.mpr member, rfl⟩)
    exact List.pairwise_map.mpr connections.distinct_toList
  · rw [if_neg member]
    apply Std.ExtTreeMap.getElem?_insertMany_list_of_contains_eq_false
    simp [member]

def empty : Ownership := ⟨∅, ∅, by simp⟩

def contains (owner : OwnerId) : Bool := ownership.live.contains owner

def ownerIds : List OwnerId := ownership.live.keys

def size : Nat := ownership.live.size

def isEmpty : Bool := ownership.live.isEmpty

def holder? (connection : ConnectionId) : Option OwnerId := ownership.held[connection]?

def connectionsOf (owner : OwnerId) : ConnectionSet :=
  .ofList (ownership.held.filter fun _ holder => holder = owner).keys

def get? (owner : OwnerId) : Option OwnerInfo :=
  ownership.live[owner]?.map fun registrant =>
    { owner
      name := registrant.name
      session := registrant.session
      connections := ownership.connectionsOf owner }

def register (info : OwnerInfo) : Ownership × Bool :=
  if info.owner ∈ ownership.live then (ownership, false)
  else
    ({ live := ownership.live.insert info.owner info.registrant
       held := ownership.held.insertMany (info.connections.toList.map (·, info.owner))
       held_live := by
        intro connection owner held
        rw [getElem?_insertMany] at held
        split at held
        · simp [Option.some.inj held]
        · simp [ownership.held_live connection owner held] }, true)

def unregister (owner : OwnerId) : Ownership × Option OwnerInfo :=
  if owner ∈ ownership.live then
    ({ live := ownership.live.erase owner
       held := ownership.held.filter fun _ holder => holder ≠ owner
       held_live := by
        intro connection other held
        rw [Std.ExtTreeMap.getElem?_filter', Option.filter_eq_some_iff] at held
        have kept := ownership.held_live connection other held.1
        simp_all [Ne.symm] }, ownership.get? owner)
  else (ownership, none)

def assign (owner : OwnerId) (connection : ConnectionId) : Ownership × Bool :=
  if live : owner ∈ ownership.live then
    ({ ownership with
        held := ownership.held.insert connection owner
        held_live := by
          intro each other held
          rw [Std.ExtTreeMap.getElem?_insert] at held
          split at held
          · rwa [← Option.some.inj held]
          · exact ownership.held_live each other held }, true)
  else (ownership, false)

def release (connection : ConnectionId) : Ownership × Option OwnerId :=
  ({ ownership with
      held := ownership.held.erase connection
      held_live := by
        intro each owner held
        rw [Std.ExtTreeMap.getElem?_erase] at held
        split at held
        · contradiction
        · exact ownership.held_live each owner held }, ownership.holder? connection)

def perform : OwnerChange → Ownership × OwnerAnswer
  | .register info =>
    let (next, done) := ownership.register info
    (next, .flag done)
  | .unregister owner =>
    let (next, gone) := ownership.unregister owner
    (next, .info gone)
  | .assign owner connection =>
    let (next, done) := ownership.assign owner connection
    (next, .flag done)
  | .release connection =>
    let (next, owner) := ownership.release connection
    (next, .owner owner)
  | .get owner => (ownership, .info (ownership.get? owner))
  | .holder connection => (ownership, .owner (ownership.holder? connection))
  | .contains owner => (ownership, .flag (ownership.contains owner))

def after (changes : List OwnerChange) : Ownership :=
  changes.foldl (fun ownership change => (ownership.perform change).1) .empty

theorem after_concat (changes : List OwnerChange) (change : OwnerChange) :
    after (changes ++ [change]) = ((after changes).perform change).1 := by
  simp only [after, List.foldl_append, List.foldl_cons, List.foldl_nil]

section Reads
variable {ownership : Ownership} {info : OwnerInfo} {owner : OwnerId}

theorem mem_connectionsOf (owner : OwnerId) (connection : ConnectionId) :
    connection ∈ ownership.connectionsOf owner ↔ ownership.holder? connection = some owner := by
  unfold connectionsOf holder?
  rw [Std.ExtTreeSet.mem_ofList, List.contains_iff_mem, Std.ExtTreeMap.mem_keys,
    Std.ExtTreeMap.mem_iff_isSome_getElem?, Std.ExtTreeMap.getElem?_filter']
  cases ownership.held[connection]? with
  | none => simp
  | some holder => by_cases same : holder = owner <;> simp [same]

theorem register_of_live (live : info.owner ∈ ownership.live) :
    ownership.register info = (ownership, false) := by
  simp only [register, live, if_true]

theorem live_register (absent : info.owner ∉ ownership.live) (owner : OwnerId) :
    (ownership.register info).1.live[owner]? =
      if owner = info.owner then some info.registrant else ownership.live[owner]? := by
  simp only [register, absent, if_false, Std.ExtTreeMap.getElem?_insert,
    Std.LawfulEqCmp.compare_eq_iff_eq, @eq_comm _ owner]

theorem holder?_register (absent : info.owner ∉ ownership.live) (connection : ConnectionId) :
    (ownership.register info).1.holder? connection =
      if connection ∈ info.connections then some info.owner
      else ownership.holder? connection := by
  simp only [register, absent, if_false, holder?, getElem?_insertMany]

theorem unregister_of_absent (absent : owner ∉ ownership.live) :
    ownership.unregister owner = (ownership, none) := by
  simp only [unregister, absent, if_false]

theorem live_unregister (live : owner ∈ ownership.live) (other : OwnerId) :
    (ownership.unregister owner).1.live[other]? =
      if other = owner then none else ownership.live[other]? := by
  simp only [unregister, live, if_true, Std.ExtTreeMap.getElem?_erase,
    Std.LawfulEqCmp.compare_eq_iff_eq, @eq_comm _ other]

theorem holder?_unregister (live : owner ∈ ownership.live) (connection : ConnectionId) :
    (ownership.unregister owner).1.holder? connection =
      if ownership.holder? connection = some owner then none
      else ownership.holder? connection := by
  have kept : (ownership.unregister owner).1.holder? connection =
      (ownership.holder? connection).filter (· ≠ owner) := by
    simp only [unregister, live, if_true, holder?, Std.ExtTreeMap.getElem?_filter']
  rw [kept]
  cases ownership.holder? connection with
  | none => simp
  | some holder => by_cases same : holder = owner <;> simp [same]

theorem assign_of_absent (absent : owner ∉ ownership.live) (connection : ConnectionId) :
    ownership.assign owner connection = (ownership, false) := by
  simp only [assign, absent, dite_false]

theorem live_assign (owner other : OwnerId) (connection : ConnectionId) :
    (ownership.assign owner connection).1.live[other]? = ownership.live[other]? := by
  unfold assign
  split <;> rfl

theorem holder?_assign (live : owner ∈ ownership.live) (connection each : ConnectionId) :
    (ownership.assign owner connection).1.holder? each =
      if each = connection then some owner else ownership.holder? each := by
  simp only [assign, live, dif_pos, holder?, Std.ExtTreeMap.getElem?_insert,
    Std.LawfulEqCmp.compare_eq_iff_eq, @eq_comm _ each]

theorem holder?_release (connection each : ConnectionId) :
    (ownership.release connection).1.holder? each =
      if each = connection then none else ownership.holder? each := by
  simp only [release, holder?, Std.ExtTreeMap.getElem?_erase,
    Std.LawfulEqCmp.compare_eq_iff_eq, @eq_comm _ each]

theorem contains_eq_isSome (owner : OwnerId) :
    ownership.contains owner = (ownership.live[owner]?).isSome :=
  Std.ExtTreeMap.contains_eq_isSome_getElem?

theorem contains_eq_decide (owner : OwnerId) :
    ownership.contains owner = decide (owner ∈ ownership.live) := by
  rw [Bool.eq_iff_iff, decide_eq_true_iff]
  exact Std.ExtTreeMap.mem_iff_contains.symm

theorem register_answer (info : OwnerInfo) :
    (ownership.register info).2 = !ownership.contains info.owner := by
  rw [contains_eq_decide]
  by_cases live : info.owner ∈ ownership.live <;> simp [register, live]

theorem unregister_answer (owner : OwnerId) :
    (ownership.unregister owner).2 = ownership.get? owner := by
  by_cases live : owner ∈ ownership.live
  · simp [unregister, live]
  · simp [unregister, live, get?]

theorem assign_answer (owner : OwnerId) (connection : ConnectionId) :
    (ownership.assign owner connection).2 = ownership.contains owner := by
  rw [contains_eq_decide]
  by_cases live : owner ∈ ownership.live <;> simp [assign, live]

end Reads
end Ownership
end SessionReplay
