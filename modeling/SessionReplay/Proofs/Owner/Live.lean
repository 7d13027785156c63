import Mathlib.Data.List.Sort
import SessionReplay.Proofs.Dispatcher.Findings
import SessionReplay.Proofs.Owner.Lookup

/-! Who is live, whatever kind of registry says so. A registry answers two questions, whether it
contains an owner and which owners it contains; all kinds answer the second by the same ascending
list as soon as they agree on the first. -/
namespace SessionReplay

theorem OwnerTable.ownerIds_ascending (table : OwnerTable) :
    table.ownerIds.Pairwise (· < ·) := by
  refine Std.TreeMap.ordered_keys.imp ?_
  intro owner other before
  exact Std.compare_eq_lt.mp before

theorem OwnerTable.contains_register (table : OwnerTable) (info : OwnerInfo) (owner : OwnerId) :
    (table.register info).1.contains owner =
      (decide (owner = info.owner) || table.contains owner) := by
  cases live : table.contains info.owner with
  | true =>
    rw [register_of_live live]
    by_cases same : owner = info.owner
    · rw [same, live, Bool.or_true]
    · simp [same]
  | false =>
    rw [contains_eq_isSome, contains_eq_isSome, get?_register live]
    by_cases same : owner = info.owner <;> simp [same]

theorem OwnerDirectory.ownerIds_ascending (directory : OwnerDirectory) :
    directory.ownerIds.Pairwise (· < ·) := by
  have sorted : directory.ownerIds.Pairwise (· ≤ ·) := by
    refine (List.pairwise_mergeSort ?_ ?_ directory.toList).imp of_decide_eq_true
    · intro first second third low high
      exact decide_eq_true (UInt32.le_trans (of_decide_eq_true low) (of_decide_eq_true high))
    · intro first second
      simpa using UInt32.le_total first second
  have distinct : directory.ownerIds.Pairwise (· ≠ ·) := by
    have listed : directory.toList.Pairwise (· ≠ ·) :=
      Std.HashSet.distinct_toList.imp fun differs => by simpa using differs
    exact listed.perm (List.mergeSort_perm _ _).symm Ne.symm
  refine (sorted.and distinct).imp ?_
  rintro owner other ⟨low, differs⟩
  exact UInt32.lt_of_le_of_ne low differs

namespace Owners

def live (owners : Owners) (owner : OwnerId) : Bool :=
  owners.installed.any fun registry => owners.containedIn registry owner

theorem mem_liveIds_iff (owners : Owners) (owner : OwnerId) :
    owner ∈ owners.liveIds ↔ owners.live owner = true := by
  unfold liveIds live
  cases owners.installed with
  | none => simp
  | some registry => exact (owners.containedIn_iff registry owner).symm

theorem idsIn_ascending (owners : Owners) (registry : Registry) :
    (owners.idsIn registry).Pairwise (· < ·) := by
  cases registry with
  | table table => exact table.ownerIds_ascending
  | directory directory => exact directory.ownerIds_ascending
  | shared =>
    unfold idsIn
    cases owners.engine with
    | none => exact .nil
    | some table => exact table.ownerIds_ascending

theorem liveIds_ascending (owners : Owners) : owners.liveIds.Pairwise (· < ·) := by
  unfold liveIds
  cases owners.installed with
  | none => exact .nil
  | some registry => exact owners.idsIn_ascending registry

/-- An event is found guilty of its owner at most once, and connects never are. -/
theorem ownerFindings_eq (owners : Owners) (event : Event) :
    event.ownerFindings owners =
      if event.kind = .connect ∨ event.owner = engineOwner ∨ owners.live event.owner = true then []
      else if owners.installed.isSome then [.unknownOwner event.owner owners.liveIds]
      else [.registryMissing event.owner] := by
  cases event with
  | message event =>
    simp [Event.ownerFindings, Owners.findings, Event.kind, Event.owner, mem_liveIds_iff]
  | connect event => simp [Event.ownerFindings, Event.kind]
  | heartbeat event =>
    simp [Event.ownerFindings, Owners.findings, Event.kind, Event.owner, mem_liveIds_iff]

/-- The registries hold the same owners, or none is installed on either side. -/
structure Agree (owners others : Owners) : Prop where
  installed : owners.installed.isSome = others.installed.isSome
  live : ∀ owner, owners.live owner = others.live owner

theorem Agree.liveIds (agree : Agree owners others) : owners.liveIds = others.liveIds := by
  apply owners.liveIds_ascending.eq_of_mem_iff others.liveIds_ascending
  intro owner
  rw [mem_liveIds_iff, mem_liveIds_iff, agree.live]

theorem Agree.findings (agree : Agree owners others) (owner : OwnerId) :
    owners.findings owner = others.findings owner := by
  unfold Owners.findings
  rw [agree.liveIds, agree.installed]

theorem Agree.eventFindings (agree : Agree owners others) (event : Event) (wasOpen : Bool)
    (outcome : Outcome) :
    event.findings others wasOpen outcome = event.findings owners wasOpen outcome := by
  have owner : event.ownerFindings others = event.ownerFindings owners := by
    cases event with
    | message event => exact (agree.findings event.owner).symm
    | connect event => rfl
    | heartbeat event => exact (agree.findings event.owner).symm
  rw [Event.findings, Event.findings, owner]

end Owners
end SessionReplay
