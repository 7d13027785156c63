import SessionReplay.Dispatcher

/-! What there is to report about one event, said without the dispatcher: of its owner
by the list of live owners, of the single operation by whether one was open, and of
the message by what became of it. -/
namespace SessionReplay

namespace Owners
variable (owners : Owners)

/-- An owner that is not the engine and not on the list of live owners is reported,
with that list once there is a registry. -/
def findings (owner : OwnerId) : List Violation :=
  if owner = engineOwner ∨ owner ∈ owners.liveIds then []
  else if owners.installed.isSome then [.unknownOwner owner owners.liveIds]
  else [.registryMissing owner]

theorem findings_eq_nil_iff (owner : OwnerId) :
    owners.findings owner = [] ↔ owner = engineOwner ∨ owner ∈ owners.liveIds := by
  unfold findings
  by_cases known : owner = engineOwner ∨ owner ∈ owners.liveIds
  · simp [known]
  · rw [if_neg known]
    constructor
    · intro none
      split at none <;> contradiction
    · intro live
      exact absurd live known

/-- A registry contains the owners that it lists. -/
theorem containedIn_iff (registry : Registry) (owner : OwnerId) :
    owners.containedIn registry owner = true ↔ owner ∈ owners.idsIn registry := by
  cases registry with
  | table table => exact Std.TreeMap.mem_keys.symm
  | directory directory =>
    simp only [containedIn, idsIn, OwnerDirectory.ownerIds, List.mem_mergeSort]
    exact Std.HashSet.mem_toList.symm
  | shared =>
    unfold containedIn idsIn
    cases owners.engine with
    | none => simp
    | some table => exact Std.TreeMap.mem_keys.symm

theorem toList_objection? (owner : OwnerId) :
    (owners.objection? owner).toList = owners.findings owner := by
  unfold objection? findings liveIds
  by_cases engine : owner = engineOwner
  · simp [engine]
  · cases owners.installed with
    | none => simp [engine]
    | some registry =>
      have listed := owners.containedIn_iff registry owner
      by_cases live : owner ∈ owners.idsIn registry
      · simp [engine, live, listed.mpr live]
      · have absent := mt listed.mp live
        simp [engine, live, absent]

end Owners

/-- The violation names neither an owner nor a connection. -/
def Violation.anonymous : Violation → Bool
  | .overlappingOperation | .unmatchedCompletion | .noConnectPending => true
  | _ => false

theorem Owners.named_of_mem_findings {owners : Owners} (reported : found ∈ owners.findings owner) :
    found.anonymous = false := by
  unfold findings at reported
  split at reported
  · contradiction
  · split at reported <;> rw [List.mem_singleton.mp reported] <;> rfl

/-- The violation is about the single operation and not about an event. -/
def Violation.concernsOperation : Violation → Bool
  | .overlappingOperation | .unmatchedCompletion => true
  | _ => false

theorem Violation.concernsOperation_of_named {violation : Violation}
    (named : violation.anonymous = false) : violation.concernsOperation = false := by
  cases violation <;> first | rfl | contradiction

namespace Event

/-- What becomes of an event while so many messages are still to be refused. -/
def fate (refusals : Nat) : Event → Outcome
  | .message event =>
    match event.window with
    | .error _ => .dropped
    | .ok _ => if refusals = 0 then .forwarded else .refused
  | .connect _ => .forwarded
  | .heartbeat _ => .observed

theorem fate_of_error {event : MessageEvent} (unframed : event.window = .error fault)
    (refusals : Nat) : (message event).fate refusals = .dropped := by
  simp only [fate, unframed]

theorem fate_of_ok {event : MessageEvent} (framed : event.window = .ok window)
    (refusals : Nat) :
    (message event).fate refusals = if refusals = 0 then .forwarded else .refused := by
  simp only [fate, framed]

theorem fate_message (event : MessageEvent) (refusals : Nat) :
    (message event).fate refusals = .forwarded ∨ (message event).fate refusals = .refused ∨
      (message event).fate refusals = .dropped := by
  cases framed : event.window with
  | error fault => exact .inr (.inr (fate_of_error framed refusals))
  | ok window =>
    rw [fate_of_ok framed]
    by_cases accepting : refusals = 0
    · exact .inl (if_pos accepting)
    · exact .inr (.inl (if_neg accepting))

def refusalsLeft (refusals : Nat) (event : Event) : Nat :=
  if event.fate refusals = .refused then refusals - 1 else refusals

theorem refusalsLeft_zero (event : Event) : event.refusalsLeft 0 = 0 := by
  unfold refusalsLeft
  split <;> rfl

/-- Connects are dispatched before anybody owns the connection. -/
def ownerFindings (owners : Owners) : Event → List Violation
  | .message event => owners.findings event.owner
  | .heartbeat event => owners.findings event.owner
  | .connect _ => []

/-- Connects are attributed to nobody who would have to be known. -/
theorem ownerFindings_eq_nil_iff (event : Event) (owners : Owners) :
    event.ownerFindings owners = [] ↔
      (event.kind ≠ .connect → event.owner = engineOwner ∨ event.owner ∈ owners.liveIds) := by
  cases event with
  | message event => simp [ownerFindings, kind, owner, owners.findings_eq_nil_iff]
  | connect event => simp [ownerFindings, kind]
  | heartbeat event => simp [ownerFindings, kind, owner, owners.findings_eq_nil_iff]

def overlapFindings (wasOpen : Bool) (event : Event) : List Violation :=
  if event.opensOperation ∧ wasOpen then [.overlappingOperation] else []

def outcomeFindings : Event → Outcome → List Violation
  | .message event, .dropped =>
    match event.window with
    | .error fault => [.malformedFrame event.connection fault.message]
    | .ok _ => []
  | .message event, .refused => [.messageRefused event.connection]
  | _, _ => []

/-- Everything to report about an event: the owner, then the operation, then the message. -/
def findings (owners : Owners) (wasOpen : Bool) (event : Event) (outcome : Outcome) :
    List Violation :=
  event.ownerFindings owners ++ event.overlapFindings wasOpen ++ event.outcomeFindings outcome

theorem findings_connect (owners : Owners) (wasOpen : Bool) (event : ConnectEvent) :
    (connect event).findings owners wasOpen .forwarded =
      (connect event).overlapFindings wasOpen :=
  List.append_nil _

theorem findings_heartbeat (owners : Owners) (wasOpen : Bool) (event : Heartbeat) :
    (heartbeat event).findings owners wasOpen .observed = owners.findings event.owner := by
  simp [findings, ownerFindings, overlapFindings, outcomeFindings, opensOperation]

section Anonymous
variable {event : Event} {owners : Owners}

theorem named_of_mem_ownerFindings (reported : found ∈ event.ownerFindings owners) :
    found.anonymous = false := by
  cases event with
  | message event => exact Owners.named_of_mem_findings reported
  | connect event => contradiction
  | heartbeat event => exact Owners.named_of_mem_findings reported

theorem named_of_mem_outcomeFindings (reported : found ∈ event.outcomeFindings outcome) :
    found.anonymous = false := by
  unfold outcomeFindings at reported
  split at reported
  · split at reported
    · rw [List.mem_singleton.mp reported]
      rfl
    · contradiction
  · rw [List.mem_singleton.mp reported]
    rfl
  · contradiction

/-- Nothing but an overlap is reported that names nobody. -/
theorem not_mem_findings (anonymous : found.anonymous = true)
    (other : found ≠ .overlappingOperation) (wasOpen : Bool) (outcome : Outcome) :
    found ∉ event.findings owners wasOpen outcome := by
  unfold findings
  rw [List.mem_append, List.mem_append]
  rintro ((owner | overlap) | lost)
  · rw [named_of_mem_ownerFindings owner] at anonymous
    contradiction
  · unfold overlapFindings at overlap
    split at overlap
    · exact other (List.mem_singleton.mp overlap)
    · contradiction
  · rw [named_of_mem_outcomeFindings lost] at anonymous
    contradiction

theorem count_overlaps (wasOpen : Bool) (outcome : Outcome) :
    (event.findings owners wasOpen outcome).count .overlappingOperation =
      (event.opensOperation && wasOpen).toNat := by
  have owner : (event.ownerFindings owners).count .overlappingOperation = 0 := by
    rw [List.count_eq_zero]
    intro reported
    exact Bool.noConfusion (named_of_mem_ownerFindings reported)
  have lost : (event.outcomeFindings outcome).count .overlappingOperation = 0 := by
    rw [List.count_eq_zero]
    intro reported
    exact Bool.noConfusion (named_of_mem_outcomeFindings reported)
  rw [findings, List.count_append, List.count_append, owner, lost, Nat.zero_add, Nat.add_zero,
    overlapFindings]
  cases event.opensOperation <;> cases wasOpen <;> rfl

end Anonymous
end Event
end SessionReplay
