import Mathlib.Data.List.Induction
import SessionReplay.Proofs.Dispatcher.Ledger
import SessionReplay.Proofs.Owner.Live
import SessionReplay.Proofs.Session.Law

/-! The audit of owners within a session. An owner is judged by the registry that was installed
last, as it stands when the event is dispatched, and the judgement leaves the rest of the dispatch
alone. Sessions whose registries hold the same owners cannot be told apart. -/
namespace SessionReplay

def Violation.concernsOwner : Violation → Bool
  | .unknownOwner .. | .registryMissing _ => true
  | _ => false

theorem Event.filter_findings (owners : Owners) (wasOpen : Bool) (event : Event)
    (outcome : Outcome) :
    (event.findings owners wasOpen outcome).filter Violation.concernsOwner =
      event.ownerFindings owners := by
  have owner {owner : OwnerId} :
      (owners.findings owner).filter Violation.concernsOwner = owners.findings owner := by
    unfold Owners.findings
    split
    · rfl
    · split <;> rfl
  have whose : (event.ownerFindings owners).filter Violation.concernsOwner =
      event.ownerFindings owners := by
    cases event with
    | message event => exact owner
    | connect event => rfl
    | heartbeat event => exact owner
  have overlap : (event.overlapFindings wasOpen).filter Violation.concernsOwner = [] := by
    unfold overlapFindings
    split <;> rfl
  have lost : (event.outcomeFindings outcome).filter Violation.concernsOwner = [] := by
    unfold outcomeFindings
    split
    · split <;> rfl
    · rfl
    · rfl
  rw [findings, List.filter_append, List.filter_append, whose, overlap, lost, List.append_nil,
    List.append_nil]

namespace Command

/-- The command is about registries, and not about the dispatcher or its transport. -/
def concernsOwners : Command → Bool
  | .install _ | .registerShared _ | .unregisterShared _ => true
  | _ => false

def installs : Command → Bool
  | .install _ => true
  | _ => false

/-- What is installed is a registry. -/
def Proper : Command → Prop
  | .install owners => owners.installed.isSome = true
  | _ => True

end Command

/-- The registry that was installed last, as it is after all that was done to it since. -/
def ownersAfter (commands : List Command) : Owners :=
  commands.foldl (fun owners command => command.onOwners owners) {}

theorem ownersAfter_concat (commands : List Command) (command : Command) :
    ownersAfter (commands ++ [command]) = command.onOwners (ownersAfter commands) := by
  simp only [ownersAfter, List.foldl_append, List.foldl_cons, List.foldl_nil]

theorem Owners.installed_registerShared (owners : Owners) (info : OwnerInfo) :
    (owners.registerShared info).1.installed = owners.installed := by
  unfold registerShared
  split <;> rfl

theorem Owners.installed_unregisterShared (owners : Owners) (owner : OwnerId) :
    (owners.unregisterShared owner).1.installed = owners.installed := by
  unfold unregisterShared
  split <;> rfl

theorem isSome_ownersAfter (commands : List Command)
    (proper : ∀ command ∈ commands, command.Proper) :
    (ownersAfter commands).installed.isSome = commands.any Command.installs := by
  induction commands using List.reverseRecOn with
  | nil => rfl
  | append_singleton commands command ih =>
    have before := ih fun command member => proper command (List.mem_append_left _ member)
    have last := proper command (List.mem_append_right _ (List.mem_singleton_self command))
    rw [ownersAfter_concat, List.any_append]
    cases command with
    | install owners => exact (last.trans (Bool.or_true _).symm)
    | registerShared info =>
      show (Owners.registerShared _ info).1.installed.isSome = _
      rw [Owners.installed_registerShared, before]
      exact (Bool.or_false _).symm
    | unregisterShared owner =>
      show (Owners.unregisterShared _ owner).1.installed.isSome = _
      rw [Owners.installed_unregisterShared, before]
      exact (Bool.or_false _).symm
    | dispatch | request | takeConnection | resetCount | checkCount =>
      exact before.trans (Bool.or_false _).symm

namespace Dispatcher

/-- Two dispatchers that agree on everything in which owners have no part. -/
structure Twins (first second : Dispatcher Simulated) : Prop where
  ledger : second.transport.ledger = first.transport.ledger
  awaiting : second.awaiting = first.awaiting
  registered : second.transport.registered = first.transport.registered
  now : second.now = first.now
  count : second.count = first.count
  pending : second.pending = first.pending
  inFlight : second.inFlight = first.inFlight
  channel : second.channel = first.channel

/-- Two dispatchers that reported the same as well, whatever their registries are. -/
structure Alike (first second : Dispatcher Simulated) : Prop extends Twins first second where
  violations : second.violations = first.violations

section Pairs
variable {first second : Dispatcher Simulated}

/-- Nobody changes the setting, so what agreed in it still does. -/
theorem agree_of_setting {α : Type} (part : Setting → α) {left right : Dispatcher Simulated}
    (one : left.setting = first.setting) (two : right.setting = second.setting)
    (agree : part second.setting = part first.setting) :
    part right.setting = part left.setting := by
  rw [one, two, agree]

/-- What becomes of an event does not depend on what its owner is. -/
theorem Twins.dispatch (twins : Twins first second) (event : Event) :
    (second.dispatch event).2 = (first.dispatch event).2 ∧
      Twins (first.dispatch event).1 (second.dispatch event).1 := by
  have refusals : second.transport.refusals = first.transport.refusals :=
    congrArg Ledger.refusals twins.ledger
  have outcome : (second.dispatch event).2 = (first.dispatch event).2 := by
    rw [outcome_dispatch, outcome_dispatch, refusals]
  have one := first.dispatched event
  have two := second.dispatched event
  refine ⟨outcome, ?_, ?_, ?_, ?_, ?_, ?_, ?_, ?_⟩
  · rw [ledger_dispatch, ledger_dispatch, twins.ledger]
  · rw [one.awaiting, two.awaiting, twins.awaiting, outcome]
  · exact agree_of_setting Setting.registered one.setting two.setting twins.registered
  · rw [one.now, two.now, twins.now]
  · rw [one.count, two.count, twins.count]
  · rw [one.pending, two.pending, twins.pending]
  · rw [one.inFlight, two.inFlight, twins.inFlight]
  · exact agree_of_setting Setting.channel one.setting two.setting twins.channel

theorem Alike.dispatch (alike : Alike first second) (agree : first.owners.Agree second.owners)
    (event : Event) :
    (second.dispatch event).2 = (first.dispatch event).2 ∧
      Alike (first.dispatch event).1 (second.dispatch event).1 := by
  obtain ⟨outcome, twins⟩ := alike.toTwins.dispatch event
  refine ⟨outcome, twins, ?_⟩
  rw [(first.dispatched event).violations, (second.dispatched event).violations,
    alike.violations, alike.channel, alike.inFlight, outcome, agree.eventFindings]

theorem Alike.complete (alike : Alike first second) (one : Completed first ended left)
    (two : Completed second ended right)
    (ledger : right.transport.ledger = left.transport.ledger) : Alike left right := by
  refine ⟨⟨ledger, ?_, ?_, ?_, ?_, ?_, ?_, ?_⟩, ?_⟩
  · rw [one.awaiting, two.awaiting, alike.awaiting]
  · exact agree_of_setting Setting.registered one.setting two.setting alike.registered
  · rw [one.now, two.now, alike.now]
  · rw [one.count, two.count, alike.count]
  · rw [one.pending, two.pending, alike.pending]
  · rw [one.inFlight, two.inFlight, alike.inFlight]
  · exact agree_of_setting Setting.channel one.setting two.setting alike.channel
  · rw [one.violations, two.violations, alike.violations, alike.channel, alike.inFlight]

theorem channel_finish (dispatcher : Dispatcher Simulated) :
    dispatcher.finish.channel = dispatcher.channel :=
  dispatcher.operations.channel_finish

theorem violations_finish (dispatcher : Dispatcher Simulated) :
    dispatcher.finish.violations = dispatcher.violations ++
      dispatcher.channel.kept (Operations.breach dispatcher.inFlight .finish) :=
  dispatcher.operations.violations_finish

theorem Alike.finish (alike : Alike first second) : Alike first.finish second.finish := by
  refine { alike with inFlight := rfl, channel := ?_, violations := ?_ }
  · rw [channel_finish, channel_finish, alike.channel]
  · rw [violations_finish, violations_finish, alike.violations, alike.channel, alike.inFlight]

theorem Alike.request (alike : Alike first second) (registered : first.transport.registered = true)
    (request : Request) :
    (second.request request).2 = (first.request request).2 ∧
      Alike (first.request request).1 (second.request request).1 := by
  have registeredToo := alike.registered.trans registered
  have ledger : (second.request request).1.transport.ledger =
      (first.request request).1.transport.ledger := by
    rw [ledger_request, ledger_request, alike.ledger]
  cases request with
  | completeNext =>
    obtain ⟨answer, one⟩ := completed_next registered
    obtain ⟨answerToo, two⟩ := completed_next registeredToo
    rw [alike.awaiting] at answerToo two
    exact ⟨answerToo.trans answer.symm, alike.complete one two ledger⟩
  | completeAll =>
    obtain ⟨answer, one⟩ := completed_all registered
    obtain ⟨answerToo, two⟩ := completed_all registeredToo
    rw [alike.awaiting] at answerToo two
    exact ⟨answerToo.trans answer.symm, alike.complete one two ledger⟩
  | completeSpurious =>
    have spurious {dispatcher : Dispatcher Simulated}
        (registered : dispatcher.transport.registered = true) :
        dispatcher.request .completeSpurious = (dispatcher.finish, .done) := by
      simp only [Dispatcher.request, Transport.request, Simulated.request,
        Simulated.completeSpurious, registered, if_true]
      rfl
    rw [spurious registered, spurious registeredToo]
    exact ⟨rfl, alike.finish⟩
  | refuseNext count => exact ⟨rfl, { alike with ledger }⟩
  | answer accepts => exact ⟨rfl, { alike with ledger }⟩

theorem Alike.takeConnection (alike : Alike first second) :
    second.takeConnection.2 = first.takeConnection.2 ∧
      Alike first.takeConnection.1 second.takeConnection.1 := by
  cases waiting : first.pending with
  | none =>
    rw [takeConnection_of_none waiting, takeConnection_of_none (alike.pending.trans waiting)]
    refine ⟨rfl, { alike with violations := ?_ }⟩
    rw [violations_report, violations_report, alike.violations, alike.channel]
  | some connection =>
    rw [takeConnection_of_some waiting, takeConnection_of_some (alike.pending.trans waiting)]
    have untaken : Alike { first with pending := none } { second with pending := none } :=
      { alike with pending := rfl }
    exact ⟨rfl, untaken.finish⟩

theorem Alike.checkCount (alike : Alike first second) (limit : Nat) :
    (second.checkCount limit).2 = (first.checkCount limit).2 ∧
      Alike (first.checkCount limit).1 (second.checkCount limit).1 := by
  unfold Dispatcher.checkCount
  rw [alike.count]
  split
  · exact ⟨rfl, alike⟩
  · exact ⟨rfl, { alike with count := rfl }⟩

/-- Asked the same while their registries hold the same, dispatchers answer the same. -/
theorem Alike.obey (alike : Alike first second) (registered : first.transport.registered = true)
    (agree : first.owners.Agree second.owners) (elsewhere : command.concernsOwners = false) :
    (second.obey command).2 = (first.obey command).2 ∧
      Alike (first.obey command).1 (second.obey command).1 := by
  cases command with
  | dispatch event =>
    obtain ⟨outcome, after⟩ := alike.dispatch agree event
    exact ⟨congrArg Answer.outcome outcome, after⟩
  | request request =>
    obtain ⟨answer, after⟩ := alike.request registered request
    exact ⟨congrArg Answer.request answer, after⟩
  | takeConnection =>
    obtain ⟨taken, after⟩ := alike.takeConnection
    exact ⟨congrArg Answer.taken taken, after⟩
  | resetCount => exact ⟨rfl, { alike with count := rfl }⟩
  | checkCount limit =>
    obtain ⟨exceeded, after⟩ := alike.checkCount limit
    exact ⟨congrArg Answer.flag exceeded, after⟩
  | install | registerShared | unregisterShared => contradiction

/-- What is done to registries shows in nothing else. -/
theorem Alike.aside (alike : Alike first second) (about : command.concernsOwners = true) :
    Alike (first.obey command).1 second ∧ Alike first (second.obey command).1 := by
  cases command with
  | install owners => exact ⟨{ alike with }, { alike with }⟩
  | registerShared info => exact ⟨{ alike with }, { alike with }⟩
  | unregisterShared owner => exact ⟨{ alike with }, { alike with }⟩
  | dispatch | request | takeConnection | resetCount | checkCount => contradiction

end Pairs

/-- Two sessions in which the same is asked but for what is done to registries. Whenever
something else is asked, the installed registries hold the same owners. -/
inductive Paired : List Command → List Command → Prop where
  | nil : Paired [] []
  | first (paired : Paired first second) (about : command.concernsOwners = true) :
    Paired (first ++ [command]) second
  | second (paired : Paired first second) (about : command.concernsOwners = true) :
    Paired first (second ++ [command])
  | both (paired : Paired first second) (agree : (ownersAfter first).Agree (ownersAfter second))
    (elsewhere : command.concernsOwners = false) :
    Paired (first ++ [command]) (second ++ [command])

def apartFromOwners (past : Transcript) : Transcript :=
  past.filter fun exchange => !exchange.command.concernsOwners

theorem apartFromOwners_about (about : command.concernsOwners = true) (answer : Answer)
    (past : Transcript) : apartFromOwners (⟨command, answer⟩ :: past) = apartFromOwners past := by
  simp [apartFromOwners, about]

theorem apartFromOwners_elsewhere (elsewhere : command.concernsOwners = false) (answer : Answer)
    (past : Transcript) :
    apartFromOwners (⟨command, answer⟩ :: past) = ⟨command, answer⟩ :: apartFromOwners past := by
  simp [apartFromOwners, elsewhere]

section Sessions
variable (config : Config)

/-- A session with a fresh dispatcher that keeps what is reported. -/
def freshSession (commands : List Command) : Dispatcher Simulated × Transcript :=
  (Dispatcher.new ({} : Simulated) .collecting config).session commands

theorem freshSession_concat (commands : List Command) (command : Command) :
    freshSession config (commands ++ [command]) =
      (((freshSession config commands).1.obey command).1,
        ⟨command, ((freshSession config commands).1.obey command).2⟩ ::
          (freshSession config commands).2) :=
  session_concat _ commands command

theorem owners_freshSession (commands : List Command) :
    (freshSession config commands).1.owners = ownersAfter commands := by
  induction commands using List.reverseRecOn with
  | nil => rfl
  | append_singleton commands command ih =>
    rw [freshSession_concat, ownersAfter_concat, owners_obey, ih]

/-- Registries that hold the same owners at every moment lead to the same session. -/
theorem Paired.alike (paired : Paired commands others) :
    Alike (freshSession config commands).1 (freshSession config others).1 ∧
      apartFromOwners (freshSession config others).2 =
        apartFromOwners (freshSession config commands).2 := by
  induction paired with
  | nil => exact ⟨⟨⟨rfl, rfl, rfl, rfl, rfl, rfl, rfl, rfl⟩, rfl⟩, rfl⟩
  | first paired about ih =>
    obtain ⟨alike, same⟩ := ih
    rw [freshSession_concat, apartFromOwners_about about]
    exact ⟨(alike.aside about).1, same⟩
  | second paired about ih =>
    obtain ⟨alike, same⟩ := ih
    rw [freshSession_concat, apartFromOwners_about about]
    exact ⟨(alike.aside about).2, same⟩
  | @both commands others command paired agree elsewhere ih =>
    obtain ⟨alike, same⟩ := ih
    have registered := (recounts_session config commands).registered
    -- the registries that the dispatchers have are those that the commands left behind
    rw [← owners_freshSession config, ← owners_freshSession config] at agree
    obtain ⟨answer, after⟩ := alike.obey registered agree elsewhere
    rw [freshSession_concat, freshSession_concat, apartFromOwners_elsewhere elsewhere,
      apartFromOwners_elsewhere elsewhere, same, answer]
    exact ⟨after, rfl⟩

/-- Whatever was dispatched, installed, registered and removed before, the next event is found
guilty of its owner once or not at all: it must name an owner who is neither the engine nor live
in the registry that was installed last, as that registry is now. All the rest is as if the owner
were known. Registries of whatever kind that hold the same owners cannot be told apart. -/
theorem provenance_at_dispatch (commands : List Command)
    (proper : ∀ command ∈ commands, command.Proper) :
    let dispatcher := (freshSession config commands).1
    let owners := ownersAfter commands
    (∀ event : Event, ∃ reported known,
      (dispatcher.dispatch event).1.violations = dispatcher.violations ++ reported ∧
      known.Pairwise (· < ·) ∧ (∀ owner, owner ∈ known ↔ owners.live owner = true) ∧
      reported.filter Violation.concernsOwner =
        (if event.kind = .connect ∨ event.owner = engineOwner ∨ owners.live event.owner = true then []
        else if commands.any Command.installs then [.unknownOwner event.owner known]
        else [.registryMissing event.owner]) ∧
      ∀ others : Owners,
        let elsewhere := ({ dispatcher with owners := others }).dispatch event
        elsewhere.2 = (dispatcher.dispatch event).2 ∧
          Twins (dispatcher.dispatch event).1 elsewhere.1) ∧
    ∀ others, Paired commands others →
      Alike dispatcher (freshSession config others).1 ∧
        apartFromOwners (freshSession config others).2 =
          apartFromOwners (freshSession config commands).2 := by
  intro dispatcher owners
  refine ⟨?_, fun others paired => paired.alike config⟩
  intro event
  have dispatched := dispatcher.dispatched event
  have channel : dispatcher.channel = .collecting := (recounts_session config commands).channel
  have installed : owners.installed.isSome = commands.any Command.installs :=
    isSome_ownersAfter commands proper
  refine ⟨event.findings owners dispatcher.inFlight (dispatcher.dispatch event).2,
    owners.liveIds, ?_, owners.liveIds_ascending, owners.mem_liveIds_iff, ?_, ?_⟩
  · rw [dispatched.violations, channel, owners_freshSession]
    rfl
  · rw [Event.filter_findings, ← installed]
    exact owners.ownerFindings_eq event
  · intro others
    have twins : Twins dispatcher { dispatcher with owners := others } :=
      ⟨rfl, rfl, rfl, rfl, rfl, rfl, rfl, rfl⟩
    exact twins.dispatch event

/-- An owner that is registered late is unknown at first and known from then on, with a shared
table just as with a plain set of owners that is replaced by a larger one. -/
theorem provenance_of_latecomer :
    let share : Command := .install ⟨some .shared, some .empty⟩
    let beat : Event := .heartbeat ⟨5, 7⟩
    let commands := [share, .dispatch beat, .registerShared (.bare 7), .dispatch beat]
    let others := [.install ⟨some (.directory ∅), none⟩, .dispatch beat,
      .install ⟨some (.directory {7}), none⟩, .dispatch beat]
    (∀ command ∈ commands, command.Proper) ∧ Paired commands others ∧
      Alike (freshSession {} commands).1 (freshSession {} others).1 ∧
      ∃ reported, ((freshSession {} [share]).1.dispatch beat).1.violations =
          (freshSession {} [share]).1.violations ++ reported ∧
        reported.filter Violation.concernsOwner = [.unknownOwner 7 []] := by
  intro share beat commands others
  have proper : ∀ command ∈ commands, command.Proper := by
    simp [commands, share, Command.Proper]
  have nobody : (ownersAfter [share]).Agree (ownersAfter (others.take 1)) := by
    refine ⟨rfl, fun owner => ?_⟩
    show OwnerTable.empty.contains owner = (∅ : OwnerDirectory).contains owner
    simp [OwnerTable.empty, OwnerTable.contains]
  have somebody : (ownersAfter (commands.take 3)).Agree (ownersAfter (others.take 3)) := by
    refine ⟨rfl, fun owner => ?_⟩
    show (OwnerTable.empty.register (.bare 7)).1.contains owner =
      ({7} : OwnerDirectory).contains owner
    rw [OwnerTable.contains_register, Bool.eq_iff_iff]
    simp [OwnerTable.empty, OwnerTable.contains, OwnerInfo.bare, @eq_comm _ owner]
  have paired : Paired commands others := by
    have installed : Paired [share] (others.take 1) := (Paired.nil.first rfl).second rfl
    have met : Paired (commands.take 2) (others.take 2) := installed.both nobody rfl
    have registered : Paired (commands.take 3) (others.take 3) := (met.first rfl).second rfl
    exact registered.both somebody rfl
  refine ⟨proper, paired, ?_, ?_⟩
  · exact ((provenance_at_dispatch {} commands proper).2 others paired).1
  · obtain ⟨found, -⟩ := provenance_at_dispatch {} [share] (by simp [share, Command.Proper])
    obtain ⟨reported, known, violations, -, live, guilty, -⟩ := found beat
    have unknown (owner : OwnerId) : (ownersAfter [share]).live owner = false := by
      show OwnerTable.empty.contains owner = false
      simp [OwnerTable.empty, OwnerTable.contains]
    have none : known = [] := by
      apply List.eq_nil_iff_forall_not_mem.mpr
      intro owner member
      have := (live owner).mp member
      rw [unknown] at this
      contradiction
    refine ⟨reported, violations, guilty.trans ?_⟩
    rw [none]
    simp [beat, unknown, share, Event.kind, Event.owner, engineOwner, Command.installs]

end Sessions
end Dispatcher
end SessionReplay
