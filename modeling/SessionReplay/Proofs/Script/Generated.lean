import SessionReplay.Proofs.Player.Relocation
import SessionReplay.Proofs.Script.RoundTrip
import SessionReplay.Script.Op

/-! What the operations of a generated script record, and what becomes of it. Each operation
appends at most one event. A message is framed wherever the padding puts it, and its content can be
read back; a malformed one never is. -/
namespace SessionReplay

/-- Nothing that is read of a message that a script frames depends on the padding. -/
theorem Script.reading_framed {script : Script} {owner : OwnerId} {connection : ConnectionId}
    {messageType : UInt8} {content : Bytes}
    (fits : script.padding + 24 + content.length < UInt64.size) :
    (script.framed owner connection messageType content).reading =
      { connection
        isResend := messageType.toUInt64 == resendRequestType
        framed := Wire.header ++ Wire.fixedBlock connection script.time ++ content
        content } := by
  have covers := @covers_framed script owner connection messageType content fits
  unfold MessageEvent.reading
  rw [← covers.framed_eq, ← covers.content_eq, framed_framed fits, content_framed fits]
  rfl

def Report.became (report : Report) : Outcome → Nat
  | .forwarded => report.forwarded
  | .refused => report.refused
  | .dropped => report.dropped
  | .observed => report.observed

namespace Course
variable (course : Course) (events : List Event) (violations : List Violation)

theorem became_report (outcome : Outcome) :
    (course.report events violations).became outcome =
      ((replayed course.refusals events).map Prod.snd).count outcome := by
  cases outcome <;> exact Nat.zero_add _

theorem connections_report : (course.report events violations).connections.toList =
    (events.filterMap Event.connect?).map ConnectEvent.connection := by
  rw [← announced_replayed course.refusals]
  show (#[] ++ List.toArray _).toList = _
  rw [Array.toList_append]
  rfl

end Course

theorem outcomes_replayed_zero (events : List Event) :
    (replayed 0 events).map Prod.snd = events.map (Event.fate 0) := by
  induction events with
  | nil => rfl
  | cons event rest ih =>
    rw [replayed, event.refusalsLeft_zero, List.map_cons, List.map_cons, ih]

namespace ScriptOp

def isMessage : ScriptOp → Bool
  | message .. => true
  | _ => false

def isMalformed : ScriptOp → Bool
  | malformed _ => true
  | _ => false

def isHeartbeat : ScriptOp → Bool
  | heartbeat .. => true
  | _ => false

def wording (resend : Bool) (fields : UInt8) : UInt8 × String :=
  if resend then (resendRequestType.toUInt8, Wire.resendBounds 1 fields.toUInt64)
  else (applicationType, bodyFields fields.toNat)

def content (resend : Bool) (fields : UInt8) : Bytes :=
  Wire.content (wording resend fields).1 (wording resend fields).2

/-- The buffer of what is recorded is not too long for its offsets. -/
def Fits (padding : Nat) : ScriptOp → Prop
  | message _ _ resend fields => padding + 24 + (content resend fields).length < UInt64.size
  | _ => True

instance (padding : Nat) : (op : ScriptOp) → Decidable (op.Fits padding)
  | message _ _ resend fields =>
    inferInstanceAs (Decidable (padding + 24 + (content resend fields).length < UInt64.size))
  | connect | malformed _ | heartbeat .. | advance _ => .isTrue trivial

def recorded (script : Script) (op : ScriptOp) : List Event := (op.apply script.drain.1).build

theorem apply_message (script : Script) (owner connection : UInt8) (resend : Bool)
    (fields : UInt8) :
    (message owner connection resend fields).apply script =
      script.record (.message (script.framed owner.toUInt32 connection.toUInt64
        (wording resend fields).1 (content resend fields))) := by
  cases resend <;> rfl

theorem build_apply (script : Script) (op : ScriptOp) :
    (op.apply script).build = script.build ++ op.recorded script := by
  have built (event : Event) : (script.record event).build = script.build ++ [event] :=
    Array.toList_push
  cases op with
  | connect => exact built _
  | message owner connection resend fields =>
    rw [recorded, apply_message, apply_message]
    exact built _
  | malformed connection => exact built _
  | heartbeat owner staleBy => exact built _
  | advance nanos => exact (List.append_nil _).symm

theorem padding_apply (script : Script) (op : ScriptOp) :
    (op.apply script).padding = script.padding := by
  cases op with
  | message owner connection resend fields => rw [apply_message]; rfl
  | _ => rfl

def recordedAll (script : Script) : List ScriptOp → List Event
  | [] => []
  | op :: rest => op.recorded script ++ recordedAll (op.apply script) rest

theorem build_applyAll (script : Script) (ops : List ScriptOp) :
    (applyAll script ops).build = script.build ++ recordedAll script ops := by
  induction ops generalizing script with
  | nil => exact (List.append_nil _).symm
  | cons op rest ih =>
    have later := ih (op.apply script)
    rw [build_apply, List.append_assoc] at later
    exact later

section Messages
variable {script : Script} {owner connection fields : UInt8} {resend : Bool}

theorem recorded_message :
    (message owner connection resend fields).recorded script =
      [.message (script.framed owner.toUInt32 connection.toUInt64 (wording resend fields).1
        (content resend fields))] := by
  rw [recorded, apply_message]
  rfl

theorem covers_recorded (fits : (message owner connection resend fields).Fits script.padding) :
    (script.windowOf (content resend fields)).Covers
      (script.framed owner.toUInt32 connection.toUInt64 (wording resend fields).1
        (content resend fields)) :=
  Script.covers_framed fits

/-- The offsets of a malformed message leave no room for its header. -/
theorem recorded_malformed : ∃ event : MessageEvent,
    (malformed connection).recorded script = [.message event] ∧
      event.window = .error (.noRoomForHeader 4) :=
  ⟨_, rfl, rfl⟩

end Messages

/-- What becomes of that which an operation records, if nothing is refused. -/
def outcome? : ScriptOp → Option Outcome
  | connect | message .. => some .forwarded
  | malformed _ => some .dropped
  | heartbeat .. => some .observed
  | advance _ => none

theorem fates_recorded {script : Script} {op : ScriptOp} (fits : op.Fits script.padding) :
    (op.recorded script).map (Event.fate 0) = op.outcome?.toList := by
  cases op with
  | message owner connection resend fields =>
    have framed := MessageEvent.window_of_covers (covers_recorded fits)
    rw [recorded_message, List.map_singleton, Event.fate_of_ok framed]
    rfl
  | malformed connection =>
    obtain ⟨event, recorded, unframed⟩ := @recorded_malformed script connection
    rw [recorded, List.map_singleton, Event.fate_of_error unframed]
    rfl
  | connect => rfl
  | heartbeat owner staleBy => rfl
  | advance nanos => rfl

/-- What a delivered message says is what the operation stands for. -/
inductive DeliveredAs : ScriptOp → FramedMessage → Prop where
  | message {owner connection fields : UInt8} {resend : Bool} {delivered : FramedMessage}
    {messageType : UInt8} {text : String}
    (sender : delivered.connection = connection.toUInt64)
    (flag : delivered.isResend = resend)
    (read : (Wire.body? delivered.content).bind Wire.parts? = some (messageType, text))
    (said : if resend then Wire.bounds? text = some (1, fields.toNat)
      else text = String.join (List.replicate fields.toNat "58=x\x01")) :
    DeliveredAs (.message owner connection resend fields) delivered

theorem delivered_recorded {script : Script} {op : ScriptOp} (fits : op.Fits script.padding) :
    List.Forall₂ DeliveredAs ([op].filter isMessage)
      ((op.recorded script).filterMap Event.cutOut?) := by
  cases op with
  | message owner connection resend fields =>
    have covers := covers_recorded fits
    have cut := Event.cutOut?_of_ok (MessageEvent.window_of_covers covers)
    rw [recorded_message, List.filterMap_cons_some cut]
    refine .cons ?_ .nil
    apply @DeliveredAs.message _ _ _ _ _ (wording resend fields).1 (wording resend fields).2
    case sender => rfl
    case flag => cases resend <;> rfl
    case read =>
      rw [Script.content_framed fits, content, Wire.body?_content, Option.bind_some,
        Wire.parts?_body]
    case said =>
      cases resend with
      | true => exact Wire.bounds?_resendBounds 1 fields.toUInt64
      | false => rfl
  | malformed connection =>
    obtain ⟨event, recorded, unframed⟩ := @recorded_malformed script connection
    rw [recorded, List.filterMap_cons_none (Event.cutOut?_of_error unframed)]
    exact .nil
  | connect => exact .nil
  | heartbeat owner staleBy => exact .nil
  | advance nanos => exact .nil

section Connections
variable {script : Script}

theorem connects_recorded {op : ScriptOp} (other : op ≠ connect) :
    (op.recorded script).filterMap Event.connect? = [] ∧
      (op.apply script).nextConnection = script.nextConnection := by
  cases op with
  | connect => contradiction
  | message owner connection resend fields =>
    rw [recorded_message, apply_message]
    exact ⟨rfl, rfl⟩
  | malformed connection => exact ⟨rfl, rfl⟩
  | heartbeat owner staleBy => exact ⟨rfl, rfl⟩
  | advance nanos => exact ⟨rfl, rfl⟩

/-- Connections are numbered from the next free one on, whatever lies between. -/
theorem connections_recordedAll (script : Script) (ops : List ScriptOp) :
    ((recordedAll script ops).filterMap Event.connect?).map ConnectEvent.connection =
      (List.range (ops.count connect)).map fun k => script.nextConnection + UInt64.ofNat k := by
  induction ops generalizing script with
  | nil => rfl
  | cons op rest ih =>
    rw [recordedAll, List.filterMap_append, List.map_append, ih]
    by_cases same : op = connect
    · -- a connect takes the next number, so the rest is counted from one more
      subst same
      have shifted (k : Nat) : script.nextConnection + 1 + UInt64.ofNat k =
          script.nextConnection + UInt64.ofNat (k + 1) := by
        rw [UInt64.ofNat_add, UInt64.add_assoc, UInt64.add_comm (UInt64.ofNat k)]
        rfl
      rw [List.count_cons_self, List.range_succ_eq_map, List.map_cons, List.map_map]
      refine congrArg₂ List.cons (UInt64.add_zero _).symm ?_
      exact List.map_congr_left fun k _ => shifted k
    · obtain ⟨none, next⟩ := @connects_recorded script op same
      rw [none, next, List.count_cons_of_ne same]
      rfl

end Connections

section Rows
variable {script : Script} {ops : List ScriptOp}

theorem fits_apply {op : ScriptOp} {rest : List ScriptOp}
    (fits : ∀ each ∈ op :: rest, each.Fits script.padding) :
    op.Fits script.padding ∧ ∀ each ∈ rest, each.Fits (op.apply script).padding := by
  rw [padding_apply]
  exact List.forall_mem_cons.mp fits

theorem fates_recordedAll (fits : ∀ op ∈ ops, op.Fits script.padding) :
    (recordedAll script ops).map (Event.fate 0) = ops.filterMap outcome? := by
  induction ops generalizing script with
  | nil => rfl
  | cons op rest ih =>
    obtain ⟨first, later⟩ := fits_apply fits
    rw [recordedAll, List.map_append, fates_recorded first, ih later, List.filterMap_cons]
    cases op.outcome? <;> rfl

theorem delivered_recordedAll (fits : ∀ op ∈ ops, op.Fits script.padding) :
    List.Forall₂ DeliveredAs (ops.filter isMessage)
      ((recordedAll script ops).filterMap Event.cutOut?) := by
  induction ops generalizing script with
  | nil => exact .nil
  | cons op rest ih =>
    obtain ⟨first, later⟩ := fits_apply fits
    rw [recordedAll, List.filterMap_append, ← List.singleton_append, List.filter_append]
    exact List.rel_append (delivered_recorded first) (ih later)

end Rows

/-- Two scripts at the same time that number connections alike. -/
structure Abreast (first second : Script) : Prop where
  time : second.time = first.time
  nextConnection : second.nextConnection = first.nextConnection

section Paddings
variable {first second : Script} {ops : List ScriptOp}

theorem Abreast.apply (abreast : Abreast first second) (op : ScriptOp) :
    Abreast (op.apply first) (op.apply second) := by
  obtain ⟨time, nextConnection⟩ := abreast
  cases op with
  | connect => exact ⟨time, congrArg (· + 1) nextConnection⟩
  | message owner connection resend fields =>
    rw [apply_message, apply_message]
    exact ⟨time, nextConnection⟩
  | malformed connection => exact ⟨time, nextConnection⟩
  | heartbeat owner staleBy => exact ⟨time, nextConnection⟩
  | advance nanos => exact ⟨congrArg (Word.addCapped · nanos.toUInt64) time, nextConnection⟩

theorem Abreast.recorded (abreast : Abreast first second) {op : ScriptOp}
    (fits : op.Fits first.padding) (fitsToo : op.Fits second.padding) :
    RelocatedAll (op.recorded first) (op.recorded second) := by
  have unmoved (events : List Event) : RelocatedAll events events :=
    List.forall₂_same.mpr fun event _ => .same event
  obtain ⟨time, nextConnection, padding, events⟩ := first
  obtain ⟨_, _, other, others⟩ := second
  obtain ⟨rfl, rfl⟩ := abreast
  -- only messages look at the padding; whatever else is recorded is the same event twice
  cases op with
  | message owner connection resend fields =>
    rw [recorded_message, recorded_message]
    refine .cons (.moved (covers_recorded fits) (covers_recorded fitsToo) rfl rfl ?_) .nil
    rw [Script.reading_framed fits, Script.reading_framed fitsToo]
  | connect => exact unmoved _
  | malformed connection => exact unmoved _
  | heartbeat owner staleBy => exact unmoved _
  | advance nanos => exact unmoved _

theorem Abreast.recordedAll (abreast : Abreast first second)
    (fits : ∀ op ∈ ops, op.Fits first.padding) (fitsToo : ∀ op ∈ ops, op.Fits second.padding) :
    RelocatedAll (recordedAll first ops) (recordedAll second ops) := by
  induction ops generalizing first second with
  | nil => exact .nil
  | cons op rest ih =>
    obtain ⟨head, tail⟩ := fits_apply fits
    obtain ⟨headToo, tailToo⟩ := fits_apply fitsToo
    exact List.rel_append (abreast.recorded head headToo) (ih (abreast.apply op) tail tailToo)

end Paddings

section Counts
variable (ops : List ScriptOp)

theorem countP_forwarded : ops.countP (·.outcome? == some .forwarded) =
    ops.count connect + ops.countP isMessage := by
  induction ops with
  | nil => rfl
  | cons op rest ih =>
    rw [List.countP_cons, ih, List.count_cons, List.countP_cons]
    cases op <;> simp [outcome?, isMessage] <;> omega

theorem countP_dropped :
    ops.countP (·.outcome? == some .dropped) = ops.countP isMalformed := by
  apply List.countP_congr
  intro op _
  cases op <;> simp [outcome?, isMalformed]

theorem countP_observed :
    ops.countP (·.outcome? == some .observed) = ops.countP isHeartbeat := by
  apply List.countP_congr
  intro op _
  cases op <;> simp [outcome?, isHeartbeat]

theorem countP_refused : ops.countP (·.outcome? == some .refused) = 0 := by
  apply List.countP_eq_zero.mpr
  intro op _
  cases op <;> simp [outcome?]

end Counts

open Player

/-- What a generated script comes to when a fresh player plays it and nothing is refused. Connects
and messages are forwarded, malformed messages are dropped and heartbeats are observed. Connections
are numbered from one on. The messages are delivered in order, each with what its operation asked
for. No padding shows in the report or in what is delivered. -/
theorem generated_script_law (start : Word) (padding : Nat) (ops : List ScriptOp)
    (fits : ∀ op ∈ ops, op.Fits padding) (config : Config) (policy : CompletionPolicy)
    (seed : UInt64) (size : Nat) :
    let played (padding : Nat) :=
      (fresh config policy seed size).run (applyAll { time := start, padding } ops).build
    let delivered (padding : Nat) := (played padding).1.dispatcher.transport.messages.toList
    let report := (played padding).2
    report.forwarded = ops.count connect + ops.countP isMessage ∧
      report.dropped = ops.countP isMalformed ∧
      report.observed = ops.countP isHeartbeat ∧
      report.refused = 0 ∧
      report.connections.toList =
        (List.range (ops.count connect)).map (fun k => UInt64.ofNat (k + 1)) ∧
      List.Forall₂ DeliveredAs (ops.filter isMessage) (delivered padding) ∧
      ∀ other, (∀ op ∈ ops, op.Fits other) →
        (played other).2 = report ∧
        (delivered other).map FramedMessage.framed = (delivered padding).map FramedMessage.framed ∧
        (delivered other).map FramedMessage.content =
          (delivered padding).map FramedMessage.content := by
  intro played delivered report
  have follows := follows_start config policy seed size
  have built (padding : Nat) : (applyAll { time := start, padding } ops).build =
      recordedAll { time := start, padding } ops := build_applyAll _ ops
  have reported : report = _ := follows.report_run (applyAll { time := start, padding } ops).build
  have fates := @fates_recordedAll { time := start, padding } ops fits
  have counted (outcome : Outcome) :
      report.became outcome = ops.countP (·.outcome? == some outcome) := by
    rw [reported, Course.became_report, built, ← List.count_filterMap, ← fates]
    exact congrArg (List.count outcome) (outcomes_replayed_zero _)
  refine ⟨?_, ?_, ?_, ?_, ?_, ?_, ?_⟩
  · exact (counted .forwarded).trans (countP_forwarded ops)
  · exact (counted .dropped).trans (countP_dropped ops)
  · exact (counted .observed).trans (countP_observed ops)
  · exact (counted .refused).trans (countP_refused ops)
  · have shifted (k : Nat) : 1 + UInt64.ofNat k = UInt64.ofNat (k + 1) := by
      rw [UInt64.ofNat_add, UInt64.add_comm]
      rfl
    rw [reported, Course.connections_report, built, connections_recordedAll]
    exact List.map_congr_left fun k _ => shifted k
  · have entered : delivered padding = _ := congrArg Ledger.messages (ledger_run _ _)
    rw [built] at entered
    rw [entered]
    exact @delivered_recordedAll { time := start, padding } ops fits
  · intro other fitsToo
    have abreast : Abreast { time := start, padding } { time := start, padding := other } :=
      ⟨rfl, rfl⟩
    have relocated := abreast.recordedAll fits fitsToo
    rw [← built, ← built] at relocated
    obtain ⟨same, readings⟩ := follows.run_relocated relocated
    have framed := congrArg (List.map Reading.framed) readings
    have content := congrArg (List.map Reading.content) readings
    rw [List.map_map, List.map_map] at framed content
    exact ⟨same, framed, content⟩

/-- A connect, two messages of which one asks for a resend, a malformed one and a heartbeat, once
at the front of their buffers and once behind five bytes. -/
theorem generated_script_law_mixed :
    let ops : List ScriptOp := [.connect, .message 3 1 false 2, .advance 7, .malformed 1,
      .heartbeat 3 9, .message 3 1 true 40]
    let played (padding : Nat) :=
      (fresh {} .deferred 7 4).run (applyAll { time := 1000, padding } ops).build
    (∀ op ∈ ops, op.Fits 0) ∧ (∀ op ∈ ops, op.Fits 5) ∧
      (played 0).2.forwarded = 3 ∧ (played 0).2.dropped = 1 ∧ (played 0).2.observed = 1 ∧
      (played 0).2.connections.toList = [1] ∧
      (∃ message request, (played 0).1.dispatcher.transport.messages.toList = [message, request] ∧
        DeliveredAs (.message 3 1 false 2) message ∧ DeliveredAs (.message 3 1 true 40) request) ∧
      (played 5).2 = (played 0).2 := by
  intro ops played
  have fits : ∀ op ∈ ops, op.Fits 0 := by decide
  have fitsToo : ∀ op ∈ ops, op.Fits 5 := by decide
  obtain ⟨forwarded, dropped, observed, -, connections, delivered, moved⟩ :=
    generated_script_law 1000 0 ops fits {} .deferred 7 4
  refine ⟨fits, fitsToo, forwarded, dropped, observed, connections, ?_, (moved 5 fitsToo).1⟩
  have messages : ops.filter isMessage = [.message 3 1 false 2, .message 3 1 true 40] := rfl
  rw [messages] at delivered
  obtain ⟨message, _, first, rest, found⟩ := List.forall₂_cons_left_iff.mp delivered
  obtain ⟨request, _, second, last, rfl⟩ := List.forall₂_cons_left_iff.mp rest
  rw [List.forall₂_nil_left_iff.mp last] at found
  exact ⟨message, request, found, first, second⟩

end ScriptOp
end SessionReplay
