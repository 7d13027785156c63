import SessionReplay.Script.Step

/-! Building a script, call by call. A call moves the capture time or records one event at that
time; a drain takes the events away and leaves time and numbering alone. So drains show in nothing
but where the events are handed over, and every event can be told from its call and from how far
the earlier calls moved the time. -/
namespace SessionReplay
namespace ScriptStep

/-- The step is one call of the script's builder. -/
def isCall : ScriptStep → Bool
  | insert _ | repeated .. => false
  | _ => true

def isDrain : ScriptStep → Bool
  | drain => true
  | _ => false

def isAdvance : ScriptStep → Bool
  | advance _ | apply (.advance _) => true
  | _ => false

def isConnect : ScriptStep → Bool
  | connect _ | apply .connect => true
  | _ => false

/-- How far a call moves the capture time. -/
def moved : ScriptStep → Nat
  | advance nanos => nanos.toNat
  | apply (.advance nanos) => nanos.toNat
  | _ => 0

/-- The kind of event that a call records, and how far it is stamped behind the capture time. -/
def records? : ScriptStep → Option (EventKind × Nat)
  | connect _ | apply .connect => some (.connect, 0)
  | message .. | resend .. | malformed .. | apply (.message ..) | apply (.malformed _) =>
    some (.message, 0)
  | heartbeat _ staleBy => some (.heartbeat, staleBy.toNat)
  | apply (.heartbeat _ staleBy) => some (.heartbeat, staleBy.toNat)
  | _ => none

def handedOver : ScriptAnswer → List Event
  | .events drained => drained
  | _ => []

def recorded (script : Script) (step : ScriptStep) : List Event :=
  (step.perform script.drain.1).1.build

def movedAll : List ScriptStep → Nat
  | [] => 0
  | step :: rest => step.moved + movedAll rest

/-- The capture time after calls, which stops at the last moment there is. -/
def captureTime (start : Word) (steps : List ScriptStep) : Nat :=
  min (UInt64.size - 1) (start.toNat + movedAll steps)

theorem movedAll_concat (steps : List ScriptStep) (step : ScriptStep) :
    movedAll (steps ++ [step]) = movedAll steps + step.moved := by
  induction steps with
  | nil => exact Nat.add_comm ..
  | cons first rest ih => exact (congrArg (first.moved + ·) ih).trans (Nat.add_assoc ..).symm

theorem captureTime_concat (start : Word) (steps : List ScriptStep) (step : ScriptStep) :
    captureTime start (steps ++ [step]) =
      min (UInt64.size - 1) (captureTime start steps + step.moved) := by
  rw [captureTime, captureTime, movedAll_concat]
  omega

section Calls
variable {script : Script} {step : ScriptStep}

theorem isSome_records? (call : step.isCall = true) :
    step.records?.isSome = !(step.isAdvance || step.isDrain) := by
  cases step with
  | apply op => cases op <;> rfl
  | insert | repeated => contradiction
  | _ => rfl

/-- Nothing that a call does depends on the events that wait to be drained. -/
theorem perform_drain (call : step.isCall = true) :
    (step.perform script).1.drain.1 = (step.perform script.drain.1).1.drain.1 := by
  cases step with
  | apply op => cases op with
    | message owner connection resend fields => cases resend <;> rfl
    | _ => rfl
  | insert | repeated => contradiction
  | _ => rfl

/-- The events that a call hands over and those that it leaves are the earlier ones and its own. -/
theorem build_perform (call : step.isCall = true) :
    handedOver (step.perform script).2 ++ (step.perform script).1.build =
      script.build ++ step.recorded script := by
  have one (event : Event) : (script.record event).build = script.build ++ [event] :=
    Array.toList_push
  have none : script.build = script.build ++ [] := (List.append_nil _).symm
  cases step with
  | apply op => cases op with
    | message owner connection resend fields => cases resend <;> exact one _
    | advance nanos => exact none
    | _ => exact one _
  | advance nanos => exact none
  | drain => rfl
  | insert | repeated => contradiction
  | _ => exact one _

theorem answer_of_not_drain (call : step.isCall = true) (kept : step.isDrain = false) :
    handedOver (step.perform script).2 = [] := by
  cases step with
  | drain | insert | repeated => contradiction
  | _ => rfl

theorem time_perform (call : step.isCall = true) :
    (step.perform script).1.time.toNat =
      min (UInt64.size - 1) (script.time.toNat + step.moved) := by
  have still : script.time.toNat = min (UInt64.size - 1) (script.time.toNat + 0) := by
    have := script.time.toNat_lt_size
    omega
  have ahead (nanos : Word) : (script.advance nanos).time.toNat =
      min (UInt64.size - 1) (script.time.toNat + nanos.toNat) :=
    (Word.addCapped_toNat ..).trans (Nat.min_comm ..)
  cases step with
  | apply op => cases op with
    | message owner connection resend fields => cases resend <;> exact still
    | advance nanos => exact ahead nanos.toUInt64
    | _ => exact still
  | advance nanos => exact ahead nanos
  | insert | repeated => contradiction
  | _ => exact still

theorem nextConnection_perform (call : step.isCall = true) :
    (step.perform script).1.nextConnection =
      script.nextConnection + UInt64.ofNat (if step.isConnect then 1 else 0) := by
  have still : script.nextConnection = script.nextConnection + 0 := (UInt64.add_zero _).symm
  cases step with
  | apply op => cases op with
    | connect => rfl
    | message owner connection resend fields => cases resend <;> exact still
    | _ => exact still
  | connect owner => rfl
  | insert | repeated => contradiction
  | _ => exact still

/-- A call that records nothing, and one that records. A connect gets the next number. -/
theorem recorded_of_none (call : step.isCall = true) (silent : step.records? = none) :
    step.recorded script = [] := by
  cases step with
  | apply op => cases op with
    | advance nanos => rfl
    | _ => contradiction
  | advance | drain => rfl
  | insert | repeated => contradiction
  | _ => contradiction

theorem recorded_of_some (call : step.isCall = true)
    (recording : step.records? = some (kind, behind)) :
    ∃ event, step.recorded script = [event] ∧ event.kind = kind ∧
      event.timestamp.toNat = script.time.toNat - behind ∧
      ∀ connect, event = .connect connect → connect.connection = script.nextConnection := by
  have stale (staleBy : Word) := Word.subFloored_toNat script.time staleBy
  cases step with
  | connect owner =>
    cases recording
    exact ⟨_, rfl, rfl, rfl, fun _ same => by cases same; rfl⟩
  | message | resend | malformed =>
    cases recording
    exact ⟨_, rfl, rfl, rfl, nofun⟩
  | heartbeat owner staleBy =>
    cases recording
    exact ⟨_, rfl, rfl, stale staleBy, nofun⟩
  | apply op => cases op with
    | connect =>
      cases recording
      exact ⟨_, rfl, rfl, rfl, fun _ same => by cases same; rfl⟩
    | message owner connection resend fields =>
      cases recording
      cases resend <;> exact ⟨_, rfl, rfl, rfl, nofun⟩
    | malformed connection =>
      cases recording
      exact ⟨_, rfl, rfl, rfl, nofun⟩
    | heartbeat owner staleBy =>
      cases recording
      exact ⟨_, rfl, rfl, stale staleBy.toUInt64, nofun⟩
    | advance nanos => contradiction
  | advance | drain => contradiction
  | insert | repeated => contradiction

theorem behind_eq_zero (recording : step.records? = some (kind, behind))
    (current : kind ≠ .heartbeat) : behind = 0 := by
  cases step with
  | connect | message | resend | malformed => exact (Prod.mk.inj (Option.some.inj recording)).2.symm
  | heartbeat owner staleBy => exact absurd (Prod.mk.inj (Option.some.inj recording)).1.symm current
  | apply op => cases op with
    | connect | message | malformed => exact (Prod.mk.inj (Option.some.inj recording)).2.symm
    | heartbeat owner staleBy =>
      exact absurd (Prod.mk.inj (Option.some.inj recording)).1.symm current
    | advance => contradiction
  | advance | drain | insert | repeated => contradiction

theorem time_le_perform (call : step.isCall = true) :
    script.time ≤ (step.perform script).1.time := by
  have := script.time.toNat_lt_size
  rw [UInt64.le_iff_toNat_le, time_perform call]
  omega

/-- A call records nothing or a single event, and no message or connect is stamped with another
time than the capture time. -/
theorem recorded_cases (call : step.isCall = true) :
    step.recorded script = [] ∨ ∃ event, step.recorded script = [event] ∧
      (event.kind ≠ .heartbeat → event.timestamp = script.time) := by
  cases recording : step.records? with
  | none => exact .inl (recorded_of_none call recording)
  | some what =>
    obtain ⟨kind, behind⟩ := what
    obtain ⟨event, recorded, rfl, stamped, -⟩ := @recorded_of_some script step _ _ call recording
    refine .inr ⟨event, recorded, fun current => ?_⟩
    rw [behind_eq_zero recording current, Nat.sub_zero] at stamped
    exact UInt64.toNat_inj.mp stamped

end Calls

def after (script : Script) (steps : List ScriptStep) : Script := (trace script steps).1

def recordedAll (script : Script) : List ScriptStep → List Event
  | [] => []
  | step :: rest => step.recorded script ++ recordedAll (step.perform script).1 rest

theorem performAll_eq (script : Script) (steps : List ScriptStep) :
    script.performAll steps = after script steps := by
  have kept (last : ScriptAnswer) : (performAll script last steps).1 = after script steps := by
    induction steps generalizing script last with
    | nil => rfl
    | cons step rest ih => exact ih _ _
  exact kept .nothing

theorem trace_append (script : Script) (steps more : List ScriptStep) :
    trace script (steps ++ more) =
      (after (after script steps) more,
        (trace script steps).2 ++ (trace (after script steps) more).2) := by
  induction steps generalizing script with
  | nil => rfl
  | cons step rest ih =>
    have onward := ih (step.perform script).1
    simp only [List.cons_append, trace, onward]
    rfl

theorem length_trace (script : Script) (steps : List ScriptStep) :
    (trace script steps).2.length = steps.length := by
  induction steps generalizing script with
  | nil => rfl
  | cons step rest ih => exact congrArg (· + 1) (ih _)

theorem recordedAll_append (script : Script) (steps more : List ScriptStep) :
    recordedAll script (steps ++ more) =
      recordedAll script steps ++ recordedAll (after script steps) more := by
  induction steps generalizing script with
  | nil => rfl
  | cons step rest ih =>
    rw [List.cons_append, recordedAll, ih, recordedAll, List.append_assoc]
    rfl

section Runs
variable {script : Script} {steps : List ScriptStep}
  (calls : ∀ step ∈ steps, step.isCall = true)
include calls

/-- What calls record depends on the time and the numbering alone. -/
theorem recordedAll_congr {other : Script} (same : other.drain.1 = script.drain.1) :
    recordedAll other steps = recordedAll script steps ∧
      (after other steps).drain.1 = (after script steps).drain.1 := by
  induction steps generalizing script other with
  | nil => exact ⟨rfl, same⟩
  | cons step rest ih =>
    obtain ⟨call, later⟩ := List.forall_mem_cons.mp calls
    have next : (step.perform other).1.drain.1 = (step.perform script).1.drain.1 := by
      rw [perform_drain call, same, ← perform_drain call]
    obtain ⟨recorded, left⟩ := ih later next
    refine ⟨?_, left⟩
    rw [recordedAll, recordedAll, recorded, ScriptStep.recorded, same]
    rfl

/-- Whatever is handed over on the way, nothing is lost and nothing changes its place. -/
theorem build_trace :
    (trace script steps).2.flatMap (fun answer => handedOver answer.1) ++
        (after script steps).build = script.build ++ recordedAll script steps := by
  induction steps generalizing script with
  | nil => exact (List.append_nil _).symm
  | cons step rest ih =>
    obtain ⟨call, later⟩ := List.forall_mem_cons.mp calls
    have onward := @ih (step.perform script).1 later
    calc handedOver (step.perform script).2 ++
          (trace (step.perform script).1 rest).2.flatMap (fun answer => handedOver answer.1) ++
            (after (step.perform script).1 rest).build
      _ = handedOver (step.perform script).2 ++ ((step.perform script).1.build ++
            recordedAll (step.perform script).1 rest) := by rw [List.append_assoc, onward]
      _ = script.build ++ step.recorded script ++ recordedAll (step.perform script).1 rest := by
        rw [← List.append_assoc, build_perform call]
      _ = script.build ++ recordedAll script (step :: rest) := List.append_assoc ..

/-- Without the drains the calls record the same and leave the script at the same time and with
the same numbering. -/
theorem recordedAll_undrained :
    recordedAll script (steps.filter (!·.isDrain)) = recordedAll script steps ∧
      (after script (steps.filter (!·.isDrain))).drain.1 = (after script steps).drain.1 := by
  induction steps generalizing script with
  | nil => exact ⟨rfl, rfl⟩
  | cons step rest ih =>
    obtain ⟨call, later⟩ := List.forall_mem_cons.mp calls
    have undrained : ∀ each ∈ rest.filter (!·.isDrain), each.isCall = true :=
      fun each member => later each (List.mem_filter.mp member).1
    obtain ⟨recorded, left⟩ := @ih (step.perform script).1 later
    cases drains : step.isDrain with
    | false =>
      rw [List.filter_cons_of_pos (by simp [drains]), recordedAll, recordedAll, recorded]
      exact ⟨rfl, left⟩
    | true =>
      -- a drain records nothing, and the script that it leaves differs from its start in the
      -- events alone
      cases step with
      | drain =>
        have same : script.drain.1 = (drain.perform script).1.drain.1 := rfl
        obtain ⟨sameRecorded, sameLeft⟩ := recordedAll_congr undrained same
        rw [List.filter_cons_of_neg (by simp [drains]), recordedAll, sameRecorded, recorded]
        exact ⟨rfl, sameLeft.trans left⟩
      | _ => contradiction

theorem answers_undrained (undrained : ∀ step ∈ steps, step.isDrain = false) :
    (trace script steps).2.flatMap (fun answer => handedOver answer.1) = [] := by
  induction steps generalizing script with
  | nil => rfl
  | cons step rest ih =>
    obtain ⟨call, later⟩ := List.forall_mem_cons.mp calls
    obtain ⟨kept, keptLater⟩ := List.forall_mem_cons.mp undrained
    show handedOver _ ++ _ = []
    rw [answer_of_not_drain call kept, List.nil_append]
    exact ih later keptLater

theorem time_after : (after script steps).time.toNat = captureTime script.time steps := by
  induction steps generalizing script with
  | nil =>
    have := script.time.toNat_lt_size
    show script.time.toNat = min _ (script.time.toNat + 0)
    omega
  | cons step rest ih =>
    obtain ⟨call, later⟩ := List.forall_mem_cons.mp calls
    have moved := @time_perform script step call
    refine (@ih (step.perform script).1 later).trans ?_
    simp only [captureTime, movedAll]
    omega

theorem nextConnection_after : (after script steps).nextConnection =
    script.nextConnection + UInt64.ofNat (steps.countP isConnect) := by
  induction steps generalizing script with
  | nil => exact (UInt64.add_zero _).symm
  | cons step rest ih =>
    obtain ⟨call, later⟩ := List.forall_mem_cons.mp calls
    refine (ih later).trans ?_
    rw [nextConnection_perform call, List.countP_cons, Nat.add_comm, UInt64.ofNat_add,
      UInt64.add_assoc]

theorem length_recordedAll :
    (recordedAll script steps).length = steps.countP (·.records?.isSome) := by
  induction steps generalizing script with
  | nil => rfl
  | cons step rest ih =>
    obtain ⟨call, later⟩ := List.forall_mem_cons.mp calls
    have one : (step.recorded script).length = if step.records?.isSome then 1 else 0 := by
      cases recording : step.records? with
      | none => rw [recorded_of_none call recording]; rfl
      | some what =>
        obtain ⟨event, recorded, -⟩ := @recorded_of_some script step what.1 what.2 call recording
        rw [recorded]
        rfl
    rw [recordedAll, List.length_append, ih later, one, List.countP_cons, Nat.add_comm]

/-- Only heartbeats are stamped before the capture time. -/
theorem time_le_timestamp {event : Event} (member : event ∈ recordedAll script steps)
    (current : event.kind ≠ .heartbeat) : script.time ≤ event.timestamp := by
  induction steps generalizing script with
  | nil => contradiction
  | cons step rest ih =>
    obtain ⟨call, later⟩ := List.forall_mem_cons.mp calls
    rcases List.mem_append.mp member with now | onward
    · rcases recorded_cases call with none | ⟨only, recorded, stamped⟩
      · rw [none] at now
        contradiction
      · rw [recorded, List.mem_singleton] at now
        rw [now] at current ⊢
        exact UInt64.le_of_eq (stamped current).symm
    · exact UInt64.le_trans (time_le_perform call) (ih later onward)

theorem pairwise_timestamps :
    ((recordedAll script steps).filter (·.kind ≠ .heartbeat)).Pairwise
      (·.timestamp ≤ ·.timestamp) := by
  induction steps generalizing script with
  | nil => exact .nil
  | cons step rest ih =>
    obtain ⟨call, later⟩ := List.forall_mem_cons.mp calls
    rcases recorded_cases call with none | ⟨event, recorded, stamped⟩
    · rw [recordedAll, none]
      exact ih later
    · rw [recordedAll, recorded, List.singleton_append, List.filter_cons]
      split
      · next current =>
        refine List.pairwise_cons.mpr ⟨?_, ih later⟩
        intro other member
        obtain ⟨onward, currentToo⟩ := List.mem_filter.mp member
        rw [stamped (of_decide_eq_true current)]
        exact UInt64.le_trans (time_le_perform call)
          (time_le_timestamp later onward (of_decide_eq_true currentToo))
      · exact ih later

/-- Where the event of a call stands, and how the script was when it was recorded. -/
theorem getElem?_recordedAll {earlier later : List ScriptStep} {step : ScriptStep} {event : Event}
    (made : steps = earlier ++ step :: later)
    (recorded : step.recorded (after script earlier) = [event]) :
    (recordedAll script steps)[earlier.countP (·.records?.isSome)]? = some event := by
  subst made
  have before : ∀ each ∈ earlier, each.isCall = true :=
    fun each member => calls each (List.mem_append_left _ member)
  rw [recordedAll_append, recordedAll, recorded, ← length_recordedAll before,
    List.getElem?_append_right (Nat.le_refl _), Nat.sub_self]
  rfl

end Runs

/-- What comes of calls to a script, in any order and with drains anywhere. The drained events and
those built at the end are the events of the same calls without drains, one for each call that
neither drains nor moves the time. Each is stamped with the capture time at its call, heartbeats
as far behind it as was asked, and connects are numbered from one on. -/
theorem built_events (start : Word) (padding : Nat) (steps : List ScriptStep)
    (calls : ∀ step ∈ steps, step.isCall = true) :
    let script : Script := { time := start, padding }
    let last := (trace script steps).1
    let answers := (trace script steps).2
    let undrained := script.performAll (steps.filter (!·.isDrain))
    let events := answers.flatMap (fun answer => handedOver answer.1) ++ last.build
    events = undrained.build ∧ last.drain.1 = undrained.drain.1 ∧
      events.length = steps.countP (fun step => !(step.isAdvance || step.isDrain)) ∧
      (events.filter (·.kind ≠ .heartbeat)).Pairwise (·.timestamp ≤ ·.timestamp) ∧
      ∀ earlier step later, steps = earlier ++ step :: later →
        (∃ answer now, answers[earlier.length]? = some (answer, now) ∧
          now.toNat = captureTime start (earlier ++ [step]) ∧
          ∀ owner, step = .connect owner →
            answer = .connection (UInt64.ofNat (earlier.countP isConnect + 1))) ∧
        ∀ kind behind, step.records? = some (kind, behind) →
          ∃ event, events[earlier.countP (·.records?.isSome)]? = some event ∧
            event.kind = kind ∧
            event.timestamp.toNat = captureTime start earlier - behind ∧
            ∀ connect, event = .connect connect →
              connect.connection = UInt64.ofNat (earlier.countP isConnect + 1) := by
  intro script last answers undrained events
  have all : events = recordedAll script steps := build_trace calls
  have kept : ∀ step ∈ steps.filter (!·.isDrain), step.isDrain = false := by simp
  have callsToo : ∀ step ∈ steps.filter (!·.isDrain), step.isCall = true :=
    fun step member => calls step (List.mem_filter.mp member).1
  obtain ⟨same, left⟩ := @recordedAll_undrained script steps calls
  have built : undrained.build = recordedAll script steps := by
    have whole := @build_trace script _ callsToo
    rw [answers_undrained callsToo kept, List.nil_append, same] at whole
    exact (congrArg Script.build (performAll_eq ..)).trans whole
  have number (earlier : List ScriptStep) (before : ∀ each ∈ earlier, each.isCall = true) :
      (after script earlier).nextConnection =
        UInt64.ofNat (earlier.countP isConnect + 1) := by
    rw [nextConnection_after before, Nat.add_comm, UInt64.ofNat_add]
    rfl
  refine ⟨all.trans built.symm, ?_, ?_, ?_, ?_⟩
  · exact left.symm.trans (congrArg (·.drain.1) (performAll_eq ..)).symm
  · rw [all, length_recordedAll calls]
    exact List.countP_congr fun step member => by rw [isSome_records? (calls step member)]
  · rw [all]
    exact pairwise_timestamps calls
  · rintro earlier step later made
    have before : ∀ each ∈ earlier, each.isCall = true :=
      fun each member => calls each (made ▸ List.mem_append_left _ member)
    have call : step.isCall = true := calls step (by simp [made])
    constructor
    · refine ⟨(step.perform (after script earlier)).2,
        (step.perform (after script earlier)).1.time, ?_, ?_, ?_⟩
      · show (trace script steps).2[_]? = _
        rw [made, trace_append, List.getElem?_append_right (Nat.le_of_eq (length_trace ..)),
          length_trace, Nat.sub_self]
        rfl
      · rw [time_perform call, time_after before, captureTime_concat]
      · rintro owner rfl
        exact congrArg _ (number earlier before)
    · intro kind behind recording
      obtain ⟨event, recorded, kindOf, stamped, numbered⟩ :=
        @recorded_of_some (after script earlier) step kind behind call recording
      refine ⟨event, ?_, kindOf, ?_, ?_⟩
      · rw [all]
        exact getElem?_recordedAll calls made recorded
      · rw [stamped, time_after before]
      · intro connect same
        rw [numbered connect same, number earlier before]

/-- Two drains on the way, a heartbeat from before the beginning of time and an advance past the
last moment: the connect at the end is the second one, at the last moment. -/
theorem built_events_past_the_end :
    let steps : List ScriptStep := [.connect 0, .drain, .advance 9, .heartbeat 3 Word.top,
      .apply (.message 3 1 true 2), .drain, .apply (.advance 4), .apply .connect]
    let last := (trace { time := Word.top - 11, padding := 5 } steps).1
    let answers := (trace { time := Word.top - 11, padding := 5 } steps).2
    let events := answers.flatMap (fun answer => handedOver answer.1) ++ last.build
    (∀ step ∈ steps, step.isCall = true) ∧ events.length = 4 ∧
      (∃ event, events[1]? = some event ∧ event.kind = .heartbeat ∧ event.timestamp.toNat = 0) ∧
      ∃ event, events[3]? = some event ∧ event.kind = .connect ∧
        event.timestamp.toNat = 18446744073709551615 ∧
        ∀ connect, event = .connect connect → connect.connection = 2 := by
  intro steps last answers events
  have calls : ∀ step ∈ steps, step.isCall = true := by decide
  obtain ⟨-, -, length, -, each⟩ := built_events (Word.top - 11) 5 steps calls
  refine ⟨calls, length, ?_, ?_⟩
  · obtain ⟨event, found, kind, stamped, -⟩ :=
      (each (steps.take 3) _ (steps.drop 4) rfl).2 _ _ rfl
    exact ⟨event, found, kind, stamped.trans (by decide)⟩
  · obtain ⟨event, found, kind, stamped, numbered⟩ :=
      (each (steps.take 7) _ [] rfl).2 _ _ rfl
    exact ⟨event, found, kind, stamped.trans (by decide), numbered⟩

end ScriptStep
end SessionReplay
