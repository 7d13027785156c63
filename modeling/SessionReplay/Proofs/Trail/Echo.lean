import Mathlib.Data.List.Basic
import SessionReplay.Operations

/-! Two audit trails of the same replay, one that logs violations and one that collects them. Both
logs say the same, record for record, but for how a violation is put, so the errors of the one are
the violations of the other. -/
namespace SessionReplay

namespace LogRecord

/-- What a trail that logs has in place of a record of a trail that collects. -/
def retold : LogRecord → LogRecord
  | violationRecorded violation => violationLogged violation
  | record => record

def recorded? : LogRecord → Option Violation
  | violationRecorded violation => some violation
  | _ => none

/-- The connection id that was lost, and the one in its place. -/
def overwritten? : LogRecord → Option (ConnectionId × ConnectionId)
  | connectionOverwritten unread connection => some (unread, connection)
  | _ => none

/-- What is read at a level: the message of the record and its fields. -/
def entry? (level : Level) (record : LogRecord) : Option (String × List (String × String)) :=
  if record.level = level then some (record.message, record.fields) else none

/-- A record of no violation and no lost connection id. -/
def isQuiet (record : LogRecord) : Bool := !Level.warn.admits record.level

theorem plain_of_isQuiet {record : LogRecord} (quiet : record.isQuiet = true) :
    record.retold = record ∧ record.recorded? = none ∧ record.overwritten? = none ∧
      record.level ≠ .error := by
  cases record with
  | violationLogged | violationRecorded | connectionOverwritten => contradiction
  | _ => exact ⟨rfl, rfl, rfl, nofun⟩

/-- What the log says about a connection id that was never taken. -/
def overwriting (lost : ConnectionId × ConnectionId) : String × List (String × String) :=
  ("Overwriting connection id that was never taken",
    [("unread", toString lost.1), ("connection_id", toString lost.2)])

section Entries
variable {record : LogRecord}

theorem entry?_error_retold (unlogged : record.level ≠ .error) :
    record.retold.entry? .error = record.recorded?.map fun violation =>
      (violation.message, [("kind", violation.kind.label)]) := by
  cases record with
  | violationLogged => contradiction
  | _ => rfl

theorem entry?_warn_retold :
    record.retold.entry? .warn = record.overwritten?.map overwriting := by
  cases record <;> rfl

theorem entry?_warn_recorded :
    (record.entry? .warn).filter (·.1 = "Violation recorded") =
      record.recorded?.map fun violation => ("Violation recorded",
        [("error", violation.message), ("kind", violation.kind.label)]) := by
  cases record <;> rfl

theorem entry?_warn_overwritten :
    (record.entry? .warn).filter (·.1 ≠ "Violation recorded") =
      record.overwritten?.map overwriting := by
  cases record <;> rfl

end Entries
end LogRecord

namespace Trail

/-- The log as it is read at one level, in order. -/
def entries (trail : Trail) (level : Level) : List (String × List (String × String)) :=
  trail.records.toList.filterMap (LogRecord.entry? level)

/-- A trail that logs violations says what one that collects them says. -/
structure Echoes (lost : List (ConnectionId × ConnectionId)) (logged kept : Trail) : Prop where
  logging : logged.channel = .logging
  collecting : kept.channel = .collecting
  retold : logged.records.toList = kept.records.toList.map LogRecord.retold
  recorded : kept.records.toList.filterMap LogRecord.recorded? = kept.violations.toList
  overwritten : kept.records.toList.filterMap LogRecord.overwritten? = lost
  unlogged : ∀ record ∈ kept.records.toList, record.level ≠ .error

variable {lost : List (ConnectionId × ConnectionId)} {logged kept : Trail}

theorem echoes_empty : Echoes [] { channel := .logging } { channel := .collecting } :=
  ⟨rfl, rfl, rfl, rfl, rfl, nofun⟩

/-- Both logs grow by what one record is told as in each of them. -/
theorem Echoes.push (echoes : Echoes lost logged kept) (record : LogRecord)
    (unlogged : record.level ≠ .error) :
    Echoes (lost ++ record.overwritten?.toList)
      { logged with records := logged.records.push record.retold }
      { kept with
        records := kept.records.push record
        violations := kept.violations ++ record.recorded?.toArray } := by
  constructor
  · exact echoes.logging
  · exact echoes.collecting
  · simp [echoes.retold]
  · rw [Array.toList_push, List.filterMap_append, echoes.recorded, Array.toList_append,
      List.filterMap_cons]
    cases record.recorded? <;> rfl
  · rw [Array.toList_push, List.filterMap_append, echoes.overwritten, List.filterMap_cons]
    cases record.overwritten? <;> rfl
  · intro each member
    rw [Array.toList_push] at member
    rcases List.mem_append.mp member with before | last
    · exact echoes.unlogged each before
    · rwa [List.mem_singleton.mp last]

theorem Echoes.note (echoes : Echoes lost logged kept) (record : LogRecord)
    (quiet : record.isQuiet = true) : Echoes lost (logged.note record) (kept.note record) := by
  obtain ⟨same, unrecorded, untaken, level⟩ := LogRecord.plain_of_isQuiet quiet
  have pushed := echoes.push record level
  rw [same, unrecorded, untaken] at pushed
  simpa [Trail.note] using pushed

theorem Echoes.overwrite (echoes : Echoes lost logged kept) (unread connection : ConnectionId) :
    Echoes (lost ++ [(unread, connection)]) (logged.note (.connectionOverwritten unread connection))
      (kept.note (.connectionOverwritten unread connection)) := by
  have pushed := echoes.push (.connectionOverwritten unread connection) nofun
  simpa [Trail.note, LogRecord.retold, LogRecord.recorded?, LogRecord.overwritten?] using pushed

theorem Echoes.report (echoes : Echoes lost logged kept) (violation : Violation) :
    Echoes lost (logged.report violation) (kept.report violation) := by
  have pushed := echoes.push (.violationRecorded violation) nofun
  simpa [Trail.report, ErrorChannel.record?, ErrorChannel.keeps, echoes.logging,
    echoes.collecting, LogRecord.retold, LogRecord.recorded?, LogRecord.overwritten?] using pushed

/-- Every violation is an error in the one log and a warning in the other, and all other warnings
of either are about lost connection ids. -/
theorem Echoes.entries (echoes : Echoes lost logged kept) :
    logged.entries .error = kept.violations.toList.map (fun violation =>
        (violation.message, [("kind", violation.kind.label)])) ∧
      kept.entries .error = [] ∧
      (kept.entries .warn).filter (·.1 = "Violation recorded") =
        kept.violations.toList.map (fun violation => ("Violation recorded",
          [("error", violation.message), ("kind", violation.kind.label)])) ∧
      logged.entries .warn = lost.map LogRecord.overwriting ∧
      (kept.entries .warn).filter (·.1 ≠ "Violation recorded") =
        lost.map LogRecord.overwriting := by
  obtain ⟨-, -, retold, recorded, overwritten, unlogged⟩ := echoes
  unfold Trail.entries
  rw [retold, ← recorded, ← overwritten, List.filterMap_map, List.filterMap_map,
    List.map_filterMap, List.map_filterMap, List.map_filterMap, List.filter_filterMap,
    List.filter_filterMap]
  refine ⟨?_, ?_, ?_, ?_, ?_⟩
  · exact List.filterMap_congr fun record member =>
      LogRecord.entry?_error_retold (unlogged record member)
  · apply List.filterMap_eq_nil_iff.mpr
    intro record member
    exact if_neg (unlogged record member)
  · exact List.filterMap_congr fun record member => LogRecord.entry?_warn_recorded
  · exact List.filterMap_congr fun record member => LogRecord.entry?_warn_retold
  · exact List.filterMap_congr fun record member => LogRecord.entry?_warn_overwritten

end Trail
end SessionReplay
