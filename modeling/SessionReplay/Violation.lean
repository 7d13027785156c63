import SessionReplay.Event

/-! What a replay can find wrong. Nearly every finding is reported and the replay
goes on, so that one pass surfaces all of them; only misuse is fatal. -/
namespace SessionReplay

inductive Violation where
  /-- An operation was opened while another was open. -/
  | overlappingOperation
  /-- A completion was signalled while no operation was open. -/
  | unmatchedCompletion
  /-- The owner is not registered; `known` are those that are, ascending. -/
  | unknownOwner (owner : OwnerId) (known : List OwnerId)
  /-- The owner cannot be checked before a registry is installed. -/
  | registryMissing (owner : OwnerId)
  /-- A connection id was asked for while no connect was pending. -/
  | noConnectPending
  /-- The transport refused a message. -/
  | messageRefused (connection : ConnectionId)
  /-- The recorded offsets describe no framed message. -/
  | malformedFrame (connection : ConnectionId) (reason : String)
  deriving DecidableEq

/-- Whose fault a violation is. -/
inductive ViolationKind where
  /-- The recorded data breaks the single-operation or the provenance contract. -/
  | invariant
  /-- The caller misused the dispatcher. -/
  | usage
  /-- The transport refused work. -/
  | downstream
  deriving DecidableEq

def ViolationKind.label : ViolationKind → String
  | invariant => "InvariantViolation"
  | usage => "UsageError"
  | downstream => "DownstreamRejection"

def bracketed (items : List String) : String :=
  "[" ++ ", ".intercalate items ++ "]"

def ownerList (owners : List OwnerId) : String :=
  bracketed (owners.map toString)

namespace Violation

def kind : Violation → ViolationKind
  | overlappingOperation | unmatchedCompletion | unknownOwner .. | registryMissing _
  | malformedFrame .. => .invariant
  | noConnectPending => .usage
  | messageRefused _ => .downstream

/-- The caller must stop: it misused the dispatcher. -/
def isFatal (violation : Violation) : Bool := violation.kind == .usage

def message : Violation → String
  | overlappingOperation => "multiple operations in flight attempted"
  | unmatchedCompletion => "no operation in flight"
  | unknownOwner owner known => s!"unknown owner id: {owner} not in " ++ ownerList known
  | registryMissing owner =>
    s!"owner registry not installed: cannot validate owner id {owner}"
  | noConnectPending => "unknown connection id: no connect event pending"
  | messageRefused connection =>
    s!"downstream transport rejected message for connection {connection}"
  | malformedFrame connection reason =>
    s!"malformed frame for connection {connection}: {reason}"

end Violation
end SessionReplay
