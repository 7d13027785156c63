import SessionReplay.Script.Basic

/-! The small alphabet in which scripts are generated from arbitrary bytes. Every
byte string decodes, and every operation has bytes that decode to it. Small fields
keep owners and connections colliding often. -/
namespace SessionReplay

inductive ScriptOp where
  /-- A connect that belongs to the engine. -/
  | connect
  /-- A message with that many body fields, or a resend request up to `fields`. -/
  | message (owner connection : UInt8) (resend : Bool) (fields : UInt8)
  | malformed (connection : UInt8)
  | heartbeat (owner : UInt8) (staleBy : UInt16)
  | advance (nanos : UInt32)
  deriving DecidableEq

namespace ScriptOp

/-- The type of an application message, the character `D`. -/
def applicationType : UInt8 := 0x44

def bodyField : String := "58=x\x01"

def bodyFields (count : Nat) : String := String.join (List.replicate count bodyField)

def apply (script : Script) : ScriptOp → Script
  | connect => (script.connect engineOwner).1
  | message owner connection resend fields =>
    if resend then
      script.resendRequest owner.toUInt32 connection.toUInt64 1 fields.toUInt64
    else
      script.message owner.toUInt32 connection.toUInt64 applicationType (bodyFields fields.toNat)
  | malformed connection => script.malformed engineOwner connection.toUInt64
  | heartbeat owner staleBy => script.heartbeat owner.toUInt32 staleBy.toUInt64
  | advance nanos => script.advance nanos.toUInt64

/-- The number in the first `width` bytes; bytes that are missing count as zero. -/
def takeNumber (width : Nat) (bytes : Bytes) : Nat × Bytes :=
  (ofLittleEndian (bytes.take width), bytes.drop width)

def takeByte (bytes : Bytes) : UInt8 × Bytes :=
  let (n, rest) := takeNumber 1 bytes
  (UInt8.ofNat n, rest)

/-- Which of the five operations a selector of 32 bits stands for: the range is cut
into five parts of nearly equal size. -/
def variantOf (selector : Nat) : Nat := selector * 5 / UInt32.size

/-- The least selector of an operation. -/
def selectorOf (variant : Nat) : Nat := (variant * UInt32.size + 4) / 5

def decode (bytes : Bytes) : ScriptOp × Bytes :=
  let (selector, bytes) := takeNumber 4 bytes
  match variantOf selector with
  | 0 => (connect, bytes)
  | 1 =>
    let (owner, bytes) := takeByte bytes
    let (connection, bytes) := takeByte bytes
    let (resend, bytes) := takeByte bytes
    let (fields, bytes) := takeByte bytes
    (message owner connection (resend % 2 == 1) fields, bytes)
  | 2 =>
    let (connection, bytes) := takeByte bytes
    (malformed connection, bytes)
  | 3 =>
    let (owner, bytes) := takeByte bytes
    let (staleBy, bytes) := takeNumber 2 bytes
    (heartbeat owner (UInt16.ofNat staleBy), bytes)
  | _ =>
    let (nanos, bytes) := takeNumber 4 bytes
    (advance (UInt32.ofNat nanos), bytes)

/-- The bytes of an operation, with the least selector. -/
def encode : ScriptOp → Bytes
  | connect => littleEndian 4 (selectorOf 0)
  | message owner connection resend fields =>
    littleEndian 4 (selectorOf 1) ++ [owner, connection, if resend then 1 else 0, fields]
  | malformed connection => littleEndian 4 (selectorOf 2) ++ [connection]
  | heartbeat owner staleBy =>
    littleEndian 4 (selectorOf 3) ++ owner :: littleEndian 2 staleBy.toNat
  | advance nanos => littleEndian 4 (selectorOf 4) ++ littleEndian 4 nanos.toNat

/-- Reads `count` operations, each with the number of bytes left after it. -/
def decodeMany : Nat → Bytes → List (ScriptOp × Nat)
  | 0, _ => []
  | count + 1, bytes =>
    let (op, rest) := decode bytes
    (op, rest.length) :: decodeMany count rest

def applyAll (script : Script) (ops : List ScriptOp) : Script :=
  ops.foldl apply script

end ScriptOp
end SessionReplay
