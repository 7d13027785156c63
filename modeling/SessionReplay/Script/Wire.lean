import SessionReplay.Event

/-! How a message lies in the log: a fixed header of four 16-bit numbers, a fixed
block with the connection and the capture time, then the content in tag-value form.
Every tag-value field ends with the control character SOH. -/
namespace SessionReplay.Wire

/-- Bytes of the block between the header and the content. -/
def fixedBlockLength : Nat := 16

def templateId : Nat := 1
def schemaId : Nat := 666
def schemaVersion : Nat := 1

def utf8 (text : String) : Bytes := text.toUTF8.data.toList

/-- The character whose code is the message type. -/
def typeCharacter (messageType : UInt8) : Char := Char.ofNat messageType.toNat

/-- The part of the content that its length field counts. -/
def body (messageType : UInt8) (fields : String) : String :=
  "35=" ++ String.singleton (typeCharacter messageType) ++ "\x01" ++ fields

/-- The content of a message: version, length of the body in bytes, body, trailer. -/
def content (messageType : UInt8) (fields : String) : Bytes :=
  let body := body messageType fields
  utf8 ("8=FIX.4.4\x019=" ++ toString body.utf8ByteSize ++ "\x01" ++ body ++ "10=000\x01")

/-- Block length, template, schema and version, least significant byte first. -/
def header : Bytes :=
  littleEndian 2 fixedBlockLength ++ littleEndian 2 templateId ++ littleEndian 2 schemaId ++
    littleEndian 2 schemaVersion

/-- The connection and the time at which the message was captured. -/
def fixedBlock (connection : ConnectionId) (time : Word) : Bytes :=
  littleEndian 8 connection.toNat ++ littleEndian 8 time.toNat

/-- A log buffer in which a message follows `padding` bytes of earlier fragments. -/
def buffer (padding : Nat) (connection : ConnectionId) (time : Word) (content : Bytes) : Bytes :=
  List.replicate padding 0 ++ header ++ fixedBlock connection time ++ content

/-- The bounds of a resend request as tag-value fields. -/
def resendBounds (first last : Word) : String :=
  s!"7={first}\x0116={last}\x01"

end SessionReplay.Wire
