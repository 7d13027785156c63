import Mathlib.Data.List.Basic
import SessionReplay.Script.Wire

/-! Reading a frame back. The reader goes by the lengths that the frame records, the one of the
fixed block and the one of the body, and never looks for the end of a text: a text may hold the
delimiter and may look like a trailer. -/
namespace SessionReplay.Wire

section Bytes

/-- The first bytes, when there are that many, and those after them. -/
def split? (count : Nat) (bytes : Bytes) : Option (Bytes × Bytes) :=
  if count ≤ bytes.length then some (bytes.take count, bytes.drop count) else none

/-- What follows the expected bytes, when these come first. -/
def skip? (expected bytes : Bytes) : Option Bytes := do
  let (front, rest) ← split? expected.length bytes
  if front = expected then some rest else none

/-- A number of this many bytes, least significant first. -/
def number? (width : Nat) (bytes : Bytes) : Option (Nat × Bytes) := do
  let (front, rest) ← split? width bytes
  some (ofLittleEndian front, rest)

def word? (bytes : Bytes) : Option (Word × Bytes) := do
  let (n, rest) ← number? 8 bytes
  some (UInt64.ofNat n, rest)

theorem split?_append {front : Bytes} {count : Nat} (width : front.length = count) (rest : Bytes) :
    split? count (front ++ rest) = some (front, rest) := by
  subst width
  have enough : front.length ≤ (front ++ rest).length := by
    rw [List.length_append]
    omega
  rw [split?, if_pos enough, List.take_left, List.drop_left]

theorem skip?_append (expected rest : Bytes) : skip? expected (expected ++ rest) = some rest := by
  simp [skip?, split?_append]

theorem number?_littleEndian {width n : Nat} (fits : n < Nat.pow 256 width) (rest : Bytes) :
    number? width (littleEndian width n ++ rest) = some (n, rest) := by
  have value : ofLittleEndian (littleEndian width n) = n := by
    rw [ofLittleEndian_littleEndian, Nat.mod_eq_of_lt fits]
  simp [number?, split?_append, value]

theorem word?_littleEndian (word : Word) (rest : Bytes) :
    word? (littleEndian 8 word.toNat ++ rest) = some (word, rest) := by
  have fits : word.toNat < Nat.pow 256 8 := word.toNat_lt_size
  simp [word?, number?_littleEndian fits]

end Bytes

section Texts

def text? (bytes : Bytes) : Option String := String.fromUTF8? ⟨bytes.toArray⟩

theorem text?_utf8 (text : String) : text? (utf8 text) = some text := by
  unfold text? String.fromUTF8?
  exact dif_pos text.isValidUTF8

theorem utf8_append (first second : String) :
    utf8 (first ++ second) = utf8 first ++ utf8 second := by
  simp [utf8, String.toUTF8_eq_toByteArray, String.toByteArray_append]

theorem length_utf8 (text : String) : (utf8 text).length = text.utf8ByteSize := rfl

theorem utf8EncodeChar_of_ascii {character : Char} (ascii : character.toNat < 128) :
    String.utf8EncodeChar character = [character.toUInt8] := by
  have small : character.val ≤ 127 := by
    rw [UInt32.le_iff_toNat_le, Char.toNat_val]
    exact Nat.le_of_lt_succ ascii
  exact String.utf8EncodeChar_eq_singleton (Char.utf8Size_eq_one_iff.mpr small)

theorem utf8_of_ascii {text : String} (ascii : ∀ character ∈ text.toList, character.toNat < 128) :
    utf8 text = text.toList.map Char.toUInt8 := by
  have encoded (characters : List Char) : utf8 (String.ofList characters) =
      characters.flatMap String.utf8EncodeChar := List.toList_data_toByteArray
  rw [← @String.ofList_toList text, encoded, String.toList_ofList, List.map_eq_flatMap]
  exact List.flatMap_congr fun character member => utf8EncodeChar_of_ascii (ascii _ member)

end Texts

section Decimals

def isDigit (byte : UInt8) : Bool := (Char.ofUInt8 byte).isDigit

/-- A decimal number, and what follows the delimiter that ends its field. -/
def decimal? (bytes : Bytes) : Option (Nat × Bytes) :=
  match bytes.dropWhile isDigit with
  | 1 :: rest => some (Nat.ofDigitChars 10 ((bytes.takeWhile isDigit).map Char.ofUInt8) 0, rest)
  | _ => none

theorem toNat_lt_of_isDigit {character : Char} (digit : character.isDigit = true) :
    character.toNat < 128 := by
  rw [Char.isDigit, Bool.and_eq_true, decide_eq_true_eq, decide_eq_true_eq] at digit
  have le : character.val.toNat ≤ 57 := UInt32.le_iff_toNat_le.mp digit.2
  rw [Char.toNat_val] at le
  omega

theorem ofUInt8_toUInt8 {character : Char} (ascii : character.toNat < 128) :
    Char.ofUInt8 character.toUInt8 = character := by
  apply Char.ext
  apply UInt32.toNat_inj.mp
  show character.toNat % 256 = character.toNat
  exact Nat.mod_eq_of_lt (by omega)

theorem utf8_toString (n : Nat) : utf8 (toString n) = (Nat.toDigits 10 n).map Char.toUInt8 := by
  have ascii : ∀ character ∈ n.repr.toList, character.toNat < 128 := by
    rw [Nat.toList_repr]
    intro character member
    exact toNat_lt_of_isDigit (Nat.isDigit_of_mem_toDigits (by decide) (by decide) member)
  rw [Nat.toString_eq_repr, utf8_of_ascii ascii, Nat.toList_repr]

theorem decimal?_toString (n : Nat) (rest : Bytes) :
    decimal? (utf8 (toString n) ++ 1 :: rest) = some (n, rest) := by
  have back : ∀ character ∈ Nat.toDigits 10 n,
      character.isDigit = true ∧ Char.ofUInt8 character.toUInt8 = character := by
    intro character member
    have digit := Nat.isDigit_of_mem_toDigits (by decide) (by decide) member
    exact ⟨digit, ofUInt8_toUInt8 (toNat_lt_of_isDigit digit)⟩
  have passes : ∀ byte ∈ utf8 (toString n), isDigit byte = true := by
    rw [utf8_toString, List.forall_mem_map]
    intro character member
    obtain ⟨digit, same⟩ := back character member
    rw [isDigit, same, digit]
  have read : (utf8 (toString n)).map Char.ofUInt8 = Nat.toDigits 10 n := by
    rw [utf8_toString, List.map_map]
    exact List.map_congr_left (fun character member => (back character member).2) |>.trans
      (List.map_id _)
  have value : Nat.ofDigitChars 10 (Nat.toDigits 10 n) 0 = n :=
    Nat.ofDigitChars_toDigits (by decide) (by decide)
  -- the delimiter is no digit, so the digits stop where the number does
  have ends : isDigit 1 = false := by decide
  rw [decimal?, List.takeWhile_append_of_pos passes, List.dropWhile_append_of_pos passes,
    List.takeWhile_cons_of_neg (by simp [ends]), List.dropWhile_cons_of_neg (by simp [ends]),
    List.append_nil, read, value]
  rfl

end Decimals

/-- The binary part of a frame, and the content behind the block that it announces. -/
structure Envelope where
  blockLength : Nat
  template : Nat
  schema : Nat
  version : Nat
  connection : ConnectionId
  time : Word
  content : Bytes
  deriving DecidableEq

def Envelope.read? (frame : Bytes) : Option Envelope := do
  let (blockLength, rest) ← number? 2 frame
  let (template, rest) ← number? 2 rest
  let (schema, rest) ← number? 2 rest
  let (version, rest) ← number? 2 rest
  let (block, content) ← split? blockLength rest
  let (connection, block) ← word? block
  let (time, _) ← word? block
  some { blockLength, template, schema, version, connection, time, content }

theorem read?_envelope (connection : ConnectionId) (time : Word) (content : Bytes) :
    Envelope.read? (header ++ fixedBlock connection time ++ content) =
      some ⟨16, 1, 666, 1, connection, time, content⟩ := by
  have number {n : Nat} (small : n < 65536) (rest : Bytes) :
      number? 2 (littleEndian 2 n ++ rest) = some (n, rest) := number?_littleEndian small rest
  have width : (fixedBlock connection time).length = fixedBlockLength := by
    simp [fixedBlock, fixedBlockLength]
  have readConnection : word? (fixedBlock connection time) =
      some (connection, littleEndian 8 time.toNat) := word?_littleEndian connection _
  have readTime : word? (littleEndian 8 time.toNat) = some (time, []) := by
    have := word?_littleEndian time []
    rwa [List.append_nil] at this
  simp only [Envelope.read?, header, List.append_assoc, number (show fixedBlockLength < _ by decide),
    number (show templateId < _ by decide), number (show schemaId < _ by decide),
    number (show schemaVersion < _ by decide), split?_append width, readConnection, readTime,
    Option.bind_eq_bind, Option.bind_some]
  rfl

/-- The bytes that the length field counts; what follows them is the trailer. -/
def body? (content : Bytes) : Option Bytes := do
  let rest ← skip? (utf8 "8=FIX.4.4\x019=") content
  let (length, rest) ← decimal? rest
  let (body, rest) ← split? length rest
  if rest = utf8 "10=000\x01" then some body else none

/-- The message type and the fields after it. The type is one character, also when that
character is the delimiter. -/
def parts? (body : Bytes) : Option (UInt8 × String) := do
  let text ← text? body
  match text.toList with
  | '3' :: '5' :: '=' :: character :: '\x01' :: fields =>
    if character.toNat < 256 then
      some (UInt8.ofNat character.toNat, String.ofList fields)
    else
      none
  | _ => none

theorem content_layout (messageType : UInt8) (fields : String) :
    content messageType fields =
      utf8 "8=FIX.4.4\x019=" ++ utf8 (toString (utf8 (body messageType fields)).length) ++
        1 :: utf8 (body messageType fields) ++ utf8 "10=000\x01" := by
  have delimiter : utf8 "\x01" = [1] := by decide
  simp only [content, utf8_append, delimiter, length_utf8, List.append_assoc, List.cons_append,
    List.nil_append]

theorem body?_content (messageType : UInt8) (fields : String) :
    body? (content messageType fields) = some (utf8 (body messageType fields)) := by
  rw [content_layout]
  simp only [body?, List.append_assoc, List.cons_append, skip?_append, decimal?_toString,
    split?_append rfl, Option.bind_eq_bind, Option.bind_some, if_pos]

theorem toNat_typeCharacter (messageType : UInt8) :
    (typeCharacter messageType).toNat = messageType.toNat := by
  have valid : messageType.toNat.isValidChar := .inl (by have := messageType.toNat_lt; omega)
  rw [typeCharacter, Char.ofNat, dif_pos valid]
  rfl

theorem parts?_body (messageType : UInt8) (fields : String) :
    parts? (utf8 (body messageType fields)) = some (messageType, fields) := by
  have code := toNat_typeCharacter messageType
  have small : (typeCharacter messageType).toNat < 256 := by
    rw [code]
    exact messageType.toNat_lt
  have characters : (body messageType fields).toList =
      '3' :: '5' :: '=' :: typeCharacter messageType :: '\x01' :: fields.toList := by
    simp [body, String.toList_append]
  simp only [parts?, text?_utf8, characters, Option.bind_eq_bind, Option.bind_some, if_pos small]
  rw [code, UInt8.ofNat_toNat, String.ofList_toList]

structure Message where
  connection : ConnectionId
  time : Word
  messageType : UInt8
  fields : String
  deriving DecidableEq

namespace Message

def body (message : Message) : Bytes := utf8 (Wire.body message.messageType message.fields)

def frame (message : Message) : Bytes :=
  header ++ fixedBlock message.connection message.time ++
    content message.messageType message.fields

def read? (frame : Bytes) : Option Message := do
  let envelope ← Envelope.read? frame
  let body ← body? envelope.content
  let (messageType, fields) ← parts? body
  some ⟨envelope.connection, envelope.time, messageType, fields⟩

theorem read?_frame (message : Message) : read? message.frame = some message := by
  simp only [read?, frame, read?_envelope, body?_content, parts?_body, Option.bind_eq_bind,
    Option.bind_some]

end Message

def bounds? (fields : String) : Option (Nat × Nat) := do
  let rest ← skip? (utf8 "7=") (utf8 fields)
  let (first, rest) ← decimal? rest
  let rest ← skip? (utf8 "16=") rest
  let (last, rest) ← decimal? rest
  if rest = [] then some (first, last) else none

theorem bounds?_resendBounds (first last : Word) :
    bounds? (resendBounds first last) = some (first.toNat, last.toNat) := by
  have delimiter : utf8 "\x01" = [1] := by decide
  have between : utf8 "\x0116=" = 1 :: utf8 "16=" := by decide
  have fields : resendBounds first last = "7=" ++ toString first.toNat ++ "\x0116=" ++
      toString last.toNat ++ "\x01" := by
    unfold resendBounds
    rfl
  simp only [bounds?, fields, utf8_append, delimiter, between, List.append_assoc,
    List.cons_append, skip?_append, decimal?_toString, Option.bind_eq_bind, Option.bind_some,
    if_pos]

end SessionReplay.Wire
