import SessionReplay.Script.Basic
import SessionReplay.Proofs.Frame.Window
import SessionReplay.Proofs.Script.Reader

/-! From a script to the wire and back. A recorded message is framed where the script put it, and
what its frame says is the message that the script was asked for. -/
namespace SessionReplay
open Wire

/-- The message lies in the event's buffer right behind the padding, and can be read back. -/
structure Wire.Message.LiesIn (message : Wire.Message) (event : MessageEvent)
    (window : FrameWindow) (padding : Nat) : Prop where
  framed : event.window = .ok window
  headerStart : window.headerStart.toNat = padding
  payloadOffset : window.payloadOffset = 24
  stop : window.stop.toNat = event.buffer.length
  /-- The recorded block length leads from the end of the header to the content. -/
  block : event.initialOffset.toNat + 16 = event.offset.toNat
  envelope : Envelope.read? (FramedMessage.ofEvent event window).framed =
    some ⟨16, 1, 666, 1, message.connection, message.time,
      (FramedMessage.ofEvent event window).content⟩
  content : (FramedMessage.ofEvent event window).content =
    utf8 "8=FIX.4.4" ++ 1 :: utf8 "9=" ++ utf8 (toString message.body.length) ++
      1 :: message.body ++ utf8 "10=000" ++ [1]
  body : message.body =
    utf8 "35=" ++ utf8 (String.singleton (Char.ofNat message.messageType.toNat)) ++
      1 :: utf8 message.fields
  read : Message.read? (FramedMessage.ofEvent event window).framed = some message

namespace Script

def written (script : Script) (connection : ConnectionId) (messageType : UInt8)
    (fields : String) : Wire.Message :=
  ⟨connection, script.time, messageType, fields⟩

def windowOf (script : Script) (content : Bytes) : FrameWindow :=
  ⟨UInt64.ofNat script.padding, 24, UInt64.ofNat content.length,
    24 + UInt64.ofNat content.length⟩

section Framed
variable {script : Script} {owner : OwnerId} {connection : ConnectionId} {messageType : UInt8}
  {content : Bytes}

theorem length_buffer (padding : Nat) (connection : ConnectionId) (time : Word)
    (content : Bytes) :
    (Wire.buffer padding connection time content).length = padding + 24 + content.length := by
  simp only [Wire.buffer, header, fixedBlock, List.length_append, List.length_replicate,
    length_littleEndian]

variable (fits : script.padding + 24 + content.length < UInt64.size)
include fits

theorem toNat_padding : (UInt64.ofNat script.padding).toNat = script.padding :=
  UInt64.toNat_ofNat_of_lt' (by omega)

theorem initialOffset_framed :
    (script.framed owner connection messageType content).initialOffset.toNat =
      script.padding + 8 := by
  have padding := toNat_padding fits
  have eight : messageHeaderLength.toNat = 8 := rfl
  have sum := @Word.toNat_add_of_fits (UInt64.ofNat script.padding) messageHeaderLength (by omega)
  exact sum.trans (by omega)

theorem offset_framed :
    (script.framed owner connection messageType content).offset.toNat =
      script.padding + 24 := by
  have initialOffset := @initialOffset_framed script owner connection messageType _ fits
  have sixteen : (UInt64.ofNat fixedBlockLength).toNat = 16 := rfl
  have sum := @Word.toNat_add_of_fits
    (script.framed owner connection messageType content).initialOffset
    (UInt64.ofNat fixedBlockLength) (by omega)
  exact sum.trans (by omega)

theorem length_framed :
    (script.framed owner connection messageType content).length.toNat = content.length :=
  UInt64.toNat_ofNat_of_lt' (by omega)

/-- The window of a message of the script: its header begins right behind the padding. -/
theorem covers_framed :
    (script.windowOf content).Covers (script.framed owner connection messageType content) := by
  have padding := toNat_padding fits
  have initialOffset := @initialOffset_framed script owner connection messageType _ fits
  have offset := @offset_framed script owner connection messageType _ fits
  have length := @length_framed script owner connection messageType _ fits
  have eight : messageHeaderLength.toNat = 8 := rfl
  have block : (24 : Word).toNat = 24 := rfl
  have whole : (24 + UInt64.ofNat content.length).toNat = 24 + content.length := by
    have value : (UInt64.ofNat content.length).toNat = content.length := length
    have sum := @Word.toNat_add_of_fits 24 (UInt64.ofNat content.length) (by omega)
    omega
  constructor
  · dsimp only [windowOf]
    omega
  · dsimp only [windowOf]
    omega
  · rfl
  · dsimp only [windowOf]
    omega
  · omega
  · rw [offset, length]
    exact Nat.le_of_eq (length_buffer _ _ _ _).symm

theorem framed_framed :
    (FramedMessage.ofEvent (script.framed owner connection messageType content)
      (script.windowOf content)).framed =
        header ++ fixedBlock connection script.time ++ content := by
  have covers := @covers_framed script owner connection messageType _ fits
  have buffer : (script.framed owner connection messageType content).buffer =
      List.replicate script.padding 0 ++
        (header ++ fixedBlock connection script.time ++ content) := by
    simp only [framed, Wire.buffer, List.append_assoc]
  have eight : messageHeaderLength.toNat = 8 := rfl
  rw [covers.framed_eq, initialOffset_framed fits, offset_framed fits, length_framed fits, eight,
    Nat.add_sub_cancel, buffer, List.extract_eq_take_drop]
  rw [List.drop_left' List.length_replicate, List.take_of_length_le]
  simp only [header, fixedBlock, List.length_append, length_littleEndian]
  omega

theorem content_framed :
    (FramedMessage.ofEvent (script.framed owner connection messageType content)
      (script.windowOf content)).content = content := by
  have covers := @covers_framed script owner connection messageType _ fits
  have front : (List.replicate script.padding (0 : UInt8) ++ header ++
      fixedBlock connection script.time).length = script.padding + 24 := by
    simp only [header, fixedBlock, List.length_append, List.length_replicate, length_littleEndian]
  rw [covers.content_eq, offset_framed fits, length_framed fits, List.extract_eq_take_drop,
    Nat.add_sub_cancel_left]
  show ((_ ++ _ ++ _ ++ content).drop _).take _ = content
  rw [List.drop_left' front, List.take_length]

end Framed

theorem build_message (script : Script) (owner : OwnerId) (connection : ConnectionId)
    (messageType : UInt8) (fields : String) :
    (script.message owner connection messageType fields).build = script.build ++
      [.message (script.framed owner connection messageType
        (Wire.content messageType fields))] := by
  simp only [message, record, build, Array.toList_push]

theorem isResendRequest_framed (script : Script) (owner : OwnerId) (connection : ConnectionId)
    (messageType : UInt8) (content : Bytes) :
    (script.framed owner connection messageType content).isResendRequest = true ↔
      messageType = 0x32 := by
  show (messageType.toUInt64 == resendRequestType) = true ↔ _
  rw [beq_iff_eq, ← UInt64.toNat_inj, ← UInt8.toNat_inj, UInt8.toNat_toUInt64]
  rfl

section Written
variable {script : Script} {owner : OwnerId} {connection : ConnectionId} {messageType : UInt8}
  {fields : String}

theorem liesIn_written
    (fits : script.padding + 24 + (Wire.content messageType fields).length < UInt64.size) :
    (script.written connection messageType fields).LiesIn
      (script.framed owner connection messageType (Wire.content messageType fields))
      (script.windowOf (Wire.content messageType fields)) script.padding := by
  have covers := @covers_framed script owner connection messageType _ fits
  have frame := @framed_framed script owner connection messageType _ fits
  have content := @content_framed script owner connection messageType _ fits
  constructor
  case framed => exact MessageEvent.window_of_covers covers
  case headerStart => exact toNat_padding fits
  case payloadOffset => rfl
  case stop =>
    rw [covers.stop_toNat, offset_framed fits, length_framed fits]
    exact (length_buffer _ _ _ _).symm
  case block => rw [initialOffset_framed fits, offset_framed fits]
  case envelope =>
    rw [frame, content]
    exact read?_envelope connection script.time _
  case content =>
    have opening : utf8 "8=FIX.4.4\x019=" = utf8 "8=FIX.4.4" ++ 1 :: utf8 "9=" := by decide
    have trailer : utf8 "10=000\x01" = utf8 "10=000" ++ [1] := by decide
    rw [content, content_layout, opening, trailer, ← List.append_assoc]
    rfl
  case body =>
    have delimiter : utf8 "\x01" = [1] := by decide
    show utf8 (Wire.body messageType fields) = _
    rw [Wire.body, utf8_append, utf8_append, utf8_append, delimiter, List.append_assoc _ [1]]
    rfl
  case read =>
    rw [frame]
    exact Message.read?_frame (script.written connection messageType fields)

theorem liesIn_recorded {event : MessageEvent} {window : FrameWindow}
    (fits : script.padding + 24 + (Wire.content messageType fields).length < UInt64.size)
    (recorded : (script.message owner connection messageType fields).build =
      script.build ++ [.message event])
    (framed : event.window = .ok window) :
    (script.written connection messageType fields).LiesIn event window script.padding := by
  rw [build_message] at recorded
  cases List.append_cancel_left recorded
  have lies := @liesIn_written script owner connection messageType fields fits
  cases framed.symm.trans lies.framed
  exact lies

end Written

/-- What a script records is framed right behind its padding, and a reader that goes by the
recorded lengths alone gets back what the script was asked for: connection, time, type and
fields, and the bounds of a resend request. -/
theorem wire_round_trip (script : Script) (owner : OwnerId) (connection : ConnectionId)
    (messageType : UInt8) (fields : String)
    (fits : script.padding + 24 + (Wire.content messageType fields).length < UInt64.size) :
    ∃ event window,
      (script.message owner connection messageType fields).build =
        script.build ++ [.message event] ∧
      (script.written connection messageType fields).LiesIn event window script.padding ∧
      (∀ (other : Script) owner' connection' messageType' fields' event' window',
        other.padding + 24 + (Wire.content messageType' fields').length < UInt64.size →
        (other.message owner' connection' messageType' fields').build =
          other.build ++ [.message event'] →
        event'.window = .ok window' →
        (FramedMessage.ofEvent event' window').framed =
          (FramedMessage.ofEvent event window).framed →
        other.written connection' messageType' fields' =
          script.written connection messageType fields) ∧
      (event.isResendRequest = true ↔ messageType = 0x32) ∧
      (∀ first last,
        script.padding + 24 + (Wire.content 0x32 (resendBounds first last)).length <
          UInt64.size →
        ∃ request requestWindow requestFields,
          (script.resendRequest owner connection first last).build =
            script.build ++ [.message request] ∧
          request.isResendRequest = true ∧
          (script.written connection 0x32 requestFields).LiesIn request requestWindow
            script.padding ∧
          bounds? requestFields = some (first.toNat, last.toNat)) := by
  refine ⟨_, _, build_message .., liesIn_written fits, ?distinct, isResendRequest_framed ..,
    ?request⟩
  case distinct =>
    intro other owner' connection' messageType' fields' event' window' fits' recorded framed same
    -- one reader reads both frames, so it reads the same message twice
    have read := (liesIn_recorded fits' recorded framed).read
    rw [same, (liesIn_written fits).read] at read
    exact (Option.some.inj read).symm
  case request =>
    intro first last fits'
    exact ⟨_, _, _, build_message .., (isResendRequest_framed ..).mpr rfl,
      liesIn_written fits', bounds?_resendBounds first last⟩

/-- The type is written in two bytes, and the fields hold a trailer of their own. -/
theorem wire_round_trip_lookalike :
    5 + 24 + (Wire.content 0xE9 "58=\u20ac\x0110=000\x01").length < UInt64.size ∧
    ∃ event window,
      (message { time := 500, padding := 5 } 3 7 0xE9 "58=\u20ac\x0110=000\x01").build =
        [.message event] ∧
      event.window = .ok window ∧
      Message.read? (FramedMessage.ofEvent event window).framed =
        some ⟨7, 500, 0xE9, "58=\u20ac\x0110=000\x01"⟩ ∧
      event.isResendRequest = false ∧
      (∀ event' window',
        (message { time := 500 } 3 7 0xE9 "58=\u20ac\x01").build = [.message event'] →
        event'.window = .ok window' →
        (FramedMessage.ofEvent event' window').framed ≠
          (FramedMessage.ofEvent event window).framed) ∧
      ∃ request window fields,
        (resendRequest { time := 500, padding := 5 } 3 7 10 20).build = [.message request] ∧
        Message.read? (FramedMessage.ofEvent request window).framed =
          some ⟨7, 500, 0x32, fields⟩ ∧
        bounds? fields = some (10, 20) := by
  have fits : 5 + 24 + (Wire.content 0xE9 "58=\u20ac\x0110=000\x01").length < UInt64.size := by
    decide
  obtain ⟨event, window, recorded, lies, distinct, flag, requests⟩ :=
    wire_round_trip { time := 500, padding := 5 } 3 7 0xE9 "58=\u20ac\x0110=000\x01" fits
  obtain ⟨request, requestWindow, fields, asked, -, carries, bounds⟩ := requests 10 20 (by decide)
  refine ⟨fits, event, window, recorded, lies.framed, lies.read, ?_, ?_, request, requestWindow,
    fields, asked, carries.read, bounds⟩
  · rw [Bool.eq_false_iff, ne_eq, flag]
    decide
  · intro event' window' recorded' framed' same
    have := distinct { time := 500 } 3 7 0xE9 "58=\u20ac\x01" event' window' (by decide) recorded'
      framed' same
    revert this
    decide

end Script
end SessionReplay
