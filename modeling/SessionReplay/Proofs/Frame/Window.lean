import SessionReplay.Frame

/-! The window of a message as plain numbers. The offsets are words and every step checks its own
range; together the checks say no more than that header and content lie in the buffer in order. -/
namespace SessionReplay

namespace Word

theorem toNat_add_of_fits {a b : Word} (fits : a.toNat + b.toNat < UInt64.size) :
    (a + b).toNat = a.toNat + b.toNat := by
  rw [UInt64.toNat_add, Nat.mod_eq_of_lt fits]

theorem sub?_eq_some_iff {a b c : Word} : sub? a b = some c ↔ c.toNat + b.toNat = a.toNat := by
  constructor
  · intro difference
    obtain ⟨le, value⟩ := sub?_toNat difference
    have := UInt64.le_iff_toNat_le.mp le
    omega
  · intro sum
    have le : b ≤ a := UInt64.le_iff_toNat_le.mpr (by omega)
    rw [sub?, if_pos le, Option.some.injEq]
    apply UInt64.toNat_inj.mp
    rw [UInt64.toNat_sub_of_le _ _ le]
    omega

theorem add?_eq_some_iff {a b c : Word} : add? a b = some c ↔ c.toNat = a.toNat + b.toNat := by
  constructor
  · exact add?_toNat
  · intro sum
    have fits : a.toNat + b.toNat < UInt64.size := by
      rw [← sum]
      exact c.toNat_lt_size
    rw [add?, if_pos fits, Option.some.injEq]
    apply UInt64.toNat_inj.mp
    rw [toNat_add_of_fits fits, sum]

end Word

/-- The window holds the header of the message, what follows it, and the content up to its end. -/
structure FrameWindow.Covers (window : FrameWindow) (event : MessageEvent) : Prop where
  header : window.headerStart.toNat + messageHeaderLength.toNat = event.initialOffset.toNat
  payload : window.headerStart.toNat + window.payloadOffset.toNat = event.offset.toNat
  length : window.length = event.length
  whole : window.fullLength.toNat = window.payloadOffset.toNat + event.length.toNat
  fits : event.offset.toNat + event.length.toNat < UInt64.size
  within : event.offset.toNat + event.length.toNat ≤ event.buffer.length

namespace MessageEvent
variable {event : MessageEvent} {window : FrameWindow}

theorem contentStop?_eq_some_iff {stop : Word} :
    event.contentStop? = some stop ↔
      stop.toNat = event.offset.toNat + event.length.toNat ∧
        stop.toNat ≤ event.buffer.length := by
  rw [contentStop?, Option.filter_eq_some_iff, Word.add?_eq_some_iff, decide_eq_true_eq]

theorem covers_of_window (framed : event.window = .ok window) : window.Covers event := by
  unfold MessageEvent.window at framed
  split at framed
  · contradiction
  · next headerStart header =>
    split at framed
    · contradiction
    · next payloadOffset payload =>
      split at framed
      · contradiction
      · next stop content =>
        obtain rfl := Except.ok.inj framed
        have header := Word.sub?_eq_some_iff.mp header
        have payload := Word.sub?_eq_some_iff.mp payload
        obtain ⟨value, within⟩ := contentStop?_eq_some_iff.mp content
        have below := stop.toNat_lt_size
        have le : headerStart ≤ stop := UInt64.le_iff_toNat_le.mpr (by omega)
        have whole : (stop - headerStart).toNat = stop.toNat - headerStart.toNat :=
          UInt64.toNat_sub_of_le _ _ le
        constructor
        · exact header
        · dsimp only
          omega
        · rfl
        · dsimp only
          omega
        · omega
        · omega

theorem window_of_covers (covers : window.Covers event) : event.window = .ok window := by
  obtain ⟨header, payload, length, whole, fits, within⟩ := covers
  have start : Word.sub? event.initialOffset messageHeaderLength = some window.headerStart :=
    Word.sub?_eq_some_iff.mpr header
  have offset : Word.sub? event.offset window.headerStart = some window.payloadOffset :=
    Word.sub?_eq_some_iff.mpr (by omega)
  have sum := Word.toNat_add_of_fits fits
  have content : event.contentStop? = some (event.offset + event.length) :=
    contentStop?_eq_some_iff.mpr ⟨sum, by omega⟩
  have full : event.offset + event.length - window.headerStart = window.fullLength := by
    apply UInt64.toNat_inj.mp
    rw [UInt64.toNat_sub_of_le _ _ (UInt64.le_iff_toNat_le.mpr (by omega))]
    omega
  simp only [MessageEvent.window, start, offset, content, full]
  rw [← length]

end MessageEvent

namespace FrameWindow.Covers
variable {window : FrameWindow} {event : MessageEvent} (covers : window.Covers event)
include covers

theorem stop_toNat : window.stop.toNat = event.offset.toNat + event.length.toNat := by
  obtain ⟨header, payload, length, whole, fits, within⟩ := covers
  have fits : window.headerStart.toNat + window.fullLength.toNat < UInt64.size := by omega
  rw [stop, Word.toNat_add_of_fits fits]
  omega

/-- What is forwarded are the bytes from the header to the end of the content. -/
theorem framed_eq : (FramedMessage.ofEvent event window).framed =
    event.buffer.extract (event.initialOffset.toNat - messageHeaderLength.toNat)
      (event.offset.toNat + event.length.toNat) := by
  obtain ⟨header, payload, length, whole, fits, within⟩ := covers
  have first : event.initialOffset.toNat - messageHeaderLength.toNat =
      window.headerStart.toNat := by omega
  rw [List.extract_eq_take_drop, first]
  show (event.buffer.drop window.headerStart.toNat).take
    (window.payloadOffset.toNat + window.length.toNat) = _
  rw [length]
  congr 1
  omega

theorem content_eq : (FramedMessage.ofEvent event window).content =
    event.buffer.extract event.offset.toNat (event.offset.toNat + event.length.toNat) := by
  obtain ⟨header, payload, length, whole, fits, within⟩ := covers
  rw [List.extract_eq_take_drop, Nat.add_sub_cancel_left, ← payload, ← length]
  rfl

end FrameWindow.Covers
end SessionReplay
