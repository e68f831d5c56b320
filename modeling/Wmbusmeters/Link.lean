import Wmbusmeters.MBusRawTTY
import Wmbusmeters.Send

/-
The M-Bus link end to end: `MBusRawTTY::sendTelegram` frames a content and hands
the frame to its source's `send`, and at the other end `processSerialData` reads
what arrived.

Nothing is sent when the source is read-only.  `readonly()` is `is_stdin_ ||
is_file_`, and `open` sets one of them on every source but a TTY: an opened command
source is read-only although its `send` would write to the child, and
`sendTelegram` returns `true` on it at once.  Only a TTY, or a command source not
yet opened, writes frames (`Source.writesFrames`).

On such a source `send` can stop part way, when a `write()` fails with anything but
`EINTR`, so what reaches the wire is a prefix of the frame (`writeLoop_spec`).  The
reader never mistakes a prefix for a frame (`checkMBusFrame_take`): it hands on the
telegram exactly when `sendTelegram` returned `true` on a source that writes frames,
and otherwise nothing, keeping the bytes that got through as the start of a frame
still to come.

Not proved here: what the reader makes of a frame sent behind such a prefix, whose
length bytes claim the bytes that follow it.
-/

namespace Wmbusmeters

open MBusFrame

/-- `MBusRawTTY::sendTelegram` with the `serial()->send(msg)` it ends with, on the
source `serial`, whose own `readonly()` decides whether anything is sent: what it
returns, the bytes the writes took, and the write results left; `none` when `send`
does not return. -/
def MBusRawTTY.sendTelegram (serial : Source) (startsWith : ContentStartsWith)
    (content : List UInt8) (writes : List WriteResult) :
    Option (Bool × List UInt8 × List WriteResult) :=
  match Wmbusmeters.sendTelegram serial.readonly startsWith content with
  | .returns ok => some (ok, [], writes)
  | .sends msg => sourceSend serial.kind msg writes

/-- Whether `sendTelegram` on the source can put a frame on the wire: the source is
not read-only, and its `send` writes, as only a TTY's and a command's does. -/
def Source.writesFrames (s : Source) : Bool :=
  !s.readonly && (s.kind == .tty || s.kind == .command)

/-- A content that fits its frame shape is sent as a frame whose telegram is the
content behind its length byte. -/
theorem sendTelegram_frame {startsWith : ContentStartsWith} {content : List UInt8}
    (hshape : startsWith = .longFrame ∧ 3 ≤ content.length ∧ content.length ≤ 250 ∨
      startsWith = .shortFrame ∧ content.length = 2) :
    ∃ f : MBusFrame, sendTelegram false startsWith content = .sends f.bytes ∧
      f.telegram = UInt8.ofNat content.length :: content := by
  have hsend : ∀ header, pushContent content (header, 0) = (header ++ content, checksum content) :=
    fun header => pushContent_eq content header 0
  rcases hshape with ⟨rfl, hmin, hmax⟩ | ⟨rfl, htwo⟩
  · match content, hmin, hmax with
    | c :: a :: ci :: data, _, hmax =>
      have hlen : data.length + 3 ≤ 250 := by simpa using hmax
      refine ⟨.long c a ci data (by omega), ?_, rfl⟩
      simp [sendTelegram, hsend, bytes, show ¬ 250 < data.length + 3 by omega]
  · match content, htwo with
    | [c, a], _ => exact ⟨.short c a, by simp [sendTelegram, hsend, bytes], rfl⟩

/-- What the writable sources put on the wire: a prefix of the data, all of it
exactly when `send` returned `true`. -/
theorem send_prefix {kind : SourceKind} (hk : kind = .tty ∨ kind = .command) {data : List UInt8}
    (h0 : 0 < data.length) (hlt : data.length < 2 ^ 31) {writes : List WriteResult}
    {sent : Bool} {out : List UInt8} {rest : List WriteResult}
    (h : sourceSend kind data writes = some (sent, out, rest)) :
    out <+: data ∧ (sent = true ↔ out = data) := by
  have hall : sourceSend kind data writes = writeLoop data data.length 0 writes := by
    rcases hk with rfl | rfl <;>
      simp [sourceSend, SerialDeviceTTY.send, SerialDeviceCommand.send, writeAll,
        toInt32_length hlt, Nat.pos_iff_ne_zero.mp h0]
  rw [hall] at h
  simpa using (writeLoop_spec data writes 0 (by omega) h0).2 sent out rest h

/-- What the reader makes of a frame handed to a writable source's `send`: the
telegram when `send` returned `true`, and otherwise nothing, the bytes that got
through waiting in its buffer as the start of the frame. -/
theorem send_frame_read {kind : SourceKind} (hk : kind = .tty ∨ kind = .command) (f : MBusFrame)
    {writes : List WriteResult} {sent : Bool} {out : List UInt8} {rest : List WriteResult}
    (h : sourceSend kind f.bytes writes = some (sent, out, rest)) :
    (MBusRawTTY.mk []).processSerialData out =
      some (⟨if sent then [] else out⟩, if sent then [f.telegram] else []) := by
  have hlen : f.bytes.length < 2 ^ 31 := by
    cases f with
    | singleChar => simp [bytes]
    | short c a => simp [bytes]
    | long c a ci data fits => simp [bytes]; omega
  obtain ⟨hpre, hsent⟩ := send_prefix hk f.bytes_length_pos hlen h
  cases sent
  · obtain ⟨k, rfl⟩ : ∃ k, out = f.bytes.take k := ⟨_, List.prefix_iff_eq_take.mp hpre⟩
    have hklt : k < f.bytes.length := by
      by_contra hge
      exact absurd (hsent.mpr (List.take_of_length_le (by omega))) Bool.false_ne_true
    simpa using processSerialData_partial (checkMBusFrame_take f k hklt)
  · rw [hsent.mp rfl, processSerialData_frame]
    rfl

/-- **A telegram arrives whole or not at all, and only from a source that writes
frames.**  Take a content that fits its frame (3 to 250 bytes as a long frame, 2 as a
short one), any source and any results of the `write()` calls.  When `sendTelegram`
returns, the reader at the other end, from an empty buffer, hands on the telegram,
the content behind its length byte, if it returned `true` on a source that writes
frames, and nothing otherwise; the bytes that got through then wait in its buffer as
the start of a frame.  A source that does not write frames, such as every source
but a TTY once opened (`Source.open_readonly`), makes `sendTelegram` return `true`
having sent nothing. -/
theorem sendTelegram_delivers_iff_sent (s : Source) {startsWith : ContentStartsWith}
    {content : List UInt8}
    (hshape : startsWith = .longFrame ∧ 3 ≤ content.length ∧ content.length ≤ 250 ∨
      startsWith = .shortFrame ∧ content.length = 2)
    {writes : List WriteResult} {sent : Bool} {out : List UInt8} {rest : List WriteResult}
    (h : MBusRawTTY.sendTelegram s startsWith content writes = some (sent, out, rest)) :
    (s.writesFrames = false → sent = true ∧ out = []) ∧
    (MBusRawTTY.mk []).processSerialData out =
      some (⟨if sent && s.writesFrames then [] else out⟩,
        if sent && s.writesFrames then [UInt8.ofNat content.length :: content] else []) := by
  have hempty : (MBusRawTTY.mk []).processSerialData [] = some (⟨[]⟩, []) :=
    processSerialData_partial rfl
  obtain ⟨f, hf, htel⟩ := sendTelegram_frame hshape
  cases hro : s.readonly
  · -- a writable source hands the frame to its `send`
    simp only [MBusRawTTY.sendTelegram, hro, hf] at h
    cases hk : s.kind with
    | tty | command =>
      have hw : s.writesFrames = true := by simp [Source.writesFrames, hro, hk]
      rw [hk] at h
      refine ⟨by simp [hw], ?_⟩
      simpa [hw, htel] using send_frame_read (by simp) f h
    | file =>
      simp only [hk, sourceSend, SerialDeviceFile.send, Option.some.injEq, Prod.mk.injEq] at h
      obtain ⟨rfl, rfl, rfl⟩ := h
      simpa [Source.writesFrames, hk] using hempty
    | simulator => simp [Source.readonly, hk] at hro
  · -- a read-only source returns at once
    simp only [MBusRawTTY.sendTelegram, hro, Wmbusmeters.sendTelegram, if_true,
      Option.some.injEq, Prod.mk.injEq] at h
    obtain ⟨rfl, rfl, rfl⟩ := h
    simpa [Source.writesFrames, hro] using hempty

/-- An opened command source: `open` has set `is_stdin_`, so `sendTelegram` returns
`true` at once and nothing reaches the other end. -/
theorem sendTelegram_delivers_iff_sent_command :
    let cmd : Source := ⟨.command, "rtlsdr", 0, 3, 42, false, false, true, false⟩
    SerialDeviceCommand.open { cmd with fd := -2, pid := 0, isStdin := false } true 42 [0, 1, 2] =
        (cmd, [3, 0, 1, 2], .accessOK) ∧
      MBusRawTTY.sendTelegram cmd .longFrame [1, 2, 3] [.wrote 6] = some (true, [], [.wrote 6]) ∧
      (cmd.writesFrames = false → true = true ∧ ([] : List UInt8) = []) ∧
      (MBusRawTTY.mk []).processSerialData [] =
        some (⟨if true && cmd.writesFrames then [] else []⟩,
          if true && cmd.writesFrames then [UInt8.ofNat [(1 : UInt8), 2, 3].length :: [1, 2, 3]]
          else []) :=
  have h : MBusRawTTY.sendTelegram ⟨.command, "rtlsdr", 0, 3, 42, false, false, true, false⟩
      .longFrame [1, 2, 3] [.wrote 6] = some (true, [], [.wrote 6]) := rfl
  ⟨rfl, h, sendTelegram_delivers_iff_sent _ (.inl ⟨rfl, by decide, by decide⟩) h⟩

/-- Three bytes as a long frame on a TTY, where the second `write()` fails: the two
bytes that got through wait in the reader's buffer and nothing is handed on. -/
example : MBusRawTTY.sendTelegram ⟨.tty, "/dev/ttyUSB0", 2400, 3, 0, false, false, false, false⟩
      .longFrame [1, 2, 3] [.wrote 2, .failed .other] = some (false, [0x68, 3], []) ∧
    (MBusRawTTY.mk []).processSerialData [0x68, 3] = some (⟨[0x68, 3]⟩, []) := by
  decide

end Wmbusmeters
