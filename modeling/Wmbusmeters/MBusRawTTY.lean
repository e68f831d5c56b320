import Mathlib.Data.String.Basic
import Wmbusmeters.Frame

/-
The raw M-Bus reader, `MBusRawTTY`.

`processSerialData` appends what one `receive()` returned to `read_buffer_`, then
eats frames from its front until the recognizer reports a partial frame (wait for
more) or an error (drop the whole buffer).  Each full frame is erased from the
buffer and its payload, behind a re-inserted length byte, goes to
`handleTelegram`.

The result of this file is that reading is insensitive to how the tty splits the
stream: for any list of frames and any cut of their bytes into reads, the frames
are handed on once each and in order, and between reads the buffer holds only
the beginning of the frame still to come.  The proof is one induction over the
frames inside a call (`eatFrames_prefix`) and one over the reads
(`feed_prefix`); neither needs to know where the cuts fall.

`sendTelegram` frames a content for the wire, checking only that it has at most 250
bytes.  What it sends is a frame the reader accepts in full, and reads back as the
content, exactly when the content has the length the frame shape needs: at least 3
bytes for a long frame, exactly 2 for a short one (`sendTelegram_read_back`).  Sent
with any other length, the bytes are no frame, and since every telegram the reader
hands on is cut out of a frame (`eatFrames_telegram_length`), the content does not
come back.
-/

namespace Wmbusmeters

/-- The part of `MBusRawTTY` that `processSerialData` reads and writes. -/
structure MBusRawTTY where
  readBuffer : List UInt8
  deriving DecidableEq, Repr

/-- What `handleTelegram` receives for a full frame: nothing when the payload is
empty, else the payload length as a `uchar` followed by the payload bytes. -/
def framePayload (buf : List UInt8) (payloadLen payloadOffset : Nat) : List UInt8 :=
  if 0 < payloadLen then
    UInt8.ofNat payloadLen :: (buf.drop payloadOffset).take payloadLen
  else []

/-- The `for (;;)` of `processSerialData`, one iteration per unit of fuel: the
buffer it leaves and the payloads it hands on, in order.  `none` only if the fuel
runs out. -/
def eatFrames : Nat → List UInt8 → Option (List UInt8 × List (List UInt8))
  | 0, _ => none
  | fuel + 1, buf =>
    match checkMBusFrame buf with
    | .partialFrame => some (buf, [])
    | .errorInFrame => some ([], [])
    | .fullFrame frameLength payloadLen payloadOffset =>
      (eatFrames fuel (buf.drop frameLength)).map fun r =>
        (r.1, framePayload buf payloadLen payloadOffset :: r.2)

/-- `MBusRawTTY::processSerialData`, given the bytes `receive()` returned.  Every
full frame erases at least one byte, so the loop runs at most once more than the
buffer is long; `processSerialData_isSome` shows it never needs more. -/
def MBusRawTTY.processSerialData (tty : MBusRawTTY) (data : List UInt8) :
    Option (MBusRawTTY × List (List UInt8)) :=
  let buf := tty.readBuffer ++ data
  (eatFrames (buf.length + 1) buf).map fun r => (⟨r.1⟩, r.2)

/-- One `processSerialData` per chunk, the payloads of all calls in order. -/
def MBusRawTTY.feed (tty : MBusRawTTY) : List (List UInt8) → Option (MBusRawTTY × List (List UInt8))
  | [] => some (tty, [])
  | chunk :: chunks => do
    let (tty₁, ts₁) ← tty.processSerialData chunk
    let (tty₂, ts₂) ← tty₁.feed chunks
    pure (tty₂, ts₁ ++ ts₂)

/-! ### Every call returns -/

theorem eatFrames_isSome : ∀ (fuel : Nat) (buf : List UInt8), buf.length < fuel →
    (eatFrames fuel buf).isSome
  | 0, _, h => absurd h (Nat.not_lt_zero _)
  | fuel + 1, buf, h => by
    unfold eatFrames
    split
    · rfl
    · rfl
    · rename_i n len off hfull
      have hn := checkMBusFrame_fullFrame hfull
      simpa using eatFrames_isSome fuel (buf.drop n) (by simp only [List.length_drop]; omega)

/-- **Every call of `processSerialData` returns**, whatever the buffer and the data. -/
theorem processSerialData_isSome (tty : MBusRawTTY) (data : List UInt8) :
    (tty.processSerialData data).isSome := by
  unfold MBusRawTTY.processSerialData
  simpa using eatFrames_isSome ((tty.readBuffer ++ data).length + 1) (tty.readBuffer ++ data)
    (Nat.lt_succ_self _)

/-! ### Frames at the front of the buffer -/

open MBusFrame

/-- The read buffer holds only the beginning of the next frame still to come, and
nothing once every frame has been handed on. -/
def PendingPrefix (buf : List UInt8) : List MBusFrame → Prop
  | [] => buf = []
  | f :: _ => buf <+: f.bytes ∧ buf.length < f.bytes.length

/-- The payload cut out of a frame at the front of the buffer is the frame's telegram. -/
theorem framePayload_frame (f : MBusFrame) (rest : List UInt8) :
    framePayload (f.bytes ++ rest) f.payload.length f.payloadOffset = f.telegram := by
  cases f <;> simp [framePayload, bytes, payload, payloadOffset, telegram]

/-- One frame at the front is eaten whole and the loop goes on with what follows it. -/
theorem eatFrames_frame (fuel : Nat) (f : MBusFrame) (rest : List UInt8) :
    eatFrames (fuel + 1) (f.bytes ++ rest) =
      (eatFrames fuel rest).map fun r => (r.1, f.telegram :: r.2) := by
  rw [eatFrames, checkMBusFrame_frame]
  simp only [framePayload_frame, List.drop_left]

/-- **Inside one call.**  A buffer that starts the stream of `frames` is eaten up to
the last frame it holds whole: those frames are handed on in order, and what stays
is the beginning of the next one. -/
theorem eatFrames_prefix : ∀ (frames : List MBusFrame) (buf : List UInt8) (fuel : Nat),
    buf <+: (frames.map bytes).flatten → buf.length < fuel →
    ∃ k rest, eatFrames fuel buf = some (rest, (frames.take k).map telegram) ∧
      buf = ((frames.take k).map bytes).flatten ++ rest ∧ PendingPrefix rest (frames.drop k)
  | [], buf, fuel + 1, hpre, _ => by
    obtain rfl : buf = [] := List.prefix_nil.mp hpre
    exact ⟨0, [], rfl, rfl, rfl⟩
  | f :: frames, buf, fuel + 1, hpre, hfuel => by
    simp only [List.map_cons, List.flatten_cons] at hpre
    by_cases hshort : buf.length < f.bytes.length
    · -- The first frame has not fully arrived: the loop stops at once.
      have hpf : buf <+: f.bytes :=
        List.prefix_of_prefix_length_le hpre (List.prefix_append _ _) hshort.le
      have hpartial : checkMBusFrame buf = .partialFrame := by
        rw [List.prefix_iff_eq_take.mp hpf]; exact checkMBusFrame_take f _ hshort
      refine ⟨0, buf, ?_, rfl, hpf, hshort⟩
      simp [eatFrames, hpartial]
    · -- The first frame is whole: it is handed on and the rest is a shorter buffer.
      obtain ⟨tail, rfl⟩ : f.bytes <+: buf :=
        List.prefix_of_prefix_length_le (List.prefix_append _ _) hpre (by omega)
      have htail : tail <+: (frames.map bytes).flatten :=
        (List.prefix_append_right_inj _).mp hpre
      have hlen := f.bytes_length_pos
      simp only [List.length_append] at hfuel
      obtain ⟨k, rest, heat, hbuf, hpend⟩ := eatFrames_prefix frames tail fuel htail (by omega)
      refine ⟨k + 1, rest, ?_, ?_, hpend⟩
      · simp [eatFrames_frame, heat]
      · simp [hbuf]

/-! ### Across calls -/

/-- **Across calls.**  Feeding any chunks that continue the stream of `frames` from a
buffer holding the start of its first frame hands on some of the frames, in order,
and leaves the buffer holding the start of the next. -/
theorem feed_prefix : ∀ (chunks : List (List UInt8)) (frames : List MBusFrame) (buf : List UInt8),
    PendingPrefix buf frames → buf ++ chunks.flatten <+: (frames.map bytes).flatten →
    ∃ k rest, (MBusRawTTY.mk buf).feed chunks =
        some (⟨rest⟩, (frames.take k).map telegram) ∧
      buf ++ chunks.flatten = ((frames.take k).map bytes).flatten ++ rest ∧
      PendingPrefix rest (frames.drop k)
  | [], frames, buf, hpend, _ => ⟨0, buf, rfl, by simp, hpend⟩
  | chunk :: chunks, frames, buf, _, hpre => by
    simp only [List.flatten_cons, ← List.append_assoc] at hpre
    obtain ⟨k₁, rest₁, heat, hbuf₁, hpend₁⟩ :=
      eatFrames_prefix frames (buf ++ chunk) _ ((List.prefix_append _ _).trans hpre)
        (Nat.lt_succ_self _)
    have hpre₁ : rest₁ ++ chunks.flatten <+: ((frames.drop k₁).map bytes).flatten := by
      rw [← List.take_append_drop k₁ frames, List.map_append, List.flatten_append, hbuf₁,
        List.append_assoc] at hpre
      exact (List.prefix_append_right_inj _).mp hpre
    obtain ⟨k₂, rest₂, hfeed, hbuf₂, hpend₂⟩ := feed_prefix chunks _ rest₁ hpend₁ hpre₁
    refine ⟨k₁ + k₂, rest₂, ?_, ?_, by rwa [List.drop_drop] at hpend₂⟩
    · simp only [MBusRawTTY.feed, MBusRawTTY.processSerialData, heat, Option.map_some',
        Option.bind_eq_bind, Option.some_bind, hfeed, List.take_add, List.map_append]
      rfl
    · rw [List.flatten_cons, ← List.append_assoc, hbuf₁, List.append_assoc, hbuf₂,
        List.take_add, List.map_append, List.flatten_append, List.append_assoc]

/-- A buffer that has the rest of the stream and only the start of its next frame
has nothing left to come. -/
theorem pendingPrefix_whole {frames : List MBusFrame} {rest : List UInt8}
    (hpend : PendingPrefix rest frames) (hall : rest = (frames.map bytes).flatten) :
    frames = [] ∧ rest = [] := by
  match frames, hpend with
  | [], hpend => exact ⟨rfl, hpend⟩
  | f :: fs, ⟨_, hlt⟩ =>
    subst hall
    simp only [List.map_cons, List.flatten_cons, List.length_append] at hlt
    omega

/-- **Any split of a frame stream into reads hands on the same telegrams.**  For
every list of frames and every cut of their bytes into chunks, feeding the chunks
one `processSerialData` call at a time from an empty buffer hands each frame's
telegram to `handleTelegram` exactly once and in stream order, and leaves the
buffer empty; after every prefix of the chunks each call has returned and the
buffer holds only the start of the next frame not yet handed on. -/
theorem feed_delivers_every_frame (frames : List MBusFrame) (chunks : List (List UInt8))
    (hsplit : chunks.flatten = (frames.map bytes).flatten) :
    (MBusRawTTY.mk []).feed chunks = some (⟨[]⟩, frames.map telegram) ∧
      ∀ j, ∃ k tty, (MBusRawTTY.mk []).feed (chunks.take j) =
        some (tty, (frames.take k).map telegram) ∧ PendingPrefix tty.readBuffer (frames.drop k) := by
  have hempty : PendingPrefix [] frames := by
    cases frames <;> simp [PendingPrefix, List.nil_prefix, bytes_length_pos]
  refine ⟨?_, fun j => ?_⟩
  · obtain ⟨k, rest, hfeed, hbuf, hpend⟩ :=
      feed_prefix chunks frames [] hempty (by simp only [List.nil_append, hsplit, List.prefix_refl])
    have hsplitk : (frames.map bytes).flatten =
        ((frames.take k).map bytes).flatten ++ ((frames.drop k).map bytes).flatten := by
      rw [← List.flatten_append, ← List.map_append, List.take_append_drop]
    rw [List.nil_append, hsplit, hsplitk] at hbuf
    obtain ⟨hdrop, rfl⟩ := pendingPrefix_whole hpend (List.append_cancel_left hbuf).symm
    rw [hfeed, List.take_of_length_le (List.drop_eq_nil_iff.mp hdrop)]
  · have hpre : (chunks.take j).flatten <+: chunks.flatten := by
      conv_rhs => rw [← List.take_append_drop j chunks]
      rw [List.flatten_append]
      exact List.prefix_append _ _
    obtain ⟨k, rest, hfeed, -, hpend⟩ :=
      feed_prefix (chunks.take j) frames [] hempty (by rw [List.nil_append, ← hsplit]; exact hpre)
    exact ⟨k, ⟨rest⟩, hfeed, hpend⟩

theorem feed_delivers_two_frames :
    [[0xE5, 0x10, 3], [7, 10, 0x16]].flatten =
        ([MBusFrame.singleChar, .short 3 7].map bytes).flatten ∧
      ((MBusRawTTY.mk []).feed [[0xE5, 0x10, 3], [7, 10, 0x16]] =
          some (⟨[]⟩, [MBusFrame.singleChar, .short 3 7].map telegram) ∧
        ∀ j, ∃ k tty, (MBusRawTTY.mk []).feed ([[0xE5, 0x10, 3], [7, 10, 0x16]].take j) =
          some (tty, ([MBusFrame.singleChar, .short 3 7].take k).map telegram) ∧
          PendingPrefix tty.readBuffer ([MBusFrame.singleChar, .short 3 7].drop k)) :=
  ⟨by decide, feed_delivers_every_frame _ _ (by decide)⟩

/-! ### Sending

`sendTelegram` writes the frame header for the shape asked for, then the content
with a running `uchar` checksum, then the checksum and the stop byte.
-/

/-- The shapes a content can be framed as.  The enum's declaration is not in the
sources; besides the two shapes `sendTelegram` builds, its values are `other`. -/
inductive ContentStartsWith where
  | shortFrame
  | longFrame
  | other
  deriving DecidableEq, Repr

/-- What `sendTelegram` does: return at once with a value, or hand `msg` to
`serial()->send` and return what that returns. -/
inductive SendAction where
  | returns (ok : Bool)
  | sends (msg : List UInt8)
  deriving DecidableEq, Repr

/-- The copy loop of `sendTelegram`: push each byte and add it to `crc`. -/
def pushContent (content : List UInt8) (start : List UInt8 × UInt8) : List UInt8 × UInt8 :=
  content.foldl (fun acc b => (acc.1 ++ [b], acc.2 + b)) start

/-- `MBusRawTTY::sendTelegram`, for a device whose `readonly()` is `readonly`. -/
def sendTelegram (readonly : Bool) (startsWith : ContentStartsWith) (content : List UInt8) :
    SendAction :=
  if readonly then .returns true
  else if 250 < content.length then .returns false
  else
    let header? : Option (List UInt8) :=
      match startsWith with
      | .shortFrame => some [0x10]
      | .longFrame =>
        some [0x68, UInt8.ofNat content.length, UInt8.ofNat content.length, 0x68]
      | .other => none
    match header? with
    | none => .returns false
    | some header =>
      let (msg, crc) := pushContent content (header, 0)
      .sends (msg ++ [crc, 0x16])

theorem pushContent_eq (content msg : List UInt8) (crc : UInt8) :
    pushContent content (msg, crc) = (msg ++ content, content.foldl (· + ·) crc) := by
  induction content generalizing msg crc with
  | nil => simp [pushContent]
  | cons b bs ih => simp [pushContent] at ih ⊢; simp [ih]

/-- The running `uchar` sum is the byte sum modulo 256. -/
theorem checksum_toNat (bs : List UInt8) :
    (checksum bs).toNat = (bs.map UInt8.toNat).sum % 256 := by
  suffices h : ∀ c : UInt8, (bs.foldl (· + ·) c).toNat = (c.toNat + (bs.map UInt8.toNat).sum) % 256 by
    simpa using h 0
  induction bs with
  | nil => intro c; simp [Nat.mod_eq_of_lt c.toNat_lt_size]
  | cons b bs ih =>
    intro c
    rw [List.foldl_cons, ih, UInt8.toNat_add, List.map_cons, List.sum_cons,
      show UInt8.size = 256 from rfl]
    omega

/-- What `sendTelegram` sends as a long frame on a writable device. -/
theorem sendTelegram_longFrame {content : List UInt8} (hmax : content.length ≤ 250) :
    sendTelegram false .longFrame content =
      .sends ([0x68, UInt8.ofNat content.length, UInt8.ofNat content.length, 0x68] ++ content ++
        [checksum content, 0x16]) := by
  simp [sendTelegram, pushContent_eq, checksum, Nat.not_lt.mpr hmax]

/-- What `sendTelegram` sends as a short frame on a writable device. -/
theorem sendTelegram_shortFrame {content : List UInt8} (hmax : content.length ≤ 250) :
    sendTelegram false .shortFrame content = .sends ([0x10] ++ content ++ [checksum content, 0x16]) := by
  simp [sendTelegram, pushContent_eq, checksum, Nat.not_lt.mpr hmax]

/-- A frame read from an empty buffer is handed on whole and leaves it empty. -/
theorem processSerialData_frame (f : MBusFrame) :
    (MBusRawTTY.mk []).processSerialData f.bytes = some (⟨[]⟩, [f.telegram]) := by
  obtain ⟨n, hn⟩ : ∃ n, f.bytes.length = n + 1 :=
    ⟨_, (Nat.succ_pred_eq_of_pos f.bytes_length_pos).symm⟩
  have h := eatFrames_frame (n + 1) f []
  rw [List.append_nil] at h
  simp only [MBusRawTTY.processSerialData, List.nil_append, hn, h]
  rfl

/-- A buffer the recognizer finds partial is kept whole, and nothing is handed on. -/
theorem processSerialData_partial {buf : List UInt8} (h : checkMBusFrame buf = .partialFrame) :
    (MBusRawTTY.mk []).processSerialData buf = some (⟨buf⟩, []) := by
  simp [MBusRawTTY.processSerialData, eatFrames, h]

/-- An empty long-frame content is sent as a frame the reader drops as an error,
handing nothing on. -/
theorem sendTelegram_empty_longFrame :
    sendTelegram false .longFrame [] = .sends [0x68, 0, 0, 0x68, 0, 0x16] ∧
      checkMBusFrame [0x68, 0, 0, 0x68, 0, 0x16] = .errorInFrame ∧
      (MBusRawTTY.mk []).processSerialData [0x68, 0, 0, 0x68, 0, 0x16] = some (⟨[]⟩, []) := by
  decide

/-- A buffer the recognizer finds in error is dropped, and nothing is handed on. -/
theorem processSerialData_error {buf : List UInt8} (h : checkMBusFrame buf = .errorInFrame) :
    (MBusRawTTY.mk []).processSerialData buf = some (⟨[]⟩, []) := by
  simp [MBusRawTTY.processSerialData, eatFrames, h]

/-! ### Contents that do not fit their frame

`sendTelegram` frames a content of any length up to 250.  When the length does not
fit the shape, the bytes sent are no frame of the grammar, and the reader does not
give the content back: a telegram it hands on is cut out of a frame, so it is at
most 3 bytes long, or 5 bytes shorter than what was read.
-/

/-- What the reader hands on for one full frame is at most the payload and its
length byte, and nothing when the payload is empty. -/
theorem framePayload_length (buf : List UInt8) (len off : Nat) :
    (framePayload buf len off).length ≤ len + 1 ∧ (len = 0 → framePayload buf len off = []) := by
  unfold framePayload
  split_ifs with h
  · simp only [List.length_cons, List.length_take]
    exact ⟨by omega, by omega⟩
  · exact ⟨Nat.zero_le _, fun _ => rfl⟩

/-- **Every telegram the loop hands on is cut out of a frame**: it is at most 3
bytes long, or at least 5 bytes shorter than the buffer it came from. -/
theorem eatFrames_telegram_length : ∀ (fuel : Nat) (buf : List UInt8) {rest : List UInt8}
    {ts : List (List UInt8)}, eatFrames fuel buf = some (rest, ts) →
    ∀ t ∈ ts, t.length ≤ 3 ∨ t.length + 5 ≤ buf.length
  | 0, _, _, _, h => by simp [eatFrames] at h
  | fuel + 1, buf, rest, ts, h => by
    unfold eatFrames at h
    split at h
    · cases h; simp
    · cases h; simp
    · rename_i n len off hfull
      obtain ⟨⟨rest', ts'⟩, hrec, heq⟩ := Option.map_eq_some'.mp h
      cases heq
      intro t ht
      rcases List.mem_cons.mp ht with rfl | ht
      · have hn := (checkMBusFrame_fullFrame hfull).2
        have hp := framePayload_length buf len off
        rcases checkMBusFrame_fullFrame_shape hfull with rfl | ⟨rfl, rfl⟩ | rfl
        · simp [hp.2 rfl]
        · exact .inl hp.1
        · exact .inr (by omega)
      · have hdrop : (buf.drop n).length = buf.length - n := List.length_drop _ _
        rcases eatFrames_telegram_length fuel _ hrec t ht with h | h
        · exact .inl h
        · exact .inr (by omega)

/-- No frame starts with a long frame's header whose length byte is under 3. -/
theorem bytes_ne_longFrame {content : List UInt8} (hlt : content.length < 3) (L cs : UInt8)
    (f : MBusFrame) : f.bytes ≠ [0x68, L, L, 0x68] ++ content ++ [cs, 0x16] := by
  cases f with
  | singleChar => simp [bytes]
  | short c a => simp [bytes]
  | long c a ci data fits =>
    intro h
    have := congrArg List.length h
    simp only [bytes, List.length_append, List.length_cons, List.length_nil] at this
    omega

/-- No frame is `10`, then anything but two bytes, then two more. -/
theorem bytes_ne_shortFrame {content : List UInt8} (hne : content.length ≠ 2) (cs : UInt8)
    (f : MBusFrame) : f.bytes ≠ [0x10] ++ content ++ [cs, 0x16] := by
  cases f with
  | singleChar => simp [bytes]
  | short c a =>
    intro h
    have := congrArg List.length h
    simp only [bytes, List.length_append, List.length_cons, List.length_nil] at this
    omega
  | long c a ci data fits => simp [bytes]

/-- A long frame whose length byte is under 3 is dropped as a protocol error, and
nothing is handed on. -/
theorem processSerialData_short_length {L : UInt8} (hL : L.toNat < 3) (body : List UInt8) :
    (MBusRawTTY.mk []).processSerialData ([0x68, L, L, 0x68] ++ body) = some (⟨[]⟩, []) :=
  processSerialData_error (by simp [checkMBusFrame, checkLongFrame, hL])

/-- **What `sendTelegram` sends is read back as its content, exactly when the content
fits its frame.**  A long-frame content of 3 to 250 bytes is sent as
`68 L L 68 content CS 16` with `L` its length and `CS` its byte sum modulo 256, and a
two-byte short-frame content as `10 C A CS 16`; `processSerialData` turns either,
from an empty buffer, into exactly one telegram, the content behind its length
byte, and leaves the buffer empty.  A long-frame content under 3 bytes, or a
short-frame content of any other length, is framed all the same; those bytes are no
frame of the grammar, and the reader does not hand the content back: the long one is
dropped as an error, a short one under 2 bytes waits in the buffer as a partial
frame, and of a longer short one the telegrams handed on are never the content
behind its length byte. -/
theorem sendTelegram_read_back (content : List UInt8) (hmax : content.length ≤ 250) :
    (3 ≤ content.length → ∃ L CS,
      sendTelegram false .longFrame content = .sends ([0x68, L, L, 0x68] ++ content ++ [CS, 0x16]) ∧
      L.toNat = content.length ∧ CS.toNat = (content.map UInt8.toNat).sum % 256 ∧
      (MBusRawTTY.mk []).processSerialData ([0x68, L, L, 0x68] ++ content ++ [CS, 0x16]) =
        some (⟨[]⟩, [L :: content])) ∧
    (content.length = 2 → ∃ CS,
      sendTelegram false .shortFrame content = .sends ([0x10] ++ content ++ [CS, 0x16]) ∧
      CS.toNat = (content.map UInt8.toNat).sum % 256 ∧
      (MBusRawTTY.mk []).processSerialData ([0x10] ++ content ++ [CS, 0x16]) =
        some (⟨[]⟩, [2 :: content])) ∧
    (content.length < 3 → ∃ msg, sendTelegram false .longFrame content = .sends msg ∧
      (∀ f : MBusFrame, f.bytes ≠ msg) ∧
      (MBusRawTTY.mk []).processSerialData msg = some (⟨[]⟩, [])) ∧
    (content.length ≠ 2 → ∃ msg, sendTelegram false .shortFrame content = .sends msg ∧
      (∀ f : MBusFrame, f.bytes ≠ msg) ∧
      ∃ tty ts, (MBusRawTTY.mk []).processSerialData msg = some (tty, ts) ∧
        UInt8.ofNat content.length :: content ∉ ts ∧
        (content.length < 2 → tty = ⟨msg⟩ ∧ ts = [])) := by
  have hlen : (UInt8.ofNat content.length).toNat = content.length :=
    UInt8.toNat_ofNat_of_lt (show content.length < 256 by omega)
  refine ⟨fun hmin => ?_, fun htwo => ?_, fun hlt => ?_, fun hne => ?_⟩
  · -- a long frame that fits
    match content, hmin, hmax with
    | c :: a :: ci :: data, _, hmax =>
      have hframe := processSerialData_frame (.long c a ci data (by simp at hmax; omega))
      simp only [bytes, telegram] at hframe
      exact ⟨_, _, sendTelegram_longFrame hmax, hlen, checksum_toNat _, hframe⟩
  · -- a short frame that fits
    match content, htwo with
    | [c, a], _ =>
      have hframe := processSerialData_frame (.short c a)
      simp only [bytes, telegram] at hframe
      exact ⟨_, sendTelegram_shortFrame hmax, checksum_toNat _, hframe⟩
  · -- a long frame too short for its header
    exact ⟨_, sendTelegram_longFrame hmax, bytes_ne_longFrame hlt _ _,
      by rw [List.append_assoc]; exact processSerialData_short_length (by rw [hlen]; exact hlt) _⟩
  · -- a short frame of another length
    refine ⟨_, sendTelegram_shortFrame hmax, bytes_ne_shortFrame hne _, ?_⟩
    by_cases hlt2 : content.length < 2
    · -- under 2 bytes: fewer than the 5 bytes of a short frame have come
      have hpartial : checkMBusFrame ([0x10] ++ content ++ [checksum content, 0x16]) =
          .partialFrame := by
        match content, hlt2 with
        | [], _ => rfl
        | [_], _ => rfl
      exact ⟨_, _, processSerialData_partial hpartial, List.not_mem_nil _, fun _ => ⟨rfl, rfl⟩⟩
    · -- 3 bytes or more: the content behind its length byte is too long for a telegram
      obtain ⟨⟨tty, ts⟩, hts⟩ := Option.isSome_iff_exists.mp
        (processSerialData_isSome ⟨[]⟩ ([0x10] ++ content ++ [checksum content, 0x16]))
      refine ⟨tty, ts, hts, fun hmem => ?_, fun h => absurd h hlt2⟩
      obtain ⟨⟨rest, ts'⟩, heat, heq⟩ := Option.map_eq_some'.mp hts
      cases heq
      have := eatFrames_telegram_length _ _ heat _ hmem
      simp only [List.nil_append, List.length_cons, List.length_append, List.length_singleton,
        List.length_nil] at this
      omega

/-- Three bytes as a short frame: `10 00 0B 0B 16 16` starts with the short frame
`10 00 0B 0B 16`, which is handed on as `[2, 0, 11]`, and the last byte is dropped. -/
example : sendTelegram false .shortFrame [0, 11, 11] = .sends [0x10, 0, 11, 11, 0x16, 0x16] ∧
    (MBusRawTTY.mk []).processSerialData [0x10, 0, 11, 11, 0x16, 0x16] = some (⟨[]⟩, [[2, 0, 11]]) := by
  decide

theorem sendTelegram_read_back_three :
    [1, 2, 3].length ≤ 250 ∧ 3 ≤ [1, 2, 3].length ∧ ∃ L CS,
      sendTelegram false .longFrame [1, 2, 3] = .sends ([0x68, L, L, 0x68] ++ [1, 2, 3] ++ [CS, 0x16]) ∧
      L.toNat = [1, 2, 3].length ∧ CS.toNat = ([1, 2, 3].map UInt8.toNat).sum % 256 ∧
      (MBusRawTTY.mk []).processSerialData ([0x68, L, L, 0x68] ++ [1, 2, 3] ++ [CS, 0x16]) =
        some (⟨[]⟩, [L :: [1, 2, 3]]) :=
  ⟨by decide, by decide, (sendTelegram_read_back [1, 2, 3] (by decide)).1 (by decide)⟩

end Wmbusmeters
