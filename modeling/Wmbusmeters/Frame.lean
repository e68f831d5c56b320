import Mathlib.Algebra.Order.BigOperators.Group.List
import Mathlib.Algebra.Order.Ring.Nat
import Mathlib.Data.List.Basic

/-
M-Bus frames and the recognizer that finds them in a byte buffer.

`MBusRawTTY::processSerialData` hands its whole read buffer to `checkMBusFrame`,
which is not among the sources.  It is modelled here from the frame grammar of
the raw M-Bus dialect: the single character `E5`, the short frame
`10 C A CS 16`, and the long frame `68 L L 68 C A CI data… CS 16`, where `L ≥ 3`,
both `L`s agree and `CS` is the low byte of the sum of the `L` bytes it follows.

The buffer loop needs two facts about the recognizer, and both are proved here
for every frame:

  * a proper prefix of a frame is a `partialFrame`, so a frame that arrives in
    pieces is waited for and never rejected;
  * a frame followed by anything is a `fullFrame` whose three lengths locate
    exactly that frame and its payload, so bytes past it stay for the next round.
-/

namespace Wmbusmeters

/-- The low byte of the sum, accumulated as the `uchar crc` of the sources is. -/
def checksum (bs : List UInt8) : UInt8 := bs.foldl (· + ·) 0

/-- The recognizer's verdict on the front of a buffer.  A full frame carries the
three out-parameters: the frame's length, the payload's length and its offset. -/
inductive FrameStatus where
  | partialFrame
  | fullFrame (frameLength payloadLen payloadOffset : Nat)
  | errorInFrame
  deriving DecidableEq, Repr

/-- The bytes after a short frame's start byte: `C A CS 16`. -/
def checkShortFrame : List UInt8 → FrameStatus
  | c :: a :: cs :: stop :: _ =>
    if cs = checksum [c, a] ∧ stop = 0x16 then .fullFrame 5 2 1 else .errorInFrame
  | _ => .partialFrame

/-- The bytes after a long frame's start byte: `L L 68`, the `L` bytes, then `CS 16`.
Until `CS` and the stop byte have arrived the frame is partial. -/
def checkLongFrame : List UInt8 → FrameStatus
  | l :: l' :: start :: body =>
    if l ≠ l' ∨ start ≠ 0x68 ∨ l.toNat < 3 then .errorInFrame
    else
      match body.drop l.toNat with
      | cs :: stop :: _ =>
        if cs = checksum (body.take l.toNat) ∧ stop = 0x16 then
          .fullFrame (l.toNat + 6) l.toNat 4
        else .errorInFrame
      | _ => .partialFrame
  | _ => .partialFrame

/-- Modelled from the spec: `checkMBusFrame` (its definition is not in the sources)
recognizes the three raw M-Bus shapes at the front of the buffer: an empty buffer or
an unfinished frame is partial, a finished frame is full, anything else is an error. -/
def checkMBusFrame : List UInt8 → FrameStatus
  | [] => .partialFrame
  | b :: rest =>
    if b = 0xE5 then .fullFrame 1 0 0
    else if b = 0x10 then checkShortFrame rest
    else if b = 0x68 then checkLongFrame rest
    else .errorInFrame

/-! ### The frame grammar

A frame is one of the three shapes.  A long frame's length byte counts `C`, `A`,
`CI` and the data, so the data is at most 252 bytes long; the constructor carries
that bound, and every value of `MBusFrame` is a frame the grammar accepts.
-/

/-- A well-formed raw M-Bus frame. -/
inductive MBusFrame where
  | singleChar
  | short (c a : UInt8)
  | long (c a ci : UInt8) (data : List UInt8) (fits : data.length + 3 < 256)

namespace MBusFrame

/-- The bytes between the header and the checksum. -/
def payload : MBusFrame → List UInt8
  | singleChar => []
  | short c a => [c, a]
  | long c a ci data _ => c :: a :: ci :: data

/-- Where the payload starts in the frame. -/
def payloadOffset : MBusFrame → Nat
  | singleChar => 0
  | short .. => 1
  | long .. => 4

/-- The frame as it travels on the wire. -/
def bytes : MBusFrame → List UInt8
  | singleChar => [0xE5]
  | short c a => [0x10, c, a, checksum [c, a], 0x16]
  | long c a ci data _ =>
    [0x68, UInt8.ofNat (data.length + 3), UInt8.ofNat (data.length + 3), 0x68] ++
      (c :: a :: ci :: data) ++ [checksum (c :: a :: ci :: data), 0x16]

/-- What the reader should hand on for the frame: the payload after its length
byte, and nothing at all for the single character. -/
def telegram : MBusFrame → List UInt8
  | singleChar => []
  | short c a => [2, c, a]
  | long c a ci data _ => UInt8.ofNat (data.length + 3) :: c :: a :: ci :: data

theorem bytes_length_pos (f : MBusFrame) : 0 < f.bytes.length := by
  cases f <;> simp [bytes]

/-- The length byte of a long frame reads back as the payload's length. -/
theorem toNat_lengthByte {data : List UInt8} (fits : data.length + 3 < 256) :
    (UInt8.ofNat (data.length + 3)).toNat = data.length + 3 :=
  UInt8.toNat_ofNat_of_lt fits

end MBusFrame

/-! ### What the recognizer says about frames -/

open MBusFrame

/-- A long frame's body, cut anywhere before its stop byte, leaves less than the
checksum and the stop byte after the `L` bytes. -/
theorem checkLongFrame_cut (n : Nat) (fits : n < 256) (hn : 3 ≤ n) (body : List UInt8)
    (hbody : body.length < n + 2) :
    checkLongFrame (UInt8.ofNat n :: UInt8.ofNat n :: 0x68 :: body) = .partialFrame := by
  have hL : (UInt8.ofNat n).toNat = n := UInt8.toNat_ofNat_of_lt fits
  have hdrop : (body.drop n).length < 2 := by simp only [List.length_drop]; omega
  simp only [checkLongFrame, ne_eq, not_true_eq_false, hL, false_or]
  rw [if_neg (by omega)]
  match h : body.drop n, hdrop with
  | [], _ => rfl
  | [_], _ => rfl

/-- **A proper prefix of a frame is partial.** -/
theorem checkMBusFrame_take (f : MBusFrame) (k : Nat) (hk : k < f.bytes.length) :
    checkMBusFrame (f.bytes.take k) = .partialFrame := by
  cases f with
  | singleChar =>
    simp only [bytes, List.length_singleton] at hk
    obtain rfl : k = 0 := by omega
    rfl
  | short c a =>
    simp only [bytes, List.length_cons, List.length_nil] at hk
    match k, hk with
    | 0, _ | 1, _ | 2, _ | 3, _ | 4, _ => rfl
  | long c a ci data fits =>
    match k, hk with
    | 0, _ | 1, _ | 2, _ | 3, _ => rfl
    | j + 4, hj =>
      simp only [bytes, List.cons_append, List.length_cons, List.length_append,
        List.length_nil] at hj
      simp only [bytes, List.cons_append, List.nil_append, List.take_succ_cons, checkMBusFrame]
      rw [if_neg (by decide), if_neg (by decide), if_pos trivial]
      exact checkLongFrame_cut _ fits (by omega) _ (by simp; omega)

/-- A long frame's body with its `L` bytes, checksum and stop byte all present. -/
theorem checkLongFrame_frame (p rest : List UInt8) (fits : p.length < 256) (hn : 3 ≤ p.length) :
    checkLongFrame (UInt8.ofNat p.length :: UInt8.ofNat p.length :: 0x68 ::
      (p ++ checksum p :: 0x16 :: rest)) = .fullFrame (p.length + 6) p.length 4 := by
  have hL : (UInt8.ofNat p.length).toNat = p.length := UInt8.toNat_ofNat_of_lt fits
  simp only [checkLongFrame, ne_eq, not_true_eq_false, hL, false_or]
  rw [if_neg (by omega), List.drop_left, List.take_left]
  simp

/-- **A frame followed by anything is a full frame**, and the three lengths it
reports are the frame's own. -/
theorem checkMBusFrame_frame (f : MBusFrame) (rest : List UInt8) :
    checkMBusFrame (f.bytes ++ rest) =
      .fullFrame f.bytes.length f.payload.length f.payloadOffset := by
  cases f with
  | singleChar => rfl
  | short c a => simp [bytes, checkMBusFrame, checkShortFrame, payload, payloadOffset]
  | long c a ci data fits =>
    have hP : (c :: a :: ci :: data).length = data.length + 3 := rfl
    have := checkLongFrame_frame (c :: a :: ci :: data) rest (by rw [hP]; exact fits)
      (by rw [hP]; omega)
    rw [hP] at this
    simp only [bytes, checkMBusFrame, List.append_assoc, List.cons_append, List.nil_append,
      List.singleton_append]
    rw [if_neg (by decide), if_neg (by decide), if_pos trivial]
    simp only [List.cons_append] at this
    rw [this]
    simp [payload, payloadOffset]

/-- The payload the reader cuts out of a recognized frame is the frame's payload. -/
theorem bytes_slice (f : MBusFrame) (rest : List UInt8) :
    ((f.bytes ++ rest).drop f.payloadOffset).take f.payload.length = f.payload := by
  cases f <;> simp [bytes, payload, payloadOffset]

/-- Whatever the buffer, a full frame is nonempty and no longer than the buffer. -/
theorem checkMBusFrame_fullFrame {buf : List UInt8} {n len off : Nat}
    (h : checkMBusFrame buf = .fullFrame n len off) : 0 < n ∧ n ≤ buf.length := by
  match buf with
  | [] => simp [checkMBusFrame] at h
  | b :: rest =>
    simp only [checkMBusFrame] at h
    split_ifs at h with h1 h2 h3
    · cases h; simp
    · unfold checkShortFrame at h
      split at h
      · split_ifs at h; cases h; simp
      · cases h
    · unfold checkLongFrame at h
      split at h
      · rename_i l l' start body
        split_ifs at h
        split at h
        · rename_i cs stop tl hd
          split_ifs at h
          cases h
          have := congrArg List.length hd
          simp only [List.length_drop, List.length_cons] at this
          simp only [List.length_cons]
          omega
        · cases h
      · cases h

/-- The three shapes a full frame can have: the single character, with no payload; a
short frame of 5 bytes around a 2-byte payload; or a long frame 6 bytes longer than
its payload. -/
theorem checkMBusFrame_fullFrame_shape {buf : List UInt8} {n len off : Nat}
    (h : checkMBusFrame buf = .fullFrame n len off) : len = 0 ∨ n = 5 ∧ len = 2 ∨ n = len + 6 := by
  match buf with
  | [] => simp [checkMBusFrame] at h
  | b :: rest =>
    simp only [checkMBusFrame] at h
    split_ifs at h
    · cases h; exact .inl rfl
    · unfold checkShortFrame at h
      split at h
      · split_ifs at h; cases h; exact .inr (.inl ⟨rfl, rfl⟩)
      · cases h
    · unfold checkLongFrame at h
      split at h
      · split_ifs at h
        split at h
        · split_ifs at h; cases h; exact .inr (.inr rfl)
        · cases h
      · cases h

end Wmbusmeters
