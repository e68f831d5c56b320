import Wmbusmeters.Source

/-
`SerialDeviceImp::receive`: read everything the descriptor has, in pieces of at
most 1024 bytes, into one vector.

Each turn of its loop grows the vector by 1024 bytes, reads into the new room at
`num_read`, and advances `num_read` by what the read returned.  A read of 0 ends
the loop, and on a file, or on stdin when `getchar()` then answers `EOF`, marks
the source for closing; so does `EBADF`.  `EINTR` retries while the descriptor is
open, and anything else ends the loop.  The vector is cut back to `num_read` at
the end.

`receiveLoop_spec` is the loop invariant: the first `num_read` bytes of the
vector are the bytes read so far, whatever the reads returned.  From it,
`receiveCalls_data` proves that successive calls hand back exactly the bytes the
reads returned, in order, each call's count being its vector's length, and that
a call closes the source exactly on the reads `ReadResult.closes` names.

`SerialDeviceImp::waitFor(c)` calls `receive` until a call returns 0 or hands back
a vector ending in `c`, and discards what the calls hand back.  Put in terms of the
bytes the reads delivered, it answers whether the bytes it took end in `c`; a `c`
that arrives with more bytes behind it in the same call is passed over.

`num_read` is an `int`.  A call that has read 2^31 - 1024 bytes would overflow it in
`num_read + 1024` and abort in `resize`; the model's count is a `Nat`, so it says
nothing about such a call, and every call that returns has read fewer.

What the vectors miss is what `getchar()` takes.  On a stdin source it reads the
same descriptor through the stdio buffer, so the bytes it pulls in after a read
of 0 are never handed on: `receive_loses_stdin_bytes` runs that case.
-/

namespace Wmbusmeters

/-- The `errno` values `receive` tells apart. -/
inductive Errno where
  | eintr
  | eagain
  | ebadf
  | other
  deriving DecidableEq, Repr

/-- What one `read(fd_, …, 1024)` returns.  A read that returns bytes returns
between 1 and 1024 of them.  `endOfFile` is a read returning 0, together with
what a following `getchar()` takes from the process's stdin: `none` for `EOF`, or
the bytes the stdio buffer pulled in, the first of them being the character. -/
inductive ReadResult where
  | bytes (chunk : List UInt8) (nonempty : 0 < chunk.length) (atMost : chunk.length ≤ 1024)
  | endOfFile (getchar : Option (List UInt8))
  | failed (errno : Errno)
  deriving DecidableEq

namespace ReadResult

/-- The bytes the read puts into the vector. -/
def data : ReadResult → List UInt8
  | bytes chunk _ _ => chunk
  | _ => []

/-- The bytes taken from the descriptor: by the read, or by `getchar()` after it. -/
def delivered : ReadResult → List UInt8
  | bytes chunk _ _ => chunk
  | endOfFile (some taken) => taken
  | _ => []

/-- The reads after which the loop goes round again. -/
def continues (s : Source) : ReadResult → Bool
  | bytes .. => true
  | failed .eintr => s.fd != -1
  | _ => false

/-- The reads after which `receive` closes the source. -/
def closes (s : Source) : ReadResult → Bool
  | endOfFile getchar => s.isFile || (s.isStdin && getchar.isNone)
  | failed .ebadf => true
  | _ => false

end ReadResult

/-- The bytes a sequence of reads puts into vectors. -/
def readsData (rs : List ReadResult) : List UInt8 := (rs.map ReadResult.data).flatten

@[simp] theorem readsData_nil : readsData [] = [] := rfl

@[simp] theorem readsData_cons (r : ReadResult) (rs : List ReadResult) :
    readsData (r :: rs) = r.data ++ readsData rs := rfl

@[simp] theorem readsData_append (rs rs' : List ReadResult) :
    readsData (rs ++ rs') = readsData rs ++ readsData rs' := by
  simp [readsData]

/-! ### The vector -/

/-- `vector::resize(n)`: cut to `n`, or pad with zeros up to `n`. -/
def resize (v : List UInt8) (n : Nat) : List UInt8 := v.take n ++ List.replicate (n - v.length) 0

/-- A `read` into `&v[off]`: the bytes replace what stood there. -/
def writeAt (v : List UInt8) (off : Nat) (bs : List UInt8) : List UInt8 :=
  v.take off ++ bs ++ v.drop (off + bs.length)

@[simp] theorem length_resize (v : List UInt8) (n : Nat) : (resize v n).length = n := by
  simp only [resize, List.length_append, List.length_take, List.length_replicate]
  omega

/-- Resizing keeps the bytes below both lengths. -/
theorem take_resize {v : List UInt8} {n m : Nat} (hm : n ≤ m) (hv : n ≤ v.length) :
    (resize v m).take n = v.take n := by
  rw [resize, List.take_append_of_le_length (by simp; omega), List.take_take, Nat.min_eq_left hm]

/-- Resizing to a length no longer than the vector cuts it. -/
theorem resize_of_le {v : List UInt8} {n : Nat} (hv : n ≤ v.length) : resize v n = v.take n := by
  simp [resize, Nat.sub_eq_zero_of_le hv]

theorem length_writeAt {v : List UInt8} {off : Nat} {bs : List UInt8}
    (h : off + bs.length ≤ v.length) : (writeAt v off bs).length = v.length := by
  simp only [writeAt, List.length_append, List.length_take, List.length_drop]
  omega

/-- After a read into `&v[off]`, the vector up to the read's end is what stood
before `off`, then the bytes read. -/
theorem take_writeAt {v : List UInt8} {off : Nat} {bs : List UInt8}
    (h : off + bs.length ≤ v.length) :
    (writeAt v off bs).take (off + bs.length) = v.take off ++ bs := by
  have hlen : (v.take off ++ bs).length = off + bs.length := by simp; omega
  rw [writeAt, List.take_append_of_le_length (by omega), ← hlen, List.take_length]

/-! ### One call -/

/-- The `while (true)` of `receive`, over the answers its reads get: the vector,
`num_read` and `close_me` when it breaks, and the reads left.  `none` when the
answers run out before the loop breaks. -/
def receiveLoop (s : Source) : List UInt8 → Nat → List ReadResult →
    Option (List UInt8 × Nat × Bool × List ReadResult)
  | _, _, [] => none
  | data, numRead, r :: rs =>
    let data := resize data (numRead + 1024)
    match r with
    | .bytes chunk _ _ => receiveLoop s (writeAt data numRead chunk) (numRead + chunk.length) rs
    | .endOfFile getchar => some (data, numRead, s.isFile || (s.isStdin && getchar.isNone), rs)
    | .failed .eintr =>
      if s.fd ≠ -1 then receiveLoop s data numRead rs else some (data, numRead, false, rs)
    | .failed .eagain => some (data, numRead, false, rs)
    | .failed .ebadf => some (data, numRead, true, rs)
    | .failed .other => some (data, numRead, false, rs)

/-- What a `receive` call ends with. -/
structure Received where
  /-- The vector handed back. -/
  data : List UInt8
  /-- The return value, `num_read`. -/
  count : Nat
  source : Source
  fds : List Nat
  /-- Whether the `close()` it ended with ran the `onDisappear` hook. -/
  hookRan : Bool
  /-- The reads left for later calls. -/
  rest : List ReadResult
  deriving DecidableEq

/-- `SerialDeviceImp::receive(data)`.  `p` is what the system says to the `close()`
the call may end with. -/
def SerialDeviceImp.receive (s : Source) (fds : List Nat) (p : Probe) (rs : List ReadResult) :
    Option Received :=
  (receiveLoop s [] 0 rs).map fun (data, numRead, closeMe, rest) =>
    if closeMe then
      let (s', fds', hook) := s.close fds p
      ⟨resize data numRead, numRead, s', fds', hook, rest⟩
    else ⟨resize data numRead, numRead, s, fds, false, rest⟩

/-- **The loop invariant.**  Started on a vector whose first `n` bytes are `acc`, the
loop ends on the first read after which it does not go round again, and the first
`num_read` bytes of its vector are `acc` followed by the bytes read before it. -/
theorem receiveLoop_spec (s : Source) :
    ∀ (rs : List ReadResult) (data : List UInt8) (n : Nat) {data' : List UInt8} {n' : Nat}
      {c : Bool} {rest : List ReadResult}, n ≤ data.length →
      receiveLoop s data n rs = some (data', n', c, rest) →
      ∃ pre r, rs = pre ++ r :: rest ∧ (∀ x ∈ pre, x.continues s = true) ∧
        r.continues s = false ∧ c = r.closes s ∧ n' ≤ data'.length ∧
        data'.take n' = data.take n ++ readsData pre
  | [], _, _, _, _, _, _, _, h => by simp [receiveLoop] at h
  | r :: rs, data, n, data', n', c, rest, hn, h => by
    have hlen : (resize data (n + 1024)).length = n + 1024 := length_resize _ _
    have hkeep : (resize data (n + 1024)).take n = data.take n := take_resize (by omega) hn
    -- the read ends the loop: nothing more was read
    have last : ∀ (c' : Bool), r.continues s = false → c' = r.closes s →
        some (resize data (n + 1024), n, c', rs) = some (data', n', c, rest) →
        ∃ pre r', r :: rs = pre ++ r' :: rest ∧ (∀ x ∈ pre, x.continues s = true) ∧
          r'.continues s = false ∧ c = r'.closes s ∧ n' ≤ data'.length ∧
          data'.take n' = data.take n ++ readsData pre := by
      rintro c' hr hc ⟨⟩
      exact ⟨[], r, rfl, by simp, hr, hc, by omega, by simp [hkeep]⟩
    -- the read lets the loop go round again
    have again : ∀ (data₁ : List UInt8) (n₁ : Nat), r.continues s = true → n₁ ≤ data₁.length →
        data₁.take n₁ = data.take n ++ r.data → receiveLoop s data₁ n₁ rs = some (data', n', c, rest) →
        ∃ pre r', r :: rs = pre ++ r' :: rest ∧ (∀ x ∈ pre, x.continues s = true) ∧
          r'.continues s = false ∧ c = r'.closes s ∧ n' ≤ data'.length ∧
          data'.take n' = data.take n ++ readsData pre := by
      intro data₁ n₁ hr hn₁ hacc h₁
      obtain ⟨pre, r', rfl, hpre, hr', hc, hn', hacc'⟩ := receiveLoop_spec s rs data₁ n₁ hn₁ h₁
      refine ⟨r :: pre, r', rfl, ?_, hr', hc, hn', ?_⟩
      · simpa [hr] using hpre
      · simp [hacc', hacc]
    unfold receiveLoop at h
    match r, h with
    | .bytes chunk hpos hle, h =>
      refine again _ _ rfl (by rw [length_writeAt] <;> omega) ?_ h
      rw [take_writeAt (by omega), hkeep]
      rfl
    | .endOfFile g, h => exact last _ rfl rfl h
    | .failed .eintr, h =>
      by_cases hfd : s.fd = -1
      · simp only [hfd, ne_eq, not_true_eq_false, ↓reduceIte] at h
        exact last _ (by simp [ReadResult.continues, hfd]) rfl h
      · simp only [hfd, ne_eq, not_false_eq_true, ↓reduceIte] at h
        exact again _ _ (by simp [ReadResult.continues, hfd]) (by omega)
          (by simp [hkeep, ReadResult.data]) h
    | .failed .eagain, h => exact last _ rfl rfl h
    | .failed .ebadf, h => exact last _ rfl rfl h
    | .failed .other, h => exact last _ rfl rfl h

/-- **One call.**  A `receive` that returns hands back the bytes of the reads it
consumed, returns their count, and has closed the source exactly when its last
read is one that `closes`. -/
theorem receive_spec {s : Source} {fds : List Nat} {p : Probe} {rs : List ReadResult}
    {out : Received} (h : SerialDeviceImp.receive s fds p rs = some out) :
    ∃ pre r, rs = pre ++ r :: out.rest ∧ out.data = readsData (pre ++ [r]) ∧
      out.count = out.data.length ∧
      (out.source, out.fds, out.hookRan) =
        if r.closes s then s.close fds p else (s, fds, false) := by
  unfold SerialDeviceImp.receive at h
  obtain ⟨⟨data, n, c, rest⟩, hloop, rfl⟩ := Option.map_eq_some'.mp h
  obtain ⟨pre, r, rfl, -, hr, rfl, hn, hacc⟩ := receiveLoop_spec s rs [] 0 (Nat.zero_le _) hloop
  have hdata : resize data n = readsData (pre ++ [r]) := by
    rw [resize_of_le hn, hacc]
    cases r <;> simp_all [ReadResult.continues, ReadResult.data]
  refine ⟨pre, r, ?_⟩
  dsimp only
  split_ifs
  · generalize s.close fds p = cl
    obtain ⟨s', fds', hook⟩ := cl
    exact ⟨rfl, hdata, (length_resize _ _).symm, rfl⟩
  · exact ⟨rfl, hdata, (length_resize _ _).symm, rfl⟩

/-! ### Successive calls -/

/-- `k` successive `receive` calls on one source: each call's vector and count, the
source and table after the last, and the reads left. -/
def receiveCalls (p : Probe) : Nat → Source → List Nat → List ReadResult →
    Option (List (List UInt8 × Nat) × Source × List Nat × List ReadResult)
  | 0, s, fds, rs => some ([], s, fds, rs)
  | k + 1, s, fds, rs =>
    match SerialDeviceImp.receive s fds p rs with
    | none => none
    | some out =>
      (receiveCalls p k out.source out.fds out.rest).map fun (outs, s', fds', rest) =>
        ((out.data, out.count) :: outs, s', fds', rest)

/-- **No byte lost, duplicated or reordered by the vector.**  The vectors of
successive calls, put together, are the bytes of the reads they consumed, and each
call returns its vector's length. -/
theorem receiveCalls_data (p : Probe) :
    ∀ (k : Nat) (s : Source) (fds : List Nat) (rs : List ReadResult) {outs s' fds' rest},
      receiveCalls p k s fds rs = some (outs, s', fds', rest) →
      ∃ consumed, rs = consumed ++ rest ∧ (outs.map Prod.fst).flatten = readsData consumed ∧
        ∀ o ∈ outs, o.2 = o.1.length
  | 0, _, _, _, _, _, _, _, h => by
    simp only [receiveCalls, Option.some.injEq, Prod.mk.injEq] at h
    obtain ⟨rfl, -, -, rfl⟩ := h
    exact ⟨[], rfl, rfl, by simp⟩
  | k + 1, s, fds, rs, outs, s', fds', rest, h => by
    simp only [receiveCalls] at h
    split at h
    · cases h
    rename_i out hout
    obtain ⟨⟨outs₁, s₁, fds₁, rest₁⟩, hrec, heq⟩ := Option.map_eq_some'.mp h
    simp only [Prod.mk.injEq] at heq
    obtain ⟨rfl, rfl, rfl, rfl⟩ := heq
    obtain ⟨pre, r, hrs, hdata, hcount, -⟩ := receive_spec hout
    obtain ⟨consumed, hrest, hflat, hlen⟩ := receiveCalls_data p k _ _ _ hrec
    refine ⟨pre ++ [r] ++ consumed, ?_, ?_, ?_⟩
    · rw [hrs, hrest]; simp
    · simp [hflat, hdata]
    · intro o ho
      rcases List.mem_cons.mp ho with rfl | ho
      · exact hcount
      · exact hlen o ho

set_option maxRecDepth 20000 in
/-- Two calls on a file: the first would block, the second reads `0x10 0x16` and
would block again. -/
theorem receiveCalls_data_file :
    receiveCalls ⟨true, true, 0, true⟩ 2
        { kind := .file, device := "meter.bin", fd := 3, isFile := true } [3, 0, 1, 2]
        [.failed .eagain, .bytes [0x10, 0x16] (by decide) (by decide), .failed .eagain] =
      some ([([], 0), ([0x10, 0x16], 2)],
        { kind := .file, device := "meter.bin", fd := 3, isFile := true }, [3, 0, 1, 2], []) ∧
    ∃ consumed, [ReadResult.failed .eagain, .bytes [0x10, 0x16] (by decide) (by decide),
        .failed .eagain] = consumed ++ [] ∧
      ([([], 0), ([0x10, 0x16], 2)].map Prod.fst).flatten = readsData consumed ∧
      ∀ o ∈ [(([] : List UInt8), 0), ([0x10, 0x16], 2)], o.2 = o.1.length := by
  refine ⟨?h, receiveCalls_data _ 2 _ _ _ ?h⟩
  decide

/-- A call whose first read returns bytes and whose second would block hands back
those bytes and leaves the source as it was. -/
theorem receive_bytes_eagain (s : Source) (fds : List Nat) (p : Probe) (chunk : List UInt8)
    (hpos : 0 < chunk.length) (hle : chunk.length ≤ 1024) (rest : List ReadResult) :
    SerialDeviceImp.receive s fds p (.bytes chunk hpos hle :: .failed .eagain :: rest) =
      some ⟨chunk, chunk.length, s, fds, false, rest⟩ := by
  have hw : 0 + chunk.length ≤ (resize [] 1024).length := by simp; omega
  have hdata : resize (resize (writeAt (resize [] 1024) 0 chunk) (chunk.length + 1024))
      chunk.length = chunk := by
    rw [resize_of_le (by simp), take_resize (by omega) (by rw [length_writeAt hw]; simpa using hw)]
    simpa using take_writeAt hw
  simp only [SerialDeviceImp.receive, receiveLoop, Option.map_some', Bool.false_eq_true,
    ↓reduceIte, Nat.zero_add, hdata]

/-! ### `waitFor` -/

/-- `SerialDeviceImp::waitFor(c)`: `receive` until a call returns 0, then `false`, or
hands back a vector whose last byte is `c`, then `true`; with the source and table
after the last call and the reads left.  `none` when the reads run out first.  The
loop has no bound of its own: every call consumes a read, so fuel beyond the
number of reads is never used up. -/
def SerialDeviceImp.waitFor (p : Probe) (c : UInt8) :
    Nat → Source → List Nat → List ReadResult → Option (Bool × Source × List Nat × List ReadResult)
  | 0, _, _, _ => none
  | fuel + 1, s, fds, rs =>
    match SerialDeviceImp.receive s fds p rs with
    | none => none
    | some out =>
      if out.count = 0 then some (false, out.source, out.fds, out.rest)
      else if out.data.getLast? = some c then some (true, out.source, out.fds, out.rest)
      else SerialDeviceImp.waitFor p c fuel out.source out.fds out.rest

/-- A `receive` consumes at least one read. -/
theorem receive_rest_lt {s : Source} {fds : List Nat} {p : Probe} {rs : List ReadResult}
    {out : Received} (h : SerialDeviceImp.receive s fds p rs = some out) :
    out.rest.length < rs.length := by
  obtain ⟨pre, r, hrs, -⟩ := receive_spec h
  rw [hrs, List.length_append, List.length_cons]
  omega

/-- **Enough fuel**: with more fuel than reads, `waitFor` never runs out of it. -/
theorem waitFor_fuel (p : Probe) (c : UInt8) :
    ∀ (fuel : Nat) (s : Source) (fds : List Nat) (rs : List ReadResult), rs.length < fuel →
      SerialDeviceImp.waitFor p c fuel s fds rs = SerialDeviceImp.waitFor p c (rs.length + 1) s fds rs
  | 0, _, _, _, h => absurd h (Nat.not_lt_zero _)
  | fuel + 1, s, fds, rs, h => by
    simp only [SerialDeviceImp.waitFor]
    split
    · rfl
    · rename_i out hout
      have hlt := receive_rest_lt hout
      split_ifs
      · rfl
      · rfl
      · rw [waitFor_fuel p c fuel _ _ _ (by omega),
          waitFor_fuel p c rs.length _ _ _ (by omega)]

/-- More fuel never changes a result. -/
theorem waitFor_succ (p : Probe) (c : UInt8) :
    ∀ (fuel : Nat) (s : Source) (fds : List Nat) (rs : List ReadResult)
      {r : Bool × Source × List Nat × List ReadResult},
      SerialDeviceImp.waitFor p c fuel s fds rs = some r →
        SerialDeviceImp.waitFor p c (fuel + 1) s fds rs = some r
  | 0, _, _, _, _, h => by simp [SerialDeviceImp.waitFor] at h
  | fuel + 1, s, fds, rs, r, h => by
    simp only [SerialDeviceImp.waitFor] at h ⊢
    cases hout : SerialDeviceImp.receive s fds p rs with
    | none => simp [hout] at h
    | some out =>
      simp only [hout] at h ⊢
      split_ifs at h ⊢
      · exact h
      · exact h
      · exact waitFor_succ p c fuel _ _ _ h

/-- Past the number of reads, the fuel does not matter: a call that returns with some
fuel returns the same with any fuel above the number of reads. -/
theorem waitFor_of_lt (p : Probe) (c : UInt8) {fuel fuel' : Nat} {s : Source} {fds : List Nat}
    {rs : List ReadResult} {r : Bool × Source × List Nat × List ReadResult}
    (h : SerialDeviceImp.waitFor p c fuel s fds rs = some r) (hlt : rs.length < fuel') :
    SerialDeviceImp.waitFor p c fuel' s fds rs = some r := by
  have hmono : ∀ k, SerialDeviceImp.waitFor p c (fuel + k) s fds rs = some r := fun k => by
    induction k with
    | zero => exact h
    | succ k ih => exact waitFor_succ p c _ _ _ _ ih
  rw [waitFor_fuel p c fuel' s fds rs hlt, ← waitFor_fuel p c (fuel + (rs.length + 1)) s fds rs
    (by omega)]
  exact hmono _

set_option maxRecDepth 20000 in
/-- **`getchar()` loses stdin's bytes.**  On stdin a read returns 0 and `getchar()`
then pulls in `0x41`; the source stays open and the next call reads `0x42`.  The
two calls hand back `[]` and `[0x42]`, while the descriptor delivered `0x41 0x42`. -/
theorem receive_loses_stdin_bytes :
    receiveCalls ⟨true, true, 0, true⟩ 2
        { kind := .file, device := "stdin", fd := 0, isStdin := true } [0, 1, 2]
        [.endOfFile (some [0x41]), .bytes [0x42] (by decide) (by decide), .failed .eagain] =
      some ([([], 0), ([0x42], 1)], { kind := .file, device := "stdin", fd := 0, isStdin := true },
        [0, 1, 2], []) ∧
    ([ReadResult.endOfFile (some [0x41]), .bytes [0x42] (by decide) (by decide),
        .failed .eagain].map ReadResult.delivered).flatten = [0x41, 0x42] := by
  decide

end Wmbusmeters
