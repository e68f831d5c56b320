import Mathlib.Algebra.Order.BigOperators.Group.List
import Mathlib.Algebra.Order.Ring.Nat

/-
The process's descriptor table, and the two functions of the serial layer that
open descriptors of their own: `openSerialTTY` and `check_serial8250s`.

The table is the list of descriptors open in the process.  `open` hands out the
lowest number not in use, as POSIX says, and `close` releases one; closing a
negative number fails with `EBADF` and changes nothing.  Every other system call
is an answer of the environment: each may succeed or fail.

`openSerialTTY_cases` says everything a call of `openSerialTTY` can do to the
table: nothing, or one new descriptor, which it returns unless `flock` failed.
On that path it returns `-2` and the descriptor stays open with nobody holding
its number.  `checkSerial8250s` closes what it opens when `TIOCGSERIAL` answers,
and leaves it open when it does not.
-/

namespace Wmbusmeters

/-! ### The descriptor table -/

/-- The first number from `n` on that is not in `fds`, looking at most `k` further. -/
def lowestFreeFrom (fds : List Nat) : Nat → Nat → Nat
  | 0, n => n
  | k + 1, n => if n ∈ fds then lowestFreeFrom fds k (n + 1) else n

/-- The descriptor `open` hands out: the lowest number not in use.  The sum of the
table is past every entry, so the search always ends on a free number. -/
def lowestFree (fds : List Nat) : Nat := lowestFreeFrom fds (fds.sum + 1) 0

theorem lowestFreeFrom_not_mem (fds : List Nat) :
    ∀ k n, n + k ∉ fds → lowestFreeFrom fds k n ∉ fds
  | 0, _, h => h
  | k + 1, n, h => by
    unfold lowestFreeFrom
    split_ifs with hn
    · exact lowestFreeFrom_not_mem fds k (n + 1) (by rwa [Nat.add_right_comm, Nat.add_assoc])
    · exact hn

/-- **`open` never hands out a descriptor that is in use.** -/
theorem lowestFree_not_mem (fds : List Nat) : lowestFree fds ∉ fds :=
  lowestFreeFrom_not_mem fds _ 0 fun h => by
    have := List.le_sum_of_mem h
    omega

/-- `open()`: a new descriptor, or `-1` when the call fails. -/
def sysOpen (fds : List Nat) (ok : Bool) : List Nat × Int :=
  if ok then (lowestFree fds :: fds, lowestFree fds) else (fds, -1)

/-- `close()`: release the descriptor.  A negative one is not in the table. -/
def sysClose (fds : List Nat) (fd : Int) : List Nat :=
  fds.filter fun d => (d : Int) != fd

@[simp] theorem mem_sysClose {fds : List Nat} {fd : Int} {d : Nat} :
    d ∈ sysClose fds fd ↔ d ∈ fds ∧ (d : Int) ≠ fd := by
  simp [sysClose]

/-- Closing a negative descriptor closes nothing. -/
theorem sysClose_of_neg {fds : List Nat} {fd : Int} (h : fd < 0) : sysClose fds fd = fds :=
  List.filter_eq_self.mpr fun d _ => by simp only [bne_iff_ne, ne_eq]; omega

/-- Closing a descriptor just opened gives the table back. -/
theorem sysClose_cons {fds : List Nat} {d : Nat} (hd : d ∉ fds) :
    sysClose (d :: fds) d = fds := by
  simp only [sysClose, List.filter_cons, bne_self_eq_false, Bool.false_eq_true, ↓reduceIte]
  exact List.filter_eq_self.mpr fun e he => by
    have : e ≠ d := fun h => hd (h ▸ he)
    simp only [bne_iff_ne, ne_eq]
    omega

/-! ### `openSerialTTY` -/

/-- The system's answers to the calls `openSerialTTY` makes, each `true` when the
call succeeds.  `openRetry` is the second `open`, a second after the first failed. -/
structure TTYCalls where
  openFirst : Bool
  openRetry : Bool
  flock : Bool
  cfsetispeed : Bool
  cfsetospeed : Bool
  tcsetattr : Bool
  deriving DecidableEq, Repr

/-- The baud rates `openSerialTTY` has a `speed_t` for. -/
def supportedBaudRates : List Int :=
  [300, 600, 1200, 2400, 4800, 9600, 19200, 38400, 57600, 115200]

/-- The configuration after the lock: the baud rate has a `speed_t`, and
`cfsetispeed`, `cfsetospeed` and `tcsetattr` succeed.  Each failure jumps to `err`. -/
def configures (calls : TTYCalls) (baudRate : Int) : Bool :=
  decide (baudRate ∈ supportedBaudRates) && calls.cfsetispeed && calls.cfsetospeed &&
    calls.tcsetattr

/-- The `err:` label: `if (fd > 0) { close(fd); fd = -1; } return fd;` -/
def closeOnErr (fds : List Nat) (fd : Int) : List Nat × Int :=
  if 0 < fd then (sysClose fds fd, -1) else (fds, fd)

/-- The `open` at the top of `openSerialTTY`, tried once more a second later when it
fails. -/
def openRetrying (calls : TTYCalls) (fds : List Nat) : List Nat × Int :=
  let (fds, fd) := sysOpen fds calls.openFirst
  if fd = -1 then sysOpen fds calls.openRetry else (fds, fd)

/-- `openSerialTTY(tty, baud_rate, parity)`: the table afterwards and the result. -/
def openSerialTTY (calls : TTYCalls) (baudRate : Int) (fds : List Nat) : List Nat × Int :=
  let (fds, fd) := openRetrying calls fds
  if fd = -1 then closeOnErr fds fd
  else if !calls.flock then closeOnErr fds (-2)
  else if !configures calls baudRate then closeOnErr fds fd
  else (fds, fd)

/-- Both `open`s failed, or one of them returned the lowest free descriptor. -/
theorem openRetrying_cases (calls : TTYCalls) (fds : List Nat) :
    openRetrying calls fds = (fds, -1) ∨
      openRetrying calls fds = (lowestFree fds :: fds, (lowestFree fds : Int)) := by
  have hne : (lowestFree fds : Int) ≠ -1 := by omega
  cases h1 : calls.openFirst <;> cases h2 : calls.openRetry <;>
    simp [openRetrying, sysOpen, h1, h2, hne]

/-- **What `openSerialTTY` does to the table.**  Either it leaves the table as it
was and returns `-1`, or it opened one new descriptor `d`, which stays open; it
returns `d` unless `flock` failed, and then it returns `-2` and keeps `d` open. -/
theorem openSerialTTY_cases (calls : TTYCalls) (baudRate : Int) (fds : List Nat) :
    openSerialTTY calls baudRate fds = (fds, -1) ∨
      ∃ d, d ∉ fds ∧
        openSerialTTY calls baudRate fds = (d :: fds, if calls.flock then (d : Int) else -2) := by
  rcases openRetrying_cases calls fds with h | h
  · exact .inl (by simp [openSerialTTY, h, closeOnErr])
  have hfree := lowestFree_not_mem fds
  have hne : (lowestFree fds : Int) ≠ -1 := by omega
  simp only [openSerialTTY, h, hne, ↓reduceIte]
  cases calls.flock
  · exact .inr ⟨_, hfree, by simp [closeOnErr]⟩
  · cases configures calls baudRate
    · rcases Nat.eq_zero_or_pos (lowestFree fds) with h0 | hpos
      · exact .inr ⟨_, hfree, by simp [closeOnErr, h0]⟩
      · exact .inl (by simp [closeOnErr, hpos, sysClose_cons hfree])
    · exact .inr ⟨_, hfree, by simp⟩

/-! ### `check_serial8250s` -/

/-- What the system answers for one 8250 port: whether `open` succeeds, whether
`ioctl(TIOCGSERIAL)` succeeds, and whether the type it reports is a known port. -/
structure PortProbe where
  opens : Bool
  ioctlOk : Bool
  portKnown : Bool
  deriving DecidableEq, Repr

/-- `check_serial8250s(found_serials, found_8250s)`: the serial ports found so far
with the real 8250 ports appended, and the table afterwards. -/
def checkSerial8250s : List String → List (String × PortProbe) → List Nat → List String × List Nat
  | found, [], fds => (found, fds)
  | found, (dev, p) :: ports, fds =>
    let (fds, fd) := sysOpen fds p.opens
    if 0 ≤ fd then
      if p.ioctlOk then
        checkSerial8250s (if p.portKnown then found ++ [dev] else found) ports (sysClose fds fd)
      else checkSerial8250s found ports fds
    else checkSerial8250s found ports fds

/-- When every port that opens answers `TIOCGSERIAL`, the scan closes all it opened. -/
theorem checkSerial8250s_fds (found : List String) (ports : List (String × PortProbe))
    (fds : List Nat) (h : ∀ q ∈ ports, q.2.opens = true → q.2.ioctlOk = true) :
    (checkSerial8250s found ports fds).2 = fds := by
  induction ports generalizing found with
  | nil => rfl
  | cons q ports ih =>
    obtain ⟨dev, p⟩ := q
    have hrest := fun q hq => h q (List.mem_cons_of_mem _ hq)
    cases hp : p.opens
    · simp [checkSerial8250s, sysOpen, hp, ih _ hrest]
    · have hok := h _ (List.mem_cons_self _ _) hp
      have h0 : (0 : Int) ≤ lowestFree fds := by omega
      simp only at hok
      simp [checkSerial8250s, sysOpen, hp, hok, h0, sysClose_cons (lowestFree_not_mem fds),
        ih _ hrest]

/-- A port that opens and answers, and one that does not open: the table is kept. -/
theorem checkSerial8250s_fds_two_ports :
    (∀ q ∈ [("/dev/ttyS0", PortProbe.mk true true true), ("/dev/ttyS1", ⟨false, false, false⟩)],
      q.2.opens = true → q.2.ioctlOk = true) ∧
    (checkSerial8250s [] [("/dev/ttyS0", ⟨true, true, true⟩), ("/dev/ttyS1", ⟨false, false, false⟩)]
      [0, 1, 2]).2 = [0, 1, 2] :=
  ⟨by decide, checkSerial8250s_fds _ _ _ (by decide)⟩

end Wmbusmeters
