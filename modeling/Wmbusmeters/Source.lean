import Wmbusmeters.Descriptors

/-
The byte sources of the serial manager: `SerialDeviceImp` and its four kinds.

A source is the record of the fields its functions read.  `fd` is `-2` before the
first `open` and `-1` once closed, and the three predicates the manager sorts
sources by are read off it: `opened`, `working` and `isClosed`.  `working` is the
only one that asks the system something (does the device node still exist, does
`FIONREAD` answer, is the child alive), so it takes a `Probe`: what the system
says at the moment of the call.  Two calls at two moments may get two answers.

`open` and `close` act on the process's descriptor table of `Descriptors.lean`.
The three `close`s differ, and the differences are what the manager's guarantees
turn on:

  * the TTY's and the command's `close` run the `onDisappear` hook, once, unless
    a reset is under way; the file's never runs it (`SerialDeviceFile.close_hook`);
  * the TTY's returns early only on `fd = -1`, so closing a source that was never
    opened runs the hook too, and so does the command's (`close_unopened_hook`);
  * every `close` leaves `fd = -1`, so a closed source is not working.

The TTY's `open` overwrites `fd` with whatever `openSerialTTY` returns.  With
`openSerialTTY_cases` that gives the whole account of its descriptors:
`SerialDeviceTTY.open_close_restores` proves that `close` after `open` gives the
table back when `flock` succeeds and `open` is not called on an open source, and
`openSerialTTY_leaks_descriptor` runs the three paths where a descriptor is lost.
-/

namespace Wmbusmeters

/-- The kind of a `SerialDeviceImp`. -/
inductive SourceKind where
  | tty
  | command
  | file
  | simulator
  deriving DecidableEq, Repr

/-- The fields of a `SerialDeviceImp` that its functions and the manager read.
`device` is what `device()` returns: the TTY's path, the command's identifier or
the file's name (`""` for the simulator).  `onDisappear` says whether the
`on_disappear_` hook is set. -/
structure Source where
  kind : SourceKind
  device : String
  baudRate : Int := 0
  fd : Int := -2
  pid : Int := 0
  resetting : Bool := false
  isFile : Bool := false
  isStdin : Bool := false
  onDisappear : Bool := false
  deriving DecidableEq, Repr

/-- What the system says when a source is probed at one moment:
`checkCharacterDeviceExists` on the TTY's path, whether `ioctl(FIONREAD)` succeeds
and the count it reports, and `stillRunning` on the command's child. -/
structure Probe where
  deviceExists : Bool
  ioctlOk : Bool
  pending : Nat
  childRunning : Bool
  deriving DecidableEq, Repr

namespace Source

/-- `SerialDeviceImp::opened`. -/
def opened (s : Source) : Bool := s.resetting || s.fd != -2

/-- `SerialDeviceImp::isClosed`. -/
def isClosed (s : Source) : Bool := s.fd == -1 && !s.resetting

/-- `readonly()`: `is_stdin_ || is_file_`, which `open` sets on a command, on stdin and
on a file; the simulator's own `readonly()` answers `true`. -/
def readonly (s : Source) : Bool :=
  match s.kind with
  | .simulator => true
  | _ => s.isStdin || s.isFile

/-- `resetInitiated`. -/
def resetInitiated (s : Source) : Source := { s with resetting := true }

/-- `resetCompleted`. -/
def resetCompleted (s : Source) : Source := { s with resetting := false }

/-- `onDisappear(sd, cb)` of the manager: set the hook. -/
def setOnDisappear (s : Source) : Source := { s with onDisappear := true }

end Source

/-! ### `working()`

The three `working()`s that ask the system share their first two lines: a source
being reset works, a closed one does not.  `workingWith` is that shape, with the
kind's own question as a parameter. -/

/-- `if (resetting_) return true; if (fd_ == -1) return false;` then the kind's check. -/
def workingWith (s : Source) (check : Bool) : Bool :=
  if s.resetting then true else if s.fd = -1 then false else check

/-- `SerialDeviceTTY::working`: the device node is still there. -/
def SerialDeviceTTY.working (s : Source) (p : Probe) : Bool :=
  workingWith s p.deviceExists

/-- `SerialDeviceCommand::working`: data is pending, or the child still runs. -/
def SerialDeviceCommand.working (s : Source) (p : Probe) : Bool :=
  workingWith s
    (if !p.ioctlOk then false else if 0 < p.pending then true
      else if s.pid = 0 then false else p.childRunning)

/-- `SerialDeviceFile::working`: the descriptor answers `FIONREAD`. -/
def SerialDeviceFile.working (s : Source) (p : Probe) : Bool :=
  workingWith s (if !p.ioctlOk then false else if 0 < p.pending then true else true)

/-- `working()`, dispatched on the kind; the simulator never works. -/
def Source.working (s : Source) (p : Probe) : Bool :=
  match s.kind with
  | .tty => SerialDeviceTTY.working s p
  | .command => SerialDeviceCommand.working s p
  | .file => SerialDeviceFile.working s p
  | .simulator => false

theorem workingWith_of_fd {s : Source} (hr : s.resetting = false) (hfd : s.fd = -1) (c : Bool) :
    workingWith s c = false := by
  simp [workingWith, hr, hfd]

/-- **A closed source does not work**, whatever the system says. -/
theorem Source.working_of_isClosed {s : Source} (h : s.isClosed = true) (p : Probe) :
    s.working p = false := by
  simp only [Source.isClosed, Bool.and_eq_true, beq_iff_eq, Bool.not_eq_true'] at h
  unfold Source.working SerialDeviceTTY.working SerialDeviceCommand.working
    SerialDeviceFile.working
  split <;> simp only [workingWith_of_fd h.2 h.1]

/-! ### `close()` -/

/-- `SerialDeviceTTY::close`: the table afterwards, and whether the hook ran. -/
def SerialDeviceTTY.close (s : Source) (fds : List Nat) : Source × List Nat × Bool :=
  if s.fd = -1 then (s, fds, false)
  else if s.onDisappear && !s.resetting then
    ({ s with fd := -1, onDisappear := false }, sysClose fds s.fd, true)
  else ({ s with fd := -1 }, sysClose fds s.fd, false)

/-- `SerialDeviceCommand::close`.  The child is stopped when it still runs; the
hook runs before the descriptor is closed. -/
def SerialDeviceCommand.close (s : Source) (fds : List Nat) (p : Probe) :
    Source × List Nat × Bool :=
  if s.pid = 0 ∧ s.fd = -1 then (s, fds, false)
  else
    let pid := if s.pid ≠ 0 ∧ p.childRunning then 0 else s.pid
    if s.onDisappear && !s.resetting then
      ({ s with pid := pid, fd := -1, onDisappear := false }, sysClose fds s.fd, true)
    else ({ s with pid := pid, fd := -1 }, sysClose fds s.fd, false)

/-- `SerialDeviceFile::close`: no hook. -/
def SerialDeviceFile.close (s : Source) (fds : List Nat) : Source × List Nat × Bool :=
  if s.fd = -1 then (s, fds, false) else ({ s with fd := -1 }, sysClose fds s.fd, false)

/-- `close()`, dispatched on the kind; the simulator's does nothing. -/
def Source.close (s : Source) (fds : List Nat) (p : Probe) : Source × List Nat × Bool :=
  match s.kind with
  | .tty => SerialDeviceTTY.close s fds
  | .command => SerialDeviceCommand.close s fds p
  | .file => SerialDeviceFile.close s fds
  | .simulator => (s, fds, false)

/-- The file's `close` never runs the hook, and leaves it set. -/
theorem SerialDeviceFile.close_hook (s : Source) (fds : List Nat) :
    (SerialDeviceFile.close s fds).2.2 = false ∧
      (SerialDeviceFile.close s fds).1.onDisappear = s.onDisappear := by
  unfold SerialDeviceFile.close
  split <;> simp

/-- The TTY's and the command's `close` run the hook on a source that was never
opened, when it is set and no reset is under way. -/
theorem close_unopened_hook (s : Source) (fds : List Nat) (p : Probe)
    (hk : s.kind = .tty ∨ s.kind = .command) (hfd : s.fd = -2) (hook : s.onDisappear = true)
    (hr : s.resetting = false) :
    (s.close fds p).2.2 = true := by
  rcases hk with hk | hk <;>
    simp [Source.close, hk, SerialDeviceTTY.close, SerialDeviceCommand.close, hfd, hook, hr]

/-- **What `close` can do.**  Either nothing, on the simulator or on a source
already closed; or it sets `fd = -1` (the command's may clear `pid` too), releases
the descriptor, and runs the hook or not: only when the hook is set, and it
clears the hook when it runs it. -/
theorem Source.close_cases (s : Source) (fds : List Nat) (p : Probe) :
    (s.close fds p = (s, fds, false) ∧ (s.kind = .simulator ∨ s.fd = -1)) ∨
      ∃ pid fire, (fire = true → s.onDisappear = true) ∧
        s.close fds p = ({ s with pid := pid, fd := -1, onDisappear := s.onDisappear && !fire },
          sysClose fds s.fd, fire) := by
  unfold Source.close
  split
  · unfold SerialDeviceTTY.close
    split_ifs with h₁ h₂
    · exact .inl ⟨rfl, .inr h₁⟩
    · exact .inr ⟨s.pid, true, fun _ => (Bool.and_eq_true _ _ ▸ h₂).1, by simp⟩
    · exact .inr ⟨s.pid, false, by simp, by simp⟩
  · unfold SerialDeviceCommand.close
    by_cases h₁ : s.pid = 0 ∧ s.fd = -1
    · exact .inl ⟨by simp [h₁], .inr h₁.2⟩
    simp only [if_neg h₁]
    by_cases h₂ : (s.onDisappear && !s.resetting) = true
    · refine .inr ⟨if s.pid ≠ 0 ∧ p.childRunning = true then 0 else s.pid, true,
        fun _ => (Bool.and_eq_true _ _ ▸ h₂).1, ?_⟩
      simp [h₂]
    · refine .inr ⟨if s.pid ≠ 0 ∧ p.childRunning = true then 0 else s.pid, false, by simp, ?_⟩
      simp [h₂]
  · unfold SerialDeviceFile.close
    split_ifs with h₁
    · exact .inl ⟨rfl, .inr h₁⟩
    · exact .inr ⟨s.pid, false, by simp, by simp⟩
  · rename_i hk
    exact .inl ⟨rfl, .inl hk⟩

/-- **The hook runs at most once**: `close` runs it only when it is set, and then
clears it.  Counting a set hook as one, what ran and what is left never exceed
what was there. -/
theorem Source.close_hook_le (s : Source) (fds : List Nat) (p : Probe) :
    (if (s.close fds p).2.2 then 1 else 0) + (if (s.close fds p).1.onDisappear then 1 else 0) ≤
      if s.onDisappear then 1 else 0 := by
  rcases s.close_cases fds p with ⟨h, -⟩ | ⟨pid, fire, hfire, h⟩ <;> rw [h]
  · simp
  · cases fire <;> cases hs : s.onDisappear <;> simp_all

/-- `close` leaves `fd = -1`, except on the simulator, and keeps the kind, the name
and the reset flag. -/
theorem Source.close_fd (s : Source) (fds : List Nat) (p : Probe) :
    ((s.close fds p).1.fd = -1 ∨ s.kind = .simulator) ∧ (s.close fds p).1.kind = s.kind ∧
      (s.close fds p).1.device = s.device ∧ (s.close fds p).1.resetting = s.resetting := by
  rcases s.close_cases fds p with ⟨h, hk⟩ | ⟨pid, fire, -, h⟩ <;> rw [h]
  · rcases hk with hk | hk <;> simp [hk]
  · simp

/-! ### `open()` -/

/-- `AccessCheck`. -/
inductive AccessCheck where
  | accessOK
  | notThere
  | notSameGroup
  deriving DecidableEq, Repr

/-- `SerialDeviceTTY::open(fail_if_not_ok)`.  `present` is what
`checkCharacterDeviceExists` answers.  With `fail_if_not_ok`, a failed open ends the
program through `error()`, whose message is the error here. -/
def SerialDeviceTTY.open (s : Source) (failIfNotOk present : Bool) (calls : TTYCalls)
    (fds : List Nat) : Except String (Source × List Nat × AccessCheck) :=
  if !present then .ok (s, fds, .notThere)
  else
    let (fds, fd) := openSerialTTY calls s.baudRate fds
    let s := { s with fd := fd }
    if fd < 0 then
      if failIfNotOk then
        if fd = -1 then
          .error ("Could not open " ++ s.device ++ " with " ++ toString s.baudRate ++
            " baud N81\n")
        else if fd = -2 then .error ("Device " ++ s.device ++ " is already in use and locked.\n")
        else .ok (s, fds, .accessOK)
      else if fd = -1 then .ok (s, fds, .notThere)
      else if fd = -2 then .ok (s, fds, .notSameGroup)
      else .ok (s, fds, .accessOK)
    else .ok (s, fds, .accessOK)

/-- An `open` that returns either changed nothing, or recorded what `openSerialTTY`
returned and took its table. -/
theorem SerialDeviceTTY.open_ok {s s' : Source} {failIfNotOk present : Bool} {calls : TTYCalls}
    {fds fds' : List Nat} {r : AccessCheck}
    (h : SerialDeviceTTY.open s failIfNotOk present calls fds = .ok (s', fds', r)) :
    (s' = s ∧ fds' = fds) ∨
      (s' = { s with fd := (openSerialTTY calls s.baudRate fds).2 } ∧
        fds' = (openSerialTTY calls s.baudRate fds).1) := by
  unfold SerialDeviceTTY.open at h
  cases present
  · cases h
    exact .inl ⟨rfl, rfl⟩
  generalize openSerialTTY calls s.baudRate fds = o at h ⊢
  obtain ⟨fds₁, fd⟩ := o
  simp only [Bool.not_true, Bool.false_eq_true, ↓reduceIte] at h
  split_ifs at h <;> simp only [Except.ok.injEq, Prod.mk.injEq, reduceCtorEq] at h <;>
    obtain ⟨rfl, rfl, -⟩ := h <;> exact .inr ⟨rfl, rfl⟩

/-- `SerialDeviceCommand::open`.  `invokeBackgroundShell` is not among the sources; the
code asserts that it leaves a descriptor in `fd_` whether it succeeds or not, so it
is modelled as opening the pipe's read end and handing back the child's pid. -/
def SerialDeviceCommand.open (s : Source) (ok : Bool) (pid : Int) (fds : List Nat) :
    Source × List Nat × AccessCheck :=
  let fd := lowestFree fds
  let s := { s with fd := fd, pid := pid }
  if !ok then (s, fd :: fds, .notThere) else ({ s with isStdin := true }, fd :: fds, .accessOK)

/-- `SerialDeviceFile::open(fail_if_not_ok)`.  `present` is what `checkFileExists`
answers and `opens` whether `::open` succeeds; `"stdin"` is descriptor 0. -/
def SerialDeviceFile.open (s : Source) (failIfNotOk present opens : Bool) (fds : List Nat) :
    Except String (Source × List Nat × AccessCheck) :=
  if s.device = "stdin" then .ok ({ s with fd := 0, isStdin := true }, fds, .accessOK)
  else if !present then .ok (s, fds, .notThere)
  else
    let (fds, fd) := sysOpen fds opens
    let s := { s with fd := fd }
    if fd = -1 then
      if failIfNotOk then .error ("Could not open file " ++ s.device ++ " for reading.\n")
      else .ok (s, fds, .notThere)
    else .ok ({ s with isFile := true }, fds, .accessOK)

/-- The system's answers to one `open()`: whether the device node or file is there,
the calls of `openSerialTTY`, whether the file's `::open` succeeds, and what
`invokeBackgroundShell` answers with the child's pid. -/
structure OpenAnswer where
  present : Bool
  calls : TTYCalls
  opens : Bool
  shellOk : Bool
  pid : Int
  deriving DecidableEq, Repr

/-- `open(fail_if_not_ok)`, dispatched on the kind; the simulator's always succeeds. -/
def Source.open (s : Source) (failIfNotOk : Bool) (a : OpenAnswer) (fds : List Nat) :
    Except String (Source × List Nat × AccessCheck) :=
  match s.kind with
  | .tty => SerialDeviceTTY.open s failIfNotOk a.present a.calls fds
  | .command => .ok (SerialDeviceCommand.open s a.shellOk a.pid fds)
  | .file => SerialDeviceFile.open s failIfNotOk a.present a.opens fds
  | .simulator => .ok (s, fds, .accessOK)

/-- `open` leaves the kind, the name, the reset flag and the hook as they were. -/
theorem Source.open_keeps {s s' : Source} {failIfNotOk : Bool} {a : OpenAnswer}
    {fds fds' : List Nat} {r : AccessCheck} (h : s.open failIfNotOk a fds = .ok (s', fds', r)) :
    s'.kind = s.kind ∧ s'.device = s.device ∧ s'.resetting = s.resetting ∧
      s'.onDisappear = s.onDisappear := by
  cases hk : s.kind <;> simp only [Source.open, hk] at h
  · rcases SerialDeviceTTY.open_ok h with ⟨rfl, -⟩ | ⟨rfl, -⟩ <;> simp [hk]
  · unfold SerialDeviceCommand.open at h
    split_ifs at h <;> cases h <;> simp [hk]
  · unfold SerialDeviceFile.open at h
    generalize sysOpen fds a.opens = r at h
    obtain ⟨fds₁, fd⟩ := r
    dsimp only at h
    split_ifs at h <;> cases h <;> simp [hk]
  · cases h
    simp [hk]

/-- **Every source but a TTY is read-only once opened**: an `open` that reports
`AccessOK` sets `is_stdin_` on a command and on stdin, and `is_file_` on a file, and the
simulator is read-only whatever it holds. -/
theorem Source.open_readonly {s s' : Source} {failIfNotOk : Bool} {a : OpenAnswer}
    {fds fds' : List Nat} (hk : s.kind ≠ .tty)
    (h : s.open failIfNotOk a fds = .ok (s', fds', .accessOK)) : s'.readonly = true := by
  have hkind := (Source.open_keeps h).1
  cases hks : s.kind with
  | tty => exact absurd hks hk
  | command =>
    simp only [Source.open, hks, SerialDeviceCommand.open] at h
    split_ifs at h <;> cases h
    simp [Source.readonly, hks]
  | file =>
    simp only [Source.open, hks, SerialDeviceFile.open] at h
    generalize sysOpen fds a.opens = r at h
    obtain ⟨fds₁, fd⟩ := r
    dsimp only at h
    split_ifs at h <;> cases h <;> simp [Source.readonly, hks]
  | simulator => simp [Source.readonly, hkind, hks]

/-! ### The TTY's descriptor

`close` after `open` gives the descriptor table back when the source held no
descriptor and `flock` succeeds; `openSerialTTY_leaks_descriptor` runs the paths
where it does not. -/

/-- The table after `SerialDeviceTTY::close`. -/
theorem SerialDeviceTTY.close_fds (s : Source) (fds : List Nat) :
    (SerialDeviceTTY.close s fds).2.1 = if s.fd = -1 then fds else sysClose fds s.fd := by
  unfold SerialDeviceTTY.close
  split_ifs <;> rfl

/-- **`close` after `open` gives the table back**, when the source held no
descriptor and `flock` succeeds. -/
theorem SerialDeviceTTY.open_close_restores {fds fds' : List Nat} {s s' : Source}
    {failIfNotOk present : Bool} {calls : TTYCalls} {r : AccessCheck}
    (hfd : s.fd < 0) (hflock : calls.flock = true)
    (hopen : SerialDeviceTTY.open s failIfNotOk present calls fds = .ok (s', fds', r)) :
    (SerialDeviceTTY.close s' fds').2.1 = fds := by
  rw [SerialDeviceTTY.close_fds]
  rcases SerialDeviceTTY.open_ok hopen with ⟨rfl, rfl⟩ | ⟨rfl, rfl⟩
  · simp [sysClose_of_neg hfd]
  rcases openSerialTTY_cases calls s.baudRate fds with hc | ⟨d, hd, hc⟩ <;>
    simp only [hc, hflock, ↓reduceIte]
  exact sysClose_cons hd

/-- A TTY opened on descriptor 3 and closed again leaves the table as it was. -/
theorem open_close_restores_ttyUSB0 :
    SerialDeviceTTY.open ⟨.tty, "/dev/ttyUSB0", 9600, -2, 0, false, false, false, false⟩ false
        true ⟨true, true, true, true, true, true⟩ [0, 1, 2] =
      .ok (⟨.tty, "/dev/ttyUSB0", 9600, 3, 0, false, false, false, false⟩, [3, 0, 1, 2],
        .accessOK) ∧
    (SerialDeviceTTY.close ⟨.tty, "/dev/ttyUSB0", 9600, 3, 0, false, false, false, false⟩
      [3, 0, 1, 2]).2.1 = [0, 1, 2] :=
  ⟨rfl, @SerialDeviceTTY.open_close_restores [0, 1, 2] _
    ⟨.tty, "/dev/ttyUSB0", 9600, -2, 0, false, false, false, false⟩ _ false true
    ⟨true, true, true, true, true, true⟩ _ (by decide) rfl rfl⟩

/-- **The three paths that lose a descriptor.**  A TTY whose `flock` fails is left
with `fd = -2` while the descriptor `openSerialTTY` opened (3) stays open; a TTY
opened twice records the new descriptor (4) and keeps the old one (3) open; and
`check_serial8250s` keeps the port it opened (3) open when `TIOCGSERIAL` fails. -/
theorem openSerialTTY_leaks_descriptor :
    SerialDeviceTTY.open ⟨.tty, "/dev/ttyUSB0", 9600, -2, 0, false, false, false, false⟩ false
        true ⟨true, true, false, true, true, true⟩ [0, 1, 2] =
      .ok (⟨.tty, "/dev/ttyUSB0", 9600, -2, 0, false, false, false, false⟩, [3, 0, 1, 2],
        .notSameGroup) ∧
    SerialDeviceTTY.open ⟨.tty, "/dev/ttyUSB0", 9600, 3, 0, false, false, false, false⟩ false
        true ⟨true, true, true, true, true, true⟩ [3, 0, 1, 2] =
      .ok (⟨.tty, "/dev/ttyUSB0", 9600, 4, 0, false, false, false, false⟩, [4, 3, 0, 1, 2],
        .accessOK) ∧
    checkSerial8250s [] [("/dev/ttyS0", ⟨true, false, true⟩)] [0, 1, 2] = ([], [3, 0, 1, 2]) :=
  ⟨rfl, rfl, rfl⟩

end Wmbusmeters
