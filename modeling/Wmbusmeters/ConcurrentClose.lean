import Wmbusmeters.Manager

/-
`close()` statement by statement.

None of the three `close()`s takes a lock, and the manager's threads call them on the
same sources: the event loop closes the sources its sweep found not working outside
every lock, while the main thread's `closeAllDoNotRemove` closes every listed source.
The manager's model runs each call as one step (`Source.close`), which is what the
call does when no other call on the same source runs beside it.  Here the calls are
modelled at the level of their statements.  `closeCall_alone` proves that a call run
with no statement of another between its own does what the one-step `Source.close`
does, and `closeSource_alone` that this is the manager's `close` step.

What the one-step model leaves out is two calls on one source side by side.  When the
second call passes the test on `fd_` before the first has set it to -1, both close
the number `fd_` holds, and both find the hook set: the run at the end shows a TTY
whose hook runs twice, and whose second `::close(fd_)` releases the number another
source's `open` was handed in between.  Calls that do not overlap keep the hook to
one run (`twoCloses_serial_hook_le`): the manager's guarantees about the hook and
about descriptors are guarantees about the runs in which the calls on one source do
not overlap.
-/

namespace Wmbusmeters

/-- The statements of a `close()` that read or write what the manager sees. -/
inductive CloseStmt where
  /-- `if (fd_ == -1) return;` -/
  | returnIfClosed
  /-- The command's `if (pid_ == 0 && fd_ == -1) return;` -/
  | returnIfDone
  /-- The command's `if (pid_ && stillRunning(pid_)) { stopBackgroundShell(pid_); pid_ = 0; }` -/
  | stopChild
  /-- `::flock(fd_, LOCK_UN); ::close(fd_);`, on the number `fd_` holds at that moment. -/
  | closeFd
  /-- `fd_ = -1;` -/
  | clearFd
  /-- `if (on_disappear_ && !resetting_)`, and the hook's run when the test holds. -/
  | runHook
  /-- `on_disappear_ = NULL;`, in the branch where the hook ran. -/
  | clearHook
  deriving DecidableEq, Repr

/-- The statements of `close()` of each kind, in order; the simulator's is empty. -/
def closeProgram : SourceKind → List CloseStmt
  | .tty => [.returnIfClosed, .closeFd, .clearFd, .runHook, .clearHook]
  | .command => [.returnIfDone, .stopChild, .runHook, .clearHook, .closeFd, .clearFd]
  | .file => [.returnIfClosed, .closeFd, .clearFd]
  | .simulator => []

/-- A call of `close()` under way: the statements it has left, and whether it took the
hook's branch. -/
structure CloseCall where
  rest : List CloseStmt
  hookTaken : Bool := false
  deriving DecidableEq, Repr

namespace CloseCall

/-- A call that has not run a statement yet. -/
def start (k : SourceKind) : CloseCall := ⟨closeProgram k, false⟩

/-- The call's next statement on source `s` and table `fds`, with `p` what the system
says to `stillRunning`: the source and table after it, the call, and whether the hook
ran.  A call with no statement left does nothing. -/
def step (p : Probe) (s : Source) (fds : List Nat) (c : CloseCall) :
    Source × List Nat × CloseCall × Bool :=
  match c.rest with
  | [] => (s, fds, c, false)
  | .returnIfClosed :: rest =>
    (s, fds, if s.fd = -1 then ⟨[], c.hookTaken⟩ else ⟨rest, c.hookTaken⟩, false)
  | .returnIfDone :: rest =>
    (s, fds, if s.pid = 0 ∧ s.fd = -1 then ⟨[], c.hookTaken⟩ else ⟨rest, c.hookTaken⟩, false)
  | .stopChild :: rest =>
    ({ s with pid := if s.pid ≠ 0 ∧ p.childRunning then 0 else s.pid }, fds, ⟨rest, c.hookTaken⟩,
      false)
  | .closeFd :: rest => (s, sysClose fds s.fd, ⟨rest, c.hookTaken⟩, false)
  | .clearFd :: rest => ({ s with fd := -1 }, fds, ⟨rest, c.hookTaken⟩, false)
  | .runHook :: rest =>
    (s, fds, ⟨rest, s.onDisappear && !s.resetting⟩, s.onDisappear && !s.resetting)
  | .clearHook :: rest =>
    (if c.hookTaken then { s with onDisappear := false } else s, fds, ⟨rest, c.hookTaken⟩, false)

/-- `n` statements of the call with nothing between them: the source, the table, the
call, and how often the hook ran. -/
def run (p : Probe) : Nat → Source → List Nat → CloseCall → Source × List Nat × CloseCall × Nat
  | 0, s, fds, c => (s, fds, c, 0)
  | n + 1, s, fds, c =>
    let (s₁, fds₁, c₁, h) := c.step p s fds
    let (s₂, fds₂, c₂, k) := run p n s₁ fds₁ c₁
    (s₂, fds₂, c₂, (if h then 1 else 0) + k)

end CloseCall

/-- **A call alone is the one-step `close`.**  Run from its first statement to its
last with no statement of another call between them, `close()` leaves the source and
the table as `Source.close` does, runs the hook exactly when it does, and has no
statement left. -/
theorem closeCall_alone (p : Probe) (s : Source) (fds : List Nat) :
    (CloseCall.start s.kind).run p (closeProgram s.kind).length s fds =
      ((s.close fds p).1, (s.close fds p).2.1, ⟨[], (s.close fds p).2.2⟩,
        if (s.close fds p).2.2 then 1 else 0) := by
  cases hk : s.kind with
  | tty =>
    simp only [closeProgram, CloseCall.start, List.length_cons, List.length_nil, Nat.reduceAdd,
      Source.close, hk, SerialDeviceTTY.close]
    by_cases hfd : s.fd = -1
    · simp [CloseCall.run, CloseCall.step, hfd]
    · by_cases hh : (s.onDisappear && !s.resetting) = true <;>
        simp [CloseCall.run, CloseCall.step, hfd, hh, hk]
  | command =>
    simp only [closeProgram, CloseCall.start, List.length_cons, List.length_nil, Nat.reduceAdd,
      Source.close, hk, SerialDeviceCommand.close]
    by_cases hd : s.pid = 0 ∧ s.fd = -1
    · simp [CloseCall.run, CloseCall.step, hd]
    · by_cases hh : (s.onDisappear && !s.resetting) = true <;>
        simp [CloseCall.run, CloseCall.step, hd, hh, hk]
  | file =>
    simp only [closeProgram, CloseCall.start, List.length_cons, List.length_nil, Nat.reduceAdd,
      Source.close, hk, SerialDeviceFile.close]
    by_cases hfd : s.fd = -1 <;> simp [CloseCall.run, CloseCall.step, hfd, hk]
  | simulator => simp [closeProgram, CloseCall.start, CloseCall.run, Source.close, hk]

/-- The manager's `close` step on source `u` is `close()` run alone on it. -/
theorem closeSource_alone (world : Nat → Nat → ProbeSite → Probe) (m : Manager) (u : Nat) :
    let r := (CloseCall.start (m.source u).kind).run (world m.clock u .close)
      (closeProgram (m.source u).kind).length (m.source u) m.fds
    m.closeSource world u = (m.update u r.1 r.2.1, if r.2.2.2 = 1 then [.disappeared u] else []) := by
  simp only [closeCall_alone, Manager.closeSource_eq]
  split_ifs <;> simp_all

/-! ### Two calls side by side -/

/-- Two calls of `close()` on one source, `call true` and `call false`, the process's
table, the number another source's `open` was handed meanwhile, if any, and how
often the hook has run. -/
structure TwoCloses where
  source : Source
  fds : List Nat
  call : Bool → CloseCall
  otherFd : Option Nat := none
  hookRuns : Nat := 0

/-- What moves next: one of the two calls, or another source's `open`, which takes
the lowest free number. -/
inductive TwoClosesMove where
  | call (i : Bool)
  | openOther
  deriving DecidableEq, Repr

namespace TwoCloses

/-- Two calls that have not started, on a source and a table. -/
def init (s : Source) (fds : List Nat) : TwoCloses :=
  ⟨s, fds, fun _ => .start s.kind, none, 0⟩

/-- One move, with `p` what the system says to `stillRunning`. -/
def move (p : Probe) (t : TwoCloses) : TwoClosesMove → TwoCloses
  | .call i =>
    let (s, fds, c, h) := (t.call i).step p t.source t.fds
    { t with source := s, fds := fds, call := Function.update t.call i c,
             hookRuns := t.hookRuns + if h then 1 else 0 }
  | .openOther => { t with fds := lowestFree t.fds :: t.fds, otherFd := some (lowestFree t.fds) }

/-- The moves in order. -/
def run (p : Probe) (t : TwoCloses) (moves : List TwoClosesMove) : TwoCloses :=
  moves.foldl (move p) t

/-- `n` moves of one call, with no other move between them, are that call run alone. -/
theorem run_call (p : Probe) (i : Bool) :
    ∀ (n : Nat) (t : TwoCloses), t.run p (List.replicate n (.call i)) =
      let r := (t.call i).run p n t.source t.fds
      { t with source := r.1, fds := r.2.1, call := Function.update t.call i r.2.2.1,
               hookRuns := t.hookRuns + r.2.2.2 }
  | 0, t => by simp [run, CloseCall.run]
  | n + 1, t => by
    rw [List.replicate_succ, run, List.foldl_cons, ← run, run_call p i n]
    simp only [move, CloseCall.run, Function.update_same, Function.update_idem, Nat.add_assoc]

end TwoCloses

/-- **Calls that do not overlap run the hook at most once.**  When one call of
`close()` runs to its end before the other starts, on any source and table and
whatever the system says, the two run the hook at most once between them, and only
if it was set. -/
theorem twoCloses_serial_hook_le (p : Probe) (s : Source) (fds : List Nat) :
    ((TwoCloses.init s fds).run p (List.replicate (closeProgram s.kind).length (.call true) ++
      List.replicate (closeProgram s.kind).length (.call false))).hookRuns ≤
        if s.onDisappear then 1 else 0 := by
  have hkind := (Source.close_fd s fds p).2.1
  rw [TwoCloses.run, List.foldl_append, ← TwoCloses.run, ← TwoCloses.run, TwoCloses.run_call,
    TwoCloses.run_call]
  simp only [TwoCloses.init, closeCall_alone, Function.update_noteq Bool.false_ne_true]
  simp only [← hkind, closeCall_alone]
  have h₁ := Source.close_hook_le s fds p
  have h₂ := Source.close_hook_le (s.close fds p).1 (s.close fds p).2.1 p
  omega

/-- Two calls on an opened TTY holding descriptor 3, with its hook set.  The second
call passes the test on `fd_` before the first sets it to -1; between their two
`::close(fd_)`s another source's `open` is handed 3, which the second releases; and
both find the hook set, so it runs twice. -/
example :
    let r := (TwoCloses.init ⟨.tty, "/dev/ttyUSB0", 2400, 3, 0, false, false, false, true⟩
      [3, 0, 1, 2]).run ⟨true, true, 0, true⟩
        [.call true, .call false, .call true, .openOther, .call false, .call true, .call true,
          .call false, .call false, .call true, .call false]
    r.hookRuns = 2 ∧ r.otherFd = some 3 ∧ 3 ∉ r.fds := by
  decide

end Wmbusmeters
